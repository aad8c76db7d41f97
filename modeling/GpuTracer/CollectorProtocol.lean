import GpuTracer.Invariant

/-! The calls each collector receives, over any interleaving, against the automaton `SessionPhase`:
mid-session drains, then `Disable`'s calls ending in `Flush`, all to the session's collector. -/

namespace GpuTracer

/-- Spec side: where a session stands in the calls its collector has received. -/
inductive SessionPhase
  /-- No session has called a collector yet, or the last one received `Flush`. -/
  | closed
  /-- Collector `c`'s session, between drains. -/
  | drained (c : Nat)
  /-- A mid-session drain handed collector `c` the callback data; the buffers come next. -/
  | flushing (c : Nat)
  /-- `Disable` set collector `c`'s end time; the callback data comes next. -/
  | ending (c : Nat)
  /-- `Disable` handed over the callback data; the optional calls after it up to `stage` are
  past: 1 the cached buffers, 2 the library's dropped count, 3 the dropped-buffer count. -/
  | stopping (c : Nat) (stage : Nat)
  deriving DecidableEq, Repr

namespace SessionPhase

def start (c : Nat) : CollectorCall → Option SessionPhase
  | .onTracerCollectedCallbackData _ _ => some (.flushing c)
  | .setTracingEndTimeNs _ => some (.ending c)
  | _ => none

/-- `Disable`'s calls after the callback data: each optional one at most once, then `Flush`. -/
def stop (c stage : Nat) : CollectorCall → Option SessionPhase
  | .onTracerCachedActivityBuffers _ => if stage = 0 then some (.stopping c 1) else none
  | .onEventsDropped reason count =>
    if reason = "Activity Event dropped by Cupti Lib:" ∧ stage ≤ 1 ∧ 0 < count then
      some (.stopping c 2)
    else if reason = "Activity Event dropped in dropped buffer:" ∧ stage ≤ 2 ∧ 0 < count then
      some (.stopping c 3)
    else none
  | .flush => some .closed
  | _ => none

def next : SessionPhase → Nat × CollectorCall → Option SessionPhase
  | .closed, (c, call) => start c call
  | .drained c, (c', call) => if c' = c then start c call else none
  | .flushing c, (c', .onTracerCachedActivityBuffers _) =>
    if c' = c then some (.drained c) else none
  | .ending c, (c', .onTracerCollectedCallbackData _ _) =>
    if c' = c then some (.stopping c 0) else none
  | .stopping c stage, (c', call) => if c' = c then stop c stage call else none
  | _, _ => none

def run (ph : SessionPhase) : List (Nat × CollectorCall) → Option SessionPhase
  | [] => some ph
  | x :: xs => (ph.next x).bind fun ph => ph.run xs

theorem run_append (ph : SessionPhase) (xs ys : List (Nat × CollectorCall)) :
    ph.run (xs ++ ys) = (ph.run xs).bind fun ph => ph.run ys := by
  induction xs generalizing ph with
  | nil => rfl
  | cons x xs ih =>
    simp only [List.cons_append, run]
    cases ph.next x <;> simp [ih]

end SessionPhase

namespace World

variable {w : World} {ph : SessionPhase}

theorem run_deliver (h : SessionPhase.closed.run w.delivered = some ph) (c : CuptiTraceCollector)
    (call : CollectorCall) :
    SessionPhase.closed.run (w.deliver c call).delivered = ph.next (c.id, call) := by
  simp [deliver, SessionPhase.run_append, h, SessionPhase.run]

theorem run_deliverCallbackData (h : SessionPhase.closed.run w.delivered = some ph)
    (c : CuptiTraceCollector) :
    ∃ t data req, SessionPhase.closed.run (w.deliverCallbackData c).delivered =
      ph.run [(c.id, .setTracingEndTimeNs t), (c.id, .onTracerCollectedCallbackData data req)] :=
  ⟨_, _, _, by
    simp [deliverCallbackData, deliver, getTimestamp, gatherCallbackAnnotationsAndEvents,
      SessionPhase.run_append, h]
    rfl⟩

theorem run_deliverActivityData {c : CuptiTraceCollector}
    (h : SessionPhase.closed.run w.delivered = some (.stopping c.id 0)) :
    SessionPhase.closed.run (w.deliverActivityData c).delivered = some .closed := by
  unfold deliverActivityData
  rcases hb : w.tracer.activityBuffers with _ | m <;>
  · by_cases h₁ : 0 < w.tracer.cuptiDroppedActivityEventCount <;>
    by_cases h₂ : 0 < w.tracer.numActivityEventsInDroppedBuffer <;>
    simp only [deliver, setTracer, h₁, h₂, ↓reduceIte, List.append_assoc, List.singleton_append,
      List.cons_append, SessionPhase.run_append, h, SessionPhase.run, SessionPhase.next,
      SessionPhase.stop, Option.bind_some, Option.some_bind, Nat.zero_le, and_self, String.reduceEq,
      Nat.reduceLeDiff, and_true, le_refl]

end World

namespace Sys

variable {s s' : Sys}

/-- The collector's phase against the controller's point. -/
def PhaseMatches (s : Sys) (ph : SessionPhase) : Prop :=
  match s.controller with
  | .idle => ph = .closed ∨ ∃ c, ph = .drained c.id ∧ s.world.tracer.collector = some c ∧
      s.world.tracer.apiTracingEnabled = true
  | .flushDeliverCallbackData c _ =>
    (ph = .closed ∨ ph = .drained c.id) ∧ s.world.tracer.collector = some c
  | .flushDeliverActivityBuffers c _ => ph = .flushing c.id ∧ s.world.tracer.collector = some c
  | .disableDeliverCallbackData c => ph = .closed ∨ ph = .drained c.id
  | .disableDeliverActivityData c => ph = .stopping c.id 0
  | .disableRelease => ph = .closed

def FollowsProtocol (s : Sys) : Prop :=
  ∃ ph, SessionPhase.closed.run s.world.delivered = some ph ∧ s.PhaseMatches ph

theorem followsProtocol_init (numGpus kBufferSizeInBytes threads : Nat) (cupti : CuptiInterface) :
    (init numGpus kBufferSizeInBytes threads cupti).FollowsProtocol :=
  ⟨.closed, rfl, .inl rfl⟩

/-- A step that leaves the controller, the collector calls, the collector and the API flag. -/
structure Quiet (s s' : Sys) : Prop where
  controller : s'.controller = s.controller
  delivered : s'.world.delivered = s.world.delivered
  collector : s'.world.tracer.collector = s.world.tracer.collector
  api : s'.world.tracer.apiTracingEnabled = s.world.tracer.apiTracingEnabled

theorem Quiet.refl (s : Sys) : Quiet s s := ⟨rfl, rfl, rfl, rfl⟩

theorem FollowsProtocol.quiet (hf : s.FollowsProtocol) (hq : Quiet s s') : s'.FollowsProtocol := by
  obtain ⟨ph, hrun, hm⟩ := hf
  refine ⟨ph, hq.delivered ▸ hrun, ?_⟩
  unfold PhaseMatches at hm ⊢
  rw [hq.controller, hq.collector, hq.api]
  exact hm

/-- A producer's step: of the tracer only the callback count and the hook change. -/
structure ProducerStep (s s' : Sys) : Prop where
  controller : s'.controller = s.controller
  delivered : s'.world.delivered = s.world.delivered
  lent : s'.world.lent = s.world.lent
  tracer : ∃ n hook, s'.world.tracer =
    { s.world.tracer with numCallbackEvents := n, cuptiDriverApiHook := hook }
  hook : s'.world.tracer.cuptiDriverApiHook.isSome = s.world.tracer.cuptiDriverApiHook.isSome

theorem ProducerStep.refl (s : Sys) : ProducerStep s s := ⟨rfl, rfl, rfl, ⟨_, _, rfl⟩, rfl⟩

theorem ProducerStep.quiet (h : ProducerStep s s') : Quiet s s' := by
  obtain ⟨hc, hd, -, ⟨n, hook, ht⟩, -⟩ := h
  exact ⟨hc, hd, by rw [ht], by rw [ht]⟩

theorem producerStep_arrive {i : Nat} {stack : AnnotationStack} {cb : VendorCallback}
    (h : s.arrive i stack cb = .ok s') : ProducerStep s s' := by
  unfold arrive at h
  split at h
  · cases h; exact .refl s
  split at h
  · cases h; exact .refl s
  split at h <;> cases h <;> exact ⟨rfl, rfl, rfl, ⟨_, _, rfl⟩, rfl⟩

theorem producerStep_dispatch {i : Nat} (h : s.dispatch i = .ok s') : ProducerStep s s' := by
  unfold dispatch at h
  split at h
  · split at h
    · cases h; exact ⟨rfl, rfl, rfl, ⟨_, _, rfl⟩, rfl⟩
    · split at h
      · cases h; exact ⟨rfl, rfl, rfl, ⟨_, _, rfl⟩, rfl⟩
      · split at h
        · cases h; exact ⟨rfl, rfl, rfl, ⟨_, _, rfl⟩, rfl⟩
        · split at h
          · cases h
          · rename_i hook hh
            simp only at h
            split at h <;> cases h <;> exact ⟨rfl, rfl, rfl, ⟨_, _, rfl⟩, by rw [hh]; rfl⟩
    · cases h; exact ⟨rfl, rfl, rfl, ⟨_, _, rfl⟩, rfl⟩
  · cases h; exact .refl s

theorem producerStep_record {i : Nat} (h : s.record i = .ok s') : ProducerStep s s' := by
  cases hp : s.producer i
  case admitted =>
    obtain ⟨_, _, -, -, rfl⟩ := record_eq hp h
    exact ⟨rfl, rfl, rfl, ⟨_, _, rfl⟩, rfl⟩
  all_goals
    simp only [record, hp] at h
    cases h
    exact .refl s

theorem quiet_requestActivityBuffer :
    Quiet s { s with world := s.world.requestActivityBuffer } := by
  obtain ⟨m, hm, -⟩ := World.requestActivityBuffer_tracer (w := s.world)
  exact ⟨rfl, (World.requestActivityBuffer_frame s.world).delivered, by rw [hm], by rw [hm]⟩

theorem quiet_processActivityBuffer {b : ActivityBuffer} {size : Nat} {a : ActivityAnswers}
    (h : s.processActivityBuffer b size a = .ok s') : Quiet s s' := by
  unfold processActivityBuffer at h
  split at h
  · obtain ⟨r, hr, rfl⟩ := map_eq_ok.mp h
    obtain ⟨d, d', n, m, hm, -⟩ := World.processActivityBuffer_tracer hr
    exact ⟨rfl, (World.processActivityBuffer_frame hr).delivered, by rw [hm], by rw [hm]⟩
  · cases h; exact .refl s

theorem quiet_setActivityFlushPeriod : Quiet s s.setActivityFlushPeriod := by
  unfold setActivityFlushPeriod
  split
  · exact ⟨rfl, (World.setActivityFlushPeriod_frame s.world).delivered, by simp, by simp⟩
  · exact .refl s

theorem followsProtocol_enable {o : CuptiTracerOptions} {c : CuptiTraceCollector}
    (hf : s.FollowsProtocol) (h : s.enable o c = .ok s') : s'.FollowsProtocol := by
  unfold enable at h
  split at h
  · rename_i hg
    obtain ⟨r, hr, rfl⟩ := map_eq_ok.mp h
    simp only [Bool.and_eq_true, CuptiTracer.isAvailable, Bool.not_eq_true'] at hg
    obtain ⟨hidle, ⟨⟨-, -⟩, hapi⟩, -⟩ := hg
    have hc := controller_eq_idle (s := s) (by simp [hidle])
    obtain ⟨ph, hrun, hm⟩ := hf
    simp only [PhaseMatches, hc] at hm
    have hph : ph = .closed := by
      rcases hm with hm | ⟨_, -, -, ha⟩
      · exact hm
      · simp [hapi] at ha
    refine ⟨ph, by rw [(World.enable_frame hapi hr).2]; exact hrun, ?_⟩
    simp only [PhaseMatches, hc]
    exact .inl hph
  · cases h; exact hf

theorem followsProtocol_disable (hf : s.FollowsProtocol) (h : s.disable = .ok s') :
    s'.FollowsProtocol := by
  unfold disable at h
  split at h
  · cases h; exact hf
  rename_i hidle
  have hc := controller_eq_idle hidle
  obtain ⟨w, hw, h⟩ := bind_eq_ok.mp h
  split at h
  · cases h
  rename_i c hcol
  cases h
  obtain ⟨ph, hrun, hm⟩ := hf
  obtain ⟨act, o, htr⟩ := World.shutDown_tracer hw
  have hcol' : s.world.tracer.collector = some c := by rw [← hcol, htr]
  refine ⟨ph, by rw [(World.shutDown_frame hw).delivered]; exact hrun, ?_⟩
  simp only [PhaseMatches, hc] at hm
  simp only [PhaseMatches]
  rcases hm with hm | ⟨c', hph, hc', -⟩
  · exact .inl hm
  · rw [hcol', Option.some.injEq] at hc'
    exact .inr (hc' ▸ hph)

theorem followsProtocol_flushEventsToCollector (hf : s.FollowsProtocol)
    (h : s.flushEventsToCollector = .ok s') : s'.FollowsProtocol := by
  unfold flushEventsToCollector at h
  split at h
  · cases h; exact hf
  rename_i hidle
  have hc := controller_eq_idle hidle
  split at h
  · cases h; exact hf
  obtain ⟨r, hr, h⟩ := bind_eq_ok.mp h
  split at h
  · cases h
  rename_i c hcol
  cases h
  obtain ⟨ph, hrun, hm⟩ := hf
  obtain ⟨m, hm', -⟩ := World.popCachedActivityBuffers_tracer hr
  have hcol' : s.world.tracer.collector = some c := by rw [← hcol, hm']
  refine ⟨ph, by rw [(World.popCachedActivityBuffers_frame hr).delivered]; exact hrun, ?_⟩
  simp only [PhaseMatches, hc] at hm
  simp only [PhaseMatches]
  refine ⟨?_, hcol⟩
  rcases hm with hm | ⟨c', hph, hc', -⟩
  · exact .inl hm
  · rw [hcol', Option.some.injEq] at hc'
    exact .inr (hc' ▸ hph)

theorem followsProtocol_resume (hi : s.Inv) (hf : s.FollowsProtocol) : s.resume.FollowsProtocol := by
  obtain ⟨ph, hrun, hm⟩ := hf
  unfold resume
  split
  · exact ⟨ph, hrun, hm⟩
  · rename_i c hc
    simp only [PhaseMatches, hc] at hm
    obtain ⟨t, data, req, hd⟩ := World.run_deliverCallbackData hrun c
    refine ⟨.stopping c.id 0, ?_, rfl⟩
    rw [hd]
    rcases hm with rfl | rfl <;> simp [SessionPhase.run, SessionPhase.next, SessionPhase.start]
  · rename_i c hc
    simp only [PhaseMatches, hc] at hm
    exact ⟨_, World.run_deliverActivityData (hm ▸ hrun), rfl⟩
  · rename_i hc
    simp only [PhaseMatches, hc] at hm
    exact ⟨ph, hrun, .inl hm⟩
  · rename_i c cached hc
    simp only [PhaseMatches, hc] at hm
    have hapi := hi.flush_api c cached (.inl hc)
    refine ⟨.flushing c.id, ?_, rfl, by simpa using hm.2⟩
    simp only [World.deliverFlushedCallbackData, hapi, if_true]
    rw [World.run_deliver (w := s.world.gatherCallbackAnnotationsAndEvents.2) hrun]
    rcases hm.1 with rfl | rfl <;> simp [SessionPhase.next, SessionPhase.start]
  · rename_i c cached hc
    simp only [PhaseMatches, hc] at hm
    have hapi := hi.flush_api c cached (.inr hc)
    refine ⟨.drained c.id, ?_, .inr ⟨c, rfl, hm.2, hapi⟩⟩
    rw [World.run_deliver hrun, hm.1]
    simp [SessionPhase.next]

theorem FollowsProtocol.step {a : Action} (hi : s.Inv) (hf : s.FollowsProtocol)
    (h : s.step a = .ok s') : s'.FollowsProtocol := by
  obtain ⟨s₁, h₁, rfl⟩ := map_eq_ok.mp h
  suffices hs₁ : s₁.FollowsProtocol from hs₁.quiet ⟨rfl, rfl, rfl, rfl⟩
  cases a with
  | arrive => exact hf.quiet (producerStep_arrive h₁).quiet
  | dispatch => exact hf.quiet (producerStep_dispatch h₁).quiet
  | record => exact hf.quiet (producerStep_record h₁).quiet
  | enable => exact followsProtocol_enable hf h₁
  | disable => exact followsProtocol_disable hf h₁
  | flushEventsToCollector => exact followsProtocol_flushEventsToCollector hf h₁
  | resume => cases h₁; exact followsProtocol_resume hi hf
  | setActivityFlushPeriod => cases h₁; exact hf.quiet quiet_setActivityFlushPeriod
  | requestActivityBuffer => cases h₁; exact hf.quiet quiet_requestActivityBuffer
  | processActivityBuffer => exact hf.quiet (quiet_processActivityBuffer h₁)

theorem FollowsProtocol.run {as : List Action} (hi : s.Inv) (hf : s.FollowsProtocol)
    (h : s.run as = .ok s') : s'.FollowsProtocol := by
  induction as generalizing s with
  | nil => cases h; exact hf
  | cons a as ih =>
    obtain ⟨s₁, h₁, h⟩ := bind_eq_ok.mp h
    exact ih (hi.step h₁) (hf.step hi h₁) h

/-- Under any interleaving, the calls on the collectors follow each session's protocol. -/
theorem collector_calls_follow_session_protocol (numGpus kBufferSizeInBytes threads : Nat)
    (cupti : CuptiInterface) (as : List Action) (s : Sys)
    (h : (init numGpus kBufferSizeInBytes threads cupti).run as = .ok s) :
    ∃ ph, SessionPhase.closed.run s.world.delivered = some ph ∧
      (s.controller = .idle →
        ph = .closed ∨ ∃ c, ph = .drained c.id ∧ s.world.tracer.collector = some c) := by
  obtain ⟨ph, hrun, hm⟩ :=
    (followsProtocol_init numGpus kBufferSizeInBytes threads cupti).run (inv_init ..) h
  refine ⟨ph, hrun, fun hc => ?_⟩
  simp only [PhaseMatches, hc] at hm
  rcases hm with hm | ⟨c, hph, hcol, -⟩
  exacts [.inl hm, .inr ⟨c, hph, hcol⟩]

theorem flush_then_disable_closes_session :
    ∃ s, (init 1 64 1 .healthy).run
        [.enable {} ⟨0, {}⟩, .flushEventsToCollector, .resume, .resume,
         .disable, .resume, .resume, .resume] = .ok s ∧
      s.world.delivered.length = 6 ∧ SessionPhase.closed.run s.world.delivered = some .closed ∧
      ∃ ph, SessionPhase.closed.run s.world.delivered = some ph ∧
        (s.controller = .idle →
          ph = .closed ∨ ∃ c, ph = .drained c.id ∧ s.world.tracer.collector = some c) :=
  ⟨_, rfl, rfl, rfl, collector_calls_follow_session_protocol 1 64 1 .healthy
    [.enable {} ⟨0, {}⟩, .flushEventsToCollector, .resume, .resume,
     .disable, .resume, .resume, .resume] _ rfl⟩

end Sys

end GpuTracer
