import GpuTracer.Races

/-! What holds at every state the interleaved system reaches: `Inv`, kept by each action and carried
over every run by `Inv.run`. -/

namespace GpuTracer

theorem ProducerPc.isAdmitted_of_isIdle {p : ProducerPc} (h : p.isIdle = true) :
    p.isAdmitted = false := by
  cases p <;> first | rfl | cases h

theorem update_append_apply {α : Type} (f : Nat → List α) (i j : Nat) (l : List α) :
    Function.update f i (f i ++ l) j = f j ++ if j = i then l else [] := by
  by_cases hij : j = i
  · subst hij
    rw [Function.update_same, if_pos rfl]
  · rw [Function.update_noteq hij, if_neg hij, List.append_nil]

theorem mem_update_append_map {α : Type} {f : Nat → List Nat} {l : List α} {i j c t : Nat}
    (h : t ∈ Function.update f i (f i ++ l.map fun _ => c) j) : t ∈ f j ∨ t = c := by
  by_cases hij : j = i
  · subst hij
    rw [Function.update_same, List.mem_append, List.mem_map] at h
    exact h.imp_right fun ⟨_, _, h⟩ => h.symm
  · rw [Function.update_noteq hij] at h
    exact .inl h

namespace Sys

def admitted (s : Sys) : Nat := s.producers.countP (·.isAdmitted)

theorem producer_eq_getElem {s : Sys} {i : Nat} (hi : i < s.producers.length) :
    s.producer i = s.producers[i] := by
  simp only [producer, List.getElem?_eq_getElem hi, Option.getD_some]

theorem lt_length_of_producer {s : Sys} {i : Nat} (h : (s.producer i).isIdle = false) :
    i < s.producers.length := by
  by_contra hn
  rw [producer, List.getElem?_eq_none (Nat.le_of_not_lt hn)] at h
  cases h

theorem admitted_setProducer {s : Sys} {i : Nat} (hi : i < s.producers.length) (p : ProducerPc) :
    (s.setProducer i p).admitted =
      s.admitted - (if (s.producer i).isAdmitted then 1 else 0) + if p.isAdmitted then 1 else 0 := by
  rw [producer_eq_getElem hi]
  exact List.countP_set _ _ _ _ hi

theorem admitted_le_length (s : Sys) : s.admitted ≤ s.producers.length := List.countP_le_length _

theorem admitted_pos {s : Sys} {i : Nat} (hi : i < s.producers.length)
    (h : (s.producer i).isAdmitted = true) : 0 < s.admitted :=
  List.countP_pos_iff.mpr ⟨_, List.getElem_mem hi, producer_eq_getElem hi ▸ h⟩

/-- What holds at each point of the controller, in particular before each hand-over of buffers. -/
def PhaseInv (s : Sys) : ControllerPc → Prop
  | .idle => s.world.tracer.apiTracingEnabled = false → s.world.tracer.activityBuffers = none
  | .disableDeliverCallbackData _ => True
  | .disableDeliverActivityData _ => s.world.tracer.activityTracingEnabled = false →
      ∀ t ∈ s.cacheTimes, ∀ i, ∀ t' ∈ s.pushTimes i, t < t'
  | .disableRelease => s.world.tracer.activityBuffers = none
  | .flushDeliverCallbackData _ cached =>
      s.world.tracer.apiTracingEnabled = true ∧ s.poppedTimes.length = cached.length
  | .flushDeliverActivityBuffers _ cached =>
      s.world.tracer.apiTracingEnabled = true ∧ s.poppedTimes.length = cached.length ∧
        ∀ t ∈ s.poppedTimes, ∀ i, ∀ t' ∈ s.pushTimes i, t < t'

/-- What holds at every reachable state. -/
structure Inv (s : Sys) : Prop where
  length : s.producers.length = s.world.threads.length
  accounted : ∀ i, (s.world.deliveredEvents i ++ s.cleared i ++ s.world.queue i).Perm (s.pushed i)
  cleared_late : ∀ i, (s.cleared i).Subperm (s.latePushed i)
  queue_late : s.world.tracer.apiTracingEnabled = false →
    (∀ c, s.controller ≠ .disableDeliverCallbackData c) →
    ∀ i, (s.world.queue i ++ s.cleared i).Subperm (s.latePushed i)
  budget : ∀ c, s.world.tracer.collector = some c → 0 < c.options.maxCallbackApiEvents →
    s.world.tracer.numCallbackEvents + s.admitted ≤
      c.options.maxCallbackApiEvents - 1 + s.producers.length
  pushTimes_length : ∀ i, (s.pushTimes i).length = (s.world.queue i).length
  cacheTimes_length : s.cacheTimes.length = s.world.cachedBuffers.length
  cacheTimes_lt : ∀ t ∈ s.cacheTimes, t < s.clock
  poppedTimes_lt : ∀ t ∈ s.poppedTimes, t < s.clock
  phase : s.PhaseInv s.controller

theorem inv_init (numGpus kBufferSizeInBytes threads : Nat) (cupti : CuptiInterface) :
    (init numGpus kBufferSizeInBytes threads cupti).Inv where
  length := by simp [init, World.init]
  accounted i := by
    simp only [init, World.init, World.deliveredEvents, World.queue, World.thread,
      List.getElem?_replicate]
    split <;> rfl
  cleared_late _ := List.nil_subperm
  queue_late _ _ i := by
    simp only [init, World.init, World.queue, World.thread, List.getElem?_replicate]
    split <;> exact List.nil_subperm
  budget _ h := by cases h
  pushTimes_length i := by
    simp only [init, World.init, World.queue, World.thread, List.getElem?_replicate]
    split <;> rfl
  cacheTimes_length := rfl
  cacheTimes_lt _ h := by cases h
  poppedTimes_lt _ h := by cases h
  phase _ := rfl

variable {s s' : Sys}

theorem Inv.idle_buffers (hi : s.Inv) (hc : s.controller = .idle)
    (ha : s.world.tracer.apiTracingEnabled = false) : s.world.tracer.activityBuffers = none := by
  have h := hi.phase
  rw [hc] at h
  exact h ha

theorem Inv.release_buffers (hi : s.Inv) (hc : s.controller = .disableRelease) :
    s.world.tracer.activityBuffers = none := by
  have h := hi.phase
  rw [hc] at h
  exact h

theorem Inv.flush_api (hi : s.Inv) (c : CuptiTraceCollector) (cached : List (ActivityBuffer × Nat))
    (hc : s.controller = .flushDeliverCallbackData c cached ∨
      s.controller = .flushDeliverActivityBuffers c cached) :
    s.world.tracer.apiTracingEnabled = true := by
  have h := hi.phase
  rcases hc with hc | hc <;> rw [hc] at h
  exacts [h.1, h.1]

theorem Inv.poppedTimes_length (hi : s.Inv) (c : CuptiTraceCollector)
    (cached : List (ActivityBuffer × Nat))
    (hc : s.controller = .flushDeliverCallbackData c cached ∨
      s.controller = .flushDeliverActivityBuffers c cached) :
    s.poppedTimes.length = cached.length := by
  have h := hi.phase
  rcases hc with hc | hc <;> rw [hc] at h
  exacts [h.2, h.2.1]

theorem Inv.flush_order (hi : s.Inv) (c : CuptiTraceCollector) (cached : List (ActivityBuffer × Nat))
    (hc : s.controller = .flushDeliverActivityBuffers c cached) :
    ∀ t ∈ s.poppedTimes, ∀ i, ∀ t' ∈ s.pushTimes i, t < t' := by
  have h := hi.phase
  rw [hc] at h
  exact h.2.2

theorem Inv.disable_order (hi : s.Inv) (c : CuptiTraceCollector)
    (hc : s.controller = .disableDeliverActivityData c)
    (ha : s.world.tracer.activityTracingEnabled = false) :
    ∀ t ∈ s.cacheTimes, ∀ i, ∀ t' ∈ s.pushTimes i, t < t' := by
  have h := hi.phase
  rw [hc] at h
  exact h ha

theorem Inv.tick (hi : s.Inv) : s.tick.Inv :=
  { hi with
    cacheTimes_lt := fun t ht => Nat.lt_succ_of_lt (hi.cacheTimes_lt t ht)
    poppedTimes_lt := fun t ht => Nat.lt_succ_of_lt (hi.poppedTimes_lt t ht) }

theorem Inv.setProducer {i : Nat} {p : ProducerPc} (hi : s.Inv) (hlt : i < s.producers.length)
    (hp : (s.producer i).isAdmitted = false)
    (hroom : p.isAdmitted = true → s.world.tracer.tooManyCallbackEvents = false) :
    (s.setProducer i p).Inv :=
  { hi with
    length := (List.length_set ..).trans hi.length
    budget := fun c hc hm => by
      show _ + (s.setProducer i p).admitted ≤ _ - 1 + (s.producers.set i p).length
      have hle : (s.setProducer i p).admitted ≤ (s.producers.set i p).length := admitted_le_length _
      rw [admitted_setProducer hlt, hp, List.length_set] at hle ⊢
      cases hadm : p.isAdmitted
      · simpa using hi.budget c hc hm
      · have hfew := hroom hadm
        rw [CuptiTracer.tooManyCallbackEvents, show s.world.tracer.collector = some c from hc] at hfew
        simp only [hm, decide_True, Bool.true_and, decide_eq_false_iff_not, not_le] at hfew
        simp only [hadm, Bool.false_eq_true, if_false, if_true, Nat.sub_zero] at hle ⊢
        show s.world.tracer.numCallbackEvents + _ ≤ _
        omega }

theorem Inv.accounted_of_sameEvents {w : World} (hi : s.Inv) (hev : s.world.SameEvents w)
    (i : Nat) : (w.deliveredEvents i ++ s.cleared i ++ w.queue i).Perm (s.pushed i) := by
  rw [hev.queue, hev.deliveredEvents]
  exact hi.accounted i

theorem Inv.budget_of_tracer {w : World} (hi : s.Inv)
    (hcoll : w.tracer.collector = s.world.tracer.collector)
    (hcount : w.tracer.numCallbackEvents = s.world.tracer.numCallbackEvents) :
    ∀ c, w.tracer.collector = some c → 0 < c.options.maxCallbackApiEvents →
      w.tracer.numCallbackEvents + s.admitted ≤ c.options.maxCallbackApiEvents - 1 + s.producers.length :=
  fun c hc hm => hcount ▸ hi.budget c (hcoll ▸ hc) hm

theorem Inv.of_world {w : World} {ct : List Nat} (hi : s.Inv) (hev : s.world.SameEvents w)
    (htracer : w.tracer.apiTracingEnabled = s.world.tracer.apiTracingEnabled ∧
      w.tracer.activityTracingEnabled = s.world.tracer.activityTracingEnabled ∧
      w.tracer.collector = s.world.tracer.collector ∧
      w.tracer.numCallbackEvents = s.world.tracer.numCallbackEvents)
    (hbuffers : w.tracer.activityBuffers.isSome = s.world.tracer.activityBuffers.isSome)
    (hct : ct.length = w.cachedBuffers.length)
    (hnew : ∀ t ∈ ct, t ∈ s.cacheTimes ∨ t = s.clock ∧ w.tracer.activityTracingEnabled = true) :
    ({ s with world := w, cacheTimes := ct } : Sys).tick.Inv := by
  obtain ⟨hapi, hact, hcoll, hcount⟩ := htracer
  have hnone : s.world.tracer.activityBuffers = none → w.tracer.activityBuffers = none := by
    intro h; simpa [h] using hbuffers
  have hphase : PhaseInv { s with world := w, cacheTimes := ct } s.controller := by
    have h := hi.phase
    cases hc : s.controller <;> rw [hc] at h
    case idle => exact fun ha => hnone (h (hapi.symm.trans ha))
    case disableDeliverCallbackData => trivial
    case disableDeliverActivityData =>
      exact fun ha t ht => (hnew t ht).elim (h (hact.symm.trans ha) t) fun ⟨_, ha'⟩ =>
        absurd (ha.symm.trans ha') Bool.false_ne_true
    case disableRelease => exact hnone h
    case flushDeliverCallbackData => exact ⟨hapi.trans h.1, h.2⟩
    case flushDeliverActivityBuffers => exact ⟨hapi.trans h.1, h.2⟩
  exact
    { length := hi.length.trans hev.length.symm
      accounted := hi.accounted_of_sameEvents hev
      cleared_late := hi.cleared_late
      queue_late := fun ha hc i => (hev.queue i).symm ▸ hi.queue_late (hapi ▸ ha) hc i
      budget := hi.budget_of_tracer hcoll hcount
      pushTimes_length := fun i => (hev.queue i).symm ▸ hi.pushTimes_length i
      cacheTimes_length := hct
      cacheTimes_lt := fun t ht => by
        rcases hnew t ht with ht | ⟨rfl, -⟩
        · exact Nat.lt_succ_of_lt (hi.cacheTimes_lt t ht)
        · exact Nat.lt_succ_self _
      poppedTimes_lt := fun t ht => Nat.lt_succ_of_lt (hi.poppedTimes_lt t ht)
      phase := hphase }

theorem inv_setActivityFlushPeriod (hi : s.Inv) : s.setActivityFlushPeriod.tick.Inv := by
  unfold setActivityFlushPeriod
  split
  · have hf := s.world.setActivityFlushPeriod_frame
    have ht : s.world.setActivityFlushPeriod.2.tracer = s.world.tracer :=
      World.setActivityFlushPeriod_tracer
    exact hi.of_world hf.sameEvents (by rw [ht]; exact ⟨rfl, rfl, rfl, rfl⟩) (by rw [ht])
      (by rw [hi.cacheTimes_length]; exact congrArg List.length (World.cachedBuffers_eq (by rw [ht])).symm)
      fun t ht => .inl ht
  · exact hi.tick

theorem inv_requestActivityBuffer (hi : s.Inv) :
    ({ s with world := s.world.requestActivityBuffer } : Sys).tick.Inv := by
  obtain ⟨m, hm, hs⟩ := @World.requestActivityBuffer_tracer s.world
  have hf := s.world.requestActivityBuffer_frame
  exact hi.of_world hf.sameEvents (by rw [hm]; exact ⟨rfl, rfl, rfl, rfl⟩) (by rw [hm]; exact hs)
    (by rw [World.requestActivityBuffer_cachedBuffers]; exact hi.cacheTimes_length) fun t ht => .inl ht

theorem inv_processActivityBuffer {b : ActivityBuffer} {size : Nat} {a : ActivityAnswers}
    (hi : s.Inv) (h : s.processActivityBuffer b size a = .ok s') : s'.tick.Inv := by
  unfold processActivityBuffer at h
  split at h
  · obtain ⟨r, hr, rfl⟩ := map_eq_ok.mp h
    obtain ⟨d, d', n, m, ht, hsome, -⟩ := World.processActivityBuffer_tracer hr
    have hf := World.processActivityBuffer_frame hr
    apply hi.of_world hf.sameEvents (by rw [ht]; exact ⟨rfl, rfl, rfl, rfl⟩)
      (by rw [ht]; simpa using hsome)
    · rcases World.processActivityBuffer_cached hr with hc | ⟨-, hc⟩ <;>
        simp [hc, hi.cacheTimes_length]
    · intro t ht'
      rcases World.processActivityBuffer_cached hr with hc | ⟨hact, hc⟩
      · simp only [hc, if_true, List.length_append] at ht'
        exact .inl ht'
      · simp only [hc, List.length_append, List.length_singleton, Nat.succ_ne_self, if_false,
          List.mem_append, List.mem_singleton] at ht'
        rcases ht' with ht' | rfl
        · exact .inl ht'
        · exact .inr ⟨rfl, by rw [ht]; exact hact⟩
  · cases h; exact hi.tick

theorem inv_disable (hi : s.Inv) (h : s.disable = .ok s') : s'.tick.Inv := by
  unfold disable at h
  split at h
  · cases h; exact hi.tick
  obtain ⟨w, hw, h⟩ := bind_eq_ok.mp h
  split at h
  · cases h
  rename_i c hc
  cases h
  obtain ⟨act, o, ht⟩ := World.shutDown_tracer hw
  have hf := World.shutDown_frame hw
  refine Inv.tick
    { length := hf.threads ▸ hi.length
      accounted := hi.accounted_of_sameEvents hf.sameEvents
      cleared_late := hi.cleared_late
      queue_late := fun _ hc => (hc c rfl).elim
      budget := hi.budget_of_tracer (by rw [ht]) (by rw [ht])
      pushTimes_length := fun i => hf.queue ▸ hi.pushTimes_length i
      cacheTimes_length := World.shutDown_cachedBuffers hw ▸ hi.cacheTimes_length
      cacheTimes_lt := hi.cacheTimes_lt
      poppedTimes_lt := hi.poppedTimes_lt
      phase := trivial }

theorem controller_eq_idle (h : ¬(!s.controller.isIdle) = true) : s.controller = .idle := by
  cases hc : s.controller <;> simp_all [ControllerPc.isIdle]

theorem inv_flushEventsToCollector (hi : s.Inv) (h : s.flushEventsToCollector = .ok s') :
    s'.tick.Inv := by
  unfold flushEventsToCollector at h
  split at h
  · cases h; exact hi.tick
  rename_i hidle
  split at h
  · cases h; exact hi.tick
  rename_i hon
  obtain ⟨r, hr, h⟩ := bind_eq_ok.mp h
  split at h
  · cases h
  rename_i c hc
  cases h
  have hapi : s.world.tracer.apiTracingEnabled = true := by
    by_contra hapi
    simp only [Bool.not_eq_true] at hapi
    have hnone := hi.idle_buffers (controller_eq_idle hidle) hapi
    have hact : s.world.tracer.activityTracingEnabled = true := by simpa [hapi] using hon
    simp [World.popCachedActivityBuffers, hact, hnone] at hr
  obtain ⟨m, ht, -⟩ := World.popCachedActivityBuffers_tracer hr
  have hf := World.popCachedActivityBuffers_frame hr
  obtain ⟨hr₁, hcached⟩ := World.popCachedActivityBuffers_cached hr
  have hapi' : r.2.tracer.apiTracingEnabled = true := by rw [ht]; exact hapi
  refine Inv.tick
    { length := hf.threads ▸ hi.length
      accounted := hi.accounted_of_sameEvents hf.sameEvents
      cleared_late := hi.cleared_late
      queue_late := fun ha => absurd (ha.symm.trans hapi') Bool.false_ne_true
      budget := hi.budget_of_tracer (by rw [ht]) (by rw [ht])
      pushTimes_length := fun i => hf.queue ▸ hi.pushTimes_length i
      cacheTimes_length := by
        show (if s.world.tracer.activityTracingEnabled then [] else s.cacheTimes).length =
          r.2.cachedBuffers.length
        rw [hcached]; split
        · rfl
        · exact hi.cacheTimes_length
      cacheTimes_lt := fun t ht => hi.cacheTimes_lt t (List.mem_ite_nil_left.mp ht).2
      poppedTimes_lt := fun t ht => hi.cacheTimes_lt t (List.mem_ite_nil_right.mp ht).2
      phase := ⟨hapi', by
        show (if s.world.tracer.activityTracingEnabled then s.cacheTimes else []).length = r.1.length
        rw [hr₁]; split
        · exact hi.cacheTimes_length
        · rfl⟩ }

theorem accounted_gather {d c q p : List CuptiTracerEvent} (h : (d ++ c ++ q).Perm p) :
    (d ++ q ++ c ++ []).Perm p := by
  rw [List.append_nil, List.append_assoc] at *
  exact (List.perm_append_comm.append_left d).trans h

theorem Inv.gather {w : World} {ctl : ControllerPc} (hi : s.Inv)
    (hlen : w.threads.length = s.world.threads.length) (hq : ∀ i, w.queue i = [])
    (hd : ∀ i, w.deliveredEvents i = s.world.deliveredEvents i ++ s.world.queue i)
    (hcoll : w.tracer.collector = s.world.tracer.collector)
    (hcount : w.tracer.numCallbackEvents = s.world.tracer.numCallbackEvents)
    (hcached : w.cachedBuffers = s.world.cachedBuffers)
    (hphase : PhaseInv { s with world := w, controller := ctl, pushTimes := fun _ => [] } ctl) :
    ({ s with world := w, controller := ctl, pushTimes := fun _ => [] } : Sys).Inv where
  length := hi.length.trans hlen.symm
  accounted i := by
    show (w.deliveredEvents i ++ s.cleared i ++ w.queue i).Perm (s.pushed i)
    rw [hd, hq]
    exact accounted_gather (hi.accounted i)
  cleared_late := hi.cleared_late
  queue_late _ _ i := by
    show (w.queue i ++ s.cleared i).Subperm (s.latePushed i)
    rw [hq]
    exact hi.cleared_late i
  budget := hi.budget_of_tracer hcoll hcount
  pushTimes_length i := (congrArg List.length (hq i)).symm
  cacheTimes_length := hcached ▸ hi.cacheTimes_length
  cacheTimes_lt := hi.cacheTimes_lt
  poppedTimes_lt := hi.poppedTimes_lt
  phase := hphase

theorem inv_resume (hi : s.Inv) : s.resume.tick.Inv := by
  unfold resume
  split
  · exact hi.tick
  · refine (hi.gather (by simp) (fun _ => World.deliverCallbackData_queue)
      (fun _ => World.deliverCallbackData_deliveredEvents) rfl rfl rfl ?_).tick
    exact fun _ _ _ _ _ ht => by cases ht
  · rename_i c hc
    have ht := @World.deliverActivityData_tracer s.world c
    have hev := @World.deliverActivityData_sameEvents s.world c
    refine Inv.tick
      { length := hi.length.trans hev.length.symm
        accounted := hi.accounted_of_sameEvents hev
        cleared_late := hi.cleared_late
        queue_late := fun ha _ i => (hev.queue i).symm ▸
          hi.queue_late ((congrArg CuptiTracer.apiTracingEnabled ht).symm.trans ha)
            (fun _ h => by cases hc.symm.trans h) i
        budget := hi.budget_of_tracer (by rw [ht]) (by rw [ht])
        pushTimes_length := fun i => (hev.queue i).symm ▸ hi.pushTimes_length i
        cacheTimes_length := by
          show ([] : List Nat).length = (s.world.deliverActivityData c).cachedBuffers.length
          simp [World.cachedBuffers, ht]
        cacheTimes_lt := fun t ht => by cases ht
        poppedTimes_lt := hi.poppedTimes_lt
        phase := by show (s.world.deliverActivityData c).tracer.activityBuffers = none; rw [ht] }
  · rename_i hc
    exact Inv.tick
      { hi with
        queue_late := fun ha _ => hi.queue_late ha fun _ h => by cases hc.symm.trans h
        budget := fun _ h => by cases h
        phase := fun _ => hi.release_buffers hc }
  · rename_i c cached hc
    have hapi := hi.flush_api c cached (.inl hc)
    have hapi' : (s.world.deliverFlushedCallbackData c).tracer.apiTracingEnabled = true := by
      rw [World.deliverFlushedCallbackData_tracer]; exact hapi
    rw [if_pos hapi]
    refine (hi.gather (by simp [hapi])
      (fun _ => by rw [World.deliverFlushedCallbackData_queue, if_pos hapi])
      (fun _ => by rw [World.deliverFlushedCallbackData_deliveredEvents, if_pos hapi]) (by simp)
      (by simp) (by simp) ?_).tick
    exact ⟨hapi', hi.poppedTimes_length c cached (.inl hc), fun _ _ _ _ ht => by cases ht⟩
  · rename_i c cached hc
    have hapi := hi.flush_api c cached (.inr hc)
    exact Inv.tick
      { hi with
        accounted := fun i => by
          show ((s.world.deliver c (.onTracerCachedActivityBuffers cached)).deliveredEvents i ++
            s.cleared i ++ (s.world.deliver c (.onTracerCachedActivityBuffers cached)).queue i).Perm
              (s.pushed i)
          rw [World.deliveredEvents_deliver, World.queue_deliver]
          simpa [CollectorCall.events] using hi.accounted i
        queue_late := fun ha => absurd (ha.symm.trans hapi) Bool.false_ne_true
        poppedTimes_lt := fun t ht => by cases ht
        phase := fun h => absurd (h.symm.trans hapi) Bool.false_ne_true }

theorem inv_enable {o : CuptiTracerOptions} {c : CuptiTraceCollector} (hi : s.Inv)
    (h : s.enable o c = .ok s') : s'.tick.Inv := by
  unfold enable at h
  split at h
  · rename_i hg
    simp only [Bool.and_eq_true] at hg
    obtain ⟨hidle, hav⟩ := hg
    have hcontroller : s.controller = .idle := by
      cases hs : s.controller <;> simp_all [ControllerPc.isIdle]
    obtain ⟨r, hr, rfl⟩ := map_eq_ok.mp h
    have hapi : s.world.tracer.apiTracingEnabled = false := by
      simp only [CuptiTracer.isAvailable, Bool.and_eq_true, Bool.not_eq_true'] at hav
      exact hav.1.2
    have hnone := hi.idle_buffers hcontroller hapi
    obtain ⟨hthreads, hdel⟩ := World.enable_frame hapi hr
    obtain ⟨hcount, -, hbuf, hfresh⟩ := World.enable_callbackState hav hr
    have hcached : r.2.cachedBuffers = [] := by
      cases hb : r.2.tracer.activityBuffers with
      | none => simp [World.cachedBuffers, hb]
      | some m =>
        rcases hfresh m hb with h | h
        · simp [World.cachedBuffers, hb, h]
        · rw [hnone] at h; cases h
    have hct : s.cacheTimes = [] :=
      List.length_eq_zero.mp (by rw [hi.cacheTimes_length, World.cachedBuffers, hnone]; rfl)
    have hlate : ∀ i, (s.cleared i ++ s.world.queue i).Subperm (s.latePushed i) := fun i =>
      List.perm_append_comm.subperm.trans
        (hi.queue_late hapi (fun _ h => by cases hcontroller.symm.trans h) i)
    refine Inv.tick
      { length := by
          show s.producers.length = r.2.threads.length
          rw [hthreads, World.length_clearedThreads, hi.length]
        accounted := fun i => by
          show (r.2.deliveredEvents i ++ (s.cleared i ++ s.world.queue i) ++ r.2.queue i).Perm (s.pushed i)
          rw [World.queue_of_cleared hthreads, show r.2.deliveredEvents i = s.world.deliveredEvents i by
            simp only [World.deliveredEvents, hdel], List.append_nil, ← List.append_assoc]
          exact hi.accounted i
        cleared_late := hlate
        queue_late := fun _ _ i => by
          show (r.2.queue i ++ (s.cleared i ++ s.world.queue i)).Subperm (s.latePushed i)
          rw [World.queue_of_cleared hthreads, List.nil_append]
          exact hlate i
        budget := fun c' _ hm => by
          show r.2.tracer.numCallbackEvents + s.admitted ≤ _ - 1 + s.producers.length
          have := s.admitted_le_length
          omega
        pushTimes_length := fun i => by
          show ([] : List Nat).length = (r.2.queue i).length
          rw [World.queue_of_cleared hthreads]; rfl
        cacheTimes_length := by
          show s.cacheTimes.length = r.2.cachedBuffers.length
          rw [hcached, hct]; rfl
        cacheTimes_lt := hi.cacheTimes_lt
        poppedTimes_lt := hi.poppedTimes_lt
        phase := by
          show PhaseInv _ s.controller
          rw [hcontroller]
          exact fun ha => (hbuf ha).trans hnone }
  · cases h; exact hi.tick

theorem inv_arrive {i : Nat} {stack : AnnotationStack} {cb : VendorCallback} (hi : s.Inv)
    (h : s.arrive i stack cb = .ok s') : s'.tick.Inv := by
  unfold arrive at h
  split at h
  · cases h; exact hi.tick
  rename_i hready
  simp only [Bool.or_eq_true, Bool.not_eq_true', not_or, Bool.not_eq_false,
    Option.isNone_iff_eq_none, List.getElem?_eq_none_iff, not_le] at hready
  obtain ⟨hidle, hth⟩ := hready
  have hlt : i < s.producers.length := hi.length ▸ hth
  split at h
  · cases h; exact hi.tick
  split at h
  · cases h
    exact (hi.setProducer hlt (ProducerPc.isAdmitted_of_isIdle hidle) fun h => by cases h).tick
  · cases h
    exact hi.of_world (World.setThread_sameEvents rfl) ⟨rfl, rfl, rfl, rfl⟩ rfl
      hi.cacheTimes_length fun _ ht => .inl ht
  · cases h; exact hi.tick

theorem inv_dispatch {i : Nat} (hi : s.Inv) (h : s.dispatch i = .ok s') : s'.tick.Inv := by
  unfold dispatch at h
  split at h
  · rename_i stack cbid cbdata a hp
    have hlt : i < s.producers.length := lt_length_of_producer (by rw [hp]; rfl)
    have hadm : (s.producer i).isAdmitted = false := by rw [hp]; rfl
    have hidle := hi.setProducer hlt hadm (p := .idle) fun h => by cases h
    split at h
    · cases h; exact hidle.tick
    · split at h
      · cases h; exact hidle.tick
      · split at h
        · cases h; exact hidle.tick
        · split at h
          · cases h
          · rename_i hook _
            simp only at h
            split at h
            · cases h
              exact hidle.of_world ((World.setTracer_sameEvents _ _).trans
                (World.setThread_sameEvents rfl)) ⟨rfl, rfl, rfl, rfl⟩ rfl
                hi.cacheTimes_length fun _ ht => .inl ht
            · rename_i hfew
              cases h
              exact (hi.setProducer hlt hadm fun _ => Bool.eq_false_iff.mpr hfew).of_world
                (World.setTracer_sameEvents _ _) ⟨rfl, rfl, rfl, rfl⟩ rfl
                hi.cacheTimes_length fun _ ht => .inl ht
    · cases h; exact hidle.tick
  · cases h; exact hi.tick

theorem record_eq {i : Nat} {stack : AnnotationStack} {deviceId : UInt32} {cbid : CallbackId}
    {cbdata : CallbackData} {a : DriverCallbackAnswers}
    (hp : s.producer i = .admitted stack deviceId cbid cbdata a) (h : s.record i = .ok s') :
    ∃ th new, th.guarded.eventQueue = s.world.queue i ++ new ∧
      new.length = 1 + (if createsNodeMapEvents cbid then
        (s.world.thread i).graphInfo.nodeIdMap.entries.length else 0) ∧
      s' = { s.setProducer i .idle with
        world := (s.world.setTracer s.world.tracer.incCallbackEventCount).setThread i th
        pushed := Function.update s.pushed i (s.pushed i ++ new)
        latePushed := if s.world.tracer.apiTracingEnabled then s.latePushed else
          Function.update s.latePushed i (s.latePushed i ++ new)
        pushTimes := Function.update s.pushTimes i (s.pushTimes i ++ new.map fun _ => s.clock) } := by
  unfold record at h
  rw [hp] at h
  obtain ⟨⟨t, th⟩, hr, rfl⟩ := map_eq_ok.mp h
  obtain ⟨ht, new, hq, hlen⟩ := recordDriverApiCallbackEvent_eventQueue hr
  simp only at ht hq
  subst ht
  refine ⟨th, new, hq, hlen, ?_⟩
  simp only [hq, List.drop_left]

theorem inv_record {i : Nat} (hi : s.Inv) (h : s.record i = .ok s') : s'.tick.Inv := by
  cases hp : s.producer i
  case admitted stack deviceId cbid cbdata a =>
    obtain ⟨th, new, hq, -, rfl⟩ := record_eq hp h
    have hlt : i < s.producers.length := lt_length_of_producer (by rw [hp]; rfl)
    have hpos := admitted_pos hlt (by rw [hp]; rfl)
    have hqueue : ∀ j, ((s.world.setTracer s.world.tracer.incCallbackEventCount).setThread i th).queue j =
        s.world.queue j ++ if j = i then new else [] := fun j => by
      rw [World.queue_setThread]
      by_cases hij : j = i
      · subst hij
        rw [if_pos ⟨rfl, hi.length ▸ hlt⟩, if_pos rfl, hq]
      · rw [if_neg fun h => hij h.1.symm, if_neg hij, List.append_nil]; rfl
    have hlate : ∀ j, (s.latePushed j).Subperm ((if s.world.tracer.apiTracingEnabled then s.latePushed
        else Function.update s.latePushed i (s.latePushed i ++ new)) j) := fun j => by
      split
      · exact List.Subperm.refl _
      · rw [update_append_apply]
        exact (List.sublist_append_left _ _).subperm
    refine Inv.tick
      { length := by
          show (s.producers.set i _).length = (s.world.threads.set i th).length
          rw [List.length_set, List.length_set, hi.length]
        accounted := fun j => by
          show (s.world.deliveredEvents j ++ s.cleared j ++ _).Perm
            (Function.update s.pushed i (s.pushed i ++ new) j)
          rw [hqueue, update_append_apply, ← List.append_assoc]
          exact (hi.accounted j).append_right _
        cleared_late := fun j => (hi.cleared_late j).trans (hlate j)
        queue_late := fun ha hc j => by
          have ha : s.world.tracer.apiTracingEnabled = false := ha
          show (_ ++ s.cleared j).Subperm ((if s.world.tracer.apiTracingEnabled then s.latePushed
            else Function.update s.latePushed i (s.latePushed i ++ new)) j)
          rw [hqueue, ha, if_neg Bool.false_ne_true, update_append_apply, List.append_assoc]
          refine List.Subperm.trans (List.perm_append_comm.append_left _).subperm ?_
          rw [← List.append_assoc]
          exact (List.subperm_append_right _).mpr (hi.queue_late ha hc j)
        budget := fun c hc hm => by
          show s.world.tracer.numCallbackEvents + 1 + (s.setProducer i .idle).admitted ≤
            _ - 1 + (s.producers.set i _).length
          rw [admitted_setProducer hlt, hp, List.length_set]
          have := hi.budget c hc hm
          simp only [ProducerPc.isAdmitted, if_true, if_false, Bool.false_eq_true, Nat.add_zero]
          omega
        pushTimes_length := fun j => by
          show (Function.update s.pushTimes i (s.pushTimes i ++ new.map fun _ => s.clock) j).length =
            (World.queue _ j).length
          rw [hqueue, update_append_apply, List.length_append, List.length_append,
            hi.pushTimes_length, apply_ite List.length, apply_ite List.length, List.length_map,
            List.length_nil, List.length_nil]
        cacheTimes_length := hi.cacheTimes_length
        cacheTimes_lt := hi.cacheTimes_lt
        poppedTimes_lt := hi.poppedTimes_lt
        phase := by
          have h := hi.phase
          show PhaseInv _ s.controller
          cases hc : s.controller <;> rw [hc] at h
          case disableDeliverActivityData =>
            exact fun ha t ht j t' ht' => (mem_update_append_map ht').elim (h ha t ht j t')
              fun e => e ▸ hi.cacheTimes_lt t ht
          case flushDeliverActivityBuffers =>
            exact ⟨h.1, h.2.1, fun t ht j t' ht' => (mem_update_append_map ht').elim
              (h.2.2 t ht j t') fun e => e ▸ hi.poppedTimes_lt t ht⟩
          all_goals exact h }
  all_goals
    simp only [record, hp] at h
    cases h
    exact hi.tick

/-- Every step keeps the invariant. -/
theorem Inv.step {a : Action} (hi : s.Inv) (h : s.step a = .ok s') : s'.Inv := by
  obtain ⟨s₁, h₁, rfl⟩ := map_eq_ok.mp h
  cases a with
  | arrive => exact inv_arrive hi h₁
  | dispatch => exact inv_dispatch hi h₁
  | record => exact inv_record hi h₁
  | enable => exact inv_enable hi h₁
  | disable => exact inv_disable hi h₁
  | flushEventsToCollector => exact inv_flushEventsToCollector hi h₁
  | resume => cases h₁; exact inv_resume hi
  | setActivityFlushPeriod => cases h₁; exact inv_setActivityFlushPeriod hi
  | requestActivityBuffer => cases h₁; exact inv_requestActivityBuffer hi
  | processActivityBuffer => exact inv_processActivityBuffer hi h₁

theorem Inv.run {as : List Action} (hi : s.Inv) (h : s.run as = .ok s') : s'.Inv := by
  induction as generalizing s with
  | nil => cases h; exact hi
  | cons a as ih =>
    obtain ⟨s₁, h₁, h⟩ := bind_eq_ok.mp h
    exact ih (hi.step h₁) h

end Sys

end GpuTracer
