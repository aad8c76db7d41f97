import GpuTracer.Faults

/-! A `Disable` whose `DisableActivityTracing` fails is the only way the representation invariant
breaks, and it wedges the tracer for good: `IsAvailable` never holds again, and every later
`Disable` faults in `DisableActivityTracing`'s read of the released options. -/

namespace GpuTracer

namespace CuptiTracer

/-- Activity tracing left on with API tracing and sampling off and no options. -/
structure Wedged (t : CuptiTracer) : Prop where
  activity : t.activityTracingEnabled = true
  api : t.apiTracingEnabled = false
  sampling : t.pmSamplingEnabled = false
  option : t.option = none

theorem Wedged.isAvailable {t : CuptiTracer} (hw : t.Wedged) : t.isAvailable = false := by
  simp [CuptiTracer.isAvailable, hw.activity]

theorem wedged_stable : SessionStable Wedged where
  same h hw := ⟨h.act.trans hw.activity, h.api.trans hw.api, h.pm.trans hw.sampling,
    h.option.trans hw.option⟩
  dropBuffers hw := ⟨hw.activity, hw.api, hw.sampling, hw.option⟩
  release hw := ⟨hw.activity, hw.api, hw.sampling, rfl⟩

end CuptiTracer

def ControllerPc.isDisabling : ControllerPc → Bool
  | .disableDeliverCallbackData _ | .disableDeliverActivityData _ | .disableRelease => true
  | _ => false

namespace World

variable {w w' : World} {r : Status × World}

theorem disableActivityTracing_activity (h : w.disableActivityTracing = .ok r)
    (ha : r.2.tracer.activityTracingEnabled = true) : w.tracer.activityTracingEnabled = true := by
  unfold disableActivityTracing at h
  split at h
  · cases h; simp [setTracer] at ha
  · simpa using ‹¬(!w.tracer.activityTracingEnabled) = true›

theorem shutDown_repInvariant (hi : w.tracer.RepInvariant) (h : w.shutDown = .ok w') :
    w'.tracer.RepInvariant ∧ w'.tracer.apiTracingEnabled = false ∧
      w'.tracer.pmSamplingEnabled = false := by
  have hact : w'.tracer.activityTracingEnabled = true → w.tracer.activityTracingEnabled = true := by
    obtain ⟨w₂, h₂, h⟩ := bind_eq_ok.mp h
    obtain ⟨r₃, h₃, h⟩ := bind_eq_ok.mp h
    obtain ⟨r₄, h₄, h⟩ := bind_eq_ok.mp h
    obtain ⟨r₅, h₅, h⟩ := bind_eq_ok.mp h
    split at h
    · cases h
    · cases h
      intro ha
      simpa [disableApiTracing_tracer h₃, stopPmSampler_tracer h₂] using
        disableActivityTracing_activity h₄ (finalize_tracer h₅ ▸ ha)
  have ho := (shutDown_option h).2
  obtain ⟨act, o, ht⟩ := shutDown_tracer h
  rw [ht] at hact ho ⊢
  refine ⟨⟨fun hf => ?_, fun ha => hi.buffers (hact ha), nofun⟩, rfl, rfl⟩
  obtain ⟨hc, -, hk⟩ := hi.wired (.inr (hact (hf.resolve_left nofun)))
  exact ⟨hc, ho, hk⟩

end World

namespace Sys

open CuptiTracer

variable {s s' : Sys}

/-- Where a state stands with the representation invariant: it holds unless activity tracing
outlived `Disable`'s teardown, and then the tracer is wedged back at idle. -/
structure RepOrWedged (s : Sys) : Prop where
  teardown : s.controller.isDisabling →
    s.world.tracer.apiTracingEnabled = false ∧ s.world.tracer.pmSamplingEnabled = false
  released : s.controller = .disableRelease → s.world.tracer.activityBuffers = none
  rep : s.world.tracer.RepInvariant ∨
    s.world.tracer.activityTracingEnabled = true ∧ s.world.tracer.activityBuffers = none ∧
      (s.controller = .disableRelease ∨ s.controller = .idle ∧ s.world.tracer.Wedged)

theorem repOrWedged_init (numGpus kBufferSizeInBytes threads : Nat) (cupti : CuptiInterface) :
    (init numGpus kBufferSizeInBytes threads cupti).RepOrWedged :=
  ⟨nofun, nofun, .inl ⟨fun h => by simp [init, World.init] at h, nofun, nofun⟩⟩

theorem buffers_none_of_sameSession {t t' : CuptiTracer} (hs : SameSession t t')
    (hb : t.activityBuffers = none) : t'.activityBuffers = none :=
  Option.not_isSome_iff_eq_none.mp (by rw [hs.buffers, hb]; simp)

theorem RepOrWedged.repInvariant (hr : s.RepOrWedged) (hd : s.controller ≠ .disableRelease)
    (hi : s.controller ≠ .idle) : s.world.tracer.RepInvariant :=
  hr.rep.resolve_right fun ⟨_, _, h⟩ => h.elim hd fun h => hi h.1

theorem RepOrWedged.of_sameSession (hr : s.RepOrWedged) (hc : s'.controller = s.controller)
    (hs : SameSession s.world.tracer s'.world.tracer) : s'.RepOrWedged where
  teardown hd := by rw [hs.api, hs.pm]; exact hr.teardown (hc ▸ hd)
  released hd := buffers_none_of_sameSession hs (hr.released (hc ▸ hd))
  rep := by
    rcases hr.rep with hi | ⟨ha, hb, hw⟩
    · exact .inl (hs.repInvariant hi)
    · refine .inr ⟨hs.act ▸ ha, buffers_none_of_sameSession hs hb, ?_⟩
      rw [hc]
      exact hw.imp_right fun ⟨hi, hw⟩ => ⟨hi, CuptiTracer.wedged_stable.same hs hw⟩

theorem ProducerStep.repOrWedged (h : ProducerStep s s') (hr : s.RepOrWedged) : s'.RepOrWedged := by
  obtain ⟨hc, -, -, ⟨n, hook, ht⟩, hk⟩ := h
  rw [ht] at hk
  exact hr.of_sameSession hc (ht ▸ .of_callback hk)

theorem repOrWedged_enable {o : CuptiTracerOptions} {c : CuptiTraceCollector} (hr : s.RepOrWedged)
    (h : s.enable o c = .ok s') : s'.RepOrWedged := by
  unfold enable at h
  split at h
  · rename_i hg
    simp only [Bool.and_eq_true] at hg
    obtain ⟨r, hr', rfl⟩ := map_eq_ok.mp h
    have hidle := controller_eq_idle (s := s) (by simp [hg.1])
    exact ⟨by simp [hidle, ControllerPc.isDisabling], by simp [hidle],
      .inl (World.enable_tracer hg.2 hr').1⟩
  · cases h; exact hr

theorem repOrWedged_disable (hr : s.RepOrWedged) (h : s.disable = .ok s') : s'.RepOrWedged := by
  unfold disable at h
  split at h
  · cases h; exact hr
  rename_i hc
  obtain ⟨w, hw, h⟩ := bind_eq_ok.mp h
  split at h
  · cases h
  cases h
  have hidle := controller_eq_idle hc
  rcases hr.rep with hi | ⟨-, -, hwd⟩
  · obtain ⟨hi', hapi, hpm⟩ := World.shutDown_repInvariant hi hw
    exact ⟨fun _ => ⟨hapi, hpm⟩, nofun, .inl hi'⟩
  · have hwd : s.world.tracer.Wedged := by simpa [hidle] using hwd
    rw [World.shutDown_of_option_none hwd.option hwd.sampling] at hw
    cases hw

theorem repOrWedged_flushEventsToCollector (hr : s.RepOrWedged)
    (h : s.flushEventsToCollector = .ok s') : s'.RepOrWedged := by
  unfold flushEventsToCollector at h
  split at h
  · cases h; exact hr
  split at h
  · cases h; exact hr
  obtain ⟨r, hp, h⟩ := bind_eq_ok.mp h
  split at h
  · cases h
  cases h
  obtain ⟨m, hm, hb⟩ := World.popCachedActivityBuffers_tracer hp
  rcases hr.rep with hi | ⟨ha, hbn, -⟩
  · exact ⟨nofun, nofun, .inl (hm ▸ (SameSession.of_activityBuffers hb).repInvariant hi)⟩
  · unfold World.popCachedActivityBuffers at hp
    simp [ha, hbn] at hp

theorem repOrWedged_resume (hr : s.RepOrWedged) : s.resume.RepOrWedged := by
  unfold resume
  split
  · exact hr
  · rename_i c hc
    obtain ⟨hapi, hpm⟩ := hr.teardown (by simp [hc, ControllerPc.isDisabling])
    exact ⟨fun _ => by simpa using ⟨hapi, hpm⟩, nofun,
      .inl (by simpa using hr.repInvariant (by simp [hc]) (by simp [hc]))⟩
  · rename_i c hc
    obtain ⟨hapi, hpm⟩ := hr.teardown (by simp [hc, ControllerPc.isDisabling])
    refine ⟨fun _ => by simpa using ⟨hapi, hpm⟩, fun _ => by simp, ?_⟩
    cases ha : s.world.tracer.activityTracingEnabled
    · exact .inl ⟨by simp [hapi, ha], by simp [ha], by simp [hpm]⟩
    · exact .inr ⟨by simpa using ha, by simp, .inl rfl⟩
  · rename_i hc
    obtain ⟨hapi, hpm⟩ := hr.teardown (by simp [hc, ControllerPc.isDisabling])
    refine ⟨nofun, nofun, ?_⟩
    cases ha : s.world.tracer.activityTracingEnabled
    · exact .inl ⟨by simp [hapi, ha], by simp [ha], by simp [hpm]⟩
    · exact .inr ⟨by simpa using ha, by simpa using hr.released hc,
        .inr ⟨rfl, by simpa using ha, by simpa using hapi, by simpa using hpm, by simp⟩⟩
  all_goals
    rename_i c cached hc
    exact ⟨nofun, nofun, .inl (by simpa using hr.repInvariant (by simp [hc]) (by simp [hc]))⟩

theorem repOrWedged_processActivityBuffer {b : ActivityBuffer} {size : Nat} {a : ActivityAnswers}
    (hr : s.RepOrWedged) (h : s.processActivityBuffer b size a = .ok s') : s'.RepOrWedged := by
  unfold processActivityBuffer at h
  split at h
  · obtain ⟨r, hr', rfl⟩ := map_eq_ok.mp h
    obtain ⟨d, d', n, m, hm, hb, -⟩ := World.processActivityBuffer_tracer hr'
    exact hr.of_sameSession rfl (hm ▸ .of_counts hb)
  · cases h; exact hr

theorem repOrWedged_step {a : Action} (hr : s.RepOrWedged) (h : s.step a = .ok s') :
    s'.RepOrWedged := by
  obtain ⟨s₁, h₁, rfl⟩ := map_eq_ok.mp h
  suffices hs₁ : s₁.RepOrWedged from ⟨hs₁.1, hs₁.2, hs₁.3⟩
  cases a with
  | arrive => exact (producerStep_arrive h₁).repOrWedged hr
  | dispatch => exact (producerStep_dispatch h₁).repOrWedged hr
  | record => exact (producerStep_record h₁).repOrWedged hr
  | enable => exact repOrWedged_enable hr h₁
  | disable => exact repOrWedged_disable hr h₁
  | flushEventsToCollector => exact repOrWedged_flushEventsToCollector hr h₁
  | resume => cases h₁; exact repOrWedged_resume hr
  | setActivityFlushPeriod =>
    cases h₁
    unfold setActivityFlushPeriod
    split
    · exact hr.of_sameSession rfl (by simpa using SameSession.refl s.world.tracer)
    · exact hr
  | requestActivityBuffer =>
    cases h₁
    obtain ⟨m, hm, hb⟩ := World.requestActivityBuffer_tracer (w := s.world)
    exact hr.of_sameSession rfl (hm ▸ .of_activityBuffers hb)
  | processActivityBuffer => exact repOrWedged_processActivityBuffer hr h₁

theorem repOrWedged_run {as : List Action} (hr : s.RepOrWedged) (h : s.run as = .ok s') :
    s'.RepOrWedged := by
  induction as generalizing s with
  | nil => cases h; exact hr
  | cons a as ih =>
    obtain ⟨s₁, h₁, h⟩ := bind_eq_ok.mp h
    exact ih (repOrWedged_step hr h₁) h

/-- Under any interleaving, the representation invariant holds except after a `Disable` whose
activity teardown failed, which leaves the tracer wedged. -/
theorem repInvariant_unless_teardown_failed (numGpus kBufferSizeInBytes threads : Nat)
    (cupti : CuptiInterface) (as : List Action) (s : Sys)
    (h : (init numGpus kBufferSizeInBytes threads cupti).run as = .ok s) :
    s.world.tracer.RepInvariant ∨
      s.world.tracer.activityTracingEnabled = true ∧ s.world.tracer.activityBuffers = none ∧
        (s.controller = .disableRelease ∨ s.controller = .idle ∧ s.world.tracer.Wedged) :=
  (repOrWedged_run (repOrWedged_init ..) h).rep

/-- A vendor failing after `Enable`'s nine calls makes `Disable` wedge the tracer. -/
theorem failed_teardown_breaks_repInvariant_at_release :
    ∃ s, (init 1 64 1 (.failingFrom 9 "CUPTI_ERROR_UNKNOWN")).run
        [.enable { activitiesSelected := [.other 1] } ⟨0, {}⟩, .disable, .resume, .resume] = .ok s ∧
      ¬ s.world.tracer.RepInvariant ∧ s.controller = .disableRelease ∧
      (s.world.tracer.RepInvariant ∨
        s.world.tracer.activityTracingEnabled = true ∧ s.world.tracer.activityBuffers = none ∧
          (s.controller = .disableRelease ∨ s.controller = .idle ∧ s.world.tracer.Wedged)) :=
  ⟨_, rfl, by decide, rfl, repInvariant_unless_teardown_failed 1 64 1
    (.failingFrom 9 "CUPTI_ERROR_UNKNOWN")
    [.enable { activitiesSelected := [.other 1] } ⟨0, {}⟩, .disable, .resume, .resume] _ rfl⟩

theorem enable_of_wedged (hw : s.world.tracer.Wedged) (o : CuptiTracerOptions)
    (c : CuptiTraceCollector) : s.enable o c = .ok s := by
  simp [enable, hw.isAvailable]

theorem disable_of_wedged (hw : s.world.tracer.Wedged) (hc : s.controller = .idle) :
    s.disable = .error .emptyOption := by
  simp [disable, hc, ControllerPc.isIdle, World.shutDown_of_option_none hw.option hw.sampling,
    Except.bind]

theorem eq_of_disable_of_wedged (hw : s.world.tracer.Wedged) (h : s.disable = .ok s') : s' = s := by
  cases hc : s.controller
  case idle => rw [disable_of_wedged hw hc] at h; cases h
  all_goals simp only [disable, hc, ControllerPc.isIdle] at h; exact (Except.ok.inj h).symm

/-- A wedged tracer stays wedged under any interleaving: never available again, so `Enable` changes
nothing, and `Disable` from idle faults in `DisableActivityTracing` on the released options. -/
theorem wedged_tracer_never_enabled_again (as : List Action) (s s' : Sys)
    (hw : s.world.tracer.Wedged) (h : s.run as = .ok s') :
    s'.world.tracer.Wedged ∧ s'.world.tracer.isAvailable = false ∧
      (∀ o c, s'.enable o c = .ok s') ∧ (s'.controller = .idle → s'.disable = .error .emptyOption) := by
  have hw' : s'.world.tracer.Wedged :=
    keeps_run CuptiTracer.wedged_stable
      (fun o c hw h => by rw [enable_of_wedged hw o c] at h; cases h; exact hw)
      (fun hw h => eq_of_disable_of_wedged hw h ▸ hw) hw h
  exact ⟨hw', hw'.isAvailable, enable_of_wedged hw', disable_of_wedged hw'⟩

/-- A vendor failing after `Enable`'s nine calls wedges the tracer, and it stays wedged. -/
theorem failed_activity_teardown_wedges_tracer :
    ∃ s s', (init 1 64 1 (.failingFrom 9 "CUPTI_ERROR_UNKNOWN")).run
        [.enable { activitiesSelected := [.other 1] } ⟨0, {}⟩, .disable, .resume, .resume, .resume] =
          .ok s ∧ s.world.tracer.Wedged ∧
      s.run [.enable {} ⟨1, {}⟩, .requestActivityBuffer] = .ok s' ∧
      s'.world.tracer.Wedged ∧ s'.world.tracer.isAvailable = false ∧
        (∀ o c, s'.enable o c = .ok s') ∧ (s'.controller = .idle → s'.disable = .error .emptyOption) := by
  obtain ⟨s, hs⟩ : ∃ s, (init 1 64 1 (.failingFrom 9 "CUPTI_ERROR_UNKNOWN")).run
      [.enable { activitiesSelected := [.other 1] } ⟨0, {}⟩, .disable, .resume, .resume, .resume] =
        .ok s := ⟨_, rfl⟩
  have hw : s.world.tracer.Wedged := by
    obtain rfl := Except.ok.inj (hs : Except.ok _ = .ok s)
    exact ⟨rfl, rfl, rfl, rfl⟩
  obtain ⟨s', hs'⟩ : ∃ s', s.run [.enable {} ⟨1, {}⟩, .requestActivityBuffer] = .ok s' := by
    obtain rfl := Except.ok.inj (hs : Except.ok _ = .ok s)
    exact ⟨_, rfl⟩
  exact ⟨s, s', hs, hw, hs',
    wedged_tracer_never_enabled_again [.enable {} ⟨1, {}⟩, .requestActivityBuffer] s s' hw hs'⟩

end Sys

end GpuTracer
