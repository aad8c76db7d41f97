import GpuTracer.Controller

/-! The session lifecycle: what `Disable` leaves behind whatever its vendor calls return, the
controller's representation invariant, and `Disable` on a tracer that is already disabled. -/
namespace GpuTracer

theorem bind_eq_ok {ε α β : Type} {x : Except ε α} {f : α → Except ε β} {b : β} :
    x.bind f = .ok b ↔ ∃ a, x = .ok a ∧ f a = .ok b := by
  cases x <;> simp [Except.bind]

theorem map_eq_ok {ε α β : Type} {x : Except ε α} {f : α → β} {b : β} :
    x.map f = .ok b ↔ ∃ a, x = .ok a ∧ f a = b := by
  cases x <;> simp [Except.map]

theorem map_eq_error {ε α β : Type} {x : Except ε α} {f : α → β} {e : ε} :
    x.map f = .error e ↔ x = .error e := by
  cases x <;> simp [Except.map]

namespace CuptiTracer

/-- The controller's representation invariant: a tracing flag only with collector, options and
hook; activity tracing only with a buffer manager; sampling only with a sampler. -/
structure RepInvariant (t : CuptiTracer) : Prop where
  wired : t.apiTracingEnabled ∨ t.activityTracingEnabled →
    t.collector.isSome ∧ t.option.isSome ∧ t.cuptiDriverApiHook.isSome
  buffers : t.activityTracingEnabled → t.activityBuffers.isSome
  sampler : t.pmSamplingEnabled → t.pmSampler.isSome

theorem repInvariant_iff (t : CuptiTracer) : t.RepInvariant ↔
    ((t.apiTracingEnabled ∨ t.activityTracingEnabled) →
      t.collector.isSome ∧ t.option.isSome ∧ t.cuptiDriverApiHook.isSome) ∧
    (t.activityTracingEnabled → t.activityBuffers.isSome) ∧
    (t.pmSamplingEnabled → t.pmSampler.isSome) :=
  ⟨fun ⟨a, b, c⟩ => ⟨a, b, c⟩, fun ⟨a, b, c⟩ => ⟨a, b, c⟩⟩

instance (t : CuptiTracer) : Decidable t.RepInvariant :=
  decidable_of_iff _ (repInvariant_iff t).symm

end CuptiTracer

namespace World

variable {w w₁ w' : World} {r : Status × World}

theorem stopPmSampler_tracer (h : w.stopPmSampler = .ok w₁) :
    w₁.tracer = { w.tracer with pmSamplingEnabled := false } := by
  unfold stopPmSampler at h
  split at h
  · split at h
    · cases h
    · cases h; rfl
  · cases h
    rename_i hp
    simp only [Bool.not_eq_true] at hp
    rw [← hp]

theorem disableApiTracing_tracer (h : w.disableApiTracing = .ok r) :
    r.2.tracer = { w.tracer with apiTracingEnabled := false } := by
  unfold disableApiTracing at h
  split at h
  · cases h
    rename_i ha
    simp only [Bool.not_eq_true'] at ha
    rw [← ha]
  · obtain ⟨_, -, rfl⟩ := map_eq_ok.mp h
    rfl

theorem disableActivityTracing_tracer (h : w.disableActivityTracing = .ok r) :
    ∃ act o, r.2.tracer = { w.tracer with activityTracingEnabled := act, option := o } ∧
      o.isSome = w.tracer.option.isSome := by
  unfold disableActivityTracing at h
  split at h
  · cases h; exact ⟨false, _, rfl, rfl⟩
  · split at h
    · cases h
    · rename_i ho
      simp only at h
      split at h
      · cases h; exact ⟨_, _, rfl, rfl⟩
      · split at h <;> cases h <;> exact ⟨_, _, rfl, by simp [ho]⟩

theorem finalize_tracer (h : w.finalize = .ok r) : r.2.tracer = w.tracer := by
  unfold finalize at h
  split at h
  · cases h
  · cases h; split <;> rfl

@[simp] theorem deliverCallbackData_tracer (c : CuptiTraceCollector) :
    (w.deliverCallbackData c).tracer = w.tracer := rfl

@[simp] theorem deliverActivityData_tracer (c : CuptiTraceCollector) :
    (w.deliverActivityData c).tracer = { w.tracer with activityBuffers := none } := by
  unfold deliverActivityData
  cases hb : w.tracer.activityBuffers <;>
    simp only [hb, apply_ite World.tracer, deliver_tracer, setTracer_tracer, ite_self]
  rw [← hb]

@[simp] theorem release_tracer : w.release.tracer =
    { w.tracer with collector := none, option := none, cuptiDriverApiHook := none } := rfl

theorem shutDown_tracer (h : w.shutDown = .ok w₁) :
    ∃ act o, w₁.tracer = { w.tracer with pmSamplingEnabled := false, apiTracingEnabled := false
                                         activityTracingEnabled := act, option := o } := by
  obtain ⟨w₂, h₂, h⟩ := bind_eq_ok.mp h
  obtain ⟨r₃, h₃, h⟩ := bind_eq_ok.mp h
  obtain ⟨r₄, h₄, h⟩ := bind_eq_ok.mp h
  obtain ⟨r₅, h₅, h⟩ := bind_eq_ok.mp h
  split at h
  · cases h
  · cases h
    obtain ⟨act, o, h₄, -⟩ := disableActivityTracing_tracer h₄
    refine ⟨act, o, ?_⟩
    rw [finalize_tracer h₅, h₄, disableApiTracing_tracer h₃, stopPmSampler_tracer h₂]

theorem disable_tracer (h : w.disable = .ok w') :
    ∃ act, w'.tracer = { w.tracer with pmSamplingEnabled := false, apiTracingEnabled := false
                                       activityTracingEnabled := act, option := none
                                       collector := none, cuptiDriverApiHook := none
                                       activityBuffers := none } := by
  obtain ⟨w₁, h₁, h⟩ := bind_eq_ok.mp h
  split at h
  · cases h
  · cases h
    obtain ⟨act, o, h₁⟩ := shutDown_tracer h₁
    exact ⟨act, by simp only [release_tracer, deliverActivityData_tracer,
      deliverCallbackData_tracer, h₁]⟩

theorem disable_repInvariant_iff (h : w.disable = .ok w') :
    w'.tracer.RepInvariant ↔ w'.tracer.activityTracingEnabled = false := by
  obtain ⟨act, h⟩ := disable_tracer h
  rw [h]
  cases act <;> simp [CuptiTracer.repInvariant_iff]

theorem switchCallbacks_error {o : Option CuptiTracerOptions} {ci : CuptiInterface} {f : Fault}
    (h : switchCallbacks o ci = .error f) : f = .emptyOption := by
  unfold switchCallbacks at h
  simp only at h
  split at h
  · cases h
  · split at h <;> cases h
    rfl

theorem disableApiTracing_error {f : Fault} (h : w.disableApiTracing = .error f) :
    f = .emptyOption := by
  unfold disableApiTracing at h
  split at h
  · cases h
  · exact switchCallbacks_error (map_eq_error.mp h)

theorem disableActivityTracing_error {f : Fault} (h : w.disableActivityTracing = .error f) :
    f = .emptyOption := by
  unfold disableActivityTracing at h
  split at h
  · cases h
  · split at h
    · cases h; rfl
    · simp only at h
      split at h
      · cases h
      · split at h <;> cases h

theorem shutDown_of_option_none (ho : w.tracer.option = none)
    (hp : w.tracer.pmSamplingEnabled = false) : w.shutDown = .error .emptyOption := by
  have hstop : w.stopPmSampler = .ok w := by simp [stopPmSampler, hp]
  unfold shutDown
  rw [hstop]
  show w.disableApiTracing.bind _ = _
  rcases h₁ : w.disableApiTracing with f | r₁
  · rw [disableApiTracing_error h₁]; rfl
  show r₁.2.disableActivityTracing.bind _ = _
  rcases h₂ : r₁.2.disableActivityTracing with f | r₂
  · rw [disableActivityTracing_error h₂]; rfl
  obtain ⟨act, o, h₂, hs⟩ := disableActivityTracing_tracer h₂
  have ho₂ : r₂.2.tracer.option = none := by
    simpa [h₂, disableApiTracing_tracer h₁, ho] using hs
  show r₂.2.finalize.bind _ = _
  simp [finalize, ho₂, Except.bind]

/-- `Disable` on a tracer without options and without a running sampler faults on the options:
in `DisableActivityTracing` while activity tracing is on, otherwise in `Finalize`. -/
theorem disable_of_option_none (ho : w.tracer.option = none)
    (hp : w.tracer.pmSamplingEnabled = false) : w.disable = .error .emptyOption := by
  unfold disable
  rw [shutDown_of_option_none ho hp]
  rfl

/-- `Disable` before any `Enable`, or after a completed `Disable`, reads the released options. -/
theorem disable_when_disabled_reads_released_option (numGpus kBufferSizeInBytes threads : Nat)
    (cupti : CuptiInterface) (w w' : World) (h : w.disable = .ok w') :
    (World.init numGpus kBufferSizeInBytes threads cupti).disable = .error .emptyOption ∧
      w'.disable = .error .emptyOption := by
  obtain ⟨_, h'⟩ := disable_tracer h
  exact ⟨disable_of_option_none rfl rfl, disable_of_option_none (by rw [h']) (by rw [h'])⟩

/-- After an `Enable` whose `Subscribe` fails, `Disable` completes and a second one faults. -/
theorem disable_twice_reads_released_option :
    let w : World := { tracer := { numGpus := 1, kBufferSizeInBytes := 64, option := some {}
                                   collector := some ⟨0, {}⟩, cuptiDriverApiHook := some ⟨{}, []⟩ }
                       cupti := .healthy, threads := [] }
    ∃ w', w.disable = .ok w' ∧ w'.disable = .error .emptyOption := by
  intro w
  exact ⟨_, rfl, (disable_when_disabled_reads_released_option 1 64 0 .healthy w _ rfl).2⟩

end World

/-- A failing `ActivityDisable` leaves activity tracing on with the session released. -/
theorem failed_activity_disable_breaks_repInvariant :
    ∃ w, run (World.init 1 64 1 (.failingFrom 9 "CUPTI_ERROR_UNKNOWN"))
        [.enable { activitiesSelected := [.other 1] } ⟨0, {}⟩, .disable] = .ok w ∧
      ¬ w.tracer.RepInvariant ∧ w.tracer.isAvailable = false :=
  ⟨_, rfl, by decide, rfl⟩

end GpuTracer
