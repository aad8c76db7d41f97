import GpuTracer.Lifecycle

/-! What each operation does to the session: only `Enable` and `Disable` change it, so every
operation but a `Disable` whose activity teardown failed keeps the representation invariant. -/
namespace GpuTracer

namespace CuptiTracer

/-- `t'` is in `t`'s session: only event counts, hook contexts and pooled buffers differ. -/
structure SameSession (t t' : CuptiTracer) : Prop where
  api : t'.apiTracingEnabled = t.apiTracingEnabled
  act : t'.activityTracingEnabled = t.activityTracingEnabled
  pm : t'.pmSamplingEnabled = t.pmSamplingEnabled
  option : t'.option = t.option
  collector : t'.collector = t.collector
  hook : t'.cuptiDriverApiHook.isSome = t.cuptiDriverApiHook.isSome
  buffers : t'.activityBuffers.isSome = t.activityBuffers.isSome
  sampler : t'.pmSampler = t.pmSampler

theorem SameSession.refl (t : CuptiTracer) : SameSession t t :=
  ⟨rfl, rfl, rfl, rfl, rfl, rfl, rfl, rfl⟩

theorem SameSession.trans {t t' t'' : CuptiTracer} (h : SameSession t t')
    (h' : SameSession t' t'') : SameSession t t'' :=
  ⟨h'.api.trans h.api, h'.act.trans h.act, h'.pm.trans h.pm, h'.option.trans h.option,
    h'.collector.trans h.collector, h'.hook.trans h.hook, h'.buffers.trans h.buffers,
    h'.sampler.trans h.sampler⟩

theorem SameSession.of_activityBuffers {t : CuptiTracer} {m : Option CuptiActivityBufferManager}
    (hm : m.isSome = t.activityBuffers.isSome) : SameSession t { t with activityBuffers := m } :=
  ⟨rfl, rfl, rfl, rfl, rfl, rfl, hm, rfl⟩

theorem SameSession.of_callback {t : CuptiTracer} {n : Nat} {hook : Option CuptiDriverApiHook}
    (hk : hook.isSome = t.cuptiDriverApiHook.isSome) :
    SameSession t { t with numCallbackEvents := n, cuptiDriverApiHook := hook } :=
  ⟨rfl, rfl, rfl, rfl, rfl, hk, rfl, rfl⟩

theorem SameSession.of_counts {t : CuptiTracer} {d d' n : Nat} {m : CuptiActivityBufferManager}
    (hm : t.activityBuffers.isSome) :
    SameSession t { t with cuptiDroppedActivityEventCount := d, numActivityEventsInDroppedBuffer := d'
                           numActivityEventsInCachedBuffer := n, activityBuffers := some m } :=
  ⟨rfl, rfl, rfl, rfl, rfl, rfl, by simp [hm], rfl⟩

theorem SameSession.repInvariant {t t' : CuptiTracer} (h : SameSession t t')
    (hi : t.RepInvariant) : t'.RepInvariant := by
  obtain ⟨ha, hb, hp, ho, hc, hh, hbuf, hs⟩ := h
  obtain ⟨hw, hbi, hsi⟩ := hi
  exact ⟨by rw [ha, hb, ho, hc, hh]; exact hw, by rw [hb, hbuf]; exact hbi,
    by rw [hp, hs]; exact hsi⟩

end CuptiTracer

open CuptiTracer

section Callback

variable {tracer : CuptiTracer} {stack : AnnotationStack} {threadId : UInt32} {th : ThreadLocal}

theorem addDriverApiCallbackEvent_tracer {deviceId : UInt32} {startTsc endTsc : UInt64}
    {cbid : CallbackId} {cbdata : CallbackData} {q : ExitQueries} {r : CuptiTracer × ThreadLocal}
    (h : addDriverApiCallbackEvent tracer stack threadId deviceId startTsc endTsc cbid cbdata q th
      = .ok r) : ∃ n, r.1 = { tracer with numCallbackEvents := n } := by
  unfold addDriverApiCallbackEvent at h
  split at h
  · cases h; exact ⟨_, rfl⟩
  · obtain ⟨_, -, rfl⟩ := map_eq_ok.mp h; exact ⟨_, rfl⟩

theorem handleDriverApiCallback_tracer {hook : CuptiDriverApiHook} {cbid : CallbackId}
    {cbdata : CallbackData} {a : DriverCallbackAnswers}
    {r : Status × CuptiTracer × CuptiDriverApiHook × ThreadLocal}
    (h : handleDriverApiCallback tracer hook stack threadId cbid cbdata a th = .ok r) :
    ∃ n, r.2.1 = { tracer with numCallbackEvents := n } := by
  unfold handleDriverApiCallback at h
  split at h
  · cases h; exact ⟨_, rfl⟩
  · split at h
    · cases h; exact ⟨_, rfl⟩
    · split at h
      · cases h; exact ⟨_, rfl⟩
      · obtain ⟨_, h', rfl⟩ := map_eq_ok.mp h
        exact addDriverApiCallbackEvent_tracer h'
  · cases h; exact ⟨_, rfl⟩

theorem handleCallback_tracer {cb : VendorCallback} {r : Status × CuptiTracer × ThreadLocal}
    (h : handleCallback tracer stack threadId cb th = .ok r) :
    ∃ n hook, r.2.1 = { tracer with numCallbackEvents := n, cuptiDriverApiHook := hook } ∧
      hook.isSome = tracer.cuptiDriverApiHook.isSome := by
  unfold handleCallback at h
  split at h
  · cases h; exact ⟨_, _, rfl, rfl⟩
  · split at h
    · cases h; exact ⟨_, _, rfl, rfl⟩
    · obtain ⟨_, h', rfl⟩ := map_eq_ok.mp h
      obtain ⟨n, hn⟩ := handleDriverApiCallback_tracer h'
      exact ⟨n, _, by rw [hn], by simp [*]⟩
    · cases h; exact ⟨_, _, rfl, rfl⟩
    · cases h; exact ⟨_, _, rfl, rfl⟩

end Callback

namespace World

variable {w : World} {r : Status × World}

theorem callback_tracer {i : Nat} {stack : AnnotationStack} {cb : VendorCallback}
    (h : w.callback i stack cb = .ok r) :
    ∃ n hook, r.2.tracer = { w.tracer with numCallbackEvents := n, cuptiDriverApiHook := hook } ∧
      hook.isSome = w.tracer.cuptiDriverApiHook.isSome := by
  unfold callback at h
  split at h
  · cases h; exact ⟨_, _, rfl, rfl⟩
  · obtain ⟨_, h', rfl⟩ := map_eq_ok.mp h
    exact handleCallback_tracer h'

theorem popCachedActivityBuffers_tracer {r : List (ActivityBuffer × Nat) × World}
    (h : w.popCachedActivityBuffers = .ok r) :
    ∃ m, r.2.tracer = { w.tracer with activityBuffers := m } ∧
      m.isSome = w.tracer.activityBuffers.isSome := by
  unfold popCachedActivityBuffers at h
  split at h
  · split at h
    · cases h
    · cases h; exact ⟨_, rfl, by simp [*]⟩
  · cases h; exact ⟨_, rfl, rfl⟩

@[simp] theorem deliverFlushedData_tracer (c : CuptiTraceCollector)
    (cached : List (ActivityBuffer × Nat)) : (w.deliverFlushedData c cached).tracer = w.tracer := by
  unfold deliverFlushedData deliverFlushedCallbackData; split <;> rfl

theorem flushEventsToCollector_tracer (h : w.flushEventsToCollector = .ok r) :
    ∃ m, r.2.tracer = { w.tracer with activityBuffers := m } ∧
      m.isSome = w.tracer.activityBuffers.isSome := by
  unfold flushEventsToCollector at h
  split at h
  · cases h; exact ⟨_, rfl, rfl⟩
  · obtain ⟨r₁, h₁, h⟩ := bind_eq_ok.mp h
    split at h
    · cases h
    · cases h
      simpa using popCachedActivityBuffers_tracer h₁

@[simp] theorem setActivityFlushPeriod_tracer : w.setActivityFlushPeriod.2.tracer = w.tracer := by
  unfold setActivityFlushPeriod; split <;> rfl

theorem requestActivityBuffer_tracer :
    ∃ m, w.requestActivityBuffer.tracer = { w.tracer with activityBuffers := m } ∧
      m.isSome = w.tracer.activityBuffers.isSome := by
  unfold requestActivityBuffer
  split
  · exact ⟨_, rfl, rfl⟩
  · exact ⟨_, rfl, by simp [*]⟩

theorem reclaimBuffer_tracer {b : ActivityBuffer} {st : Status}
    (h : w.reclaimBuffer b st = .ok r) :
    ∃ m, r.2.tracer = { w.tracer with activityBuffers := some m } ∧
      w.tracer.activityBuffers.isSome := by
  unfold reclaimBuffer at h
  split at h
  · cases h
  · cases h; exact ⟨_, rfl, by simp [*]⟩

theorem processActivityBuffer_tracer {b : ActivityBuffer} {size : Nat} {a : ActivityAnswers}
    (h : w.processActivityBuffer b size a = .ok r) :
    ∃ d d' n m, r.2.tracer = { w.tracer with
      cuptiDroppedActivityEventCount := d, numActivityEventsInDroppedBuffer := d'
      numActivityEventsInCachedBuffer := n, activityBuffers := some m } ∧
      w.tracer.activityBuffers.isSome ∧
      (n = w.tracer.numActivityEventsInCachedBuffer ∨
        ∃ c, w.tracer.collector = some c ∧
          ¬ (0 < c.options.maxActivityApiEvents ∧
            c.options.maxActivityApiEvents ≤ w.tracer.numActivityEventsInCachedBuffer) ∧
          n = w.tracer.numActivityEventsInCachedBuffer + a.records) := by
  unfold processActivityBuffer at h
  simp only at h
  split at h
  · obtain ⟨m, hm, hs⟩ := reclaimBuffer_tracer h
    exact ⟨_, _, _, m, hm, hs, .inl rfl⟩
  split at h
  · obtain ⟨m, hm, hs⟩ := reclaimBuffer_tracer h
    exact ⟨_, _, _, m, hm, hs, .inl rfl⟩
  split at h
  · cases h
  rename_i c hc
  split at h
  · obtain ⟨m, hm, hs⟩ := reclaimBuffer_tracer h
    exact ⟨_, _, _, m, hm, hs, .inl rfl⟩
  split at h
  · cases h
  · rename_i hcap _ m hm
    cases h
    exact ⟨_, _, _, _, rfl, by simpa using congrArg Option.isSome hm, .inr ⟨c, hc, hcap, rfl⟩⟩

theorem enableApiTracing_tracer (hapi : w.tracer.apiTracingEnabled = false)
    (h : w.enableApiTracing = .ok r) :
    ∃ x, r.2.tracer = { w.tracer with numCallbackEvents := 0, apiTracingEnabled := x } := by
  unfold enableApiTracing at h
  simp only [hapi, Bool.false_eq_true, if_false] at h
  split at h
  · cases h; exact ⟨_, rfl⟩
  · obtain ⟨_, -, rfl⟩ := map_eq_ok.mp h; exact ⟨_, rfl⟩

theorem enableActivityTracing_tracer (hact : w.tracer.activityTracingEnabled = false)
    (h : w.enableActivityTracing = .ok r) :
    ∃ x, r.2.tracer = { w.prepareActivityStart.tracer with activityTracingEnabled := x } := by
  unfold enableActivityTracing at h
  simp only [hact, Bool.false_eq_true, if_false] at h
  split at h
  · cases h
  · split at h <;> split at h <;> cases h <;> exact ⟨_, rfl⟩

theorem startPmSampler_tracer (st : Status) (v : World) (hpm : v.tracer.pmSamplingEnabled = false) :
    ∃ s p, (startPmSampler st v).2.tracer = { v.tracer with pmSampler := s, pmSamplingEnabled := p }
      ∧ (p = true → s.isSome) := by
  unfold startPmSampler
  dsimp only
  split
  · exact ⟨_, _, rfl, by simp [hpm]⟩
  · split
    · exact ⟨_, _, rfl, by simp [hpm]⟩
    · exact ⟨_, _, rfl, by simp⟩

theorem enable_tracer {o : CuptiTracerOptions} {c : CuptiTraceCollector}
    (hav : w.tracer.isAvailable) (h : w.enable o c = .ok r) :
    r.2.tracer.RepInvariant ∧ r.2.tracer.collector = some c ∧
      (r.2.tracer.activityTracingEnabled → r.2.tracer.numActivityEventsInCachedBuffer = 0) := by
  simp only [CuptiTracer.isAvailable, Bool.and_eq_true, Bool.not_eq_true'] at hav
  obtain ⟨⟨⟨-, hact⟩, hapi⟩, hpm⟩ := hav
  unfold enable at h
  simp only at h
  obtain ⟨r₁, h₁, h⟩ := bind_eq_ok.mp h
  obtain ⟨x, hx⟩ := enableApiTracing_tracer (by simp [setTracer, hapi]) h₁
  split at h
  · rw [← Except.ok.inj h]
    simp [hx, hact, hpm, setTracer, repInvariant_iff]
  · obtain ⟨r₂, h₂, h⟩ := bind_eq_ok.mp h
    obtain ⟨y, hy⟩ := enableActivityTracing_tracer (by simp [setTracer, hx, hact]) h₂
    rw [← Except.ok.inj h]
    split
    · obtain ⟨s, p, hs, hp⟩ := startPmSampler_tracer r₁.1 { r₂.2 with annotationStackEnabled := true }
        (by simp [hy, hx, setTracer, prepareActivityStart, hpm])
      rw [hs]
      simpa [hy, hx, setTracer, prepareActivityStart, repInvariant_iff] using hp
    · simp [hy, hx, setTracer, prepareActivityStart, repInvariant_iff, hpm]

end World

variable {w w' : World} {op : Op}

/-- Only `Enable` and `Disable` change the session. -/
theorem step_sameSession (hop : ∀ o c, op ≠ .enable o c) (hd : op ≠ .disable)
    (h : step w op = .ok w') : SameSession w.tracer w'.tracer := by
  cases op with
  | enable o c => exact absurd rfl (hop o c)
  | disable => exact absurd rfl hd
  | flushEventsToCollector =>
    obtain ⟨_, h', rfl⟩ := map_eq_ok.mp h
    obtain ⟨m, hm, hs⟩ := World.flushEventsToCollector_tracer h'
    exact hm ▸ SameSession.of_activityBuffers hs
  | setActivityFlushPeriod =>
    cases h
    simpa using SameSession.refl w.tracer
  | callback i stack cb =>
    obtain ⟨_, h', rfl⟩ := map_eq_ok.mp h
    obtain ⟨n, hook, hn, hk⟩ := World.callback_tracer h'
    exact hn ▸ SameSession.of_callback hk
  | requestActivityBuffer =>
    cases h
    obtain ⟨m, hm, hs⟩ := World.requestActivityBuffer_tracer (w := w)
    exact hm ▸ SameSession.of_activityBuffers hs
  | processActivityBuffer b size a =>
    simp only [step] at h
    split at h
    · obtain ⟨_, h', rfl⟩ := map_eq_ok.mp h
      obtain ⟨d, d', n, m, hm, hs, -⟩ := World.processActivityBuffer_tracer h'
      exact hm ▸ SameSession.of_counts hs
    · cases h; exact SameSession.refl _

/-- Every operation keeps the representation invariant, but a `Disable` leaving activity tracing on. -/
theorem step_repInvariant (hi : w.tracer.RepInvariant) (h : step w op = .ok w') :
    w'.tracer.RepInvariant ∨ (op = .disable ∧ w'.tracer.activityTracingEnabled = true) := by
  by_cases hd : op = .disable
  · subst hd
    by_cases ha : w'.tracer.activityTracingEnabled = true
    · exact .inr ⟨rfl, ha⟩
    · exact .inl ((World.disable_repInvariant_iff h).mpr (by simpa using ha))
  by_cases he : ∃ o c, op = .enable o c
  · obtain ⟨o, c, rfl⟩ := he
    simp only [step] at h
    split at h
    · obtain ⟨_, h', rfl⟩ := map_eq_ok.mp h
      exact .inl (World.enable_tracer ‹_› h').1
    · cases h; exact .inl hi
  push_neg at he
  exact .inl ((step_sameSession he hd h).repInvariant hi)

end GpuTracer
