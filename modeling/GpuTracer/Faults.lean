import GpuTracer.CollectorProtocol

/-! Which steps can fault, over any interleaving: from a constructed tracer the session stays held,
and a step faults only where the code dereferences a component that is absent there. -/

namespace GpuTracer

namespace CuptiTracer

/-- While options are recorded, so are the hook and the collector; sampling only with a sampler. -/
structure SessionHeld (t : CuptiTracer) : Prop where
  hook : t.option.isSome → t.cuptiDriverApiHook.isSome
  collector : t.option.isSome → t.collector.isSome
  sampler : t.pmSamplingEnabled → t.pmSampler.isSome

theorem SessionHeld.of_sameSession {t t' : CuptiTracer} (hs : t.SessionHeld) (h : SameSession t t') :
    t'.SessionHeld where
  hook ho := h.hook.trans (hs.hook (h.option ▸ ho))
  collector ho := by rw [h.collector]; exact hs.collector (h.option ▸ ho)
  sampler hp := by rw [h.sampler]; exact hs.sampler (h.pm ▸ hp)

/-- A tracer property kept within a session and by `Disable`'s release of its parts. -/
structure SessionStable (P : CuptiTracer → Prop) : Prop where
  same {t t' : CuptiTracer} : SameSession t t' → P t → P t'
  dropBuffers {t : CuptiTracer} : P t → P { t with activityBuffers := none }
  release {t : CuptiTracer} :
    P t → P { t with collector := none, option := none, cuptiDriverApiHook := none }

end CuptiTracer

namespace World

variable {w w' : World} {r : Status × World} {f : Fault}

theorem finalize_option (h : w.finalize = .ok r) : w.tracer.option.isSome := by
  unfold finalize at h
  split at h
  · cases h
  · simp [*]

theorem shutDown_option (h : w.shutDown = .ok w') : w.tracer.option.isSome ∧ w'.tracer.option.isSome := by
  obtain ⟨w₂, h₂, h⟩ := bind_eq_ok.mp h
  obtain ⟨r₃, h₃, h⟩ := bind_eq_ok.mp h
  obtain ⟨r₄, h₄, h⟩ := bind_eq_ok.mp h
  obtain ⟨r₅, h₅, h⟩ := bind_eq_ok.mp h
  obtain ⟨act, o, ht₄, hso⟩ := disableActivityTracing_tracer h₄
  have hopt : r₄.2.tracer.option.isSome = w.tracer.option.isSome := by
    simp only [ht₄, hso, disableApiTracing_tracer h₃, stopPmSampler_tracer h₂]
  split at h
  · cases h
  · cases h
    exact ⟨hopt ▸ finalize_option h₅, finalize_tracer h₅ ▸ finalize_option h₅⟩

end World

namespace Sys

variable {s s' : Sys} {f : Fault} {i : Nat}

section Stable

variable {P : CuptiTracer → Prop} (hP : CuptiTracer.SessionStable P)
include hP

theorem ProducerStep.keeps (h : ProducerStep s s') (hs : P s.world.tracer) : P s'.world.tracer := by
  obtain ⟨-, -, -, ⟨n, hook, ht⟩, hk⟩ := h
  rw [ht] at hk ⊢
  exact hP.same (.of_callback hk) hs

theorem keeps_flushEventsToCollector (hs : P s.world.tracer)
    (h : s.flushEventsToCollector = .ok s') : P s'.world.tracer := by
  unfold flushEventsToCollector at h
  split at h
  · cases h; exact hs
  split at h
  · cases h; exact hs
  obtain ⟨r, hr, h⟩ := bind_eq_ok.mp h
  split at h
  · cases h
  · cases h
    obtain ⟨m, hm, hb⟩ := World.popCachedActivityBuffers_tracer hr
    exact hm ▸ hP.same (.of_activityBuffers hb) hs

theorem keeps_resume (hs : P s.world.tracer) : P s.resume.world.tracer := by
  unfold resume
  split
  · exact hs
  · simpa using hs
  · simpa using hP.dropBuffers hs
  · simpa using hP.release hs
  · simpa using hs
  · simpa using hs

theorem keeps_processActivityBuffer {b : ActivityBuffer} {size : Nat} {a : ActivityAnswers}
    (hs : P s.world.tracer) (h : s.processActivityBuffer b size a = .ok s') :
    P s'.world.tracer := by
  unfold processActivityBuffer at h
  split at h
  · obtain ⟨r, hr, rfl⟩ := map_eq_ok.mp h
    obtain ⟨d, d', n, m, hm, hb, -⟩ := World.processActivityBuffer_tracer hr
    exact hm ▸ hP.same (.of_counts hb) hs
  · cases h; exact hs

/-- A session-stable property `Enable` and the start of `Disable` keep is kept by every step. -/
theorem keeps_step {a : Action} (hen : ∀ o c s', s.enable o c = .ok s' → P s'.world.tracer)
    (hdis : ∀ s', s.disable = .ok s' → P s'.world.tracer) (hs : P s.world.tracer)
    (h : s.step a = .ok s') : P s'.world.tracer := by
  obtain ⟨s₁, h₁, rfl⟩ := map_eq_ok.mp h
  show P s₁.world.tracer
  cases a with
  | arrive => exact (producerStep_arrive h₁).keeps hP hs
  | dispatch => exact (producerStep_dispatch h₁).keeps hP hs
  | record => exact (producerStep_record h₁).keeps hP hs
  | enable o c => exact hen o c s₁ h₁
  | disable => exact hdis s₁ h₁
  | flushEventsToCollector => exact keeps_flushEventsToCollector hP hs h₁
  | resume => cases h₁; exact keeps_resume hP hs
  | setActivityFlushPeriod =>
    cases h₁
    unfold setActivityFlushPeriod
    split <;> simpa using hs
  | requestActivityBuffer =>
    cases h₁
    obtain ⟨m, hm, hb⟩ := World.requestActivityBuffer_tracer (w := s.world)
    exact hm ▸ hP.same (.of_activityBuffers hb) hs
  | processActivityBuffer => exact keeps_processActivityBuffer hP hs h₁

theorem keeps_run {as : List Action}
    (hen : ∀ {s s' : Sys} o c, P s.world.tracer → s.enable o c = .ok s' → P s'.world.tracer)
    (hdis : ∀ {s s' : Sys}, P s.world.tracer → s.disable = .ok s' → P s'.world.tracer)
    (hs : P s.world.tracer) (h : s.run as = .ok s') : P s'.world.tracer := by
  induction as generalizing s with
  | nil => cases h; exact hs
  | cons a as ih =>
    obtain ⟨s₁, h₁, h⟩ := bind_eq_ok.mp h
    exact ih (keeps_step hP (fun o c _ => hen o c hs) (fun _ => hdis hs) hs h₁) h

end Stable

end Sys

end GpuTracer
