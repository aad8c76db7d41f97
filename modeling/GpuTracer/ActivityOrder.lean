import GpuTracer.CollectorProtocol

/-! The activity buffers the tracer keeps, over any interleaving: handed over, popped and cached,
they form a log each step keeps or extends by the buffer the vendor just completed. -/

namespace GpuTracer

def CollectorCall.buffers : CollectorCall → List (ActivityBuffer × Nat)
  | .onTracerCachedActivityBuffers buffers => buffers
  | _ => []

namespace World

variable {w : World} {c : CuptiTraceCollector}

def deliveredBuffers (w : World) : List (ActivityBuffer × Nat) :=
  w.delivered.flatMap fun d => d.2.buffers

@[simp] theorem deliveredBuffers_deliver (call : CollectorCall) :
    (w.deliver c call).deliveredBuffers = w.deliveredBuffers ++ call.buffers := by
  simp [deliveredBuffers, deliver]

theorem deliveredBuffers_eq {w' : World} (h : w'.delivered = w.delivered) :
    w'.deliveredBuffers = w.deliveredBuffers := by
  rw [deliveredBuffers, h, deliveredBuffers]

@[simp] theorem getTimestamp_deliveredBuffers :
    w.getTimestamp.2.deliveredBuffers = w.deliveredBuffers := rfl

@[simp] theorem setTracer_deliveredBuffers (t : CuptiTracer) :
    (w.setTracer t).deliveredBuffers = w.deliveredBuffers := rfl

@[simp] theorem gather_deliveredBuffers :
    w.gatherCallbackAnnotationsAndEvents.2.deliveredBuffers = w.deliveredBuffers := rfl

@[simp] theorem deliver_cachedBuffers (call : CollectorCall) :
    (w.deliver c call).cachedBuffers = w.cachedBuffers := rfl

@[simp] theorem deliverCallbackData_cachedBuffers :
    (w.deliverCallbackData c).cachedBuffers = w.cachedBuffers := rfl

@[simp] theorem release_deliveredBuffers : w.release.deliveredBuffers = w.deliveredBuffers := rfl

@[simp] theorem release_cachedBuffers : w.release.cachedBuffers = w.cachedBuffers := rfl

@[simp] theorem deliverCallbackData_deliveredBuffers :
    (w.deliverCallbackData c).deliveredBuffers = w.deliveredBuffers := by
  simp [deliverCallbackData, CollectorCall.buffers]

theorem deliverActivityData_buffers :
    (w.deliverActivityData c).deliveredBuffers = w.deliveredBuffers ++ w.cachedBuffers ∧
      (w.deliverActivityData c).cachedBuffers = [] := by
  unfold deliverActivityData
  rcases hb : w.tracer.activityBuffers with _ | m <;>
  · by_cases h₁ : 0 < w.tracer.cuptiDroppedActivityEventCount <;>
    by_cases h₂ : 0 < w.tracer.numActivityEventsInDroppedBuffer <;>
    simp [h₁, h₂, hb, CollectorCall.buffers, cachedBuffers, CuptiActivityBufferManager.popCachedBuffers]

@[simp] theorem deliverFlushedCallbackData_deliveredBuffers :
    (w.deliverFlushedCallbackData c).deliveredBuffers = w.deliveredBuffers := by
  unfold deliverFlushedCallbackData
  split
  · simp [CollectorCall.buffers]
  · rfl

end World

namespace Sys

variable {s s' : Sys}

def poppedBuffers (s : Sys) : List (ActivityBuffer × Nat) :=
  match s.controller with
  | .flushDeliverCallbackData _ cached | .flushDeliverActivityBuffers _ cached => cached
  | _ => []

/-- Every filled buffer the tracer keeps: handed over, popped by a flush, or cached. -/
def bufferLog (s : Sys) : List (ActivityBuffer × Nat) :=
  s.world.deliveredBuffers ++ s.poppedBuffers ++ s.world.cachedBuffers

theorem bufferLog_eq (hd : s'.world.delivered = s.world.delivered)
    (hp : s'.poppedBuffers = s.poppedBuffers) (hc : s'.world.cachedBuffers = s.world.cachedBuffers) :
    s'.bufferLog = s.bufferLog := by
  rw [bufferLog, World.deliveredBuffers_eq hd, hp, hc, bufferLog]

def Extends (s s' : Sys) (completions : List (ActivityBuffer × Nat)) : Prop :=
  ∃ new, s'.bufferLog = s.bufferLog ++ new ∧ new.Sublist completions

theorem Extends.of_eq (h : s'.bufferLog = s.bufferLog) (completions : List (ActivityBuffer × Nat)) :
    Extends s s' completions :=
  ⟨[], by rw [h, List.append_nil], List.nil_sublist _⟩

theorem Extends.trans {s₁ s₂ s₃ : Sys} {l₁ l₂ : List (ActivityBuffer × Nat)}
    (h₁ : Extends s₁ s₂ l₁) (h₂ : Extends s₂ s₃ l₂) : Extends s₁ s₃ (l₁ ++ l₂) := by
  obtain ⟨n₁, e₁, h₁⟩ := h₁
  obtain ⟨n₂, e₂, h₂⟩ := h₂
  exact ⟨n₁ ++ n₂, by rw [e₂, e₁, List.append_assoc], h₁.append h₂⟩

theorem ProducerStep.bufferLog_eq (h : ProducerStep s s') : s'.bufferLog = s.bufferLog := by
  obtain ⟨hc, hd, -, ⟨n, hook, ht⟩, -⟩ := h
  exact Sys.bufferLog_eq hd (by rw [poppedBuffers, hc, poppedBuffers])
    (World.cachedBuffers_eq (by rw [ht]))

theorem bufferLog_enable {o : CuptiTracerOptions} {c : CuptiTraceCollector} (hi : s.Inv)
    (h : s.enable o c = .ok s') : s'.bufferLog = s.bufferLog := by
  unfold enable at h
  split at h
  · rename_i hg
    obtain ⟨r, hr, rfl⟩ := map_eq_ok.mp h
    obtain ⟨hidle, hav⟩ := (Bool.and_eq_true _ _).mp hg
    have hapi : s.world.tracer.apiTracingEnabled = false := by
      simp only [CuptiTracer.isAvailable, Bool.and_eq_true, Bool.not_eq_true'] at hav
      exact hav.1.2
    have hnone := hi.idle_buffers (controller_eq_idle (by simp [hidle])) hapi
    obtain ⟨-, -, -, hm⟩ := World.enable_callbackState hav hr
    refine bufferLog_eq (World.enable_frame hapi hr).2 rfl ?_
    simp only [World.cachedBuffers, hnone, Option.map_none', Option.getD_none]
    cases hb : r.2.tracer.activityBuffers with
    | none => rfl
    | some m => simp [(hm m hb).resolve_right (by simp [hnone])]
  · cases h; rfl

theorem bufferLog_disable (h : s.disable = .ok s') : s'.bufferLog = s.bufferLog := by
  unfold disable at h
  split at h
  · cases h; rfl
  rename_i hidle
  have hc := controller_eq_idle hidle
  obtain ⟨w, hw, h⟩ := bind_eq_ok.mp h
  split at h
  · cases h
  · cases h
    exact bufferLog_eq (World.shutDown_frame hw).delivered (by simp [poppedBuffers, hc])
      (World.shutDown_cachedBuffers hw)

theorem bufferLog_flushEventsToCollector (h : s.flushEventsToCollector = .ok s') :
    s'.bufferLog = s.bufferLog := by
  unfold flushEventsToCollector at h
  split at h
  · cases h; rfl
  rename_i hidle
  have hc := controller_eq_idle hidle
  split at h
  · cases h; rfl
  obtain ⟨r, hr, h⟩ := bind_eq_ok.mp h
  split at h
  · cases h
  · cases h
    obtain ⟨h₁, h₂⟩ := World.popCachedActivityBuffers_cached hr
    simp only [bufferLog, poppedBuffers, hc, World.deliveredBuffers_eq
      (World.popCachedActivityBuffers_frame hr).delivered, h₁, h₂, List.append_nil]
    split <;> simp

theorem bufferLog_resume : s.resume.bufferLog = s.bufferLog := by
  unfold resume
  split <;> rename_i hc
  · rfl
  · simp [bufferLog, poppedBuffers, hc]
  · obtain ⟨h₁, h₂⟩ := World.deliverActivityData_buffers (w := s.world) (c := ‹_›)
    simp [bufferLog, poppedBuffers, hc, h₁, h₂]
  · simp [bufferLog, poppedBuffers, hc]
  · simp [bufferLog, poppedBuffers, hc, World.deliverFlushedCallbackData_cachedBuffers]
  · simp [bufferLog, poppedBuffers, hc, CollectorCall.buffers]

theorem bufferLog_setActivityFlushPeriod : s.setActivityFlushPeriod.bufferLog = s.bufferLog := by
  unfold setActivityFlushPeriod
  split
  · exact bufferLog_eq (World.setActivityFlushPeriod_frame _).delivered rfl
      (World.cachedBuffers_eq (by simp))
  · rfl

theorem bufferLog_requestActivityBuffer :
    ({ s with world := s.world.requestActivityBuffer } : Sys).bufferLog = s.bufferLog :=
  bufferLog_eq (World.requestActivityBuffer_frame _).delivered rfl
    World.requestActivityBuffer_cachedBuffers

end Sys

end GpuTracer
