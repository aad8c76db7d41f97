import GpuTracer.Races

/-! The interned strings of the collected callback data, over any interleaving, argued once for any
property the empty collection has and the owning thread's buffer operations keep. -/

namespace GpuTracer

/-- A table of interned strings: each once, none empty. -/
def InternTable (strings : List String) : Prop := strings.Nodup ∧ "" ∉ strings

def Interns (strings : List String) (s : String) : Prop := s = "" ∨ s ∈ strings

theorem Interns.mono {l l' : List String} {s : String} (h : Interns l s) (hl : l ⊆ l') :
    Interns l' s :=
  h.imp_right fun hs => hl hs

theorem dedup_internTable {strings : List String} (h : InternTable strings) (s : String) :
    InternTable (dedup strings s).1 := by
  unfold dedup
  split
  · exact h
  · rename_i hs
    obtain ⟨hne, hns⟩ := not_or.mp hs
    exact ⟨h.1.append (List.nodup_singleton s) (List.disjoint_singleton.mpr hns),
      by simpa [h.2] using Ne.symm hne⟩

theorem dedup_interns (strings : List String) (s : String) : Interns (dedup strings s).1 s := by
  unfold dedup Interns
  split
  · rename_i hs
    exact hs
  · exact .inr (List.mem_append_right _ (List.mem_singleton_self s))

theorem subset_dedup (strings : List String) (s : String) : strings ⊆ (dedup strings s).1 := by
  unfold dedup
  split
  · exact List.Subset.refl _
  · exact List.subset_append_left _ _

namespace CallbackAnnotationsAndEvents

/-- Each event's annotation and nvtx range is empty or interned in the collection's tables. -/
structure Interned (c : CallbackAnnotationsAndEvents) : Prop where
  annotations : InternTable c.annotations
  nvtxRanges : InternTable c.nvtxRanges
  events : ∀ e ∈ c.eventQueue, Interns c.annotations e.annotation ∧ Interns c.nvtxRanges e.nvtxRange

end CallbackAnnotationsAndEvents

/-- A property of a collection that the empty one has and the owning thread's operations keep. -/
structure BufferInvariant (P : CallbackAnnotationsAndEvents → Prop) : Prop where
  empty : P {}
  push_keeps : ∀ tracer c event, P c → P (GuardedCallbackAnnotationsAndEvents.push tracer c event)
  drop_keeps : ∀ c, P c → P (GuardedCallbackAnnotationsAndEvents.incNumDroppedEvents c)
  scope_keeps : ∀ c sequence, P c →
    P (GuardedCallbackAnnotationsAndEvents.addScopeRangeIdSequence c sequence)

open GuardedCallbackAnnotationsAndEvents in
theorem interned_bufferInvariant : BufferInvariant CallbackAnnotationsAndEvents.Interned where
  empty := ⟨⟨List.nodup_nil, List.not_mem_nil _⟩, ⟨List.nodup_nil, List.not_mem_nil _⟩,
    fun _ h => absurd h (List.not_mem_nil _)⟩
  push_keeps tracer c event h := by
    refine ⟨dedup_internTable h.annotations _, dedup_internTable h.nvtxRanges _, fun e he => ?_⟩
    simp only [push, List.mem_append, List.mem_singleton] at he
    rcases he with he | rfl
    · exact ⟨(h.events e he).1.mono (subset_dedup _ _), (h.events e he).2.mono (subset_dedup _ _)⟩
    · simp only [push, dedup_snd]
      exact ⟨dedup_interns _ _, dedup_interns _ _⟩
  drop_keeps _ h := ⟨h.annotations, h.nvtxRanges, h.events⟩
  scope_keeps c sequence h := by
    unfold addScopeRangeIdSequence
    split
    · exact ⟨h.annotations, h.nvtxRanges, h.events⟩
    · exact h

namespace BufferInvariant

variable {P : CallbackAnnotationsAndEvents → Prop} (hP : BufferInvariant P)
include hP

theorem foldl_push (tracer : CuptiTracer) {α : Type} (f : α → CuptiTracerEvent) :
    ∀ (l : List α) (g : CallbackAnnotationsAndEvents), P g →
      P (l.foldl (fun g x => GuardedCallbackAnnotationsAndEvents.push tracer g (f x)) g)
  | [], _, h => h
  | x :: l, g, h => foldl_push tracer f l _ (hP.push_keeps tracer g (f x) h)

theorem setCallbackEventUponApiExit {tracer : CuptiTracer} {event : CuptiTracerEvent}
    {threadId deviceId : UInt32} {cbid : CallbackId} {cbdata : CallbackData}
    {startTsc endTsc : UInt64} {q : ExitQueries} {guarded : CallbackAnnotationsAndEvents}
    {info : GraphResourceCreationInfo}
    {r : CuptiTracerEvent × CallbackAnnotationsAndEvents × GraphResourceCreationInfo}
    (h : setCallbackEventUponApiExit tracer event threadId deviceId cbid cbdata startTsc endTsc q
      guarded info = .ok r) (hg : P guarded) : P r.2.1 := by
  unfold GpuTracer.setCallbackEventUponApiExit at h
  cases hx : exitHandler cbid
  case cudaGraph =>
    simp only [hx] at h
    cases h
    unfold setCudaGraphEventUponApiExit
    dsimp only
    split_ifs
    all_goals first | exact hg | exact hP.foldl_push tracer _ _ _ hg
  case cudaGraphNode =>
    simp only [hx] at h
    obtain ⟨_, -, rfl⟩ := map_eq_ok.mp h
    exact hg
  all_goals
    simp only [hx] at h
    cases h
    exact hg

theorem recordDriverApiCallbackEvent {tracer : CuptiTracer} {stack : AnnotationStack}
    {threadId deviceId : UInt32} {startTsc endTsc : UInt64} {cbid : CallbackId}
    {cbdata : CallbackData} {q : ExitQueries} {th : ThreadLocal} {r : CuptiTracer × ThreadLocal}
    (h : GpuTracer.recordDriverApiCallbackEvent tracer stack threadId deviceId startTsc endTsc cbid
      cbdata q th = .ok r) (hth : P th.guarded) : P r.2.guarded := by
  unfold GpuTracer.recordDriverApiCallbackEvent at h
  obtain ⟨r', h', rfl⟩ := map_eq_ok.mp h
  exact hP.push_keeps _ _ _ (hP.setCallbackEventUponApiExit h' (hP.scope_keeps _ _ hth))

end BufferInvariant

def CollectorCall.batches : CollectorCall → List CallbackAnnotationsAndEvents
  | .onTracerCollectedCallbackData data _ => data
  | _ => []

namespace World

variable {P : CallbackAnnotationsAndEvents → Prop} {w w' : World} {c : CuptiTraceCollector}

def collectedBatches (w : World) : List CallbackAnnotationsAndEvents :=
  w.delivered.flatMap fun d => d.2.batches

@[simp] theorem collectedBatches_deliver (call : CollectorCall) :
    (w.deliver c call).collectedBatches = w.collectedBatches ++ call.batches := by
  simp [collectedBatches, deliver]

/-- Every thread's collection has `P`, and so has every one handed to a collector. -/
structure BuffersHold (P : CallbackAnnotationsAndEvents → Prop) (w : World) : Prop where
  threads : ∀ th ∈ w.threads, P th.guarded
  collected : ∀ b ∈ w.collectedBatches, P b

@[simp] theorem setTracer_collectedBatches (t : CuptiTracer) :
    (w.setTracer t).collectedBatches = w.collectedBatches := rfl

theorem deliverActivityData_collectedBatches :
    (w.deliverActivityData c).collectedBatches = w.collectedBatches := by
  unfold deliverActivityData
  cases hb : w.tracer.activityBuffers <;>
    simp only [hb, apply_ite collectedBatches, collectedBatches_deliver, setTracer_collectedBatches,
      CollectorCall.batches, List.append_nil, ite_self]

theorem BuffersHold.of_frame (h : BuffersHold P w) (hf : Frame w w') : BuffersHold P w' :=
  ⟨hf.threads ▸ h.threads, by rw [collectedBatches, hf.delivered]; exact h.collected⟩

theorem BuffersHold.setThread (h : BuffersHold P w) {i : Nat} {th : ThreadLocal}
    (hth : P th.guarded) : BuffersHold P (w.setThread i th) := by
  refine ⟨fun th' hth' => ?_, h.collected⟩
  rcases List.mem_or_eq_of_mem_set hth' with hth' | rfl
  · exact h.threads th' hth'
  · exact hth

theorem BuffersHold.setTracer (h : BuffersHold P w) (t : CuptiTracer) :
    BuffersHold P (w.setTracer t) :=
  h.of_frame ⟨rfl, rfl⟩

theorem BuffersHold.deliverActivityData (h : BuffersHold P w) :
    BuffersHold P (w.deliverActivityData c) :=
  ⟨by rw [deliverActivityData_threads]; exact h.threads,
    by rw [deliverActivityData_collectedBatches]; exact h.collected⟩

theorem BuffersHold.deliver (h : BuffersHold P w) {call : CollectorCall}
    (hc : ∀ b ∈ call.batches, P b) : BuffersHold P (w.deliver c call) := by
  refine ⟨h.threads, fun b hb => ?_⟩
  rw [collectedBatches_deliver, List.mem_append] at hb
  exact hb.elim (h.collected b) (hc b)

variable (hP : BufferInvariant P)
include hP

theorem BuffersHold.thread_guarded (h : BuffersHold P w) (i : Nat) : P (w.thread i).guarded := by
  unfold World.thread
  cases hi : w.threads[i]? with
  | none => exact hP.empty
  | some th => exact h.threads th (List.getElem?_mem hi)

theorem BuffersHold.cleared (h : BuffersHold P w) (ht : w'.threads = clearedThreads w.threads)
    (hd : w'.delivered = w.delivered) : BuffersHold P w' := by
  refine ⟨fun th hth => ?_, by rw [collectedBatches, hd]; exact h.collected⟩
  rw [ht, clearedThreads, List.mem_map] at hth
  obtain ⟨_, -, rfl⟩ := hth
  exact hP.empty

theorem BuffersHold.gather (h : BuffersHold P w) (required : Bool) :
    BuffersHold P (w.gatherCallbackAnnotationsAndEvents.2.deliver c
      (.onTracerCollectedCallbackData w.gatherCallbackAnnotationsAndEvents.1 required)) := by
  have hc : BuffersHold P w.gatherCallbackAnnotationsAndEvents.2 := BuffersHold.cleared hP h rfl rfl
  refine hc.deliver fun b hb => ?_
  obtain ⟨th, hth, rfl⟩ := List.mem_map.mp hb
  exact h.threads th hth

theorem BuffersHold.deliverCallbackData (h : BuffersHold P w) :
    BuffersHold P (w.deliverCallbackData c) := by
  have h₀ : BuffersHold P w.getTimestamp.2 := h.of_frame ⟨rfl, rfl⟩
  have h₁ : BuffersHold P (w.getTimestamp.2.deliver c (.setTracingEndTimeNs w.getTimestamp.1)) :=
    h₀.deliver fun _ hb => absurd hb (List.not_mem_nil _)
  exact BuffersHold.gather hP h₁ _

theorem BuffersHold.deliverFlushedCallbackData (h : BuffersHold P w) :
    BuffersHold P (w.deliverFlushedCallbackData c) := by
  unfold World.deliverFlushedCallbackData
  split
  · exact BuffersHold.gather hP h _
  · exact h

end World

namespace Sys

variable {P : CallbackAnnotationsAndEvents → Prop} {s s' : Sys}

theorem buffersHold_disable (h : s.world.BuffersHold P) (hs : s.disable = .ok s') :
    s'.world.BuffersHold P := by
  unfold disable at hs
  split at hs
  · cases hs; exact h
  obtain ⟨w, hw, hs⟩ := bind_eq_ok.mp hs
  split at hs
  · cases hs
  · cases hs; exact h.of_frame (World.shutDown_frame hw)

theorem buffersHold_flushEventsToCollector (h : s.world.BuffersHold P)
    (hs : s.flushEventsToCollector = .ok s') : s'.world.BuffersHold P := by
  unfold flushEventsToCollector at hs
  split at hs
  · cases hs; exact h
  split at hs
  · cases hs; exact h
  obtain ⟨r, hr, hs⟩ := bind_eq_ok.mp hs
  split at hs
  · cases hs
  · cases hs; exact h.of_frame (World.popCachedActivityBuffers_frame hr)

theorem buffersHold_setActivityFlushPeriod (h : s.world.BuffersHold P) :
    s.setActivityFlushPeriod.world.BuffersHold P := by
  unfold setActivityFlushPeriod
  split
  · exact h.of_frame (World.setActivityFlushPeriod_frame _)
  · exact h

theorem buffersHold_processActivityBuffer {b : ActivityBuffer} {size : Nat} {a : ActivityAnswers}
    (h : s.world.BuffersHold P) (hs : s.processActivityBuffer b size a = .ok s') :
    s'.world.BuffersHold P := by
  unfold processActivityBuffer at hs
  split at hs
  · obtain ⟨r, hr, rfl⟩ := map_eq_ok.mp hs
    exact h.of_frame (World.processActivityBuffer_frame hr)
  · cases hs; exact h

section

variable (hP : BufferInvariant P)
include hP


theorem buffersHold_arrive {i : Nat} {stack : AnnotationStack} {cb : VendorCallback}
    (h : s.world.BuffersHold P) (hs : s.arrive i stack cb = .ok s') : s'.world.BuffersHold P := by
  unfold arrive at hs
  split at hs
  · cases hs; exact h
  split at hs
  · cases hs; exact h
  split at hs <;> cases hs
  · exact h
  · exact h.setThread (h.thread_guarded hP i)
  · exact h

theorem buffersHold_dispatch {i : Nat} (h : s.world.BuffersHold P) (hs : s.dispatch i = .ok s') :
    s'.world.BuffersHold P := by
  unfold dispatch at hs
  split at hs
  · split at hs
    · cases hs; exact h
    · split at hs
      · cases hs; exact h
      · split at hs
        · cases hs; exact h
        · split at hs
          · cases hs
          · simp only at hs
            split at hs <;> cases hs
            · exact (h.setTracer _).setThread (hP.drop_keeps _ (h.thread_guarded hP i))
            · exact h.setTracer _
    · cases hs; exact h
  · cases hs; exact h

theorem buffersHold_record {i : Nat} (h : s.world.BuffersHold P) (hs : s.record i = .ok s') :
    s'.world.BuffersHold P := by
  unfold record at hs
  split at hs
  · obtain ⟨r, hr, rfl⟩ := map_eq_ok.mp hs
    exact (h.setTracer _).setThread (hP.recordDriverApiCallbackEvent hr (h.thread_guarded hP i))
  · cases hs; exact h

theorem buffersHold_enable {o : CuptiTracerOptions} {c : CuptiTraceCollector}
    (h : s.world.BuffersHold P) (hs : s.enable o c = .ok s') : s'.world.BuffersHold P := by
  unfold enable at hs
  split at hs
  · rename_i hg
    obtain ⟨r, hr, rfl⟩ := map_eq_ok.mp hs
    have hapi : s.world.tracer.apiTracingEnabled = false := by
      simp only [Bool.and_eq_true, CuptiTracer.isAvailable, Bool.not_eq_true'] at hg
      exact hg.2.1.2
    obtain ⟨ht, hd⟩ := World.enable_frame hapi hr
    exact World.BuffersHold.cleared hP h ht hd
  · cases hs; exact h

theorem buffersHold_resume (h : s.world.BuffersHold P) : s.resume.world.BuffersHold P := by
  unfold resume
  split
  · exact h
  · exact World.BuffersHold.deliverCallbackData hP h
  · exact h.deliverActivityData
  · exact h.of_frame ⟨rfl, rfl⟩
  · exact World.BuffersHold.deliverFlushedCallbackData hP h
  · exact h.deliver fun _ hb => absurd hb (List.not_mem_nil _)

theorem buffersHold_step {a : Action} (h : s.world.BuffersHold P) (hs : s.step a = .ok s') :
    s'.world.BuffersHold P := by
  obtain ⟨s₁, h₁, rfl⟩ := map_eq_ok.mp hs
  show s₁.world.BuffersHold P
  cases a with
  | arrive => exact buffersHold_arrive hP h h₁
  | dispatch => exact buffersHold_dispatch hP h h₁
  | record => exact buffersHold_record hP h h₁
  | enable => exact buffersHold_enable hP h h₁
  | disable => exact buffersHold_disable h h₁
  | flushEventsToCollector => exact buffersHold_flushEventsToCollector h h₁
  | resume => cases h₁; exact buffersHold_resume hP h
  | setActivityFlushPeriod => cases h₁; exact buffersHold_setActivityFlushPeriod h
  | requestActivityBuffer => cases h₁; exact h.of_frame (World.requestActivityBuffer_frame _)
  | processActivityBuffer => exact buffersHold_processActivityBuffer h h₁

theorem buffersHold_run {as : List Action} (h : s.world.BuffersHold P) (hs : s.run as = .ok s') :
    s'.world.BuffersHold P := by
  induction as generalizing s with
  | nil => cases hs; exact h
  | cons a as ih =>
    obtain ⟨s₁, h₁, hs⟩ := bind_eq_ok.mp hs
    exact ih (buffersHold_step hP h h₁) hs

theorem buffersHold_init (numGpus kBufferSizeInBytes threads : Nat) (cupti : CuptiInterface) :
    (init numGpus kBufferSizeInBytes threads cupti).world.BuffersHold P := by
  refine ⟨fun th hth => ?_, fun _ hb => absurd hb (List.not_mem_nil _)⟩
  obtain ⟨-, rfl⟩ := List.mem_replicate.mp hth
  exact hP.empty

end

/-- Under any interleaving, every collection a thread holds or hands to a collector has its
strings interned: each kept once, none empty, and every event's strings among them. -/
theorem collected_strings_interned (numGpus kBufferSizeInBytes threads : Nat)
    (cupti : CuptiInterface) (as : List Action) (s : Sys)
    (h : (init numGpus kBufferSizeInBytes threads cupti).run as = .ok s) :
    (∀ th ∈ s.world.threads, th.guarded.Interned) ∧ ∀ b ∈ s.world.collectedBatches, b.Interned :=
  let hb := buffersHold_run interned_bufferInvariant (buffersHold_init interned_bufferInvariant ..) h
  ⟨hb.threads, hb.collected⟩

/-- Two exits under one annotation, then a flush: the annotation is kept once, in both events. -/
theorem repeated_annotation_interned_once :
    ∃ s, (init 1 64 1 .healthy).run
        [.enable {} ⟨0, {}⟩,
         .arrive 0 ⟨"step", []⟩ (.driverApi (.api .cuLaunchKernel)
           { callbackSite := .exit, context := some 1 } { deviceId := (.success, 0) }),
         .dispatch 0, .record 0,
         .arrive 0 ⟨"step", []⟩ (.driverApi (.api .cuLaunchKernel)
           { callbackSite := .exit, context := some 1 } { deviceId := (.success, 0) }),
         .dispatch 0, .record 0, .flushEventsToCollector, .resume, .resume] = .ok s ∧
      s.world.collectedBatches.map (fun b => (b.annotations, b.eventQueue.map CuptiTracerEvent.annotation)) =
        [(["step"], ["step", "step"])] ∧
      (∀ th ∈ s.world.threads, th.guarded.Interned) ∧ ∀ b ∈ s.world.collectedBatches, b.Interned :=
  ⟨_, rfl, rfl, collected_strings_interned 1 64 1 .healthy
    [.enable {} ⟨0, {}⟩,
     .arrive 0 ⟨"step", []⟩ (.driverApi (.api .cuLaunchKernel)
       { callbackSite := .exit, context := some 1 } { deviceId := (.success, 0) }),
     .dispatch 0, .record 0,
     .arrive 0 ⟨"step", []⟩ (.driverApi (.api .cuLaunchKernel)
       { callbackSite := .exit, context := some 1 } { deviceId := (.success, 0) }),
     .dispatch 0, .record 0, .flushEventsToCollector, .resume, .resume] _ rfl⟩

end Sys

end GpuTracer
