import GpuTracer.Interleaving

/-! What holds at every state of every interleaving: where each pushed event is, how far the callback
budget can be exceeded, and when the buffers the controller hands over were cached. -/
namespace GpuTracer

def CollectorCall.events (i : Nat) : CollectorCall → List CuptiTracerEvent
  | .onTracerCollectedCallbackData data _ => ((data[i]?).map (·.eventQueue)).getD []
  | _ => []

namespace World

def deliveredEvents (w : World) (i : Nat) : List CuptiTracerEvent :=
  w.delivered.flatMap fun d => d.2.events i

def queue (w : World) (i : Nat) : List CuptiTracerEvent := (w.thread i).guarded.eventQueue

variable {w : World} {c : CuptiTraceCollector} {i : Nat}

@[simp] theorem deliveredEvents_deliver (call : CollectorCall) :
    (w.deliver c call).deliveredEvents i = w.deliveredEvents i ++ call.events i := by
  simp [deliveredEvents, deliver]

@[simp] theorem gathered_events (b : Bool) : CollectorCall.events i
    (.onTracerCollectedCallbackData w.gatherCallbackAnnotationsAndEvents.1 b) = w.queue i := by
  simp only [CollectorCall.events, gatherCallbackAnnotationsAndEvents, List.getElem?_map, queue, thread]
  cases w.threads[i]? <;> rfl

@[simp] theorem events_setTracingEndTimeNs (t : UInt64) :
    (CollectorCall.setTracingEndTimeNs t).events i = [] := rfl

@[simp] theorem queue_deliver (call : CollectorCall) : (w.deliver c call).queue i = w.queue i := rfl

@[simp] theorem queue_getTimestamp : w.getTimestamp.2.queue i = w.queue i := rfl

@[simp] theorem queue_clearedThreads :
    ({ w with threads := clearedThreads w.threads } : World).queue i = [] := by
  simp only [queue, thread, clearedThreads, List.getElem?_map]
  cases w.threads[i]? <;> rfl

@[simp] theorem gather_deliveredEvents :
    w.gatherCallbackAnnotationsAndEvents.2.deliveredEvents i = w.deliveredEvents i := rfl

@[simp] theorem getTimestamp_deliveredEvents : w.getTimestamp.2.deliveredEvents i = w.deliveredEvents i :=
  rfl

theorem deliverCallbackData_deliveredEvents :
    (w.deliverCallbackData c).deliveredEvents i = w.deliveredEvents i ++ w.queue i := by
  simp only [deliverCallbackData, deliveredEvents_deliver, gather_deliveredEvents,
    getTimestamp_deliveredEvents, events_setTracingEndTimeNs, List.append_nil, gathered_events,
    queue_deliver, queue_getTimestamp]

@[simp] theorem deliverCallbackData_queue : (w.deliverCallbackData c).queue i = [] := by
  simp only [queue, thread, deliverCallbackData_threads, clearedThreads, List.getElem?_map]
  cases w.threads[i]? <;> rfl

@[simp] theorem setTracer_deliveredEvents (t : CuptiTracer) :
    (w.setTracer t).deliveredEvents i = w.deliveredEvents i := rfl

theorem deliverActivityData_deliveredEvents :
    (w.deliverActivityData c).deliveredEvents i = w.deliveredEvents i := by
  unfold deliverActivityData
  cases hb : w.tracer.activityBuffers <;>
    simp only [hb, apply_ite (deliveredEvents · i), deliveredEvents_deliver, setTracer_deliveredEvents,
      CollectorCall.events, List.append_nil, ite_self]

@[simp] theorem deliverActivityData_queue : (w.deliverActivityData c).queue i = w.queue i := by
  simp only [queue, thread, deliverActivityData_threads]

theorem deliverFlushedCallbackData_deliveredEvents :
    (w.deliverFlushedCallbackData c).deliveredEvents i =
      if w.tracer.apiTracingEnabled then w.deliveredEvents i ++ w.queue i else w.deliveredEvents i := by
  unfold deliverFlushedCallbackData
  split <;> simp only [deliveredEvents_deliver, gather_deliveredEvents, gathered_events]

theorem deliverFlushedCallbackData_queue :
    (w.deliverFlushedCallbackData c).queue i = if w.tracer.apiTracingEnabled then [] else w.queue i := by
  unfold deliverFlushedCallbackData
  split
  · simp only [queue, thread, deliver_threads, gatherCallbackAnnotationsAndEvents, List.getElem?_map]
    cases w.threads[i]? <;> rfl
  · rfl

theorem Frame.queue {w' : World} (h : Frame w w') : w'.queue i = w.queue i := by
  simp only [World.queue, thread, h.threads]

theorem Frame.deliveredEvents {w' : World} (h : Frame w w') :
    w'.deliveredEvents i = w.deliveredEvents i := by
  simp only [World.deliveredEvents, h.delivered]

theorem queue_setThread (j : Nat) (th : ThreadLocal) :
    (w.setThread i th).queue j =
      if i = j ∧ i < w.threads.length then th.guarded.eventQueue else w.queue j := by
  simp only [queue, thread, setThread, List.getElem?_set]
  by_cases hij : i = j
  · subst hij
    by_cases hi : i < w.threads.length
    · simp [hi]
    · simp [hi, List.getElem?_eq_none (Nat.le_of_not_lt hi)]
  · simp [hij]

@[simp] theorem deliverFlushedCallbackData_tracer :
    (w.deliverFlushedCallbackData c).tracer = w.tracer := by
  unfold deliverFlushedCallbackData; split <;> rfl

theorem queue_of_cleared {w' : World} (h : w'.threads = clearedThreads w.threads) (i : Nat) :
    w'.queue i = [] := by
  simp only [queue, thread, h, clearedThreads, List.getElem?_map]
  cases w.threads[i]? <;> rfl

theorem setActivityFlushPeriod_frame (w : World) : Frame w w.setActivityFlushPeriod.2 := by
  unfold setActivityFlushPeriod; split <;> exact ⟨rfl, rfl⟩

theorem requestActivityBuffer_frame (w : World) : Frame w w.requestActivityBuffer := by
  unfold requestActivityBuffer; split <;> exact ⟨rfl, rfl⟩

structure SameEvents (w w' : World) : Prop where
  length : w'.threads.length = w.threads.length
  queue : ∀ i, w'.queue i = w.queue i
  deliveredEvents : ∀ i, w'.deliveredEvents i = w.deliveredEvents i

theorem Frame.sameEvents {w' : World} (h : Frame w w') : SameEvents w w' :=
  ⟨by rw [h.threads], fun _ => h.queue, fun _ => h.deliveredEvents⟩

theorem SameEvents.trans {w₂ w₃ : World} (h₁ : SameEvents w w₂) (h₂ : SameEvents w₂ w₃) :
    SameEvents w w₃ :=
  ⟨h₂.length.trans h₁.length, fun i => (h₂.queue i).trans (h₁.queue i),
    fun i => (h₂.deliveredEvents i).trans (h₁.deliveredEvents i)⟩

theorem setTracer_sameEvents (w : World) (t : CuptiTracer) : SameEvents w (w.setTracer t) :=
  ⟨rfl, fun _ => rfl, fun _ => rfl⟩

theorem deliverActivityData_sameEvents : SameEvents w (w.deliverActivityData c) :=
  ⟨by rw [deliverActivityData_threads], fun _ => deliverActivityData_queue,
    fun _ => deliverActivityData_deliveredEvents⟩

theorem setThread_sameEvents {th : ThreadLocal} (h : th.guarded.eventQueue = w.queue i) :
    SameEvents w (w.setThread i th) where
  length := List.length_set ..
  queue j := by
    rw [queue_setThread]
    split
    · next hij => exact hij.1 ▸ h
    · rfl
  deliveredEvents _ := rfl

theorem enableApiTracing_status {r : Status × World} (hapi : w.tracer.apiTracingEnabled = false)
    (h : w.enableApiTracing = .ok r) (hs : r.1 = .ok) : r.2.tracer.apiTracingEnabled = true := by
  unfold enableApiTracing at h
  simp only [hapi, Bool.false_eq_true, if_false] at h
  split at h
  · cases h; exact absurd hs ‹_›
  · obtain ⟨_, -, rfl⟩ := map_eq_ok.mp h; rfl

theorem enable_callbackState {o : CuptiTracerOptions} {r : Status × World}
    (hav : w.tracer.isAvailable) (h : w.enable o c = .ok r) :
    r.2.tracer.numCallbackEvents = 0 ∧ r.2.tracer.collector = some c ∧
      (r.2.tracer.apiTracingEnabled = false → r.2.tracer.activityBuffers = w.tracer.activityBuffers) ∧
      ∀ m, r.2.tracer.activityBuffers = some m → m.cached = [] ∨ w.tracer.activityBuffers = some m := by
  simp only [CuptiTracer.isAvailable, Bool.and_eq_true, Bool.not_eq_true'] at hav
  obtain ⟨⟨⟨-, hact⟩, hapi⟩, hpm⟩ := hav
  unfold enable at h
  simp only at h
  obtain ⟨r₁, h₁, h⟩ := bind_eq_ok.mp h
  obtain ⟨x, hx⟩ := enableApiTracing_tracer (by simp [setTracer, hapi]) h₁
  split at h
  · rw [← Except.ok.inj h]
    simp only [hx, setTracer, true_and]
    exact ⟨fun _ => trivial, fun m hm => .inr hm⟩
  · rename_i hs
    have hx₁ : x = true := by
      have := enableApiTracing_status (by simp [setTracer, hapi]) h₁ (by simpa using hs)
      simpa [hx] using this
    obtain ⟨r₂, h₂, h⟩ := bind_eq_ok.mp h
    obtain ⟨y, hy⟩ := enableActivityTracing_tracer (by simp [setTracer, hx, hact]) h₂
    rw [← Except.ok.inj h]
    split
    · obtain ⟨s, p, hs, -⟩ := startPmSampler_tracer r₁.1 { r₂.2 with annotationStackEnabled := true }
        (by simp [hy, hx, setTracer, prepareActivityStart, hpm])
      rw [hs]
      simp [hy, hx, hx₁, setTracer, prepareActivityStart]
    · simp [hy, hx, hx₁, setTracer, prepareActivityStart]

theorem cachedBuffers_eq {w' : World} (h : w'.tracer.activityBuffers = w.tracer.activityBuffers) :
    w'.cachedBuffers = w.cachedBuffers := by
  simp only [cachedBuffers, h]

@[simp] theorem deliverFlushedCallbackData_cachedBuffers :
    (w.deliverFlushedCallbackData c).cachedBuffers = w.cachedBuffers :=
  cachedBuffers_eq (by rw [deliverFlushedCallbackData_tracer])

theorem popCachedActivityBuffers_cached {r : List (ActivityBuffer × Nat) × World}
    (h : w.popCachedActivityBuffers = .ok r) :
    r.1 = (if w.tracer.activityTracingEnabled then w.cachedBuffers else []) ∧
      r.2.cachedBuffers = if w.tracer.activityTracingEnabled then [] else w.cachedBuffers := by
  unfold popCachedActivityBuffers at h
  split at h
  · split at h
    · cases h
    · cases h; simp [*, cachedBuffers, CuptiActivityBufferManager.popCachedBuffers]
  · cases h; simp [*]

theorem processActivityBuffer_cached {b : ActivityBuffer} {size : Nat} {a : ActivityAnswers}
    {r : Status × World} (h : w.processActivityBuffer b size a = .ok r) :
    r.2.cachedBuffers = w.cachedBuffers ∨
      w.tracer.activityTracingEnabled = true ∧ r.2.cachedBuffers = w.cachedBuffers ++ [(b, size)] := by
  have hreclaim : ∀ {v : World} {st : Status}, v.reclaimBuffer b st = .ok r →
      v.tracer.activityBuffers = w.tracer.activityBuffers → r.2.cachedBuffers = w.cachedBuffers := by
    intro v st h hv
    unfold reclaimBuffer at h
    split at h
    · cases h
    · rename_i m hm
      cases h
      simp [cachedBuffers, ← hv, hm, CuptiActivityBufferManager.reclaimBuffer, setTracer]
  unfold processActivityBuffer at h
  simp only at h
  split at h
  · exact .inl (hreclaim h rfl)
  rename_i hs
  split at h
  · exact .inl (hreclaim h rfl)
  split at h
  · cases h
  split at h
  · exact .inl (hreclaim h rfl)
  split at h
  · cases h
  · rename_i m hm
    cases h
    refine .inr ⟨by simpa using (not_or.mp hs).2, ?_⟩
    simp [cachedBuffers, setTracer, CuptiActivityBufferManager.cacheCuptiFilledActivityBuffer] at hm ⊢
    simp [hm]

theorem requestActivityBuffer_cachedBuffers : w.requestActivityBuffer.cachedBuffers = w.cachedBuffers := by
  unfold requestActivityBuffer
  split
  · rfl
  · simp [cachedBuffers, setTracer, *]

theorem shutDown_cachedBuffers {w' : World} (h : w.shutDown = .ok w') :
    w'.cachedBuffers = w.cachedBuffers := by
  obtain ⟨_, _, h⟩ := shutDown_tracer h
  exact cachedBuffers_eq (by rw [h])

end World



open GuardedCallbackAnnotationsAndEvents in
theorem foldl_push_eventQueue (tracer : CuptiTracer) {α : Type} (f : α → CuptiTracerEvent) :
    ∀ (l : List α) (g : CallbackAnnotationsAndEvents), ∃ new,
      (l.foldl (fun g x => push tracer g (f x)) g).eventQueue = g.eventQueue ++ new ∧
        new.length = l.length
  | [], g => ⟨[], by simp, rfl⟩
  | x :: l, g => by
    obtain ⟨new, h, hl⟩ := foldl_push_eventQueue tracer f l (push tracer g (f x))
    obtain ⟨e, -, he⟩ := push_stored tracer g (f x)
    exact ⟨e :: new, by rw [List.foldl_cons, h, he, List.append_assoc]; rfl, by simp [hl]⟩

section Exit

variable (tracer : CuptiTracer) (event : CuptiTracerEvent) (threadId deviceId : UInt32)
  (cbid : CallbackId) (cbdata : CallbackData) (startTime endTime : UInt64)

theorem setCudaGraphEventUponApiExit_eventQueue (graphExecId : Option UInt32)
    (order : List UInt64) (guarded : CallbackAnnotationsAndEvents) (info : GraphResourceCreationInfo) :
    ∃ new, (setCudaGraphEventUponApiExit tracer event threadId deviceId cbid cbdata startTime endTime
        graphExecId order guarded info).2.1.eventQueue = guarded.eventQueue ++ new ∧
      new.length = if createsNodeMapEvents cbid then info.nodeIdMap.entries.length else 0 := by
  unfold setCudaGraphEventUponApiExit
  by_cases hc : createsNodeMapEvents cbid
  · simp only [hc, if_true]
    obtain ⟨new, h, hl⟩ := foldl_push_eventQueue tracer _ _ guarded
    exact ⟨new, h, by rw [hl]; split <;> simp⟩
  · simp only [hc, Bool.false_eq_true, if_false]
    exact ⟨[], by simp, rfl⟩

theorem setCallbackEventUponApiExit_eventQueue (q : ExitQueries) (guarded : CallbackAnnotationsAndEvents)
    (info : GraphResourceCreationInfo)
    {r : CuptiTracerEvent × CallbackAnnotationsAndEvents × GraphResourceCreationInfo}
    (h : setCallbackEventUponApiExit tracer event threadId deviceId cbid cbdata startTime endTime q
      guarded info = .ok r) :
    ∃ new, r.2.1.eventQueue = guarded.eventQueue ++ new ∧
      new.length = if createsNodeMapEvents cbid then info.nodeIdMap.entries.length else 0 := by
  have hc : exitHandler cbid ≠ .cudaGraph → createsNodeMapEvents cbid = false := fun h =>
    Bool.eq_false_iff.mpr fun hc => h (createsNodeMapEvents_exitHandler hc)
  unfold setCallbackEventUponApiExit at h
  cases hx : exitHandler cbid
  case cudaGraph =>
    simp only [hx] at h
    cases h
    exact setCudaGraphEventUponApiExit_eventQueue tracer event threadId deviceId cbid cbdata
      startTime endTime q.graphExecId q.nodeMapOrder guarded info
  case cudaGraphNode =>
    simp only [hx] at h
    obtain ⟨_, -, rfl⟩ := map_eq_ok.mp h
    exact ⟨[], by simp, by simp [hc, hx]⟩
  all_goals
    simp only [hx] at h
    cases h
    exact ⟨[], by simp, by simp [hc, hx]⟩

end Exit

open GuardedCallbackAnnotationsAndEvents in
theorem recordDriverApiCallbackEvent_eventQueue {tracer : CuptiTracer} {stack : AnnotationStack}
    {threadId deviceId : UInt32} {startTsc endTsc : UInt64} {cbid : CallbackId}
    {cbdata : CallbackData} {q : ExitQueries} {th : ThreadLocal} {r : CuptiTracer × ThreadLocal}
    (h : recordDriverApiCallbackEvent tracer stack threadId deviceId startTsc endTsc cbid cbdata q th
      = .ok r) :
    r.1 = tracer.incCallbackEventCount ∧ ∃ new,
      r.2.guarded.eventQueue = th.guarded.eventQueue ++ new ∧
      new.length = 1 + if createsNodeMapEvents cbid then th.graphInfo.nodeIdMap.entries.length else 0 := by
  unfold recordDriverApiCallbackEvent at h
  obtain ⟨r', h', rfl⟩ := map_eq_ok.mp h
  obtain ⟨new, hq, hl⟩ := setCallbackEventUponApiExit_eventQueue _ _ _ _ _ _ _ _ _ _ _ h'
  obtain ⟨e, -, he⟩ := push_stored tracer.incCallbackEventCount r'.2.1 r'.1
  refine ⟨rfl, new ++ [e], ?_, by simp [hl, Nat.add_comm]⟩
  simp only [he, hq, addScopeRangeIdSequence_eventQueue, List.append_assoc]

end GpuTracer
