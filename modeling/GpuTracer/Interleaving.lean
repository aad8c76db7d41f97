import GpuTracer.GraphThread

/-! The tracer at the grain of its unsynchronised reads: a driver-API callback takes three steps,
`Disable` and `FlushEventsToCollector` hand their data over in parts, and all of these interleave
with the vendor's buffer requests and completions. Run back to back, each is its atomic operation. -/
namespace GpuTracer

/-- Where a producer thread is in a driver-API callback. -/
inductive ProducerPc
  | idle
  /-- Past `HandleCallback`'s checks of `api_tracing_enabled_` and the hook. -/
  | entered (stack : AnnotationStack) (cbid : CallbackId) (cbdata : CallbackData)
      (answers : DriverCallbackAnswers)
  /-- Past `TooManyCallbackEvents`, before `IncCallbackEventCount`. -/
  | admitted (stack : AnnotationStack) (deviceId : UInt32) (cbid : CallbackId)
      (cbdata : CallbackData) (answers : DriverCallbackAnswers)

namespace ProducerPc

def isIdle : ProducerPc → Bool
  | .idle => true
  | _ => false

def isAdmitted : ProducerPc → Bool
  | .admitted .. => true
  | _ => false

end ProducerPc

/-- Where the controller is in `Disable` or `FlushEventsToCollector`: the part it runs next. -/
inductive ControllerPc
  | idle
  | disableDeliverCallbackData (c : CuptiTraceCollector)
  | disableDeliverActivityData (c : CuptiTraceCollector)
  | disableRelease
  | flushDeliverCallbackData (c : CuptiTraceCollector) (cached : List (ActivityBuffer × Nat))
  | flushDeliverActivityBuffers (c : CuptiTraceCollector) (cached : List (ActivityBuffer × Nat))

def ControllerPc.isIdle : ControllerPc → Bool
  | .idle => true
  | _ => false

namespace World

def thread (w : World) (i : Nat) : ThreadLocal := w.threads[i]?.getD {}

def setThread (w : World) (i : Nat) (th : ThreadLocal) : World :=
  { w with threads := w.threads.set i th }

def cachedBuffers (w : World) : List (ActivityBuffer × Nat) :=
  (w.tracer.activityBuffers.map (·.cached)).getD []


/-- The threads' states and the collector calls are those of `w`. -/
structure Frame (w w' : World) : Prop where
  threads : w'.threads = w.threads
  delivered : w'.delivered = w.delivered

theorem Frame.trans {w₁ w₂ w₃ : World} (h₁ : Frame w₁ w₂) (h₂ : Frame w₂ w₃) : Frame w₁ w₃ :=
  ⟨h₂.threads.trans h₁.threads, h₂.delivered.trans h₁.delivered⟩

variable {w w' : World} {r : Status × World}

theorem stopPmSampler_frame (h : w.stopPmSampler = .ok w') : Frame w w' := by
  unfold stopPmSampler at h
  split at h
  · split at h <;> cases h; exact ⟨rfl, rfl⟩
  · cases h; exact ⟨rfl, rfl⟩

theorem disableApiTracing_frame (h : w.disableApiTracing = .ok r) : Frame w r.2 := by
  unfold disableApiTracing at h
  split at h
  · cases h; exact ⟨rfl, rfl⟩
  · obtain ⟨_, -, rfl⟩ := map_eq_ok.mp h; exact ⟨rfl, rfl⟩

theorem disableActivityTracing_frame (h : w.disableActivityTracing = .ok r) : Frame w r.2 := by
  unfold disableActivityTracing at h
  split at h
  · cases h; exact ⟨rfl, rfl⟩
  · split at h
    · cases h
    · simp only at h
      split at h
      · cases h; exact ⟨rfl, rfl⟩
      · split at h <;> cases h <;> exact ⟨rfl, rfl⟩

theorem finalize_frame (h : w.finalize = .ok r) : Frame w r.2 := by
  unfold finalize at h
  split at h
  · cases h
  · cases h; split <;> exact ⟨rfl, rfl⟩

theorem shutDown_frame (h : w.shutDown = .ok w') : Frame w w' := by
  obtain ⟨w₂, h₂, h⟩ := bind_eq_ok.mp h
  obtain ⟨r₃, h₃, h⟩ := bind_eq_ok.mp h
  obtain ⟨r₄, h₄, h⟩ := bind_eq_ok.mp h
  obtain ⟨r₅, h₅, h⟩ := bind_eq_ok.mp h
  split at h
  · cases h
  · cases h
    exact (stopPmSampler_frame h₂).trans <| (disableApiTracing_frame h₃).trans <|
      (disableActivityTracing_frame h₄).trans (finalize_frame h₅)

theorem enableActivityTracing_frame (h : w.enableActivityTracing = .ok r) : Frame w r.2 := by
  unfold enableActivityTracing at h
  split at h
  · cases h; exact ⟨rfl, rfl⟩
  · simp only at h
    split at h
    · cases h
    · split at h <;> split at h <;> cases h <;> exact ⟨rfl, rfl⟩

theorem startPmSampler_frame (st : Status) (v : World) : Frame v (startPmSampler st v).2 := by
  unfold startPmSampler
  dsimp only
  split
  · exact ⟨rfl, rfl⟩
  · split <;> exact ⟨rfl, rfl⟩

def clearedThreads (threads : List ThreadLocal) : List ThreadLocal :=
  threads.map fun th => { th with guarded := {} }

theorem enable_frame {o : CuptiTracerOptions} {c : CuptiTraceCollector}
    (hapi : w.tracer.apiTracingEnabled = false) (h : w.enable o c = .ok r) :
    r.2.threads = clearedThreads w.threads ∧ r.2.delivered = w.delivered := by
  unfold enable at h
  simp only at h
  obtain ⟨r₁, h₁, h⟩ := bind_eq_ok.mp h
  have hf₁ : r₁.2.threads = clearedThreads w.threads ∧ r₁.2.delivered = w.delivered := by
    unfold enableApiTracing at h₁
    simp only [setTracer, hapi, Bool.false_eq_true, if_false] at h₁
    split at h₁
    · cases h₁; exact ⟨rfl, rfl⟩
    · obtain ⟨_, -, rfl⟩ := map_eq_ok.mp h₁; exact ⟨rfl, rfl⟩
  split at h
  · rw [← Except.ok.inj h]; exact hf₁
  · obtain ⟨r₂, h₂, h⟩ := bind_eq_ok.mp h
    have hf₂ := enableActivityTracing_frame h₂
    rw [← Except.ok.inj h]
    split
    · have hf₃ := startPmSampler_frame r₁.1 { r₂.2 with annotationStackEnabled := true }
      exact ⟨hf₃.threads.trans (hf₂.threads.trans hf₁.1), hf₃.delivered.trans (hf₂.delivered.trans hf₁.2)⟩
    · exact ⟨hf₂.threads.trans hf₁.1, hf₂.delivered.trans hf₁.2⟩

theorem popCachedActivityBuffers_frame {r : List (ActivityBuffer × Nat) × World}
    (h : w.popCachedActivityBuffers = .ok r) : Frame w r.2 := by
  unfold popCachedActivityBuffers at h
  split at h
  · split at h
    · cases h
    · cases h; exact ⟨rfl, rfl⟩
  · cases h; exact ⟨rfl, rfl⟩

theorem reclaimBuffer_frame {b : ActivityBuffer} {st : Status} (h : w.reclaimBuffer b st = .ok r) :
    Frame w r.2 := by
  unfold reclaimBuffer at h
  split at h
  · cases h
  · cases h; exact ⟨rfl, rfl⟩

theorem processActivityBuffer_frame {b : ActivityBuffer} {size : Nat} {a : ActivityAnswers}
    (h : w.processActivityBuffer b size a = .ok r) : Frame w r.2 := by
  unfold processActivityBuffer at h
  simp only at h
  split at h
  · exact ⟨(reclaimBuffer_frame h).1, (reclaimBuffer_frame h).2⟩
  split at h
  · exact ⟨(reclaimBuffer_frame h).1, (reclaimBuffer_frame h).2⟩
  split at h
  · cases h
  split at h
  · exact ⟨(reclaimBuffer_frame h).1, (reclaimBuffer_frame h).2⟩
  split at h
  · cases h
  · cases h; exact ⟨rfl, rfl⟩

end World

theorem list_set_eq_self {α : Type} {l : List α} {i : Nat} {a : α} (h : l[i]? = some a) :
    l.set i a = l :=
  List.ext_getElem? fun j => by
    rw [List.getElem?_set]
    split
    · subst_vars; rw [if_pos (List.getElem?_eq_some_iff.mp h).1, h]
    · rfl

theorem tooManyCallbackEvents_hook (tracer : CuptiTracer) (hook : Option CuptiDriverApiHook) :
    ({ tracer with cuptiDriverApiHook := hook } : CuptiTracer).tooManyCallbackEvents =
      tracer.tooManyCallbackEvents := rfl

theorem incCallbackEventCount_hook (tracer : CuptiTracer) (hook : Option CuptiDriverApiHook) :
    ({ tracer with cuptiDriverApiHook := hook } : CuptiTracer).incCallbackEventCount =
      { tracer.incCallbackEventCount with cuptiDriverApiHook := hook } := rfl

theorem setCallbackEventUponApiExit_hook (tracer : CuptiTracer) (hook : Option CuptiDriverApiHook) :
    setCallbackEventUponApiExit { tracer with cuptiDriverApiHook := hook } =
      setCallbackEventUponApiExit tracer := rfl

open GuardedCallbackAnnotationsAndEvents in
theorem push_hook (tracer : CuptiTracer) (hook : Option CuptiDriverApiHook) :
    push { tracer with cuptiDriverApiHook := hook } = push tracer := rfl

theorem recordDriverApiCallbackEvent_hook (tracer : CuptiTracer) (hook : Option CuptiDriverApiHook)
    (stack : AnnotationStack) (threadId deviceId : UInt32) (startTsc endTsc : UInt64)
    (cbid : CallbackId) (cbdata : CallbackData) (q : ExitQueries) (th : ThreadLocal) :
    recordDriverApiCallbackEvent { tracer with cuptiDriverApiHook := hook } stack threadId deviceId
        startTsc endTsc cbid cbdata q th =
      (recordDriverApiCallbackEvent tracer stack threadId deviceId startTsc endTsc cbid cbdata q th).map
        fun r => ({ r.1 with cuptiDriverApiHook := hook }, r.2) := by
  unfold recordDriverApiCallbackEvent
  simp only [incCallbackEventCount_hook, setCallbackEventUponApiExit_hook, push_hook]
  cases setCallbackEventUponApiExit tracer.incCallbackEventCount _ _ _ _ _ _ _ _ _ _ <;> rfl

namespace World

variable {w : World} {c : CuptiTraceCollector}

@[simp] theorem deliver_threads (call : CollectorCall) : (w.deliver c call).threads = w.threads := rfl

@[simp] theorem deliverCallbackData_threads :
    (w.deliverCallbackData c).threads = clearedThreads w.threads := rfl

@[simp] theorem deliverActivityData_threads : (w.deliverActivityData c).threads = w.threads := by
  unfold deliverActivityData
  cases hb : w.tracer.activityBuffers <;>
    simp only [hb, apply_ite World.threads, deliver_threads, ite_self]
  rfl

@[simp] theorem release_threads : w.release.threads = w.threads := rfl

@[simp] theorem deliverFlushedCallbackData_threads : (w.deliverFlushedCallbackData c).threads =
    if w.tracer.apiTracingEnabled then clearedThreads w.threads else w.threads := by
  unfold deliverFlushedCallbackData; split <;> rfl

@[simp] theorem setActivityFlushPeriod_threads : w.setActivityFlushPeriod.2.threads = w.threads := by
  unfold setActivityFlushPeriod; split <;> rfl

@[simp] theorem requestActivityBuffer_threads : w.requestActivityBuffer.threads = w.threads := by
  unfold requestActivityBuffer; split <;> rfl

@[simp] theorem length_clearedThreads (threads : List ThreadLocal) :
    (clearedThreads threads).length = threads.length :=
  List.length_map ..

theorem thread_eq {i : Nat} {th : ThreadLocal} (h : w.threads[i]? = some th) :
    w.thread i = th := by
  simp [World.thread, h]

@[simp] theorem thread_setTracer (t : CuptiTracer) (i : Nat) :
    (w.setTracer t).thread i = w.thread i := rfl

end World

/-- The tracer with its threads inside their operations, and ghost state: per thread the events
pushed, those pushed with API tracing off, those an `Enable` cleared, and when each buffered one
was pushed; when each cached and each popped buffer was cached; and a step clock. -/
structure Sys where
  world : World
  producers : List ProducerPc
  controller : ControllerPc := .idle
  clock : Nat := 0
  pushed : Nat → List CuptiTracerEvent := fun _ => []
  latePushed : Nat → List CuptiTracerEvent := fun _ => []
  cleared : Nat → List CuptiTracerEvent := fun _ => []
  pushTimes : Nat → List Nat := fun _ => []
  cacheTimes : List Nat := []
  poppedTimes : List Nat := []

namespace Sys

def init (numGpus kBufferSizeInBytes threads : Nat) (cupti : CuptiInterface) : Sys :=
  { world := World.init numGpus kBufferSizeInBytes threads cupti
    producers := List.replicate threads .idle }

def producer (s : Sys) (i : Nat) : ProducerPc := s.producers[i]?.getD .idle

def setProducer (s : Sys) (i : Nat) (p : ProducerPc) : Sys :=
  { s with producers := s.producers.set i p }

/-- A vendor callback arrives on idle thread `i`: `HandleCallback`'s checks of the flag and hook. -/
def arrive (i : Nat) (stack : AnnotationStack) (cb : VendorCallback) (s : Sys) : Except Fault Sys :=
  if !(s.producer i).isIdle || s.world.threads[i]?.isNone then .ok s else
  if !s.world.tracer.apiTracingEnabled || s.world.tracer.cuptiDriverApiHook.isNone then .ok s else
  match cb with
  | .driverApi cbid cbdata a => .ok (s.setProducer i (.entered stack cbid cbdata a))
  | .resource cbid ids =>
    let th := s.world.thread i
    let th' := { th with graphInfo := handleResourceCallback cbid ids th.graphInfo }
    .ok { s with world := s.world.setThread i th' }
  | .other => .ok s

open GuardedCallbackAnnotationsAndEvents in
/-- Thread `i` past `HandleCallback`: device checks, `TrackContext` through the hook as it is now,
and the budget check. -/
def dispatch (i : Nat) (s : Sys) : Except Fault Sys :=
  match s.producer i with
  | .entered stack cbid cbdata a =>
    let s' := s.setProducer i .idle
    match cbdata.context, a.deviceId with
    | none, _ => .ok s'
    | some ctx, (.success, deviceId) =>
      if s.world.tracer.numGpus ≤ deviceId.toNat then .ok s' else
      match cbdata.callbackSite with
      | .enter => .ok s'
      | .exit =>
        match s.world.tracer.cuptiDriverApiHook with
        | none => .error .nullDriverApiHook
        | some hook =>
          let t := { s.world.tracer with cuptiDriverApiHook := some (hook.trackContext cbid ctx) }
          let th := s.world.thread i
          let th' := { th with guarded := incNumDroppedEvents th.guarded }
          if t.tooManyCallbackEvents then
            .ok { s' with world := (s.world.setTracer t).setThread i th' }
          else .ok { s.setProducer i (.admitted stack deviceId cbid cbdata a) with
                      world := s.world.setTracer t }
    | some _, _ => .ok s'
  | _ => .ok s

/-- Thread `i`'s admitted exit: count and push under the tracer as it is now. -/
def record (i : Nat) (s : Sys) : Except Fault Sys :=
  match s.producer i with
  | .admitted stack deviceId cbid cbdata a =>
    let th := s.world.thread i
    (recordDriverApiCallbackEvent s.world.tracer stack i.toUInt32 deviceId cbdata.correlationData
        a.timestamp cbid cbdata a.exitQueries th).map fun r =>
      let new := r.2.guarded.eventQueue.drop th.guarded.eventQueue.length
      { s.setProducer i .idle with
        world := (s.world.setTracer r.1).setThread i r.2
        pushed := Function.update s.pushed i (s.pushed i ++ new)
        latePushed := if s.world.tracer.apiTracingEnabled then s.latePushed else
          Function.update s.latePushed i (s.latePushed i ++ new)
        pushTimes := Function.update s.pushTimes i (s.pushTimes i ++ new.map fun _ => s.clock) }
  | _ => .ok s

/-- `Enable`, by the idle controller on an available tracer: `CuptiTracer::Enable` checks nothing,
its callers check `IsAvailable`. Its `PrepareCallbackStart` clears every thread's buffer. -/
def enable (option : CuptiTracerOptions) (collector : CuptiTraceCollector) (s : Sys) :
    Except Fault Sys :=
  if s.controller.isIdle && s.world.tracer.isAvailable then
    (s.world.enable option collector).map fun r =>
      { s with world := r.2
               cleared := fun i => s.cleared i ++ (s.world.thread i).guarded.eventQueue
               pushTimes := fun _ => [] }
  else .ok s

/-- The start of `Disable`, by the idle controller: everything up to the collector calls. -/
def disable (s : Sys) : Except Fault Sys :=
  if !s.controller.isIdle then .ok s else
  s.world.shutDown.bind fun w =>
  match w.tracer.collector with
  | none => .error .nullCollector
  | some c => .ok { s with world := w, controller := .disableDeliverCallbackData c }

/-- The start of `FlushEventsToCollector`, by the idle controller: the pop of the cached buffers. -/
def flushEventsToCollector (s : Sys) : Except Fault Sys :=
  if !s.controller.isIdle then .ok s else
  if !s.world.tracer.apiTracingEnabled && !s.world.tracer.activityTracingEnabled then .ok s else
  s.world.popCachedActivityBuffers.bind fun r =>
  match r.2.tracer.collector with
  | none => .error .nullCollector
  | some c =>
    .ok { s with world := r.2, controller := .flushDeliverCallbackData c r.1
                 cacheTimes := if s.world.tracer.activityTracingEnabled then [] else s.cacheTimes
                 poppedTimes := if s.world.tracer.activityTracingEnabled then s.cacheTimes else [] }

/-- The controller's next part of `Disable` or `FlushEventsToCollector`. -/
def resume (s : Sys) : Sys :=
  match s.controller with
  | .idle => s
  | .disableDeliverCallbackData c =>
    { s with world := s.world.deliverCallbackData c, controller := .disableDeliverActivityData c
             pushTimes := fun _ => [] }
  | .disableDeliverActivityData c =>
    { s with world := s.world.deliverActivityData c, controller := .disableRelease
             cacheTimes := [] }
  | .disableRelease => { s with world := s.world.release, controller := .idle }
  | .flushDeliverCallbackData c cached =>
    { s with world := s.world.deliverFlushedCallbackData c
             controller := .flushDeliverActivityBuffers c cached
             pushTimes := if s.world.tracer.apiTracingEnabled then fun _ => [] else s.pushTimes }
  | .flushDeliverActivityBuffers c cached =>
    { s with world := s.world.deliver c (.onTracerCachedActivityBuffers cached)
             controller := .idle, poppedTimes := [] }

def setActivityFlushPeriod (s : Sys) : Sys :=
  if s.controller.isIdle then { s with world := s.world.setActivityFlushPeriod.2 } else s

/-- The vendor completes buffer `b`, which it holds; a cached buffer is timed. -/
def processActivityBuffer (b : ActivityBuffer) (size : Nat) (a : ActivityAnswers) (s : Sys) :
    Except Fault Sys :=
  if b ∈ s.world.lent then
    (s.world.processActivityBuffer b size a).map fun r =>
      { s with world := r.2
               cacheTimes := if r.2.cachedBuffers.length = s.world.cachedBuffers.length then
                 s.cacheTimes else s.cacheTimes ++ [s.clock] }
  else .ok s

end Sys

inductive Action
  | arrive (thread : Nat) (stack : AnnotationStack) (cb : VendorCallback)
  | dispatch (thread : Nat)
  | record (thread : Nat)
  | enable (option : CuptiTracerOptions) (collector : CuptiTraceCollector)
  | disable
  | flushEventsToCollector
  | resume
  | setActivityFlushPeriod
  | requestActivityBuffer
  | processActivityBuffer (buffer : ActivityBuffer) (size : Nat) (answers : ActivityAnswers)

namespace Sys

def perform (s : Sys) : Action → Except Fault Sys
  | .arrive i stack cb => s.arrive i stack cb
  | .dispatch i => s.dispatch i
  | .record i => s.record i
  | .enable o c => s.enable o c
  | .disable => s.disable
  | .flushEventsToCollector => s.flushEventsToCollector
  | .resume => .ok s.resume
  | .setActivityFlushPeriod => .ok s.setActivityFlushPeriod
  | .requestActivityBuffer => .ok { s with world := s.world.requestActivityBuffer }
  | .processActivityBuffer b size a => s.processActivityBuffer b size a

def tick (s : Sys) : Sys := { s with clock := s.clock + 1 }

def step (s : Sys) (a : Action) : Except Fault Sys := (s.perform a).map tick

def run (s : Sys) : List Action → Except Fault Sys
  | [] => .ok s
  | a :: as => (s.step a).bind fun s => run s as

end Sys

namespace Sys

variable {s : Sys} {i : Nat}

@[simp] theorem tick_world : s.tick.world = s.world := rfl
@[simp] theorem tick_producers : s.tick.producers = s.producers := rfl
@[simp] theorem tick_controller : s.tick.controller = s.controller := rfl
@[simp] theorem producer_tick : s.tick.producer i = s.producer i := rfl
@[simp] theorem setProducer_world (p : ProducerPc) : (s.setProducer i p).world = s.world := rfl
@[simp] theorem setProducer_producers (p : ProducerPc) :
    (s.setProducer i p).producers = s.producers.set i p := rfl
@[simp] theorem setProducer_controller (p : ProducerPc) :
    (s.setProducer i p).controller = s.controller := rfl

theorem producer_setProducer_self (p : ProducerPc) (h : i < s.producers.length) :
    (s.setProducer i p).producer i = p := by
  simp [producer, setProducer, h]

theorem dispatch_of_idle (h : s.producer i = .idle) : s.dispatch i = .ok s := by
  simp [dispatch, h]

theorem record_of_idle (h : s.producer i = .idle) : s.record i = .ok s := by
  simp [record, h]

theorem dispatch_record {stack : AnnotationStack} {cbid : CallbackId} {cbdata : CallbackData}
    {a : DriverCallbackAnswers} {th : ThreadLocal} {hook : CuptiDriverApiHook}
    (hp : s.producer i = .entered stack cbid cbdata a) (hth : s.world.threads[i]? = some th)
    (hhook : s.world.tracer.cuptiDriverApiHook = some hook) (hi : i < s.producers.length) :
    (s.run [.dispatch i, .record i]).map (fun s => (s.world, s.producers, s.controller)) =
      (handleDriverApiCallback s.world.tracer hook stack i.toUInt32 cbid cbdata a th).map fun r =>
        ({ s.world.setTracer { r.2.1 with cuptiDriverApiHook := some r.2.2.1 } with
            threads := s.world.threads.set i r.2.2.2 }, s.producers.set i .idle, s.controller) := by
  have hthr : s.world.thread i = th := World.thread_eq hth
  have hself : { s.world.setTracer { s.world.tracer with cuptiDriverApiHook := some hook } with
      threads := s.world.threads.set i th } = s.world := by
    rw [list_set_eq_self hth, ← hhook]; rfl
  simp only [run, step, perform, dispatch, hp, handleDriverApiCallback]
  rcases hctx : cbdata.context with _ | ctx
  case none => simp only [Except.map, Except.bind, record, producer, tick_producers,
      setProducer_producers, List.getElem?_set_self hi, Option.getD_some, tick_world,
      setProducer_world, hself, tick_controller, setProducer_controller]
  rcases hdev : a.deviceId with ⟨_ | _ | _, deviceId⟩
  case some.mk.success =>
    by_cases hg : s.world.tracer.numGpus ≤ deviceId.toNat
    · simp only [hg, if_true, Except.map, Except.bind, record, producer, tick_producers,
        setProducer_producers, List.getElem?_set_self hi, Option.getD_some, tick_world,
        setProducer_world, hself, tick_controller, setProducer_controller]
    rcases hsite : cbdata.callbackSite with _ | _
    · simp only [hg, if_false, Except.map, Except.bind, record, producer, tick_producers,
        setProducer_producers, List.getElem?_set_self hi, Option.getD_some, tick_world,
        setProducer_world, hself, tick_controller, setProducer_controller]
    simp only [hg, if_false, hhook, addDriverApiCallbackEvent, tooManyCallbackEvents_hook]
    by_cases hm : s.world.tracer.tooManyCallbackEvents
    · simp only [hm, if_true, Except.map, Except.bind, record, producer, tick_producers,
        setProducer_producers, List.getElem?_set_self hi, Option.getD_some, tick_world, hthr,
        tick_controller, setProducer_controller]
      rfl
    · simp only [hm, Bool.false_eq_true, if_false, Except.map, Except.bind, record, producer,
        tick_producers, setProducer_producers, List.getElem?_set_self hi, Option.getD_some,
        tick_world, hthr, World.thread_setTracer, World.setTracer_tracer,
        recordDriverApiCallbackEvent_hook, List.set_set, tick_controller, setProducer_controller]
      rcases recordDriverApiCallbackEvent s.world.tracer stack i.toUInt32 deviceId
        cbdata.correlationData a.timestamp cbid cbdata a.exitQueries th with e | r <;> rfl
  all_goals simp only [Except.map, Except.bind, record, producer, tick_producers,
    setProducer_producers, List.getElem?_set_self hi, Option.getD_some, tick_world,
    setProducer_world, hself, tick_controller, setProducer_controller]

/-- No operation is under way, and every registered thread has a producer. -/
structure Quiescent (s : Sys) : Prop where
  controller : s.controller = .idle
  producers : ∀ i, s.producer i = .idle
  length : s.producers.length = s.world.threads.length

theorem run_append (s : Sys) (as bs : List Action) :
    s.run (as ++ bs) = (s.run as).bind fun s => s.run bs := by
  induction as generalizing s with
  | nil => rfl
  | cons a as ih =>
    simp only [List.cons_append, run]
    cases s.step a with
    | error e => rfl
    | ok s' => exact ih s'

theorem Quiescent.tick (hq : s.Quiescent) : s.tick.Quiescent := ⟨hq.1, hq.2, hq.3⟩

theorem run_cons (s : Sys) (a : Action) (as : List Action) :
    s.run (a :: as) = (s.step a).bind fun s => s.run as := rfl

theorem actions_callback (stack : AnnotationStack) (cb : VendorCallback) (hq : s.Quiescent) :
    (s.run [.arrive i stack cb, .dispatch i, .record i]).map (·.world) =
        (s.world.callback i stack cb).map (·.2) ∧
      ∀ s', s.run [.arrive i stack cb, .dispatch i, .record i] = .ok s' → s'.Quiescent := by
  have hrest : ∀ s' : Sys, s'.producer i = .idle → s'.run [.dispatch i, .record i] = .ok s'.tick.tick :=
    fun s' h => by
      simp only [run, step, perform, dispatch_of_idle h,
        record_of_idle (show s'.tick.producer i = .idle from h), Except.map, Except.bind]
  have harrive : ∀ s', s.arrive i stack cb = .ok s' → s'.producer i = .idle →
      s.run [.arrive i stack cb, .dispatch i, .record i] = .ok s'.tick.tick.tick :=
    fun s' h h' => by rw [run_cons, step, perform, h]; exact hrest s'.tick h'
  unfold World.callback
  rcases hth : s.world.threads[i]? with _ | th
  · rw [harrive s (by simp [arrive, hth]) (hq.producers i)]
    exact ⟨rfl, fun s' h => by cases h; exact hq.tick.tick.tick⟩
  have hi : i < s.producers.length := hq.length ▸ (List.getElem?_eq_some_iff.mp hth).1
  have hself : { s.world.setTracer s.world.tracer with threads := s.world.threads.set i th } = s.world := by
    rw [list_set_eq_self hth]; rfl
  have hnoop : s.arrive i stack cb = .ok s →
      (s.run [.arrive i stack cb, .dispatch i, .record i]).map (·.world) =
        (Except.ok (Status.ok, { s.world.setTracer s.world.tracer with
          threads := s.world.threads.set i th }) : Except Fault (Status × World)).map (·.2) ∧
      ∀ s', s.run [.arrive i stack cb, .dispatch i, .record i] = .ok s' → s'.Quiescent := fun h => by
    rw [harrive s h (hq.producers i), hself]
    exact ⟨rfl, fun s' h => by cases h; exact hq.tick.tick.tick⟩
  unfold handleCallback
  by_cases hapi : s.world.tracer.apiTracingEnabled = false
  · simp only [hapi, Bool.not_false, if_true, Except.map]
    exact hnoop (by simp [arrive, hth, hapi, hq.producers i, ProducerPc.isIdle])
  simp only [Bool.not_eq_false] at hapi
  simp only [hapi, Bool.not_true, Bool.false_eq_true, if_false]
  rcases hhook : s.world.tracer.cuptiDriverApiHook with _ | hook
  · exact hnoop (by simp [arrive, hth, hapi, hhook, hq.producers i, ProducerPc.isIdle])
  cases cb with
  | other => exact hnoop (by simp [arrive, hth, hapi, hhook, hq.producers i, ProducerPc.isIdle])
  | resource cbid ids =>
    let th' := { th with graphInfo := handleResourceCallback cbid ids th.graphInfo }
    rw [harrive { s with world := s.world.setThread i th' }
      (by simp [arrive, hth, hapi, hhook, hq.producers i, ProducerPc.isIdle, World.thread_eq hth])
      (hq.producers i)]
    exact ⟨rfl, fun s' h => by cases h; exact ⟨hq.1, hq.2, by simpa [World.setThread] using hq.3⟩⟩
  | driverApi cbid cbdata a =>
    let s₁ := (s.setProducer i (.entered stack cbid cbdata a)).tick
    have hrun : s.run [.arrive i stack (.driverApi cbid cbdata a), .dispatch i, .record i] =
        s₁.run [.dispatch i, .record i] := by
      rw [run_cons, step, perform, show s.arrive i stack (.driverApi cbid cbdata a) =
        .ok (s.setProducer i (.entered stack cbid cbdata a)) by
          simp [arrive, hth, hapi, hhook, hq.producers i, ProducerPc.isIdle]]
      rfl
    have hdr : (s₁.run [.dispatch i, .record i]).map (fun s => (s.world, s.producers, s.controller)) =
        (handleDriverApiCallback s.world.tracer hook stack i.toUInt32 cbid cbdata a th).map fun r =>
          ({ s.world.setTracer { r.2.1 with cuptiDriverApiHook := some r.2.2.1 } with
              threads := s.world.threads.set i r.2.2.2 },
            (s.producers.set i (.entered stack cbid cbdata a)).set i .idle, s.controller) :=
      dispatch_record (show s₁.producer i = _ from producer_setProducer_self _ hi) hth hhook
        (by simpa [s₁] using hi)
    rw [hrun]
    rcases hx : handleDriverApiCallback s.world.tracer hook stack i.toUInt32 cbid cbdata a th with e | r
    · rw [hx] at hdr
      simp only [hx, map_eq_error.mp hdr, Except.map]
      exact ⟨trivial, fun s' h => by cases h⟩
    · rw [hx] at hdr
      obtain ⟨s', hs', heq⟩ := map_eq_ok.mp hdr
      simp only [Prod.mk.injEq, List.set_set] at heq
      obtain ⟨hw, hp, hc⟩ := heq
      simp only [hx, hs', Except.map, hw]
      refine ⟨trivial, fun s'' h => ?_⟩
      cases h
      refine ⟨hc.trans hq.controller, fun j => ?_, by simp [hp, hw, hq.length]⟩
      rw [producer, hp, List.getElem?_set]
      split_ifs <;> first | rfl | exact hq.producers j

end Sys

/-- Each operation of `step` as the steps that make it up. -/
def Op.actions : Op → List Action
  | .enable o c => [.enable o c]
  | .disable => [.disable, .resume, .resume, .resume]
  | .flushEventsToCollector => [.flushEventsToCollector, .resume, .resume]
  | .setActivityFlushPeriod => [.setActivityFlushPeriod]
  | .callback i stack cb => [.arrive i stack cb, .dispatch i, .record i]
  | .requestActivityBuffer => [.requestActivityBuffer]
  | .processActivityBuffer b size a => [.processActivityBuffer b size a]

namespace Sys

variable {s : Sys}

/-- The steps of each operation, run back to back from a quiescent state, are the operation. -/
theorem actions_refine (op : Op) (hq : s.Quiescent) :
    (s.run op.actions).map (·.world) = GpuTracer.step s.world op ∧
      ∀ s', s.run op.actions = .ok s' → s'.Quiescent := by
  cases op with
  | callback i stack cb => exact actions_callback stack cb hq
  | enable o c =>
    simp only [Op.actions, run, step, perform, Sys.enable, hq.controller, ControllerPc.isIdle,
      Bool.true_and, GpuTracer.step]
    split
    · rename_i hav
      have hapi : s.world.tracer.apiTracingEnabled = false := by
        simp only [CuptiTracer.isAvailable, Bool.and_eq_true, Bool.not_eq_true'] at hav
        exact hav.1.2
      rcases h : s.world.enable o c with e | r
      · exact ⟨rfl, fun s' h => by cases h⟩
      · refine ⟨rfl, fun s' hs => ?_⟩
        cases hs
        exact ⟨rfl, hq.2, by simp [(World.enable_frame hapi h).1, hq.3]⟩
    · exact ⟨rfl, fun s' h => by cases h; exact hq.tick⟩
  | disable =>
    simp only [Op.actions, run, step, perform, Sys.disable, hq.controller, ControllerPc.isIdle,
      Bool.not_true, Bool.false_eq_true, if_false, GpuTracer.step, World.disable]
    rcases h : s.world.shutDown with e | w
    · exact ⟨rfl, fun s' h => by cases h⟩
    rcases hc : w.tracer.collector with _ | c
    · simp only [Except.bind, hc]
      exact ⟨rfl, fun s' h => by cases h⟩
    · simp only [Except.bind, hc, Except.map, resume, tick_controller]
      refine ⟨rfl, fun s' hs => ?_⟩
      cases hs
      exact ⟨rfl, hq.2, by simp [(World.shutDown_frame h).threads, hq.3]⟩
  | flushEventsToCollector =>
    simp only [Op.actions, run, step, perform, Sys.flushEventsToCollector, hq.controller,
      ControllerPc.isIdle, Bool.not_true, Bool.false_eq_true, if_false, GpuTracer.step,
      World.flushEventsToCollector]
    split
    · simp only [Except.map, Except.bind, resume, tick_controller, hq.controller]
      exact ⟨rfl, fun s' hs => by cases hs; exact hq.tick.tick.tick⟩
    rcases h : s.world.popCachedActivityBuffers with e | r
    · exact ⟨rfl, fun s' h => by cases h⟩
    rcases hc : r.2.tracer.collector with _ | c
    · simp only [Except.bind, hc]
      exact ⟨rfl, fun s' h => by cases h⟩
    · simp only [Except.bind, hc, Except.map, resume, tick_controller]
      refine ⟨rfl, fun s' hs => ?_⟩
      cases hs
      refine ⟨rfl, hq.2, ?_⟩
      simp only [tick_world, World.deliver_threads, World.deliverFlushedCallbackData_threads,
        (World.popCachedActivityBuffers_frame h).threads, apply_ite List.length,
        World.length_clearedThreads, ite_self]
      exact hq.3
  | setActivityFlushPeriod =>
    simp only [Op.actions, run, step, perform, Sys.setActivityFlushPeriod, hq.controller,
      ControllerPc.isIdle, if_true, GpuTracer.step, Except.map, Except.bind]
    exact ⟨rfl, fun s' hs => by cases hs; exact ⟨rfl, hq.2, by simp [hq.3]⟩⟩
  | requestActivityBuffer =>
    simp only [Op.actions, run, step, perform, GpuTracer.step, Except.map, Except.bind]
    exact ⟨rfl, fun s' hs => by cases hs; exact ⟨hq.1, hq.2, by simp [hq.3]⟩⟩
  | processActivityBuffer b size a =>
    simp only [Op.actions, run, step, perform, Sys.processActivityBuffer, GpuTracer.step]
    split
    · rcases h : s.world.processActivityBuffer b size a with e | r
      · exact ⟨rfl, fun s' h => by cases h⟩
      · refine ⟨rfl, fun s' hs => ?_⟩
        cases hs
        exact ⟨hq.1, hq.2, by simp [(World.processActivityBuffer_frame h).threads, hq.3]⟩
    · exact ⟨rfl, fun s' hs => by cases hs; exact hq.tick⟩

theorem quiescent_init (numGpus kBufferSizeInBytes threads : Nat) (cupti : CuptiInterface) :
    (init numGpus kBufferSizeInBytes threads cupti).Quiescent :=
  ⟨rfl, fun i => by
    simp only [producer, init, List.getElem?_replicate]
    split <;> rfl, by simp [init, World.init]⟩

/-- On serial schedules the interleaved model is the atomic one. -/
theorem run_flatMap_actions (ops : List Op) (s : Sys) (hq : s.Quiescent) :
    (s.run (ops.flatMap Op.actions)).map (·.world) = GpuTracer.run s.world ops := by
  induction ops generalizing s with
  | nil => rfl
  | cons op ops ih =>
    obtain ⟨hstep, hq'⟩ := actions_refine op hq
    rw [List.flatMap_cons, run_append, GpuTracer.run_cons, ← hstep]
    rcases h : s.run op.actions with e | s'
    · rfl
    · exact ih s' (hq' s' h)

/-- A session with a kernel launch and a flush, run step by step, is the atomic run. -/
theorem serial_session_is_atomic_run :
    (init 1 64 1 .healthy).Quiescent ∧
      ((init 1 64 1 .healthy).run ([Op.enable {} ⟨0, {}⟩,
        .callback 0 {} (.driverApi (.api .cuLaunchKernel) { callbackSite := .exit, context := some 1 }
          { deviceId := (.success, 0) }), .flushEventsToCollector, .disable].flatMap Op.actions)).map
        (·.world) = GpuTracer.run (init 1 64 1 .healthy).world [Op.enable {} ⟨0, {}⟩,
          .callback 0 {} (.driverApi (.api .cuLaunchKernel)
            { callbackSite := .exit, context := some 1 } { deviceId := (.success, 0) }),
          .flushEventsToCollector, .disable] :=
  ⟨quiescent_init 1 64 1 .healthy, run_flatMap_actions _ _ (quiescent_init 1 64 1 .healthy)⟩

end Sys

end GpuTracer
