import GpuTracer.Callback

/-! The controller: `Enable`, `Disable`, the mid-session flush and the activity-buffer callbacks,
as operations on everything they touch. A run interleaves the profiler session's calls, the
producer threads' callbacks and the vendor library's buffer requests and completions. -/
namespace GpuTracer

/-- A call the tracer makes on a collector. -/
inductive CollectorCall
  | setTracingEndTimeNs (time : UInt64)
  | onTracerCollectedCallbackData (data : List CallbackAnnotationsAndEvents) (required : Bool)
  | onTracerCachedActivityBuffers (buffers : List (ActivityBuffer × Nat))
  | onEventsDropped (reason : String) (count : Nat)
  | flush

/-- Everything the controller's operations read and write, with the calls made on collectors. -/
structure World where
  tracer : CuptiTracer
  cupti : CuptiInterface
  threads : List ThreadLocal
  lent : List ActivityBuffer := []
  delivered : List (Nat × CollectorCall) := []
  annotationStackEnabled : Bool := false

def graphTracingResourceCbids : List ResourceCbid :=
  [.graphCreated, .graphCloned, .graphExecCreated, .graphNodeCreated, .graphNodeCloned]

/-- Modelled from the spec: a failed `CreatePmSampler` or `StartSampler` returns the vendor's status. -/
def pmSamplerStatus (r : CuptiResult) : Status := cuptiCallStatus r

/-- The options `Enable` records: for nvtx tracking the marker activity is selected too. -/
def CuptiTracerOptions.withNvtxMarker (option : CuptiTracerOptions) : CuptiTracerOptions :=
  if option.enableNvtxTracking ∧ .marker ∉ option.activitiesSelected then
    { option with activitiesSelected := option.activitiesSelected ++ [.marker] } else option

namespace World

/-- A constructed tracer: nothing enabled, nothing allocated, every thread fresh. -/
def init (numGpus kBufferSizeInBytes threads : Nat) (cupti : CuptiInterface) : World :=
  { tracer := { numGpus, kBufferSizeInBytes }, cupti, threads := List.replicate threads {} }

def setTracer (w : World) (t : CuptiTracer) : World := { w with tracer := t }

@[simp] theorem setTracer_tracer (w : World) (t : CuptiTracer) : (w.setTracer t).tracer = t := rfl

/-- `GetTimestamp`: the vendor's clock, 0 when it fails. -/
def getTimestamp (w : World) : UInt64 × World :=
  (if w.cupti.call.1.1 = .success then w.cupti.call.1.2.toUInt64 else 0,
    { w with cupti := w.cupti.call.2 })

def deliver (w : World) (c : CuptiTraceCollector) (call : CollectorCall) : World :=
  { w with delivered := w.delivered ++ [(c.id, call)] }

/-- Modelled from the spec: the options' `required_callback_api_events`, false without options. -/
def isCallbackApiEventsRequired (w : World) : Bool :=
  (w.tracer.option.map (·.requiredCallbackApiEvents)).getD false

/-- `GatherCallbackAnnotationsAndEvents`: `Consume` every thread's buffer. -/
def gatherCallbackAnnotationsAndEvents (w : World) : List CallbackAnnotationsAndEvents × World :=
  (w.threads.map (·.guarded), { w with threads := w.threads.map fun th => { th with guarded := {} } })

@[simp] theorem getTimestamp_tracer (w : World) : w.getTimestamp.2.tracer = w.tracer := rfl

@[simp] theorem deliver_tracer (w : World) (c : CuptiTraceCollector) (call : CollectorCall) :
    (w.deliver c call).tracer = w.tracer := rfl

@[simp] theorem gatherCallbackAnnotationsAndEvents_tracer (w : World) :
    w.gatherCallbackAnnotationsAndEvents.2.tracer = w.tracer := rfl

/-- `PrepareCallbackStart`: `Clear` every thread's buffer and zero the callback count. -/
def prepareCallbackStart (w : World) : World :=
  { w with threads := w.threads.map (fun th => { th with guarded := {} })
           tracer := { w.tracer with numCallbackEvents := 0 } }

/-- `PrepareActivityStart`: a new buffer manager, replacing any old one, and zeroed counters. -/
def prepareActivityStart (w : World) : World :=
  w.setTracer { w.tracer with
    activityBuffers := some { id := w.tracer.bufferManagersCreated
                              bufferSizeInBytes := w.tracer.kBufferSizeInBytes }
    bufferManagersCreated := w.tracer.bufferManagersCreated + 1
    cuptiDroppedActivityEventCount := 0
    numActivityEventsInCachedBuffer := 0
    numActivityEventsInDroppedBuffer := 0 }

/-- The callback switches of `EnableApiTracing` and `DisableApiTracing`, through `option_` unchecked. -/
def switchCallbacks (option : Option CuptiTracerOptions) (ci : CuptiInterface) :
    Except Fault (Status × CuptiInterface) :=
  let r := ci.cuptiCallEach graphTracingResourceCbids
  if r.1 ≠ .ok then .ok r else
  match option with
  | none => .error .emptyOption
  | some o => .ok (if o.cbidsSelected.isEmpty then r.2.cuptiCall else r.2.cuptiCallEach o.cbidsSelected)

/-- `EnableApiTracing`: the flag is set once the subscription succeeds, whatever the switches return. -/
def enableApiTracing (w : World) : Except Fault (Status × World) :=
  if w.tracer.apiTracingEnabled then .ok (.ok, w) else
  let w := w.prepareCallbackStart
  let r := w.cupti.cuptiCall
  if r.1 ≠ .ok then .ok (r.1, { w with cupti := r.2 }) else
  let t := { w.tracer with apiTracingEnabled := true }
  (switchCallbacks t.option r.2).map fun r => (r.1, { w with tracer := t, cupti := r.2 })

/-- `DisableApiTracing`: the flag is cleared first, then the callbacks are switched off. -/
def disableApiTracing (w : World) : Except Fault (Status × World) :=
  if !w.tracer.apiTracingEnabled then .ok (.ok, w) else
  let t := { w.tracer with apiTracingEnabled := false }
  (switchCallbacks t.option w.cupti).map fun r =>
    let r := CuptiInterface.andThen r CuptiInterface.cuptiCall
    (r.1, { w with tracer := t, cupti := r.2 })

/-- `EnableActivityTracing`: the flag is set only if every vendor call succeeds. -/
def enableActivityTracing (w : World) : Except Fault (Status × World) :=
  if w.tracer.activityTracingEnabled then .ok (.ok, w) else
  let w := w.prepareActivityStart
  match w.tracer.option with
  | none => .error .emptyOption
  | some o =>
    let r := if o.activitiesSelected.isEmpty then (.ok, w.cupti)
      else CuptiInterface.andThen w.cupti.cuptiCall (·.cuptiCallEach o.activitiesSelected)
    if r.1 ≠ .ok then .ok (r.1, { w with cupti := r.2 })
    else .ok (.ok, { w with tracer := { w.tracer with activityTracingEnabled := true }, cupti := r.2 })

/-- `DisableActivityTracing`: a failing call returns before the flag is cleared. -/
def disableActivityTracing (w : World) : Except Fault (Status × World) :=
  if !w.tracer.activityTracingEnabled then
    .ok (.ok, w.setTracer { w.tracer with activityTracingEnabled := false }) else
  match w.tracer.option with
  | none => .error .emptyOption
  | some o =>
    let r := w.cupti.cuptiCallEach (o.activitiesSelected.filter (· ≠ .concurrentKernel))
    if r.1 ≠ .ok then .ok (r.1, { w with cupti := r.2 }) else
    let t := { w.tracer with option := some { o with activitiesSelected := [] } }
    let r := r.2.cuptiCall
    if r.1 ≠ .ok then .ok (r.1, { w with tracer := t, cupti := r.2 })
    else .ok (.ok, { w with tracer := { t with activityTracingEnabled := false }, cupti := r.2 })

/-- `Finalize`: reads the options unchecked. -/
def finalize (w : World) : Except Fault (Status × World) :=
  match w.tracer.option with
  | none => .error .emptyOption
  | some o => .ok (if o.cuptiFinalize then (w.cupti.cuptiCall.1, { w with cupti := w.cupti.cuptiCall.2 })
      else (.ok, w))

/-- The sampler part of `Enable`: only a started sampler counts as sampling. -/
def startPmSampler (status : Status) (w : World) : Status × World :=
  let r := w.cupti.call
  if r.1.1 ≠ .success then (pmSamplerStatus r.1.1, { w with cupti := r.2 }) else
  let t := { w.tracer with pmSampler := some ⟨w.tracer.numGpus⟩ }
  let r := r.2.call
  if r.1.1 ≠ .success then (pmSamplerStatus r.1.1, { w with tracer := t, cupti := r.2 })
  else (status, { w with tracer := { t with pmSamplingEnabled := true }, cupti := r.2 })

/-- `Enable`: a failure of API tracing is returned, one of activity tracing ignored. -/
def enable (option : CuptiTracerOptions) (collector : CuptiTraceCollector) (w : World) :
    Except Fault (Status × World) :=
  let option := option.withNvtxMarker
  let w := w.setTracer { w.tracer with option := some option, collector := some collector
                                       cuptiDriverApiHook := some { option } }
  w.enableApiTracing.bind fun r =>
    let w := r.2.setTracer { r.2.tracer with
      needRootAccess := r.2.tracer.needRootAccess || r.1 matches .permissionDenied _ }
    if r.1 ≠ .ok then .ok (r.1, w) else
    w.enableActivityTracing.bind fun r' =>
      let w := { r'.2 with annotationStackEnabled := true }
      .ok (if option.pmSamplerOptions.enable then startPmSampler r.1 w else (r.1, w))

def stopPmSampler (w : World) : Except Fault World :=
  if w.tracer.pmSamplingEnabled then
    match w.tracer.pmSampler with
    | none => .error .nullPmSampler
    | some _ => .ok (w.setTracer { w.tracer with pmSamplingEnabled := false })
  else .ok w

/-- The first part of `Disable`, up to `SyncAndFlush`; options and hook are read unchecked. -/
def shutDown (w : World) : Except Fault World :=
  w.stopPmSampler.bind fun w =>
  w.disableApiTracing.bind fun r =>
  r.2.disableActivityTracing.bind fun r =>
  r.2.finalize.bind fun r =>
  if r.2.tracer.cuptiDriverApiHook.isNone then .error .nullDriverApiHook else .ok r.2

/-- `Disable`'s delivery of the callback data, with `stop_recording`. -/
def deliverCallbackData (c : CuptiTraceCollector) (w : World) : World :=
  let w := w.getTimestamp.2.deliver c (.setTracingEndTimeNs w.getTimestamp.1)
  w.gatherCallbackAnnotationsAndEvents.2.deliver c
    (.onTracerCollectedCallbackData w.gatherCallbackAnnotationsAndEvents.1 w.isCallbackApiEventsRequired)

/-- `Disable`'s delivery of the activity data, popped as the manager is released. -/
def deliverActivityData (c : CuptiTraceCollector) (w : World) : World :=
  let w := match w.tracer.activityBuffers with
    | some m => (w.setTracer { w.tracer with activityBuffers := none }).deliver c
        (.onTracerCachedActivityBuffers m.popCachedBuffers.1)
    | none => w
  let w := if 0 < w.tracer.cuptiDroppedActivityEventCount then
    w.deliver c (.onEventsDropped "Activity Event dropped by Cupti Lib:"
      w.tracer.cuptiDroppedActivityEventCount) else w
  let w := if 0 < w.tracer.numActivityEventsInDroppedBuffer then
    w.deliver c (.onEventsDropped "Activity Event dropped in dropped buffer:"
      w.tracer.numActivityEventsInDroppedBuffer) else w
  w.deliver c .flush

/-- The end of `Disable`: release the collector, the options and the hook. -/
def release (w : World) : World :=
  { w.setTracer { w.tracer with collector := none, option := none, cuptiDriverApiHook := none }
    with annotationStackEnabled := false }

/-- `Disable`. Every collector call goes through `collector_` unchecked. -/
def disable (w : World) : Except Fault World :=
  w.shutDown.bind fun w =>
  match w.tracer.collector with
  | none => .error .nullCollector
  | some c => .ok ((w.deliverCallbackData c).deliverActivityData c).release

/-- The first step of `FlushEventsToCollector`, through `activity_buffers_` unchecked. -/
def popCachedActivityBuffers (w : World) : Except Fault (List (ActivityBuffer × Nat) × World) :=
  if w.tracer.activityTracingEnabled then
    match w.tracer.activityBuffers with
    | none => .error .nullActivityBuffers
    | some m => .ok (m.popCachedBuffers.1,
        w.setTracer { w.tracer with activityBuffers := some m.popCachedBuffers.2 })
  else .ok ([], w)

/-- The callback part of `FlushEventsToCollector`, without stopping the recording. -/
def deliverFlushedCallbackData (c : CuptiTraceCollector) (w : World) : World :=
  if w.tracer.apiTracingEnabled then
    w.gatherCallbackAnnotationsAndEvents.2.deliver c (.onTracerCollectedCallbackData
      w.gatherCallbackAnnotationsAndEvents.1 w.isCallbackApiEventsRequired)
  else w

def deliverFlushedData (c : CuptiTraceCollector) (cached : List (ActivityBuffer × Nat)) (w : World) :
    World :=
  (w.deliverFlushedCallbackData c).deliver c (.onTracerCachedActivityBuffers cached)

/-- `FlushEventsToCollector`: pop the cached buffers, hand over the callback data, then the buffers. -/
def flushEventsToCollector (w : World) : Except Fault (Status × World) :=
  if !w.tracer.apiTracingEnabled && !w.tracer.activityTracingEnabled then .ok (.ok, w) else
  w.popCachedActivityBuffers.bind fun r =>
  match r.2.tracer.collector with
  | none => .error .nullCollector
  | some c => .ok (.ok, r.2.deliverFlushedData c r.1)

/-- `SetActivityFlushPeriod`: one vendor call while activity tracing is on. -/
def setActivityFlushPeriod (w : World) : Status × World :=
  if w.tracer.activityTracingEnabled then (w.cupti.cuptiCall.1, { w with cupti := w.cupti.cuptiCall.2 })
  else (.ok, w)

/-- `RequestActivityBuffer`: a pooled buffer, or a null one without a manager. -/
def requestActivityBuffer (w : World) : World :=
  match w.tracer.activityBuffers with
  | none => w
  | some m => { w.setTracer { w.tracer with activityBuffers := some m.getOrCreateBuffer.2 } with
                lent := w.lent ++ [m.getOrCreateBuffer.1] }

end World

/-- The vendor's answers to `ProcessActivityBuffer`'s queries, and the correlation ids of the
buffer's records, which only the collector reads. -/
structure ActivityAnswers where
  disabled : Bool := false
  droppedRecords : Option Nat := none
  records : Nat := 0
  correlationIds : List UInt32 := []
  deriving DecidableEq, Repr

namespace World

/-- The cleanup of `ProcessActivityBuffer`, into whatever manager `activity_buffers_` holds now. -/
def reclaimBuffer (b : ActivityBuffer) (st : Status) (w : World) : Except Fault (Status × World) :=
  match w.tracer.activityBuffers with
  | none => .error .nullActivityBuffers
  | some m => .ok (st, w.setTracer { w.tracer with activityBuffers := some (m.reclaimBuffer b) })

/-- `ProcessActivityBuffer`: past the cap the records count as dropped, else they are cached. -/
def processActivityBuffer (b : ActivityBuffer) (size : Nat) (a : ActivityAnswers) (w : World) :
    Except Fault (Status × World) :=
  let w := { w with lent := w.lent.erase b }
  if size = 0 ∨ !w.tracer.activityTracingEnabled then w.reclaimBuffer b .ok
  else if a.disabled then w.reclaimBuffer b (.internal "Disabled.")
  else
    let w := w.setTracer { w.tracer with
      cuptiDroppedActivityEventCount := w.tracer.cuptiDroppedActivityEventCount + a.droppedRecords.getD 0 }
    match w.tracer.collector with
    | none => .error .nullCollector
    | some c =>
      let max := c.options.maxActivityApiEvents
      if 0 < max ∧ max ≤ w.tracer.numActivityEventsInCachedBuffer then
        (w.setTracer { w.tracer with numActivityEventsInDroppedBuffer :=
          w.tracer.numActivityEventsInDroppedBuffer + a.records }).reclaimBuffer b .ok
      else
        let w := w.setTracer { w.tracer with
          numActivityEventsInCachedBuffer := w.tracer.numActivityEventsInCachedBuffer + a.records }
        match w.tracer.activityBuffers with
        | none => .error .nullActivityBuffers
        | some m => .ok (.ok, w.setTracer { w.tracer with
            activityBuffers := some (m.cacheCuptiFilledActivityBuffer b size) })

def callback (i : Nat) (stack : AnnotationStack) (cb : VendorCallback) (w : World) :
    Except Fault (Status × World) :=
  match w.threads[i]? with
  | none => .ok (.ok, w)
  | some th => (handleCallback w.tracer stack i.toUInt32 cb th).map
      fun r => (r.1, { w.setTracer r.2.1 with threads := w.threads.set i r.2.2 })

end World

inductive Op
  | enable (option : CuptiTracerOptions) (collector : CuptiTraceCollector)
  | disable
  | flushEventsToCollector
  | setActivityFlushPeriod
  | callback (thread : Nat) (stack : AnnotationStack) (cb : VendorCallback)
  | requestActivityBuffer
  | processActivityBuffer (buffer : ActivityBuffer) (size : Nat) (answers : ActivityAnswers)

/-- One operation; `IsAvailable` is checked by `Enable`'s callers, not by `Enable`. -/
def step (w : World) : Op → Except Fault World
  | .enable o c => if w.tracer.isAvailable then (w.enable o c).map (·.2) else .ok w
  | .disable => w.disable
  | .flushEventsToCollector => w.flushEventsToCollector.map (·.2)
  | .setActivityFlushPeriod => .ok w.setActivityFlushPeriod.2
  | .callback i stack cb => (w.callback i stack cb).map (·.2)
  | .requestActivityBuffer => .ok w.requestActivityBuffer
  | .processActivityBuffer b size a =>
    if b ∈ w.lent then (w.processActivityBuffer b size a).map (·.2) else .ok w

def run (w : World) : List Op → Except Fault World
  | [] => .ok w
  | op :: ops => (step w op).bind fun w => run w ops

@[simp] theorem run_nil (w : World) : run w [] = .ok w := rfl

theorem run_cons (w : World) (op : Op) (ops : List Op) :
    run w (op :: ops) = (step w op).bind fun w => run w ops := rfl

end GpuTracer
