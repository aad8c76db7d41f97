import GpuTracer.Graph

/-! The callback dispatcher: the parameter decoders, one `Set*EventUponApiExit` per operation
family, the routing switch, and the path from a vendor callback to `AddDriverApiCallbackEvent`. -/
namespace GpuTracer

def bytes2D (p : CudaMemcpy) : UInt64 := p.height * p.widthInBytes

def bytes3D (p : CudaMemcpy) : UInt64 := p.depth * p.height * p.widthInBytes

def memcpyKind (p : CudaMemcpy) : CuptiTracerEventType :=
  match p.srcMemoryType, p.dstMemoryType with
  | .host, .device => .memcpyH2D
  | .device, .host => .memcpyD2H
  | .device, .device => .memcpyD2D
  | _, _ => .unsupported

/-- `DecodeDriverMemcpy`: the byte count, the kind and whether the call is asynchronous. -/
def decodeDriverMemcpy (cbid : CallbackId) (p : FunctionParams) :
    UInt64 × CuptiTracerEventType × Bool :=
  match cbid with
  | .api .cuMemcpyHtoD_v2 => (p.byteCount, .memcpyH2D, false)
  | .api .cuMemcpyHtoDAsync_v2 => (p.byteCount, .memcpyH2D, true)
  | .api .cuMemcpyDtoH_v2 => (p.byteCount, .memcpyD2H, false)
  | .api .cuMemcpyDtoHAsync_v2 => (p.byteCount, .memcpyD2H, true)
  | .api .cuMemcpyDtoD_v2 => (p.byteCount, .memcpyD2D, false)
  | .api .cuMemcpyDtoDAsync_v2 => (p.byteCount, .memcpyD2D, true)
  | .api .cuMemcpy => (p.byteCount, .memcpyOther, false)
  | .api .cuMemcpyAsync => (p.byteCount, .memcpyOther, true)
  | .api .cuMemcpy2D_v2 => (bytes2D p.pCopy, memcpyKind p.pCopy, false)
  | .api .cuMemcpy2DAsync_v2 => (bytes2D p.pCopy, memcpyKind p.pCopy, true)
  | .api .cuMemcpy3D_v2 => (bytes3D p.pCopy, memcpyKind p.pCopy, true)
  | .api .cuMemcpy3DAsync_v2 => (bytes3D p.pCopy, memcpyKind p.pCopy, true)
  | .api .cuMemcpyPeer => (p.byteCount, .memcpyP2P, false)
  | .api .cuMemcpyPeerAsync => (p.byteCount, .memcpyP2P, true)
  | _ => (0, .unsupported, false)

/-- `DecodeDriverMemset`: the byte count, the kind and whether the call is asynchronous. -/
def decodeDriverMemset (cbid : CallbackId) (p : FunctionParams) :
    UInt64 × CuptiTracerEventType × Bool :=
  match cbid with
  | .api .cuMemsetD8_v2 | .api .cuMemsetD16_v2 | .api .cuMemsetD32_v2 => (p.n, .memset, false)
  | .api .cuMemsetD2D8_v2 | .api .cuMemsetD2D16_v2 | .api .cuMemsetD2D32_v2 =>
    (p.dstPitch * p.height, .memset, false)
  | .api .cuMemsetD8Async | .api .cuMemsetD16Async | .api .cuMemsetD32Async => (p.n, .memset, true)
  | .api .cuMemsetD2D8Async | .api .cuMemsetD2D16Async | .api .cuMemsetD2D32Async =>
    (p.dstPitch * p.height, .memset, true)
  | _ => (0, .unsupported, false)

section UponApiExit

variable (event : CuptiTracerEvent) (threadId deviceId : UInt32) (cbid : CallbackId)
  (cbdata : CallbackData) (startTime endTime : UInt64)

def setKernelEventUponApiExit : CuptiTracerEvent :=
  { event.uponApiExit .kernel threadId deviceId cbdata startTime endTime with
    name := cbdata.symbolName.getD cbdata.functionName }

/-- `PopulateMemcpyCallbackEvent`; the copy and memory kinds stay unknown on this path. -/
def populateMemcpyCallbackEvent (type : CuptiTracerEventType) (numBytes : UInt64)
    (srcDevice dstDevice : UInt32) (async : Bool) : CuptiTracerEvent :=
  { event.uponApiExit type threadId srcDevice cbdata startTime endTime with
    memcpyInfo := { numBytes, destination := dstDevice, async } }

def setNormalMemcpyEventUponApiExit : CuptiTracerEvent :=
  let d := decodeDriverMemcpy cbid cbdata.functionParams
  populateMemcpyCallbackEvent event threadId cbdata startTime endTime d.2.1 d.1 deviceId deviceId d.2.2

/-- `SetP2PMemcpyEventUponApiExit`: a failed device query leaves the initial `-1`. -/
def setP2PMemcpyEventUponApiExit (srcDevice dstDevice : Option UInt32) : CuptiTracerEvent :=
  let d := decodeDriverMemcpy cbid cbdata.functionParams
  populateMemcpyCallbackEvent event threadId cbdata startTime endTime d.2.1 d.1
    (srcDevice.getD (0 - 1)) (dstDevice.getD (0 - 1)) d.2.2

def setCuMemsetEventUponApiExit : CuptiTracerEvent :=
  let d := decodeDriverMemset cbid cbdata.functionParams
  { event.uponApiExit d.2.1 threadId deviceId cbdata startTime endTime with
    memsetInfo := { numBytes := d.1, async := d.2.2 } }

def setMemAllocEvent (address numBytes : UInt64) : CuptiTracerEvent :=
  { event.uponApiExit .memoryAlloc threadId deviceId cbdata startTime endTime with
    name := cbdata.functionName, memallocInfo := { address, numBytes } }

def setCuMemAllocEventUponApiExit : CuptiTracerEvent :=
  setMemAllocEvent event threadId deviceId cbdata startTime endTime
    cbdata.functionParams.dptr cbdata.functionParams.bytesize

/-- `SetCuMemAllocPitchEventUponApiExit`: the size is the pitch times the height. -/
def setCuMemAllocPitchEventUponApiExit : CuptiTracerEvent :=
  setMemAllocEvent event threadId deviceId cbdata startTime endTime
    cbdata.functionParams.dptr (cbdata.functionParams.pitch * cbdata.functionParams.height)

def setCuMemAllocManagedEventUponApiExit : CuptiTracerEvent :=
  setMemAllocEvent event threadId deviceId cbdata startTime endTime
    cbdata.functionParams.dptr cbdata.functionParams.bytesize

def setCuMemAllocHostEventUponApiExit : CuptiTracerEvent :=
  setMemAllocEvent event threadId deviceId cbdata startTime endTime
    cbdata.functionParams.pp cbdata.functionParams.bytesize

def setCuMemHostAllocEventUponApiExit : CuptiTracerEvent :=
  setMemAllocEvent event threadId deviceId cbdata startTime endTime
    cbdata.functionParams.pp cbdata.functionParams.bytesize

def setMemFreeEvent (address : UInt64) : CuptiTracerEvent :=
  { event.uponApiExit .memoryFree threadId deviceId cbdata startTime endTime with
    name := cbdata.functionName, memfreeAddress := address }

def setCuMemFreeEventUponApiExit : CuptiTracerEvent :=
  setMemFreeEvent event threadId deviceId cbdata startTime endTime cbdata.functionParams.dptr

def setCuMemFreeHostEventUponApiExit : CuptiTracerEvent :=
  setMemFreeEvent event threadId deviceId cbdata startTime endTime cbdata.functionParams.p

def setCuMemHostRegisterEventUponApiExit : CuptiTracerEvent :=
  { event.uponApiExit .hostRegister threadId deviceId cbdata startTime endTime with
    name := cbdata.functionName
    hostRegisterInfo := { address := cbdata.functionParams.p
                          numBytes := cbdata.functionParams.bytesize
                          flags := cbdata.functionParams.flags } }

def setCuMemHostUnregisterEventUponApiExit : CuptiTracerEvent :=
  { event.uponApiExit .hostUnregister threadId deviceId cbdata startTime endTime with
    name := cbdata.functionName, hostUnregisterAddress := cbdata.functionParams.p }

def setGenericEventUponApiExit : CuptiTracerEvent :=
  { event.uponApiExit .generic threadId deviceId cbdata startTime endTime with
    name := cbdata.functionName, genericCbid := cbid }

end UponApiExit

/-- What an exit's handler learns from outside: a peer copy's devices and a launched graph's exec id
(`none`: the query failed), and the order the thread's `node_id_map` visits its keys in. -/
structure ExitQueries where
  srcDevice : Option UInt32 := none
  dstDevice : Option UInt32 := none
  graphExecId : Option UInt32 := none
  nodeMapOrder : List UInt64 := []
  deriving DecidableEq, Repr

/-- The handler each case label of `SetCallbackEventUponApiExit`'s switch calls. -/
inductive ExitHandler
  | kernel | normalMemcpy | p2pMemcpy | memAlloc | memAllocPitch | memAllocManaged | memAllocHost
  | memHostAlloc | memFree | memFreeHost | memHostRegister | memHostUnregister | memset
  | cudaGraph | cudaGraphNode | generic
  deriving DecidableEq, Repr

/-- The case labels of `SetCallbackEventUponApiExit`'s switch, for CUDA 11.8 or later. -/
def exitHandler : CallbackId → ExitHandler
  | .api .cuLaunchKernel | .api .cuLaunchKernelEx | .api .cuLaunchCooperativeKernel
  | .api .cuLaunchCooperativeKernelMultiDevice => .kernel
  | .api .cuMemcpy | .api .cuMemcpyAsync | .api .cuMemcpyHtoD_v2 | .api .cuMemcpyHtoDAsync_v2
  | .api .cuMemcpyDtoH_v2 | .api .cuMemcpyDtoHAsync_v2 | .api .cuMemcpyDtoD_v2
  | .api .cuMemcpyDtoDAsync_v2 | .api .cuMemcpyAtoH_v2 | .api .cuMemcpyAtoHAsync_v2
  | .api .cuMemcpyAtoD_v2 | .api .cuMemcpyDtoA_v2 | .api .cuMemcpyAtoA_v2 | .api .cuMemcpy2D_v2
  | .api .cuMemcpy2DUnaligned_v2 | .api .cuMemcpy2DAsync_v2 | .api .cuMemcpy3D_v2
  | .api .cuMemcpy3DAsync_v2 | .api .cuMemcpyHtoA_v2 | .api .cuMemcpyHtoAAsync_v2 => .normalMemcpy
  | .api .cuMemcpyPeer | .api .cuMemcpyPeerAsync => .p2pMemcpy
  | .api .cuMemAlloc_v2 => .memAlloc
  | .api .cuMemAllocPitch_v2 => .memAllocPitch
  | .api .cuMemAllocManaged => .memAllocManaged
  | .api .cuMemAllocHost_v2 => .memAllocHost
  | .api .cuMemHostAlloc => .memHostAlloc
  | .api .cuMemFree_v2 => .memFree
  | .api .cuMemFreeHost => .memFreeHost
  | .api .cuMemHostRegister_v2 => .memHostRegister
  | .api .cuMemHostUnregister => .memHostUnregister
  | .api .cuMemsetD8_v2 | .api .cuMemsetD16_v2 | .api .cuMemsetD32_v2 | .api .cuMemsetD2D8_v2
  | .api .cuMemsetD2D16_v2 | .api .cuMemsetD2D32_v2 | .api .cuMemsetD8Async
  | .api .cuMemsetD16Async | .api .cuMemsetD32Async | .api .cuMemsetD2D8Async
  | .api .cuMemsetD2D16Async | .api .cuMemsetD2D32Async => .memset
  | .api .cuGraphCreate | .api .cuGraphInstantiate | .api .cuGraphLaunch
  | .api .cuGraphLaunch_ptsz | .api .cuGraphClone | .api .cuGraphInstantiate_v2
  | .api .cuGraphInstantiateWithFlags | .api .cuGraphInstantiateWithParams
  | .api .cuGraphInstantiateWithParams_ptsz => .cudaGraph
  | .api .cuGraphAddKernelNode | .api .cuGraphAddKernelNode_v2 | .api .cuGraphAddMemcpyNode
  | .api .cuGraphAddMemsetNode | .api .cuGraphAddChildGraphNode | .api .cuGraphAddEmptyNode
  | .api .cuGraphAddHostNode | .api .cuGraphAddNode | .api .cuGraphAddNode_v2
  | .api .cuGraphAddEventRecordNode | .api .cuGraphAddEventWaitNode
  | .api .cuGraphAddExternalSemaphoresSignalNode | .api .cuGraphAddExternalSemaphoresWaitNode
  | .api .cuGraphAddMemAllocNode | .api .cuGraphAddMemFreeNode | .api .cuGraphAddBatchMemOpNode =>
    .cudaGraphNode
  | _ => .generic

/-- `SetCallbackEventUponApiExit`: route an exit to its family's handler. -/
def setCallbackEventUponApiExit (tracer : CuptiTracer) (event : CuptiTracerEvent)
    (threadId deviceId : UInt32) (cbid : CallbackId) (cbdata : CallbackData)
    (startTsc endTsc : UInt64) (q : ExitQueries) (guarded : CallbackAnnotationsAndEvents)
    (info : GraphResourceCreationInfo) :
    Except Fault (CuptiTracerEvent × CallbackAnnotationsAndEvents × GraphResourceCreationInfo) :=
  let plain (e : CuptiTracerEvent) := Except.ok (e, guarded, info)
  match exitHandler cbid with
  | .kernel => plain (setKernelEventUponApiExit event threadId deviceId cbdata startTsc endTsc)
  | .normalMemcpy =>
    plain (setNormalMemcpyEventUponApiExit event threadId deviceId cbid cbdata startTsc endTsc)
  | .p2pMemcpy =>
    plain (setP2PMemcpyEventUponApiExit event threadId cbid cbdata startTsc endTsc
      q.srcDevice q.dstDevice)
  | .memAlloc => plain (setCuMemAllocEventUponApiExit event threadId deviceId cbdata startTsc endTsc)
  | .memAllocPitch =>
    plain (setCuMemAllocPitchEventUponApiExit event threadId deviceId cbdata startTsc endTsc)
  | .memAllocManaged =>
    plain (setCuMemAllocManagedEventUponApiExit event threadId deviceId cbdata startTsc endTsc)
  | .memAllocHost =>
    plain (setCuMemAllocHostEventUponApiExit event threadId deviceId cbdata startTsc endTsc)
  | .memHostAlloc =>
    plain (setCuMemHostAllocEventUponApiExit event threadId deviceId cbdata startTsc endTsc)
  | .memFree => plain (setCuMemFreeEventUponApiExit event threadId deviceId cbdata startTsc endTsc)
  | .memFreeHost =>
    plain (setCuMemFreeHostEventUponApiExit event threadId deviceId cbdata startTsc endTsc)
  | .memHostRegister =>
    plain (setCuMemHostRegisterEventUponApiExit event threadId deviceId cbdata startTsc endTsc)
  | .memHostUnregister =>
    plain (setCuMemHostUnregisterEventUponApiExit event threadId deviceId cbdata startTsc endTsc)
  | .memset => plain (setCuMemsetEventUponApiExit event threadId deviceId cbid cbdata startTsc endTsc)
  | .cudaGraph =>
    .ok (setCudaGraphEventUponApiExit tracer event threadId deviceId cbid cbdata startTsc endTsc
      q.graphExecId q.nodeMapOrder guarded info)
  | .cudaGraphNode =>
    (setCudaGraphNodeEventUponApiExit event threadId deviceId cbid cbdata startTsc endTsc
      q.nodeMapOrder info).map fun r => (r.1, guarded, r.2)
  | .generic => plain (setGenericEventUponApiExit event threadId deviceId cbid cbdata startTsc endTsc)

/-- What `AnnotationStack::Get` and `GetScopeRangeIds` return on the calling thread. -/
structure AnnotationStack where
  current : String := ""
  scopeRangeIds : List Int := []
  deriving DecidableEq, Repr

/-- A producer thread's thread-local buffer and `GraphResourceCreationInfo`. -/
structure ThreadLocal where
  guarded : CallbackAnnotationsAndEvents := {}
  graphInfo : GraphResourceCreationInfo := {}

def callbackEvent (stack : AnnotationStack) (cbdata : CallbackData) : CuptiTracerEvent :=
  { correlationId := cbdata.correlationId, annotation := stack.current, nvtxRange := ""
    scopeRangeId := stack.scopeRangeIds.getLast?.getD 0 }

open GuardedCallbackAnnotationsAndEvents in
/-- `AddDriverApiCallbackEvent` after the budget check: count, record scope ids, push. -/
def recordDriverApiCallbackEvent (tracer : CuptiTracer) (stack : AnnotationStack)
    (threadId deviceId : UInt32) (startTsc endTsc : UInt64) (cbid : CallbackId)
    (cbdata : CallbackData) (q : ExitQueries) (th : ThreadLocal) :
    Except Fault (CuptiTracer × ThreadLocal) :=
  let tracer := tracer.incCallbackEventCount
  let guarded := addScopeRangeIdSequence th.guarded stack.scopeRangeIds
  (setCallbackEventUponApiExit tracer (callbackEvent stack cbdata) threadId deviceId cbid cbdata
      startTsc endTsc q guarded th.graphInfo).map
    fun r => (tracer, { guarded := push tracer r.2.1 r.1, graphInfo := r.2.2 })

open GuardedCallbackAnnotationsAndEvents in
/-- `AddDriverApiCallbackEvent`: over the callback budget the exit is only counted as dropped. -/
def addDriverApiCallbackEvent (tracer : CuptiTracer) (stack : AnnotationStack)
    (threadId deviceId : UInt32) (startTsc endTsc : UInt64) (cbid : CallbackId)
    (cbdata : CallbackData) (q : ExitQueries) (th : ThreadLocal) :
    Except Fault (CuptiTracer × ThreadLocal) :=
  if tracer.tooManyCallbackEvents then
    .ok (tracer, { th with guarded := incNumDroppedEvents th.guarded })
  else recordDriverApiCallbackEvent tracer stack threadId deviceId startTsc endTsc cbid cbdata q th

/-- `TrackContext`: with sync before stop, remember each exit's context, forget a destroyed one. -/
def CuptiDriverApiHook.trackContext (hook : CuptiDriverApiHook) (cbid : CallbackId) (ctx : Nat) :
    CuptiDriverApiHook :=
  if !hook.option.syncDevicesBeforeStop then hook
  else if cbid = .api .cuCtxDestroy_v2 ∨ cbid = .api .cuCtxDestroy then
    { hook with contexts := hook.contexts.erase ctx }
  else if ctx ∈ hook.contexts then hook
  else { hook with contexts := hook.contexts ++ [ctx] }

/-- The vendor's answers to a driver-API callback's queries: device id, timestamp, exit queries. -/
structure DriverCallbackAnswers where
  deviceId : CuptiResult × UInt32
  timestamp : UInt64 := 0
  exitQueries : ExitQueries := {}
  deriving DecidableEq, Repr

/-- `HandleDriverApiCallback` with the hook's `OnDriverApiEnter` and `OnDriverApiExit`. -/
def handleDriverApiCallback (tracer : CuptiTracer) (hook : CuptiDriverApiHook)
    (stack : AnnotationStack) (threadId : UInt32) (cbid : CallbackId) (cbdata : CallbackData)
    (a : DriverCallbackAnswers) (th : ThreadLocal) :
    Except Fault (Status × CuptiTracer × CuptiDriverApiHook × ThreadLocal) :=
  match cbdata.context, a.deviceId with
  | none, _ => .ok (.internal "cutpi callback without context", tracer, hook, th)
  | some ctx, (.success, deviceId) =>
    if tracer.numGpus ≤ deviceId.toNat then
      .ok (.internal ("Invalid device id:" ++ toString deviceId), tracer, hook, th)
    else match cbdata.callbackSite with
      | .enter => .ok (.ok, tracer, hook, th)
      | .exit =>
        (addDriverApiCallbackEvent tracer stack threadId deviceId cbdata.correlationData
            a.timestamp cbid cbdata a.exitQueries th).map
          fun r => (.ok, r.1, hook.trackContext cbid ctx, r.2)
  | some _, (r, _) => .ok (cuptiCallStatus r, tracer, hook, th)

/-- A vendor callback, with the answers to the queries its handling makes. -/
inductive VendorCallback
  | driverApi (cbid : CallbackId) (cbdata : CallbackData) (answers : DriverCallbackAnswers)
  | resource (cbid : ResourceCbid) (ids : GraphIdQueries)
  | other

/-- `HandleCallback` on the calling thread: nothing once API tracing is off or the hook is gone. -/
def handleCallback (tracer : CuptiTracer) (stack : AnnotationStack) (threadId : UInt32)
    (cb : VendorCallback) (th : ThreadLocal) : Except Fault (Status × CuptiTracer × ThreadLocal) :=
  if !tracer.apiTracingEnabled then .ok (.ok, tracer, th)
  else match tracer.cuptiDriverApiHook, cb with
    | none, _ => .ok (.ok, tracer, th)
    | some hook, .driverApi cbid cbdata a =>
      (handleDriverApiCallback tracer hook stack threadId cbid cbdata a th).map
        fun r => (r.1, { r.2.1 with cuptiDriverApiHook := some r.2.2.1 }, r.2.2.2)
    | some _, .resource cbid ids =>
      .ok (.ok, tracer, { th with graphInfo := handleResourceCallback cbid ids th.graphInfo })
    | some _, .other => .ok (.ok, tracer, th)

end GpuTracer
