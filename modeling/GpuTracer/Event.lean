import Mathlib.Data.List.Basic

/-! The event record of the tracer and the per-thread collection it is buffered in.
The driver-API callback ids are the ones the tracer names; every other id is `other`.
`CallbackAnnotationsAndEvents` and its string deduplication are declared in a header that is
not among the sources, so they follow the spec's data model. -/
namespace GpuTracer

/-- The driver-API functions whose callback ids (`CUPTI_DRIVER_TRACE_CBID_*`) the tracer names. -/
inductive DriverApi
  | cuLaunchKernel | cuLaunchKernelEx | cuLaunchCooperativeKernel
  | cuLaunchCooperativeKernelMultiDevice
  | cuMemcpy | cuMemcpyAsync | cuMemcpyHtoD_v2 | cuMemcpyHtoDAsync_v2 | cuMemcpyDtoH_v2
  | cuMemcpyDtoHAsync_v2 | cuMemcpyDtoD_v2 | cuMemcpyDtoDAsync_v2 | cuMemcpyAtoH_v2
  | cuMemcpyAtoHAsync_v2 | cuMemcpyAtoD_v2 | cuMemcpyDtoA_v2 | cuMemcpyAtoA_v2 | cuMemcpy2D_v2
  | cuMemcpy2DUnaligned_v2 | cuMemcpy2DAsync_v2 | cuMemcpy3D_v2 | cuMemcpy3DAsync_v2
  | cuMemcpyHtoA_v2 | cuMemcpyHtoAAsync_v2 | cuMemcpyPeer | cuMemcpyPeerAsync
  | cuMemAlloc_v2 | cuMemAllocPitch_v2 | cuMemAllocManaged | cuMemAllocHost_v2 | cuMemHostAlloc
  | cuMemFree_v2 | cuMemFreeHost | cuMemHostRegister_v2 | cuMemHostUnregister
  | cuMemsetD8_v2 | cuMemsetD16_v2 | cuMemsetD32_v2 | cuMemsetD2D8_v2 | cuMemsetD2D16_v2
  | cuMemsetD2D32_v2 | cuMemsetD8Async | cuMemsetD16Async | cuMemsetD32Async
  | cuMemsetD2D8Async | cuMemsetD2D16Async | cuMemsetD2D32Async
  | cuGraphCreate | cuGraphInstantiate | cuGraphLaunch | cuGraphLaunch_ptsz | cuGraphClone
  | cuGraphInstantiate_v2 | cuGraphInstantiateWithFlags | cuGraphInstantiateWithParams
  | cuGraphInstantiateWithParams_ptsz
  | cuGraphAddKernelNode | cuGraphAddKernelNode_v2 | cuGraphAddMemcpyNode | cuGraphAddMemsetNode
  | cuGraphAddChildGraphNode | cuGraphAddEmptyNode | cuGraphAddHostNode | cuGraphAddNode
  | cuGraphAddNode_v2 | cuGraphAddEventRecordNode | cuGraphAddEventWaitNode
  | cuGraphAddExternalSemaphoresSignalNode | cuGraphAddExternalSemaphoresWaitNode
  | cuGraphAddMemAllocNode | cuGraphAddMemFreeNode | cuGraphAddBatchMemOpNode
  | cuCtxDestroy | cuCtxDestroy_v2 | cuStreamSynchronize
  deriving DecidableEq, Repr

/-- `CUpti_CallbackId` of the driver-API domain: a named function, or any other id. -/
inductive CallbackId
  | api (f : DriverApi)
  | other (id : Nat)
  deriving DecidableEq, Repr

inductive CuMemoryType
  | host | device | array | unified
  deriving DecidableEq, Repr

/-- `CUDA_MEMCPY2D` and `CUDA_MEMCPY3D`, with the fields the decoders read (`Depth` is 3D only). -/
structure CudaMemcpy where
  srcMemoryType : CuMemoryType := .host
  dstMemoryType : CuMemoryType := .host
  widthInBytes : UInt64 := 0
  height : UInt64 := 0
  depth : UInt64 := 0
  deriving DecidableEq, Repr

/-- The parameter block behind `functionParams`: every field some decoder's cast reads. -/
structure FunctionParams where
  byteCount : UInt64 := 0
  pCopy : CudaMemcpy := {}
  n : UInt64 := 0
  dstPitch : UInt64 := 0
  height : UInt64 := 0
  dstDevice : UInt64 := 0
  dptr : UInt64 := 0
  bytesize : UInt64 := 0
  pitch : UInt64 := 0
  pp : UInt64 := 0
  p : UInt64 := 0
  flags : UInt32 := 0
  deriving DecidableEq, Repr

inductive ApiCallbackSite
  | enter | exit
  deriving DecidableEq, Repr

/-- `CUpti_CallbackData`, with the fields the tracer reads; `context` is `none` for a null context. -/
structure CallbackData where
  callbackSite : ApiCallbackSite := .exit
  functionName : String := ""
  symbolName : Option String := none
  functionParams : FunctionParams := {}
  correlationId : UInt32 := 0
  contextUid : UInt32 := 0
  context : Option Nat := none
  correlationData : UInt64 := 0
  deriving DecidableEq, Repr

/-- `CuptiTracerEventType`, restricted to the kinds the callback path produces. -/
inductive CuptiTracerEventType
  | unsupported | kernel | memcpyH2D | memcpyD2H | memcpyD2D | memcpyP2P | memcpyOther
  | memoryAlloc | memoryFree | memset | hostRegister | hostUnregister | generic
  | cudaGraph | cudaGraphNodeMap
  deriving DecidableEq, Repr

/-- `memcpy_info`; the copy and memory kinds are left to the activity path. -/
structure MemcpyDetails where
  numBytes : UInt64 := 0
  destination : UInt32 := 0
  async : Bool := false
  deriving DecidableEq, Repr

structure MemsetDetails where
  numBytes : UInt64 := 0
  async : Bool := false
  deriving DecidableEq, Repr

structure MemAllocDetails where
  address : UInt64 := 0
  numBytes : UInt64 := 0
  deriving DecidableEq, Repr

structure HostRegisterDetails where
  address : UInt64 := 0
  numBytes : UInt64 := 0
  flags : UInt32 := 0
  deriving DecidableEq, Repr

structure CudaGraphDetails where
  cbid : CallbackId := .other 0
  origGraphId : UInt32 := 0
  origGraphNodeId : UInt64 := 0
  deriving DecidableEq, Repr

/-- `CuptiTracerEvent` with the fields the callback path writes, its union's members as fields. -/
structure CuptiTracerEvent where
  type : CuptiTracerEventType := .unsupported
  name : String := ""
  annotation : String := ""
  nvtxRange : String := ""
  startTimeNs : UInt64 := 0
  endTimeNs : UInt64 := 0
  threadId : UInt32 := 0
  deviceId : UInt32 := 0
  contextId : UInt32 := 0
  correlationId : UInt32 := 0
  scopeRangeId : Int := 0
  graphId : UInt32 := 0
  graphNodeId : UInt64 := 0
  memcpyInfo : MemcpyDetails := {}
  memsetInfo : MemsetDetails := {}
  memallocInfo : MemAllocDetails := {}
  memfreeAddress : UInt64 := 0
  hostRegisterInfo : HostRegisterDetails := {}
  hostUnregisterAddress : UInt64 := 0
  cudaGraphInfo : CudaGraphDetails := {}
  genericCbid : CallbackId := .other 0
  deriving DecidableEq, Repr

/-- The fields every `Set*EventUponApiExit` fills in the same way. -/
def CuptiTracerEvent.uponApiExit (event : CuptiTracerEvent) (type : CuptiTracerEventType)
    (threadId deviceId : UInt32) (cbdata : CallbackData) (startTime endTime : UInt64) :
    CuptiTracerEvent :=
  { event with type, startTimeNs := startTime, endTimeNs := endTime, threadId, deviceId
               contextId := cbdata.contextUid, correlationId := cbdata.correlationId }

/-- An event as `Push` may store it: unchanged, or with annotation and nvtx range emptied. -/
def AnnotationStripped (e e' : CuptiTracerEvent) : Prop :=
  e' = e ∨ e' = { e with annotation := "", nvtxRange := "" }

@[simp] theorem annotationStripped_refl (e : CuptiTracerEvent) : AnnotationStripped e e :=
  Or.inl rfl

/-- Modelled from the spec: `ScopeRangeIdTree`, each scope id's parent. -/
abbrev ScopeRangeIdTree := Int → Option Int

/-- `emplace` of a hash map: a key already present keeps its value. -/
def ScopeRangeIdTree.emplace (tree : ScopeRangeIdTree) (id parent : Int) : ScopeRangeIdTree :=
  fun k => if k = id ∧ tree k = none then some parent else tree k

/-- Modelled from the spec: `StringDeduper::Dedup`, which stores a non-empty string once. -/
def dedup (strings : List String) (s : String) : List String × String :=
  if s = "" ∨ s ∈ strings then (strings, s) else (strings ++ [s], s)

@[simp] theorem dedup_snd (strings : List String) (s : String) : (dedup strings s).2 = s := by
  unfold dedup; split <;> rfl

/-- Modelled from the spec: `CallbackAnnotationsAndEvents`, one thread's buffered events. -/
structure CallbackAnnotationsAndEvents where
  eventQueue : List CuptiTracerEvent := []
  annotations : List String := []
  nvtxRanges : List String := []
  numDroppedEvents : Nat := 0
  scopeRangeIdTree : ScopeRangeIdTree := fun _ => none

namespace CallbackAnnotationsAndEvents

def numAnnotations (c : CallbackAnnotationsAndEvents) : Nat := c.annotations.length

end CallbackAnnotationsAndEvents

end GpuTracer
