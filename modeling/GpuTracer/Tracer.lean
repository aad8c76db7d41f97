import GpuTracer.ActivityBuffer
import GpuTracer.Event

/-! The tracer object and what it is wired to: the vendor library behind `cupti_interface_`,
the options, the collector and the driver-API hook, and the two budget checks every producer
thread consults. Pointers, `unique_ptr`s and `std::optional`s are `Option`s; `none` is null.
The `size_t` counters are `Nat`s: a session cannot make `2^64` calls. -/
namespace GpuTracer

/-- `CUptiResult`, as far as the tracer tells results apart. -/
inductive CuptiResult
  | success
  | errorInsufficientPrivileges
  | error (description : String)
  deriving DecidableEq, Repr

/-- The `absl::Status` values the tracer's operations return. -/
inductive Status
  | ok
  | permissionDenied (message : String)
  | internal (message : String)
  deriving DecidableEq, Repr

/-- Where the code reads through something absent: a null pointer, an empty optional, or
`begin()` of an empty map. Its behaviour is undefined from there, so the model stops. -/
inductive Fault
  | nullCollector | nullDriverApiHook | emptyOption | nullActivityBuffers | nullPmSampler
  | beginOfEmptyNodeIdMap
  deriving DecidableEq, Repr

/-- The status `RETURN_IF_CUPTI_ERROR` makes its function return for a vendor result. -/
def cuptiCallStatus : CuptiResult → Status
  | .success => .ok
  | .errorInsufficientPrivileges => .permissionDenied "CUPTI needs root access"
  | .error description => .internal ("CUPTI call error: " ++ description)

/-- The vendor library behind `cupti_interface_`: the answer to each call, in call order. -/
structure CuptiInterface where
  answer : Nat → CuptiResult × Nat
  calls : Nat := 0

namespace CuptiInterface

def call (ci : CuptiInterface) : (CuptiResult × Nat) × CuptiInterface :=
  (ci.answer ci.calls, { ci with calls := ci.calls + 1 })

@[simp] theorem call_fst (ci : CuptiInterface) : ci.call.1 = ci.answer ci.calls := rfl

@[simp] theorem call_snd_answer (ci : CuptiInterface) : ci.call.2.answer = ci.answer := rfl

@[simp] theorem call_snd_calls (ci : CuptiInterface) : ci.call.2.calls = ci.calls + 1 := rfl

/-- One vendor call under `RETURN_IF_CUPTI_ERROR`: the status it makes the caller return. -/
def cuptiCall (ci : CuptiInterface) : Status × CuptiInterface := (cuptiCallStatus ci.call.1.1, ci.call.2)

/-- `RETURN_IF_CUPTI_ERROR` in a loop: one vendor call per item, until the first failure. -/
def cuptiCallEach {α : Type} : List α → CuptiInterface → Status × CuptiInterface
  | [], ci => (.ok, ci)
  | _ :: xs, ci => if ci.call.1.1 = .success then cuptiCallEach xs ci.call.2 else ci.cuptiCall

/-- `RETURN_IF_CUPTI_ERROR` between two stretches of calls. -/
def andThen (p : Status × CuptiInterface) (k : CuptiInterface → Status × CuptiInterface) :
    Status × CuptiInterface :=
  if p.1 = .ok then k p.2 else p

/-- A vendor library whose every call succeeds. -/
def healthy : CuptiInterface := { answer := fun _ => (.success, 0) }

/-- A vendor library whose first `n` calls succeed and whose later calls all fail. -/
def failingFrom (n : Nat) (description : String) : CuptiInterface :=
  { answer := fun k => if k < n then (.success, 0) else (.error description, 0) }

end CuptiInterface

/-- `CUpti_ActivityKind`, as far as the tracer tells kinds apart. -/
inductive CuptiActivityKind
  | marker | unifiedMemoryCounter | concurrentKernel | other (kind : Nat)
  deriving DecidableEq, Repr

structure PmSamplerOptions where
  enable : Bool := false
  deriving DecidableEq, Repr

/-- `CuptiTracerOptions`, with the fields the tracer reads. -/
structure CuptiTracerOptions where
  enableNvtxTracking : Bool := false
  activitiesSelected : List CuptiActivityKind := []
  cbidsSelected : List CallbackId := []
  requiredCallbackApiEvents : Bool := true
  syncDevicesBeforeStop : Bool := false
  cuptiFinalize : Bool := false
  pmSamplerOptions : PmSamplerOptions := {}
  deriving DecidableEq, Repr

/-- `CuptiTracerCollectorOptions`: the ceilings the collector's options accessor exposes. -/
structure CuptiTracerCollectorOptions where
  maxCallbackApiEvents : Nat := 0
  maxActivityApiEvents : Nat := 0
  maxAnnotationStrings : Nat := 0
  deriving DecidableEq, Repr

/-- A `CuptiTraceCollector*`: which collector object, and its options. -/
structure CuptiTraceCollector where
  id : Nat
  options : CuptiTracerCollectorOptions
  deriving DecidableEq, Repr

/-- `CuptiDriverApiHookWithActivityApi`: its options and the contexts it tracks. -/
structure CuptiDriverApiHook where
  option : CuptiTracerOptions
  contexts : List Nat := []
  deriving DecidableEq, Repr

/-- Modelled from the spec: the sampler `CreatePmSampler` returns. -/
structure PmSampler where
  numGpus : Nat
  deriving DecidableEq, Repr

/-- The members of `CuptiTracer` its operations read and write; `kBufferSizeInBytes` is a
parameter, and `bufferManagersCreated` gives each buffer manager its own identity. -/
structure CuptiTracer where
  numGpus : Nat
  kBufferSizeInBytes : Nat
  apiTracingEnabled : Bool := false
  activityTracingEnabled : Bool := false
  pmSamplingEnabled : Bool := false
  needRootAccess : Bool := false
  option : Option CuptiTracerOptions := none
  collector : Option CuptiTraceCollector := none
  cuptiDriverApiHook : Option CuptiDriverApiHook := none
  activityBuffers : Option CuptiActivityBufferManager := none
  pmSampler : Option PmSampler := none
  numCallbackEvents : Nat := 0
  cuptiDroppedActivityEventCount : Nat := 0
  numActivityEventsInCachedBuffer : Nat := 0
  numActivityEventsInDroppedBuffer : Nat := 0
  bufferManagersCreated : Nat := 0
  deriving DecidableEq, Repr

namespace CuptiTracer

def isAvailable (t : CuptiTracer) : Bool :=
  t.numGpus != 0 && !t.activityTracingEnabled && !t.apiTracingEnabled && !t.pmSamplingEnabled

/-- `TooManyCallbackEvents`; without a collector every event is one too many. -/
def tooManyCallbackEvents (t : CuptiTracer) : Bool :=
  match t.collector with
  | some c => 0 < c.options.maxCallbackApiEvents && c.options.maxCallbackApiEvents ≤ t.numCallbackEvents
  | none => true

/-- `TooManyAnnotationStrings`; without a collector no annotation is kept. -/
def tooManyAnnotationStrings (t : CuptiTracer) (count : Nat) : Bool :=
  match t.collector with
  | some c => 0 < c.options.maxAnnotationStrings && c.options.maxAnnotationStrings ≤ count
  | none => true

def incCallbackEventCount (t : CuptiTracer) : CuptiTracer :=
  { t with numCallbackEvents := t.numCallbackEvents + 1 }

end CuptiTracer

end GpuTracer
