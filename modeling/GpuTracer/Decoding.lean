import GpuTracer.Callback

/-! The copy and set exits against the operations' semantics: the spec side reads each operation's
kind, size and asynchrony off its name and descriptor, and the routed exits' events are compared. -/
namespace GpuTracer

namespace DriverApi

end DriverApi

section Exit

variable (tracer : CuptiTracer) (event : CuptiTracerEvent) (threadId deviceId : UInt32)
  (cbdata : CallbackData) (startTsc endTsc : UInt64) (q : ExitQueries)
  (guarded : CallbackAnnotationsAndEvents) (info : GraphResourceCreationInfo)

end Exit

end GpuTracer
