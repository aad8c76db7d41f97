import GpuTracer.Event
import GpuTracer.ActivityBuffer
import GpuTracer.Tracer
import GpuTracer.Buffer
import GpuTracer.Graph
import GpuTracer.Callback
import GpuTracer.Controller
import GpuTracer.Lifecycle
import GpuTracer.Session
import GpuTracer.ActivityCap
import GpuTracer.GraphThread
import GpuTracer.Interleaving
import GpuTracer.Races
import GpuTracer.Invariant
import GpuTracer.Delivery
import GpuTracer.ExitEvents
import GpuTracer.Decoding
import GpuTracer.GraphIds
import GpuTracer.BufferBatch
import GpuTracer.PushOrder
import GpuTracer.DriverHook
import GpuTracer.CollectorProtocol
import GpuTracer.ActivityOrder
import GpuTracer.BufferOwnership
import GpuTracer.Interning
import GpuTracer.Faults
import GpuTracer.Wedged
