import GpuTracer.Session

/-! Graph tracing on one producer thread: the node map that resource notifications fill and
graph exits drain. -/
namespace GpuTracer

def graphExit (f : DriverApi) : VendorCallback :=
  .driverApi (.api f) { callbackSite := .exit, context := some 1 } { deviceId := (.success, 0) }

/-- A node-add exit with no pending mapping reads `begin()` of the empty map. -/
theorem node_add_exit_reads_empty_node_map :
    run (World.init 1 64 1 .healthy)
        [.enable {} ⟨0, {}⟩, .callback 0 {} (graphExit .cuGraphAddEmptyNode)] =
      .error .beginOfEmptyNodeIdMap ∧
    run (World.init 1 64 1 .healthy)
        [.enable {} ⟨0, {}⟩, .callback 0 {} (.resource .graphNodeCreated { node := some 5 }),
         .callback 0 {} (graphExit .cuGraphClone), .callback 0 {} (graphExit .cuGraphAddEmptyNode)] =
      .error .beginOfEmptyNodeIdMap :=
  ⟨rfl, rfl⟩

/-- The node mapping an event reports: a node-map event's, or a node-add exit's node. -/
def reportedMapping (e : CuptiTracerEvent) : List (UInt64 × UInt64) :=
  if e.type = .cudaGraphNodeMap ∨
      (e.type = .cudaGraph ∧ exitHandler e.cudaGraphInfo.cbid = .cudaGraphNode) then
    [(e.graphNodeId, e.cudaGraphInfo.origGraphNodeId)]
  else []

def reportedMappings (q : List CuptiTracerEvent) : List (UInt64 × UInt64) :=
  q.flatMap reportedMapping

@[simp] theorem reportedMappings_append (q q' : List CuptiTracerEvent) :
    reportedMappings (q ++ q') = reportedMappings q ++ reportedMappings q' :=
  List.flatMap_append ..

theorem reportedMapping_of_type {e : CuptiTracerEvent} (h₁ : e.type ≠ .cudaGraphNodeMap)
    (h₂ : e.type ≠ .cudaGraph) : reportedMapping e = [] := by
  simp [reportedMapping, h₁, h₂]

theorem createsNodeMapEvents_exitHandler {cbid : CallbackId} (h : createsNodeMapEvents cbid) :
    exitHandler cbid = .cudaGraph := by
  simp only [createsNodeMapEvents, Bool.or_eq_true, decide_eq_true_eq] at h
  rcases h with rfl | rfl <;> rfl

section Exit

variable (tracer : CuptiTracer) (event : CuptiTracerEvent) (threadId deviceId : UInt32)
  (cbid : CallbackId) (cbdata : CallbackData) (startTime endTime : UInt64)

end Exit

/-- What a producer thread's graph state goes through: a resource notification, or an exit. -/
inductive ThreadGraphStep
  | resource (cbid : ResourceCbid) (ids : GraphIdQueries)
  | exit (tracer : CuptiTracer) (stack : AnnotationStack) (threadId deviceId : UInt32)
      (startTsc endTsc : UInt64) (cbid : CallbackId) (cbdata : CallbackData) (q : ExitQueries)

namespace ThreadGraphStep

def apply (th : ThreadLocal) : ThreadGraphStep → Except Fault ThreadLocal
  | .resource cbid ids => .ok { th with graphInfo := handleResourceCallback cbid ids th.graphInfo }
  | .exit tracer stack threadId deviceId startTsc endTsc cbid cbdata q =>
    (addDriverApiCallbackEvent tracer stack threadId deviceId startTsc endTsc cbid cbdata q th).map
      (·.2)

def entered : ThreadGraphStep → List (UInt64 × UInt64)
  | .resource .graphNodeCreated ids => [(ids.node.getD 0, 0)]
  | .resource .graphNodeCloned ids => [(ids.node.getD 0, ids.originalNode.getD 0)]
  | _ => []

def run (th : ThreadLocal) : List ThreadGraphStep → Except Fault ThreadLocal
  | [] => .ok th
  | s :: ss => (s.apply th).bind fun th => run th ss

end ThreadGraphStep

theorem handleCallback_thread {tracer : CuptiTracer} {stack : AnnotationStack}
    {threadId : UInt32} {cb : VendorCallback} {th : ThreadLocal}
    {r : Status × CuptiTracer × ThreadLocal} (h : handleCallback tracer stack threadId cb th = .ok r) :
    r.2.2 = th ∨ ∃ s : ThreadGraphStep, s.apply th = .ok r.2.2 := by
  unfold handleCallback at h
  split at h
  · cases h; exact .inl rfl
  split at h
  · cases h; exact .inl rfl
  · obtain ⟨r', h', rfl⟩ := map_eq_ok.mp h
    unfold handleDriverApiCallback at h'
    split at h'
    · cases h'; exact .inl rfl
    split at h'
    · cases h'; exact .inl rfl
    split at h'
    · cases h'; exact .inl rfl
    · obtain ⟨r'', h'', rfl⟩ := map_eq_ok.mp h'
      exact .inr ⟨.exit _ _ _ _ _ _ _ _ _,
        congrArg (Except.map fun r : CuptiTracer × ThreadLocal => r.2) h''⟩
    · cases h'; exact .inl rfl
  · cases h; exact .inr ⟨.resource _ _, rfl⟩
  · cases h; exact .inl rfl

end GpuTracer
