import Mathlib.Data.List.Nodup
import Mathlib.Data.List.Sort
import GpuTracer.Buffer

/-! Graph resource tracking. The vendor delivers a graph resource notification on the thread of
the driver call that creates the graph, exec or node, between that call's enter and exit
callbacks; `HandleResourceCallback` records it in the thread's `GraphResourceCreationInfo`, and
the call's exit builds the graph events from it. -/
namespace GpuTracer

/-- `node_id_map`: a created node's id to its origin's id (0 when not cloned), as inserted. -/
structure NodeIdMap where
  entries : List (UInt64 × UInt64)
  nodup : (entries.map Prod.fst).Nodup

namespace NodeIdMap

theorem map_fst_setValue (entries : List (UInt64 × UInt64)) (key value : UInt64) :
    (entries.map fun e => if e.1 = key then (key, value) else e).map Prod.fst =
      entries.map Prod.fst := by
  induction entries with
  | nil => rfl
  | cons e rest ih => by_cases h : e.1 = key <;> simp [h, ih]

/-- `node_id_map[key] = value`: an existing key is updated in place, a new key is added. -/
def set (m : NodeIdMap) (key value : UInt64) : NodeIdMap :=
  if h : key ∈ m.entries.map Prod.fst then
    ⟨m.entries.map fun e => if e.1 = key then (key, value) else e,
      by rw [map_fst_setValue]; exact m.nodup⟩
  else
    ⟨m.entries ++ [(key, value)],
      by simpa [List.nodup_append] using
        ⟨m.nodup, fun k hk => h (List.mem_map_of_mem Prod.fst hk)⟩⟩

def clear : NodeIdMap := ⟨[], List.nodup_nil⟩

@[simp] theorem clear_entries : clear.entries = [] := rfl

/-- The entries in the order a loop over the hash map visits them, which the code leaves open:
the keys `order` lists first, in its order, then the rest as inserted. -/
def iterate (order : List UInt64) (m : NodeIdMap) : List (UInt64 × UInt64) :=
  m.entries.insertionSort fun a b => order.indexOf a.1 ≤ order.indexOf b.1

theorem iterate_perm (order : List UInt64) (m : NodeIdMap) : (m.iterate order).Perm m.entries :=
  List.perm_insertionSort _ _

@[simp] theorem iterate_nil (m : NodeIdMap) : m.iterate [] = m.entries :=
  List.Sorted.insertionSort_eq (List.pairwise_of_forall fun _ _ => by simp)

@[simp] theorem length_iterate (order : List UInt64) (m : NodeIdMap) :
    (m.iterate order).length = m.entries.length :=
  (iterate_perm order m).length_eq

@[simp] theorem iterate_eq_nil {order : List UInt64} {m : NodeIdMap} :
    m.iterate order = [] ↔ m.entries = [] := by
  rw [← List.length_eq_zero, length_iterate, List.length_eq_zero]

theorem nodup_iterate (order : List UInt64) (m : NodeIdMap) :
    ((m.iterate order).map Prod.fst).Nodup :=
  ((iterate_perm order m).map Prod.fst).nodup_iff.mpr m.nodup

end NodeIdMap

/-- `GraphResourceCreationInfo`, the thread-local graph state. -/
structure GraphResourceCreationInfo where
  graphId : UInt32 := 0
  origGraphId : UInt32 := 0
  nodeIdMap : NodeIdMap := NodeIdMap.clear

/-- The graph resource callback ids, `CUPTI_CBID_RESOURCE_*`. -/
inductive ResourceCbid
  | graphCreated | graphCloned | graphExecCreated | graphNodeCreated | graphNodeCloned
  | other (id : Nat)
  deriving DecidableEq, Repr

/-- The vendor's answers to a resource notification's id queries (`none`: the query failed). -/
structure GraphIdQueries where
  graph : Option UInt32 := none
  originalGraph : Option UInt32 := none
  graphExec : Option UInt32 := none
  node : Option UInt64 := none
  originalNode : Option UInt64 := none
  deriving DecidableEq, Repr

/-- `HandleResourceCallback`. A duplicated node id with a non-zero origin is only logged. -/
def handleResourceCallback (cbid : ResourceCbid) (q : GraphIdQueries)
    (info : GraphResourceCreationInfo) : GraphResourceCreationInfo :=
  match cbid with
  | .graphCreated => { info with graphId := q.graph.getD info.graphId, origGraphId := 0 }
  | .graphCloned =>
    { info with graphId := q.graph.getD info.graphId
                origGraphId := q.originalGraph.getD info.origGraphId }
  | .graphExecCreated =>
    { info with graphId := q.graphExec.getD info.graphId, origGraphId := q.graph.getD info.origGraphId }
  | .graphNodeCreated => { info with nodeIdMap := info.nodeIdMap.set (q.node.getD 0) 0 }
  | .graphNodeCloned =>
    { info with nodeIdMap := info.nodeIdMap.set (q.node.getD 0) (q.originalNode.getD 0) }
  | .other _ => info

/-- The `CudaGraphNodeMap` event of one entry; the loop never advances `current_start_time`. -/
def nodeMapEvent (event : CuptiTracerEvent) (threadId deviceId : UInt32) (cbid : CallbackId)
    (cbdata : CallbackData) (startTime : UInt64) (info : GraphResourceCreationInfo)
    (entry : UInt64 × UInt64) : CuptiTracerEvent :=
  { event.uponApiExit .cudaGraphNodeMap threadId deviceId cbdata startTime (startTime + 1) with
    name := "CudaGraphNodeMap: " ++ cbdata.functionName
    cudaGraphInfo := { cbid, origGraphNodeId := entry.2, origGraphId := info.origGraphId }
    graphId := info.graphId, graphNodeId := entry.1 }

def isGraphLaunch (cbid : CallbackId) : Bool :=
  cbid = .api .cuGraphLaunch || cbid = .api .cuGraphLaunch_ptsz

def createsNodeMapEvents (cbid : CallbackId) : Bool :=
  cbid = .api .cuGraphClone || cbid = .api .cuGraphInstantiateWithFlags

/-- `SetCudaGraphEventUponApiExit`: a clone or an instantiation with flags pushes one node-map
event per pending entry, in the map's order `nodeMapOrder`, and empties the map. -/
def setCudaGraphEventUponApiExit (tracer : CuptiTracer) (event : CuptiTracerEvent)
    (threadId deviceId : UInt32) (cbid : CallbackId) (cbdata : CallbackData)
    (startTime endTime : UInt64) (graphExecId : Option UInt32) (nodeMapOrder : List UInt64)
    (guarded : CallbackAnnotationsAndEvents) (info : GraphResourceCreationInfo) :
    CuptiTracerEvent × CallbackAnnotationsAndEvents × GraphResourceCreationInfo :=
  let info := if isGraphLaunch cbid then
    { info with graphId := graphExecId.getD info.graphId, origGraphId := 0 } else info
  let drained := if createsNodeMapEvents cbid then
      ((info.nodeIdMap.iterate nodeMapOrder).foldl (fun g entry =>
          GuardedCallbackAnnotationsAndEvents.push tracer g
          (nodeMapEvent event threadId deviceId cbid cbdata startTime info entry)) guarded,
        { info with nodeIdMap := NodeIdMap.clear })
    else (guarded, info)
  ({ event.uponApiExit .cudaGraph threadId deviceId cbdata startTime endTime with
      name := cbdata.functionName
      cudaGraphInfo := { event.cudaGraphInfo with cbid, origGraphId := drained.2.origGraphId }
      graphId := drained.2.graphId },
    drained.1, drained.2)

/-- `SetCudaGraphNodeEventUponApiExit`: the event carries the map's `begin()`, unchecked, and
the map is emptied. -/
def setCudaGraphNodeEventUponApiExit (event : CuptiTracerEvent) (threadId deviceId : UInt32)
    (cbid : CallbackId) (cbdata : CallbackData) (startTime endTime : UInt64)
    (nodeMapOrder : List UInt64) (info : GraphResourceCreationInfo) :
    Except Fault (CuptiTracerEvent × GraphResourceCreationInfo) :=
  match info.nodeIdMap.iterate nodeMapOrder with
  | [] => .error .beginOfEmptyNodeIdMap
  | (nodeId, origNodeId) :: _ =>
    .ok ({ event.uponApiExit .cudaGraph threadId deviceId cbdata startTime endTime with
            name := cbdata.functionName
            cudaGraphInfo := { cbid, origGraphId := info.origGraphId, origGraphNodeId := origNodeId }
            graphId := info.graphId, graphNodeId := nodeId },
      { info with nodeIdMap := NodeIdMap.clear })

end GpuTracer
