import GpuTracer.ExitEvents

/-! Graph ids on one producer thread: every graph event an exit builds names the graph the thread
created, cloned, instantiated or launched last, so a node add names that graph, not its own. -/
namespace GpuTracer

def instantiations : List DriverApi :=
  [.cuGraphInstantiate, .cuGraphInstantiate_v2, .cuGraphInstantiateWithFlags,
   .cuGraphInstantiateWithParams, .cuGraphInstantiateWithParams_ptsz]

def launches : List DriverApi := [.cuGraphLaunch, .cuGraphLaunch_ptsz]

/-- Spec side: a successful graph API call on one thread, with the ids of what it involves. -/
inductive GraphCall
  /-- `cuGraphCreate`, creating `graph`. -/
  | create (graph : UInt32)
  /-- `cuGraphClone` of `original` into `graph`, cloning each `(node, originalNode)`. -/
  | clone (original graph : UInt32) (nodes : List (UInt64 × UInt64))
  /-- Instantiation `f` of `graph` into the exec `exec`, cloning each `(node, originalNode)`. -/
  | instantiate (f : DriverApi) (hf : f ∈ instantiations) (graph exec : UInt32)
      (nodes : List (UInt64 × UInt64))
  /-- Launch `f` of the exec `exec`. -/
  | launch (f : DriverApi) (hf : f ∈ launches) (exec : UInt32)
  /-- Node add `f` of `node` to `graph`, the call's `hGraph`. -/
  | addNode (f : DriverApi) (hf : exitHandler (.api f) = .cudaGraphNode) (graph : UInt32)
      (node : UInt64)

/-- The part of an exit callback a graph call leaves open. -/
structure ExitContext where
  tracer : CuptiTracer
  stack : AnnotationStack := {}
  threadId : UInt32 := 0
  deviceId : UInt32 := 0
  startTsc : UInt64 := 0
  endTsc : UInt64 := 0
  cbdata : CallbackData := {}

namespace GraphCall

def api : GraphCall → DriverApi
  | .create _ => .cuGraphCreate
  | .clone .. => .cuGraphClone
  | .instantiate f .. => f
  | .launch f .. => f
  | .addNode f .. => f

def clonedNode (n : UInt64 × UInt64) : ResourceCbid × GraphIdQueries :=
  (.graphNodeCloned, { node := some n.1, originalNode := some n.2 })

def notifications : GraphCall → List (ResourceCbid × GraphIdQueries)
  | .create g => [(.graphCreated, { graph := some g })]
  | .clone o g nodes => (.graphCloned, { graph := some g, originalGraph := some o }) ::
      nodes.map clonedNode
  | .instantiate _ _ g e nodes => (.graphExecCreated, { graphExec := some e, graph := some g }) ::
      nodes.map clonedNode
  | .launch .. => []
  | .addNode _ _ _ n => [(.graphNodeCreated, { node := some n })]

def exitQueries : GraphCall → ExitQueries
  | .launch _ _ e => { graphExecId := some e }
  | _ => {}

def steps (c : GraphCall) (x : ExitContext) : List ThreadGraphStep :=
  c.notifications.map (fun n => .resource n.1 n.2) ++
    [.exit x.tracer x.stack x.threadId x.deviceId x.startTsc x.endTsc (.api c.api) x.cbdata
      c.exitQueries]

/-- Spec side: the graph or exec a call produces or launches; a node add produces none. -/
def produced : GraphCall → Option UInt32
  | .create g => some g
  | .clone _ g _ => some g
  | .instantiate _ _ _ e _ => some e
  | .launch _ _ e => some e
  | .addNode .. => none

/-- Spec side: the thread's current graph after a call, from `g` before it. -/
def graphAfter (c : GraphCall) (x : ExitContext) (g : UInt32) : UInt32 :=
  match c with
  | .launch _ _ e => if x.tracer.tooManyCallbackEvents then g else e
  | _ => c.produced.getD g

end GraphCall

def graphsBefore (g : UInt32) : List (GraphCall × ExitContext) → List UInt32
  | [] => []
  | c :: cs => g :: graphsBefore (c.1.graphAfter c.2 g) cs

theorem exitHandler_of_isGraphLaunch {cbid : CallbackId} (h : isGraphLaunch cbid = true) :
    exitHandler cbid = .cudaGraph := by
  simp only [isGraphLaunch, Bool.or_eq_true, decide_eq_true_eq] at h
  rcases h with rfl | rfl <;> rfl

theorem NodeIdMap.set_entries_ne_nil (m : NodeIdMap) (key value : UInt64) :
    (m.set key value).entries ≠ [] := by
  unfold NodeIdMap.set
  split
  · rename_i h
    obtain ⟨e, he, -⟩ := List.mem_map.mp h
    exact List.ne_nil_of_mem (List.mem_map_of_mem _ he)
  · simp

section Exit

variable {tracer : CuptiTracer} {event : CuptiTracerEvent} {threadId deviceId : UInt32}
  {cbid : CallbackId} {cbdata : CallbackData} {startTsc endTsc : UInt64} {q : ExitQueries}
  {guarded : CallbackAnnotationsAndEvents} {info : GraphResourceCreationInfo}

theorem setCallbackEventUponApiExit_graphId
    {r : CuptiTracerEvent × CallbackAnnotationsAndEvents × GraphResourceCreationInfo}
    (hg : exitHandler cbid = .cudaGraph ∨ exitHandler cbid = .cudaGraphNode)
    (h : setCallbackEventUponApiExit tracer event threadId deviceId cbid cbdata startTsc endTsc q
      guarded info = .ok r) :
    r.1.graphId = (if isGraphLaunch cbid then q.graphExecId.getD info.graphId else info.graphId) ∧
      r.2.2.graphId = (if isGraphLaunch cbid then q.graphExecId.getD info.graphId else info.graphId) := by
  unfold setCallbackEventUponApiExit at h
  rcases hg with hg | hg <;> simp only [hg] at h
  · cases h
    unfold setCudaGraphEventUponApiExit
    split <;> split <;> exact ⟨rfl, rfl⟩
  · obtain ⟨x, hx, rfl⟩ := map_eq_ok.mp h
    have hl : isGraphLaunch cbid = false :=
      Bool.eq_false_iff.mpr fun hl => by rw [exitHandler_of_isGraphLaunch hl] at hg; cases hg
    unfold setCudaGraphNodeEventUponApiExit at hx
    split at hx <;> cases hx
    simp only [hl]
    exact ⟨rfl, rfl⟩

theorem nodeMapEvents_graphId {e : CuptiTracerEvent}
    (he : e ∈ nodeMapEvents event threadId deviceId cbid cbdata startTsc q.nodeMapOrder info) :
    e.graphId = info.graphId := by
  unfold nodeMapEvents at he
  split at he
  · obtain ⟨_, -, rfl⟩ := List.mem_map.mp he
    rfl
  · cases he

theorem setCallbackEventUponApiExit_graph_ok
    (hg : exitHandler cbid = .cudaGraph ∨ exitHandler cbid = .cudaGraphNode)
    (hmap : exitHandler cbid = .cudaGraphNode → info.nodeIdMap.entries ≠ []) :
    ∃ r, setCallbackEventUponApiExit tracer event threadId deviceId cbid cbdata startTsc endTsc q
      guarded info = .ok r := by
  unfold setCallbackEventUponApiExit
  rcases hg with hg | hg <;> simp only [hg]
  · exact ⟨_, rfl⟩
  · unfold setCudaGraphNodeEventUponApiExit
    split
    · exact absurd (NodeIdMap.iterate_eq_nil.mp ‹_›) (hmap hg)
    · exact ⟨_, rfl⟩

end Exit

namespace ThreadGraphStep

theorem run_append (th : ThreadLocal) (ss ss' : List ThreadGraphStep) :
    run th (ss ++ ss') = (run th ss).bind fun th => run th ss' := by
  induction ss generalizing th with
  | nil => rfl
  | cons s ss ih =>
    simp only [List.cons_append, run]
    cases s.apply th with
    | error e => rfl
    | ok th₁ => exact ih th₁

theorem run_resources (th : ThreadLocal) (ns : List (ResourceCbid × GraphIdQueries)) :
    run th (ns.map fun n => .resource n.1 n.2) =
      .ok { th with
        graphInfo := ns.foldl (fun info n => handleResourceCallback n.1 n.2 info) th.graphInfo } := by
  induction ns generalizing th with
  | nil => rfl
  | cons n ns ih => exact ih _

open GuardedCallbackAnnotationsAndEvents in
theorem apply_graph_exit (tracer : CuptiTracer) (stack : AnnotationStack)
    (threadId deviceId : UInt32) (startTsc endTsc : UInt64) (cbid : CallbackId)
    (cbdata : CallbackData) (q : ExitQueries) (th : ThreadLocal)
    (hg : exitHandler cbid = .cudaGraph ∨ exitHandler cbid = .cudaGraphNode)
    (hmap : exitHandler cbid = .cudaGraphNode → th.graphInfo.nodeIdMap.entries ≠ []) :
    ∃ th' batch,
      (exit tracer stack threadId deviceId startTsc endTsc cbid cbdata q).apply th = .ok th' ∧
      th'.guarded.eventQueue = th.guarded.eventQueue ++ batch ∧
      (∀ e ∈ batch, e.graphId =
        if isGraphLaunch cbid then q.graphExecId.getD th.graphInfo.graphId else th.graphInfo.graphId) ∧
      th'.graphInfo.graphId = if tracer.tooManyCallbackEvents then th.graphInfo.graphId
        else if isGraphLaunch cbid then q.graphExecId.getD th.graphInfo.graphId
        else th.graphInfo.graphId := by
  by_cases hb : tracer.tooManyCallbackEvents
  · exact ⟨_, [], by simp [apply, addDriverApiCallbackEvent, hb, Except.map]; rfl,
      by simp [incNumDroppedEvents], by simp, by simp [hb]⟩
  obtain ⟨x₀, hx₀⟩ : ∃ x, setCallbackEventUponApiExit tracer.incCallbackEventCount
      (callbackEvent stack cbdata) threadId deviceId cbid cbdata startTsc endTsc q
      (addScopeRangeIdSequence th.guarded stack.scopeRangeIds) th.graphInfo = .ok x :=
    setCallbackEventUponApiExit_graph_ok hg hmap
  obtain ⟨r, hr⟩ : ∃ r, recordDriverApiCallbackEvent tracer stack threadId deviceId startTsc endTsc
      cbid cbdata q th = .ok r := ⟨_, by simp only [recordDriverApiCallbackEvent, hx₀]; rfl⟩
  obtain ⟨x, stored, hx, rfl, hs, hq⟩ := recordDriverApiCallbackEvent_pushed hr
  obtain ⟨hevent, hinfo⟩ := setCallbackEventUponApiExit_graphId hg hx
  refine ⟨_, stored, by simp [apply, addDriverApiCallbackEvent, hb, hr, Except.map], hq, ?_,
    by simpa [hb] using hinfo⟩
  refine stored_forall (fun e e' h => by rw [h.graphId]; exact id) hs fun e he => ?_
  rcases List.mem_append.mp he with he | he
  · rw [nodeMapEvents_graphId he]
    have hc : createsNodeMapEvents cbid = true := by
      unfold nodeMapEvents at he
      split at he
      · assumption
      · cases he
    simp [isGraphLaunch_of_createsNodeMapEvents hc]
  · rw [List.mem_singleton.mp he, hevent]

end ThreadGraphStep

namespace GraphCall

theorem exitHandler_api (c : GraphCall) :
    exitHandler (.api c.api) = .cudaGraph ∨ exitHandler (.api c.api) = .cudaGraphNode := by
  cases c with
  | instantiate f hf =>
    simp only [instantiations, List.mem_cons, List.not_mem_nil, or_false] at hf
    rcases hf with rfl | rfl | rfl | rfl | rfl <;> exact .inl rfl
  | launch f hf =>
    simp only [launches, List.mem_cons, List.not_mem_nil, or_false] at hf
    rcases hf with rfl | rfl <;> exact .inl rfl
  | addNode f hf => exact .inr hf
  | _ => exact .inl rfl

theorem foldl_clonedNode_graphId (nodes : List (UInt64 × UInt64)) (info : GraphResourceCreationInfo) :
    ((nodes.map clonedNode).foldl (fun info n => handleResourceCallback n.1 n.2 info) info).graphId =
      info.graphId := by
  induction nodes generalizing info with
  | nil => rfl
  | cons n nodes ih => exact ih _

theorem exit_graphId (c : GraphCall) (info : GraphResourceCreationInfo) :
    let g := (c.notifications.foldl (fun info n => handleResourceCallback n.1 n.2 info) info).graphId
    (if isGraphLaunch (.api c.api) then c.exitQueries.graphExecId.getD g else g) =
      c.produced.getD info.graphId := by
  cases c with
  | create g => rfl
  | clone o g nodes => exact foldl_clonedNode_graphId nodes _
  | instantiate f hf g e nodes =>
    simp only [instantiations, List.mem_cons, List.not_mem_nil, or_false] at hf
    rcases hf with rfl | rfl | rfl | rfl | rfl <;> exact foldl_clonedNode_graphId nodes _
  | launch f hf e =>
    simp only [launches, List.mem_cons, List.not_mem_nil, or_false] at hf
    rcases hf with rfl | rfl <;> rfl
  | addNode f hf g n =>
    have hl : isGraphLaunch (.api f) = false :=
      Bool.eq_false_iff.mpr fun hl => by rw [exitHandler_of_isGraphLaunch hl] at hf; cases hf
    simp only [api, hl]
    rfl

theorem run_steps (c : GraphCall) (x : ExitContext) (th : ThreadLocal) :
    ∃ th' batch, ThreadGraphStep.run th (c.steps x) = .ok th' ∧
      th'.guarded.eventQueue = th.guarded.eventQueue ++ batch ∧
      (∀ e ∈ batch, e.graphId = c.produced.getD th.graphInfo.graphId) ∧
      th'.graphInfo.graphId = c.graphAfter x th.graphInfo.graphId := by
  let th₁ : ThreadLocal := { th with
    graphInfo := c.notifications.foldl (fun info n => handleResourceCallback n.1 n.2 info) th.graphInfo }
  have hmap : exitHandler (.api c.api) = .cudaGraphNode → th₁.graphInfo.nodeIdMap.entries ≠ [] := by
    intro h
    cases c with
    | addNode => exact NodeIdMap.set_entries_ne_nil _ _ _
    | instantiate f hf =>
      simp only [instantiations, List.mem_cons, List.not_mem_nil, or_false] at hf
      rcases hf with rfl | rfl | rfl | rfl | rfl <;> cases h
    | launch f hf =>
      simp only [launches, List.mem_cons, List.not_mem_nil, or_false] at hf
      rcases hf with rfl | rfl <;> cases h
    | _ => cases h
  obtain ⟨th', batch, hth', hq, he, hg⟩ := ThreadGraphStep.apply_graph_exit x.tracer x.stack
    x.threadId x.deviceId x.startTsc x.endTsc _ x.cbdata c.exitQueries th₁ c.exitHandler_api hmap
  refine ⟨th', batch, ?_, hq, fun e hmem => (he e hmem).trans (c.exit_graphId th.graphInfo), ?_⟩
  · rw [steps, ThreadGraphStep.run_append, ThreadGraphStep.run_resources]
    simp [ThreadGraphStep.run, Except.bind, hth']
  · rw [hg]
    cases c with
    | launch f hf e =>
      simp only [launches, List.mem_cons, List.not_mem_nil, or_false] at hf
      rcases hf with rfl | rfl <;> rfl
    | addNode f hf g n =>
      have hl : isGraphLaunch (.api f) = false :=
        Bool.eq_false_iff.mpr fun hl => by rw [exitHandler_of_isGraphLaunch hl] at hf; cases hf
      simp only [api, hl]
      split <;> rfl
    | instantiate f hf g e nodes =>
      simp only [instantiations, List.mem_cons, List.not_mem_nil, or_false] at hf
      rcases hf with rfl | rfl | rfl | rfl | rfl <;>
        simp only [th₁, notifications, List.foldl_cons, foldl_clonedNode_graphId] <;> split <;> rfl
    | _ =>
      simp only [th₁, notifications, List.foldl_cons, foldl_clonedNode_graphId]
      split <;> rfl

end GraphCall

/-- Graph-id attribution on one thread, as the code has it: every event a call pushes names the
graph or exec it produces or launches, and a node add names the thread's current graph. -/
theorem graph_events_name_current_graph (th : ThreadLocal)
    (calls : List (GraphCall × ExitContext)) :
    ∃ th' batches, ThreadGraphStep.run th (calls.flatMap fun c => c.1.steps c.2) = .ok th' ∧
      th'.guarded.eventQueue = th.guarded.eventQueue ++ batches.flatten ∧
      List.Forall₂ (fun (cg : (GraphCall × ExitContext) × UInt32) batch =>
          ∀ e ∈ batch, e.graphId = cg.1.1.produced.getD cg.2)
        (calls.zip (graphsBefore th.graphInfo.graphId calls)) batches := by
  induction calls generalizing th with
  | nil => exact ⟨th, [], rfl, by simp, .nil⟩
  | cons c calls ih =>
    obtain ⟨th₁, batch, h₁, hq₁, he₁, hg₁⟩ := c.1.run_steps c.2 th
    obtain ⟨th', batches, h', hq', hf'⟩ := ih th₁
    refine ⟨th', batch :: batches, ?_, by rw [hq', hq₁, List.flatten_cons, List.append_assoc], ?_⟩
    · rw [List.flatMap_cons, ThreadGraphStep.run_append, h₁]
      exact h'
    · rw [hg₁] at hf'
      exact .cons he₁ hf'

/-- A node added to the first of two graphs created on one thread names the second. -/
theorem node_added_to_earlier_graph_names_later_one :
    let x : ExitContext :=
      { tracer := { numGpus := 1, kBufferSizeInBytes := 64, collector := some ⟨0, {}⟩ } }
    ∃ th', ThreadGraphStep.run {} ([GraphCall.create 1, .create 2,
        .addNode .cuGraphAddEmptyNode rfl 1 5].flatMap fun c => c.steps x) = .ok th' ∧
      th'.guarded.eventQueue.map (·.graphId) = [1, 2, 2] :=
  ⟨_, rfl, rfl⟩

end GpuTracer
