import GpuTracer.GraphThread

/-! What one driver-API exit pushes into its thread's buffer: `Push` stores each event as it is or
with its annotation and nvtx range emptied, so every other field is the one its handler wrote. -/
namespace GpuTracer

theorem AnnotationStripped.deviceId {e e' : CuptiTracerEvent} (h : AnnotationStripped e e') :
    e'.deviceId = e.deviceId := by
  rcases h with rfl | rfl <;> rfl

theorem AnnotationStripped.memcpyInfo {e e' : CuptiTracerEvent} (h : AnnotationStripped e e') :
    e'.memcpyInfo = e.memcpyInfo := by
  rcases h with rfl | rfl <;> rfl

theorem AnnotationStripped.type {e e' : CuptiTracerEvent} (h : AnnotationStripped e e') :
    e'.type = e.type := by
  rcases h with rfl | rfl <;> rfl

theorem AnnotationStripped.graphId {e e' : CuptiTracerEvent} (h : AnnotationStripped e e') :
    e'.graphId = e.graphId := by
  rcases h with rfl | rfl <;> rfl

open GuardedCallbackAnnotationsAndEvents in
theorem foldl_push_stored (tracer : CuptiTracer) :
    ∀ (events : List CuptiTracerEvent) (g : CallbackAnnotationsAndEvents), ∃ stored,
      List.Forall₂ AnnotationStripped events stored ∧
        (events.foldl (push tracer) g).eventQueue = g.eventQueue ++ stored
  | [], g => ⟨[], .nil, by simp⟩
  | e :: events, g => by
    obtain ⟨e', he, hq⟩ := push_stored tracer g e
    obtain ⟨stored, hs, heq⟩ := foldl_push_stored tracer events (push tracer g e)
    exact ⟨e' :: stored, .cons he hs, by
      rw [List.foldl_cons, heq, hq, List.append_assoc, List.singleton_append]⟩

theorem stored_forall {P : CuptiTracerEvent → Prop}
    (hP : ∀ e e', AnnotationStripped e e' → P e → P e') :
    ∀ {l l' : List CuptiTracerEvent}, List.Forall₂ AnnotationStripped l l' → (∀ e ∈ l, P e) →
      ∀ e ∈ l', P e
  | _, _, .nil, _ => by simp
  | _, _, .cons h hs, hl => by
    simp only [List.mem_cons, forall_eq_or_imp] at hl ⊢
    exact ⟨hP _ _ h hl.1, stored_forall hP hs hl.2⟩

theorem stored_map {β : Type} (f : CuptiTracerEvent → β)
    (hf : ∀ e e', AnnotationStripped e e' → f e' = f e) :
    ∀ {l l' : List CuptiTracerEvent}, List.Forall₂ AnnotationStripped l l' → l'.map f = l.map f
  | _, _, .nil => rfl
  | _, _, .cons h hs => by rw [List.map_cons, List.map_cons, hf _ _ h, stored_map f hf hs]

theorem forall₂_append_split {α β : Type} {R : α → β → Prop} :
    ∀ {l₁ l₂ : List α} {m : List β}, List.Forall₂ R (l₁ ++ l₂) m →
      ∃ m₁ m₂, m = m₁ ++ m₂ ∧ List.Forall₂ R l₁ m₁ ∧ List.Forall₂ R l₂ m₂
  | [], _, m, h => ⟨[], m, rfl, .nil, h⟩
  | _ :: _, _, _, .cons h hs =>
    let ⟨m₁, m₂, e, h₁, h₂⟩ := forall₂_append_split hs
    ⟨_ :: m₁, m₂, by rw [e]; rfl, .cons h h₁, h₂⟩

theorem isGraphLaunch_of_createsNodeMapEvents {cbid : CallbackId}
    (h : createsNodeMapEvents cbid = true) : isGraphLaunch cbid = false := by
  simp only [createsNodeMapEvents, Bool.or_eq_true, decide_eq_true_eq] at h
  rcases h with rfl | rfl <;> rfl

theorem createsNodeMapEvents_of_exitHandler {cbid : CallbackId} (h : exitHandler cbid ≠ .cudaGraph) :
    createsNodeMapEvents cbid = false :=
  Bool.eq_false_iff.mpr fun hc => h (createsNodeMapEvents_exitHandler hc)

section Exit

variable (tracer : CuptiTracer) (event : CuptiTracerEvent) (threadId deviceId : UInt32)
  (cbid : CallbackId) (cbdata : CallbackData) (startTsc endTsc : UInt64)

/-- The node-map events a clone or a flagged instantiation hands to `Push`, in the map's order. -/
def nodeMapEvents (order : List UInt64) (info : GraphResourceCreationInfo) : List CuptiTracerEvent :=
  if createsNodeMapEvents cbid then
    (info.nodeIdMap.iterate order).map (nodeMapEvent event threadId deviceId cbid cbdata startTsc info)
  else []

variable {tracer event threadId deviceId cbid cbdata startTsc endTsc}

theorem setCallbackEventUponApiExit_pushed {q : ExitQueries} {guarded : CallbackAnnotationsAndEvents}
    {info : GraphResourceCreationInfo}
    {r : CuptiTracerEvent × CallbackAnnotationsAndEvents × GraphResourceCreationInfo}
    (h : setCallbackEventUponApiExit tracer event threadId deviceId cbid cbdata startTsc endTsc q
      guarded info = .ok r) :
    ∃ stored, List.Forall₂ AnnotationStripped
        (nodeMapEvents event threadId deviceId cbid cbdata startTsc q.nodeMapOrder info) stored ∧
      r.2.1.eventQueue = guarded.eventQueue ++ stored := by
  have hnone : exitHandler cbid ≠ .cudaGraph → r.2.1 = guarded →
      ∃ stored, List.Forall₂ AnnotationStripped
        (nodeMapEvents event threadId deviceId cbid cbdata startTsc q.nodeMapOrder info) stored ∧
      r.2.1.eventQueue = guarded.eventQueue ++ stored := fun hx hr =>
    ⟨[], by simp [nodeMapEvents, createsNodeMapEvents_of_exitHandler hx], by simp [hr]⟩
  unfold setCallbackEventUponApiExit at h
  cases hx : exitHandler cbid <;> simp only [hx] at h
  case cudaGraph =>
    cases h
    by_cases hc : createsNodeMapEvents cbid
    · simp only [setCudaGraphEventUponApiExit, isGraphLaunch_of_createsNodeMapEvents hc, hc,
        nodeMapEvents, if_true, Bool.false_eq_true, if_false, ← List.foldl_map]
      exact foldl_push_stored _ _ _
    · exact ⟨[], by simp [nodeMapEvents, hc], by simp [setCudaGraphEventUponApiExit, hc]⟩
  case cudaGraphNode =>
    obtain ⟨_, -, rfl⟩ := map_eq_ok.mp h
    exact hnone (by simp [hx]) rfl
  all_goals cases h; exact hnone (by simp [hx]) rfl

theorem setCallbackEventUponApiExit_device {q : ExitQueries} {guarded : CallbackAnnotationsAndEvents}
    {info : GraphResourceCreationInfo}
    {r : CuptiTracerEvent × CallbackAnnotationsAndEvents × GraphResourceCreationInfo}
    (h : setCallbackEventUponApiExit tracer event threadId deviceId cbid cbdata startTsc endTsc q
      guarded info = .ok r) :
    (r.1.deviceId, r.1.memcpyInfo.destination) =
      match exitHandler cbid with
      | .p2pMemcpy => (q.srcDevice.getD (0 - 1), q.dstDevice.getD (0 - 1))
      | .normalMemcpy => (deviceId, deviceId)
      | _ => (deviceId, event.memcpyInfo.destination) := by
  unfold setCallbackEventUponApiExit at h
  cases hx : exitHandler cbid <;> simp only [hx] at h
  case cudaGraphNode =>
    obtain ⟨x, hx', rfl⟩ := map_eq_ok.mp h
    unfold setCudaGraphNodeEventUponApiExit at hx'
    split at hx' <;> cases hx'
    rfl
  all_goals cases h; rfl

open GuardedCallbackAnnotationsAndEvents in
theorem recordDriverApiCallbackEvent_pushed {stack : AnnotationStack} {q : ExitQueries}
    {th : ThreadLocal} {r : CuptiTracer × ThreadLocal}
    (h : recordDriverApiCallbackEvent tracer stack threadId deviceId startTsc endTsc cbid cbdata q th =
      .ok r) :
    ∃ x stored, setCallbackEventUponApiExit tracer.incCallbackEventCount (callbackEvent stack cbdata)
        threadId deviceId cbid cbdata startTsc endTsc q
        (addScopeRangeIdSequence th.guarded stack.scopeRangeIds) th.graphInfo = .ok x ∧
      r = (tracer.incCallbackEventCount,
        { guarded := push tracer.incCallbackEventCount x.2.1 x.1, graphInfo := x.2.2 }) ∧
      List.Forall₂ AnnotationStripped (nodeMapEvents (callbackEvent stack cbdata) threadId deviceId
        cbid cbdata startTsc q.nodeMapOrder th.graphInfo ++ [x.1]) stored ∧
      r.2.guarded.eventQueue = th.guarded.eventQueue ++ stored := by
  obtain ⟨x, hx, rfl⟩ := map_eq_ok.mp h
  obtain ⟨stored, hs, hq⟩ := setCallbackEventUponApiExit_pushed hx
  obtain ⟨e, he, hpush⟩ := push_stored tracer.incCallbackEventCount x.2.1 x.1
  refine ⟨x, stored ++ [e], hx, rfl, List.rel_append hs (.cons he .nil), ?_⟩
  simp only [hpush, hq, addScopeRangeIdSequence_eventQueue, List.append_assoc]

end Exit

/-- Device ids of what a driver-API callback pushes: the resolved device below `num_gpus_`, except
for a peer copy, whose event names the vendor's answers unchecked. -/
theorem pushed_device_ids (tracer : CuptiTracer) (hook : CuptiDriverApiHook)
    (stack : AnnotationStack) (threadId : UInt32) (cbid : CallbackId) (cbdata : CallbackData)
    (a : DriverCallbackAnswers) (th : ThreadLocal)
    (r : Status × CuptiTracer × CuptiDriverApiHook × ThreadLocal)
    (h : handleDriverApiCallback tracer hook stack threadId cbid cbdata a th = .ok r) :
    ∃ new, r.2.2.2.guarded.eventQueue = th.guarded.eventQueue ++ new ∧
      (cbdata.context = none ∨ a.deviceId.1 ≠ .success ∨ tracer.numGpus ≤ a.deviceId.2.toNat →
        r.2.1 = tracer ∧ r.2.2.2 = th) ∧
      ∀ e ∈ new, if exitHandler cbid = .p2pMemcpy then
          e.deviceId = a.exitQueries.srcDevice.getD (0 - 1) ∧
            e.memcpyInfo.destination = a.exitQueries.dstDevice.getD (0 - 1)
        else e.deviceId.toNat < tracer.numGpus ∧ e.memcpyInfo.destination.toNat < tracer.numGpus := by
  unfold handleDriverApiCallback at h
  split at h
  case h_2 ctx deviceId hctx hdev =>
    split at h
    · cases h; exact ⟨[], by simp, fun _ => ⟨rfl, rfl⟩, by simp⟩
    rename_i hlt
    split at h
    · cases h; exact ⟨[], by simp, fun _ => ⟨rfl, rfl⟩, by simp⟩
    obtain ⟨r', h', rfl⟩ := map_eq_ok.mp h
    unfold addDriverApiCallbackEvent at h'
    split at h'
    · cases h'
      exact ⟨[], by simp [GuardedCallbackAnnotationsAndEvents.incNumDroppedEvents], fun hbad => by
        simp [hctx, hdev] at hbad; omega, by simp⟩
    obtain ⟨x, stored, hx, rfl, hs, hq⟩ := recordDriverApiCallbackEvent_pushed h'
    refine ⟨stored, hq, fun hbad => by simp [hctx, hdev] at hbad; omega, ?_⟩
    refine stored_forall (fun e e' he => by rw [he.deviceId, he.memcpyInfo]; exact id) hs ?_
    have hpos : (0 : UInt32).toNat < tracer.numGpus := by
      simp only [UInt32.toNat_zero]; omega
    intro e he
    rcases List.mem_append.mp he with he | he
    · simp only [nodeMapEvents] at he
      split at he
      · rename_i hc
        obtain ⟨entry, -, rfl⟩ := List.mem_map.mp he
        rw [if_neg (by rw [createsNodeMapEvents_exitHandler hc]; decide)]
        exact ⟨Nat.not_le.mp hlt, hpos⟩
      · cases he
    · rw [List.mem_singleton.mp he]
      have hd := setCallbackEventUponApiExit_device hx
      cases hh : exitHandler cbid <;> simp only [hh, Prod.mk.injEq] at hd <;>
        simp only [hd, if_true, reduceCtorEq, if_false, and_self] <;>
        first | exact Nat.not_le.mp hlt | exact ⟨Nat.not_le.mp hlt, hpos⟩
  all_goals cases h; exact ⟨[], by simp, fun _ => ⟨rfl, rfl⟩, by simp⟩

/-- A peer copy whose contexts the vendor fails to resolve names device `2^32 - 1`. -/
theorem peer_copy_pushes_unresolved_device :
    let tracer : CuptiTracer := { numGpus := 1, kBufferSizeInBytes := 64, collector := some ⟨0, {}⟩ }
    let cbdata : CallbackData := { callbackSite := .exit, context := some 1 }
    let a : DriverCallbackAnswers := { deviceId := (.success, 0) }
    let th : ThreadLocal := {}
    ∃ r, handleDriverApiCallback tracer { option := {} } {} 0 (.api .cuMemcpyPeer) cbdata a th = .ok r ∧
      r.2.2.2.guarded.eventQueue.map (fun e => (e.deviceId, e.memcpyInfo.destination)) =
        [(4294967295, 4294967295)] ∧
      ∃ new, r.2.2.2.guarded.eventQueue = th.guarded.eventQueue ++ new ∧
        (cbdata.context = none ∨ a.deviceId.1 ≠ .success ∨ tracer.numGpus ≤ a.deviceId.2.toNat →
          r.2.1 = tracer ∧ r.2.2.2 = th) ∧
        ∀ e ∈ new, if exitHandler (.api .cuMemcpyPeer) = .p2pMemcpy then
            e.deviceId = a.exitQueries.srcDevice.getD (0 - 1) ∧
              e.memcpyInfo.destination = a.exitQueries.dstDevice.getD (0 - 1)
          else e.deviceId.toNat < tracer.numGpus ∧ e.memcpyInfo.destination.toNat < tracer.numGpus := by
  intro tracer cbdata a th
  refine ⟨_, rfl, rfl, ?_⟩
  exact pushed_device_ids tracer { option := {} } {} 0 (.api .cuMemcpyPeer) cbdata a th _ rfl

/-- A clone or flagged instantiation pushes one node-map event per pending entry, in the map's
order, all stamped at the call's start: the loop never advances `current_start_time`. -/
theorem node_map_events_share_start_time (tracer : CuptiTracer) (stack : AnnotationStack)
    (threadId deviceId : UInt32) (startTsc endTsc : UInt64) (cbid : CallbackId)
    (cbdata : CallbackData) (q : ExitQueries) (th : ThreadLocal)
    (hc : createsNodeMapEvents cbid = true) (hb : tracer.tooManyCallbackEvents = false) :
    ∃ th' nodeMaps last,
      addDriverApiCallbackEvent tracer stack threadId deviceId startTsc endTsc cbid cbdata q th =
        .ok (tracer.incCallbackEventCount, th') ∧
      th'.guarded.eventQueue = th.guarded.eventQueue ++ nodeMaps ++ [last] ∧
      nodeMaps.map (fun e => (e.graphNodeId, e.cudaGraphInfo.origGraphNodeId)) =
        th.graphInfo.nodeIdMap.iterate q.nodeMapOrder ∧
      (nodeMaps.map (·.graphNodeId)).Nodup ∧
      (∀ e ∈ nodeMaps, e.type = .cudaGraphNodeMap ∧ e.graphId = th.graphInfo.graphId ∧
        e.cudaGraphInfo.origGraphId = th.graphInfo.origGraphId ∧
        e.startTimeNs = startTsc ∧ e.endTimeNs = startTsc + 1) ∧
      last.type = .cudaGraph ∧ last.cudaGraphInfo.cbid = cbid ∧
      th'.graphInfo.nodeIdMap.entries = [] := by
  obtain ⟨r, hr⟩ : ∃ r, recordDriverApiCallbackEvent tracer stack threadId deviceId startTsc endTsc
      cbid cbdata q th = .ok r :=
    ⟨_, by simp only [recordDriverApiCallbackEvent, setCallbackEventUponApiExit,
      createsNodeMapEvents_exitHandler hc]; rfl⟩
  obtain ⟨x, stored, hx, rfl, hs, hq⟩ := recordDriverApiCallbackEvent_pushed hr
  simp only [setCallbackEventUponApiExit, createsNodeMapEvents_exitHandler hc, Except.ok.injEq] at hx
  subst hx
  simp only [nodeMapEvents, hc, if_true] at hs
  obtain ⟨nodeMaps, lasts, rfl, hn, hlast⟩ := forall₂_append_split hs
  obtain ⟨last, rest, hexit, hrest, rfl⟩ := List.forall₂_cons_left_iff.mp hlast
  obtain rfl := List.forall₂_nil_left_iff.mp hrest
  have hpairs : nodeMaps.map (fun e => (e.graphNodeId, e.cudaGraphInfo.origGraphNodeId)) =
      th.graphInfo.nodeIdMap.iterate q.nodeMapOrder := by
    rw [stored_map _ (fun e e' h => by rcases h with rfl | rfl <;> rfl) hn, List.map_map]
    exact (List.map_congr_left fun _ _ => rfl).trans (List.map_id _)
  refine ⟨_, nodeMaps, last, ?_, by rw [hq, List.append_assoc], hpairs, ?_, ?_,
    by rcases hexit with rfl | rfl <;> rfl, by rcases hexit with rfl | rfl <;> rfl,
    by simp [setCudaGraphEventUponApiExit, hc]⟩
  · simp only [addDriverApiCallbackEvent, hb, Bool.false_eq_true, if_false]
    exact hr
  · have := congrArg (List.map Prod.fst) hpairs
    rw [List.map_map] at this
    exact this ▸ th.graphInfo.nodeIdMap.nodup_iterate q.nodeMapOrder
  · refine stored_forall (fun e e' h => by rcases h with rfl | rfl <;> exact id) hn ?_
    intro e he
    obtain ⟨entry, -, rfl⟩ := List.mem_map.mp he
    exact ⟨rfl, rfl, rfl, rfl, rfl⟩

/-- A clone exit at time 5 with two pending mappings: both node-map events are stamped `[5, 6]`. -/
theorem clone_exit_node_maps_start_together :
    let tracer : CuptiTracer := { numGpus := 1, kBufferSizeInBytes := 64, collector := some ⟨0, {}⟩ }
    let cbdata : CallbackData := { callbackSite := .exit, context := some 1 }
    let th : ThreadLocal :=
      { graphInfo := { graphId := 2, origGraphId := 1, nodeIdMap := (NodeIdMap.clear.set 10 3).set 11 4 } }
    (∃ th', addDriverApiCallbackEvent tracer {} 0 0 5 9 (.api .cuGraphClone) cbdata {} th =
        .ok (tracer.incCallbackEventCount, th') ∧
      th'.guarded.eventQueue.map (fun e => (e.type, e.startTimeNs, e.endTimeNs)) =
        [(.cudaGraphNodeMap, 5, 6), (.cudaGraphNodeMap, 5, 6), (.cudaGraph, 5, 9)]) ∧
    createsNodeMapEvents (.api .cuGraphClone) = true ∧ tracer.tooManyCallbackEvents = false ∧
    ∃ th' nodeMaps last,
      addDriverApiCallbackEvent tracer {} 0 0 5 9 (.api .cuGraphClone) cbdata {} th =
        .ok (tracer.incCallbackEventCount, th') ∧
      th'.guarded.eventQueue = th.guarded.eventQueue ++ nodeMaps ++ [last] ∧
      nodeMaps.map (fun e => (e.graphNodeId, e.cudaGraphInfo.origGraphNodeId)) =
        th.graphInfo.nodeIdMap.iterate ({} : ExitQueries).nodeMapOrder ∧
      (nodeMaps.map (·.graphNodeId)).Nodup ∧
      (∀ e ∈ nodeMaps, e.type = .cudaGraphNodeMap ∧ e.graphId = th.graphInfo.graphId ∧
        e.cudaGraphInfo.origGraphId = th.graphInfo.origGraphId ∧
        e.startTimeNs = 5 ∧ e.endTimeNs = 5 + 1) ∧
      last.type = .cudaGraph ∧ last.cudaGraphInfo.cbid = .api .cuGraphClone ∧
      th'.graphInfo.nodeIdMap.entries = [] := by
  intro tracer cbdata th
  exact ⟨⟨_, rfl, rfl⟩, rfl, rfl,
    node_map_events_share_start_time tracer {} 0 0 5 9 (.api .cuGraphClone) cbdata {} th rfl rfl⟩

end GpuTracer
