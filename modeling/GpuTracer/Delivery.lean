import GpuTracer.Invariant

/-! What the collector receives when producer callbacks interleave with `Disable`,
`FlushEventsToCollector` and the vendor's buffer completions, over every run from construction. -/

namespace GpuTracer

namespace Sys

variable {s s' : Sys}

def launchExit : VendorCallback :=
  .driverApi (.api .cuLaunchKernel) { callbackSite := .exit, context := some 1 } { deviceId := (.success, 0) }

theorem resume_disableDeliverCallbackData {c : CuptiTraceCollector}
    (h : s.controller = .disableDeliverCallbackData c) (i : Nat) :
    s.resume.world.deliveredEvents i = s.world.deliveredEvents i ++ s.world.queue i ∧
      s.resume.world.queue i = [] := by
  unfold resume
  rw [h]
  exact ⟨World.deliverCallbackData_deliveredEvents, World.deliverCallbackData_queue⟩

/-- Every pushed event is, at every state, exactly once in a collector call, among the late events
an `Enable` cleared, or in its buffer; `Disable`'s gather empties every buffer. -/
theorem pushed_events_delivered_cleared_or_buffered (numGpus kBufferSizeInBytes threads : Nat)
    (cupti : CuptiInterface) (as : List Action) (s : Sys)
    (h : (init numGpus kBufferSizeInBytes threads cupti).run as = .ok s) :
    (∀ i, (s.world.deliveredEvents i ++ s.cleared i ++ s.world.queue i).Perm (s.pushed i)) ∧
    (∀ i, (s.cleared i).Subperm (s.latePushed i)) ∧
    ∀ c, s.controller = .disableDeliverCallbackData c → ∀ i,
      s.resume.world.deliveredEvents i = s.world.deliveredEvents i ++ s.world.queue i ∧
        s.resume.world.queue i = [] :=
  have hi := (inv_init ..).run h
  ⟨hi.accounted, hi.cleared_late, fun _ hc => resume_disableDeliverCallbackData hc⟩

theorem pushed_events_delivered_cleared_or_buffered_in_disable :
    ∃ s, (init 1 64 1 .healthy).run
        [.enable {} ⟨0, {}⟩, .arrive 0 {} launchExit, .dispatch 0, .record 0, .disable] = .ok s ∧
      ((∀ i, (s.world.deliveredEvents i ++ s.cleared i ++ s.world.queue i).Perm (s.pushed i)) ∧
        (∀ i, (s.cleared i).Subperm (s.latePushed i)) ∧
        ∀ c, s.controller = .disableDeliverCallbackData c → ∀ i,
          s.resume.world.deliveredEvents i = s.world.deliveredEvents i ++ s.world.queue i ∧
            s.resume.world.queue i = []) :=
  ⟨_, rfl, pushed_events_delivered_cleared_or_buffered 1 64 1 .healthy
    [.enable {} ⟨0, {}⟩, .arrive 0 {} launchExit, .dispatch 0, .record 0, .disable] _ rfl⟩

/-- A callback in flight at `Disable` pushes after the gather; the next `Enable` clears its event. -/
theorem in_flight_exit_cleared_undelivered :
    ∃ s, (init 1 64 1 .healthy).run
        [.enable {} ⟨0, {}⟩, .arrive 0 {} launchExit, .disable, .resume, .dispatch 0, .record 0,
         .resume, .resume] = .ok s ∧
      s.controller = .idle ∧ (s.pushed 0).length = 1 ∧ s.world.queue 0 = s.pushed 0 ∧
      s.latePushed 0 = s.pushed 0 ∧
      ∃ s', s.run [.enable {} ⟨1, {}⟩, .disable, .resume, .resume, .resume] = .ok s' ∧
        s'.controller = .idle ∧ s'.cleared 0 = s.pushed 0 ∧ s'.world.deliveredEvents 0 = [] :=
  ⟨_, rfl, rfl, rfl, rfl, rfl, _, rfl, rfl, rfl, rfl⟩

/-- At each hand-over of buffers, every buffered event was pushed after each buffer was cached, and
every other pushed event was handed over earlier or cleared. -/
theorem buffered_events_pushed_after_handed_buffers (numGpus kBufferSizeInBytes threads : Nat)
    (cupti : CuptiInterface) (as : List Action) (s : Sys)
    (h : (init numGpus kBufferSizeInBytes threads cupti).run as = .ok s) :
    (∀ i, (s.world.deliveredEvents i ++ s.cleared i ++ s.world.queue i).Perm (s.pushed i)) ∧
    (∀ i, (s.cleared i).Subperm (s.latePushed i)) ∧
    (∀ i, (s.pushTimes i).length = (s.world.queue i).length) ∧
    (∀ c cached, s.controller = .flushDeliverActivityBuffers c cached →
      s.poppedTimes.length = cached.length ∧ ∀ t ∈ s.poppedTimes, ∀ i, ∀ t' ∈ s.pushTimes i, t < t') ∧
    ∀ c, s.controller = .disableDeliverActivityData c → s.world.tracer.activityTracingEnabled = false →
      s.cacheTimes.length = s.world.cachedBuffers.length ∧
        ∀ t ∈ s.cacheTimes, ∀ i, ∀ t' ∈ s.pushTimes i, t < t' := by
  have hi := (inv_init ..).run h
  exact ⟨hi.accounted, hi.cleared_late, hi.pushTimes_length,
    fun c cached hc => ⟨hi.poppedTimes_length c cached (.inr hc), hi.flush_order c cached hc⟩,
    fun c hc ha => ⟨hi.cacheTimes_length, hi.disable_order c hc ha⟩⟩

def kernelActivity : CuptiTracerOptions := { activitiesSelected := [.concurrentKernel] }

/-- A flush's hand-over and `Disable`'s, each with a cached buffer and a later buffered event. -/
theorem buffered_events_pushed_after_handed_buffers_at_hand_overs :
    (∃ s, (init 1 64 1 .healthy).run
        [.enable kernelActivity ⟨0, {}⟩, .requestActivityBuffer,
         .processActivityBuffer ⟨0, 0⟩ 64 { records := 1 }, .flushEventsToCollector, .resume,
         .arrive 0 {} launchExit, .dispatch 0, .record 0] = .ok s ∧
      s.controller = .flushDeliverActivityBuffers ⟨0, {}⟩ [(⟨0, 0⟩, 64)] ∧
      (s.world.queue 0).length = 1 ∧
      ((∀ i, (s.world.deliveredEvents i ++ s.cleared i ++ s.world.queue i).Perm (s.pushed i)) ∧
      (∀ i, (s.cleared i).Subperm (s.latePushed i)) ∧
      (∀ i, (s.pushTimes i).length = (s.world.queue i).length) ∧
      (∀ c cached, s.controller = .flushDeliverActivityBuffers c cached →
        s.poppedTimes.length = cached.length ∧ ∀ t ∈ s.poppedTimes, ∀ i, ∀ t' ∈ s.pushTimes i, t < t') ∧
      ∀ c, s.controller = .disableDeliverActivityData c → s.world.tracer.activityTracingEnabled = false →
        s.cacheTimes.length = s.world.cachedBuffers.length ∧
          ∀ t ∈ s.cacheTimes, ∀ i, ∀ t' ∈ s.pushTimes i, t < t')) ∧
    ∃ s, (init 1 64 1 .healthy).run
        [.enable kernelActivity ⟨0, {}⟩, .requestActivityBuffer,
         .processActivityBuffer ⟨0, 0⟩ 64 { records := 1 }, .arrive 0 {} launchExit, .disable,
         .resume, .dispatch 0, .record 0] = .ok s ∧
      s.controller = .disableDeliverActivityData ⟨0, {}⟩ ∧
      s.world.tracer.activityTracingEnabled = false ∧ s.world.cachedBuffers = [(⟨0, 0⟩, 64)] ∧
      (s.world.queue 0).length = 1 ∧
      ((∀ i, (s.world.deliveredEvents i ++ s.cleared i ++ s.world.queue i).Perm (s.pushed i)) ∧
      (∀ i, (s.cleared i).Subperm (s.latePushed i)) ∧
      (∀ i, (s.pushTimes i).length = (s.world.queue i).length) ∧
      (∀ c cached, s.controller = .flushDeliverActivityBuffers c cached →
        s.poppedTimes.length = cached.length ∧ ∀ t ∈ s.poppedTimes, ∀ i, ∀ t' ∈ s.pushTimes i, t < t') ∧
      ∀ c, s.controller = .disableDeliverActivityData c → s.world.tracer.activityTracingEnabled = false →
        s.cacheTimes.length = s.world.cachedBuffers.length ∧
          ∀ t ∈ s.cacheTimes, ∀ i, ∀ t' ∈ s.pushTimes i, t < t') :=
  ⟨⟨_, rfl, rfl, rfl, buffered_events_pushed_after_handed_buffers 1 64 1 .healthy
      [.enable kernelActivity ⟨0, {}⟩, .requestActivityBuffer,
       .processActivityBuffer ⟨0, 0⟩ 64 { records := 1 }, .flushEventsToCollector, .resume,
       .arrive 0 {} launchExit, .dispatch 0, .record 0] _ rfl⟩,
    _, rfl, rfl, rfl, rfl, rfl, buffered_events_pushed_after_handed_buffers 1 64 1 .healthy
      [.enable kernelActivity ⟨0, {}⟩, .requestActivityBuffer,
       .processActivityBuffer ⟨0, 0⟩ 64 { records := 1 }, .arrive 0 {} launchExit, .disable,
       .resume, .dispatch 0, .record 0] _ rfl⟩

/-- An event in flight at `Disable` is cleared and never handed over, while a later buffer holding
its call's activity record, of the same correlation id, is. -/
theorem pushed_before_cached_never_delivered :
    ∃ s₁ s, (init 1 64 1 .healthy).run
        [.enable kernelActivity ⟨0, {}⟩,
         .arrive 0 {} (.driverApi (.api .cuLaunchKernel)
           { callbackSite := .exit, context := some 1, correlationId := 7 } { deviceId := (.success, 0) }),
         .disable, .resume, .dispatch 0, .record 0] = .ok s₁ ∧
      (s₁.pushed 0).map CuptiTracerEvent.correlationId = [7] ∧
      s₁.run [.resume, .resume, .enable kernelActivity ⟨1, {}⟩, .requestActivityBuffer,
        .processActivityBuffer ⟨1, 0⟩ 64 { records := 1, correlationIds := [7] },
        .flushEventsToCollector, .resume, .resume] = .ok s ∧
      s.pushed 0 = s₁.pushed 0 ∧ s.world.deliveredEvents 0 = [] ∧
      s.world.delivered.getLast? = some (1, .onTracerCachedActivityBuffers [(⟨1, 0⟩, 64)]) :=
  ⟨_, _, rfl, rfl, rfl, rfl, rfl, rfl⟩

theorem record_pushes {i : Nat} {stack : AnnotationStack} {deviceId : UInt32} {cbid : CallbackId}
    {cbdata : CallbackData} {a : DriverCallbackAnswers}
    (hp : s.producer i = .admitted stack deviceId cbid cbdata a) (hlt : i < s.world.threads.length)
    (h : s.step (.record i) = .ok s') :
    s'.world.tracer.numCallbackEvents = s.world.tracer.numCallbackEvents + 1 ∧
      ∃ new, s'.world.queue i = s.world.queue i ++ new ∧
        new.length = 1 + if createsNodeMapEvents cbid then
          (s.world.thread i).graphInfo.nodeIdMap.entries.length else 0 := by
  obtain ⟨s₁, h₁, rfl⟩ := map_eq_ok.mp h
  obtain ⟨th, new, hq, hlen, rfl⟩ := record_eq hp h₁
  refine ⟨rfl, new, ?_, hlen⟩
  show ((s.world.setTracer _).setThread i th).queue i = _
  rw [World.queue_setThread, if_pos ⟨rfl, hlt⟩]
  exact hq

theorem dispatch_drops {i : Nat} {stack : AnnotationStack} {cbid : CallbackId}
    {cbdata : CallbackData} {a : DriverCallbackAnswers} {ctx : Nat} {deviceId : UInt32}
    {hook : CuptiDriverApiHook} (hp : s.producer i = .entered stack cbid cbdata a)
    (hctx : cbdata.context = some ctx) (hdev : a.deviceId = (.success, deviceId))
    (hgpu : deviceId.toNat < s.world.tracer.numGpus) (hsite : cbdata.callbackSite = .exit)
    (hhook : s.world.tracer.cuptiDriverApiHook = some hook)
    (hmany : s.world.tracer.tooManyCallbackEvents = true) (hlt : i < s.world.threads.length)
    (hlen : s.producers.length = s.world.threads.length) :
    ∃ s', s.step (.dispatch i) = .ok s' ∧ s'.producer i = .idle ∧
      (∀ j, s'.world.queue j = s.world.queue j) ∧
      (s'.world.thread i).guarded.numDroppedEvents = (s.world.thread i).guarded.numDroppedEvents + 1 := by
  let th := s.world.thread i
  have hd : s.dispatch i = .ok { s.setProducer i .idle with
      world := (s.world.setTracer { s.world.tracer with
        cuptiDriverApiHook := some (hook.trackContext cbid ctx) }).setThread i
          { th with guarded := GuardedCallbackAnnotationsAndEvents.incNumDroppedEvents th.guarded } } := by
    simp only [dispatch, hp, hctx, hdev, hsite, hhook, if_neg (Nat.not_le.mpr hgpu),
      tooManyCallbackEvents_hook, hmany, if_true]
  rw [step, perform, hd]
  have hev : s.world.SameEvents ((s.world.setTracer _).setThread i
      { th with guarded := GuardedCallbackAnnotationsAndEvents.incNumDroppedEvents th.guarded }) :=
    (World.setTracer_sameEvents _ _).trans (World.setThread_sameEvents rfl)
  refine ⟨_, rfl, producer_setProducer_self _ (hlen ▸ hlt), hev.queue, ?_⟩
  show (((s.world.setTracer _).setThread i _).thread i).guarded.numDroppedEvents = _
  rw [World.thread_eq (List.getElem?_set_self hlt)]
  rfl

/-- The callback budget under any interleaving: the count and the admitted threads stay within
`M - 1` plus the threads, and an exit past the budget only counts as dropped. -/
theorem callback_count_within_budget_plus_threads (numGpus kBufferSizeInBytes threads : Nat)
    (cupti : CuptiInterface) (as : List Action) (s : Sys)
    (h : (init numGpus kBufferSizeInBytes threads cupti).run as = .ok s) :
    (∀ c, s.world.tracer.collector = some c → 0 < c.options.maxCallbackApiEvents →
      s.world.tracer.numCallbackEvents + s.admitted ≤
        c.options.maxCallbackApiEvents - 1 + s.producers.length) ∧
    (∀ i stack deviceId cbid cbdata a s', s.producer i = .admitted stack deviceId cbid cbdata a →
      s.step (.record i) = .ok s' →
      s'.world.tracer.numCallbackEvents = s.world.tracer.numCallbackEvents + 1 ∧
        ∃ new, s'.world.queue i = s.world.queue i ++ new ∧
          new.length = 1 + if createsNodeMapEvents cbid then
            (s.world.thread i).graphInfo.nodeIdMap.entries.length else 0) ∧
    ∀ i stack cbid cbdata a ctx deviceId hook, s.producer i = .entered stack cbid cbdata a →
      cbdata.context = some ctx → a.deviceId = (.success, deviceId) →
      deviceId.toNat < s.world.tracer.numGpus → cbdata.callbackSite = .exit →
      s.world.tracer.cuptiDriverApiHook = some hook → s.world.tracer.tooManyCallbackEvents = true →
      ∃ s', s.step (.dispatch i) = .ok s' ∧ s'.producer i = .idle ∧
        (∀ j, s'.world.queue j = s.world.queue j) ∧
        (s'.world.thread i).guarded.numDroppedEvents =
          (s.world.thread i).guarded.numDroppedEvents + 1 := by
  have hi := (inv_init ..).run h
  refine ⟨hi.budget, fun i _ _ _ _ _ _ hp h => ?_, fun i _ _ _ _ _ _ _ hp hctx hdev hgpu hsite hhook hmany => ?_⟩
  · exact record_pushes hp (hi.length ▸ lt_length_of_producer (by rw [hp]; rfl)) h
  · exact dispatch_drops hp hctx hdev hgpu hsite hhook hmany
      (hi.length ▸ lt_length_of_producer (by rw [hp]; rfl)) hi.length

theorem callback_count_within_budget_plus_threads_in_race :
    ∃ s, (init 1 64 2 .healthy).run
        [.enable {} ⟨0, { maxCallbackApiEvents := 1 }⟩, .arrive 0 {} launchExit,
         .arrive 1 {} launchExit, .dispatch 0, .dispatch 1] = .ok s ∧
      ((∀ c, s.world.tracer.collector = some c → 0 < c.options.maxCallbackApiEvents →
        s.world.tracer.numCallbackEvents + s.admitted ≤
          c.options.maxCallbackApiEvents - 1 + s.producers.length) ∧
      (∀ i stack deviceId cbid cbdata a s', s.producer i = .admitted stack deviceId cbid cbdata a →
        s.step (.record i) = .ok s' →
        s'.world.tracer.numCallbackEvents = s.world.tracer.numCallbackEvents + 1 ∧
          ∃ new, s'.world.queue i = s.world.queue i ++ new ∧
            new.length = 1 + if createsNodeMapEvents cbid then
              (s.world.thread i).graphInfo.nodeIdMap.entries.length else 0) ∧
      ∀ i stack cbid cbdata a ctx deviceId hook, s.producer i = .entered stack cbid cbdata a →
        cbdata.context = some ctx → a.deviceId = (.success, deviceId) →
        deviceId.toNat < s.world.tracer.numGpus → cbdata.callbackSite = .exit →
        s.world.tracer.cuptiDriverApiHook = some hook → s.world.tracer.tooManyCallbackEvents = true →
        ∃ s', s.step (.dispatch i) = .ok s' ∧ s'.producer i = .idle ∧
          (∀ j, s'.world.queue j = s.world.queue j) ∧
          (s'.world.thread i).guarded.numDroppedEvents =
            (s.world.thread i).guarded.numDroppedEvents + 1) :=
  ⟨_, rfl, callback_count_within_budget_plus_threads 1 64 2 .healthy
    [.enable {} ⟨0, { maxCallbackApiEvents := 1 }⟩, .arrive 0 {} launchExit,
     .arrive 1 {} launchExit, .dispatch 0, .dispatch 1] _ rfl⟩

/-- With a budget of one event, a clone exit pushes three events and two racing threads both push. -/
theorem callback_budget_exceeded :
    (∃ s, (init 1 64 1 .healthy).run
        [.enable {} ⟨0, { maxCallbackApiEvents := 1 }⟩,
         .arrive 0 {} (.resource .graphNodeCreated { node := some 5 }),
         .arrive 0 {} (.resource .graphNodeCreated { node := some 6 }),
         .arrive 0 {} (graphExit .cuGraphClone), .dispatch 0, .record 0] = .ok s ∧
      s.world.tracer.numCallbackEvents = 1 ∧ (s.world.queue 0).length = 3) ∧
    ∃ s, (init 1 64 2 .healthy).run
        [.enable {} ⟨0, { maxCallbackApiEvents := 1 }⟩, .arrive 0 {} launchExit,
         .arrive 1 {} launchExit, .dispatch 0, .dispatch 1, .record 0, .record 1] = .ok s ∧
      s.world.tracer.numCallbackEvents = 2 ∧
      (s.world.queue 0).length + (s.world.queue 1).length = 2 ∧
      (s.world.thread 0).guarded.numDroppedEvents + (s.world.thread 1).guarded.numDroppedEvents = 0 :=
  ⟨⟨_, rfl, rfl, rfl⟩, _, rfl, rfl, rfl, rfl⟩

end Sys

end GpuTracer
