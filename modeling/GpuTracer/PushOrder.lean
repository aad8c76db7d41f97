import GpuTracer.Delivery

/-! The order in which each producer thread's events reach the collectors: every step moves events
in one of three ways, `EventMove`, and from that the collectors receive each thread's events in
push order. -/

namespace GpuTracer

theorem World.sameEvents_refl (w : World) : w.SameEvents w := ⟨rfl, fun _ => rfl, fun _ => rfl⟩

namespace Sys

variable {s s' : Sys}

/-- What one step does to the buffers, the collector calls and the pushed events. -/
inductive EventMove (s s' : Sys) : Prop
  /-- Nothing moves. -/
  | keep (hev : s.world.SameEvents s'.world) (hp : s'.pushed = s.pushed)
  /-- Thread `i`'s buffer gains `new`, which is recorded as pushed. -/
  | push (i : Nat) (new : List CuptiTracerEvent)
      (hp : s'.pushed = Function.update s.pushed i (s.pushed i ++ new))
      (hq : ∀ j, s'.world.queue j = s.world.queue j ++ if j = i then new else [])
      (hd : ∀ j, s'.world.deliveredEvents j = s.world.deliveredEvents j)
  /-- Every buffer is emptied, and the collectors receive at most what was in it. -/
  | drain (hp : s'.pushed = s.pushed) (hq : ∀ i, s'.world.queue i = [])
      (hd : ∀ i, (s'.world.deliveredEvents i).Sublist
        (s.world.deliveredEvents i ++ s.world.queue i))

theorem EventMove.gather (hp : s'.pushed = s.pushed) (hq : ∀ i, s'.world.queue i = [])
    (hd : ∀ i, s'.world.deliveredEvents i = s.world.deliveredEvents i ++ s.world.queue i) :
    EventMove s s' :=
  .drain hp hq fun i => (hd i).symm ▸ List.Sublist.refl _

theorem eventMove_arrive {i : Nat} {stack : AnnotationStack} {cb : VendorCallback}
    (h : s.arrive i stack cb = .ok s') : EventMove s s' := by
  unfold arrive at h
  split at h
  · cases h; exact .keep (World.sameEvents_refl _) rfl
  split at h
  · cases h; exact .keep (World.sameEvents_refl _) rfl
  split at h <;> cases h
  · exact .keep (World.sameEvents_refl _) rfl
  · exact .keep (World.setThread_sameEvents rfl) rfl
  · exact .keep (World.sameEvents_refl _) rfl

theorem eventMove_dispatch {i : Nat} (h : s.dispatch i = .ok s') : EventMove s s' := by
  have hkeep : s' = s.setProducer i .idle → EventMove s s' := fun h =>
    h ▸ .keep (World.sameEvents_refl _) rfl
  unfold dispatch at h
  split at h
  · split at h
    · cases h; exact hkeep rfl
    · split at h
      · cases h; exact hkeep rfl
      · split at h
        · cases h; exact hkeep rfl
        · split at h
          · cases h
          · simp only at h
            split at h <;> cases h
            · exact .keep ((World.setTracer_sameEvents _ _).trans
                (World.setThread_sameEvents rfl)) rfl
            · exact .keep (World.setTracer_sameEvents _ _) rfl
    · cases h; exact hkeep rfl
  · cases h; exact .keep (World.sameEvents_refl _) rfl

theorem eventMove_record {i : Nat} (hi : s.Inv) (h : s.record i = .ok s') : EventMove s s' := by
  cases hp : s.producer i
  case admitted stack deviceId cbid cbdata a =>
    obtain ⟨th, new, hq, -, rfl⟩ := record_eq hp h
    have hlt : i < s.world.threads.length :=
      hi.length ▸ lt_length_of_producer (by rw [hp]; rfl)
    refine .push i new rfl (fun j => ?_) fun _ => rfl
    rw [World.queue_setThread]
    by_cases hij : j = i
    · subst hij
      rw [if_pos ⟨rfl, hlt⟩, if_pos rfl, hq]
    · rw [if_neg fun h => hij h.1.symm, if_neg hij, List.append_nil]; rfl
  all_goals
    simp only [record, hp] at h
    cases h
    exact .keep (World.sameEvents_refl _) rfl

theorem eventMove_enable {o : CuptiTracerOptions} {c : CuptiTraceCollector}
    (h : s.enable o c = .ok s') : EventMove s s' := by
  unfold enable at h
  split at h
  · rename_i hg
    obtain ⟨r, hr, rfl⟩ := map_eq_ok.mp h
    have hapi : s.world.tracer.apiTracingEnabled = false := by
      simp only [Bool.and_eq_true, CuptiTracer.isAvailable, Bool.not_eq_true'] at hg
      exact hg.2.1.2
    obtain ⟨hthreads, hdel⟩ := World.enable_frame hapi hr
    refine .drain rfl (World.queue_of_cleared hthreads) fun i => ?_
    show (r.2.delivered.flatMap fun d => d.2.events i).Sublist _
    rw [hdel]
    exact List.sublist_append_left _ _
  · cases h; exact .keep (World.sameEvents_refl _) rfl

theorem eventMove_disable (h : s.disable = .ok s') : EventMove s s' := by
  unfold disable at h
  split at h
  · cases h; exact .keep (World.sameEvents_refl _) rfl
  obtain ⟨w, hw, h⟩ := bind_eq_ok.mp h
  split at h
  · cases h
  · cases h; exact .keep (World.shutDown_frame hw).sameEvents rfl

theorem eventMove_flushEventsToCollector (h : s.flushEventsToCollector = .ok s') :
    EventMove s s' := by
  unfold flushEventsToCollector at h
  split at h
  · cases h; exact .keep (World.sameEvents_refl _) rfl
  split at h
  · cases h; exact .keep (World.sameEvents_refl _) rfl
  obtain ⟨r, hr, h⟩ := bind_eq_ok.mp h
  split at h
  · cases h
  · cases h; exact .keep (World.popCachedActivityBuffers_frame hr).sameEvents rfl

theorem eventMove_resume : EventMove s s.resume := by
  unfold resume
  split
  · exact .keep (World.sameEvents_refl _) rfl
  · exact .gather rfl (fun _ => World.deliverCallbackData_queue)
      fun _ => World.deliverCallbackData_deliveredEvents
  · exact .keep World.deliverActivityData_sameEvents rfl
  · exact .keep ⟨rfl, fun _ => rfl, fun _ => rfl⟩ rfl
  · by_cases hapi : s.world.tracer.apiTracingEnabled
    · exact .gather rfl (fun _ => by rw [World.deliverFlushedCallbackData_queue, if_pos hapi])
        fun _ => by rw [World.deliverFlushedCallbackData_deliveredEvents, if_pos hapi]
    · refine .keep ⟨?_, fun _ => ?_, fun _ => ?_⟩ rfl
      · simp [World.deliverFlushedCallbackData, hapi]
      · rw [World.deliverFlushedCallbackData_queue, if_neg hapi]
      · rw [World.deliverFlushedCallbackData_deliveredEvents, if_neg hapi]
  · refine .keep ⟨rfl, fun _ => rfl, fun _ => ?_⟩ rfl
    rw [World.deliveredEvents_deliver]
    simp [CollectorCall.events]

theorem eventMove_processActivityBuffer {b : ActivityBuffer} {size : Nat} {a : ActivityAnswers}
    (h : s.processActivityBuffer b size a = .ok s') : EventMove s s' := by
  unfold processActivityBuffer at h
  split at h
  · obtain ⟨r, hr, rfl⟩ := map_eq_ok.mp h
    exact .keep (World.processActivityBuffer_frame hr).sameEvents rfl
  · cases h; exact .keep (World.sameEvents_refl _) rfl

theorem eventMove_perform {a : Action} (hi : s.Inv) (h : s.perform a = .ok s') :
    EventMove s s' := by
  cases a with
  | arrive => exact eventMove_arrive h
  | dispatch => exact eventMove_dispatch h
  | record => exact eventMove_record hi h
  | enable => exact eventMove_enable h
  | disable => exact eventMove_disable h
  | flushEventsToCollector => exact eventMove_flushEventsToCollector h
  | resume => cases h; exact eventMove_resume
  | setActivityFlushPeriod =>
    cases h
    unfold setActivityFlushPeriod
    split
    · exact .keep (World.setActivityFlushPeriod_frame _).sameEvents rfl
    · exact .keep (World.sameEvents_refl _) rfl
  | requestActivityBuffer =>
    cases h; exact .keep (World.requestActivityBuffer_frame _).sameEvents rfl
  | processActivityBuffer => exact eventMove_processActivityBuffer h

/-- Each thread's pushed events are drained ones, then buffered ones; collectors got a subsequence. -/
def InOrder (s : Sys) : Prop :=
  ∀ i, ∃ earlier, s.pushed i = earlier ++ s.world.queue i ∧
    (s.world.deliveredEvents i).Sublist earlier

theorem inOrder_init (numGpus kBufferSizeInBytes threads : Nat) (cupti : CuptiInterface) :
    (init numGpus kBufferSizeInBytes threads cupti).InOrder := fun i => by
  refine ⟨[], ?_, List.Sublist.slnil⟩
  simp only [init, World.init, World.queue, World.thread, List.getElem?_replicate]
  split <;> rfl

theorem InOrder.move (hs : s.InOrder) (hm : EventMove s s') : s'.InOrder := by
  intro j
  obtain ⟨earlier, he, hsub⟩ := hs j
  cases hm with
  | keep hev hp => exact ⟨earlier, by rw [hp, hev.queue, he], (hev.deliveredEvents j).symm ▸ hsub⟩
  | push i new hp hq hd =>
    exact ⟨earlier, by rw [hp, update_append_apply, hq, he, List.append_assoc], (hd j).symm ▸ hsub⟩
  | drain hp hq hd =>
    exact ⟨earlier ++ s.world.queue j, by rw [hp, hq, List.append_nil, he],
      (hd j).trans (hsub.append_right _)⟩

theorem InOrder.run {as : List Action} (hi : s.Inv) (hs : s.InOrder) (h : s.run as = .ok s') :
    s'.InOrder := by
  induction as generalizing s with
  | nil => cases h; exact hs
  | cons a as ih =>
    obtain ⟨s₁, h₁, h⟩ := bind_eq_ok.mp h
    obtain ⟨s₂, h₂, rfl⟩ := map_eq_ok.mp h₁
    have hs₂ : s₂.InOrder := hs.move (eventMove_perform hi h₂)
    exact ih (hi.step h₁) hs₂ h

/-- Every producer thread's events reach the collectors in the order the thread pushed them. -/
theorem delivered_in_push_order (numGpus kBufferSizeInBytes threads : Nat) (cupti : CuptiInterface)
    (as : List Action) (s : Sys) (h : (init numGpus kBufferSizeInBytes threads cupti).run as = .ok s)
    (i : Nat) :
    ∃ earlier, s.pushed i = earlier ++ s.world.queue i ∧
      (s.world.deliveredEvents i).Sublist earlier :=
  InOrder.run (inv_init ..) (inOrder_init numGpus kBufferSizeInBytes threads cupti) h i

def copyExit : VendorCallback :=
  .driverApi (.api .cuMemcpyHtoD_v2) { callbackSite := .exit, context := some 1 }
    { deviceId := (.success, 0) }

/-- A kernel event handed over by a flush, then a copy event by `Disable`, arrive in push order. -/
theorem flush_then_disable_delivers_in_push_order :
    ∃ s, (init 1 64 1 .healthy).run
        [.enable {} ⟨0, {}⟩, .arrive 0 {} launchExit, .dispatch 0, .record 0,
         .flushEventsToCollector, .resume, .resume, .arrive 0 {} copyExit, .dispatch 0, .record 0,
         .disable, .resume, .resume, .resume] = .ok s ∧
      (s.world.deliveredEvents 0).map (·.type) = [.kernel, .memcpyH2D] ∧
      ∃ earlier, s.pushed 0 = earlier ++ s.world.queue 0 ∧
        (s.world.deliveredEvents 0).Sublist earlier :=
  ⟨_, rfl, rfl, delivered_in_push_order 1 64 1 .healthy
    [.enable {} ⟨0, {}⟩, .arrive 0 {} launchExit, .dispatch 0, .record 0,
     .flushEventsToCollector, .resume, .resume, .arrive 0 {} copyExit, .dispatch 0, .record 0,
     .disable, .resume, .resume, .resume] _ rfl 0⟩

end Sys

end GpuTracer
