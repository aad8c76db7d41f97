import GpuTracer.Session

/-! The activity path: completions after the session that lent the buffer, and the cap on cached
records, whose count only `PrepareActivityStart` resets. -/
namespace GpuTracer

open CuptiTracer

namespace World

variable {w w' : World}

/-- After a completed `Disable`, a completion reaches the released manager or collector. -/
theorem processActivityBuffer_after_disable (w w' : World) (h : w.disable = .ok w')
    (b : ActivityBuffer) (size : Nat) (a : ActivityAnswers) :
    w'.processActivityBuffer b size a = .error .nullActivityBuffers ∨
      w'.processActivityBuffer b size a = .error .nullCollector := by
  obtain ⟨act, h'⟩ := disable_tracer h
  unfold processActivityBuffer reclaimBuffer
  simp only [setTracer_tracer, h']
  split
  · exact .inl rfl
  split
  · exact .inl rfl
  · exact .inr rfl

/-- A session whose vendor still holds a lent buffer when `Disable` completes. -/
theorem lent_buffer_after_disable_faults :
    let w : World :=
      { tracer := { numGpus := 1, kBufferSizeInBytes := 64, apiTracingEnabled := true
                    activityTracingEnabled := true
                    option := some { activitiesSelected := [.concurrentKernel] }
                    collector := some ⟨0, {}⟩
                    cuptiDriverApiHook := some ⟨{ activitiesSelected := [.concurrentKernel] }, []⟩
                    activityBuffers := some { id := 0, bufferSizeInBytes := 64, allocated := 1 }
                    bufferManagersCreated := 1 }
        cupti := .healthy, threads := [{}], lent := [⟨0, 0⟩] }
    ∃ w', w.disable = .ok w' ∧ ⟨0, 0⟩ ∈ w'.lent ∧
      (w'.processActivityBuffer ⟨0, 0⟩ 64 { records := 1 } = .error .nullActivityBuffers ∨
        w'.processActivityBuffer ⟨0, 0⟩ 64 { records := 1 } = .error .nullCollector) := by
  intro w
  exact ⟨_, rfl, by decide, processActivityBuffer_after_disable w _ rfl _ _ _⟩

theorem processActivityBuffer_cap {b : ActivityBuffer} {size : Nat} {a : ActivityAnswers}
    {c : CuptiTraceCollector} {m : CuptiActivityBufferManager}
    (hact : w.tracer.activityTracingEnabled = true) (hc : w.tracer.collector = some c)
    (hm : w.tracer.activityBuffers = some m) (hsize : 0 < size)
    (hpos : 0 < c.options.maxActivityApiEvents) :
    ∃ st w', w.processActivityBuffer b size a = .ok (st, w') ∧
      if a.disabled then
        st = .internal "Disabled." ∧
          w'.tracer.numActivityEventsInCachedBuffer = w.tracer.numActivityEventsInCachedBuffer ∧
          w'.tracer.numActivityEventsInDroppedBuffer = w.tracer.numActivityEventsInDroppedBuffer ∧
          w'.tracer.activityBuffers = some (m.reclaimBuffer b)
      else st = .ok ∧
        if c.options.maxActivityApiEvents ≤ w.tracer.numActivityEventsInCachedBuffer then
          w'.tracer.numActivityEventsInDroppedBuffer =
              w.tracer.numActivityEventsInDroppedBuffer + a.records ∧
            w'.tracer.numActivityEventsInCachedBuffer = w.tracer.numActivityEventsInCachedBuffer ∧
            w'.tracer.activityBuffers = some (m.reclaimBuffer b)
        else
          w'.tracer.numActivityEventsInCachedBuffer =
              w.tracer.numActivityEventsInCachedBuffer + a.records ∧
            w'.tracer.numActivityEventsInDroppedBuffer = w.tracer.numActivityEventsInDroppedBuffer ∧
            w'.tracer.activityBuffers = some (m.cacheCuptiFilledActivityBuffer b size) := by
  have hs : ¬ (size = 0 ∨ (!w.tracer.activityTracingEnabled) = true) := by simp [hact]; omega
  unfold processActivityBuffer
  cases hd : a.disabled
  · simp only [setTracer_tracer, hs, hc, hpos, true_and, if_false, Bool.false_eq_true]
    split_ifs with hcap <;> simp [reclaimBuffer, setTracer, hm, and_assoc]
  · simp only [setTracer_tracer, hs, if_true, if_false]
    simp [reclaimBuffer, setTracer, hm, and_assoc]

end World

namespace CuptiTracer

/-- While activity tracing is on under a cap, the cached count stays below the cap plus `B`. -/
def CapBounded (B : Nat) (t : CuptiTracer) : Prop :=
  t.activityTracingEnabled = true → ∀ c, t.collector = some c → 0 < c.options.maxActivityApiEvents →
    t.numActivityEventsInCachedBuffer < c.options.maxActivityApiEvents + B

end CuptiTracer

def Op.completedRecords : Op → Nat
  | .processActivityBuffer _ _ a => a.records
  | _ => 0

def Op.isEnable : Op → Bool
  | .enable _ _ => true
  | _ => false

variable {w w' : World} {op : Op}

theorem step_cachedCount (hop : op.isEnable = false) (h : step w op = .ok w') :
    w'.tracer.numActivityEventsInCachedBuffer = w.tracer.numActivityEventsInCachedBuffer ∨
      ∃ c, w.tracer.collector = some c ∧
        ¬ (0 < c.options.maxActivityApiEvents ∧
          c.options.maxActivityApiEvents ≤ w.tracer.numActivityEventsInCachedBuffer) ∧
        w'.tracer.numActivityEventsInCachedBuffer =
          w.tracer.numActivityEventsInCachedBuffer + op.completedRecords := by
  cases op with
  | enable => simp [Op.isEnable] at hop
  | disable =>
    obtain ⟨_, h'⟩ := World.disable_tracer h
    exact .inl (by rw [h'])
  | flushEventsToCollector =>
    obtain ⟨_, h', rfl⟩ := map_eq_ok.mp h
    obtain ⟨_, hm, -⟩ := World.flushEventsToCollector_tracer h'
    exact .inl (by rw [hm])
  | setActivityFlushPeriod => cases h; exact .inl (by simp)
  | callback =>
    obtain ⟨_, h', rfl⟩ := map_eq_ok.mp h
    obtain ⟨_, _, hn, -⟩ := World.callback_tracer h'
    exact .inl (by rw [hn])
  | requestActivityBuffer =>
    cases h
    obtain ⟨_, hm, -⟩ := World.requestActivityBuffer_tracer (w := w)
    exact .inl (by rw [hm])
  | processActivityBuffer b size a =>
    simp only [step] at h
    split at h
    · obtain ⟨_, h', rfl⟩ := map_eq_ok.mp h
      obtain ⟨_, _, _, _, hm, -, hn⟩ := World.processActivityBuffer_tracer h'
      rw [hm]
      rcases hn with rfl | ⟨c, hc, hcap, rfl⟩
      · exact .inl rfl
      · exact .inr ⟨c, hc, hcap, rfl⟩
    · cases h; exact .inl rfl

theorem step_capBounded {B : Nat} (hr : op.completedRecords ≤ B) (hi : w.tracer.CapBounded B)
    (h : step w op = .ok w') : w'.tracer.CapBounded B := by
  intro hact c hc hpos
  cases hop : op.isEnable
  · by_cases hd : op = .disable
    · subst hd
      obtain ⟨_, h'⟩ := World.disable_tracer h
      simp [h'] at hc
    have hs := step_sameSession (fun o c he => by simp [he, Op.isEnable] at hop) hd h
    rw [hs.act] at hact
    rw [hs.collector] at hc
    rcases step_cachedCount hop h with hn | ⟨c', hc', hcap, hn⟩
    · rw [hn]; exact hi hact c hc hpos
    · rw [hc] at hc'
      cases hc'
      omega
  · obtain ⟨o, c', rfl⟩ : ∃ o c, op = .enable o c := by cases op <;> simp_all [Op.isEnable]
    simp only [step] at h
    split at h
    · obtain ⟨_, h', rfl⟩ := map_eq_ok.mp h
      rw [(World.enable_tracer ‹_› h').2.2 hact]
      omega
    · cases h; exact hi hact c hc hpos

theorem run_capBounded {B : Nat} :
    ∀ {w : World} {ops : List Op} {w' : World}, (∀ op ∈ ops, op.completedRecords ≤ B) →
      w.tracer.CapBounded B → run w ops = .ok w' → w'.tracer.CapBounded B
  | _, [], _, _, hi, h => by cases h; exact hi
  | _, op :: _, _, hr, hi, h => by
    obtain ⟨_, h₁, h⟩ := bind_eq_ok.mp h
    exact run_capBounded (fun o ho => hr o (.tail _ ho)) (step_capBounded (hr op (.head _)) hi h₁) h

theorem run_cachedCount_mono :
    ∀ {w : World} {ops : List Op} {w' : World}, (∀ op ∈ ops, op.isEnable = false) →
      run w ops = .ok w' →
      w.tracer.numActivityEventsInCachedBuffer ≤ w'.tracer.numActivityEventsInCachedBuffer
  | _, [], _, _, h => by cases h; exact le_rfl
  | _, op :: _, _, hr, h => by
    obtain ⟨_, h₁, h⟩ := bind_eq_ok.mp h
    refine le_trans ?_ (run_cachedCount_mono (fun o ho => hr o (.tail _ ho)) h)
    rcases step_cachedCount (hr op (.head _)) h₁ with hn | ⟨_, -, -, hn⟩ <;> omega

/-- With a cap of one record, a buffer completed after a flush emptied the cache is still dropped. -/
theorem flushed_cache_still_drops :
    ∃ w, run (World.init 1 64 1 .healthy)
        [.enable { activitiesSelected := [.other 1] } ⟨0, { maxActivityApiEvents := 1 }⟩,
         .requestActivityBuffer, .processActivityBuffer ⟨0, 0⟩ 64 { records := 1 },
         .flushEventsToCollector, .requestActivityBuffer] = .ok w ∧
      w.tracer.activityBuffers.map (·.cached) = some [] ∧ ⟨0, 1⟩ ∈ w.lent ∧
      ∃ w', step w (.processActivityBuffer ⟨0, 1⟩ 64 { records := 1 }) = .ok w' ∧
        w'.tracer.numActivityEventsInDroppedBuffer = 1 ∧
        w'.tracer.activityBuffers.map (·.cached) = some [] :=
  ⟨_, rfl, rfl, by decide, _, rfl, rfl, rfl⟩

/-- The cap counts a whole session: outside `Disabled()`, a completion is dropped exactly when the
records cached since `Enable` reach the cap, and that count never decreases before the next `Enable`. -/
theorem activity_cap_counts_whole_session :
    (∀ (w : World) (b : ActivityBuffer) (size : Nat) (a : ActivityAnswers)
        (c : CuptiTraceCollector) (m : CuptiActivityBufferManager),
        w.tracer.activityTracingEnabled = true → w.tracer.collector = some c →
        w.tracer.activityBuffers = some m → 0 < size → 0 < c.options.maxActivityApiEvents →
        ∃ st w', w.processActivityBuffer b size a = .ok (st, w') ∧
          if a.disabled then
            st = .internal "Disabled." ∧
              w'.tracer.numActivityEventsInCachedBuffer = w.tracer.numActivityEventsInCachedBuffer ∧
              w'.tracer.numActivityEventsInDroppedBuffer =
                w.tracer.numActivityEventsInDroppedBuffer ∧
              w'.tracer.activityBuffers = some (m.reclaimBuffer b)
          else st = .ok ∧
            if c.options.maxActivityApiEvents ≤ w.tracer.numActivityEventsInCachedBuffer then
              w'.tracer.numActivityEventsInDroppedBuffer =
                  w.tracer.numActivityEventsInDroppedBuffer + a.records ∧
                w'.tracer.numActivityEventsInCachedBuffer =
                  w.tracer.numActivityEventsInCachedBuffer ∧
                w'.tracer.activityBuffers = some (m.reclaimBuffer b)
            else
              w'.tracer.numActivityEventsInCachedBuffer =
                  w.tracer.numActivityEventsInCachedBuffer + a.records ∧
                w'.tracer.numActivityEventsInDroppedBuffer =
                  w.tracer.numActivityEventsInDroppedBuffer ∧
                w'.tracer.activityBuffers = some (m.cacheCuptiFilledActivityBuffer b size)) ∧
    (∀ (B numGpus kBufferSizeInBytes threads : Nat) (cupti : CuptiInterface) (ops : List Op)
        (w' : World), (∀ op ∈ ops, op.completedRecords ≤ B) →
        run (World.init numGpus kBufferSizeInBytes threads cupti) ops = .ok w' →
        w'.tracer.CapBounded B) ∧
    (∀ (w : World) (ops : List Op) (w' : World), (∀ op ∈ ops, op.isEnable = false) →
        run w ops = .ok w' →
        w.tracer.numActivityEventsInCachedBuffer ≤ w'.tracer.numActivityEventsInCachedBuffer) :=
  ⟨fun _ _ _ _ _ _ hact hc hm hsize hpos => World.processActivityBuffer_cap hact hc hm hsize hpos,
    fun _ _ _ _ _ _ _ hr h => run_capBounded hr (fun hact => by simp [World.init] at hact) h,
    fun _ _ _ hr h => run_cachedCount_mono hr h⟩

/-- One session under a cap of one record, with a `Disabled()` completion and a flush. -/
theorem activity_cap_counts_whole_session_on_one_session :
    let w : World :=
      { tracer := { numGpus := 1, kBufferSizeInBytes := 64, activityTracingEnabled := true
                    collector := some ⟨0, { maxActivityApiEvents := 1 }⟩
                    activityBuffers := some { id := 0, bufferSizeInBytes := 64 } }
        cupti := .healthy, threads := [] }
    (∃ st w', w.processActivityBuffer ⟨0, 0⟩ 64 { records := 1 } = .ok (st, w') ∧
        st = .ok ∧ w'.tracer.numActivityEventsInCachedBuffer = 1) ∧
    (∃ st w', w.processActivityBuffer ⟨0, 0⟩ 64 { disabled := true, records := 1 } = .ok (st, w') ∧
        st = .internal "Disabled." ∧ w'.tracer.numActivityEventsInCachedBuffer = 0 ∧
        w'.tracer.numActivityEventsInDroppedBuffer = 0) ∧
    (∃ w', run (World.init 1 64 1 .healthy)
        [.enable { activitiesSelected := [.other 1] } ⟨0, { maxActivityApiEvents := 1 }⟩,
         .requestActivityBuffer, .processActivityBuffer ⟨0, 0⟩ 64 { records := 1 }] = .ok w' ∧
        w'.tracer.CapBounded 1) ∧
    ∃ w₁ w₂, run (World.init 1 64 1 .healthy)
        [.enable { activitiesSelected := [.other 1] } ⟨0, { maxActivityApiEvents := 1 }⟩,
         .requestActivityBuffer, .processActivityBuffer ⟨0, 0⟩ 64 { records := 1 }] = .ok w₁ ∧
      w₁.tracer.numActivityEventsInCachedBuffer = 1 ∧
      run w₁ [.flushEventsToCollector, .requestActivityBuffer,
        .processActivityBuffer ⟨0, 1⟩ 64 { records := 1 }] = .ok w₂ ∧
      w₁.tracer.numActivityEventsInCachedBuffer ≤ w₂.tracer.numActivityEventsInCachedBuffer := by
  intro w
  obtain ⟨st, w', h, hw'⟩ := activity_cap_counts_whole_session.1 w ⟨0, 0⟩ 64 { records := 1 }
    ⟨0, { maxActivityApiEvents := 1 }⟩ { id := 0, bufferSizeInBytes := 64 } rfl rfl rfl
    (by decide) (by decide)
  obtain ⟨sd, wd, hd, hwd⟩ := activity_cap_counts_whole_session.1 w ⟨0, 0⟩ 64
    { disabled := true, records := 1 } ⟨0, { maxActivityApiEvents := 1 }⟩
    { id := 0, bufferSizeInBytes := 64 } rfl rfl rfl (by decide) (by decide)
  simp only [if_false, if_true, Bool.false_eq_true] at hw' hwd
  rw [if_neg (by decide)] at hw'
  refine ⟨⟨st, w', h, hw'.1, hw'.2.1⟩, ⟨sd, wd, hd, hwd.1, hwd.2.1, hwd.2.2.1⟩,
    ⟨_, rfl, activity_cap_counts_whole_session.2.1 1 1 64 1 .healthy
      [.enable { activitiesSelected := [.other 1] } ⟨0, { maxActivityApiEvents := 1 }⟩,
       .requestActivityBuffer, .processActivityBuffer ⟨0, 0⟩ 64 { records := 1 }] _ (by decide) rfl⟩,
    _, _, rfl, rfl, rfl, activity_cap_counts_whole_session.2.2 _
      [.flushEventsToCollector, .requestActivityBuffer,
       .processActivityBuffer ⟨0, 1⟩ 64 { records := 1 }] _ (by decide) rfl⟩

end GpuTracer
