import GpuTracer.ActivityOrder

/-! Who holds each activity buffer, over any interleaving: the buffers lent, pooled and kept filled
are pairwise distinct, so the pool never lends a buffer someone still holds. -/

namespace GpuTracer

namespace CuptiActivityBufferManager

theorem getOrCreateBuffer_cases (m : CuptiActivityBufferManager) :
    (∃ rest, m.pool = m.getOrCreateBuffer.1 :: rest ∧ m.getOrCreateBuffer.2 = { m with pool := rest }) ∨
      m.pool = [] ∧ m.getOrCreateBuffer.1 = ⟨m.id, m.allocated⟩ ∧
        m.getOrCreateBuffer.2 = { m with allocated := m.allocated + 1 } := by
  unfold getOrCreateBuffer
  split <;> rename_i h
  · exact .inl ⟨_, h, rfl⟩
  · exact .inr ⟨h, rfl, rfl⟩

end CuptiActivityBufferManager

namespace World

variable {w w' : World} {c : CuptiTraceCollector} {r : Status × World}

def lender (w : World) : Option (Nat × Nat) :=
  w.tracer.activityBuffers.map fun m => (m.id, m.allocated)

def pooled (w : World) : List ActivityBuffer :=
  (w.tracer.activityBuffers.map (·.pool)).getD []

/-- Buffer `b` comes from a manager created so far, within what that manager has allocated. -/
def Issued (w : World) (b : ActivityBuffer) : Prop :=
  b.manager < w.tracer.bufferManagersCreated ∧ ∀ l ∈ w.lender, b.manager = l.1 → b.index < l.2

/-- What the controller's operations do to lending: the pool kept, dropped, or a new manager. -/
structure PoolStep (w w' : World) : Prop where
  lent : w'.lent = w.lent
  created : w.tracer.bufferManagersCreated ≤ w'.tracer.bufferManagersCreated
  manager : w'.lender = w.lender ∧ w'.pooled = w.pooled ∨ w'.tracer.activityBuffers = none ∨
    ∃ k, w.tracer.bufferManagersCreated ≤ k ∧ k < w'.tracer.bufferManagersCreated ∧
      w'.lender = some (k, 0) ∧ w'.pooled = []

theorem PoolStep.refl (w : World) : PoolStep w w := ⟨rfl, le_rfl, .inl ⟨rfl, rfl⟩⟩

theorem PoolStep.trans {w₁ w₂ w₃ : World} (h₁ : PoolStep w₁ w₂) (h₂ : PoolStep w₂ w₃) :
    PoolStep w₁ w₃ := by
  refine ⟨h₂.lent.trans h₁.lent, h₁.created.trans h₂.created, ?_⟩
  rcases h₂.manager with ⟨e, e'⟩ | e | ⟨k, hk, hk', e⟩
  · rw [e, e']
    rcases h₁.manager with e₁ | e₁ | ⟨k, hk₁, hk₁', e₁⟩
    · exact .inl e₁
    · exact .inr (.inl (by simpa [lender, e₁] using e))
    · exact .inr (.inr ⟨k, hk₁, hk₁'.trans_le h₂.created, e₁⟩)
  · exact .inr (.inl e)
  · exact .inr (.inr ⟨k, h₁.created.trans hk, hk', e⟩)

theorem stopPmSampler_poolStep (h : w.stopPmSampler = .ok w') : PoolStep w w' := by
  unfold stopPmSampler at h
  split at h
  · split at h <;> cases h; exact ⟨rfl, le_rfl, .inl ⟨rfl, rfl⟩⟩
  · cases h; exact .refl w

theorem disableApiTracing_poolStep (h : w.disableApiTracing = .ok r) : PoolStep w r.2 := by
  unfold disableApiTracing at h
  split at h
  · cases h; exact .refl w
  · obtain ⟨_, -, rfl⟩ := map_eq_ok.mp h; exact ⟨rfl, le_rfl, .inl ⟨rfl, rfl⟩⟩

theorem disableActivityTracing_poolStep (h : w.disableActivityTracing = .ok r) : PoolStep w r.2 := by
  unfold disableActivityTracing at h
  split at h
  · cases h; exact ⟨rfl, le_rfl, .inl ⟨rfl, rfl⟩⟩
  split at h
  · cases h
  simp only at h
  split at h
  · cases h; exact ⟨rfl, le_rfl, .inl ⟨rfl, rfl⟩⟩
  · split at h <;> cases h <;> exact ⟨rfl, le_rfl, .inl ⟨rfl, rfl⟩⟩

theorem finalize_poolStep (h : w.finalize = .ok r) : PoolStep w r.2 := by
  unfold finalize at h
  split at h
  · cases h
  · cases h; split <;> exact ⟨rfl, le_rfl, .inl ⟨rfl, rfl⟩⟩

theorem shutDown_poolStep (h : w.shutDown = .ok w') : PoolStep w w' := by
  obtain ⟨w₂, h₂, h⟩ := bind_eq_ok.mp h
  obtain ⟨r₃, h₃, h⟩ := bind_eq_ok.mp h
  obtain ⟨r₄, h₄, h⟩ := bind_eq_ok.mp h
  obtain ⟨r₅, h₅, h⟩ := bind_eq_ok.mp h
  split at h
  · cases h
  · cases h
    exact (stopPmSampler_poolStep h₂).trans <| (disableApiTracing_poolStep h₃).trans <|
      (disableActivityTracing_poolStep h₄).trans (finalize_poolStep h₅)

theorem deliver_poolStep (call : CollectorCall) : PoolStep w (w.deliver c call) := ⟨rfl, le_rfl, .inl ⟨rfl, rfl⟩⟩

theorem deliverCallbackData_poolStep : PoolStep w (w.deliverCallbackData c) := ⟨rfl, le_rfl, .inl ⟨rfl, rfl⟩⟩

theorem deliverActivityData_poolStep : PoolStep w (w.deliverActivityData c) := by
  refine ⟨?_, by rw [deliverActivityData_tracer], .inr (.inl (by rw [deliverActivityData_tracer]))⟩
  unfold deliverActivityData
  cases w.tracer.activityBuffers <;> simp only [apply_ite World.lent] <;> split <;> split <;> rfl

theorem release_poolStep : PoolStep w w.release := ⟨rfl, le_rfl, .inl ⟨rfl, rfl⟩⟩

theorem popCachedActivityBuffers_poolStep {r : List (ActivityBuffer × Nat) × World}
    (h : w.popCachedActivityBuffers = .ok r) : PoolStep w r.2 := by
  unfold popCachedActivityBuffers at h
  split at h
  · split at h
    · cases h
    · rename_i hm
      cases h
      exact ⟨rfl, le_rfl, .inl ⟨by simp [lender, hm, CuptiActivityBufferManager.popCachedBuffers],
        by simp [pooled, hm, CuptiActivityBufferManager.popCachedBuffers]⟩⟩
  · cases h; exact .refl w

theorem deliverFlushedCallbackData_poolStep : PoolStep w (w.deliverFlushedCallbackData c) := by
  unfold deliverFlushedCallbackData; split <;> exact ⟨rfl, le_rfl, .inl ⟨rfl, rfl⟩⟩

theorem setActivityFlushPeriod_poolStep : PoolStep w w.setActivityFlushPeriod.2 := by
  unfold setActivityFlushPeriod; split <;> exact ⟨rfl, le_rfl, .inl ⟨rfl, rfl⟩⟩

theorem enableApiTracing_poolStep (h : w.enableApiTracing = .ok r) : PoolStep w r.2 := by
  unfold enableApiTracing at h
  split at h
  · cases h; exact .refl w
  simp only at h
  split at h
  · cases h; exact ⟨rfl, le_rfl, .inl ⟨rfl, rfl⟩⟩
  · obtain ⟨_, -, rfl⟩ := map_eq_ok.mp h; exact ⟨rfl, le_rfl, .inl ⟨rfl, rfl⟩⟩

theorem enableActivityTracing_poolStep (h : w.enableActivityTracing = .ok r) : PoolStep w r.2 := by
  unfold enableActivityTracing at h
  split at h
  · cases h; exact .refl w
  simp only at h
  split at h
  · cases h
  · split_ifs at h <;> cases h <;>
      exact ⟨rfl, Nat.le_succ _, .inr (.inr ⟨_, le_rfl, Nat.lt_succ_self _, rfl, rfl⟩)⟩

theorem startPmSampler_poolStep (st : Status) (v : World) : PoolStep v (startPmSampler st v).2 := by
  unfold startPmSampler
  dsimp only
  split
  · exact ⟨rfl, le_rfl, .inl ⟨rfl, rfl⟩⟩
  · split <;> exact ⟨rfl, le_rfl, .inl ⟨rfl, rfl⟩⟩

theorem enable_poolStep {o : CuptiTracerOptions} (h : w.enable o c = .ok r) : PoolStep w r.2 := by
  unfold enable at h
  simp only at h
  obtain ⟨r₁, h₁, h⟩ := bind_eq_ok.mp h
  have k₁ : PoolStep w r₁.2 := by
    refine .trans ?_ (enableApiTracing_poolStep h₁)
    exact ⟨rfl, le_rfl, .inl ⟨rfl, rfl⟩⟩
  split at h
  · cases h; exact k₁.trans ⟨rfl, le_rfl, .inl ⟨rfl, rfl⟩⟩
  obtain ⟨r₂, h₂, h⟩ := bind_eq_ok.mp h
  have k₂ : PoolStep w r₂.2 := by
    refine k₁.trans (.trans ?_ (enableActivityTracing_poolStep h₂))
    exact ⟨rfl, le_rfl, .inl ⟨rfl, rfl⟩⟩
  cases h
  split
  · refine k₂.trans (.trans ?_ (startPmSampler_poolStep _ _))
    exact ⟨rfl, le_rfl, .inl ⟨rfl, rfl⟩⟩
  · exact k₂.trans ⟨rfl, le_rfl, .inl ⟨rfl, rfl⟩⟩

theorem requestActivityBuffer_lends {m : CuptiActivityBufferManager}
    (hm : w.tracer.activityBuffers = some m) :
    w.requestActivityBuffer.lent = w.lent ++ [m.getOrCreateBuffer.1] ∧
      w.requestActivityBuffer.tracer.bufferManagersCreated = w.tracer.bufferManagersCreated ∧
      w.requestActivityBuffer.tracer.activityBuffers = some m.getOrCreateBuffer.2 := by
  simp [requestActivityBuffer, hm, setTracer]

theorem reclaimBuffer_returns {v : World} {b : ActivityBuffer} {st : Status}
    (h : v.reclaimBuffer b st = .ok r) :
    r.2.lent = v.lent ∧ r.2.tracer.bufferManagersCreated = v.tracer.bufferManagersCreated ∧
      ∃ m, v.tracer.activityBuffers = some m ∧ r.2.tracer.activityBuffers = some (m.reclaimBuffer b) := by
  unfold reclaimBuffer at h
  split at h
  · cases h
  · cases h; exact ⟨rfl, rfl, _, ‹_›, rfl⟩

theorem processActivityBuffer_returns {b : ActivityBuffer} {size : Nat} {a : ActivityAnswers}
    (h : w.processActivityBuffer b size a = .ok r) :
    r.2.lent = w.lent.erase b ∧
      r.2.tracer.bufferManagersCreated = w.tracer.bufferManagersCreated ∧
      ∃ m, w.tracer.activityBuffers = some m ∧
        (r.2.tracer.activityBuffers = some (m.reclaimBuffer b) ∨
          r.2.tracer.activityBuffers = some (m.cacheCuptiFilledActivityBuffer b size)) := by
  unfold processActivityBuffer at h
  simp only at h
  split at h
  · obtain ⟨hl, hc, m, hm, ht⟩ := reclaimBuffer_returns h
    exact ⟨hl, hc, m, hm, .inl ht⟩
  split at h
  · obtain ⟨hl, hc, m, hm, ht⟩ := reclaimBuffer_returns h
    exact ⟨hl, hc, m, hm, .inl ht⟩
  split at h
  · cases h
  split at h
  · obtain ⟨hl, hc, m, hm, ht⟩ := reclaimBuffer_returns h
    exact ⟨hl, hc, m, hm, .inl ht⟩
  split at h
  · cases h
  · rename_i m hm
    cases h
    exact ⟨rfl, rfl, m, hm, .inr rfl⟩

end World

namespace Sys

variable {s s' : Sys}

/-- Every activity buffer some party holds: lent, pooled, or kept filled. -/
def heldBuffers (s : Sys) : List ActivityBuffer :=
  s.world.lent ++ s.world.pooled ++ s.bufferLog.map Prod.fst

/-- Each buffer held once, by one party, and issued by a manager. -/
structure Owned (s : Sys) : Prop where
  nodup : s.heldBuffers.Nodup
  issued : ∀ b ∈ s.heldBuffers, s.world.Issued b
  fresh : ∀ l ∈ s.world.lender, l.1 < s.world.tracer.bufferManagersCreated

theorem owned_init (numGpus kBufferSizeInBytes threads : Nat) (cupti : CuptiInterface) :
    (init numGpus kBufferSizeInBytes threads cupti).Owned :=
  ⟨List.nodup_nil, fun _ h => absurd h (List.not_mem_nil _), fun _ h => absurd h (Option.not_mem_none _)⟩

theorem Owned.of_poolStep (ho : s.Owned) (hk : World.PoolStep s.world s'.world)
    (hl : s'.bufferLog = s.bufferLog) : s'.Owned := by
  have hsub : s'.heldBuffers.Sublist s.heldBuffers := by
    unfold heldBuffers
    rw [hk.lent, hl]
    rcases hk.manager with ⟨-, e⟩ | e | ⟨-, -, -, -, e⟩
    · rw [e]
    · simp [World.pooled, e]
    · rw [e, List.append_nil]
      exact (List.sublist_append_left _ _).append_right _
  have hlend : ∀ l ∈ s'.world.lender, l ∈ s.world.lender ∨
      s.world.tracer.bufferManagersCreated ≤ l.1 ∧ l.1 < s'.world.tracer.bufferManagersCreated := by
    intro l hl'
    rcases hk.manager with ⟨e, -⟩ | e | ⟨k, hk₁, hk₂, e, -⟩
    · exact .inl (e ▸ hl')
    · simp [World.lender, e] at hl'
    · rw [e, Option.mem_some_iff] at hl'
      subst hl'
      exact .inr ⟨hk₁, hk₂⟩
  refine ⟨hsub.nodup ho.nodup, fun b hb => ?_, fun l hl' => ?_⟩
  · obtain ⟨hc, hi⟩ := ho.issued b (hsub.subset hb)
    refine ⟨hc.trans_le hk.created, fun l hl' he => ?_⟩
    rcases hlend l hl' with hl' | ⟨hk₁, -⟩
    · exact hi l hl' he
    · omega
  · rcases hlend l hl' with hl' | ⟨-, hk₂⟩
    · exact (ho.fresh l hl').trans_le hk.created
    · exact hk₂

theorem Owned.of_perm (ho : s.Owned) (hp : s'.heldBuffers.Perm s.heldBuffers)
    (hc : s'.world.tracer.bufferManagersCreated = s.world.tracer.bufferManagersCreated)
    (hl : s'.world.lender = s.world.lender) : s'.Owned := by
  refine ⟨hp.nodup_iff.mpr ho.nodup, fun b hb => ?_, fun l hl' => ?_⟩
  · simpa only [World.Issued, hc, hl] using ho.issued b (hp.mem_iff.mp hb)
  · rw [hc]; exact ho.fresh l (hl ▸ hl')

theorem ProducerStep.poolStep (h : ProducerStep s s') : World.PoolStep s.world s'.world := by
  obtain ⟨-, -, hl, ⟨n, hook, ht⟩, -⟩ := h
  exact ⟨hl, by simp [ht], .inl ⟨by simp [World.lender, ht], by simp [World.pooled, ht]⟩⟩

theorem poolStep_enable {o : CuptiTracerOptions} {c : CuptiTraceCollector} (h : s.enable o c = .ok s') :
    World.PoolStep s.world s'.world := by
  unfold enable at h
  split at h
  · obtain ⟨r, hr, rfl⟩ := map_eq_ok.mp h
    exact World.enable_poolStep hr
  · cases h; exact .refl _

theorem poolStep_disable (h : s.disable = .ok s') : World.PoolStep s.world s'.world := by
  unfold disable at h
  split at h
  · cases h; exact .refl _
  obtain ⟨w, hw, h⟩ := bind_eq_ok.mp h
  split at h
  · cases h
  · cases h; exact World.shutDown_poolStep hw

theorem poolStep_flushEventsToCollector (h : s.flushEventsToCollector = .ok s') :
    World.PoolStep s.world s'.world := by
  unfold flushEventsToCollector at h
  split at h
  · cases h; exact .refl _
  split at h
  · cases h; exact .refl _
  obtain ⟨r, hr, h⟩ := bind_eq_ok.mp h
  split at h
  · cases h
  · cases h; exact World.popCachedActivityBuffers_poolStep hr

theorem poolStep_resume : World.PoolStep s.world s.resume.world := by
  unfold resume
  split
  · exact .refl _
  · exact World.deliverCallbackData_poolStep
  · exact World.deliverActivityData_poolStep
  · exact World.release_poolStep
  · exact World.deliverFlushedCallbackData_poolStep
  · exact World.deliver_poolStep _

theorem poolStep_setActivityFlushPeriod : World.PoolStep s.world s.setActivityFlushPeriod.world := by
  unfold setActivityFlushPeriod
  split
  · exact World.setActivityFlushPeriod_poolStep
  · exact .refl _

theorem Owned.of_requestActivityBuffer (ho : s.Owned) :
    Owned { s with world := s.world.requestActivityBuffer } := by
  cases hm : s.world.tracer.activityBuffers with
  | none =>
    have e : s.world.requestActivityBuffer = s.world := by simp [World.requestActivityBuffer, hm]
    rw [e]
    exact ho
  | some m =>
    obtain ⟨hl, hc, ht⟩ := World.requestActivityBuffer_lends hm
    have hlog := bufferLog_requestActivityBuffer (s := s)
    have hid : m.id < s.world.tracer.bufferManagersCreated :=
      ho.fresh (m.id, m.allocated) (by simp [World.lender, hm])
    rcases m.getOrCreateBuffer_cases with ⟨rest, hp, e⟩ | ⟨hp, e₁, e⟩
    · refine ho.of_perm (.of_eq ?_) hc (by simp [World.lender, ht, hm, e])
      simp [heldBuffers, World.pooled, hl, ht, hm, hp, e, hlog]
    · have hnew : m.getOrCreateBuffer.1 ∉ s.heldBuffers := fun hb => by
        have := (ho.issued _ hb).2 (m.id, m.allocated) (by simp [World.lender, hm]) (by rw [e₁])
        rw [e₁] at this
        exact Nat.lt_irrefl _ this
      have hlend : s.world.requestActivityBuffer.lender = some (m.id, m.allocated + 1) := by
        simp [World.lender, ht, e]
      have hperm : (heldBuffers { s with world := s.world.requestActivityBuffer }).Perm
          (m.getOrCreateBuffer.1 :: s.heldBuffers) := by
        simp only [heldBuffers, World.pooled, hl, ht, hm, hp, e, hlog, Option.map_some',
          Option.getD_some, List.append_nil, List.append_assoc, List.singleton_append]
        exact List.perm_middle
      refine ⟨hperm.nodup_iff.mpr (List.nodup_cons.mpr ⟨hnew, ho.nodup⟩), fun b hb => ?_, ?_⟩
      · have hb' : b.manager < s.world.tracer.bufferManagersCreated ∧
            (b.manager = m.id → b.index < m.allocated + 1) := by
          rcases List.mem_cons.mp (hperm.mem_iff.mp hb) with rfl | hb
          · rw [e₁]; exact ⟨hid, fun _ => Nat.lt_succ_self _⟩
          · obtain ⟨h₁, h₂⟩ := ho.issued b hb
            exact ⟨h₁, fun he => Nat.lt_succ_of_lt (h₂ (m.id, m.allocated) (by simp [World.lender, hm]) he)⟩
        simpa [World.Issued, hc, hlend] using hb'
      · simpa [hc, hlend] using hid

theorem perm_erase_cons {l p : List ActivityBuffer} {b : ActivityBuffer} (hb : b ∈ l)
    (rest : List ActivityBuffer) : (l.erase b ++ b :: p ++ rest).Perm (l ++ p ++ rest) :=
  (List.perm_middle.trans ((List.perm_cons_erase hb).symm.append_right p)).append_right rest

theorem perm_erase_snoc {l p : List ActivityBuffer} {b : ActivityBuffer} (hb : b ∈ l)
    (rest : List ActivityBuffer) : (l.erase b ++ p ++ (rest ++ [b])).Perm (l ++ p ++ rest) := by
  rw [← List.append_assoc]
  exact (List.perm_append_singleton _ _).trans
    (((List.perm_cons_erase hb).symm.append_right p).append_right rest)

theorem Owned.of_return {b : ActivityBuffer} {size : Nat} {a : ActivityAnswers} {r : Status × World}
    (ho : s.Owned) (hb : b ∈ s.world.lent) (hr : s.world.processActivityBuffer b size a = .ok r)
    (hs : s'.world = r.2) (hc : s'.controller = s.controller) : s'.Owned := by
  have hd : s'.world.delivered = s.world.delivered := hs ▸ (World.processActivityBuffer_frame hr).delivered
  have hp : s'.poppedBuffers = s.poppedBuffers := by rw [poppedBuffers, hc, poppedBuffers]
  obtain ⟨hl, hcr, m, hm, e | e⟩ := World.processActivityBuffer_returns hr
  · have hlog : s'.bufferLog = s.bufferLog := bufferLog_eq hd hp
      (by simp [World.cachedBuffers, hs, hm, e, CuptiActivityBufferManager.reclaimBuffer])
    have hpool : s'.world.pooled = b :: s.world.pooled := by
      simp [World.pooled, hs, hm, e, CuptiActivityBufferManager.reclaimBuffer]
    refine ho.of_perm ?_ (hs ▸ hcr)
      (by simp [World.lender, hs, hm, e, CuptiActivityBufferManager.reclaimBuffer])
    rw [heldBuffers, heldBuffers, hlog, hpool, hs, hl]
    exact perm_erase_cons hb _
  · have hlog : s'.bufferLog = s.bufferLog ++ [(b, size)] := by
      rw [bufferLog, bufferLog, World.deliveredBuffers_eq hd, hp, hs]
      simp [World.cachedBuffers, hm, e, CuptiActivityBufferManager.cacheCuptiFilledActivityBuffer]
    have hpool : s'.world.pooled = s.world.pooled := by
      simp [World.pooled, hs, hm, e, CuptiActivityBufferManager.cacheCuptiFilledActivityBuffer]
    refine ho.of_perm ?_ (hs ▸ hcr)
      (by simp [World.lender, hs, hm, e, CuptiActivityBufferManager.cacheCuptiFilledActivityBuffer])
    rw [heldBuffers, heldBuffers, hlog, hpool, hs, hl, List.map_append]
    exact perm_erase_snoc hb _

theorem Owned.of_processActivityBuffer {b : ActivityBuffer} {size : Nat} {a : ActivityAnswers}
    (ho : s.Owned) (h : s.processActivityBuffer b size a = .ok s') : s'.Owned := by
  unfold processActivityBuffer at h
  split at h
  · obtain ⟨r, hr, rfl⟩ := map_eq_ok.mp h
    exact ho.of_return ‹_› hr rfl rfl
  · cases h; exact ho

theorem Owned.step {a : Action} (hi : s.Inv) (ho : s.Owned) (h : s.step a = .ok s') : s'.Owned := by
  obtain ⟨s₁, h₁, rfl⟩ := map_eq_ok.mp h
  suffices hs₁ : s₁.Owned from ⟨hs₁.1, hs₁.2, hs₁.3⟩
  cases a with
  | arrive => exact ho.of_poolStep (producerStep_arrive h₁).poolStep (producerStep_arrive h₁).bufferLog_eq
  | dispatch =>
    exact ho.of_poolStep (producerStep_dispatch h₁).poolStep (producerStep_dispatch h₁).bufferLog_eq
  | record => exact ho.of_poolStep (producerStep_record h₁).poolStep (producerStep_record h₁).bufferLog_eq
  | enable => exact ho.of_poolStep (poolStep_enable h₁) (bufferLog_enable hi h₁)
  | disable => exact ho.of_poolStep (poolStep_disable h₁) (bufferLog_disable h₁)
  | flushEventsToCollector =>
    exact ho.of_poolStep (poolStep_flushEventsToCollector h₁) (bufferLog_flushEventsToCollector h₁)
  | resume => cases h₁; exact ho.of_poolStep poolStep_resume bufferLog_resume
  | setActivityFlushPeriod =>
    cases h₁; exact ho.of_poolStep poolStep_setActivityFlushPeriod bufferLog_setActivityFlushPeriod
  | requestActivityBuffer => cases h₁; exact ho.of_requestActivityBuffer
  | processActivityBuffer => exact ho.of_processActivityBuffer h₁

theorem Owned.run {as : List Action} (hi : s.Inv) (ho : s.Owned) (h : s.run as = .ok s') : s'.Owned := by
  induction as generalizing s with
  | nil => cases h; exact ho
  | cons a as ih =>
    obtain ⟨s₁, h₁, h⟩ := bind_eq_ok.mp h
    exact ih (hi.step h₁) (ho.step hi h₁) h

/-- Under any interleaving, each activity buffer is held by one party at a time, once. -/
theorem activity_buffers_held_once (numGpus kBufferSizeInBytes threads : Nat)
    (cupti : CuptiInterface) (as : List Action) (s : Sys)
    (h : (init numGpus kBufferSizeInBytes threads cupti).run as = .ok s) :
    s.heldBuffers.Nodup ∧ ∀ m, s.world.tracer.activityBuffers = some m →
      m.getOrCreateBuffer.1 ∉ s.world.lent ++ s.bufferLog.map Prod.fst := by
  have ho := (owned_init numGpus kBufferSizeInBytes threads cupti).run (inv_init ..) h
  refine ⟨ho.nodup, fun m hm hb => ?_⟩
  rcases m.getOrCreateBuffer_cases with ⟨rest, hp, -⟩ | ⟨-, e₁, -⟩
  · have hpool : m.getOrCreateBuffer.1 ∈ s.world.pooled := by simp [World.pooled, hm, hp]
    have hn := ho.nodup
    rw [heldBuffers, List.nodup_append, List.nodup_append] at hn
    rcases List.mem_append.mp hb with hb | hb
    · exact hn.1.2.2 hb hpool
    · exact hn.2.2 (List.mem_append_right _ hpool) hb
  · have hheld : m.getOrCreateBuffer.1 ∈ s.heldBuffers := by
      simp only [heldBuffers, List.mem_append] at hb ⊢
      tauto
    have := (ho.issued _ hheld).2 (m.id, m.allocated) (by simp [World.lender, hm]) (by rw [e₁])
    rw [e₁] at this
    exact Nat.lt_irrefl _ this

/-- A buffer completed empty returns to the pool and is lent again. -/
theorem reclaimed_buffer_lent_again :
    ∃ s, (init 1 64 1 .healthy).run [.enable {} ⟨0, {}⟩, .requestActivityBuffer,
        .processActivityBuffer ⟨0, 0⟩ 0 {}, .requestActivityBuffer, .requestActivityBuffer] = .ok s ∧
      s.world.lent = [⟨0, 0⟩, ⟨0, 1⟩] ∧ s.heldBuffers.Nodup ∧
      ∀ m, s.world.tracer.activityBuffers = some m →
        m.getOrCreateBuffer.1 ∉ s.world.lent ++ s.bufferLog.map Prod.fst :=
  ⟨_, rfl, rfl, activity_buffers_held_once 1 64 1 .healthy [.enable {} ⟨0, {}⟩,
    .requestActivityBuffer, .processActivityBuffer ⟨0, 0⟩ 0 {}, .requestActivityBuffer,
    .requestActivityBuffer] _ rfl⟩

end Sys

end GpuTracer
