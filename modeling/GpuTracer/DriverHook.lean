import GpuTracer.Interleaving

/-! The contexts the driver-API hook tracks for `SyncAndFlush`: within a session its list has no
context twice and holds exactly the contexts whose last exit seen was not their destruction. -/

namespace GpuTracer

def CallbackId.isCtxDestroy (cbid : CallbackId) : Prop :=
  cbid = .api .cuCtxDestroy_v2 ∨ cbid = .api .cuCtxDestroy

instance : DecidablePred CallbackId.isCtxDestroy := fun cbid =>
  inferInstanceAs (Decidable (cbid = .api .cuCtxDestroy_v2 ∨ cbid = .api .cuCtxDestroy))

namespace CuptiDriverApiHook

/-- `SyncAndFlush`: the contexts it synchronizes, with synchronisation before stop. -/
def syncAndFlush (hook : CuptiDriverApiHook) : List Nat :=
  if hook.option.syncDevicesBeforeStop then hook.contexts else []

@[simp] theorem trackContext_option (hook : CuptiDriverApiHook) (cbid : CallbackId) (ctx : Nat) :
    (hook.trackContext cbid ctx).option = hook.option := by
  unfold trackContext; repeat' split
  all_goals rfl

theorem trackContext_of_not_sync {hook : CuptiDriverApiHook}
    (hsync : hook.option.syncDevicesBeforeStop = false) (cbid : CallbackId) (ctx : Nat) :
    hook.trackContext cbid ctx = hook := by
  simp [trackContext, hsync]

variable {hook : CuptiDriverApiHook} {cbid : CallbackId} {ctx x : Nat}

theorem nodup_trackContext (hnd : hook.contexts.Nodup) :
    (hook.trackContext cbid ctx).contexts.Nodup := by
  unfold trackContext
  split
  · exact hnd
  split
  · exact hnd.erase ctx
  split
  · exact hnd
  · exact hnd.append (List.nodup_singleton ctx) (List.disjoint_singleton.2 ‹_›)

theorem mem_trackContext (hsync : hook.option.syncDevicesBeforeStop = true)
    (hnd : hook.contexts.Nodup) :
    x ∈ (hook.trackContext cbid ctx).contexts ↔
      if x = ctx then ¬cbid.isCtxDestroy else x ∈ hook.contexts := by
  unfold trackContext
  simp only [hsync, Bool.not_true, Bool.false_eq_true, if_false]
  by_cases hd : cbid.isCtxDestroy
  · rw [if_pos (show cbid = _ ∨ cbid = _ from hd), hnd.mem_erase_iff]
    by_cases hx : x = ctx <;> simp [hx, hd]
  · rw [if_neg (show ¬(cbid = _ ∨ cbid = _) from hd)]
    by_cases hx : x = ctx
    · subst hx; split <;> simp [*]
    · split <;> simp [*]

end CuptiDriverApiHook

/-- Spec side: a context is live when the last exit reporting it was not its `cuCtxDestroy`. -/
def liveAfter (before : List Nat) (exits : List (CallbackId × Nat)) (ctx : Nat) : Prop :=
  match (exits.filter fun e => e.2 == ctx).getLast? with
  | none => ctx ∈ before
  | some e => ¬e.1.isCtxDestroy

theorem liveAfter_snoc (before : List Nat) (exits : List (CallbackId × Nat)) (e : CallbackId × Nat)
    (ctx : Nat) :
    liveAfter before (exits ++ [e]) ctx ↔
      if ctx = e.2 then ¬e.1.isCtxDestroy else liveAfter before exits ctx := by
  unfold liveAfter
  rw [List.filter_append]
  by_cases hc : ctx = e.2
  · subst hc
    simp
  · have : (e.2 == ctx) = false := by simpa using Ne.symm hc
    simp [List.filter_cons, this, hc]

namespace CuptiDriverApiHook

variable {hook : CuptiDriverApiHook}

def trackExits (hook : CuptiDriverApiHook) (exits : List (CallbackId × Nat)) : CuptiDriverApiHook :=
  exits.foldl (fun h e => h.trackContext e.1 e.2) hook

@[simp] theorem trackExits_nil (hook : CuptiDriverApiHook) : hook.trackExits [] = hook := rfl

@[simp] theorem trackExits_cons (hook : CuptiDriverApiHook) (e : CallbackId × Nat)
    (exits : List (CallbackId × Nat)) :
    hook.trackExits (e :: exits) = (hook.trackContext e.1 e.2).trackExits exits := rfl

theorem trackExits_append (hook : CuptiDriverApiHook) (exits exits' : List (CallbackId × Nat)) :
    hook.trackExits (exits ++ exits') = (hook.trackExits exits).trackExits exits' :=
  List.foldl_append ..

@[simp] theorem trackExits_option (hook : CuptiDriverApiHook) (exits : List (CallbackId × Nat)) :
    (hook.trackExits exits).option = hook.option := by
  induction exits generalizing hook <;> simp [*]

theorem trackExits_live (hsync : hook.option.syncDevicesBeforeStop = true)
    (hnd : hook.contexts.Nodup) (exits : List (CallbackId × Nat)) :
    (hook.trackExits exits).contexts.Nodup ∧
      ∀ ctx, ctx ∈ (hook.trackExits exits).contexts ↔ liveAfter hook.contexts exits ctx := by
  induction exits using List.reverseRecOn with
  | nil => exact ⟨hnd, fun ctx => by simp [liveAfter]⟩
  | append_singleton exits e ih =>
    rw [trackExits_append, trackExits_cons, trackExits_nil]
    have hsync' : (hook.trackExits exits).option.syncDevicesBeforeStop = true := by simpa using hsync
    refine ⟨nodup_trackContext ih.1, fun ctx => ?_⟩
    rw [mem_trackContext hsync' ih.1, liveAfter_snoc, ih.2]

end CuptiDriverApiHook

open CuptiDriverApiHook

/-- Spec side: the `(cbid, context)` a vendor callback hands to `TrackContext`, if any. -/
def VendorCallback.trackedExit (numGpus : Nat) : VendorCallback → Option (CallbackId × Nat)
  | .driverApi cbid cbdata a =>
    match cbdata.context, a.deviceId with
    | some ctx, (.success, deviceId) =>
      if numGpus ≤ deviceId.toNat then none else
      match cbdata.callbackSite with
      | .enter => none
      | .exit => some (cbid, ctx)
    | _, _ => none
  | _ => none

/-- Spec side: the exit an operation reports to `TrackContext`. -/
def Op.trackedExit (numGpus threads : Nat) : Op → Option (CallbackId × Nat)
  | .callback i _ cb => if i < threads then cb.trackedExit numGpus else none
  | _ => none

section Callback

variable {tracer : CuptiTracer} {hook : CuptiDriverApiHook} {stack : AnnotationStack}
  {threadId : UInt32} {th : ThreadLocal}

theorem handleDriverApiCallback_hook {cbid : CallbackId} {cbdata : CallbackData}
    {a : DriverCallbackAnswers} {r : Status × CuptiTracer × CuptiDriverApiHook × ThreadLocal}
    (h : handleDriverApiCallback tracer hook stack threadId cbid cbdata a th = .ok r) :
    r.2.2.1 = hook.trackExits ((VendorCallback.driverApi cbid cbdata a).trackedExit tracer.numGpus).toList := by
  rcases hdev : a.deviceId with ⟨res, d⟩
  cases hctx : cbdata.context with
  | none =>
    simp only [handleDriverApiCallback, hctx] at h
    cases h; simp [VendorCallback.trackedExit, hctx]
  | some ctx =>
    cases res with
    | success =>
      simp only [handleDriverApiCallback, hctx, hdev] at h
      simp only [VendorCallback.trackedExit, hctx, hdev]
      split at h
      · cases h; simp [*]
      · rw [if_neg ‹_›]
        cases hs : cbdata.callbackSite <;> simp only [hs] at h ⊢
        · cases h; rfl
        · obtain ⟨_, -, rfl⟩ := map_eq_ok.mp h; rfl
    | _ =>
      simp only [handleDriverApiCallback, hctx, hdev] at h
      cases h; simp [VendorCallback.trackedExit, hctx, hdev]

theorem handleCallback_hook {cb : VendorCallback} {r : Status × CuptiTracer × ThreadLocal}
    (hapi : tracer.apiTracingEnabled = true) (hhook : tracer.cuptiDriverApiHook = some hook)
    (h : handleCallback tracer stack threadId cb th = .ok r) :
    r.2.1.cuptiDriverApiHook = some (hook.trackExits (cb.trackedExit tracer.numGpus).toList) := by
  simp only [handleCallback, hapi, hhook, Bool.not_true, Bool.false_eq_true, if_false] at h
  cases cb with
  | driverApi cbid cbdata a =>
    obtain ⟨_, h', rfl⟩ := map_eq_ok.mp h
    rw [← handleDriverApiCallback_hook h']
  | resource => cases h; simp [VendorCallback.trackedExit, hhook]
  | other => cases h; simp [VendorCallback.trackedExit, hhook]

end Callback

@[simp] theorem CuptiTracerOptions.withNvtxMarker_syncDevicesBeforeStop (o : CuptiTracerOptions) :
    o.withNvtxMarker.syncDevicesBeforeStop = o.syncDevicesBeforeStop := by
  unfold CuptiTracerOptions.withNvtxMarker; split <;> rfl

namespace World

variable {w w' : World} {hook : CuptiDriverApiHook}

theorem callback_hook {i : Nat} {stack : AnnotationStack} {cb : VendorCallback}
    {r : Status × World} (hapi : w.tracer.apiTracingEnabled = true)
    (hhook : w.tracer.cuptiDriverApiHook = some hook) (h : w.callback i stack cb = .ok r) :
    r.2.threads.length = w.threads.length ∧ r.2.tracer.cuptiDriverApiHook =
      some (hook.trackExits ((Op.callback i stack cb).trackedExit w.tracer.numGpus w.threads.length).toList) := by
  unfold callback at h
  split at h
  · rename_i hi
    cases h
    refine ⟨rfl, ?_⟩
    rw [hhook, Op.trackedExit, if_neg (Nat.not_lt.mpr (List.getElem?_eq_none_iff.mp hi))]
    rfl
  · rename_i th hi
    obtain ⟨_, h', rfl⟩ := map_eq_ok.mp h
    simp only [Op.trackedExit, if_pos (List.getElem?_eq_some_iff.mp hi).1]
    exact ⟨List.length_set .., handleCallback_hook hapi hhook h'⟩

theorem flushEventsToCollector_length {r : Status × World} (h : w.flushEventsToCollector = .ok r) :
    r.2.threads.length = w.threads.length := by
  unfold flushEventsToCollector at h
  split at h
  · cases h; rfl
  · obtain ⟨r₁, h₁, h⟩ := bind_eq_ok.mp h
    split at h
    · cases h
    · cases h
      simp only [deliverFlushedData, deliver_threads, deliverFlushedCallbackData_threads,
        (popCachedActivityBuffers_frame h₁).threads]
      split <;> simp

theorem enable_hook {o : CuptiTracerOptions} {c : CuptiTraceCollector} {r : Status × World}
    (hav : w.tracer.isAvailable) (h : w.enable o c = .ok r) :
    r.2.tracer.cuptiDriverApiHook = some { option := o.withNvtxMarker } ∧
      r.2.tracer.numGpus = w.tracer.numGpus := by
  simp only [CuptiTracer.isAvailable, Bool.and_eq_true, Bool.not_eq_true'] at hav
  obtain ⟨⟨⟨-, hact⟩, hapi⟩, hpm⟩ := hav
  unfold enable at h
  simp only at h
  obtain ⟨r₁, h₁, h⟩ := bind_eq_ok.mp h
  obtain ⟨x, hx⟩ := enableApiTracing_tracer (by simp [setTracer, hapi]) h₁
  split at h
  · rw [← Except.ok.inj h]
    simp [hx, setTracer]
  · obtain ⟨r₂, h₂, h⟩ := bind_eq_ok.mp h
    obtain ⟨y, hy⟩ := enableActivityTracing_tracer (by simp [setTracer, hx, hact]) h₂
    rw [← Except.ok.inj h]
    split
    · obtain ⟨s, p, hs, -⟩ := startPmSampler_tracer r₁.1 { r₂.2 with annotationStackEnabled := true }
        (by simp [hy, hx, setTracer, prepareActivityStart, hpm])
      rw [hs]
      simp [hy, hx, setTracer, prepareActivityStart]
    · simp [hy, hx, setTracer, prepareActivityStart]

theorem shutDown_hook {w₁ : World} (h : w.shutDown = .ok w₁) :
    w₁.tracer.cuptiDriverApiHook = w.tracer.cuptiDriverApiHook := by
  obtain ⟨_, _, h₁⟩ := shutDown_tracer h
  rw [h₁]

end World

variable {w w' : World} {hook : CuptiDriverApiHook} {op : Op}

theorem step_hook (hapi : w.tracer.apiTracingEnabled = true)
    (hhook : w.tracer.cuptiDriverApiHook = some hook) (hd : op ≠ .disable)
    (h : step w op = .ok w') :
    w'.tracer.apiTracingEnabled = true ∧ w'.tracer.numGpus = w.tracer.numGpus ∧
      w'.threads.length = w.threads.length ∧
      w'.tracer.cuptiDriverApiHook =
        some (hook.trackExits (op.trackedExit w.tracer.numGpus w.threads.length).toList) := by
  cases op with
  | enable o c =>
    simp only [step, CuptiTracer.isAvailable, hapi, Bool.not_true, Bool.and_false,
      Bool.false_and, Bool.false_eq_true, if_false, Except.ok.injEq] at h
    subst h
    exact ⟨hapi, rfl, rfl, by simpa [Op.trackedExit] using hhook⟩
  | disable => exact absurd rfl hd
  | flushEventsToCollector =>
    obtain ⟨_, h', rfl⟩ := map_eq_ok.mp h
    obtain ⟨m, hm, -⟩ := World.flushEventsToCollector_tracer h'
    rw [hm]
    exact ⟨hapi, rfl, World.flushEventsToCollector_length h', by simpa [Op.trackedExit] using hhook⟩
  | setActivityFlushPeriod =>
    cases h
    simpa [Op.trackedExit] using ⟨hapi, hhook⟩
  | callback i stack cb =>
    obtain ⟨_, h', rfl⟩ := map_eq_ok.mp h
    obtain ⟨n, hook', hn, -⟩ := World.callback_tracer h'
    have hc := World.callback_hook hapi hhook h'
    rw [hn] at hc ⊢
    exact ⟨hapi, rfl, hc⟩
  | requestActivityBuffer =>
    cases h
    obtain ⟨m, hm, -⟩ := World.requestActivityBuffer_tracer (w := w)
    rw [hm]
    exact ⟨hapi, rfl, by simp, by simpa [Op.trackedExit] using hhook⟩
  | processActivityBuffer b size a =>
    simp only [step] at h
    split at h
    · obtain ⟨_, h', rfl⟩ := map_eq_ok.mp h
      obtain ⟨d, d', n, m, hm, -⟩ := World.processActivityBuffer_tracer h'
      rw [hm]
      exact ⟨hapi, rfl, by rw [(World.processActivityBuffer_frame h').threads],
        by simpa [Op.trackedExit] using hhook⟩
    · cases h
      exact ⟨hapi, rfl, rfl, by simpa [Op.trackedExit] using hhook⟩

theorem run_hook {ops : List Op} (hapi : w.tracer.apiTracingEnabled = true)
    (hhook : w.tracer.cuptiDriverApiHook = some hook) (hd : Op.disable ∉ ops)
    (h : run w ops = .ok w') :
    w'.tracer.apiTracingEnabled = true ∧ w'.tracer.cuptiDriverApiHook =
      some (hook.trackExits (ops.filterMap (Op.trackedExit w.tracer.numGpus w.threads.length))) := by
  induction ops generalizing w hook with
  | nil => cases h; exact ⟨hapi, hhook⟩
  | cons op ops ih =>
    obtain ⟨w₁, h₁, h⟩ := bind_eq_ok.mp h
    obtain ⟨hapi₁, hgpu, hlen, hhook₁⟩ := step_hook hapi hhook (List.ne_of_not_mem_cons hd).symm h₁
    obtain ⟨hapi', hhook'⟩ := ih hapi₁ hhook₁ (List.not_mem_of_not_mem_cons hd) h
    refine ⟨hapi', ?_⟩
    rw [hhook', hgpu, hlen, List.filterMap_cons]
    cases op.trackedExit w.tracer.numGpus w.threads.length <;> rfl

/-- `Disable`'s `SyncAndFlush` synchronizes each live context once, with synchronisation before
stop, and none without it. -/
theorem syncAndFlush_live_contexts (w w₁ w' : World) (o : CuptiTracerOptions)
    (c : CuptiTraceCollector) (ops : List Op) (hav : w.tracer.isAvailable)
    (h₁ : step w (.enable o c) = .ok w₁) (hapi : w₁.tracer.apiTracingEnabled = true)
    (hd : Op.disable ∉ ops) (h : run w₁ ops = .ok w') :
    ∃ hook, w'.tracer.cuptiDriverApiHook = some hook ∧
      (∀ w'', w'.shutDown = .ok w'' → w''.tracer.cuptiDriverApiHook = some hook) ∧
      hook.syncAndFlush.Nodup ∧ ∀ ctx, ctx ∈ hook.syncAndFlush ↔ o.syncDevicesBeforeStop ∧
        liveAfter [] (ops.filterMap (Op.trackedExit w.tracer.numGpus w.threads.length)) ctx := by
  simp only [step, hav, if_true] at h₁
  obtain ⟨r, hr, rfl⟩ := map_eq_ok.mp h₁
  obtain ⟨hhook₁, hgpu⟩ := World.enable_hook hav hr
  have hlen : r.2.threads.length = w.threads.length := by
    have hapi₀ : w.tracer.apiTracingEnabled = false := by
      simp only [CuptiTracer.isAvailable, Bool.and_eq_true, Bool.not_eq_true'] at hav
      exact hav.1.2
    rw [(World.enable_frame hapi₀ hr).1, World.length_clearedThreads]
  obtain ⟨-, hhook⟩ := run_hook hapi hhook₁ hd h
  rw [hgpu, hlen] at hhook
  refine ⟨_, hhook, fun w'' h'' => (World.shutDown_hook h'').trans hhook, ?_⟩
  unfold syncAndFlush
  cases hs : o.syncDevicesBeforeStop
  · simp [hs]
  · have := @trackExits_live { option := o.withNvtxMarker } (by simpa using hs) List.nodup_nil
      (ops.filterMap (Op.trackedExit w.tracer.numGpus w.threads.length))
    simpa [hs] using this

def ctxExit (cbid : CallbackId) (ctx : Nat) : VendorCallback :=
  .driverApi cbid { callbackSite := .exit, context := some ctx } { deviceId := (.success, 0) }

/-- Contexts 1 and 2 launched on, then 1 destroyed: `SyncAndFlush` synchronizes context 2 alone. -/
theorem syncAndFlush_skips_destroyed_context :
    ∃ w₁ w', step (World.init 1 64 1 .healthy) (.enable { syncDevicesBeforeStop := true } ⟨0, {}⟩)
        = .ok w₁ ∧ w₁.tracer.apiTracingEnabled = true ∧
      run w₁ [.callback 0 {} (ctxExit (.api .cuLaunchKernel) 1),
        .callback 0 {} (ctxExit (.api .cuLaunchKernel) 2),
        .callback 0 {} (ctxExit (.api .cuCtxDestroy_v2) 1)] = .ok w' ∧
      w'.tracer.cuptiDriverApiHook.map syncAndFlush = some [2] ∧
      ∃ hook, w'.tracer.cuptiDriverApiHook = some hook ∧
        (∀ w'', w'.shutDown = .ok w'' → w''.tracer.cuptiDriverApiHook = some hook) ∧
        hook.syncAndFlush.Nodup ∧ ∀ ctx, ctx ∈ hook.syncAndFlush ↔
          ({ syncDevicesBeforeStop := true } : CuptiTracerOptions).syncDevicesBeforeStop ∧
          liveAfter [] ([Op.callback 0 {} (ctxExit (.api .cuLaunchKernel) 1),
            .callback 0 {} (ctxExit (.api .cuLaunchKernel) 2),
            .callback 0 {} (ctxExit (.api .cuCtxDestroy_v2) 1)].filterMap
              (Op.trackedExit (World.init 1 64 1 .healthy).tracer.numGpus
                (World.init 1 64 1 .healthy).threads.length)) ctx :=
  ⟨_, _, rfl, rfl, rfl, rfl, syncAndFlush_live_contexts (World.init 1 64 1 .healthy) _ _
    { syncDevicesBeforeStop := true } ⟨0, {}⟩ _ rfl rfl rfl (by simp) rfl⟩

end GpuTracer
