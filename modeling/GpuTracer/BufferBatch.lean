import Mathlib.Data.List.Infix
import Mathlib.Data.List.Nodup
import GpuTracer.Buffer

/-! One buffer between two drains. The annotation budget closes once and stays closed, and on
root-to-node paths of one forest `AddScopeRangeIdSequence`'s early stop drops no link. -/
namespace GpuTracer

open GuardedCallbackAnnotationsAndEvents

namespace BufferCall

/-- A call between two drains whose `Push`, if any, sees a collector with annotation budget `K`. -/
def InBatch (K : Nat) : BufferCall → Prop
  | .push tracer _ => ∃ c, tracer.collector = some c ∧ c.options.maxAnnotationStrings = K
  | .incNumDroppedEvents => True
  | .addScopeRangeIdSequence _ => True
  | .consume => False

end BufferCall

/-- An event as `Push` stores it once the budget is spent. -/
def CuptiTracerEvent.stripAnnotation (e : CuptiTracerEvent) : CuptiTracerEvent :=
  { e with annotation := "", nvtxRange := "" }

theorem dedup_length_le (strings : List String) (s : String) :
    (dedup strings s).1.length ≤ strings.length + 1 := by
  unfold dedup; split <;> simp

theorem le_dedup_length (strings : List String) (s : String) :
    strings.length ≤ (dedup strings s).1.length := by
  unfold dedup; split <;> simp

@[simp] theorem dedup_empty (strings : List String) : dedup strings "" = (strings, "") := by
  simp [dedup]

theorem tooManyAnnotationStrings_mono (t : CuptiTracer) {n m : Nat} (hnm : n ≤ m)
    (h : t.tooManyAnnotationStrings n = true) : t.tooManyAnnotationStrings m = true := by
  unfold CuptiTracer.tooManyAnnotationStrings at h ⊢
  cases hc : t.collector with
  | none => rfl
  | some c =>
    simp only [hc, Bool.and_eq_true, decide_eq_true_eq] at h ⊢
    exact ⟨h.1, h.2.trans hnm⟩

theorem tooManyAnnotationStrings_of_budget {K : Nat} (n : Nat) {t : CuptiTracer}
    (ht : ∃ c, t.collector = some c ∧ c.options.maxAnnotationStrings = K) (hK : 0 < K) :
    t.tooManyAnnotationStrings n = decide (K ≤ n) := by
  obtain ⟨c, hc, rfl⟩ := ht
  simp [CuptiTracer.tooManyAnnotationStrings, hc, hK]

theorem push_numAnnotations (tracer : CuptiTracer) (c : CallbackAnnotationsAndEvents)
    (e : CuptiTracerEvent) :
    (push tracer c e).numAnnotations = (dedup c.annotations
      (if tracer.tooManyAnnotationStrings c.numAnnotations then "" else e.annotation)).1.length :=
  rfl

@[simp] theorem addScopeRangeIdSequence_numAnnotations (c : CallbackAnnotationsAndEvents)
    (sequence : List Int) :
    (addScopeRangeIdSequence c sequence).numAnnotations = c.numAnnotations := by
  unfold addScopeRangeIdSequence; split <;> rfl

section Budget

variable {K : Nat}

theorem bufferStep_inBatch (hK : 0 < K) {c : CallbackAnnotationsAndEvents} {call : BufferCall}
    (hcall : call.InBatch K) (hc : c.numAnnotations ≤ K) :
    (bufferStep c call).1.numAnnotations ≤ K ∧
      c.numAnnotations ≤ (bufferStep c call).1.numAnnotations ∧
      (bufferStep c call).1.eventQueue = c.eventQueue ++ (pushedEvents [call]).map
        (fun e => if K ≤ c.numAnnotations then e.stripAnnotation else e) := by
  cases call with
  | push tracer event =>
    have htoo : tracer.tooManyAnnotationStrings c.numAnnotations = decide (K ≤ c.numAnnotations) :=
      tooManyAnnotationStrings_of_budget _ hcall hK
    simp only [bufferStep, pushedEvents, List.map_cons, List.map_nil, push_eventQueue,
      push_numAnnotations, htoo, decide_eq_true_eq, CuptiTracerEvent.stripAnnotation]
    by_cases hle : K ≤ c.numAnnotations
    · simp only [hle, if_true, dedup_empty]
      exact ⟨hc, le_refl _, trivial⟩
    · simp only [hle, if_false]
      have := dedup_length_le c.annotations event.annotation
      simp only [CallbackAnnotationsAndEvents.numAnnotations] at hle hc ⊢
      exact ⟨by omega, le_dedup_length _ _, trivial⟩
  | incNumDroppedEvents =>
    exact ⟨hc, le_refl _, by simp [bufferStep, pushedEvents, incNumDroppedEvents]⟩
  | addScopeRangeIdSequence s =>
    simp only [bufferStep, addScopeRangeIdSequence_numAnnotations, addScopeRangeIdSequence_eventQueue]
    exact ⟨hc, le_refl _, by simp [pushedEvents]⟩
  | consume => exact hcall.elim

theorem pushedEvents_cons (call : BufferCall) (calls : List BufferCall) :
    pushedEvents (call :: calls) = pushedEvents [call] ++ pushedEvents calls := by
  cases call <;> rfl

theorem runBufferCalls_append (c : CallbackAnnotationsAndEvents) (l₁ l₂ : List BufferCall) :
    (runBufferCalls c (l₁ ++ l₂)).1 = (runBufferCalls (runBufferCalls c l₁).1 l₂).1 := by
  induction l₁ generalizing c with
  | nil => rfl
  | cons call calls ih => exact ih _

theorem runBufferCalls_inBatch (hK : 0 < K) :
    ∀ {c : CallbackAnnotationsAndEvents} {calls : List BufferCall},
      (∀ call ∈ calls, call.InBatch K) → c.numAnnotations ≤ K →
      (runBufferCalls c calls).1.numAnnotations ≤ K ∧
        c.numAnnotations ≤ (runBufferCalls c calls).1.numAnnotations ∧
        ∃ n ≤ calls.length, (∀ m < n, (runBufferCalls c (calls.take m)).1.numAnnotations < K) ∧
          (n < calls.length → K ≤ (runBufferCalls c (calls.take n)).1.numAnnotations) ∧
          (runBufferCalls c calls).1.eventQueue = c.eventQueue ++ pushedEvents (calls.take n) ++
            (pushedEvents (calls.drop n)).map CuptiTracerEvent.stripAnnotation
  | c, [], _, hc => ⟨hc, le_refl _, 0, le_refl _, nofun, nofun, by simp [runBufferCalls, pushedEvents]⟩
  | c, call :: calls, hcalls, hc => by
    obtain ⟨hb, hmono, hq⟩ := bufferStep_inBatch hK (hcalls call (List.mem_cons_self _ _)) hc
    obtain ⟨hb', hmono', n, hn, hbelow, hclose, hq'⟩ :=
      runBufferCalls_inBatch hK (fun x hx => hcalls x (List.mem_cons_of_mem _ hx)) hb
    refine ⟨hb', hmono.trans hmono', ?_⟩
    simp only [runBufferCalls] at hq' ⊢
    by_cases hle : K ≤ c.numAnnotations
    · -- the gate is closed before the first call, so the rest of the batch never opens it
      obtain rfl : n = 0 := Nat.eq_zero_of_not_pos fun h =>
        absurd (hbelow 0 h) (Nat.not_lt.mpr (hle.trans hmono))
      refine ⟨0, Nat.zero_le _, nofun, fun _ => hle, ?_⟩
      rw [hq', hq]
      simp [hle, pushedEvents_cons call calls, pushedEvents]
    · refine ⟨n + 1, Nat.succ_le_succ hn, fun m hm => ?_, fun h => hclose (Nat.lt_of_succ_lt_succ h), ?_⟩
      · cases m with
        | zero => exact Nat.lt_of_not_le hle
        | succ m => exact hbelow m (Nat.lt_of_succ_lt_succ hm)
      · rw [hq', hq, List.take_succ_cons, List.drop_succ_cons, pushedEvents_cons call (calls.take n)]
        simp [hle, List.append_assoc]

end Budget

/-- Between two drains with annotation budget `K > 0`: at most `K` strings are kept, the gate never
reopens, and the events are stored whole up to the call that meets `K` strings, stripped from it. -/
theorem annotation_budget_strips_suffix (K : Nat) (hK : 0 < K) (c : CallbackAnnotationsAndEvents)
    (hc : c.numAnnotations ≤ K) (calls : List BufferCall)
    (hcalls : ∀ call ∈ calls, call.InBatch K) :
    (∀ n, (runBufferCalls c (calls.take n)).1.numAnnotations ≤ K) ∧
      (∀ n m, n ≤ m → ∀ t : CuptiTracer,
        t.tooManyAnnotationStrings (runBufferCalls c (calls.take n)).1.numAnnotations = true →
        t.tooManyAnnotationStrings (runBufferCalls c (calls.take m)).1.numAnnotations = true) ∧
      ∃ n ≤ calls.length, (∀ m < n, (runBufferCalls c (calls.take m)).1.numAnnotations < K) ∧
        (n < calls.length → K ≤ (runBufferCalls c (calls.take n)).1.numAnnotations) ∧
        (runBufferCalls c calls).1.eventQueue = c.eventQueue ++ pushedEvents (calls.take n) ++
          (pushedEvents (calls.drop n)).map CuptiTracerEvent.stripAnnotation := by
  have hbatch (n : Nat) := runBufferCalls_inBatch hK
    (fun x (hx : x ∈ calls.take n) => hcalls x (List.mem_of_mem_take hx)) hc
  refine ⟨fun n => (hbatch n).1, fun n m hnm t h => ?_, (runBufferCalls_inBatch hK hcalls hc).2.2⟩
  refine tooManyAnnotationStrings_mono t ?_ h
  obtain ⟨d, rfl⟩ := Nat.exists_eq_add_of_le hnm
  rw [List.take_add, runBufferCalls_append]
  exact (runBufferCalls_inBatch hK (fun x hx => hcalls x
    (List.mem_of_mem_drop (List.mem_of_mem_take hx))) (hbatch n).1).2.1

/-- With room for two strings, the third new string is stripped, and so is a kept one after it. -/
theorem third_new_annotation_stripped :
    let t : CuptiTracer :=
      { numGpus := 1, kBufferSizeInBytes := 64, collector := some ⟨0, { maxAnnotationStrings := 2 }⟩ }
    let calls := ["a", "b", "c", "a"].map fun s => BufferCall.push t { annotation := s }
    (runBufferCalls {} calls).1.eventQueue.map CuptiTracerEvent.annotation = ["a", "b", "", ""] ∧
      0 < 2 ∧ ({} : CallbackAnnotationsAndEvents).numAnnotations ≤ 2 ∧
      (∀ call ∈ calls, call.InBatch 2) ∧
      (∀ n, (runBufferCalls {} (calls.take n)).1.numAnnotations ≤ 2) ∧
      (∀ n m, n ≤ m → ∀ t : CuptiTracer,
        t.tooManyAnnotationStrings (runBufferCalls {} (calls.take n)).1.numAnnotations = true →
        t.tooManyAnnotationStrings (runBufferCalls {} (calls.take m)).1.numAnnotations = true) ∧
      ∃ n ≤ calls.length, (∀ m < n, (runBufferCalls {} (calls.take m)).1.numAnnotations < 2) ∧
        (n < calls.length → 2 ≤ (runBufferCalls {} (calls.take n)).1.numAnnotations) ∧
        (runBufferCalls {} calls).1.eventQueue = [] ++ pushedEvents (calls.take n) ++
          (pushedEvents (calls.drop n)).map CuptiTracerEvent.stripAnnotation := by
  intro t calls
  have hcalls : ∀ call ∈ calls, call.InBatch 2 := by
    simp only [calls, List.map_cons, List.map_nil, List.forall_mem_cons, List.forall_mem_nil]
    exact ⟨⟨_, rfl, rfl⟩, ⟨_, rfl, rfl⟩, ⟨_, rfl, rfl⟩, ⟨_, rfl, rfl⟩, fun _ h => absurd h (List.not_mem_nil _)⟩
  exact ⟨rfl, by decide, Nat.zero_le _, hcalls,
    annotation_budget_strips_suffix 2 (by decide) {} (Nat.zero_le _) calls hcalls⟩

def scopeLinks : List Int → List (Int × Int)
  | parent :: child :: rest => (child, parent) :: scopeLinks (child :: rest)
  | _ => []

def emplaceAllLinks (sequences : List (List Int)) : ScopeRangeIdTree :=
  (sequences.flatMap scopeLinks).foldl (fun tree l => tree.emplace l.1 l.2) fun _ => none

def scopeSequences : List BufferCall → List (List Int)
  | [] => []
  | .addScopeRangeIdSequence sequence :: calls => sequence :: scopeSequences calls
  | _ :: calls => scopeSequences calls

/-- Root-to-node paths of one forest: two prefixes that end in the same id are equal. -/
def SamePrefixes (sequences : List (List Int)) : Prop :=
  ∀ s ∈ sequences, ∀ s' ∈ sequences, ∀ a ∈ s.inits, ∀ b ∈ s'.inits, a.getLast? = b.getLast? → a = b

instance : DecidablePred SamePrefixes := fun _ => by unfold SamePrefixes; infer_instance

def IsScopeLink (sequences : List (List Int)) (child parent : Int) : Prop :=
  ∃ s ∈ sequences, (child, parent) ∈ scopeLinks s

def ScopeRangeIdTree.Holds (tree : ScopeRangeIdTree) (links : Int → Int → Prop) : Prop :=
  ∀ child parent, tree child = some parent ↔ links child parent

theorem ScopeRangeIdTree.Holds.ext {tree tree' : ScopeRangeIdTree} {links : Int → Int → Prop}
    (h : tree.Holds links) (h' : tree'.Holds links) : tree = tree' := by
  funext x
  cases hx : tree x with
  | none =>
    cases hx' : tree' x with
    | none => rfl
    | some p => exact absurd ((h x p).2 ((h' x p).1 hx')) (by simp [hx])
  | some p => exact ((h' x p).2 ((h x p).1 hx)).symm

theorem ScopeRangeIdTree.Holds.emplace {tree : ScopeRangeIdTree} {links : Int → Int → Prop}
    (h : tree.Holds links) {x p : Int} (hx : ∀ q, links x q → q = p) :
    (tree.emplace x p).Holds fun c q => links c q ∨ c = x ∧ q = p := by
  intro c q
  simp only [ScopeRangeIdTree.emplace]
  by_cases hc : c = x
  · subst hc
    cases hcx : tree c with
    | none =>
      have hq : ¬links c q := fun hl => by simp [(h c q).2 hl] at hcx
      simp [hq, eq_comm]
    | some r =>
      have hr : links c r := (h c r).1 hcx
      obtain rfl := hx r hr
      rw [if_neg (by simp), ← hcx, h c q]
      exact ⟨Or.inl, fun hq => hq.elim id fun hq => hq.2 ▸ hr⟩
  · simp [hc, h c q]

theorem mem_scopeLinks {child parent : Int} :
    ∀ {s : List Int}, (child, parent) ∈ scopeLinks s ↔ ∃ u v, s = u ++ parent :: child :: v
  | [] => by simp [scopeLinks]
  | [a] => by
    simp only [scopeLinks, List.not_mem_nil, false_iff, not_exists]
    intro u v h
    have := congrArg List.length h
    simp at this; omega
  | a :: b :: rest => by
    simp only [scopeLinks, List.mem_cons, Prod.mk.injEq, mem_scopeLinks]
    constructor
    · rintro (⟨rfl, rfl⟩ | ⟨u, v, h⟩)
      · exact ⟨[], rest, rfl⟩
      · exact ⟨a :: u, v, by rw [h]; rfl⟩
    · rintro ⟨_ | ⟨c, u⟩, v, h⟩
      · simp only [List.nil_append, List.cons.injEq] at h
        exact Or.inl ⟨h.2.1.symm, h.1.symm⟩
      · simp only [List.cons_append, List.cons.injEq] at h
        exact Or.inr ⟨u, v, h.2⟩

theorem scopeLinks_append_pair (l : List Int) (a b : Int) :
    scopeLinks (l ++ [a, b]) = scopeLinks (l ++ [a]) ++ [(b, a)] := by
  induction l with
  | nil => rfl
  | cons x l ih =>
    cases l with
    | nil => rfl
    | cons y l => exact congrArg (List.cons (y, x)) ih

theorem mem_scopeLinks_append {child parent : Int} {l : List Int} (v : List Int)
    (h : (child, parent) ∈ scopeLinks l) : (child, parent) ∈ scopeLinks (l ++ v) := by
  obtain ⟨a, b, rfl⟩ := mem_scopeLinks.1 h
  exact mem_scopeLinks.2 ⟨a, b ++ v, by simp⟩

theorem SamePrefixes.prefix_eq {sequences : List (List Int)} (h : SamePrefixes sequences)
    {s s' : List Int} (hs : s ∈ sequences) (hs' : s' ∈ sequences) {x : Int} {u v u' v' : List Int}
    (hu : s = u ++ x :: v) (hu' : s' = u' ++ x :: v') : u = u' := by
  have hmem : ∀ {t w r : List Int}, t = w ++ x :: r → w ++ [x] ∈ t.inits := fun {_ _ r} h =>
    (List.mem_inits _ _).2 ⟨r, by simp [h]⟩
  exact List.append_cancel_right (h s hs s' hs' _ (hmem hu) _ (hmem hu') (by simp))

theorem SamePrefixes.nodup {sequences : List (List Int)} (h : SamePrefixes sequences)
    {s : List Int} (hs : s ∈ sequences) : s.Nodup := by
  suffices ∀ w, (∀ {x u v u' v'}, w ++ s = u ++ x :: v → w ++ s = u' ++ x :: v' → u = u') →
      s.Nodup from this [] fun hu hu' => h.prefix_eq hs hs hu hu'
  clear hs
  induction s with
  | nil => intro _ _; exact List.nodup_nil
  | cons a s ih =>
    intro w hw
    refine List.nodup_cons.2 ⟨fun ha => ?_, ih (w ++ [a]) fun hu hu' => hw (by simpa using hu)
      (by simpa using hu')⟩
    obtain ⟨b, c, rfl⟩ := List.append_of_mem ha
    have := congrArg List.length (hw (show w ++ a :: (b ++ a :: c) = w ++ a :: (b ++ a :: c) from rfl)
      (show w ++ a :: (b ++ a :: c) = (w ++ a :: b) ++ a :: c by simp))
    simp at this

theorem SamePrefixes.parent_eq {sequences : List (List Int)} (h : SamePrefixes sequences)
    {x p q : Int} (hp : IsScopeLink sequences x p) (hq : IsScopeLink sequences x q) : p = q := by
  obtain ⟨s, hs, hps⟩ := hp
  obtain ⟨s', hs', hqs⟩ := hq
  obtain ⟨u, v, hu⟩ := mem_scopeLinks.1 hps
  obtain ⟨u', v', hu'⟩ := mem_scopeLinks.1 hqs
  have := h.prefix_eq hs hs' (show s = (u ++ [p]) ++ x :: v by simp [hu])
    (show s' = (u' ++ [q]) ++ x :: v' by simp [hu'])
  simpa using congrArg List.getLast? this

theorem mem_scopeSequences {s : List Int} :
    ∀ {calls : List BufferCall}, s ∈ scopeSequences calls ↔ .addScopeRangeIdSequence s ∈ calls
  | [] => by simp [scopeSequences]
  | call :: calls => by
    cases call <;> simp [scopeSequences, mem_scopeSequences, eq_comm]

theorem addScopeRangeIdSequence_scopeRangeIdTree (c : CallbackAnnotationsAndEvents)
    (sequence : List Int) : (addScopeRangeIdSequence c sequence).scopeRangeIdTree =
      addScopeRangeLinks c.scopeRangeIdTree sequence.reverse := by
  unfold addScopeRangeIdSequence
  split
  · rfl
  · match sequence, ‹¬1 < sequence.length› with
    | [], _ | [_], _ => rfl
    | _ :: _ :: _, h => simp at h

theorem addScopeRangeIdSequence_eq_self {c : CallbackAnnotationsAndEvents} {sequence : List Int}
    (h : (addScopeRangeIdSequence c sequence).scopeRangeIdTree = c.scopeRangeIdTree) :
    addScopeRangeIdSequence c sequence = c := by
  unfold addScopeRangeIdSequence at h ⊢
  split
  · simp only [‹1 < sequence.length›, if_true] at h
    rw [h]
  · rfl

theorem addScopeRangeLinks_holds {links : Int → Int → Prop} :
    ∀ {r : List Int} {tree : ScopeRangeIdTree}, tree.Holds links → r.Nodup →
      (∀ t x r' p, r = t ++ x :: r' → links x p →
        ∀ c q, (c, q) ∈ scopeLinks (x :: r').reverse → links c q) →
      (addScopeRangeLinks tree r).Holds fun c q => links c q ∨ (c, q) ∈ scopeLinks r.reverse
  | [], _, h, _, _ | [_], _, h, _, _ => fun c q => by simp [addScopeRangeLinks, h c q, scopeLinks]
  | curr :: prev :: rest, tree, h, hnd, hknown => by
    have hlinks : scopeLinks (curr :: prev :: rest).reverse =
        scopeLinks (prev :: rest).reverse ++ [(curr, prev)] := by
      simpa using scopeLinks_append_pair rest.reverse prev curr
    unfold addScopeRangeLinks
    split
    · -- `curr` is known, so the links of the whole sequence are already there
      obtain ⟨p, hp⟩ := Option.isSome_iff_exists.1 ‹_›
      have hall := hknown [] curr (prev :: rest) p rfl ((h curr p).1 hp)
      exact fun c q => (h c q).trans ⟨Or.inl, fun hq => hq.elim id (hall c q)⟩
    · have hcurr : tree curr = none := Option.not_isSome_iff_eq_none.1 ‹_›
      have hnd' := List.nodup_cons.1 hnd
      have h' := h.emplace (fun q (hq : links curr q) =>
        absurd ((h curr q).2 hq) (by simp [hcurr]) : ∀ q, links curr q → q = prev)
      have hknown' : ∀ t x r' p, prev :: rest = t ++ x :: r' → (links x p ∨ x = curr ∧ p = prev) →
          ∀ c q, (c, q) ∈ scopeLinks (x :: r').reverse → links c q ∨ c = curr ∧ q = prev := by
        rintro t x r' p ht (hx | ⟨rfl, -⟩) c q hcq
        · exact Or.inl (hknown (curr :: t) x r' p (by rw [ht]; rfl) hx c q hcq)
        · exact absurd (by rw [ht]; simp) hnd'.1
      refine fun c q => (addScopeRangeLinks_holds h' hnd'.2 hknown' c q).trans ?_
      dsimp only
      rw [hlinks, List.mem_append, List.mem_singleton, Prod.mk.injEq, or_right_comm, or_assoc]

theorem addScopeRangeIdSequence_holds {sequences done : List (List Int)}
    (hpaths : SamePrefixes sequences) (hdone : ∀ s ∈ done, s ∈ sequences) {s : List Int}
    (hs : s ∈ sequences) {c : CallbackAnnotationsAndEvents}
    (hc : c.scopeRangeIdTree.Holds (IsScopeLink done)) :
    (addScopeRangeIdSequence c s).scopeRangeIdTree.Holds (IsScopeLink (done ++ [s])) := by
  have hknown : ∀ t x r' p, s.reverse = t ++ x :: r' → IsScopeLink done x p →
      ∀ c q, (c, q) ∈ scopeLinks (x :: r').reverse → IsScopeLink done c q := by
    rintro t x r' p ht ⟨s', hs', hxp⟩ c q hcq
    obtain ⟨u, v, hu⟩ := mem_scopeLinks.1 hxp
    have hsr : s = r'.reverse ++ x :: t.reverse := by
      rw [← List.reverse_reverse s, ht]; simp
    have hpre := hpaths.prefix_eq hs (hdone _ hs') hsr
      (show s' = (u ++ [p]) ++ x :: v by simp [hu])
    refine ⟨s', hs', ?_⟩
    rw [hu, show u ++ p :: x :: v = (x :: r').reverse ++ v by simp [hpre]]
    exact mem_scopeLinks_append v hcq
  have hloop := addScopeRangeLinks_holds hc (List.nodup_reverse.2 (hpaths.nodup hs)) hknown
  rw [addScopeRangeIdSequence_scopeRangeIdTree]
  intro x p
  rw [hloop x p, List.reverse_reverse]
  simp [IsScopeLink, or_and_right, exists_or]

theorem runBufferCalls_cons_fst (c : CallbackAnnotationsAndEvents) (call : BufferCall)
    (calls : List BufferCall) :
    (runBufferCalls c (call :: calls)).1 = (runBufferCalls (bufferStep c call).1 calls).1 := rfl

theorem runBufferCalls_scope_holds (done : List (List Int)) :
    ∀ {c : CallbackAnnotationsAndEvents} {calls : List BufferCall},
      SamePrefixes (done ++ scopeSequences calls) → .consume ∉ calls →
      c.scopeRangeIdTree.Holds (IsScopeLink done) →
      (runBufferCalls c calls).1.scopeRangeIdTree.Holds (IsScopeLink (done ++ scopeSequences calls))
  | _, [], _, _, hc => by simpa [scopeSequences] using hc
  | c, call :: calls, hpaths, hcons, hc => by
    have hcons' : .consume ∉ calls := fun h => hcons (List.mem_cons_of_mem _ h)
    rw [runBufferCalls_cons_fst]
    cases call with
    | push => exact runBufferCalls_scope_holds done hpaths hcons' hc
    | incNumDroppedEvents => exact runBufferCalls_scope_holds done hpaths hcons' hc
    | addScopeRangeIdSequence s =>
      rw [scopeSequences, List.append_cons] at hpaths ⊢
      exact runBufferCalls_scope_holds (done ++ [s]) hpaths hcons'
        (addScopeRangeIdSequence_holds hpaths (fun _ h => by simp [h]) (by simp) hc)
    | consume => exact absurd (List.mem_cons_self _ _) hcons

theorem foldl_emplace_holds {all : Int → Int → Prop} (hfun : ∀ x p q, all x p → all x q → p = q) :
    ∀ (ls : List (Int × Int)) {tree : ScopeRangeIdTree} {links : Int → Int → Prop},
      tree.Holds links → (∀ c q, links c q → all c q) → (∀ l ∈ ls, all l.1 l.2) →
      (ls.foldl (fun tree l => tree.emplace l.1 l.2) tree).Holds fun c q => links c q ∨ (c, q) ∈ ls
  | [], _, _, h, _, _ => fun c q => by simp [h c q]
  | (x, p) :: ls, _, _, h, hsub, hall => by
    have hx := hall _ (List.mem_cons_self _ _)
    have h' := h.emplace fun q hq => hfun x q p (hsub x q hq) hx
    refine fun c q => (foldl_emplace_holds hfun ls h' ?_ (fun l hl => hall l
      (List.mem_cons_of_mem _ hl)) c q).trans ?_
    · rintro c q (hq | ⟨rfl, rfl⟩)
      exacts [hsub c q hq, hx]
    · simp only [List.mem_cons, Prod.mk.injEq, or_assoc]

theorem emplaceAllLinks_holds {sequences : List (List Int)} (hpaths : SamePrefixes sequences) :
    (emplaceAllLinks sequences).Holds (IsScopeLink sequences) := by
  have hempty : ScopeRangeIdTree.Holds (fun _ => none) fun _ _ => False := by
    simp [ScopeRangeIdTree.Holds]
  have := foldl_emplace_holds (fun _ _ _ => hpaths.parent_eq :
      ∀ x p q, IsScopeLink sequences x p → IsScopeLink sequences x q → p = q)
    (sequences.flatMap scopeLinks) hempty
    (fun _ _ => False.elim) fun l hl => by
      obtain ⟨s, hs, hl⟩ := List.mem_flatMap.1 hl
      exact ⟨s, hs, hl⟩
  intro c q
  rw [emplaceAllLinks, this c q]
  simp only [false_or, List.mem_flatMap]
  rfl

theorem emplaceAllLinks_congr {sequences sequences' : List (List Int)}
    (hpaths : SamePrefixes sequences) (hmem : ∀ s, s ∈ sequences ↔ s ∈ sequences') :
    emplaceAllLinks sequences = emplaceAllLinks sequences' := by
  have hpaths' : SamePrefixes sequences' := fun s hs s' hs' =>
    hpaths s ((hmem s).2 hs) s' ((hmem s').2 hs')
  have hlinks : IsScopeLink sequences = IsScopeLink sequences' := by
    funext x p
    simp only [IsScopeLink, hmem]
  exact (emplaceAllLinks_holds hpaths).ext (hlinks ▸ emplaceAllLinks_holds hpaths')

theorem runBufferCalls_scopeRangeIdTree {c : CallbackAnnotationsAndEvents}
    (hc : c.scopeRangeIdTree = fun _ => none) {calls : List BufferCall}
    (hcons : BufferCall.consume ∉ calls) (hpaths : SamePrefixes (scopeSequences calls)) :
    (runBufferCalls c calls).1.scopeRangeIdTree = emplaceAllLinks (scopeSequences calls) := by
  have hempty : c.scopeRangeIdTree.Holds (IsScopeLink []) := by
    simp [ScopeRangeIdTree.Holds, IsScopeLink, hc]
  have hrun := runBufferCalls_scope_holds [] (by simpa using hpaths) hcons hempty
  rw [List.nil_append] at hrun
  exact hrun.ext (emplaceAllLinks_holds hpaths)

/-- On root-to-node paths of one forest, the early-stopping tree is the one that emplaces every
link of every path, whatever the order of the calls. -/
theorem scope_tree_early_stop_drops_no_link (c : CallbackAnnotationsAndEvents)
    (hc : c.scopeRangeIdTree = fun _ => none) (calls : List BufferCall)
    (hcons : BufferCall.consume ∉ calls) (hpaths : SamePrefixes (scopeSequences calls)) :
    (runBufferCalls c calls).1.scopeRangeIdTree = emplaceAllLinks (scopeSequences calls) ∧
      (∀ calls', calls'.Perm calls →
        (runBufferCalls c calls').1.scopeRangeIdTree = (runBufferCalls c calls).1.scopeRangeIdTree) ∧
      ∀ s ∈ scopeSequences calls,
        (runBufferCalls c (calls ++ [.addScopeRangeIdSequence s])).1 = (runBufferCalls c calls).1 := by
  have htree {calls'} (hmem : ∀ call, call ∈ calls' ↔ call ∈ calls) :
      (runBufferCalls c calls').1.scopeRangeIdTree = (runBufferCalls c calls).1.scopeRangeIdTree := by
    have hseq : ∀ s, s ∈ scopeSequences calls ↔ s ∈ scopeSequences calls' := fun s => by
      simp only [mem_scopeSequences, hmem]
    rw [runBufferCalls_scopeRangeIdTree hc (by rwa [hmem]) (fun s hs s' hs' =>
      hpaths s ((hseq s).2 hs) s' ((hseq s').2 hs')), runBufferCalls_scopeRangeIdTree hc hcons hpaths,
      emplaceAllLinks_congr hpaths hseq]
  refine ⟨runBufferCalls_scopeRangeIdTree hc hcons hpaths, fun calls' hp => htree fun _ => hp.mem_iff,
    fun s hs => ?_⟩
  have hmem : ∀ call, call ∈ calls ++ [.addScopeRangeIdSequence s] ↔ call ∈ calls := fun call => by
    simp only [List.mem_append, List.mem_singleton, or_iff_left_iff_imp]
    rintro rfl
    exact mem_scopeSequences.1 hs
  have hrep := htree hmem
  rw [runBufferCalls_append] at hrep ⊢
  exact addScopeRangeIdSequence_eq_self hrep

/-- Two paths through scope `2`: the second call stops at `2`, and every id still gets its parent. -/
theorem nested_scope_paths_link_every_id :
    let calls := [[1, 2, 3], [1, 2, 4], [1, 5]].map BufferCall.addScopeRangeIdSequence
    [1, 2, 3, 4, 5].map (runBufferCalls {} calls).1.scopeRangeIdTree =
        [none, some 1, some 2, some 2, some 1] ∧
      ({} : CallbackAnnotationsAndEvents).scopeRangeIdTree = (fun _ => none) ∧
      BufferCall.consume ∉ calls ∧ SamePrefixes (scopeSequences calls) ∧
      (runBufferCalls {} calls).1.scopeRangeIdTree = emplaceAllLinks (scopeSequences calls) ∧
      (∀ calls', calls'.Perm calls →
        (runBufferCalls {} calls').1.scopeRangeIdTree = (runBufferCalls {} calls).1.scopeRangeIdTree) ∧
      ∀ s ∈ scopeSequences calls,
        (runBufferCalls {} (calls ++ [.addScopeRangeIdSequence s])).1 = (runBufferCalls {} calls).1 := by
  intro calls
  have hcons : BufferCall.consume ∉ calls := by simp [calls]
  have hpaths : SamePrefixes (scopeSequences calls) := by decide
  exact ⟨rfl, rfl, hcons, hpaths, scope_tree_early_stop_drops_no_link {} rfl calls hcons hpaths⟩


/-- Spec side: an event's scopes read back from its `scope_range_id` up the tree, for `fuel` ids. -/
def ScopeRangeIdTree.pathToRoot (tree : ScopeRangeIdTree) : Nat → Int → List Int
  | 0, _ => []
  | fuel + 1, x => x :: match tree x with
    | none => []
    | some p => tree.pathToRoot fuel p

theorem ScopeRangeIdTree.pathToRoot_of_holds {tree : ScopeRangeIdTree} {sequences : List (List Int)}
    (hpaths : SamePrefixes sequences) (h : tree.Holds (IsScopeLink sequences)) {s : List Int}
    (hs : s ∈ sequences) {u : List Int} :
    ∀ {x : Int} {v : List Int} {fuel : Nat}, s = u ++ x :: v → u.length < fuel →
      tree.pathToRoot fuel x = x :: u.reverse := by
  induction u using List.reverseRecOn with
  | nil =>
    intro x v fuel hu hn
    obtain _ | fuel := fuel
    · exact absurd hn (Nat.not_lt_zero _)
    have hroot : tree x = none := by
      cases hx : tree x with
      | none => rfl
      | some p =>
        obtain ⟨s', hs', hxp⟩ := (h x p).1 hx
        obtain ⟨u', v', hu'⟩ := mem_scopeLinks.1 hxp
        have := hpaths.prefix_eq hs hs' hu (show s' = (u' ++ [p]) ++ x :: v' by simp [hu'])
        simp at this
    simp [pathToRoot, hroot]
  | append_singleton u p ih =>
    intro x v fuel hu hn
    obtain _ | fuel := fuel
    · exact absurd hn (Nat.not_lt_zero _)
    have hx : tree x = some p := (h x p).2 ⟨s, hs, mem_scopeLinks.2 ⟨u, v, by simp [hu]⟩⟩
    have hrest := @ih p (x :: v) fuel (by simp [hu]) (by simpa using hn)
    simp [pathToRoot, hx, hrest]

/-- On root-to-node paths of one forest, walking up the tree from any recorded id reads back its
sequence up to that id, so an event's whole scope stack is recovered. -/
theorem scope_path_read_back (c : CallbackAnnotationsAndEvents)
    (hc : c.scopeRangeIdTree = fun _ => none) (calls : List BufferCall)
    (hcons : BufferCall.consume ∉ calls) (hpaths : SamePrefixes (scopeSequences calls))
    (s : List Int) (hs : s ∈ scopeSequences calls) (u : List Int) (x : Int) (v : List Int)
    (hu : s = u ++ x :: v) (fuel : Nat) (hfuel : u.length < fuel) :
    (runBufferCalls c calls).1.scopeRangeIdTree.pathToRoot fuel x = x :: u.reverse := by
  have h := emplaceAllLinks_holds hpaths
  rw [← runBufferCalls_scopeRangeIdTree hc hcons hpaths] at h
  exact ScopeRangeIdTree.pathToRoot_of_holds hpaths h hs hu hfuel

/-- Scope `4` of `[1, 2, 4]`, recorded after `[1, 2, 3]` linked `2`, is read back whole. -/
theorem nested_scope_read_back :
    let calls := [[1, 2, 3], [1, 2, 4], [1, 5]].map BufferCall.addScopeRangeIdSequence
    ({} : CallbackAnnotationsAndEvents).scopeRangeIdTree = (fun _ => none) ∧
      BufferCall.consume ∉ calls ∧ SamePrefixes (scopeSequences calls) ∧
      [1, 2, 4] ∈ scopeSequences calls ∧ [1, 2, 4] = [1, 2] ++ 4 :: [] ∧ [1, 2].length < 3 ∧
      (runBufferCalls {} calls).1.scopeRangeIdTree.pathToRoot 3 4 = 4 :: [1, 2].reverse := by
  intro calls
  have hcons : BufferCall.consume ∉ calls := by simp [calls]
  have hpaths : SamePrefixes (scopeSequences calls) := by decide
  have hs : [1, 2, 4] ∈ scopeSequences calls := by decide
  exact ⟨rfl, hcons, hpaths, hs, rfl, by decide,
    scope_path_read_back {} rfl calls hcons hpaths _ hs _ _ _ rfl 3 (by decide)⟩

end GpuTracer
