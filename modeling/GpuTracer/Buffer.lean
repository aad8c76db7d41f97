import Mathlib.Data.List.Forall2
import GpuTracer.Tracer

/-! The per-thread buffer `GuardedCallbackAnnotationsAndEvents`. Every method holds the buffer's
mutex for its whole body, so the buffer sees the owning thread's calls and the controller's
drains one at a time; a run of the buffer is a list of calls. -/
namespace GpuTracer

namespace GuardedCallbackAnnotationsAndEvents

/-- `Consume`: swap the collection out for an empty one and return the old one. -/
def consume (c : CallbackAnnotationsAndEvents) :
    CallbackAnnotationsAndEvents × CallbackAnnotationsAndEvents :=
  (c, {})

def clear (_ : CallbackAnnotationsAndEvents) : CallbackAnnotationsAndEvents := {}

def incNumDroppedEvents (c : CallbackAnnotationsAndEvents) : CallbackAnnotationsAndEvents :=
  { c with numDroppedEvents := c.numDroppedEvents + 1 }

/-- `Push`: past the annotation budget the event's annotation and nvtx range are emptied first. -/
def push (tracer : CuptiTracer) (c : CallbackAnnotationsAndEvents) (event : CuptiTracerEvent) :
    CallbackAnnotationsAndEvents :=
  let tooManyAnnotations := tracer.tooManyAnnotationStrings c.numAnnotations
  let a := dedup c.annotations (if tooManyAnnotations then "" else event.annotation)
  let n := dedup c.nvtxRanges (if tooManyAnnotations then "" else event.nvtxRange)
  { c with annotations := a.1, nvtxRanges := n.1
           eventQueue := c.eventQueue ++ [{ event with annotation := a.2, nvtxRange := n.2 }] }

/-- The loop of `AddScopeRangeIdSequence`, from the back: link ids until one already known. -/
def addScopeRangeLinks (tree : ScopeRangeIdTree) : List Int → ScopeRangeIdTree
  | curr :: prev :: rest =>
    if (tree curr).isSome then tree else addScopeRangeLinks (tree.emplace curr prev) (prev :: rest)
  | _ => tree

def addScopeRangeIdSequence (c : CallbackAnnotationsAndEvents) (sequence : List Int) :
    CallbackAnnotationsAndEvents :=
  if 1 < sequence.length then
    { c with scopeRangeIdTree := addScopeRangeLinks c.scopeRangeIdTree sequence.reverse }
  else c

@[simp] theorem push_eventQueue (tracer : CuptiTracer) (c : CallbackAnnotationsAndEvents)
    (event : CuptiTracerEvent) :
    (push tracer c event).eventQueue = c.eventQueue ++ [if tracer.tooManyAnnotationStrings
      c.numAnnotations then { event with annotation := "", nvtxRange := "" } else event] := by
  simp only [push, dedup_snd]
  cases tracer.tooManyAnnotationStrings c.numAnnotations <;> rfl

@[simp] theorem push_numDroppedEvents (tracer : CuptiTracer) (c : CallbackAnnotationsAndEvents)
    (event : CuptiTracerEvent) : (push tracer c event).numDroppedEvents = c.numDroppedEvents := rfl

@[simp] theorem addScopeRangeIdSequence_eventQueue (c : CallbackAnnotationsAndEvents)
    (sequence : List Int) : (addScopeRangeIdSequence c sequence).eventQueue = c.eventQueue := by
  unfold addScopeRangeIdSequence; split <;> rfl

@[simp] theorem addScopeRangeIdSequence_numDroppedEvents (c : CallbackAnnotationsAndEvents)
    (sequence : List Int) :
    (addScopeRangeIdSequence c sequence).numDroppedEvents = c.numDroppedEvents := by
  unfold addScopeRangeIdSequence; split <;> rfl

theorem push_stored (tracer : CuptiTracer) (c : CallbackAnnotationsAndEvents)
    (event : CuptiTracerEvent) :
    ∃ e, AnnotationStripped event e ∧ (push tracer c event).eventQueue = c.eventQueue ++ [e] := by
  refine ⟨_, ?_, push_eventQueue tracer c event⟩
  split
  · exact Or.inr rfl
  · exact Or.inl rfl

end GuardedCallbackAnnotationsAndEvents

open GuardedCallbackAnnotationsAndEvents

/-- The calls one buffer receives between two `Clear`s, each `Push` under the tracer as it is then. -/
inductive BufferCall
  | push (tracer : CuptiTracer) (event : CuptiTracerEvent)
  | incNumDroppedEvents
  | addScopeRangeIdSequence (sequence : List Int)
  | consume

def bufferStep (c : CallbackAnnotationsAndEvents) :
    BufferCall → CallbackAnnotationsAndEvents × List CallbackAnnotationsAndEvents
  | .push tracer event => (push tracer c event, [])
  | .incNumDroppedEvents => (incNumDroppedEvents c, [])
  | .addScopeRangeIdSequence sequence => (addScopeRangeIdSequence c sequence, [])
  | .consume => ((consume c).2, [(consume c).1])

def runBufferCalls (c : CallbackAnnotationsAndEvents) :
    List BufferCall → CallbackAnnotationsAndEvents × List CallbackAnnotationsAndEvents
  | [] => (c, [])
  | call :: calls =>
    let s := bufferStep c call
    let r := runBufferCalls s.1 calls
    (r.1, s.2 ++ r.2)

/-- The events handed to `Push`, in push order. -/
def pushedEvents : List BufferCall → List CuptiTracerEvent
  | [] => []
  | .push _ event :: calls => event :: pushedEvents calls
  | _ :: calls => pushedEvents calls

def droppedTotal : List CallbackAnnotationsAndEvents → Nat
  | [] => 0
  | c :: cs => c.numDroppedEvents + droppedTotal cs

def droppedCalls : List BufferCall → Nat
  | [] => 0
  | .incNumDroppedEvents :: calls => droppedCalls calls + 1
  | _ :: calls => droppedCalls calls

theorem runBufferCalls_events (c : CallbackAnnotationsAndEvents) (calls : List BufferCall) :
    ∃ stored, List.Forall₂ AnnotationStripped (pushedEvents calls) stored ∧
      ((runBufferCalls c calls).2.flatMap (·.eventQueue)) ++ (runBufferCalls c calls).1.eventQueue
        = c.eventQueue ++ stored := by
  induction calls generalizing c with
  | nil => exact ⟨[], .nil, by simp [runBufferCalls]⟩
  | cons call calls ih =>
    cases call with
    | push tracer event =>
      obtain ⟨e, he, hq⟩ := push_stored tracer c event
      obtain ⟨stored, hs, heq⟩ := ih (push tracer c event)
      refine ⟨e :: stored, .cons he hs, ?_⟩
      simp only [runBufferCalls, bufferStep, List.nil_append]
      rw [heq, hq, List.append_assoc, List.singleton_append]
    | incNumDroppedEvents =>
      simpa [runBufferCalls, bufferStep, pushedEvents, incNumDroppedEvents] using ih (incNumDroppedEvents c)
    | addScopeRangeIdSequence sequence =>
      simpa [runBufferCalls, bufferStep, pushedEvents] using ih (addScopeRangeIdSequence c sequence)
    | consume =>
      obtain ⟨stored, hs, heq⟩ := ih {}
      exact ⟨stored, hs, by simpa [runBufferCalls, bufferStep, pushedEvents, consume] using heq⟩

theorem runBufferCalls_dropped (c : CallbackAnnotationsAndEvents) (calls : List BufferCall) :
    droppedTotal (runBufferCalls c calls).2 + (runBufferCalls c calls).1.numDroppedEvents
      = c.numDroppedEvents + droppedCalls calls := by
  induction calls generalizing c with
  | nil => simp [runBufferCalls, droppedCalls, droppedTotal]
  | cons call calls ih =>
    cases call with
    | push tracer event => simpa [runBufferCalls, bufferStep, droppedCalls] using ih (push tracer c event)
    | incNumDroppedEvents =>
      have h := ih (incNumDroppedEvents c)
      simp only [runBufferCalls, bufferStep, droppedCalls, List.nil_append, incNumDroppedEvents] at h ⊢
      omega
    | addScopeRangeIdSequence sequence =>
      simpa [runBufferCalls, bufferStep, droppedCalls] using ih (addScopeRangeIdSequence c sequence)
    | consume =>
      have h := ih {}
      simp only [runBufferCalls, bufferStep, droppedCalls, consume, List.singleton_append,
        droppedTotal, List.append_eq, List.nil_append] at h ⊢
      omega

/-- Drains lose, duplicate and reorder nothing, and the dropped counts add up to the
`IncNumDroppedEvents` calls. -/
theorem consume_preserves_pushed_events (c : CallbackAnnotationsAndEvents) (calls : List BufferCall) :
    List.Forall₂ AnnotationStripped (c.eventQueue ++ pushedEvents calls)
        (((runBufferCalls c calls).2.flatMap (·.eventQueue)) ++ (runBufferCalls c calls).1.eventQueue) ∧
      droppedTotal (runBufferCalls c calls).2 + (runBufferCalls c calls).1.numDroppedEvents
        = c.numDroppedEvents + droppedCalls calls := by
  obtain ⟨stored, hs, heq⟩ := runBufferCalls_events c calls
  refine ⟨?_, runBufferCalls_dropped c calls⟩
  rw [heq]
  exact List.rel_append (List.forall₂_same.mpr fun e _ => annotationStripped_refl e) hs

end GpuTracer
