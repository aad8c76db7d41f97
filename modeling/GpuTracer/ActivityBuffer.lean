import Mathlib.Data.List.Basic

/-! The activity-buffer pool. `CuptiActivityBufferManager` is declared and implemented outside
the sources; the tracer only calls it, so the manager follows the spec: a pool of fixed-size
buffers lent to the vendor library, a cache of filled buffers, and reclamation into the pool. -/
namespace GpuTracer

/-- A buffer address; the manager that allocated it is part of its identity. -/
structure ActivityBuffer where
  manager : Nat
  index : Nat
  deriving DecidableEq, Repr

/-- Modelled from the spec: `CuptiActivityBufferManager`, a pool of lent buffers and a cache. -/
structure CuptiActivityBufferManager where
  id : Nat
  bufferSizeInBytes : Nat
  pool : List ActivityBuffer := []
  allocated : Nat := 0
  cached : List (ActivityBuffer × Nat) := []
  deriving DecidableEq, Repr

namespace CuptiActivityBufferManager

/-- Modelled from the spec: `GetOrCreateBuffer` reuses a pooled buffer, or allocates one. -/
def getOrCreateBuffer (m : CuptiActivityBufferManager) : ActivityBuffer × CuptiActivityBufferManager :=
  match m.pool with
  | b :: rest => (b, { m with pool := rest })
  | [] => (⟨m.id, m.allocated⟩, { m with allocated := m.allocated + 1 })

/-- Modelled from the spec: `CacheCuptiFilledActivityBuffer` keeps a filled buffer and its size. -/
def cacheCuptiFilledActivityBuffer (m : CuptiActivityBufferManager) (b : ActivityBuffer)
    (size : Nat) : CuptiActivityBufferManager :=
  { m with cached := m.cached ++ [(b, size)] }

/-- Modelled from the spec: `PopCachedBuffers` hands over every cached buffer and empties the cache. -/
def popCachedBuffers (m : CuptiActivityBufferManager) :
    List (ActivityBuffer × Nat) × CuptiActivityBufferManager :=
  (m.cached, { m with cached := [] })

/-- Modelled from the spec: `ReclaimBuffer` returns a buffer to the pool for reuse. -/
def reclaimBuffer (m : CuptiActivityBufferManager) (b : ActivityBuffer) : CuptiActivityBufferManager :=
  { m with pool := b :: m.pool }

@[simp] theorem getOrCreateBuffer_id (m : CuptiActivityBufferManager) :
    (m.getOrCreateBuffer).2.id = m.id := by
  unfold getOrCreateBuffer; split <;> rfl

@[simp] theorem getOrCreateBuffer_cached (m : CuptiActivityBufferManager) :
    (m.getOrCreateBuffer).2.cached = m.cached := by
  unfold getOrCreateBuffer; split <;> rfl

@[simp] theorem cacheCuptiFilledActivityBuffer_id (m : CuptiActivityBufferManager)
    (b : ActivityBuffer) (size : Nat) : (m.cacheCuptiFilledActivityBuffer b size).id = m.id := rfl

@[simp] theorem popCachedBuffers_id (m : CuptiActivityBufferManager) :
    (m.popCachedBuffers).2.id = m.id := rfl

@[simp] theorem reclaimBuffer_id (m : CuptiActivityBufferManager) (b : ActivityBuffer) :
    (m.reclaimBuffer b).id = m.id := rfl

end CuptiActivityBufferManager

end GpuTracer
