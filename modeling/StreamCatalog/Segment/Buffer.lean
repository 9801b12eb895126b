import StreamCatalog.Time.Instant

/-!
# The buffer

Received bytes collect in a buffer until a segment is made of them.  Making a
segment takes time, so it works on a snapshot; what arrives meanwhile is appended
behind, and releasing the snapshot drops exactly the bytes it holds from the front.
Releasing also opens the next period, and a snapshot of an earlier period can no
longer be released.
-/

namespace StreamCatalog
namespace Segment

open Time (Instant Span)

/-- Received bytes that belong to no segment yet.  The two counts have no bound.  Counters of 64
bits agree with them as long as there were fewer than 2^64 writes and periods. -/
structure Buffer where
  bytes : List UInt8
  /-- The number of writes that these bytes came in. -/
  writes : Nat
  /-- The number of the current period, from zero. -/
  period : Nat
  /-- When the current period began. -/
  start : Instant
  deriving DecidableEq, Repr, Inhabited

/-- What a rollover condition can see of a buffer. -/
structure Stats where
  size : Nat
  writes : Nat
  period : Nat
  start : Instant
  elapsed : Span
  deriving DecidableEq, Repr

/-- The content of a buffer at one moment. -/
structure Snapshot where
  bytes : List UInt8
  writes : Nat
  period : Nat
  start : Instant
  /-- When the snapshot was taken. -/
  finish : Instant
  deriving DecidableEq, Repr

namespace Buffer

/-- An empty buffer in its first period. -/
def empty (now : Instant) : Buffer := ⟨[], 0, 0, now⟩

/-- Append bytes.  A write of nothing is still a write. -/
def write (b : Buffer) (data : List UInt8) : Buffer :=
  { b with bytes := b.bytes ++ data, writes := b.writes + 1 }

/-- The state of a buffer, without its bytes. -/
def stats (b : Buffer) (now : Instant) : Stats :=
  ⟨b.bytes.length, b.writes, b.period, b.start, now.elapsedSince b.start⟩

/-- The content of a buffer, which stays in it. -/
def snapshot (b : Buffer) (now : Instant) : Snapshot :=
  ⟨b.bytes, b.writes, b.period, b.start, now⟩

/-- Drop the content of a snapshot and open the next period; nothing for a snapshot
of an earlier period. -/
def release? (b : Buffer) (s : Snapshot) (now : Instant) : Option Buffer :=
  if s.period = b.period then
    some ⟨b.bytes.drop s.bytes.length, b.writes - s.writes, b.period + 1, now⟩
  else none

/-- Writes are appended. -/
@[simp] theorem bytes_write (b : Buffer) (data : List UInt8) :
    (b.write data).bytes = b.bytes ++ data := rfl

/-- A snapshot holds what the buffer holds. -/
@[simp] theorem bytes_snapshot (b : Buffer) (now : Instant) : (b.snapshot now).bytes = b.bytes :=
  rfl

theorem foldl_write (b : Buffer) (data : List (List UInt8)) :
    data.foldl write b =
      { b with bytes := b.bytes ++ data.flatten, writes := b.writes + data.length } := by
  induction data generalizing b with
  | nil => simp
  | cons d data ih => simp [ih, write, Nat.add_assoc, Nat.add_comm 1]

/-- Releasing a snapshot leaves exactly what was written after it was taken. -/
theorem release?_foldl_write (b : Buffer) (data : List (List UInt8)) (taken now : Instant) :
    (data.foldl write b).release? (b.snapshot taken) now =
      some ⟨data.flatten, data.length, b.period + 1, now⟩ := by
  simp [foldl_write, release?, snapshot]

end Buffer

end Segment
end StreamCatalog
