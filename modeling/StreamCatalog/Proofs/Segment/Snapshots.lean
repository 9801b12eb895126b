import Mathlib
import StreamCatalog.Segment.Buffer

/-!
# Snapshots of a buffer

Several snapshots of a buffer can be out at the same time, of its present period and of
earlier ones, and they may come back in any order, any number of times, while data keeps
arriving.  Whatever happens, nothing is lost and nothing is counted twice: `account_of_uses`.

A snapshot is out of date as soon as any snapshot of its period has been accepted, for this
opens the next period.  The others of the period are refused from then on, so the bytes that
they share with the accepted one cannot be dropped again.  Until then all of them are
beginnings of what is in the buffer, because data is only ever appended.
-/

namespace StreamCatalog
namespace Segment

open Time (Instant)

/-- What can be done with a buffer. -/
inductive Use
  | write (data : List UInt8)
  | snapshot (now : Instant)
  /-- Give back a snapshot.  The first one that was taken has the number zero, and no
  number stands for another one later on. -/
  | release (number : Nat) (now : Instant)
  deriving DecidableEq, Repr

/-- The data that is written, if any is. -/
def Use.data? : Use → Option (List UInt8)
  | .write data => some data
  | _ => none

/-- A buffer, with the snapshots that were ever taken of it and those that it accepted when
they were given back, both in the order in which that happened. -/
structure Usage where
  buffer : Buffer
  taken : List Snapshot := []
  accepted : List Snapshot := []
  deriving DecidableEq, Repr

namespace Usage

/-- Give back a snapshot, and tell whether it was accepted. -/
def release (u : Usage) (s : Snapshot) (now : Instant) : Bool × Usage :=
  match u.buffer.release? s now with
  | some buffer => (true, { u with buffer, accepted := u.accepted ++ [s] })
  | none => (false, u)

/-- A number that no snapshot has stands for nothing that could be given back. -/
def step (u : Usage) : Use → Usage
  | .write data => { u with buffer := u.buffer.write data }
  | .snapshot now => { u with taken := u.taken ++ [u.buffer.snapshot now] }
  | .release number now =>
    match u.taken[number]? with
    | some s => (u.release s now).2
    | none => u

/-- A new buffer, used as told. -/
def run (now : Instant) (uses : List Use) : Usage :=
  uses.foldl step { buffer := .empty now }

/-- What becomes of the data written so far. -/
structure Account (u : Usage) (written : List (List UInt8)) : Prop where
  /-- All bytes are in the accepted snapshots and, behind these, in the buffer. -/
  bytes : (u.accepted.map Snapshot.bytes).flatten ++ u.buffer.bytes = written.flatten
  /-- So are all writes, ... -/
  writes : (u.accepted.map Snapshot.writes).sum + u.buffer.writes = written.length
  /-- ... and one snapshot has been accepted of each period that is over. -/
  periods : u.accepted.map Snapshot.period = List.range u.buffer.period
  known : ∀ s ∈ u.accepted, s ∈ u.taken
  /-- The snapshots of the present period are beginnings of what is in the buffer ... -/
  current : ∀ s ∈ u.taken, s.period = u.buffer.period →
    s.bytes <+: u.buffer.bytes ∧ s.writes ≤ u.buffer.writes
  /-- ... and all others are of periods that are over. -/
  past : ∀ s ∈ u.taken, s.period ≤ u.buffer.period

variable {u : Usage} {written : List (List UInt8)}

/-- Giving back a snapshot of the present period takes its bytes and its writes out of the
buffer; any other one changes nothing. -/
theorem cases_of_release (u : Usage) (s : Snapshot) (now : Instant) :
    (s.period = u.buffer.period ∧ u.release s now = (true,
      { u with
        buffer := ⟨u.buffer.bytes.drop s.bytes.length, u.buffer.writes - s.writes,
          u.buffer.period + 1, now⟩
        accepted := u.accepted ++ [s] })) ∨
      (s.period ≠ u.buffer.period ∧ u.release s now = (false, u)) := by
  unfold release Buffer.release?
  by_cases current : s.period = u.buffer.period
  · rw [if_pos current]
    exact Or.inl ⟨current, rfl⟩
  · rw [if_neg current]
    exact Or.inr ⟨current, rfl⟩

namespace Account

theorem write (account : u.Account written) (data : List UInt8) :
    (u.step (.write data)).Account (written ++ [data]) where
  bytes := by
    rw [List.flatten_append, ← account.bytes, List.append_assoc]
    simp [step]
  writes := by
    rw [List.length_append, ← account.writes, Nat.add_assoc]
    rfl
  periods := account.periods
  known := account.known
  current := by
    intro s member same
    obtain ⟨front, fewer⟩ := account.current s member same
    exact ⟨front.trans (List.prefix_append _ _), Nat.le_succ_of_le fewer⟩
  past := account.past

theorem snapshot (account : u.Account written) (now : Instant) :
    (u.step (.snapshot now)).Account written where
  bytes := account.bytes
  writes := account.writes
  periods := account.periods
  known s member := List.mem_append_left _ (account.known s member)
  current := List.forall_mem_append.mpr ⟨account.current, List.forall_mem_singleton.mpr
    fun _ => ⟨List.prefix_rfl, Nat.le_refl _⟩⟩
  past := List.forall_mem_append.mpr
    ⟨account.past, List.forall_mem_singleton.mpr (Nat.le_refl _)⟩

theorem release (account : u.Account written) {s : Snapshot} (taken : s ∈ u.taken)
    (now : Instant) : (u.release s now).2.Account written := by
  rcases u.cases_of_release s now with ⟨same, released⟩ | ⟨-, released⟩
  · rw [released]
    obtain ⟨⟨rest, front⟩, fewer⟩ := account.current s taken same
    refine {
      bytes := ?_
      writes := ?_
      periods := ?_
      known := List.forall_mem_append.mpr ⟨account.known, List.forall_mem_singleton.mpr taken⟩
      current := ?_
      past := fun r member => Nat.le_succ_of_le (account.past r member) }
    · rw [← account.bytes, ← front]
      simp
    · rw [← account.writes]
      simp only [List.map_append, List.map_singleton, List.sum_append, List.sum_singleton]
      omega
    · rw [List.map_append, account.periods, List.map_singleton, same, ← List.range_succ]
    · -- The period has only just begun, so no snapshot has been taken in it.
      intro r member here
      exact absurd (account.past r member) (by simp only at here; omega)
  · rw [released]
    exact account

theorem step (account : u.Account written) (use : Use) :
    (u.step use).Account (written ++ use.data?.toList) := by
  cases use with
  | write data => exact account.write data
  | snapshot now =>
    show (u.step (.snapshot now)).Account (written ++ [])
    rw [List.append_nil]
    exact account.snapshot now
  | release number now =>
    show (u.step (.release number now)).Account (written ++ [])
    rw [List.append_nil, Usage.step]
    cases found : u.taken[number]? with
    | none => exact account
    | some s => exact account.release (List.mem_of_getElem? found) now

theorem foldl_step (account : u.Account written) (uses : List Use) :
    (uses.foldl Usage.step u).Account (written ++ uses.filterMap Use.data?) := by
  induction uses generalizing u written with
  | nil =>
    rw [List.filterMap_nil, List.append_nil]
    exact account
  | cons use uses ih =>
    have rest := ih (account.step use)
    rw [List.append_assoc] at rest
    cases use <;> exact rest

/-- Nothing has been written to a new buffer. -/
theorem start (now : Instant) : Usage.Account { buffer := .empty now } [] where
  bytes := rfl
  writes := rfl
  periods := rfl
  known _ member := absurd member List.not_mem_nil
  current _ member := absurd member List.not_mem_nil
  past _ member := absurd member List.not_mem_nil

end Account

/-- **However a buffer is used, all its data is accounted for.**  A snapshot given back is
accepted exactly if its period is not over; then all its bytes and writes are there to be
dropped.  If it is refused, nothing changes. -/
theorem account_of_uses (now : Instant) (uses : List Use) :
    (run now uses).Account (uses.filterMap Use.data?) ∧
      ∀ s ∈ (run now uses).taken, ∀ later,
        (((run now uses).release s later).1 = true ↔ s.period = (run now uses).buffer.period) ∧
        (((run now uses).release s later).1 = true →
          s.bytes.length ≤ (run now uses).buffer.bytes.length ∧
            s.writes ≤ (run now uses).buffer.writes) ∧
        (((run now uses).release s later).1 = false →
          ((run now uses).release s later).2 = run now uses) := by
  have account : (run now uses).Account (uses.filterMap Use.data?) :=
    (Account.start now).foldl_step uses
  refine ⟨account, ?_⟩
  intro s taken later
  rcases (run now uses).cases_of_release s later with ⟨same, released⟩ | ⟨different, released⟩
  · obtain ⟨front, fewer⟩ := account.current s taken same
    rw [released]
    exact ⟨iff_of_true rfl same, fun _ => ⟨front.length_le, fewer⟩, Bool.noConfusion⟩
  · rw [released]
    exact ⟨iff_of_false Bool.false_ne_true different, Bool.noConfusion, fun _ => rfl⟩

end Usage

end Segment
end StreamCatalog
