import StreamCatalog.Segment.Condition

/-!
# Conditions that stay met

A threshold is met from some point on: as long as a period lasts, its bytes and its writes only
become more, and it only gets older.  Combinations of thresholds are no different, since
neither `anyOf` nor `allOf` can say *no* to what its parts have come to say *yes* to.  The
combination of no conditions is never met, so there is nothing that it could lose.

A test of the caller's own may do as it likes, so what is said here is said of conditions without
one (`Condition.isBuiltIn`), and a configuration has no others (`isBuiltIn_ofThresholds`).
-/

namespace StreamCatalog
namespace Segment

/-- Has a period at least as many bytes and writes as another one had, and is it at least as
old? -/
structure Stats.AtMost (s t : Stats) : Prop where
  size : s.size ≤ t.size
  writes : s.writes ≤ t.writes
  elapsed : s.elapsed.nanoseconds ≤ t.elapsed.nanoseconds

instance (s t : Stats) : Decidable (s.AtMost t) :=
  decidable_of_iff (s.size ≤ t.size ∧ s.writes ≤ t.writes ∧
      s.elapsed.nanoseconds ≤ t.elapsed.nanoseconds)
    ⟨fun h => ⟨h.1, h.2.1, h.2.2⟩, fun h => ⟨h.size, h.writes, h.elapsed⟩⟩

namespace Condition

mutual

/-- Is the condition made of thresholds only? -/
def isBuiltIn : Condition → Bool
  | .elapsed _ => true
  | .bytes _ => true
  | .writes _ => true
  | .test _ => false
  | .anyOf conditions => areBuiltIn conditions
  | .allOf conditions => areBuiltIn conditions

/-- Are all of the conditions made of thresholds only? -/
def areBuiltIn : List Condition → Bool
  | [] => true
  | c :: cs => isBuiltIn c && areBuiltIn cs

end

mutual

/-- **What is met stays met** as long as nothing becomes less. -/
theorem isMet_mono {s t : Stats} (more : s.AtMost t) :
    ∀ c : Condition, c.isBuiltIn = true → c.isMet s = true → c.isMet t = true
  | .elapsed threshold, _, met => by
    rw [isMet, decide_eq_true_eq] at met ⊢
    exact Nat.le_trans met more.elapsed
  | .bytes threshold, _, met => by
    rw [isMet, decide_eq_true_eq] at met ⊢
    exact Nat.le_trans met more.size
  | .writes threshold, _, met => by
    rw [isMet, decide_eq_true_eq] at met ⊢
    exact Nat.le_trans met more.writes
  | .anyOf conditions, builtIn, met => by
    rw [isBuiltIn] at builtIn
    rw [isMet] at met ⊢
    exact isAnyMet_mono more conditions builtIn met
  | .allOf conditions, builtIn, met => by
    rw [isBuiltIn] at builtIn
    rw [isMet, Bool.and_eq_true] at met ⊢
    exact ⟨met.1, areAllMet_mono more conditions builtIn met.2⟩

theorem isAnyMet_mono {s t : Stats} (more : s.AtMost t) :
    ∀ cs : List Condition, areBuiltIn cs = true → isAnyMet s cs = true → isAnyMet t cs = true
  | c :: cs, builtIn, met => by
    rw [areBuiltIn, Bool.and_eq_true] at builtIn
    rw [isAnyMet, Bool.or_eq_true] at met ⊢
    exact met.imp (isMet_mono more c builtIn.1) (isAnyMet_mono more cs builtIn.2)

theorem areAllMet_mono {s t : Stats} (more : s.AtMost t) :
    ∀ cs : List Condition, areBuiltIn cs = true → areAllMet s cs = true → areAllMet t cs = true
  | [], _, _ => by rw [areAllMet]
  | c :: cs, builtIn, met => by
    rw [areBuiltIn, Bool.and_eq_true] at builtIn
    rw [areAllMet, Bool.and_eq_true] at met ⊢
    exact ⟨isMet_mono more c builtIn.1 met.1, areAllMet_mono more cs builtIn.2 met.2⟩

end

theorem areBuiltIn_append (first second : List Condition) :
    areBuiltIn (first ++ second) = (areBuiltIn first && areBuiltIn second) := by
  induction first with
  | nil => rw [List.nil_append, areBuiltIn, Bool.true_and]
  | cons c cs ih => rw [List.cons_append, areBuiltIn, areBuiltIn, ih, Bool.and_assoc]

/-- A configuration has no test of its own. -/
theorem isBuiltIn_ofThresholds (elapsedSeconds size : Option Nat) :
    (ofThresholds elapsedSeconds size).isBuiltIn = true := by
  rw [ofThresholds, isBuiltIn, areBuiltIn_append, Bool.and_eq_true]
  constructor
  · cases elapsedSeconds <;> rfl
  · cases size <;> rfl

end Condition

/-! ## A period that goes on -/

open Time (Instant)

/-- A buffer that takes in data while its period gets older has no less of anything. -/
theorem Buffer.atMost_stats_write (b : Buffer) (data : List (List UInt8)) {first second : Instant}
    (aged : (first.elapsedSince b.start).nanoseconds ≤ (second.elapsedSince b.start).nanoseconds) :
    (b.stats first).AtMost ((data.foldl write b).stats second) := by
  rw [foldl_write]
  refine { size := ?_, writes := Nat.le_add_right _ _, elapsed := aged }
  show b.bytes.length ≤ (b.bytes ++ data.flatten).length
  rw [List.length_append]
  exact Nat.le_add_right _ _

end Segment
end StreamCatalog
