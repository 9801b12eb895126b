import StreamCatalog.Segment.Buffer

/-!
# Rollover conditions

A condition decides from the state of the buffer whether a segment is due.  The
thresholds on time, bytes and writes combine with `anyOf` and `allOf`, and a
combination of no conditions is never met, in either form.  Whoever wants something else
gives a test of their own.
-/

namespace StreamCatalog
namespace Segment

open Time (Span)

/-- When a segment is due. -/
inductive Condition where
  /-- The period has lasted long enough. -/
  | elapsed (threshold : Span)
  /-- Enough bytes have come in. -/
  | bytes (threshold : Nat)
  /-- Enough writes have been made. -/
  | writes (threshold : Nat)
  /-- A test of the caller's own is passed. -/
  | test (isPassed : Stats → Bool)
  | anyOf (conditions : List Condition)
  | allOf (conditions : List Condition)
  deriving Inhabited

namespace Condition

/-- A condition that is always met. -/
def always : Condition := .bytes 0

/-- A condition that is never met. -/
def never : Condition := .anyOf []

/-- The largest number of bytes that can be asked for. -/
def mostBytes : Nat := 18446744073709551615

/-- A threshold in units of 1048576 bytes. -/
def megabytes (n : Nat) : Nat := min (n * 1048576) mostBytes

/-- The condition of a configuration: any of the thresholds that are set. -/
def ofThresholds (elapsedSeconds size : Option Nat) : Condition :=
  .anyOf ((elapsedSeconds.map fun n => .elapsed (.ofParts n 0)).toList ++
    (size.map fun n => .bytes (megabytes n)).toList)

mutual

/-- Is a segment due? -/
def isMet (s : Stats) : Condition → Bool
  | .elapsed threshold => threshold.nanoseconds ≤ s.elapsed.nanoseconds
  | .bytes threshold => threshold ≤ s.size
  | .writes threshold => threshold ≤ s.writes
  | .test isPassed => isPassed s
  | .anyOf conditions => isAnyMet s conditions
  | .allOf conditions => !conditions.isEmpty && areAllMet s conditions

/-- Is one of the conditions met? -/
def isAnyMet (s : Stats) : List Condition → Bool
  | [] => false
  | c :: cs => isMet s c || isAnyMet s cs

/-- Are all of the conditions met? -/
def areAllMet (s : Stats) : List Condition → Bool
  | [] => true
  | c :: cs => isMet s c && areAllMet s cs

end

end Condition

end Segment
end StreamCatalog
