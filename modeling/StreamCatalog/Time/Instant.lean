import StreamCatalog.Time.Calendar

/-!
# Instants

An instant is a number of seconds since the start of 1970 and a part of a second in
nanoseconds.  A leap second has no number of its own: it is held as the second
before it with a thousand million nanoseconds and more.  Leap seconds end a minute, and
the type holds them behind the last second of a minute only.  Where the nanoseconds of a
time can be set by hand, any second can be given so many; no clock and no text gives such
a time, its stamp is that of the second after it, and the type leaves it out.  The range
of years belongs to the type as well.

Instants are ordered by seconds and then by nanoseconds.  The length of time between
two instants counts a leap second of the earlier one's minute; it is not always in
step with the order, which is why elapsed time is a length and not a comparison.
-/

namespace StreamCatalog
namespace Time

/-- A length of time, in nanoseconds. -/
structure Span where
  nanoseconds : Nat
  deriving DecidableEq, Repr, Inhabited

/-- A length of time from whole seconds and nanoseconds. -/
def Span.ofParts (seconds nanoseconds : Nat) : Span := ⟨seconds * 1000000000 + nanoseconds⟩

/-- The whole seconds. -/
def Span.seconds (s : Span) : Nat := s.nanoseconds / 1000000000

/-- What the whole seconds leave. -/
def Span.subsecond (s : Span) : Nat := s.nanoseconds % 1000000000

/-- The first second that can be held: the start of the year -262143. -/
def earliest : Int := -8334601228800

/-- The last second that can be held: the end of the year 262142. -/
def latest : Int := 8210266876799

/-- A point in time. -/
structure Instant where
  /-- Seconds since the start of 1970. -/
  seconds : Int
  /-- The part of the second, from a thousand million on inside a leap second. -/
  nanos : Nat
  inRange : earliest ≤ seconds ∧ seconds ≤ latest
  leapAtMinuteEnd : nanos < 1000000000 ∨ nanos < 2000000000 ∧ seconds % 60 = 59
  deriving DecidableEq, Repr

namespace Instant

/-- The instant with these parts, if there is one. -/
def of? (seconds : Int) (nanos : Nat) : Option Instant :=
  if r : earliest ≤ seconds ∧ seconds ≤ latest then
    if l : nanos < 1000000000 ∨ nanos < 2000000000 ∧ seconds % 60 = 59 then
      some ⟨seconds, nanos, r, l⟩
    else none
  else none

@[simp] theorem of?_self (i : Instant) : of? i.seconds i.nanos = some i := by
  simp [of?, i.inRange, i.leapAtMinuteEnd]

/-- The start of 1970. -/
def epoch : Instant := ⟨0, 0, by decide, by decide⟩

instance : Inhabited Instant := ⟨epoch⟩

/-- The order of instants: by seconds, then by the part of the second. -/
instance : LE Instant where
  le a b := a.seconds < b.seconds ∨ a.seconds = b.seconds ∧ a.nanos ≤ b.nanos

instance (a b : Instant) : Decidable (a ≤ b) :=
  inferInstanceAs (Decidable (a.seconds < b.seconds ∨ a.seconds = b.seconds ∧ a.nanos ≤ b.nanos))

theorem le_iff {a b : Instant} :
    a ≤ b ↔ a.seconds < b.seconds ∨ a.seconds = b.seconds ∧ a.nanos ≤ b.nanos := Iff.rfl

theorem le_refl (a : Instant) : a ≤ a := Or.inr ⟨rfl, Nat.le_refl _⟩

theorem le_trans {a b c : Instant} (h : a ≤ b) (k : b ≤ c) : a ≤ c := by
  rw [le_iff] at h k ⊢
  omega

theorem le_total (a b : Instant) : a ≤ b ∨ b ≤ a := by
  rw [le_iff, le_iff]
  omega

theorem le_antisymm {a b : Instant} (h : a ≤ b) (k : b ≤ a) : a = b := by
  rw [le_iff] at h k
  have seconds : a.seconds = b.seconds := by omega
  have nanos : a.nanos = b.nanos := by omega
  cases a
  cases b
  simp_all

/-- Is the instant inside a leap second? -/
def inLeapSecond (i : Instant) : Bool := 1000000000 ≤ i.nanos

/-- The day number. -/
def day (i : Instant) : Int := i.seconds / 86400

/-- The second of the day, without leap seconds. -/
def secondOfDay (i : Instant) : Nat := (i.seconds % 86400).toNat

/-- The date. -/
def date (i : Instant) : Date := .ofDayNumber i.day

/-- The hour of the day. -/
def hour (i : Instant) : Nat := i.secondOfDay / 3600

/-- The minute of the hour. -/
def minute (i : Instant) : Nat := i.secondOfDay / 60 % 60

/-- The second of the minute, sixty inside a leap second. -/
def second (i : Instant) : Nat := i.secondOfDay % 60 + (if i.inLeapSecond then 1 else 0)

/-- The nanosecond of the second. -/
def nanosecond (i : Instant) : Nat := i.nanos % 1000000000

/-- The signed time from an instant to another one, in nanoseconds.  The times of
day decide whether a leap second lies between. -/
def since (later start : Instant) : Int :=
  let leap : Int :=
    if start.secondOfDay < later.secondOfDay then (if start.inLeapSecond then 1 else 0)
    else if later.secondOfDay < start.secondOfDay then (if later.inLeapSecond then -1 else 0)
    else 0
  (later.seconds - start.seconds + leap) * 1000000000 + (later.nanos - start.nanos)

/-- The time that has passed since an instant; none if it has not come yet. -/
def elapsedSince (now start : Instant) : Span := ⟨(now.since start).toNat⟩

/-- The instant a length of time later.  Inside a leap second a short step may stay
in it; any other step first leaves it.  A step beyond the range changes nothing. -/
def advance (i : Instant) (s : Span) : Instant :=
  let staysInLeapSecond := i.inLeapSecond && s.seconds = 0 && i.nanos + s.subsecond < 2000000000
  if staysInLeapSecond then (of? i.seconds (i.nanos + s.subsecond)).getD i
  else
    let total := i.nanosecond + s.subsecond
    (of? (i.seconds + s.seconds + total / 1000000000) (total % 1000000000)).getD i

end Instant
end Time
end StreamCatalog
