import StreamCatalog.Decimal.Digits
import StreamCatalog.Text.Blank
import StreamCatalog.Time.Instant

/-!
# Time stamps

An instant is written as date, `T`, time of day and `Z`, with as many digits after
the second as are needed out of none, three, six and nine.  Years outside 0 to 9999
carry a sign.

Reading is more generous: fields may have fewer digits, blanks may stand between
date and time, around separators and in front of numbers, and any offset from
universal time within a day is accepted.
-/

namespace StreamCatalog
namespace Time

open Decimal

/-- A year: four digits at least, with a sign outside 0 to 9999. -/
def writeYear (y : Int) : List Char :=
  if 0 ≤ y ∧ y ≤ 9999 then padded 4 y.toNat
  else (if y < 0 then '-' else '+') :: padded 4 y.natAbs

/-- The part of a second, in the fewest groups of three digits that are exact. -/
def writeFraction (nanos : Nat) : List Char :=
  if nanos = 0 then []
  else if nanos % 1000000 = 0 then '.' :: padded 3 (nanos / 1000000)
  else if nanos % 1000 = 0 then '.' :: padded 6 (nanos / 1000)
  else '.' :: padded 9 nanos

/-- A date with hyphens. -/
def writeDate (d : Date) : List Char :=
  writeYear d.year ++ '-' :: padded 2 d.month ++ '-' :: padded 2 d.day

/-- A time of day with colons. -/
def writeTimeOfDay (i : Instant) : List Char :=
  padded 2 i.hour ++ ':' :: padded 2 i.minute ++ ':' :: padded 2 i.second

/-- The characters of a time stamp. -/
def Instant.writeStamp (i : Instant) : List Char :=
  writeDate i.date ++ 'T' :: writeTimeOfDay i ++ writeFraction i.nanosecond ++ ['Z']

/-- An instant as a time stamp. -/
def Instant.stamp (i : Instant) : String := String.ofList i.writeStamp

/-- Up to `most` digits at the front, at least one, and what follows. -/
def readDigits (most : Nat) (cs : List Char) : Option (Nat × List Char) :=
  let ds := (cs.take most).takeWhile isDigit
  (value? ds).map fun n => (n, cs.drop ds.length)

/-- A field of one or two digits, blanks before it ignored. -/
def readField (cs : List Char) : Option (Nat × List Char) := readDigits 2 (Text.trimLeft cs)

/-- A year: any number of digits after a sign, otherwise up to four. -/
def readYear (cs : List Char) : Option (Int × List Char) :=
  match Text.trimLeft cs with
  | '-' :: rest => (readDigits rest.length rest).map fun (n, more) => (-(n : Int), more)
  | '+' :: rest => (readDigits rest.length rest).map fun (n, more) => ((n : Int), more)
  | rest => (readDigits 4 rest).map fun (n, more) => ((n : Int), more)

/-- A separator, blanks before it ignored. -/
def readMark (mark : Char) (cs : List Char) : Option (List Char) :=
  match Text.trimLeft cs with
  | c :: rest => if c = mark then some rest else none
  | [] => none

/-- The part of a second after a point, in nanoseconds; digits beyond the ninth are
dropped. -/
def readFraction (cs : List Char) : Option (Nat × List Char) :=
  match cs with
  | '.' :: rest =>
    (readDigits 9 rest).map fun (n, _) =>
      let ds := rest.takeWhile isDigit
      (n * Nat.pow 10 (9 - min 9 ds.length), rest.drop ds.length)
  | cs => some (0, cs)

/-- Exactly two digits at the front. -/
def readTwoDigits : List Char → Option (Nat × List Char)
  | a :: b :: rest => (value? [a, b]).map fun n => (n, rest)
  | _ => none

/-- The seconds that local time is ahead of universal time. -/
def readOffset (cs : List Char) : Option (Int × List Char) :=
  let signed (sign : Int) (rest : List Char) : Option (Int × List Char) := do
    let (hours, rest) ← readTwoDigits rest
    let (minutes, rest) ← readTwoDigits (rest.dropWhile fun c => c = ':' || Text.isBlank c)
    if 60 ≤ minutes then none else some (sign * (hours * 3600 + minutes * 60 : Nat), rest)
  match cs with
  | 'Z' :: rest => some (0, rest)
  | 'z' :: rest => some (0, rest)
  | '+' :: rest => signed 1 rest
  | '-' :: rest => signed (-1) rest
  | '\u2212' :: rest => signed (-1) rest
  | a :: b :: c :: rest =>
    if [a, b, c].map Char.toUpper = ['U', 'T', 'C'] then some (0, rest) else none
  | _ => none

/-- The instant of a local date and time of day.  The second sixty is a leap second. -/
def instantOf? (d : Date) (hour minute second nanos : Nat) (offset : Int) : Option Instant :=
  if d.isValid && hour < 24 && minute < 60 && second ≤ 60 && offset.natAbs < 86400 then
    let (second, nanos) := if second = 60 then (59, nanos + 1000000000) else (second, nanos)
    let locally := d.dayNumber * 86400 + (hour * 3600 + minute * 60 + second : Nat)
    if earliest ≤ locally ∧ locally ≤ latest then Instant.of? (locally - offset) nanos else none
  else none

/-- The instant that a time stamp denotes. -/
def Instant.readStamp? (cs : List Char) : Option Instant := do
  let (year, cs) ← readYear cs
  let cs ← readMark '-' cs
  let (month, cs) ← readField cs
  let cs ← readMark '-' cs
  let (day, cs) ← readField cs
  let cs ←
    match cs with
    | 'T' :: rest => some rest
    | 't' :: rest => some rest
    | ' ' :: rest => some rest
    | _ => none
  let (hour, cs) ← readField cs
  let cs ← readMark ':' cs
  let (minute, cs) ← readField cs
  let cs ← readMark ':' cs
  let (second, cs) ← readField cs
  let (nanos, cs) ← readFraction cs
  let (offset, cs) ← readOffset (Text.trimLeft cs)
  if cs.all Text.isBlank then instantOf? ⟨year, month, day⟩ hour minute second nanos offset
  else none

/-- The instant that a text denotes. -/
def Instant.ofStamp? (s : String) : Option Instant := Instant.readStamp? s.toList

end Time
end StreamCatalog
