import StreamCatalog.Time.Stamp

/-!
# Date formats

A format is text with directives that begin with a percent sign.  Reading it gives
a list of items, or nothing if any directive is unknown: a format is valid as a
whole or not at all.  Writing the items of a valid format succeeds, with one
exception: the directive `%#z` is meant for reading time stamps only, and a format
that holds it is valid but cannot be written.

All output is in universal time, so the offset is zero throughout.
-/

namespace StreamCatalog
namespace Time

open Decimal

/-- How a number is filled up to its width. -/
inductive Padding where
  | bare
  | zeros
  | spaces
  deriving DecidableEq, Repr

/-- The numbers of an instant. -/
inductive Field where
  | year
  | century
  | yearOfCentury
  | weekYear
  | weekYearOfCentury
  | quarter
  | month
  | day
  | ordinal
  | isoWeek
  | weekFromSunday
  | weekFromMonday
  | dayFromSunday
  | dayFromMonday
  | hour
  | hour12
  | minute
  | second
  | nanosecond
  | unixSeconds
  deriving DecidableEq, Repr

/-- A piece of a date format. -/
inductive Item where
  | literal (c : Char)
  | number (field : Field) (padding : Padding)
  | shortMonth
  | longMonth
  | shortWeekday
  | longWeekday
  | halfDay (upper : Bool)
  /-- The part of a second with a point, as short as is exact. -/
  | fraction
  /-- A fixed number of digits of the part of a second. -/
  | digits (count : Nat) (point : Bool)
  | zoneName
  /-- The offset: hours, minutes and seconds as far as wanted. -/
  | offset (colon : Bool) (parts : Nat)
  /-- A whole time stamp with a numeric offset. -/
  | stamp
  /-- A directive that only readers understand. -/
  | readOnly
  deriving DecidableEq, Repr

/-- A number with its usual padding. -/
def zeroFilled (f : Field) : Item := .number f .zeros

/-- What a directive of one letter stands for. -/
def directive : Char → Option (List Item)
  | 'Y' => some [zeroFilled .year]
  | 'C' => some [zeroFilled .century]
  | 'y' => some [zeroFilled .yearOfCentury]
  | 'q' => some [zeroFilled .quarter]
  | 'm' => some [zeroFilled .month]
  | 'b' => some [.shortMonth]
  | 'h' => some [.shortMonth]
  | 'B' => some [.longMonth]
  | 'd' => some [zeroFilled .day]
  | 'e' => some [.number .day .spaces]
  | 'a' => some [.shortWeekday]
  | 'A' => some [.longWeekday]
  | 'w' => some [zeroFilled .dayFromSunday]
  | 'u' => some [zeroFilled .dayFromMonday]
  | 'U' => some [zeroFilled .weekFromSunday]
  | 'W' => some [zeroFilled .weekFromMonday]
  | 'G' => some [zeroFilled .weekYear]
  | 'g' => some [zeroFilled .weekYearOfCentury]
  | 'V' => some [zeroFilled .isoWeek]
  | 'j' => some [zeroFilled .ordinal]
  | 'D' => some monthDayYear
  | 'x' => some monthDayYear
  | 'F' =>
    some [zeroFilled .year, .literal '-', zeroFilled .month, .literal '-', zeroFilled .day]
  | 'v' =>
    some [.number .day .spaces, .literal '-', .shortMonth, .literal '-', zeroFilled .year]
  | 'H' => some [zeroFilled .hour]
  | 'k' => some [.number .hour .spaces]
  | 'I' => some [zeroFilled .hour12]
  | 'l' => some [.number .hour12 .spaces]
  | 'P' => some [.halfDay false]
  | 'p' => some [.halfDay true]
  | 'M' => some [zeroFilled .minute]
  | 'S' => some [zeroFilled .second]
  | 'f' => some [zeroFilled .nanosecond]
  | 'R' => some [zeroFilled .hour, .literal ':', zeroFilled .minute]
  | 'T' => some timeOfDay
  | 'X' => some timeOfDay
  | 'r' =>
    some [zeroFilled .hour12, .literal ':', zeroFilled .minute, .literal ':', zeroFilled .second,
      .literal ' ', .halfDay true]
  | 'Z' => some [.zoneName]
  | 'z' => some [.offset false 2]
  | 'c' =>
    some ([.shortWeekday, .literal ' ', .shortMonth, .literal ' ', .number .day .spaces,
      .literal ' '] ++ timeOfDay ++ [.literal ' ', zeroFilled .year])
  | '+' => some [.stamp]
  | 's' => some [.number .unixSeconds .bare]
  | 't' => some [.literal '\t']
  | 'n' => some [.literal '\n']
  | '%' => some [.literal '%']
  | _ => none
where
  monthDayYear : List Item :=
    [zeroFilled .month, .literal '/', zeroFilled .day, .literal '/', zeroFilled .yearOfCentury]
  timeOfDay : List Item :=
    [zeroFilled .hour, .literal ':', zeroFilled .minute, .literal ':', zeroFilled .second]

/-- A directive with another padding, which only single numbers admit. -/
def repadded (p : Padding) (c : Char) : Option (List Item) :=
  match directive c with
  | some [.number f _] => some [.number f p]
  | _ => none

/-- The directive at the front of what follows a percent sign, and its length. -/
def readDirective : List Char → Option (List Item × Nat)
  | '-' :: c :: _ => (repadded .bare c).map (·, 2)
  | '0' :: c :: _ => (repadded .zeros c).map (·, 2)
  | '_' :: c :: _ => (repadded .spaces c).map (·, 2)
  | '#' :: 'z' :: _ => some ([.readOnly], 2)
  | ':' :: ':' :: ':' :: 'z' :: _ => some ([.offset true 1], 4)
  | ':' :: ':' :: 'z' :: _ => some ([.offset true 3], 3)
  | ':' :: 'z' :: _ => some ([.offset true 2], 2)
  | '.' :: '3' :: 'f' :: _ => some ([.digits 3 true], 3)
  | '.' :: '6' :: 'f' :: _ => some ([.digits 6 true], 3)
  | '.' :: '9' :: 'f' :: _ => some ([.digits 9 true], 3)
  | '.' :: 'f' :: _ => some ([.fraction], 2)
  | '3' :: 'f' :: _ => some ([.digits 3 false], 2)
  | '6' :: 'f' :: _ => some ([.digits 6 false], 2)
  | '9' :: 'f' :: _ => some ([.digits 9 false], 2)
  | c :: _ => (directive c).map (·, 1)
  | [] => none

/-- The items of a date format, if all its directives are known. -/
def formatItems? : List Char → Option (List Item)
  | [] => some []
  | c :: cs =>
    if c = '%' then
      match readDirective cs with
      | none => none
      | some (items, length) => (formatItems? (cs.drop length)).map (items ++ ·)
    else (formatItems? cs).map (.literal c :: ·)
termination_by cs => cs.length
decreasing_by
  all_goals simp only [List.length_cons, List.length_drop]
  all_goals omega

/-- The names of the months. -/
def monthNames : List String :=
  ["January", "February", "March", "April", "May", "June", "July", "August", "September",
    "October", "November", "December"]

/-- The names of the days of the week, from Monday. -/
def weekdayNames : List String :=
  ["Monday", "Tuesday", "Wednesday", "Thursday", "Friday", "Saturday", "Sunday"]

/-- The value of a number of an instant. -/
def Field.value (i : Instant) : Field → Int
  | .year => i.date.year
  | .century => i.date.year / 100
  | .yearOfCentury => i.date.year % 100
  | .weekYear => (Time.isoWeek i.day).1
  | .weekYearOfCentury => (Time.isoWeek i.day).1 % 100
  | .quarter => (i.date.month - 1) / 3 + 1
  | .month => i.date.month
  | .day => i.date.day
  | .ordinal => i.date.ordinal
  | .isoWeek => (Time.isoWeek i.day).2
  | .weekFromSunday => weekFrom 6 i.day
  | .weekFromMonday => weekFrom 0 i.day
  | .dayFromSunday => (weekday i.day + 1) % 7
  | .dayFromMonday => weekday i.day + 1
  | .hour => i.hour
  | .hour12 => (i.hour + 11) % 12 + 1
  | .minute => i.minute
  | .second => i.second
  | .nanosecond => i.nanosecond
  | .unixSeconds => i.seconds

/-- The width of a number. -/
def Field.width : Field → Nat
  | .year | .weekYear => 4
  | .quarter | .dayFromSunday | .dayFromMonday => 1
  | .ordinal => 3
  | .nanosecond | .unixSeconds => 9
  | _ => 2

/-- A signed number filled up to a width.  Zeros come after the sign, spaces before
it. -/
def fill (p : Padding) (width : Nat) (sign : List Char) (n : Nat) : List Char :=
  match p with
  | .bare => sign ++ Decimal.digits n
  | .zeros => sign ++ padded (width - sign.length) n
  | .spaces => padLeft ' ' width (sign ++ Decimal.digits n)

/-- A century, in two places.  Only 256 centuries are told apart, and the tens place
goes on past nine with the characters that follow it. -/
def writeCentury (p : Padding) (v : Int) : List Char :=
  let n := (v % 256).toNat
  let tens : List Char :=
    match n / 10, p with
    | 0, .bare => []
    | 0, .spaces => [' ']
    | t, _ => [Char.ofNat ('0'.toNat + t)]
  tens ++ Decimal.digits (n % 10)

/-- A number of an instant.  A year outside 0 to 9999 always has a sign and one more
place for it. -/
def Field.write (f : Field) (p : Padding) (i : Instant) : List Char :=
  let v := f.value i
  let sign := if v < 0 then ['-'] else []
  if f = .century then writeCentury p v
  else if f = .year ∨ f = .weekYear then
    if 0 ≤ v ∧ v ≤ 9999 then fill p 4 [] v.toNat
    else fill p 5 (if v < 0 then ['-'] else ['+']) v.natAbs
  else fill p f.width sign v.natAbs

/-- A zero offset, hours first. -/
def writeOffset (colon : Bool) (parts : Nat) : List Char :=
  let separator := if colon then [':'] else []
  '+' :: separator.intercalate (List.replicate parts ['0', '0'])

/-- The first digits of a part of a second. -/
def writeDigits (count : Nat) (nanos : Nat) : List Char :=
  padded count (nanos / Nat.pow 10 (9 - count))

/-- The text of an item; `none` for one that only readers understand. -/
def Item.write (i : Instant) : Item → Option (List Char)
  | .literal c => some [c]
  | .number f p => some (f.write p i)
  | .shortMonth => some ((monthNames.getD (i.date.month - 1) "").toList.take 3)
  | .longMonth => some (monthNames.getD (i.date.month - 1) "").toList
  | .shortWeekday => some ((weekdayNames.getD (weekday i.day) "").toList.take 3)
  | .longWeekday => some (weekdayNames.getD (weekday i.day) "").toList
  | .halfDay upper =>
    let name := if i.hour < 12 then "am" else "pm"
    some (if upper then name.toList.map Char.toUpper else name.toList)
  | .fraction => some (writeFraction i.nanosecond)
  | .digits count point =>
    some ((if point then ['.'] else []) ++ writeDigits count i.nanosecond)
  | .zoneName => some ['U', 'T', 'C']
  | .offset colon parts => some (writeOffset colon parts)
  | .stamp =>
    some (writeDate i.date ++ 'T' :: writeTimeOfDay i ++ writeFraction i.nanosecond ++
      writeOffset true 2)
  | .readOnly => none

/-- The text of all items; `none` if one of them cannot be written. -/
def writeItems (i : Instant) (items : List Item) : Option (List Char) :=
  (items.mapM (Item.write i)).map List.flatten

end Time
end StreamCatalog
