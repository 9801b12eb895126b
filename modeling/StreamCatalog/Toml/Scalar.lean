import StreamCatalog.Decimal.Reader
import StreamCatalog.Text.Hex
import StreamCatalog.Toml.Value

/-!
# Numbers, truth values, dates and times

These values are written without quotes, as one run of letters, digits and a few
marks.  The run as a whole is a truth value, an integer, a float, a date, a time, or
nothing.  Between digits single underscores may stand; whole parts have no needless
zeros in front.

A date and a time of day may be separated by a blank, and then make two runs.
-/

namespace StreamCatalog
namespace Toml

open Decimal (isDigit)

/-- A character of a value without quotes. -/
def isScalar (c : Char) : Bool :=
  c.isAlphanum || c = '+' || c = '-' || c = '_' || c = '.' || c = ':'

/-- Drop the underscores, each of which has to stand between two digits. -/
def ungroup? (digit : Char → Bool) : List Char → Option (List Char)
  | [] => none
  | [c] => if digit c then some [c] else none
  | c :: d :: cs =>
    if !digit c then none
    else if d = '_' then (ungroup? digit cs).map (c :: ·)
    else (ungroup? digit (d :: cs)).map (c :: ·)

/-- The digits of a whole part: one zero, or no zero in front. -/
def wholePart? (cs : List Char) : Option (List Char) :=
  match ungroup? isDigit cs with
  | some ('0' :: _ :: _) => none
  | ds => ds

/-- The range of integers. -/
def inRange (n : Int) : Bool := -9223372036854775808 ≤ n && n ≤ 9223372036854775807

/-- The number that digits of a base denote. -/
def based? (base : Nat) (cs : List Char) : Option Int := do
  let below (c : Char) : Bool := ((Text.hexValue? c).map (decide <| · < base)).getD false
  let ds ← ungroup? below cs
  let n := ds.foldl (fun (n : Nat) c => base * n + (Text.hexValue? c).getD 0) 0
  if inRange n then some n else none

/-- An integer; the bases two, eight and sixteen have no sign. -/
def integer? (cs : List Char) : Option Int :=
  match cs with
  | '0' :: 'x' :: ds => based? 16 ds
  | '0' :: 'o' :: ds => based? 8 ds
  | '0' :: 'b' :: ds => based? 2 ds
  | cs => do
    let (negative, body) := Decimal.splitSign cs
    let ds ← wholePart? body
    let n ← Decimal.value? ds
    let i : Int := if negative then -n else n
    if inRange i then some i else none

/-- The parts of a float: sign, whole part, fraction and exponent. -/
def floatText? (cs : List Char) : Option (List Char) := do
  let isGroup (c : Char) : Bool := isDigit c || c = '_'
  let (sign, body) : List Char × List Char :=
    match cs with
    | '+' :: ds => ([], ds)
    | '-' :: ds => (['-'], ds)
    | ds => ([], ds)
  let whole ← wholePart? (body.takeWhile isGroup)
  let (fraction, tail) ←
    match body.dropWhile isGroup with
    | '.' :: ds =>
      (ungroup? isDigit (ds.takeWhile isGroup)).map fun f => ('.' :: f, ds.dropWhile isGroup)
    | ds => some ([], ds)
  let exponent ←
    match tail with
    | [] => if fraction.isEmpty then none else some []
    | c :: ds =>
      if c = 'e' || c = 'E' then
        let (mark, digits) : List Char × List Char :=
          match ds with
          | '+' :: more => ([], more)
          | '-' :: more => (['-'], more)
          | more => ([], more)
        (ungroup? isDigit digits).map fun e => 'e' :: mark ++ e
      else none
  some (sign ++ whole ++ fraction ++ exponent)

/-- A float.  A number too large to hold is refused if it is positive. -/
def float? (cs : List Char) : Option Float :=
  match cs with
  | ['i', 'n', 'f'] => some (1.0 / 0.0)
  | ['+', 'i', 'n', 'f'] => some (1.0 / 0.0)
  | ['-', 'i', 'n', 'f'] => some (-1.0 / 0.0)
  | ['n', 'a', 'n'] => some (0.0 / 0.0)
  | ['+', 'n', 'a', 'n'] => some (0.0 / 0.0)
  | ['-', 'n', 'a', 'n'] => some (0.0 / 0.0)
  | cs => ((floatText? cs).bind Decimal.read?).filter fun x => x != 1.0 / 0.0

/-- A number of exactly so many digits within bounds, and what follows it. -/
def fixed? (width least most : Nat) (cs : List Char) : Option (Nat × List Char) := do
  let ds := cs.take width
  if ds.length < width then none
  else
    let n ← Decimal.value? ds
    if least ≤ n && n ≤ most then some (n, cs.drop width) else none

/-- A mark that has to come next. -/
def mark? (m : Char) : List Char → Option (List Char)
  | c :: cs => if c = m then some cs else none
  | [] => none

/-- The days of a month. -/
def daysOf (year month : Nat) : Nat :=
  if month = 2 then
    if year % 4 = 0 && (year % 100 ≠ 0 || year % 400 = 0) then 29 else 28
  else if [4, 6, 9, 11].contains month then 30
  else 31

/-- Skip a date. -/
def afterDate? (cs : List Char) : Option (List Char) := do
  let (year, cs) ← fixed? 4 0 9999 cs
  let cs ← mark? '-' cs
  let (month, cs) ← fixed? 2 1 12 cs
  let cs ← mark? '-' cs
  let (_, cs) ← fixed? 2 1 (daysOf year month) cs
  some cs

/-- Skip an hour and a minute. -/
def afterHourAndMinute? (cs : List Char) : Option (List Char) := do
  let (_, cs) ← fixed? 2 0 23 cs
  let cs ← mark? ':' cs
  let (_, cs) ← fixed? 2 0 59 cs
  some cs

/-- Skip a time of day. -/
def afterTime? (cs : List Char) : Option (List Char) := do
  let cs ← afterHourAndMinute? cs
  let cs ← mark? ':' cs
  let (_, cs) ← fixed? 2 0 60 cs
  match cs with
  | '.' :: ds => if (ds.takeWhile isDigit).isEmpty then none else some (ds.dropWhile isDigit)
  | cs => some cs

/-- Is the text an offset from universal time, or nothing? -/
def isOffset (cs : List Char) : Bool :=
  match cs with
  | [] => true
  | ['Z'] => true
  | ['z'] => true
  | c :: ds =>
    (c = '+' || c = '-') &&
      (afterHourAndMinute? ds).any List.isEmpty

/-- Is the text a time of day with an optional offset? -/
def isZonedTime (cs : List Char) : Bool := (afterTime? cs).any isOffset

/-- Is the text a date, a time, or both? -/
def isMoment (cs : List Char) : Bool :=
  match afterDate? cs with
  | some [] => true
  | some (c :: ds) => (c = 'T' || c = 't') && isZonedTime ds
  | none => (afterTime? cs).any List.isEmpty

/-- The value that a run of characters denotes. -/
def scalar? (cs : List Char) : Option Value :=
  if cs = "true".toList then some (.boolean true)
  else if cs = "false".toList then some (.boolean false)
  else if isMoment cs then some .moment
  else
    match integer? cs with
    | some n => some (.integer n)
    | none => (float? cs).map .float

end Toml
end StreamCatalog
