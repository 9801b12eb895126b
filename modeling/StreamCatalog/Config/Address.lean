import StreamCatalog.Decimal.Digits
import StreamCatalog.Text.Hex

/-!
# Socket addresses

An address is a numeric host and a port; names are not looked up.  A host of four
bytes is written with dots.  A host of eight groups of sixteen bits is written in
brackets, in hexadecimal with colons, where two colons stand for a run of zero groups
and the last two groups may be written as four bytes; a numeric scope may follow it.

An address is printed in one form only: the longest run of at least two zero groups,
the first of them if there are several, is left out.
-/

namespace StreamCatalog
namespace Config

/-- The host of a socket address. -/
inductive Host where
  | short (bytes : List Nat)
  | long (groups : List Nat) (scope : Nat)
  deriving DecidableEq, Repr

/-- A host and a port. -/
structure Address where
  host : Host
  port : Nat
  deriving DecidableEq, Repr

namespace Address

/-- The digits at the front of a text, and what follows them. -/
def spanDigits (value? : Char → Option Nat) (cs : List Char) : List Char × List Char :=
  cs.span fun c => (value? c).isSome

/-- A decimal number up to a bound. -/
def number (most : Nat) (cs : List Char) : Option (Nat × List Char) :=
  let (ds, rest) := spanDigits Decimal.digitValue? cs
  match Decimal.value? ds with
  | some n => if n ≤ most then some (n, rest) else none
  | none => none

/-- A character that has to come next. -/
def expect (m : Char) : List Char → Option (List Char)
  | c :: cs => if c = m then some cs else none
  | [] => none

/-- A byte in decimal: at most three digits, and no needless zero in front. -/
def byte (cs : List Char) : Option (Nat × List Char) :=
  match spanDigits Decimal.digitValue? cs with
  | ('0' :: _ :: _, _) => none
  | (ds, _) => if ds.length ≤ 3 then number 255 cs else none

/-- Four bytes with dots between. -/
def fourBytes (cs : List Char) : Option (List Nat × List Char) := do
  let (a, cs) ← byte cs
  let cs ← expect '.' cs
  let (b, cs) ← byte cs
  let cs ← expect '.' cs
  let (c, cs) ← byte cs
  let cs ← expect '.' cs
  let (d, cs) ← byte cs
  some ([a, b, c, d], cs)

/-- A group of at most four hexadecimal digits. -/
def group (cs : List Char) : Option (Nat × List Char) :=
  let (ds, rest) := spanDigits Text.hexValue? cs
  if ds.isEmpty || ds.length > 4 then none
  else (Text.readHex? ds).map fun n => (n, rest)

/-- Up to so many groups with colons between, the last two perhaps as four bytes.
Also tells whether they were. -/
def groups (first : Bool) : Nat → List Char → List Nat × Bool × List Char
  | 0, cs => ([], false, cs)
  | room + 1, cs =>
    match if first then some cs else expect ':' cs with
    | none => ([], false, cs)
    | some ds =>
      match if room = 0 then none else fourBytes ds with
      | some ([a, b, c, d], rest) => ([256 * a + b, 256 * c + d], true, rest)
      | _ =>
        match group ds with
        | none => ([], false, cs)
        | some (g, rest) =>
          let (gs, bytes, rest) := groups false room rest
          (g :: gs, bytes, rest)

/-- Eight groups, of which two colons may leave out some. -/
def eightGroups (cs : List Char) : Option (List Nat × List Char) :=
  let (front, bytes, rest) := groups true 8 cs
  if front.length = 8 then some (front, rest)
  else if bytes then none
  else
    match rest with
    | ':' :: ':' :: rest =>
      let (back, _, rest) := groups true (7 - front.length) rest
      some (front ++ List.replicate (8 - front.length - back.length) 0 ++ back, rest)
    | _ => none

/-- The port after a host, which ends the address. -/
def readPort (host : Host) (cs : List Char) : Option Address :=
  match (expect ':' cs).bind (number 65535) with
  | some (port, []) => some ⟨host, port⟩
  | _ => none

/-- The scope of a host; zero if none is given. -/
def scope (cs : List Char) : Nat × List Char :=
  ((expect '%' cs).bind (number 4294967295)).getD (0, cs)

/-- The address that a text denotes. -/
def read? (cs : List Char) : Option Address :=
  match fourBytes cs with
  | some (bytes, rest) => readPort (.short bytes) rest
  | none => do
    let cs ← expect '[' cs
    let (gs, cs) ← eightGroups cs
    let (zone, cs) := scope cs
    let cs ← expect ']' cs
    readPort (.long gs zone) cs

/-- Four bytes with dots. -/
def writeBytes (bytes : List Nat) : List Char := ['.'].intercalate (bytes.map Decimal.digits)

/-- Groups with colons. -/
def writeGroups (gs : List Nat) : List Char := [':'].intercalate (gs.map Text.hexDigits)

/-- The number of zero groups at the front. -/
def leadingZeros (gs : List Nat) : Nat := (gs.takeWhile (· = 0)).length

/-- Where the longest run of zero groups begins and how long it is; the first of
several. -/
def longestZeros : Nat → List Nat → Nat × Nat
  | _, [] => (0, 0)
  | start, g :: gs =>
    let here := leadingZeros (g :: gs)
    let later := longestZeros (start + 1) gs
    if later.2 ≤ here then (start, here) else later

/-- Eight groups in the one form in which they are printed. -/
def writeHost (gs : List Nat) : List Char :=
  match gs with
  | [0, 0, 0, 0, 0, 0xffff, a, b] =>
    "::ffff:".toList ++ writeBytes [a / 256, a % 256, b / 256, b % 256]
  | gs =>
    let (start, count) := longestZeros 0 gs
    if count > 1 then
      writeGroups (gs.take start) ++ [':', ':'] ++ writeGroups (gs.drop (start + count))
    else writeGroups gs

/-- The text of an address. -/
def text (a : Address) : String :=
  let host : List Char :=
    match a.host with
    | .short bytes => writeBytes bytes
    | .long gs zone =>
      let zone := if zone = 0 then [] else '%' :: Decimal.digits zone
      '[' :: writeHost gs ++ zone ++ [']']
  String.ofList (host ++ ':' :: Decimal.digits a.port)

end Address
end Config
end StreamCatalog
