import StreamCatalog.Error
import StreamCatalog.Geometry.Basic
import StreamCatalog.Text.Blank
import StreamCatalog.Text.Quoted
import StreamCatalog.Wkt.Token

/-!
# Reading geometry text

A geometry is a keyword, an optional dimension and a body in parentheses.  Only
the first two coordinates of a point are kept.

## How faults are ordered

A body that cannot be read does not end the reading at once.  The parenthesis
that should close it is looked for first, and only if it is there is the body's
own fault reported; otherwise the missing parenthesis is.  Since this happens at
every level, a fault deep inside shows only if the tokens after it happen to
close all levels around it.  A `Reading` therefore carries the tokens left over
also when it carries a fault.

## Termination

No step ever puts tokens back, so `Reading` carries the fact that the rest is not
longer than what was read; a list goes on only past a comma and a collection only
past a keyword, which makes both shorter.
-/

namespace StreamCatalog
namespace Wkt

/-- Why a text is no geometry. -/
inductive Fault where
  | badNumber
  | notAGeometry
  | nonAsciiWord
  | unknownKeyword
  | endOfText
  | wordBeforeParenthesis
  | missingOpening
  | missingClosing
  | missingMember
  | missingCoordinate (axis : Char)
  deriving DecidableEq, Repr

/-- The reason given for a fault. -/
def Fault.reason : Fault → String
  | .badNumber => "Unable to parse input number as the desired output type"
  | .notAGeometry => "Invalid WKT format"
  | .nonAsciiWord => "Encountered non-ascii word"
  | .unknownKeyword => "Invalid type encountered"
  | .endOfText => "End of stream"
  | .wordBeforeParenthesis => "Unexpected word before open paren"
  | .missingOpening => "Missing open parenthesis for type"
  | .missingClosing => "Missing closing parenthesis for type"
  | .missingMember => "Expected a word in GEOMETRYCOLLECTION"
  | .missingCoordinate axis =>
    "Expected a number for the " ++ String.ofList [axis] ++ " coordinate"

/-- Which coordinates a point has beyond the first two. -/
inductive Dimension where
  | xy
  | xyz
  | xym
  | xyzm
  deriving DecidableEq, Repr

/-- The axes beyond the first two, in the order of their numbers. -/
def Dimension.extraAxes : Dimension → List Char
  | .xy => []
  | .xyz => ['Z']
  | .xym => ['M']
  | .xyzm => ['Z', 'M']

/-- The kinds of geometry that have a keyword. -/
inductive Shape where
  | point
  | lineString
  | polygon
  | multiPoint
  | multiLineString
  | multiPolygon
  | collection
  deriving DecidableEq, Repr

/-- The keyword of a shape. -/
def Shape.keyword : Shape → List Char
  | .point => "POINT".toList
  | .lineString => "LINESTRING".toList
  | .polygon => "POLYGON".toList
  | .multiPoint => "MULTIPOINT".toList
  | .multiLineString => "MULTILINESTRING".toList
  | .multiPolygon => "MULTIPOLYGON".toList
  | .collection => "GEOMETRYCOLLECTION".toList

/-- The dimension that a word of its own, or a suffix of a keyword, names. -/
def Dimension.named? (w : List Char) : Option Dimension :=
  match w.map Char.toUpper with
  | ['Z'] => some .xyz
  | ['M'] => some .xym
  | ['Z', 'M'] => some .xyzm
  | _ => none

/-- Is the word `EMPTY`, in any case? -/
def isEmptyWord (w : List Char) : Bool := w.map Char.toUpper = ['E', 'M', 'P', 'T', 'Y']

/-- The shape and the dimension that a keyword names.  Without a suffix the
dimension is open. -/
def keyword? (w : List Char) : Option (Shape × Option Dimension) :=
  let u := w.map Char.toUpper
  if u = "LINEARRING".toList then some (.lineString, none)
  else
    [Shape.point, .lineString, .polygon, .multiPoint, .multiLineString, .multiPolygon,
      .collection].findSome? fun s =>
        if s.keyword.isPrefixOf u then
          match u.drop s.keyword.length with
          | [] => some (s, none)
          | suffix => (Dimension.named? suffix).map fun d => (s, some d)
        else none

/-- What reading from some tokens gives: a value or a fault, and the tokens left
over. -/
structure Reading (α : Type) (ts : List Token) where
  value : Except Fault α
  rest : List Token
  notLonger : rest.length ≤ ts.length

namespace Reading

variable {α β : Type} {ts : List Token}

/-- Read on from the tokens left over, unless there is a fault. -/
def andThen (r : Reading α ts) (next : α → (us : List Token) → Reading β us) : Reading β ts :=
  match r.value with
  | .ok a =>
    let s := next a r.rest
    ⟨s.value, s.rest, Nat.le_trans s.notLonger r.notLonger⟩
  | .error e => ⟨.error e, r.rest, r.notLonger⟩

/-- Change the value. -/
def map (f : α → β) (r : Reading α ts) : Reading β ts := ⟨r.value.map f, r.rest, r.notLonger⟩

/-- The same reading seen from one token earlier. -/
def past {us : List Token} (r : Reading α us) (h : us.length ≤ ts.length) : Reading α ts :=
  ⟨r.value, r.rest, Nat.le_trans r.notLonger h⟩

/-- Read nothing. -/
def done (a : α) (ts : List Token) : Reading α ts := ⟨.ok a, ts, Nat.le_refl _⟩

end Reading

/-- A fault after taking one token, if there is one. -/
def failPast {α : Type} (e : Fault) (ts : List Token) : Reading α ts :=
  ⟨.error e, ts.tail, by simp⟩

/-- One number; `missing` is the fault if the next token is none. -/
def number (missing : Fault) : (ts : List Token) → Reading Float ts
  | .number x :: us => ⟨.ok x, us, by simp⟩
  | .badNumber :: us => ⟨.error .badNumber, us, by simp⟩
  | ts => failPast missing ts

/-- Skip one number for each axis. -/
def skipAxes : List Char → (ts : List Token) → Reading Unit ts
  | [], ts => .done () ts
  | axis :: axes, ts =>
    (number (.missingCoordinate axis) ts).andThen fun _ us => skipAxes axes us

/-- The coordinates of one point. -/
def point (d : Dimension) (ts : List Token) : Reading Point ts :=
  (number (.missingCoordinate 'X') ts).andThen fun x us =>
    (number (.missingCoordinate 'Y') us).andThen fun y vs =>
      (skipAxes d.extraAxes vs).map fun _ => ⟨x, y⟩

/-- The parenthesis after a body, whose own outcome counts only if the parenthesis
is there. -/
def closing {α : Type} (outcome : Except Fault α) : (ts : List Token) → Reading α ts
  | .closing :: us => ⟨outcome, us, by simp⟩
  | .badNumber :: us => ⟨.error .badNumber, us, by simp⟩
  | ts => failPast .missingClosing ts

/-- `EMPTY`, or a body in parentheses. -/
def parens {α : Type} (empty : α) (ts : List Token)
    (body : (us : List Token) → us.length < ts.length → Reading α us) : Reading α ts :=
  match ts, body with
  | .opening :: us, body =>
    let r := body us (by simp)
    (closing r.value r.rest).past (by have := r.notLonger; simp; omega)
  | .word w :: us, _ =>
    if isEmptyWord w then ⟨.ok empty, us, by simp⟩ else failPast .missingOpening (.word w :: us)
  | .badNumber :: us, _ => ⟨.error .badNumber, us, by simp⟩
  | ts, _ => failPast .missingOpening ts

/-- What follows a comma, if a comma comes first. -/
def afterComma : (ts : List Token) → Option { us : List Token // us.length < ts.length }
  | .comma :: us => some ⟨us, by simp⟩
  | _ => none

/-- One or more items between commas.  The first fault ends the list. -/
def commaList {α : Type} (bound : Nat) (item : (us : List Token) → us.length ≤ bound → Reading α us)
    (ts : List Token) (inBound : ts.length ≤ bound) : Reading (List α) ts :=
  match item ts inBound with
  | ⟨.error e, us, h⟩ => ⟨.error e, us, h⟩
  | ⟨.ok a, us, h⟩ =>
    match afterComma us with
    | none => ⟨.ok [a], us, h⟩
    | some ⟨vs, shorter⟩ =>
      let more := commaList bound item vs (by omega)
      ⟨more.value.map (a :: ·), more.rest, by have := more.notLonger; omega⟩
termination_by ts.length

/-- Items between commas that need nothing but their tokens. -/
def listOf {α : Type} (item : (us : List Token) → Reading α us) (ts : List Token) :
    Reading (List α) ts :=
  commaList ts.length (fun us _ => item us) ts (Nat.le_refl _)

/-- A list of points in parentheses. -/
def points (d : Dimension) (ts : List Token) : Reading (List Point) ts :=
  parens [] ts fun us _ => listOf (point d) us

/-- A list of rings or lines in parentheses. -/
def pointLists (d : Dimension) (ts : List Token) : Reading (List (List Point)) ts :=
  parens [] ts fun us _ => listOf (points d) us

/-- The polygon with these rings, the first of them the outer one. -/
def polygonOfRings : List (List Point) → Polygon
  | [] => ⟨[], []⟩
  | exterior :: interiors => .closing exterior interiors

/-- A point of several: with parentheses of its own or without. -/
def memberPoint (d : Dimension) (ts : List Token) : Reading (Option Point) ts :=
  match ts with
  | .opening :: us =>
    parens none (.opening :: us) fun us _ => (point d us).map some
  | ts => (point d ts).map some

/-- A dimension that the keyword leaves open is settled by the next token, which
is taken if it names one. -/
def dimension (stated : Option Dimension) (ts : List Token) : Reading Dimension ts :=
  match stated, ts with
  | some d, ts => .done d ts
  | none, [] => ⟨.error .endOfText, [], by simp⟩
  | none, .halt :: us => ⟨.error .endOfText, .halt :: us, by simp⟩
  | none, .badNumber :: us => ⟨.error .endOfText, .badNumber :: us, by simp⟩
  | none, .word w :: us =>
    match Dimension.named? w with
    | some d => ⟨.ok d, us, by simp⟩
    | none =>
      if isEmptyWord w then .done .xy (.word w :: us)
      else ⟨.error .wordBeforeParenthesis, .word w :: us, by simp⟩
  | none, ts => .done .xy ts

mutual

/-- The body of a geometry whose keyword has been read. -/
def body (s : Shape) (d : Dimension) (ts : List Token) : Reading Geometry ts :=
  match s with
  | .point =>
    (parens none ts fun us _ => (point d us).map some).map fun p =>
      match p with
      | some p => .point p
      | none => .multiPoint []
  | .lineString => (points d ts).map .lineString
  | .polygon => (pointLists d ts).map fun rings => .polygon (polygonOfRings rings)
  | .multiPoint =>
    (parens [] ts fun us _ => listOf (memberPoint d) us).map fun ps => .multiPoint (ps.filterMap id)
  | .multiLineString => (pointLists d ts).map .multiLineString
  | .multiPolygon =>
    (parens [] ts fun us _ => listOf (pointLists d) us).map fun ps =>
      .multiPolygon (ps.map polygonOfRings)
  | .collection =>
    (parens [] ts fun us _ =>
      commaList us.length (fun vs _ => member vs) us (Nat.le_refl _)).map .collection
termination_by ts.length

/-- A member of a collection: a keyword of its own, then its body. -/
def member (ts : List Token) : Reading Geometry ts :=
  match ts with
  | .word w :: us =>
    match keyword? w with
    | none => ⟨.error .unknownKeyword, us, by simp⟩
    | some (s, stated) =>
      match dimension stated us with
      | ⟨.error e, vs, h⟩ => ⟨.error e, vs, by simp; omega⟩
      | ⟨.ok d, vs, h⟩ => (body s d vs).past (by simp; omega)
  | .badNumber :: us => ⟨.error .badNumber, us, by simp⟩
  | ts => failPast .missingMember ts
termination_by ts.length

end

/-- The geometry that a list of tokens starts with; tokens after it are not
looked at. -/
def ofTokens (ts : List Token) : Except Fault Geometry :=
  match ts with
  | .word w :: _ => if w.all (·.toNat < 128) then (member ts).value else .error .nonAsciiWord
  | .badNumber :: _ => .error .badNumber
  | _ => .error .notAGeometry

/-- The geometry that a text denotes, blanks around it ignored. -/
def read (cs : List Char) : Except Fault Geometry := ofTokens (tokens (Text.trim cs))

/-- The geometry that a text denotes, or an error that repeats the text. -/
def parse (text : String) : Except Error Geometry :=
  match read text.toList with
  | .ok g => .ok g
  | .error e =>
    .error (.invalidArgument ("invalid WKT " ++ Text.quote text ++ ": Invalid WKT: " ++ e.reason))

end Wkt
end StreamCatalog
