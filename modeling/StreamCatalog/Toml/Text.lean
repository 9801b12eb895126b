import StreamCatalog.Text.Hex
import StreamCatalog.Text.Scan

/-!
# Strings and keys

Strings stand in double quotes, where a backslash escapes, or in single quotes, where
nothing does.  Three quotes in a row open a string that may run over several lines;
the newline after them does not belong to it, and up to two quotes may stand right
before the three that close it.

A key is one or more names with dots between them.  A name is bare or a string on one
line.
-/

namespace StreamCatalog
namespace Toml

open Text (Scan)

/-- The two blanks that separate what stands on one line. -/
def isSpace (c : Char) : Bool := c = ' ' || c = '\t'

/-- A character that may stand in strings and comments: tabs, and everything that is
no control character of the ASCII range. -/
def isPlain (c : Char) : Bool := c = '\t' || (0x20 ≤ c.toNat && c.toNat ≠ 0x7F)

/-- What follows a newline, if the text begins with one. -/
def afterNewline? : List Char → Option (List Char)
  | '\n' :: cs => some cs
  | '\r' :: '\n' :: cs => some cs
  | _ => none

theorem length_afterNewline? {cs ds : List Char} (h : afterNewline? cs = some ds) :
    ds.length < cs.length := by
  unfold afterNewline? at h
  split at h
  · cases h
    simp
  · cases h
    simp only [List.length_cons]
    omega
  · cases h

/-- A newline. -/
def newline? (cs : List Char) : Option (Scan Unit cs) :=
  match h : afterNewline? cs with
  | some rest => some ⟨(), rest, length_afterNewline? h⟩
  | none => none

/-- Drop blanks and newlines. -/
def dropBlankLines : List Char → List Char
  | '\r' :: '\n' :: cs => dropBlankLines cs
  | c :: cs => if isSpace c || c = '\n' then dropBlankLines cs else c :: cs
  | [] => []

theorem length_dropBlankLines (cs : List Char) : (dropBlankLines cs).length ≤ cs.length := by
  fun_induction dropBlankLines cs with
  | case1 cs ih =>
    simp only [List.length_cons]
    omega
  | case2 c cs _ _ ih =>
    simp only [List.length_cons]
    omega
  | case3 => simp
  | case4 => simp

/-- The character whose code point is given by one hexadecimal digit and so many
more. -/
def codePoint (more : Nat) (cs : List Char) : Option (Scan Char cs) := do
  let digits ← Scan.front? more cs
  let n ← Text.readHex? digits.value
  if n.isValidChar then some (digits.map fun _ => Char.ofNat n) else none

/-- The character that an escape stands for, read after its backslash. -/
def escaped : (cs : List Char) → Option (Scan Char cs)
  | 'b' :: cs => some (.one '\x08' _ cs)
  | 't' :: cs => some (.one '\t' _ cs)
  | 'n' :: cs => some (.one '\n' _ cs)
  | 'f' :: cs => some (.one '\x0c' _ cs)
  | 'r' :: cs => some (.one '\r' _ cs)
  | '"' :: cs => some (.one '"' _ cs)
  | '\\' :: cs => some (.one '\\' _ cs)
  | 'u' :: cs => (codePoint 3 cs).map (·.behind 'u')
  | 'U' :: cs => (codePoint 7 cs).map (·.behind 'U')
  | _ => none

/-- The two kinds of quotes. -/
structure Quote where
  mark : Char
  /-- A backslash escapes. -/
  escapes : Bool
  deriving DecidableEq, Repr

/-- Double quotes. -/
def Quote.basic : Quote := ⟨'"', true⟩

/-- Single quotes. -/
def Quote.literal : Quote := ⟨'\'', false⟩

/-- The characters of a string on one line, read after its opening quote. -/
def shortString (q : Quote) : (cs : List Char) → Option (Scan (List Char) cs)
  | [] => none
  | c :: cs =>
    if c = q.mark then some (.one [] _ cs)
    else if c = '\\' && q.escapes then
      match escaped cs with
      | some e =>
        have := e.shorter
        (shortString q e.rest).map fun s => (e.follow (s.map (e.value :: ·))).behind c
      | none => none
    else if isPlain c then
      (shortString q cs).map fun s => (s.map (c :: ·)).behind c
    else none
termination_by cs => cs.length
decreasing_by
  all_goals simp only [List.length_cons]
  all_goals omega

/-- The end of a string over several lines, read after the three quotes that may
close it: up to two of them belong to the string if more follow. -/
def extraQuotes (q : Quote) : List Char → List Char
  | a :: b :: _ => if a = q.mark then (if b = q.mark then [a, b] else [a]) else []
  | [a] => if a = q.mark then [a] else []
  | [] => []

/-- Do three quotes come next? -/
def atTriple (q : Quote) (cs : List Char) : Bool := List.replicate 3 q.mark |>.isPrefixOf cs

/-- The characters of a string over several lines, read after its opening quotes. -/
def longString (q : Quote) : (cs : List Char) → Option (Scan (List Char) cs)
  | [] => none
  | c :: cs =>
    if atTriple q (c :: cs) then
      let extra := extraQuotes q (cs.drop 2)
      some ⟨extra, (cs.drop 2).drop extra.length, by
        simp only [List.length_drop, List.length_cons]
        omega⟩
    else if c = '\\' && q.escapes then
      match h : afterNewline? (cs.dropWhile isSpace) with
      | some more =>
        have := length_afterNewline? h
        have := Text.length_dropWhile_le isSpace cs
        have := length_dropBlankLines more
        (longString q (dropBlankLines more)).map (·.since (by simp only [List.length_cons]; omega))
      | none =>
        match escaped cs with
        | some e =>
          have := e.shorter
          (longString q e.rest).map fun s => (e.follow (s.map (e.value :: ·))).behind c
        | none => none
    else
      match newline? (c :: cs) with
      | some n =>
        have := n.shorter
        (longString q n.rest).map fun s => n.follow (s.map ('\n' :: ·))
      | none =>
        if isPlain c then (longString q cs).map fun s => (s.map (c :: ·)).behind c
        else none
termination_by cs => cs.length
decreasing_by
  all_goals simp only [List.length_cons] at *
  all_goals omega

/-- A character of a bare name. -/
def isBare (c : Char) : Bool := c.isAlphanum || c = '-' || c = '_'

/-- One name of a key. -/
def simpleKey : (cs : List Char) → Option (Scan String cs)
  | [] => none
  | c :: cs =>
    if c = Quote.basic.mark then
      (shortString .basic cs).map fun s => (s.map String.ofList).behind c
    else if c = Quote.literal.mark then
      (shortString .literal cs).map fun s => (s.map String.ofList).behind c
    else if isBare c then
      some ⟨String.ofList (c :: cs.takeWhile isBare), cs.dropWhile isBare,
        Nat.lt_succ_of_le (Text.length_dropWhile_le isBare cs)⟩
    else none

/-- A name of a key with blanks around it. -/
def keyPart (cs : List Char) : Option (Scan String cs) :=
  (simpleKey (cs.dropWhile isSpace)).map fun s =>
    (s.skip isSpace).since (Text.length_dropWhile_le isSpace cs)

/-- The names of a key. -/
def key (cs : List Char) : Option (Scan (List String) cs) :=
  match keyPart cs with
  | none => none
  | some s =>
    match s.thenChar '.' with
    | none => some (s.map ([·]))
    | some t =>
      have := t.shorter
      (key t.rest).map fun more => (more.map (t.value :: ·)).since (by omega)
termination_by cs.length

end Toml
end StreamCatalog
