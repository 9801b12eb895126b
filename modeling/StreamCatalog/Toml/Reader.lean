import StreamCatalog.Toml.Scalar
import StreamCatalog.Toml.Text

/-!
# Reading a configuration document

A document is read line by line.  A line is blank, opens a table, or gives a key a
value; only arrays and strings in three quotes may go on in the next line.  Arrays
and tables written in place can be nested seventy-nine deep, and a key has at most
seventy-nine names.
-/

namespace StreamCatalog
namespace Toml

open Text (Scan)

/-- Nesting of values and length of keys stay below this bound. -/
def depthBound : Nat := 80

/-- Drop blanks, newlines and comments.  A comment goes up to the end of its line. -/
def dropGaps (cs : List Char) : List Char :=
  match hd : dropBlankLines cs with
  | '#' :: ds =>
    have : ('#' :: ds).length ≤ cs.length := hd ▸ length_dropBlankLines cs
    match h : afterNewline? (ds.dropWhile isPlain) with
    | some more =>
      have := length_afterNewline? h
      dropGaps more
    | none => '#' :: ds
  | ds => ds
termination_by cs.length
decreasing_by
  have := Text.length_dropWhile_le isPlain ds
  simp only [List.length_cons] at *
  omega

theorem length_dropGaps (cs : List Char) : (dropGaps cs).length ≤ cs.length := by
  fun_induction dropGaps cs with
  | case1 cs ds hd blanks more h shorter ih =>
    have := Text.length_dropWhile_le isPlain ds
    rw [List.length_cons] at blanks
    omega
  | case2 cs ds hd blanks h => exact blanks
  | case3 cs => exact length_dropBlankLines cs

/-- A key, with as many names as are allowed. -/
def boundedKey (cs : List Char) : Option (Scan (List String) cs) :=
  (key cs).filter fun s => s.value.length < depthBound

/-- Where the characters of a string over several lines begin, given what follows the
first of its quotes. -/
def longBody (cs : List Char) : List Char := (afterNewline? (cs.drop 2)).getD (cs.drop 2)

theorem length_longBody_le (cs : List Char) : (longBody cs).length ≤ cs.length := by
  unfold longBody
  cases h : afterNewline? (cs.drop 2) with
  | none => simp
  | some more =>
    have := length_afterNewline? h
    rw [List.length_drop] at this
    rw [Option.getD_some]
    omega

/-- A string, in any of the four forms. -/
def string (q : Quote) (cs : List Char) : Option (Scan String (q.mark :: cs)) :=
  if atTriple q (q.mark :: cs) then
    (longString q (longBody cs)).map fun s =>
      ((s.map String.ofList).since (length_longBody_le cs)).behind q.mark
  else (shortString q cs).map fun s => (s.map String.ofList).behind q.mark

/-- A value without quotes or brackets.  After a date, a blank and a digit begin the
time of day. -/
def scalar (c : Char) (cs : List Char) : Option (Scan Value (c :: cs)) :=
  let rest := cs.dropWhile isScalar
  have shorter : rest.length < (c :: cs).length :=
    Nat.lt_succ_of_le (Text.length_dropWhile_le isScalar cs)
  if !isScalar c then none
  else
    let run := c :: cs.takeWhile isScalar
    match h : rest with
    | ' ' :: d :: more =>
      if Decimal.isDigit d && afterDate? run = some [] then
        if isZonedTime (d :: more.takeWhile isScalar) then
          some ⟨.moment, more.dropWhile isScalar, by
            have := Text.length_dropWhile_le isScalar more
            simp only [List.length_cons] at shorter ⊢
            omega⟩
        else none
      else (scalar? run).map fun v => ⟨v, rest, h ▸ shorter⟩
    | _ => (scalar? run).map fun v => ⟨v, rest, h ▸ shorter⟩

mutual

/-- A value. -/
def value (depth : Nat) (cs : List Char) : Option (Scan Value cs) :=
  match cs with
  | '"' :: rest => (string .basic rest).map (·.map .string)
  | '\'' :: rest => (string .literal rest).map (·.map .string)
  | '[' :: rest =>
    if depth = 0 then none
    else (arrayItems (depth - 1) rest).map fun s => (s.map (.array .inPlace)).behind '['
  | '\x7b' :: rest =>
    if depth = 0 then none
    else
      match hd : rest.dropWhile isSpace with
      | '\x7d' :: more =>
        some ⟨.table .inPlace [], more, by
          have := Text.length_dropWhile_le isSpace rest
          rw [hd] at this
          simp only [List.length_cons] at this ⊢
          omega⟩
      | _ =>
        match pairs (depth - 1) rest with
        | none => none
        | some s => (Value.ofPairs s.value).map fun v => (s.map fun _ => v).behind '\x7b'
  | c :: rest => scalar c rest
  | [] => none
termination_by (cs.length, 0)

/-- The items of an array, read after its opening bracket or after a comma. -/
def arrayItems (depth : Nat) (cs : List Char) : Option (Scan (List Value) cs) :=
  have gaps := length_dropGaps cs
  match hd : dropGaps cs with
  | ']' :: rest => some ⟨[], rest, by rw [hd] at gaps; simp only [List.length_cons] at gaps; omega⟩
  | here =>
    match value depth here with
    | none => none
    | some v =>
      have := v.shorter
      have after := length_dropGaps v.rest
      match h : dropGaps v.rest with
      | ']' :: rest =>
        some ⟨[v.value], rest, by
          rw [h] at after
          rw [hd] at gaps
          simp only [List.length_cons] at after
          omega⟩
      | ',' :: rest =>
        (arrayItems depth rest).map fun s =>
          (s.map (v.value :: ·)).since (by
            rw [h] at after
            rw [hd] at gaps
            simp only [List.length_cons] at after
            omega)
      | _ => none
termination_by (cs.length, 1)
decreasing_by
  all_goals simp_all only [List.length_cons, Prod.lex_def]
  all_goals omega

/-- The pairs of a table in braces, read after the opening brace or after a comma. -/
def pairs (depth : Nat) (cs : List Char) : Option (Scan (List (List String × Value)) cs) :=
  match boundedKey cs with
  | none => none
  | some k =>
    match k.thenChar '=' with
    | none => none
    | some k =>
      have := k.shorter
      have := Text.length_dropWhile_le isSpace k.rest
      match value depth (k.rest.dropWhile isSpace) with
      | none => none
      | some v =>
        have := v.shorter
        have after := Text.length_dropWhile_le isSpace v.rest
        match h : v.rest.dropWhile isSpace with
        | '\x7d' :: rest =>
          some ⟨[(k.value, v.value)], rest, by
            rw [h] at after
            simp only [List.length_cons] at after
            omega⟩
        | ',' :: rest =>
          (pairs depth rest).map fun s =>
            (s.map ((k.value, v.value) :: ·)).since (by
              rw [h] at after
              simp only [List.length_cons] at after
              omega)
        | _ => none
termination_by (cs.length, 1)
decreasing_by
  all_goals simp_all only [List.length_cons, Prod.lex_def]
  all_goals omega

end

/-- What a line gives to the document. -/
inductive Line where
  | blank
  /-- A key and its value. -/
  | entry (path : List String) (v : Value)
  /-- The header of a table. -/
  | table (path : List String)
  /-- The header of the next table of an array. -/
  | element (path : List String)

/-- Drop blanks and a comment. -/
def dropComment (cs : List Char) : List Char :=
  match cs.dropWhile isSpace with
  | '#' :: ds => ds.dropWhile isPlain
  | ds => ds

theorem length_dropComment (cs : List Char) : (dropComment cs).length ≤ cs.length := by
  have blanks := Text.length_dropWhile_le isSpace cs
  unfold dropComment
  split
  · rename_i ds h
    have := Text.length_dropWhile_le isPlain ds
    rw [h, List.length_cons] at blanks
    omega
  · exact blanks

/-- Skip the rest of a line, which may hold a comment. -/
def endOfLine (cs : List Char) : Option { rest : List Char // rest.length ≤ cs.length } :=
  have comment := length_dropComment cs
  match h : dropComment cs with
  | [] => some ⟨[], by simp⟩
  | c :: ds =>
    match k : afterNewline? (c :: ds) with
    | some more =>
      some ⟨more, by
        have := length_afterNewline? k
        rw [h] at comment
        omega⟩
    | none => none

/-- A reading up to the end of its line. -/
def closeLine {α : Type} {cs : List Char} (s : Scan α cs) : Option (Scan α cs) :=
  (endOfLine s.rest).map fun r => ⟨s.value, r.1, Nat.lt_of_le_of_lt r.2 s.shorter⟩

/-- The next line. -/
def line (cs : List Char) : Option (Scan Line cs) :=
  match cs with
  | '[' :: '[' :: ds => do
    let k ← (boundedKey ds).bind (·.thenChar ']')
    let k ← k.thenChar ']'
    closeLine (((k.map .element).behind '[').behind '[')
  | '[' :: ds => do
    let k ← (boundedKey ds).bind (·.thenChar ']')
    closeLine ((k.map .table).behind '[')
  | [] => none
  | c :: ds =>
    match newline? (c :: ds) with
    | some n => some (n.map fun _ => .blank)
    | none =>
      if c = '#' then closeLine ((Scan.one .blank c ds).skip isPlain)
      else do
        let k ← (boundedKey (c :: ds)).bind (·.thenChar '=')
        let k := k.skip isSpace
        let v ← value (depthBound - 1) k.rest
        closeLine ((k.follow v).map fun v => .entry k.value v)

/-- The lines of a document. -/
def lines (cs : List Char) : Option (List Line) :=
  match cs.dropWhile isSpace, Text.length_dropWhile_le isSpace cs with
  | [], _ => some []
  | c :: ds, _ =>
    match line (c :: ds) with
    | none => none
    | some l =>
      have := l.shorter
      (lines l.rest).map (l.value :: ·)
termination_by cs.length

/-- A document under construction: what has been defined, and the path of the table
that the next keys belong to. -/
structure Draft where
  entries : Entries
  current : List String

/-- Add a line to a document. -/
def Draft.add (d : Draft) : Line → Option Draft
  | .blank => some d
  | .entry path v =>
    (d.entries.change false (fun _ inner => inner.insert path v) d.current .header).map
      fun es => ⟨es, d.current⟩
  | .table path => (d.entries.openTable path).map fun es => ⟨es, path⟩
  | .element path => (d.entries.openElement path).map fun es => ⟨es, path⟩

/-- The document that a text denotes.  A byte order mark in front is ignored. -/
def read (text : String) : Option Entries := do
  let cs := match text.toList with
    | '\ufeff' :: cs => cs
    | cs => cs
  let ls ← lines cs
  let d ← ls.foldlM Draft.add ⟨[], []⟩
  some d.entries

end Toml
end StreamCatalog
