import StreamCatalog.Json.Writer
import StreamCatalog.Json.Token
import StreamCatalog.Proofs.Codec.Numerals

/-!
# Tokens are read back

A token that was written is read back, whatever follows it, with one proviso: a numeral
ends only where no further character of a number stands.

A string is read character by character.  Only the escapes need an argument: each is read
back as the character it stands for (`stringBody_writeChar`), and what follows it is read
as if it stood alone.
-/

namespace StreamCatalog
namespace Json

open Text (Scan Stops stops_nil stops_cons)

/-! ## Blanks and marks -/

/-- Blanks mean nothing. -/
theorem tokens_append_of_spaces {blanks : List Char} (all : ∀ c ∈ blanks, isSpace c = true)
    (rest : List Char) : tokens (blanks ++ rest) = tokens rest := by
  induction blanks with
  | nil => rfl
  | cons c cs ih =>
    rw [List.cons_append, tokens, if_pos (all c List.mem_cons_self)]
    exact ih fun d member => all d (List.mem_cons_of_mem c member)

/-- A token is followed by the tokens of what follows it. -/
theorem tokens_of_token {c : Char} {cs rest : List Char} {t : Token} (visible : isSpace c = false)
    (read : ∃ shorter, token c cs = some ⟨t, rest, shorter⟩) :
    tokens (c :: cs) = (tokens rest).map (t :: ·) := by
  obtain ⟨shorter, read⟩ := read
  rw [tokens, if_neg (by simp [visible]), read]

/-- The tokens that are one character long. -/
def Token.mark? : Char → Option Token
  | '[' => some .openArray
  | ']' => some .closeArray
  | '\x7b' => some .openObject
  | '\x7d' => some .closeObject
  | ',' => some .comma
  | ':' => some .colon
  | _ => none

theorem tokens_mark {c : Char} {t : Token} (h : Token.mark? c = some t) (rest : List Char) :
    tokens (c :: rest) = (tokens rest).map (t :: ·) := by
  unfold Token.mark? at h
  split at h
  case h_7 => exact nomatch h
  all_goals
    cases h
    exact tokens_of_token (by decide) ⟨Nat.lt_succ_self _, rfl⟩

/-! ## Strings -/

/-- Does a reader read this and leave that? -/
def Reads {α : Type} (read : (cs : List Char) → Option (Scan α cs)) (cs : List Char) (a : α)
    (rest : List Char) : Prop :=
  ∃ shorter, read cs = some ⟨a, rest, shorter⟩

/-- A number is read back from its four digits. -/
theorem fourDigits_append {n : Nat} (small : n < Nat.pow 16 4) (rest : List Char) :
    Reads fourDigits (Text.hexFixed 4 n ++ rest) n rest := by
  have length := Text.length_hexFixed 4 n
  have long : 3 < (Text.hexFixed 4 n ++ rest).length := by
    rw [List.length_append, length]
    omega
  have front : (Text.hexFixed 4 n ++ rest).take 4 = Text.hexFixed 4 n := List.take_left' length
  have behind : (Text.hexFixed 4 n ++ rest).drop 4 = rest := List.drop_left' length
  refine ⟨?_, ?_⟩
  · rw [List.length_append, length]
    omega
  · simp only [fourDigits, Scan.front?, dif_pos long, front, behind, Option.bind_eq_bind,
      Option.bind_some, Text.readHex?_hexFixed small]
    rfl

/-- A control character is read back from its number. -/
theorem codeUnit_append {c : Char} (control : c.toNat < 0x20) (rest : List Char) :
    Reads codeUnit (Text.hexFixed 4 c.toNat ++ rest) (some c) rest := by
  obtain ⟨shorter, read⟩ := fourDigits_append (Nat.lt_of_lt_of_le control (by decide)) rest
  refine ⟨shorter, ?_⟩
  have plain : (decide (0xD800 ≤ c.toNat) && decide (c.toNat ≤ 0xDBFF)) = false := by
    simp only [Bool.and_eq_false_iff, decide_eq_false_iff_not]
    omega
  have alone : (decide (0xDC00 ≤ c.toNat) && decide (c.toNat ≤ 0xDFFF)) = false := by
    simp only [Bool.and_eq_false_iff, decide_eq_false_iff_not]
    omega
  rw [codeUnit, read]
  simp only [plain, alone, Bool.false_eq_true, if_false, Scan.map, Char.ofNat_toNat]

/-- Every character is written as an escape that is read back, or as itself. -/
theorem writeChar_spec (c : Char) :
    (∃ escape, writeChar c = '\\' :: escape ∧ ∀ cs, Reads escaped (escape ++ cs) (some c) cs) ∨
      writeChar c = [c] ∧ c ≠ '"' ∧ c ≠ '\\' ∧ ¬c.toNat < 0x20 := by
  fun_cases writeChar c
  case case8 control =>
    refine Or.inl ⟨'u' :: Text.hexFixed 4 c.toNat, rfl, fun cs => ?_⟩
    obtain ⟨shorter, read⟩ := codeUnit_append control cs
    refine ⟨Nat.lt_succ_of_lt shorter, ?_⟩
    show (codeUnit (Text.hexFixed 4 c.toNat ++ cs)).map _ = _
    rw [read]
    rfl
  case case9 quote backslash _ _ _ _ _ plain => exact Or.inr ⟨rfl, quote, backslash, plain⟩
  all_goals exact Or.inl ⟨_, rfl, fun cs => ⟨Nat.lt_succ_self _, rfl⟩⟩

/-- A written character is read as itself, and what follows as if it stood alone. -/
theorem stringBody_writeChar (c : Char) {cs rest : List Char} {chars : List (Option Char)}
    (body : Reads stringBody cs chars rest) :
    Reads stringBody (writeChar c ++ cs) (some c :: chars) rest := by
  obtain ⟨second, body⟩ := body
  obtain ⟨escape, written, reads⟩ | ⟨written, quote, backslash, plain⟩ := writeChar_spec c
  · obtain ⟨first, read⟩ := reads cs
    rw [written, List.cons_append]
    refine ⟨Nat.lt_succ_of_lt (Nat.lt_trans second first), ?_⟩
    rw [stringBody, if_neg (by decide), if_pos rfl, read]
    simp only [body, Option.map_some, Scan.behind, Scan.follow, Scan.since, Scan.map]
  · rw [written, List.singleton_append]
    refine ⟨Nat.lt_succ_of_lt second, ?_⟩
    rw [stringBody, if_neg quote, if_neg backslash, if_neg plain, body]
    rfl

/-- What stands in quotes is read back. -/
theorem stringBody_append (cs rest : List Char) :
    Reads stringBody (cs.flatMap writeChar ++ '"' :: rest) (cs.map some) rest := by
  induction cs with
  | nil =>
    rw [List.flatMap_nil, List.nil_append]
    refine ⟨Nat.lt_succ_self _, ?_⟩
    rw [stringBody, if_pos rfl]
    rfl
  | cons c cs ih =>
    rw [List.flatMap_cons, List.append_assoc, List.map_cons]
    exact stringBody_writeChar c ih

theorem textOf_map_some (s : String) : textOf (s.toList.map some) = some s := by
  have all (cs : List Char) : (cs.map some).mapM id = some cs := by
    induction cs with
    | nil => rfl
    | cons c cs ih => simp [ih]
  rw [textOf, all, Option.map_some, String.ofList_toList]

/-- A string is read back. -/
theorem tokens_writeString (s : String) (rest : List Char) :
    tokens (writeString s ++ rest) = (tokens rest).map (.leaf (.text s) :: ·) := by
  obtain ⟨shorter, read⟩ := stringBody_append s.toList rest
  rw [writeString, List.cons_append, List.cons_append, List.append_assoc, List.singleton_append]
  refine tokens_of_token (by decide) ⟨Nat.lt_succ_of_lt shorter, ?_⟩
  show (stringBody _).map _ = _
  rw [read]
  simp only [Option.map_some, Scan.behind, Scan.since, Scan.map, textOf_map_some]

/-! ## Numbers -/

theorem isNumeric_of_isDigit {c : Char} (h : Decimal.isDigit c = true) : isNumeric c = true := by
  simp [isNumeric, h]

/-- Digits without a leading zero denote a number. -/
theorem unsignedOf?_digits {negative : Bool} {n : Nat} (positive : negative = true → 0 < n) :
    unsignedOf? negative (Decimal.digits n) = some (.whole (if negative then -n else n)) := by
  have digits : ∀ c ∈ Decimal.digits n, Decimal.isDigit c = true := fun c member =>
    Decimal.isDigit_of_mem_digits member
  have run : (Decimal.digits n).takeWhile Decimal.isDigit = Decimal.digits n := by
    have := Text.takeWhile_append_of_stops digits (stops_nil Decimal.isDigit)
    rwa [List.append_nil] at this
  have behind : (Decimal.digits n).dropWhile Decimal.isDigit = [] := by
    have := Text.dropWhile_append_of_stops digits (stops_nil Decimal.isDigit)
    rwa [List.append_nil] at this
  unfold unsignedOf?
  simp only [run, behind, Decimal.value?_digits]
  split
  · rename_i leading
    rcases Nat.eq_zero_or_pos n with rfl | large
    · rw [Decimal.digits, if_pos (by decide)] at leading
      cases leading
    · exact absurd (by rw [leading]; rfl) (Decimal.head?_digits_ne large)
  · rename_i missing _
    cases missing
  · rename_i same _
    cases same
    have not_minus_zero : ¬(negative && decide (n = 0)) = true := by
      simp only [Bool.and_eq_true, decide_eq_true_eq]
      rintro ⟨minus, rfl⟩
      exact absurd (positive minus) (Nat.lt_irrefl 0)
    rw [if_pos List.isEmpty_nil, if_neg not_minus_zero]

/-- A whole number denotes itself. -/
theorem numberOf?_writeWhole (n : Int) : numberOf? (writeWhole n) = some (.whole n) := by
  cases n with
  | ofNat n =>
    obtain ⟨c, cs, written⟩ := List.exists_cons_of_ne_nil (Decimal.digits_ne_nil n)
    have digit : Decimal.isDigit c = true :=
      Decimal.isDigit_of_mem_digits (n := n) (by rw [written]; exact List.mem_cons_self)
    have not_minus : c ≠ '-' := by rintro rfl; exact absurd digit (by decide)
    have unsigned : numberOf? (c :: cs) = unsignedOf? false (c :: cs) := by
      unfold numberOf?
      split
      · rename_i same
        exact absurd (List.cons.inj same).1 not_minus
      · rfl
    rw [writeWhole, written, unsigned, ← written]
    exact unsignedOf?_digits fun h => nomatch h
  | negSucc n =>
    have read : unsignedOf? true (Decimal.digits (n + 1)) = some (.whole (-(n + 1 : Nat))) :=
      unsignedOf?_digits fun _ => Nat.succ_pos n
    exact read

theorem writeWhole_eq_cons (n : Int) :
    ∃ c cs, writeWhole n = c :: cs ∧ (Decimal.isDigit c = true ∨ c = '-') ∧
      ∀ d ∈ cs, Decimal.isDigit d = true := by
  cases n with
  | ofNat n =>
    obtain ⟨c, cs, written⟩ := List.exists_cons_of_ne_nil (Decimal.digits_ne_nil n)
    have digits (d : Char) (member : d ∈ c :: cs) : Decimal.isDigit d = true := by
      rw [← written] at member
      exact Decimal.isDigit_of_mem_digits member
    exact ⟨c, cs, written, Or.inl (digits c List.mem_cons_self),
      fun d member => digits d (List.mem_cons_of_mem c member)⟩
  | negSucc n => exact ⟨'-', _, rfl, Or.inr rfl, fun d member => Decimal.isDigit_of_mem_digits member⟩

/-- A character that begins a number begins no other token. -/
theorem token_of_numeric {c : Char} (begins : Decimal.isDigit c = true ∨ c = '-') (cs : List Char) :
    token c cs = (numberOf? (c :: cs.takeWhile isNumeric)).map fun v =>
      ⟨.leaf v, cs.dropWhile isNumeric,
        Nat.lt_succ_of_le (Text.length_dropWhile_le isNumeric cs)⟩ := by
  have numeric : isNumeric c = true := by
    rcases begins with digit | rfl
    · exact isNumeric_of_isDigit digit
    · rfl
  unfold token
  split
  case h_11 => rw [if_pos numeric]
  all_goals
    rcases begins with digit | minus
    · exact absurd digit (by decide)
    · exact absurd minus (by decide)

/-- A whole number is read back if no number goes on behind it. -/
theorem tokens_writeWhole (n : Int) {rest : List Char} (stops : Stops isNumeric rest) :
    tokens (writeWhole n ++ rest) = (tokens rest).map (.leaf (.whole n) :: ·) := by
  have read := numberOf?_writeWhole n
  obtain ⟨c, cs, written, begins, digits⟩ := writeWhole_eq_cons n
  have numeric : ∀ d ∈ cs, isNumeric d = true := fun d member =>
    isNumeric_of_isDigit (digits d member)
  have visible : isSpace c = false := by
    rcases begins with digit | rfl
    · simp only [isSpace, Bool.or_eq_false_iff, decide_eq_false_iff_not]
      refine ⟨⟨⟨?_, ?_⟩, ?_⟩, ?_⟩ <;> (rintro rfl; exact absurd digit (by decide))
    · decide
  rw [written] at read
  rw [written, List.cons_append]
  refine tokens_of_token visible ⟨?_, ?_⟩
  · rw [List.length_cons, List.length_append]
    omega
  · rw [token_of_numeric begins]
    simp only [Text.takeWhile_append_of_stops numeric stops,
      Text.dropWhile_append_of_stops numeric stops, read, Option.map_some]

/-! ## Words -/

/-- A word is read back. -/
theorem tokens_word {c : Char} {w : List Char} {v : Value} (visible : isSpace c = false)
    (begins : ∀ cs, token c cs = word w v c cs) (rest : List Char) :
    tokens (c :: w ++ rest) = (tokens rest).map (.leaf v :: ·) := by
  have behind : (w ++ rest).drop w.length = rest := List.drop_left
  rw [List.cons_append]
  refine tokens_of_token visible ⟨?_, ?_⟩
  · rw [List.length_cons, List.length_append]
    omega
  · rw [begins, word, if_pos (List.isPrefixOf_iff_prefix.mpr (List.prefix_append w rest))]
    simp only [behind]

/-- Values without parts that are not numbers are read back, whatever follows. -/
theorem tokens_writeLeaf {v : Value} (rest : List Char) : v = .null ∨ (∃ b, v = .boolean b) ∨
    (∃ s, v = .text s) → tokens (writeLeaf v ++ rest) = (tokens rest).map (.leaf v :: ·) := by
  rintro (rfl | ⟨b, rfl⟩ | ⟨s, rfl⟩)
  · exact tokens_word (by decide) (fun _ => rfl) rest
  · cases b <;> exact tokens_word (by decide) (fun _ => rfl) rest
  · exact tokens_writeString s rest

end Json
end StreamCatalog
