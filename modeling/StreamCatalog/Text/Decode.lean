/-!
# Bytes as text

Bytes from outside need not be text.  They are read as UTF-8, and what cannot be read
becomes replacement characters: one for each longest piece that begins like a
character and does not go on like one, and one for each byte that cannot begin a
character at all.
-/

namespace StreamCatalog
namespace Text

/-- The character that stands for bytes that are no text. -/
def replacement : Char := '\ufffd'

/-- How a character goes on after its first byte: the number of bytes that follow, the
bounds of the first of them, and the bits that the first byte gives. -/
structure Lead where
  following : Nat
  low : Nat
  high : Nat
  bits : Nat

/-- What the first byte of a character tells; none for a byte that begins no
character.  The bounds leave out longer forms of shorter characters, surrogates, and
everything beyond the last character. -/
def leadOf (b : Nat) : Option Lead :=
  if b < 0x80 then some ⟨0, 0, 0, b⟩
  else if b < 0xc2 then none
  else if b < 0xe0 then some ⟨1, 0x80, 0xbf, b % 32⟩
  else if b = 0xe0 then some ⟨2, 0xa0, 0xbf, 0⟩
  else if b = 0xed then some ⟨2, 0x80, 0x9f, 13⟩
  else if b < 0xf0 then some ⟨2, 0x80, 0xbf, b % 16⟩
  else if b = 0xf0 then some ⟨3, 0x90, 0xbf, 0⟩
  else if b = 0xf4 then some ⟨3, 0x80, 0x8f, 4⟩
  else if b < 0xf4 then some ⟨3, 0x80, 0xbf, b % 8⟩
  else none

/-- Take the bytes that follow, and add their bits.  Stops at a byte that does not
belong to the character. -/
def follow : (following low high bits : Nat) → List UInt8 → Option Nat × List UInt8
  | 0, _, _, bits, bs => (some bits, bs)
  | _ + 1, _, _, _, [] => (none, [])
  | n + 1, low, high, bits, b :: bs =>
    if low ≤ b.toNat ∧ b.toNat ≤ high then follow n 0x80 0xbf (bits * 64 + b.toNat % 64) bs
    else (none, b :: bs)

theorem length_follow_le (n low high bits : Nat) (bs : List UInt8) :
    (follow n low high bits bs).2.length ≤ bs.length := by
  induction n generalizing low high bits bs with
  | zero => simp [follow]
  | succ n ih =>
    cases bs with
    | nil => simp [follow]
    | cons b bs =>
      rw [follow]
      split
      · exact Nat.le_succ_of_le (ih ..)
      · exact Nat.le_refl _

/-- The text that bytes hold, with replacements for what is none. -/
def decode : List UInt8 → List Char
  | [] => []
  | b :: bs =>
    match leadOf b.toNat with
    | none => replacement :: decode bs
    | some lead =>
      let read := follow lead.following lead.low lead.high lead.bits bs
      have := length_follow_le lead.following lead.low lead.high lead.bits bs
      (match read.1 with
        | some code => Char.ofNat code
        | none => replacement) :: decode read.2
termination_by bs => bs.length
decreasing_by all_goals simp only [List.length_cons] at *; omega

end Text
end StreamCatalog
