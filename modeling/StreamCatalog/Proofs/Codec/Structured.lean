import StreamCatalog.Json.Reader
import StreamCatalog.Proofs.Codec.Tokens

/-!
# Structured text is read back

A value that has a text for every string and every name, and a number for every number, is
read back from its text, in the compact and in the spread form (`read_compact` and
`read_spread`).

The reader goes through the tokens from left to right, so its work on a text can be cut
anywhere: `State.after` is where it stands after a text.  The whole argument is one
statement about `State.after`, proved along the structure of the value: from any state in
which a value may come, the text of a value leads to where the value is complete
(`after_write`).
-/

namespace StreamCatalog
namespace Json

open Text (Stops stops_nil stops_cons)

/-- Values that the text form can express. -/
inductive Value.Plain : Value → Prop where
  | null : Plain .null
  | boolean (b : Bool) : Plain (.boolean b)
  | whole (n : Int) : Plain (.whole n)
  | text (s : String) : Plain (.text s)
  | array {items : List Value} (all : ∀ v ∈ items, Plain v) : Plain (.array items)
  | object {members : Members} (named : ∀ m ∈ members, m.1.isSome)
      (all : ∀ m ∈ members, Plain m.2) : Plain (.object members)

/-- Does a style set parts apart by nothing but blanks? -/
structure Style.IsBlank (st : Style) : Prop where
  lead : ∀ depth, ∀ c ∈ st.lead depth, isSpace c = true
  gap : ∀ c ∈ st.gap, isSpace c = true

theorem Style.isBlank_compact : Style.compact.IsBlank :=
  ⟨fun _ _ member => absurd member List.not_mem_nil, fun _ member => absurd member List.not_mem_nil⟩

theorem Style.isBlank_spread : Style.spread.IsBlank := by
  constructor
  · intro depth c member
    rcases List.mem_cons.mp member with rfl | member
    · decide
    · rw [List.eq_of_mem_replicate member]
      decide
  · intro c member
    rw [List.mem_singleton.mp member]
    decide

namespace State

/-- Where the reader stands after a text. -/
def after (q : State) (cs : List Char) : Option State :=
  (tokens cs).bind fun ts => ts.foldlM next q

theorem after_nil (q : State) : q.after [] = some q := by
  rw [after, tokens]
  rfl

theorem after_of_token {q q' : State} {cs rest : List Char} {t : Token}
    (read : tokens cs = (tokens rest).map (t :: ·)) (step : q.next t = some q') :
    q.after cs = q'.after rest := by
  rw [after, read, after]
  cases tokens rest with
  | none => rfl
  | some ts =>
    show (t :: ts).foldlM next q = ts.foldlM next q'
    rw [List.foldlM_cons, step]
    rfl

theorem after_mark {q q' : State} {c : Char} {t : Token} (mark : Token.mark? c = some t)
    (step : q.next t = some q') (rest : List Char) : q.after (c :: rest) = q'.after rest :=
  after_of_token (tokens_mark mark rest) step

theorem after_blanks {blanks : List Char} (all : ∀ c ∈ blanks, isSpace c = true) (q : State)
    (rest : List Char) : q.after (blanks ++ rest) = q.after rest := by
  rw [after, tokens_append_of_spaces all, after]

/-- May a value come whose end is noted in these frames? -/
def Expects (q : State) (frames : List Frame) : Prop :=
  ∀ t, t ≠ .closeArray → q.next t = State.begin frames t

theorem expects_value (frames : List Frame) : (value frames).Expects frames := fun _ _ => rfl

theorem expects_firstItem (frames : List Frame) :
    (firstItem frames).Expects (.array [] :: frames) := by
  intro t other
  cases t with
  | closeArray => exact absurd rfl other
  | _ => rfl

end State

/-! ## Where numbers end -/

theorem isNumeric_of_isSpace {c : Char} (h : isSpace c = true) : isNumeric c = false := by
  simp only [isSpace, Bool.or_eq_true, decide_eq_true_eq] at h
  rcases h with ((rfl | rfl) | rfl) | rfl <;> decide

theorem stops_blanks {blanks rest : List Char} (all : ∀ c ∈ blanks, isSpace c = true)
    (stops : Stops isNumeric rest) : Stops isNumeric (blanks ++ rest) := by
  cases blanks with
  | nil => exact stops
  | cons c cs => exact stops_cons (isNumeric_of_isSpace (all c List.mem_cons_self)) _

theorem stops_writeItems (st : Style) (depth : Nat) (vs : List Value) {rest : List Char}
    (stops : Stops isNumeric rest) : Stops isNumeric (st.writeItems depth vs ++ rest) := by
  cases vs with
  | nil => rwa [Style.writeItems, List.nil_append]
  | cons v vs =>
    rw [Style.writeItems]
    exact stops_cons (by decide) _

theorem stops_writeMembers (st : Style) (depth : Nat) (ms : Members) {rest : List Char}
    (stops : Stops isNumeric rest) : Stops isNumeric (st.writeMembers depth ms ++ rest) := by
  cases ms with
  | nil => rwa [Style.writeMembers, List.nil_append]
  | cons m ms =>
    rw [Style.writeMembers]
    exact stops_cons (by decide) _

/-! ## Values -/

section

variable {st : Style} (blank : st.IsBlank)

/-- Is a value read back, wherever and at whatever depth it was written? -/
def Style.ReadsBack (st : Style) (v : Value) : Prop :=
  ∀ {q : State} {frames : List Frame} {depth : Nat} {rest : List Char}, q.Expects frames →
    Stops isNumeric rest →
      q.after (st.write depth v ++ rest) = (State.complete v frames).after rest

/-- A value that is one token is read back. -/
theorem readsBack_of_leaf {v : Value} (written : ∀ depth, st.write depth v = writeLeaf v)
    (read : ∀ {rest}, Stops isNumeric rest →
      tokens (writeLeaf v ++ rest) = (tokens rest).map (.leaf v :: ·)) : st.ReadsBack v := by
  intro q frames depth rest expects stops
  rw [written]
  exact State.after_of_token (read stops) (expects (.leaf v) fun same => nomatch same)

include blank

theorem after_writeItems {vs : List Value} (all : ∀ v ∈ vs, st.ReadsBack v) (depth : Nat)
    (before : List Value) (frames : List Frame) {rest : List Char} (stops : Stops isNumeric rest) :
    (State.nextItem before frames).after (st.writeItems depth vs ++ rest) =
      (State.nextItem (vs.reverse ++ before) frames).after rest := by
  induction vs generalizing before with
  | nil =>
    rw [Style.writeItems]
    rfl
  | cons v vs ih =>
    rw [Style.writeItems]
    simp only [List.cons_append, List.append_assoc]
    rw [State.after_mark rfl rfl, State.after_blanks (blank.lead depth),
      all v List.mem_cons_self (State.expects_value _) (stops_writeItems st depth vs stops)]
    rw [List.reverse_cons, List.append_assoc]
    exact ih (fun w member => all w (List.mem_cons_of_mem v member)) (v :: before)

/-- A name and a colon are read. -/
theorem after_writeName {q : State} {name : Option String} {before : Members} {frames : List Frame}
    (named : name.isSome = true)
    (step : q.next (.leaf (.string name)) = some (.colon before name frames)) (rest : List Char) :
    q.after (st.writeName name ++ rest) = (State.value (.object before name :: frames)).after rest := by
  obtain ⟨s, rfl⟩ := Option.isSome_iff_exists.mp named
  rw [Style.writeName, List.append_assoc, List.cons_append, Option.getD_some,
    State.after_of_token (tokens_writeString s _) step, State.after_mark rfl rfl,
    State.after_blanks blank.gap]

theorem after_writeMembers {ms : Members} (named : ∀ m ∈ ms, m.1.isSome)
    (all : ∀ m ∈ ms, st.ReadsBack m.2) (depth : Nat) (before : Members) (frames : List Frame)
    {rest : List Char} (stops : Stops isNumeric rest) :
    (State.nextMember before frames).after (st.writeMembers depth ms ++ rest) =
      (State.nextMember (ms.reverse ++ before) frames).after rest := by
  induction ms generalizing before with
  | nil =>
    rw [Style.writeMembers]
    rfl
  | cons m ms ih =>
    obtain ⟨name, v⟩ := m
    rw [Style.writeMembers]
    simp only [List.cons_append, List.append_assoc]
    rw [State.after_mark rfl rfl, State.after_blanks (blank.lead depth),
      after_writeName blank (named (name, v) List.mem_cons_self) rfl,
      all (name, v) List.mem_cons_self (State.expects_value _) (stops_writeMembers st depth ms stops)]
    rw [List.reverse_cons, List.append_assoc]
    exact ih (fun w member => named w (List.mem_cons_of_mem _ member))
      (fun w member => all w (List.mem_cons_of_mem _ member)) ((name, v) :: before)

/-- What stands before a closing bracket ends a number. -/
theorem stops_close (depth : Nat) {c : Char} (closes : isNumeric c = false) (rest : List Char) :
    Stops isNumeric (st.lead depth ++ c :: rest) :=
  stops_blanks (blank.lead depth) (stops_cons closes rest)

/-- **Every value that the text form can express is read back.** -/
theorem after_write {v : Value} (plain : v.Plain) : st.ReadsBack v := by
  induction plain with
  | null => exact readsBack_of_leaf (fun _ => rfl) fun _ => tokens_writeLeaf _ (Or.inl rfl)
  | boolean b =>
    exact readsBack_of_leaf (fun _ => rfl) fun _ => tokens_writeLeaf _ (Or.inr (Or.inl ⟨b, rfl⟩))
  | whole n => exact readsBack_of_leaf (fun _ => rfl) (tokens_writeWhole n)
  | text s =>
    exact readsBack_of_leaf (fun _ => rfl) fun _ => tokens_writeLeaf _ (Or.inr (Or.inr ⟨s, rfl⟩))
  | @array items _ ih =>
    intro q frames depth rest expects stops
    have opened : q.next .openArray = some (.firstItem frames) :=
      expects .openArray fun same => nomatch same
    cases items with
    | nil =>
      rw [Style.write]
      exact (State.after_mark rfl opened _).trans (State.after_mark rfl rfl rest)
    | cons v vs =>
      rw [Style.write]
      simp only [List.cons_append, List.append_assoc, List.nil_append]
      rw [State.after_mark rfl opened, State.after_blanks (blank.lead _),
        ih v List.mem_cons_self (State.expects_firstItem frames)
          (stops_writeItems st _ vs (stops_close blank depth (by decide) rest)),
        State.complete, after_writeItems blank (fun w member => ih w (List.mem_cons_of_mem v member))
          _ _ _ (stops_close blank depth (by decide) rest), State.after_blanks (blank.lead depth)]
      refine State.after_mark rfl ?_ rest
      rw [State.next, List.reverse_append, List.reverse_reverse]
      rfl
  | @object members named _ ih =>
    intro q frames depth rest expects stops
    have opened : q.next .openObject = some (.firstName frames) :=
      expects .openObject fun same => nomatch same
    cases members with
    | nil =>
      rw [Style.write]
      exact (State.after_mark rfl opened _).trans (State.after_mark rfl rfl rest)
    | cons m ms =>
      obtain ⟨name, v⟩ := m
      rw [Style.write]
      simp only [List.cons_append, List.append_assoc, List.nil_append]
      rw [State.after_mark rfl opened, State.after_blanks (blank.lead _),
        after_writeName blank (named (name, v) List.mem_cons_self) rfl,
        ih (name, v) List.mem_cons_self (State.expects_value _)
          (stops_writeMembers st _ ms (stops_close blank depth (by decide) rest)),
        State.complete, after_writeMembers blank
          (fun w member => named w (List.mem_cons_of_mem _ member))
          (fun w member => ih w (List.mem_cons_of_mem _ member)) _ _ _
          (stops_close blank depth (by decide) rest), State.after_blanks (blank.lead depth)]
      refine State.after_mark rfl ?_ rest
      rw [State.next, List.reverse_append, List.reverse_reverse]
      rfl

/-- A text is read back as the value it was written for. -/
theorem read_write {v : Value} (plain : v.Plain) :
    read (String.ofList (st.write 0 v)) = some v := by
  have whole : (State.value []).after (st.write 0 v ++ []) = (State.complete v []).after [] :=
    after_write blank plain (State.expects_value []) (stops_nil isNumeric)
  rw [List.append_nil, State.after, State.complete, State.after_nil] at whole
  rw [read, String.toList_ofList]
  cases read : tokens (st.write 0 v) with
  | none =>
    rw [read] at whole
    exact nomatch whole
  | some ts =>
    rw [read, Option.bind_some] at whole
    show (ts.foldlM State.next (.value [])).bind _ = _
    rw [whole]
    rfl

end

/-- The compact form is read back. -/
theorem read_compact {v : Value} (plain : v.Plain) : read v.compact = some v :=
  read_write Style.isBlank_compact plain

/-- The spread form is read back. -/
theorem read_spread {v : Value} (plain : v.Plain) : read v.spread = some v :=
  read_write Style.isBlank_spread plain

end Json
end StreamCatalog
