import Mathlib.Data.List.Pairwise
import Mathlib.Order.Bounds.Defs
import StreamCatalog.Proofs.Catalog.Contents
import StreamCatalog.Proofs.Catalog.TimeSpans
import StreamCatalog.Proofs.Outcomes

/-!
# The order of updaters and of segments

What a stream's record becomes does not depend on the order in which the standard updaters stand
in a list (`foldIn_of_perm`), and its time span does not depend on the order of the segments.

## Updaters

Each standard updater acts on one attribute: it looks at no other attribute of the stream's
record and changes no other (`ActsOn`).  No two of them act on the same one, and only the
footprint's may fail.  So any two of them may change places (`pairwise_commutes`), and with them
all, by induction on the way in which one list is a permutation of the other.

## Segments

The start of the time span is the least of the points in time that were offered by the record
itself and by the segments (`Best`), and the end is the greatest.  What is offered does not
depend on the order, and instants are ordered totally, so neither does the best.  An attribute
without a point in time offers nothing, whatever else it holds.
-/

namespace StreamCatalog
namespace Catalog
namespace Updater

open Time (Instant)

variable {parent child learned : Record} {op : Footprint.Operator}

/-! ## Updates of one attribute -/

/-- Does an update look at one attribute of a record only, and change no other? -/
structure ActsOn (name : String) (f : Record → Except Breakdown Record) : Prop where
  touches : ∀ {r s}, f r = .ok s → Touches name r s
  agrees : ∀ {r s}, r.values? name = s.values? name →
    (f r).map (·.values? name) = (f s).map (·.values? name)

/-- Updates of two attributes may change places if one of them never fails. -/
theorem ActsOn.comm {m n : String} {f : Record → Record} {g : Record → Except Breakdown Record}
    (hf : ActsOn m fun r => .ok (f r)) (hg : ActsOn n g) (apart : m ≠ n) (r : Record) :
    g (f r) = (g r).map f := by
  have first (s : Record) : Touches m s (f s) := hf.touches rfl
  have seen : (f r).values? n = r.values? n := (first r).2 n apart.symm
  have alike := hg.agrees seen
  cases before : g r with
  | error e =>
    cases after : g (f r) with
    | error e' =>
      rw [before, after] at alike
      exact congrArg Except.error (Except.error.inj alike)
    | ok t =>
      rw [before, after] at alike
      exact nomatch alike
  | ok s =>
    cases after : g (f r) with
    | error e' =>
      rw [before, after] at alike
      exact nomatch alike
    | ok t =>
      rw [before, after] at alike
      have there : t.values? n = s.values? n := Except.ok.inj alike
      have here : (f r).values? m = (f s).values? m :=
        Except.ok.inj (hf.agrees ((hg.touches before).2 m apart).symm)
      have second := hg.touches before
      have third := hg.touches after
      refine congrArg Except.ok (Record.eq_of_values? ?_ fun name => ?_)
      · rw [third.1, (first r).1, (first s).1, second.1]
      · -- Either update decides about its own attribute, and all others stay.
        by_cases atM : name = m
        · rw [atM, third.2 m apart, here]
        · rw [(first s).2 name atM]
          by_cases atN : name = n
          · rw [atN, there]
          · rw [third.2 name atN, (first r).2 name atM, second.2 name atN]

/-! ## The standard updaters act on one attribute each -/

theorem actsOn_derived (child : Record) :
    ActsOn Name.derived fun r => .ok (addDerived r child) where
  touches := by
    rintro r s ⟨rfl⟩
    refine ⟨id_addDerived r child, fun other apart => ?_⟩
    rw [values?_addDerived, if_neg apart]
  agrees := by
    intro r s same
    simp only [Except.map, values?_addDerived, same]

/-- A record with another value under a name, if there is one for it. -/
def renew (name : String) (r : Record) : Option Value → Record
  | none => r
  | some v => r.set name v

/-- A record that is renewed under a name by what was there. -/
theorem actsOn_renew (name : String)
    (choose : Option (List Value) → Except Breakdown (Option Value)) :
    ActsOn name fun r => (choose (r.values? name)).map (renew name r) where
  touches := by
    intro r s done
    obtain ⟨chosen, -, rfl⟩ := map_eq_ok_iff.mp done
    cases chosen with
    | none => exact touches_self name r
    | some v => exact touches_set name r v
  agrees := by
    intro r s same
    rw [same]
    cases choose (s.values? name) with
    | error e => rfl
    | ok v =>
      refine congrArg Except.ok ?_
      cases v with
      | none => exact same
      | some v => simp only [renew, Record.values?_set, if_true]

/-- The point in time that replaces the one that is there, unless that one is at least as good as
the one that is offered. -/
def newTime? (good : Instant → Instant → Bool) (current offered : Option Instant) :
    Option Value :=
  match offered, current with
  | none, _ => none
  | some t, none => some (.timestamp t)
  | some t, some old => if good old t then none else some (.timestamp t)

theorem takeTime_eq (name : String) (good : Instant → Instant → Bool) (r child : Record) :
    takeTime name good r child =
      renew name r (newTime? good (r.timestamp? name) (child.timestamp? name)) := by
  unfold takeTime newTime?
  cases child.timestamp? name with
  | none => rfl
  | some t =>
    cases r.timestamp? name with
    | none => rfl
    | some old =>
      dsimp only
      split <;> rfl

theorem actsOn_takeTime (name : String) (good : Instant → Instant → Bool) (child : Record) :
    ActsOn name fun r => .ok (takeTime name good r child) := by
  simp only [takeTime_eq]
  exact actsOn_renew name fun values =>
    .ok (newTime? good (values.bind (·.findSome? Value.timestamp?)) (child.timestamp? name))

/-- The location that a record gets from a segment's, given the location that it has; none if
it keeps the one it has. -/
def newLocation? (op : Footprint.Operator) (location : Option String) (child : Record) :
    Except Breakdown (Option Value) :=
  match child.text? Name.location with
  | none => .ok none
  | some text =>
    match leavesAt location ++ leavesAt (some text) with
    | [] => .ok none
    | members => (locationText? op members).map (Option.map Value.text)

theorem addLocation_eq (op : Footprint.Operator) (r child : Record) :
    addLocation op r child =
      (newLocation? op (r.text? Name.location) child).map (renew Name.location r) := by
  unfold addLocation newLocation?
  cases child.text? Name.location with
  | none => rfl
  | some text =>
    dsimp only
    generalize leavesAt (r.text? Name.location) ++ leavesAt (some text) = members
    cases members with
    | nil => rfl
    | cons g gs =>
      dsimp only
      cases locationText? op (g :: gs) with
      | error e => rfl
      | ok place => cases place <;> rfl

theorem actsOn_location (op : Footprint.Operator) (child : Record) :
    ActsOn Name.location fun r => addLocation op r child := by
  simp only [addLocation_eq]
  exact actsOn_renew Name.location fun values =>
    newLocation? op (values.bind (·.findSome? Value.text?)) child

/-! ## Lists of updaters -/

/-- May two updaters change places? -/
def Commutes (child : Record) (u v : Updater) : Prop :=
  ∀ r, (apply r child u >>= fun s => apply s child v) =
    apply r child v >>= fun s => apply s child u

theorem commutes_of_actsOn {m n : String} {f : Record → Record} {u v : Updater}
    (sure : ∀ r, apply r child u = .ok (f r)) (hf : ActsOn m fun r => .ok (f r))
    (hg : ActsOn n fun r => apply r child v) (apart : m ≠ n) : Commutes child u v := by
  intro r
  have swapped := hf.comm hg apart r
  rw [sure r]
  refine swapped.trans ?_
  cases apply r child v with
  | error e => rfl
  | ok s => exact (sure s).symm

/-- **Any two standard updaters may change places.** -/
theorem pairwise_commutes (op : Footprint.Operator) (child : Record) :
    [derived, temporalStart, temporalEnd, location op].Pairwise (Commutes child) := by
  have derived := actsOn_derived child
  have start := actsOn_takeTime Name.temporalStart (fun current t => decide (current ≤ t)) child
  have finish := actsOn_takeTime Name.temporalEnd (fun current t => decide (t ≤ current)) child
  have place := actsOn_location op child
  simp only [List.pairwise_cons, List.forall_mem_cons]
  refine ⟨⟨?_, ?_, ?_, nofun⟩, ⟨?_, ?_, nofun⟩, ⟨?_, nofun⟩, nofun, .nil⟩
  · exact commutes_of_actsOn (fun r => apply.eq_1 r child) derived start (by decide)
  · exact commutes_of_actsOn (fun r => apply.eq_1 r child) derived finish (by decide)
  · exact commutes_of_actsOn (fun r => apply.eq_1 r child) derived place (by decide)
  · exact commutes_of_actsOn (fun r => apply.eq_2 r child) start finish (by decide)
  · exact commutes_of_actsOn (fun r => apply.eq_2 r child) start place (by decide)
  · exact commutes_of_actsOn (fun r => apply.eq_3 r child) finish place (by decide)

theorem applyAll_cons (r child : Record) (u : Updater) (us : List Updater) :
    applyAll r child (u :: us) = apply r child u >>= fun s => applyAll s child us := by
  rw [applyAll]
  cases apply r child u <;> rfl

/-- Updaters that may change places may stand in any order. -/
theorem applyAll_eq_of_perm {us vs : List Updater} (order : us.Perm vs)
    (commute : ∀ u ∈ us, ∀ v ∈ us, Commutes child u v) (r : Record) :
    applyAll r child us = applyAll r child vs := by
  induction order generalizing r with
  | nil => rfl
  | @cons u us vs _ ih =>
    rw [applyAll_cons, applyAll_cons]
    have later := ih fun v hv w hw =>
      commute v (List.mem_cons_of_mem u hv) w (List.mem_cons_of_mem u hw)
    simp only [later]
  | swap u v us =>
    have swapped := commute v List.mem_cons_self u (List.mem_cons_of_mem v List.mem_cons_self) r
    calc applyAll r child (v :: u :: us)
        = (apply r child v >>= fun s => apply s child u) >>= fun s => applyAll s child us := by
          simp only [applyAll_cons, bind_assoc]
      _ = (apply r child u >>= fun s => apply s child v) >>= fun s => applyAll s child us := by
          rw [swapped]
      _ = applyAll r child (u :: v :: us) := by
          simp only [applyAll_cons, bind_assoc]
  | trans first _ ih₁ ih₂ =>
    rw [ih₁ commute, ih₂ fun v hv w hw => commute v (first.mem_iff.mpr hv) w (first.mem_iff.mpr hw)]

/-! ## Several segments -/

/-- A stream's record after it was updated with the records of several segments. -/
def foldIn (u : Updater) (parent : Record) (children : List Record) : Except Breakdown Record :=
  children.foldlM (fun r child => apply r child u) parent

theorem foldIn_cons (u : Updater) (parent child : Record) (children : List Record) :
    foldIn u parent (child :: children) =
      apply parent child u >>= fun learned => foldIn u learned children :=
  List.foldlM_cons

/-- What holds at the start and is kept by every update, holds in the end. -/
theorem foldIn_induction {u : Updater} {P : Record → List Record → Prop} {children : List Record}
    {last : Record} (step : ∀ {r child learned seen}, P r seen →
      apply r child u = .ok learned → P learned (seen ++ [child]))
    (start : P parent []) (run : foldIn u parent children = .ok last) : P last children := by
  suffices onward : ∀ seen r, P r seen → foldIn u r children = .ok last →
      P last (seen ++ children) from onward [] parent start run
  clear run
  intro seen r holds run
  induction children generalizing r seen with
  | nil =>
    obtain rfl : r = last := Except.ok.inj run
    rwa [List.append_nil]
  | cons child children ih =>
    rw [foldIn_cons] at run
    obtain ⟨learned, first, run⟩ := bind_eq_ok_iff.mp run
    rw [List.append_cons]
    exact ih (seen ++ [child]) learned (step holds first) run

/-- The standard updaters do not fail if the operator for footprints does not. -/
theorem exists_foldIn_standard (works : ∀ g, ∃ reduced, op.apply g = .ok reduced)
    (parent : Record) (children : List Record) :
    ∃ last, foldIn (.standard op) parent children = .ok last := by
  induction children generalizing parent with
  | nil => exact ⟨parent, rfl⟩
  | cons child children ih =>
    have located (r : Record) : ∃ learned, addLocation op r child = .ok learned := by
      rw [addLocation_eq]
      unfold newLocation?
      split
      · exact ⟨_, rfl⟩
      · split
        · exact ⟨_, rfl⟩
        · obtain ⟨reduced, applied⟩ := works (.collection _)
          rw [locationText?, applied]
          exact ⟨_, rfl⟩
    obtain ⟨learned, first⟩ : ∃ learned, apply parent child (.standard op) = .ok learned := by
      simp only [standard, apply, applyAll]
      obtain ⟨learned, first⟩ := located _
      exact ⟨learned, by rw [first]⟩
    obtain ⟨last, rest⟩ := ih learned
    exact ⟨last, by rw [foldIn_cons, first]; exact rest⟩

/-! ## The time span -/

theorem timestamp?_congr {r s : Record} {name : String} (same : r.values? name = s.values? name) :
    r.timestamp? name = s.timestamp? name := by
  rw [Record.timestamp?, same, Record.timestamp?]

/-- The standard updaters leave a time span as if each end had been looked at alone. -/
theorem timestamps_of_apply_standard (done : apply parent child (.standard op) = .ok learned) :
    learned.timestamp? Name.temporalStart =
        (takeTime Name.temporalStart (fun current t => decide (current ≤ t)) parent
          child).timestamp? Name.temporalStart ∧
      learned.timestamp? Name.temporalEnd =
        (takeTime Name.temporalEnd (fun current t => decide (t ≤ current)) parent
          child).timestamp? Name.temporalEnd := by
  have place := touches_addLocation (addLocation_of_standard done)
  have listed : Touches Name.derived parent (addDerived parent child) :=
    (actsOn_derived child).touches rfl
  have start (r : Record) := touches_takeTime Name.temporalStart
    (fun current t => decide (current ≤ t)) r child
  have finish (r : Record) := touches_takeTime Name.temporalEnd
    (fun current t => decide (t ≤ current)) r child
  have early {r : Record} (same : r.values? Name.temporalStart = parent.values? Name.temporalStart) :=
    Except.ok.inj ((actsOn_takeTime Name.temporalStart (fun current t => decide (current ≤ t))
      child).agrees same)
  have late {r : Record} (same : r.values? Name.temporalEnd = parent.values? Name.temporalEnd) :=
    Except.ok.inj ((actsOn_takeTime Name.temporalEnd (fun current t => decide (t ≤ current))
      child).agrees same)
  constructor <;> refine timestamp?_congr ?_
  · rw [place.2 _ (by decide), (finish _).2 _ (by decide)]
    exact early (listed.2 _ (by decide))
  · rw [place.2 _ (by decide)]
    exact late (((start _).2 _ (by decide)).trans (listed.2 _ (by decide)))

/-- After some segments, the best point in time is that of all that were offered. -/
theorem best_of_foldIn {u : Updater} {name : String} {good : Instant → Instant → Bool}
    (prefers : Prefers good) (step : ∀ {r child learned : Record}, apply r child u = .ok learned →
      learned.timestamp? name = (takeTime name good r child).timestamp? name)
    {children : List Record} {last : Record} (run : foldIn u parent children = .ok last) :
    Best good (offered name (parent :: children)) (last.timestamp? name) := by
  have start : Best good (offered name [parent]) (parent.timestamp? name) := by
    rw [← List.nil_append [parent], offered_concat]
    cases parent.timestamp? name with
    | none => exact .absent rfl
    | some t => exact Best.concat prefers (.absent rfl) t
  refine foldIn_induction (P := fun r seen => Best good (offered name (parent :: seen))
    (r.timestamp? name)) (fun {r child learned seen} best done => ?_) start run
  rw [← List.cons_append, offered_concat, step done]
  exact best.timestamp?_takeTime prefers

theorem timeSpan_of_foldIn_standard {children : List Record} {last : Record}
    (run : foldIn (.standard op) parent children = .ok last) :
    (∀ t, last.timestamp? Name.temporalStart = some t ↔
        IsLeast {s | s ∈ offered Name.temporalStart (parent :: children)} t) ∧
      ∀ t, last.timestamp? Name.temporalEnd = some t ↔
        IsGreatest {s | s ∈ offered Name.temporalEnd (parent :: children)} t := by
  have start := best_of_foldIn prefers_earlier (fun done => (timestamps_of_apply_standard done).1) run
  have finish := best_of_foldIn prefers_later (fun done => (timestamps_of_apply_standard done).2) run
  constructor <;> intro t
  · rw [start.eq_some_iff prefers_earlier]
    simp only [decide_eq_true_iff]
    exact Iff.rfl
  · rw [finish.eq_some_iff prefers_later]
    simp only [decide_eq_true_iff]
    exact Iff.rfl

theorem untouched_of_foldIn_standard {children : List Record} {last : Record}
    (run : foldIn (.standard op) parent children = .ok last) :
    last.id = parent.id ∧ ∀ name, name ∉ standardNames → last.values? name = parent.values? name := by
  refine foldIn_induction (P := fun r _ => r.id = parent.id ∧
    ∀ name, name ∉ standardNames → r.values? name = parent.values? name)
    (fun {r child learned seen} kept done => ?_) ⟨rfl, fun _ _ => rfl⟩ run
  obtain ⟨id, -, others⟩ := apply_standard_spec done
  exact ⟨id.trans kept.1, fun name apart => (others name apart).trans (kept.2 name apart)⟩

/-! ## The order does not matter -/

theorem apply_list_of_perm {us : List Updater}
    (order : us.Perm [derived, temporalStart, temporalEnd, location op]) (parent child : Record) :
    apply parent child (.list us) = apply parent child (.standard op) := by
  have commute : ∀ u ∈ us, ∀ v ∈ us, Commutes child u v := by
    have symm : Std.Symm (Commutes child) := ⟨fun u v swap r => (swap r).symm⟩
    have standing := List.Pairwise.forall_of_forall (fun u _ r => rfl) (pairwise_commutes op child)
    exact fun u hu v hv => standing (order.mem_iff.mp hu) (order.mem_iff.mp hv)
  rw [standard, apply, apply]
  exact applyAll_eq_of_perm order commute parent

/-- **The order of the updaters does not matter, nor does that of the segments for the time span.**
With the standard updaters in any order, a stream's record becomes what it becomes with them in
their own order, and only their four attributes may change; and after segments in any order, its
time span goes from the least start to the greatest end of those that the record itself and the
segments offer. -/
theorem foldIn_of_perm {us : List Updater}
    (order : us.Perm [derived, temporalStart, temporalEnd, location op]) (parent : Record)
    (children : List Record) :
    foldIn (.list us) parent children = foldIn (.standard op) parent children ∧
      ((∀ g, ∃ reduced, op.apply g = .ok reduced) →
        ∃ last, foldIn (.list us) parent children = .ok last) ∧
      (∀ last, foldIn (.list us) parent children = .ok last → last.id = parent.id ∧
        ∀ name, name ∉ [Name.derived, Name.temporalStart, Name.temporalEnd, Name.location] →
          last.values? name = parent.values? name) ∧
      ∀ shuffled, shuffled.Perm children → ∀ last, foldIn (.list us) parent shuffled = .ok last →
        (∀ t, last.timestamp? Name.temporalStart = some t ↔
          IsLeast {s | s ∈ offered Name.temporalStart (parent :: children)} t) ∧
        ∀ t, last.timestamp? Name.temporalEnd = some t ↔
          IsGreatest {s | s ∈ offered Name.temporalEnd (parent :: children)} t := by
  have same (segments : List Record) :
      foldIn (.list us) parent segments = foldIn (.standard op) parent segments := by
    unfold foldIn
    simp only [apply_list_of_perm order]
  refine ⟨same children, fun works => ?_, fun last run => ?_, fun shuffled mixed last run => ?_⟩
  · rw [same]
    exact exists_foldIn_standard works parent children
  · rw [same] at run
    exact untouched_of_foldIn_standard run
  · rw [same] at run
    have offers (name : String) : {s | s ∈ offered name (parent :: shuffled)} =
        {s | s ∈ offered name (parent :: children)} :=
      Set.ext fun s => ((mixed.cons parent).filterMap _).mem_iff
    rw [← offers, ← offers]
    exact timeSpan_of_foldIn_standard run

/-- A record whose start stands behind a text, and whose end is a text only. -/
def roadstead : Record :=
  ((Record.blank ⟨1, by decide⟩).setAll Name.temporalStart
    [.text "at dawn", .timestamp ⟨60, 0, by decide, by decide⟩]).set Name.temporalEnd (.text "open")

/-- Segments with a time span and a footprint, with an end only, and with a number for a start. -/
def convoy : List Record :=
  [(((Record.blank ⟨2, by decide⟩).set Name.temporalStart
      (.timestamp ⟨30, 0, by decide, by decide⟩)).set Name.temporalEnd
      (.timestamp ⟨90, 0, by decide, by decide⟩)).set Name.location (.text "POINT(1 2)"),
    (Record.blank ⟨3, by decide⟩).set Name.temporalEnd
      (.timestamp ⟨120, 0, by decide, by decide⟩),
    (Record.blank ⟨4, by decide⟩).set Name.temporalStart (.integer 7)]

/-- The standard updaters, last to first. -/
def lastToFirst : List Updater := [location (.footprint none), temporalEnd, temporalStart, derived]

theorem foldIn_of_perm_convoy :
    lastToFirst.Perm [derived, temporalStart, temporalEnd, location (.footprint none)] ∧
      foldIn (.list lastToFirst) roadstead convoy =
        foldIn (.standard (.footprint none)) roadstead convoy ∧
      (∃ last, foldIn (.list lastToFirst) roadstead convoy = .ok last ∧ last.id = roadstead.id ∧
        ∀ name, name ∉ [Name.derived, Name.temporalStart, Name.temporalEnd, Name.location] →
          last.values? name = roadstead.values? name) ∧
      ∃ last, foldIn (.list lastToFirst) roadstead convoy.reverse = .ok last ∧
        (∀ t, last.timestamp? Name.temporalStart = some t ↔
          IsLeast {s | s ∈ offered Name.temporalStart (roadstead :: convoy)} t) ∧
        ∀ t, last.timestamp? Name.temporalEnd = some t ↔
          IsGreatest {s | s ∈ offered Name.temporalEnd (roadstead :: convoy)} t := by
  have order : lastToFirst.Perm [derived, temporalStart, temporalEnd, location (.footprint none)] :=
    List.reverse_perm [derived, temporalStart, temporalEnd, location (.footprint none)]
  have works : ∀ g, ∃ reduced, (Footprint.Operator.footprint none).apply g = .ok reduced :=
    fun g => ⟨Footprint.toEnvelopes g, rfl⟩
  obtain ⟨same, exists_last, untouched, timeSpan⟩ := foldIn_of_perm order roadstead convoy
  obtain ⟨last, run⟩ := exists_last works
  obtain ⟨last', run'⟩ := (foldIn_of_perm order roadstead convoy.reverse).2.1 works
  exact ⟨order, same, ⟨last, run, untouched last run⟩,
    ⟨last', run', timeSpan _ convoy.reverse_perm last' run'⟩⟩

end Updater
end Catalog
end StreamCatalog
