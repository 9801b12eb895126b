import StreamCatalog.Proofs.Catalog.Learning

/-!
# The ends of a time span

The start of a stream's time span is the least of the points in time that were offered by the
record itself and by the segments so far, and its end is the greatest.  Both are said at once: a
point in time is preferred to another by a total order (`Prefers`), and the best of those that
were offered is known from them, not from the order in which they came (`Best.eq_some_iff`).

An attribute without a point in time offers nothing, whatever else it holds.  An update keeps the
best (`Best.timestamp?_takeTime`).
-/

namespace StreamCatalog
namespace Catalog
namespace Updater

open Time (Instant)

/-- The points in time that some records offer under a name. -/
def offered (name : String) (rs : List Record) : List Instant :=
  rs.filterMap (·.timestamp? name)

theorem offered_concat (name : String) (rs : List Record) (r : Record) :
    offered name (rs ++ [r]) = offered name rs ++ (r.timestamp? name).toList := by
  rw [offered, List.filterMap_append]
  refine congrArg (offered name rs ++ ·) ?_
  cases found : r.timestamp? name <;> simp [found]

/-! ## The best of them -/

/-- Is a way to prefer one point in time to another a total order? -/
structure Prefers (good : Instant → Instant → Bool) : Prop where
  total : ∀ s t, good s t = true ∨ good t s = true
  trans : ∀ {s t u}, good s t = true → good t u = true → good s u = true
  antisymm : ∀ {s t}, good s t = true → good t s = true → s = t

theorem prefers_earlier : Prefers fun current t => decide (current ≤ t) := by
  constructor <;> simp only [decide_eq_true_iff]
  · exact Instant.le_total
  · exact Instant.le_trans
  · exact Instant.le_antisymm

theorem prefers_later : Prefers fun current t => decide (t ≤ current) := by
  constructor <;> simp only [decide_eq_true_iff]
  · exact fun s t => Instant.le_total t s
  · exact fun later latest => Instant.le_trans latest later
  · exact fun later earlier => Instant.le_antisymm earlier later

/-- The best of some points in time, which is one of them, and none if there are none. -/
inductive Best (good : Instant → Instant → Bool) (ts : List Instant) : Option Instant → Prop
  | absent (nothing : ts = []) : Best good ts none
  | among {t : Instant} (member : t ∈ ts) (best : ∀ s ∈ ts, good t s = true) :
    Best good ts (some t)

section Best

variable {good : Instant → Instant → Bool} {ts : List Instant} {found : Option Instant}

theorem Best.eq_some_iff (prefers : Prefers good) (best : Best good ts found) {t : Instant} :
    found = some t ↔ t ∈ ts ∧ ∀ s ∈ ts, good t s = true := by
  cases best with
  | absent nothing =>
    refine iff_of_false nofun fun holds => ?_
    rw [nothing] at holds
    exact nomatch holds.1
  | @among u member best =>
    constructor
    · rintro ⟨rfl⟩
      exact ⟨member, best⟩
    · rintro ⟨member', best'⟩
      exact congrArg _ (prefers.antisymm (best t member') (best' u member))

/-- A point in time that is offered, unless the one that is there is at least as good. -/
def better (good : Instant → Instant → Bool) (current : Option Instant) (t : Instant) : Instant :=
  match current with
  | none => t
  | some old => if good old t then old else t

/-- The better one of the best and of one more is the best again. -/
theorem Best.concat (prefers : Prefers good) (best : Best good ts found) (t : Instant) :
    Best good (ts ++ [t]) (some (better good found t)) := by
  have self : good t t = true := (prefers.total t t).elim id id
  have both {u : Instant} (first : ∀ s ∈ ts, good u s = true) (last : good u t = true) :
      ∀ s ∈ ts ++ [t], good u s = true :=
    List.forall_mem_append.mpr ⟨first, List.forall_mem_singleton.mpr last⟩
  have offered : t ∈ ts ++ [t] := List.mem_append_right ts (List.mem_singleton_self t)
  cases best with
  | absent nothing =>
    refine .among offered (both (fun s member => ?_) self)
    rw [nothing] at member
    exact nomatch member
  | @among old member best =>
    rw [better]
    split
    · next kept => exact .among (List.mem_append_left _ member) (both best kept)
    · next worse =>
      have preferred : good t old = true := (prefers.total old t).resolve_left worse
      exact .among offered (both (fun s there => prefers.trans preferred (best s there)) self)

/-- A time span's end after a segment: the one that was there, or the better of the two. -/
theorem timestamp?_takeTime (name : String) (good : Instant → Instant → Bool)
    (r child : Record) :
    (takeTime name good r child).timestamp? name =
      (child.timestamp? name).elim (r.timestamp? name) fun t =>
        some (better good (r.timestamp? name) t) := by
  have renewed (t : Instant) : (r.set name (.timestamp t)).timestamp? name = some t := by
    rw [Record.timestamp?, Record.values?_set, if_pos rfl]
    rfl
  unfold takeTime
  cases child.timestamp? name with
  | none => rfl
  | some t =>
    cases old : r.timestamp? name with
    | none => exact renewed t
    | some current =>
      rw [Option.elim_some, better]
      dsimp only
      by_cases kept : good current t = true
      · rw [if_pos kept, if_pos kept, old]
      · rw [if_neg kept, if_neg kept, renewed]

theorem Best.timestamp?_takeTime {name : String} {r child : Record} (prefers : Prefers good)
    (best : Best good ts (r.timestamp? name)) :
    Best good (ts ++ (child.timestamp? name).toList)
      ((takeTime name good r child).timestamp? name) := by
  rw [Updater.timestamp?_takeTime]
  cases child.timestamp? name with
  | none =>
    rw [Option.toList_none, List.append_nil]
    exact best
  | some t => exact best.concat prefers t

end Best

end Updater
end Catalog
end StreamCatalog
