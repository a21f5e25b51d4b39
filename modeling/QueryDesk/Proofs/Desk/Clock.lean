import QueryDesk.Proofs.Desk.Steps

/-!
# Clocks that do not go back

When one time lies before another (`Timestamp.Precedes`), when two times are the same instant
(`Timestamp.Meets`), and what the clock of a desk is still going to show (`Desk.shows`).  A clock
that never goes back (`Desk.NeverGoesBack`) may show a time twice; one that always goes on
(`Desk.AlwaysGoesOn`) does not, until its readings have run out and the last one is shown over and
over.

Times are compared by their instants; a time that knows its distance from universal time and one
that does not stand nowhere to each other (`Timestamp.compare?_eq`), so a clock that goes on either
always knows its distance or never does.
-/

set_option autoImplicit false

namespace QueryDesk

/-! ## Times -/

namespace Timestamp

variable {a b c : Timestamp}

/-- Says that a time lies before another. -/
def Precedes (a b : Timestamp) : Prop := a.compare? b = some .lt

/-- Says that two times are the same instant. -/
def Meets (a b : Timestamp) : Prop := a.compare? b = some .eq

instance (a b : Timestamp) : Decidable (a.Precedes b) := inferInstanceAs (Decidable (_ = _))

instance (a b : Timestamp) : Decidable (a.Meets b) := inferInstanceAs (Decidable (_ = _))

/-- Times are compared by instant, where both know their distance from universal time or neither
does. -/
theorem compare?_eq (a b : Timestamp) : a.compare? b =
    if a.ahead.isSome = b.ahead.isSome then some (compare a.instant b.instant) else none := by
  cases ha : a.ahead <;> cases hb : b.ahead <;> simp [compare?, instant?, instant, ha, hb]

theorem precedes_iff :
    a.Precedes b ↔ a.ahead.isSome = b.ahead.isSome ∧ a.instant < b.instant := by
  rw [Precedes, compare?_eq]
  split <;> simp_all [Int.compare_eq_lt]

theorem meets_iff : a.Meets b ↔ a.ahead.isSome = b.ahead.isSome ∧ a.instant = b.instant := by
  rw [Meets, compare?_eq]
  split <;> simp_all

theorem Meets.refl (a : Timestamp) : a.Meets a := meets_iff.mpr ⟨rfl, rfl⟩

/-- A time that is no later than another, which is no later than a third one. -/
theorem alike_of_not_later (h : a.Precedes b ∨ a.Meets b) :
    a.ahead.isSome = b.ahead.isSome ∧ a.instant ≤ b.instant := by
  rcases h with h | h
  · exact ⟨(precedes_iff.mp h).1, Int.le_of_lt (precedes_iff.mp h).2⟩
  · exact ⟨(meets_iff.mp h).1, Int.le_of_eq (meets_iff.mp h).2⟩

end Timestamp

/-! ## What a clock shows -/

namespace Desk

variable {d d' : Desk}

/-- The times that the clock of a desk is going to show, the next one first: its own, or those of
the clock on the wall. -/
def shows (d : Desk) : List Timestamp :=
  match d.clock with
  | some clock => clock.current :: clock.later
  | none => (d.journal.wall.current :: d.journal.wall.later).map Timestamp.toUniversal

/-- Says that a clock shows no time that lies before one it shows earlier. -/
def NeverGoesBack (d : Desk) : Prop := d.shows.Pairwise fun a b => a.Precedes b ∨ a.Meets b

/-- Says that every time a clock shows lies behind all that it shows earlier. -/
def AlwaysGoesOn (d : Desk) : Prop := d.shows.Pairwise Timestamp.Precedes

/-- Says that a clock has nothing left to show but its last reading, over and over. -/
def HasRunDown (d : Desk) : Prop := ∃ time, d.shows = [time]

/-- Says that the clock of a desk has shown a time since: the next one that it had, which stays when
it was the last. -/
structure HasShown (d : Desk) (time : Timestamp) (d' : Desk) : Prop where
  own : d'.clock.isSome = d.clock.isSome
  next : d.shows = time :: d'.shows ∨ d.shows = [time] ∧ d'.shows = [time]

/-- The clock gives the next of its times and changes nothing but itself. -/
theorem perform_now_shows (d : Desk) : ∃ time clock journal,
    now.perform d = (.ok time, { d with clock, journal }) ∧
      d.HasShown time { d with clock, journal } := by
  obtain ⟨dataset, store, ids, clock, stopwatch, replies, asked, journal⟩ := d
  cases clock with
  | some clock =>
    refine ⟨clock.current, some clock.take.2, journal, rfl, rfl, ?_⟩
    obtain ⟨current, _ | ⟨next, later⟩⟩ := clock
    · exact .inr ⟨rfl, rfl⟩
    · exact .inl rfl
  | none =>
    refine ⟨journal.wall.current.toUniversal, none, { journal with wall := journal.wall.take.2 },
      rfl, rfl, ?_⟩
    obtain ⟨⟨current, _ | ⟨next, later⟩⟩, files, folders, other⟩ := journal
    · exact .inr ⟨rfl, rfl⟩
    · exact .inl rfl

/-- A query is opened at the next time that the clock shows. -/
theorem perform_create_shows (d : Desk) (question : Text) : ∃ time d',
    (create question).perform d =
        (.ok (d.store.add (d.ids.fresh d.store.ids).1 question time).1, d') ∧
      d'.store = (d.store.add (d.ids.fresh d.store.ids).1 question time).2 ∧
      d.HasShown time d' := by
  obtain ⟨time, clock, journal, hnow, hshown⟩ := d.perform_now_shows
  refine ⟨time, { d with
    store := (d.store.add (d.ids.fresh d.store.ids).1 question time).2
    ids := (d.ids.fresh d.store.ids).2
    clock
    journal }, ?_, rfl, hshown.own, hshown.next⟩
  rw [create, Action.perform_bind_of_ok hnow]
  rfl

end Desk
end QueryDesk
