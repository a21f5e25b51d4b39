import QueryDesk.Json.Reader
import QueryDesk.Proofs.Number.Digits
import QueryDesk.Proofs.Results
import QueryDesk.Proofs.Text.Digit
import QueryDesk.Value.Written

/-!
# What was read can be shown

A value can be shown unless a whole number that is too long stands in it somewhere
(`Value.IsShowable`).  The reader of JSON refuses such numerals, and so all that it reads can be
shown (`Json.isShowable_of_readValue`), and written.
-/

set_option autoImplicit false

namespace QueryDesk

namespace Value

/-- Says that a value can be shown. -/
def IsShowable (v : Value) : Prop := ∃ t, v.shown = .ok t

/-- Says that all fields of some can be shown. -/
def AreShowable (fields : List (Text × Value)) : Prop := ∀ p ∈ fields, p.2.IsShowable

variable {v : Value} {items : List Value} {fields : List (Text × Value)}

/-! ## Values, one kind after the other -/

theorem shown_list (items : List Value) :
    (list items).shown = (shownItems items).map (bracketed "[" "]") := rfl

theorem shown_record (fields : List (Text × Value)) :
    (record fields).shown = (shownFields fields).map (bracketed "\x7b" "\x7d") := rfl

theorem shown_whole (n : Int) : (whole n).shown = writeWhole n := rfl

theorem shownItems_cons (v : Value) (items : List Value) : shownItems (v :: items) = (do
    let t ← v.shown
    let ts ← shownItems items
    .ok (t :: ts)) := rfl

theorem shownFields_cons (p : Text × Value) (fields : List (Text × Value)) :
    shownFields (p :: fields) = (do
      let t ← p.2.shown
      let ts ← shownFields fields
      .ok ((p.1.quoted ++ Text.of ": " ++ t) :: ts)) := rfl

/-! ## Values that can be shown -/

theorem exists_shownItems (h : ∀ v ∈ items, v.IsShowable) :
    ∃ ts, shownItems items = .ok ts := by
  induction items with
  | nil => exact ⟨[], rfl⟩
  | cons v items ih =>
    obtain ⟨t, ht⟩ := h v List.mem_cons_self
    obtain ⟨ts, hts⟩ := ih fun w hw => h w (List.mem_cons_of_mem v hw)
    exact ⟨t :: ts, by rw [shownItems_cons, ht, hts]; rfl⟩

theorem exists_shownFields (h : AreShowable fields) : ∃ ts, shownFields fields = .ok ts := by
  induction fields with
  | nil => exact ⟨[], rfl⟩
  | cons p fields ih =>
    obtain ⟨t, ht⟩ := h p List.mem_cons_self
    obtain ⟨ts, hts⟩ := ih fun q hq => h q (List.mem_cons_of_mem p hq)
    exact ⟨_, by rw [shownFields_cons, ht, hts]; rfl⟩

theorem areShowable_of_shownFields {ts : List Text} (h : shownFields fields = .ok ts) :
    AreShowable fields := by
  induction fields generalizing ts with
  | nil => exact fun _ hp => (List.not_mem_nil hp).elim
  | cons p fields ih =>
    rw [shownFields_cons] at h
    obtain ⟨t, ht, h⟩ := Except.bind_eq_ok_iff.mp h
    obtain ⟨ts', hts, -⟩ := Except.bind_eq_ok_iff.mp h
    exact List.forall_mem_cons.mpr ⟨⟨t, ht⟩, ih hts⟩

theorem isShowable_list (h : ∀ v ∈ items, v.IsShowable) : (list items).IsShowable := by
  obtain ⟨ts, hts⟩ := exists_shownItems h
  exact ⟨_, by rw [shown_list, hts]; rfl⟩

theorem isShowable_record (h : AreShowable fields) : (record fields).IsShowable := by
  obtain ⟨ts, hts⟩ := exists_shownFields h
  exact ⟨_, by rw [shown_record, hts]; rfl⟩

theorem areShowable_of_record (h : (record fields).IsShowable) : AreShowable fields := by
  obtain ⟨t, ht⟩ := h
  rw [shown_record] at ht
  cases hts : shownFields fields with
  | ok ts => exact areShowable_of_shownFields hts
  | error fault =>
    rw [hts] at ht
    cases ht

theorem isShowable_whole {n : Int} (h : Number.isTooLong n = false) : (whole n).IsShowable :=
  ⟨_, by rw [shown_whole, writeWhole, h, if_neg Bool.false_ne_true]⟩

theorem AreShowable.setField (h : AreShowable fields) (name : Text) (hv : v.IsShowable) :
    AreShowable (setField name v fields) := by
  induction fields with
  | nil => simpa [AreShowable, Value.setField] using hv
  | cons p fields ih =>
    obtain ⟨hp, hfields⟩ := List.forall_mem_cons.mp h
    rw [Value.setField]
    split
    · exact List.forall_mem_cons.mpr ⟨hv, hfields⟩
    · exact List.forall_mem_cons.mpr ⟨hp, ih hfields⟩

theorem isShowable_recordOf {pairs : List (Text × Value)} (h : AreShowable pairs) :
    (recordOf pairs).IsShowable := by
  have hfold : ∀ fields, AreShowable fields → AreShowable
      (pairs.foldl (fun fields p => Value.setField p.1 p.2 fields) fields) := by
    induction pairs with
    | nil => exact fun fields hfields => hfields
    | cons p pairs ih =>
      obtain ⟨hp, hpairs⟩ := List.forall_mem_cons.mp h
      exact fun fields hfields => ih hpairs _ (hfields.setField p.1 hp)
  exact isShowable_record (hfold [] fun _ hp => (List.not_mem_nil hp).elim)

/-- What can be shown can be written. -/
theorem IsShowable.exists_written (h : v.IsShowable) : ∃ t, v.written = .ok t := by
  cases v <;> first | exact h | exact ⟨_, rfl⟩

end Value

namespace Json

open Value

variable {most : Nat} {t behind : Text} {v : Value}

/-- The digits of a whole part denote a number with no more digits. -/
theorem digitsValue_lt {ds : Text} (h : takeWhole? t = some (ds, behind)) {n : Nat}
    (hn : ds.length ≤ n) : digitsValue ds < Nat.pow 10 n := by
  have hdigits : ∀ g ∈ ds, g.code - 48 < 10 := by
    unfold takeWhole? at h
    split at h
    · cases h
      exact List.forall_mem_singleton.mpr (by decide)
    · split at h
      · cases h
      · cases h
        intro g hg
        have hcode := Glyph.code_of_isAsciiDigit (List.all_eq_true.mp List.all_takeWhile g hg)
        omega
  have hlt := Number.ofDigitValues_lt (List.forall_mem_map.mpr hdigits)
  rw [List.length_map] at hlt
  exact lt_of_lt_of_le hlt (Nat.pow_le_pow_right (by decide) hn)

/-- A numeral that is read has few digits, and so can be shown. -/
theorem isShowable_of_readNumber (hmost : most ≤ Number.maxDigits)
    (h : readNumber most t = .ok (v, behind)) : v.IsShowable := by
  unfold readNumber at h
  dsimp only at h
  split at h
  · cases h
  · next whole rest hwhole =>
    split at h
    · split at h
      · cases h
      · next hlength =>
        cases h
        have hlt : digitsValue whole < Nat.pow 10 Number.maxDigits := digitsValue_lt hwhole (by omega)
        have habs : ∀ (negative : Bool) (n : Nat), (Number.withSign negative n).natAbs = n := by
          intro negative n
          cases negative <;> simp [Number.withSign]
        refine isShowable_whole (decide_eq_false (Nat.not_le.mpr ?_))
        rw [habs]
        exact hlt
    · cases h
      exact ⟨_, rfl⟩

theorem isShowable_of_readSimple (hmost : most ≤ Number.maxDigits)
    (h : readSimple most t = .ok (v, behind)) : v.IsShowable := by
  unfold readSimple at h
  split at h
  · next found hfound =>
    cases h
    have hnames : ∀ ps : List (String × Value), (∀ p ∈ ps, p.2.IsShowable) →
        (ps.firstM fun p => (dropWord? p.1 t).map (p.2, ·)) = some (v, behind) → v.IsShowable := by
      intro ps hps h
      induction ps with
      | nil => cases h
      | cons p ps ih =>
        obtain ⟨hp, hps⟩ := List.forall_mem_cons.mp hps
        rw [List.firstM] at h
        cases hword : dropWord? p.1 t with
        | none =>
          rw [hword] at h
          exact ih hps h
        | some rest =>
          rw [hword] at h
          cases h
          exact hp
    refine hnames names ?_ hfound
    simp [names, IsShowable, shown]
  · exact isShowable_of_readNumber hmost h

/-- **Whatever is read from JSON can be shown**: values, items and fields. -/
theorem isShowable_of_read_steps (hmost : most ≤ Number.maxDigits) (steps : Nat) :
    (∀ t v behind, readValue most steps t = .ok (v, behind) → v.IsShowable) ∧
    (∀ t vs behind, readItems most steps t = .ok (vs, behind) → ∀ v ∈ vs, v.IsShowable) ∧
    (∀ t fields behind, readFields most steps t = .ok (fields, behind) → AreShowable fields) := by
  induction steps with
  | zero => exact ⟨nofun, nofun, nofun⟩
  | succ steps ih =>
    obtain ⟨ihValue, ihItems, ihFields⟩ := ih
    refine ⟨?_, ?_, ?_⟩
    · intro t v behind h
      unfold readValue at h
      split at h
      · obtain ⟨r, -, hr⟩ := Except.bind_eq_ok_iff.mp h
        cases hr
        exact ⟨_, rfl⟩
      · split at h
        · cases h
          exact isShowable_list fun _ hv => (List.not_mem_nil hv).elim
        · obtain ⟨⟨items, _⟩, hitems, hr⟩ := Except.bind_eq_ok_iff.mp h
          cases hr
          exact isShowable_list (ihItems _ _ _ hitems)
      · split at h
        · cases h
          exact isShowable_record fun _ hp => (List.not_mem_nil hp).elim
        · obtain ⟨⟨fields, _⟩, hfields, hr⟩ := Except.bind_eq_ok_iff.mp h
          cases hr
          exact isShowable_recordOf (ihFields _ _ _ hfields)
      · exact isShowable_of_readSimple hmost h
    · intro t vs behind h
      unfold readItems at h
      obtain ⟨⟨v, _⟩, hv, h⟩ := Except.bind_eq_ok_iff.mp h
      have hshown := ihValue _ _ _ hv
      dsimp only at h
      split at h
      · cases h
        exact List.forall_mem_singleton.mpr hshown
      · obtain ⟨⟨more, _⟩, hmore, hr⟩ := Except.bind_eq_ok_iff.mp h
        cases hr
        exact List.forall_mem_cons.mpr ⟨hshown, ihItems _ _ _ hmore⟩
      · cases h
    · intro t fields behind h
      unfold readFields at h
      split at h
      · obtain ⟨⟨name, _⟩, -, h⟩ := Except.bind_eq_ok_iff.mp h
        dsimp only at h
        split at h
        · obtain ⟨⟨v, _⟩, hv, h⟩ := Except.bind_eq_ok_iff.mp h
          have hshown := ihValue _ _ _ hv
          dsimp only at h
          split at h
          · cases h
            exact List.forall_mem_singleton.mpr hshown
          · obtain ⟨⟨more, _⟩, hmore, hr⟩ := Except.bind_eq_ok_iff.mp h
            cases hr
            exact List.forall_mem_cons.mpr ⟨hshown, ihFields _ _ _ hmore⟩
          · cases h
        · cases h
      · cases h

theorem isShowable_of_readFront (h : readFront t = .ok (v, behind)) : v.IsShowable :=
  (isShowable_of_read_steps (Nat.le_refl _) _).1 _ _ _ h

end Json
end QueryDesk
