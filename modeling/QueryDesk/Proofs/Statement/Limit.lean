import QueryDesk.Statement.Clause
import QueryDesk.Proofs.Text.Digit
import QueryDesk.Proofs.Text.Trim

/-!
# Row limits

The value of a row limit (`limitText?`) is what stands behind the first `LIMIT` outside literals,
or behind the first `SELECT TOP` where there is no `LIMIT`.  A statement without such a value has no
limit; one with a value has a limit exactly if the value is a row count: some ASCII digits, and no
more than a number may have (`exists_rowLimit_iff`).  Signs, blanks and digits of other scripts,
which a whole number may have elsewhere, are refused before the number is read.
-/

set_option autoImplicit false

namespace QueryDesk

theorem exists_map_iff {α β ε : Type} {x : Except ε α} {f : α → β} :
    (∃ a, x = .ok a) ↔ ∃ b, x.map f = .ok b := by
  cases x with
  | ok a => exact ⟨fun _ => ⟨f a, rfl⟩, fun _ => ⟨a, rfl⟩⟩
  | error e => exact ⟨fun ⟨_, h⟩ => (by cases h), fun ⟨_, h⟩ => (by cases h)⟩

namespace Number

theorem groupedDigits?_of_isAsciiDigit {t : Text} (hne : t ≠ [])
    (h : ∀ g ∈ t, g.isAsciiDigit = true) :
    groupedDigits? t = some (t.map fun g => g.code - 48) := by
  fun_induction groupedDigits? t with
  | case1 => exact absurd rfl hne
  | case2 g =>
    rw [Glyph.digitValue?_of_isAsciiDigit (h g List.mem_cons_self)]
    rfl
  | case3 g g' rest hnone =>
    rw [Glyph.digitValue?_of_isAsciiDigit (h g List.mem_cons_self)] at hnone
    cases hnone
  | case4 g rest d hd ih =>
    have hlow := h (.char '_') (List.mem_cons_of_mem g List.mem_cons_self)
    exact absurd rfl (Glyph.ne_of_isAsciiDigit hlow (c := '_') rfl)
  | case5 g g' rest d hd hlow ih =>
    rw [Glyph.digitValue?_of_isAsciiDigit (h g List.mem_cons_self)] at hd
    rw [ih (List.cons_ne_nil _ _) fun a ha => h a (List.mem_cons_of_mem g ha)]
    cases hd
    rfl

/-- ASCII digits are read as a number, unless there are too many of them. -/
theorem readWhole_of_isAsciiDigit {t : Text} (hne : t ≠ [])
    (h : ∀ g ∈ t, g.isAsciiDigit = true) :
    readWhole t = if maxDigits < t.length then .tooLong t.length
      else .read (ofDigitValues (t.map fun g => g.code - 48)) := by
  have htight : t.IsTight := by
    refine ⟨fun g hg => ?_, fun g hg => ?_⟩
    · exact Glyph.isBlank_of_isAsciiDigit (h g (List.mem_of_head? hg))
    · exact Glyph.isBlank_of_isAsciiDigit (h g (List.mem_of_getLast? hg))
  have hsign : takeSign t = (false, t) := by
    unfold takeSign
    split
    · exact absurd rfl (Glyph.ne_of_isAsciiDigit (c := '-') (h _ List.mem_cons_self) rfl)
    · exact absurd rfl (Glyph.ne_of_isAsciiDigit (c := '+') (h _ List.mem_cons_self) rfl)
    · rfl
  rw [readWhole, Text.trim_eq_self htight, hsign]
  simp only [groupedDigits?_of_isAsciiDigit hne h, List.length_map]
  rfl

end Number

namespace Statement

/-- Says that a text is a count of rows: ASCII digits, at least one and no more than a number may
have. -/
def IsRowCount (raw : Text) : Prop :=
  raw ≠ [] ∧ raw.length ≤ Number.maxDigits ∧ ∀ g ∈ raw, g.isAsciiDigit = true

instance (raw : Text) : Decidable (IsRowCount raw) := inferInstanceAs (Decidable (_ ∧ _ ∧ _))

/-- The value of the row limit of a statement, behind the first `LIMIT` outside literals or, without
one, behind the first `SELECT TOP`. -/
def limitText? (statement : Text) : Option Text :=
  let masked := Place.start (Literal.mask statement)
  ((masked.firstMatch limit?).or (masked.firstMatch top?)).map fun found =>
    between statement found.1 found.2

theorem readLimit_of_isAsciiDigit {raw : Text} (hne : raw ≠ [])
    (h : ∀ g ∈ raw, g.isAsciiDigit = true) (form : LimitForm) :
    readLimit form raw = if Number.maxDigits < raw.length then .error (.numeralTooLong raw.length)
      else .ok ⟨Number.ofDigitValues (raw.map fun g => g.code - 48), form⟩ := by
  have hall : ¬ ((raw.isEmpty || !raw.all Glyph.isAsciiDigit) = true) := by
    rw [List.all_eq_true.mpr h, Bool.not_true, Bool.or_false, List.isEmpty_iff]
    exact hne
  rw [readLimit, if_neg hall, Number.readWhole_of_isAsciiDigit hne h]
  by_cases hlong : Number.maxDigits < raw.length
  · simp only [if_pos hlong]
  · simp only [if_neg hlong]

theorem readLimit_of_not {raw : Text} (h : ¬ (raw ≠ [] ∧ ∀ g ∈ raw, g.isAsciiDigit = true))
    (form : LimitForm) : readLimit form raw = .error (.badLimit form.keyword raw) := by
  have hsome : (raw.isEmpty || !raw.all Glyph.isAsciiDigit) = true := by
    by_contra hnone
    rw [Bool.not_eq_true, Bool.or_eq_false_iff, Bool.not_eq_false', List.all_eq_true,
      List.isEmpty_eq_false_iff] at hnone
    exact h hnone
  rw [readLimit, if_pos hsome]

theorem exists_readLimit_iff {form : LimitForm} {raw : Text} :
    (∃ limit, readLimit form raw = .ok limit) ↔ IsRowCount raw := by
  by_cases h : raw ≠ [] ∧ ∀ g ∈ raw, g.isAsciiDigit = true
  · obtain ⟨hne, hall⟩ := h
    rw [readLimit_of_isAsciiDigit hne hall]
    split
    · next hlong =>
      refine ⟨fun ⟨_, hlimit⟩ => (by cases hlimit), fun ⟨_, hlen, _⟩ => ?_⟩
      exact absurd hlen (Nat.not_le.mpr hlong)
    · next hlen => exact ⟨fun _ => ⟨hne, Nat.not_lt.mp hlen, hall⟩, fun _ => ⟨_, rfl⟩⟩
  · rw [readLimit_of_not h]
    exact ⟨fun ⟨_, hlimit⟩ => (by cases hlimit), fun ⟨hne, _, hall⟩ => absurd ⟨hne, hall⟩ h⟩

/-- **A row limit can be read exactly if its value is a row count.** -/
theorem exists_rowLimit_iff {statement : Text} :
    (∃ limit, rowLimit statement = .ok limit) ↔
      ∀ raw, limitText? statement = some raw → IsRowCount raw := by
  have hvalue : ∀ (form : LimitForm) (raw : Text),
      (∃ limit, (readLimit form raw).map some = .ok limit) ↔
        ∀ raw', some raw = some raw' → IsRowCount raw' := by
    intro form raw
    rw [← exists_map_iff, exists_readLimit_iff]
    exact ⟨fun h raw' hraw => Option.some.inj hraw ▸ h, fun h => h raw rfl⟩
  unfold rowLimit limitText?
  dsimp only
  cases hlimit : (Place.start (Literal.mask statement)).firstMatch limit? with
  | some found => exact hvalue .limit _
  | none =>
    cases htop : (Place.start (Literal.mask statement)).firstMatch top? with
    | some found => exact hvalue .top _
    | none => exact ⟨fun _ raw hraw => (by cases hraw), fun _ => ⟨none, rfl⟩⟩

/-- A statement without a value of a row limit has no row limit. -/
theorem rowLimit_eq_none {statement : Text} (h : limitText? statement = none) :
    rowLimit statement = .ok none := by
  rw [limitText?, Option.map_eq_none_iff, Option.or_eq_none_iff] at h
  rw [rowLimit, h.1, h.2]

end Statement
end QueryDesk
