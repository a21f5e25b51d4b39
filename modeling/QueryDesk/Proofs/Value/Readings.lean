import QueryDesk.Proofs.Calendar.IsoText
import QueryDesk.Proofs.Json.Shown
import QueryDesk.Proofs.Number.Decimal
import QueryDesk.Proofs.Results
import QueryDesk.Proofs.Text.Digit
import QueryDesk.Proofs.Text.SameLetter
import QueryDesk.Value.Reading

/-!
# What values are read as

A value is read as an instant, as a number or as a mere text (`Value.reading`).  The first two do not
overlap: a text that begins with a day is no number (`number?_of_instant?`).  Two values are
compared as instants or as numbers if both are read so, and in all other cases as texts
(`order_of_instants`, `order_of_numbers`, `order_of_others`).

Two values can be compared exactly if both can be written (`exists_order_iff`).  A value can be
written if all whole numbers in it are short enough, at whatever depth they stand
(`isWritable_of_wholes`).
-/

set_option autoImplicit false

namespace QueryDesk

/-! ## Texts that begin with a day -/

namespace Number

theorem takeSign_digit {g : Glyph} (h : g.isAsciiDigit = true) (rest : Text) :
    takeSign (g :: rest) = (false, g :: rest) := by
  unfold takeSign
  split
  · next heq => cases heq; cases h
  · next heq => cases heq; cases h
  · rfl

end Number

theorem Glyph.toLower_of_isDigit {c : Char} (h : c.isDigit = true) : c.toLower = c := by
  have hcode : 48 ≤ c.toNat ∧ c.toNat ≤ 57 := code_of_isAsciiDigit (g := .char c) h
  rw [← Char.toNat_inj, toNat_toLower, if_neg (by omega)]

namespace Decimal

variable {t : Text}

/-- A text that starts with a digit or a point does not name infinity, nor what is no number. -/
theorem read_of_numeral {g : Glyph} {rest : Text} (hg : g.isAsciiDigit = true ∨ g = .char '.')
    (h : t.trim.filter (· ≠ .char '_') = g :: rest) : read t = readFinite false (g :: rest) := by
  rcases hg with hg | rfl
  · cases g with
    | lone half => cases hg
    | char c =>
      have hdigit : c.isDigit = true := hg
      have hletter : ∀ l : Char, l.isDigit = false → c ≠ l := by
        rintro l hl rfl
        simp [hl] at hdigit
      rw [read, h, Number.takeSign_digit hg]
      simp [Text.asciiLower, Text.of, List.isPrefixOf, Glyph.toLower_of_isDigit hdigit, hletter,
        Ne.symm (hletter _ _)]
  · have hpoint : ('.' : Char).toLower = '.' := rfl
    rw [read, h]
    simp [Number.takeSign, Text.asciiLower, Text.of, List.isPrefixOf, hpoint]

/-- The dash in a day belongs to no exponent, and so it spoils the digits. -/
theorem readFinite_day {day : Text} (h : Timestamp.IsDayText day) (negative : Bool) (rest : Text) :
    readFinite negative (day ++ rest) = .error .malformed := by
  cases h with
  | intro h =>
    have he : ∀ g : Glyph, g.isAsciiDigit = true → g.isOneOf ['e', 'E'] = false :=
      fun g hg => Glyph.isOneOf_of_isAsciiDigit hg (by decide)
    have hpoint : ∀ g : Glyph, g.isAsciiDigit = true → g ≠ .char '.' :=
      fun g hg => Glyph.ne_of_isAsciiDigit hg (by decide)
    have hdash : Glyph.isOneOf (.char '-') ['e', 'E'] = false := by decide
    have hvalue : Glyph.digitValue? (.char '-') = none := by decide
    simp only [List.forall_mem_cons] at h
    simp [readFinite, splitBefore, he, hpoint, h, hdash, allDigits?, hvalue,
      Glyph.digitValue?_of_isAsciiDigit]

end Decimal

namespace Value

variable {v w : Value} {t : Text}

theorem exists_isDayText (h : beginsWithDay t = true) :
    ∃ day rest, Timestamp.IsDayText day ∧ t = day ++ rest := by
  simp only [beginsWithDay, Bool.and_eq_true, decide_eq_true_eq] at h
  obtain ⟨hlength, hsigns⟩ := h
  obtain ⟨a, b, c, e, d, f, g, k, i, j, rest, rfl⟩ : ∃ a b c e d f g k i j rest,
      t = a :: b :: c :: e :: d :: f :: g :: k :: i :: j :: rest := by
    rcases t with _ | ⟨a, _ | ⟨b, _ | ⟨c, _ | ⟨e, _ | ⟨d, _ | ⟨f, _ | ⟨g, _ | ⟨k, _ | ⟨i, _ |
      ⟨j, rest⟩⟩⟩⟩⟩⟩⟩⟩⟩⟩
    all_goals first
      | exact ⟨_, _, _, _, _, _, _, _, _, _, _, rfl⟩
      | simp at hlength
  simp only [List.range, List.range.loop, Timestamp.standsAt, Timestamp.isDigitAt] at hsigns
  simp at hsigns
  obtain ⟨ha, hb, hc, he, rfl, hf, hg, rfl, hi, hj⟩ := hsigns
  exact ⟨_, rest, .intro (by simp [*]), rfl⟩

theorem read_of_beginsWithDay (h : beginsWithDay t.trim = true) :
    Decimal.read t = .error .malformed := by
  obtain ⟨day, rest, hday, htrim⟩ := exists_isDayText h
  have hread := Decimal.readFinite_day hday false (rest.filter (· ≠ .char '_'))
  rw [← hread]
  cases hday with
  | intro hdigits =>
    refine Decimal.read_of_numeral (.inl (hdigits _ List.mem_cons_self)) ?_
    have hne : ∀ g : Glyph, g.isAsciiDigit = true → g ≠ .char '_' :=
      fun g hg => Glyph.ne_of_isAsciiDigit hg (by decide)
    simp only [List.forall_mem_cons] at hdigits
    simp [htrim, hne, hdigits]

/-- **A value that denotes an instant denotes no number.** -/
theorem number?_of_instant? {i : Timestamp} (h : v.instant? = some i) : v.number? = .ok none := by
  cases v with
  | text t =>
    have hday : beginsWithDay t.trim = true := by
      by_contra hday
      simp [instant?, hday] at h
    rw [number?, read_of_beginsWithDay hday]
  | timestamp | date => rfl
  | _ => cases h

/-! ## Values that can be written -/

/-- Says that a value can be written. -/
def IsWritable (v : Value) : Prop := ∃ t, v.written = .ok t

/-- A value in writing, where it can be written. -/
def spelling (v : Value) : Text := v.written.toOption.getD []

theorem IsWritable.written_eq (h : v.IsWritable) : v.written = .ok v.spelling := by
  obtain ⟨t, ht⟩ := h
  rw [spelling, ht]
  rfl

mutual

/-- The whole numbers in a value, at any depth. -/
def wholes : Value → List Int
  | whole n => [n]
  | list items | tuple items => itemWholes items
  | record fields | object fields => fieldWholes fields
  | _ => []

/-- The whole numbers in the items of a list. -/
def itemWholes : List Value → List Int
  | [] => []
  | v :: items => wholes v ++ itemWholes items

/-- The whole numbers in fields. -/
def fieldWholes : List (Text × Value) → List Int
  | [] => []
  | (_, v) :: fields => wholes v ++ fieldWholes fields

end

theorem isShowable_tuple {items : List Value} (h : ∀ v ∈ items, v.IsShowable) :
    (tuple items).IsShowable := by
  obtain ⟨ts, hts⟩ := exists_shownItems h
  match items, h with
  | [], _ => exact ⟨_, rfl⟩
  | [v], h =>
    obtain ⟨t, ht⟩ := h v List.mem_cons_self
    refine ⟨bracketed "(" ",)" [t], ?_⟩
    show v.shown.map _ = _
    rw [ht]
    rfl
  | v :: w :: items, _ =>
    refine ⟨bracketed "(" ")" ts, ?_⟩
    show (shownItems (v :: w :: items)).map _ = _
    rw [hts]
    rfl

theorem isShowable_object {parts : List (Text × Value)} (h : AreShowable parts) :
    (object parts).IsShowable := by
  have hparts : ∃ ts, shownParts parts = .ok ts := by
    induction parts with
    | nil => exact ⟨[], rfl⟩
    | cons p parts ih =>
      obtain ⟨t, ht⟩ := h p List.mem_cons_self
      obtain ⟨ts, hts⟩ := ih fun q hq => h q (List.mem_cons_of_mem p hq)
      refine ⟨(p.1 ++ .char '=' :: t) :: ts, ?_⟩
      show (p.2.shown >>= fun t => shownParts parts >>= fun ts => _) = _
      rw [ht, hts]
      rfl
  obtain ⟨ts, hts⟩ := hparts
  refine ⟨bracketed "namespace(" ")" ts, ?_⟩
  show (shownParts parts).map _ = _
  rw [hts]
  rfl

mutual

/-- **A value can be shown if the whole numbers in it are short enough.** -/
theorem isShowable_of_wholes : (v : Value) → (∀ n ∈ v.wholes, Number.isTooLong n = false) →
    v.IsShowable
  | whole n, h => isShowable_whole (h n (List.mem_singleton_self n))
  | list items, h => isShowable_list (isShowable_of_itemWholes items h)
  | tuple items, h => isShowable_tuple (isShowable_of_itemWholes items h)
  | record fields, h => isShowable_record (areShowable_of_fieldWholes fields h)
  | object fields, h => isShowable_object (areShowable_of_fieldWholes fields h)
  | null, _ | flag _, _ | real _, _ | decimal _, _ | text _, _ | timestamp _, _ | date _, _ =>
    ⟨_, rfl⟩

theorem isShowable_of_itemWholes : (items : List Value) →
    (∀ n ∈ itemWholes items, Number.isTooLong n = false) → ∀ v ∈ items, v.IsShowable
  | [], _ => fun _ hv => (List.not_mem_nil hv).elim
  | v :: items, h => List.forall_mem_cons.mpr
    ⟨isShowable_of_wholes v fun n hn => h n (List.mem_append_left _ hn),
      isShowable_of_itemWholes items fun n hn => h n (List.mem_append_right _ hn)⟩

theorem areShowable_of_fieldWholes : (fields : List (Text × Value)) →
    (∀ n ∈ fieldWholes fields, Number.isTooLong n = false) → AreShowable fields
  | [], _ => fun _ hp => (List.not_mem_nil hp).elim
  | (_, v) :: fields, h => List.forall_mem_cons.mpr
    ⟨isShowable_of_wholes v fun n hn => h n (List.mem_append_left _ hn),
      areShowable_of_fieldWholes fields fun n hn => h n (List.mem_append_right _ hn)⟩

end

theorem isWritable_of_wholes (h : ∀ n ∈ v.wholes, Number.isTooLong n = false) : v.IsWritable := by
  cases v with
  | text | decimal | timestamp | date => exact ⟨_, rfl⟩
  | _ => exact isShowable_of_wholes _ h

/-! ## Readings -/

/-- What a value is read as. -/
inductive Reading
  | instant
  | number
  | text
  deriving DecidableEq, Repr

/-- What a value is read as: an instant or a number if it denotes one, and else a text. -/
def reading (v : Value) : Reading :=
  if v.instant?.isSome then .instant
  else match v.number? with
    | .ok (some _) => .number
    | _ => .text

/-- The instant of a value that is read as one. -/
def moment (v : Value) : Int := (v.instant?.map (·.instant)).getD 0

/-- The size of a value that is read as a number. -/
def size (v : Value) : ℚ := (v.number?.toOption.join.map (·.toRat)).getD 0

theorem reading_eq_instant_iff : v.reading = .instant ↔ ∃ t, v.instant? = some t := by
  rw [← Option.isSome_iff_exists, reading]
  split
  · next h => simp [h]
  · next h =>
    split <;> simp [h]

/-- A value that denotes a number is read as one. -/
theorem reading_eq_number_iff : v.reading = .number ↔ ∃ x, v.number? = .ok (some x) := by
  by_cases hinstant : v.reading = .instant
  · obtain ⟨t, ht⟩ := reading_eq_instant_iff.mp hinstant
    simp [hinstant, number?_of_instant? ht]
  · rw [reading] at hinstant ⊢
    split at hinstant
    · exact absurd rfl hinstant
    · next hnone =>
      simp only [hnone, Bool.false_eq_true, if_false]
      split
      · next x hx => simp [hx]
      · next hx => simpa using hx

theorem isFinite_of_number? {x : Decimal} (h : v.number? = .ok (some x)) : x.isFinite = true := by
  have hfinite : ∀ d : Decimal, finite? d = some x → x.isFinite = true := by
    intro d hd
    rw [finite?, Option.ite_none_right_eq_some] at hd
    rw [← Option.some.inj hd.2]
    exact hd.1
  cases v with
  | whole n =>
    rw [number?] at h
    split at h
    · cases h
    · cases h
      rfl
  | real y => exact hfinite _ (Except.ok.inj h)
  | decimal d => exact hfinite _ (Except.ok.inj h)
  | text t =>
    rw [number?] at h
    split at h
    · exact hfinite _ (Except.ok.inj h)
    · cases h
  | _ => cases h

/-- What is read as an instant or as a number can be written. -/
theorem isWritable_of_reading (h : v.reading ≠ .text) : v.IsWritable := by
  cases v with
  | whole n =>
    cases hlong : Number.isTooLong n with
    | true => simp [reading, instant?, number?, hlong] at h
    | false => exact isShowable_whole hlong
  | text | decimal | timestamp | date => exact ⟨_, rfl⟩
  | real | null | flag => exact ⟨_, rfl⟩
  | _ => exact absurd rfl h

/-- Of a value that can be written it is known whether it denotes a number. -/
theorem IsWritable.exists_number? (h : v.IsWritable) : ∃ x, v.number? = .ok x := by
  cases v with
  | whole n =>
    cases hlong : Number.isTooLong n with
    | true =>
      obtain ⟨t, ht⟩ := h
      simp [written, shown, writeWhole, hlong] at ht
    | false => exact ⟨_, by rw [number?, hlong, if_neg Bool.false_ne_true]⟩
  | text t =>
    rw [number?]
    split <;> exact ⟨_, rfl⟩
  | _ => exact ⟨_, rfl⟩

/-! ## The order of values -/

/-- Two instants stand as they do in time. -/
theorem order_of_instants (hv : v.reading = .instant) (hw : w.reading = .instant) :
    v.order w = .ok (compare v.moment w.moment) := by
  obtain ⟨s, hs⟩ := reading_eq_instant_iff.mp hv
  obtain ⟨t, ht⟩ := reading_eq_instant_iff.mp hw
  rw [order, moment, moment, hs, ht]
  rfl

/-- Unless both values are instants, they are compared as numbers at first. -/
theorem order_of_not_instants (h : ¬ (v.reading = .instant ∧ w.reading = .instant)) :
    v.order w = (do
      match ← v.number?, ← w.number? with
      | some x, some y => .ok (x.order y)
      | _, _ => .ok (compareTexts (← v.written) (← w.written))) := by
  rw [order]
  split
  · next s t hs ht =>
    exact absurd ⟨reading_eq_instant_iff.mpr ⟨s, hs⟩, reading_eq_instant_iff.mpr ⟨t, ht⟩⟩ h
  · rfl

/-- Two numbers stand as their sizes do. -/
theorem order_of_numbers (hv : v.reading = .number) (hw : w.reading = .number) :
    v.order w = .ok (compare v.size w.size) := by
  obtain ⟨x, hx⟩ := reading_eq_number_iff.mp hv
  obtain ⟨y, hy⟩ := reading_eq_number_iff.mp hw
  rw [order_of_not_instants (by simp [hv]), hx, hy, size, size, hx, hy]
  exact congrArg Except.ok
    (Decimal.order_eq_compare (isFinite_of_number? hx) (isFinite_of_number? hy))

/-- **All other values stand as their spellings do**: two texts, and two values that are not read
alike. -/
theorem order_of_others (hv : v.IsWritable) (hw : w.IsWritable)
    (h : v.reading = w.reading → v.reading = .text) :
    v.order w = .ok (compareTexts v.spelling w.spelling) := by
  have hnot : ¬ (v.reading = .instant ∧ w.reading = .instant) := by
    rintro ⟨hv', hw'⟩
    simp [hv', hw'] at h
  obtain ⟨x, hx⟩ := hv.exists_number?
  obtain ⟨y, hy⟩ := hw.exists_number?
  rw [order_of_not_instants hnot, hx, hy, Except.ok_bind, Except.ok_bind]
  split
  · next x y =>
    have hv' := reading_eq_number_iff.mpr ⟨x, hx⟩
    have hw' := reading_eq_number_iff.mpr ⟨y, hy⟩
    simp [hv', hw'] at h
  · rw [hv.written_eq, hw.written_eq]
    rfl

/-- **Two values can be compared exactly if both can be written.** -/
theorem exists_order_iff : (∃ o, v.order w = .ok o) ↔ v.IsWritable ∧ w.IsWritable := by
  constructor
  · rintro ⟨o, ho⟩
    by_cases h : v.reading = w.reading → v.reading = .text
    · have hnot : ¬ (v.reading = .instant ∧ w.reading = .instant) := by
        rintro ⟨hv, hw⟩
        simp [hv, hw] at h
      rw [order_of_not_instants hnot] at ho
      obtain ⟨x, hx, ho⟩ := Except.bind_eq_ok_iff.mp ho
      obtain ⟨y, hy, ho⟩ := Except.bind_eq_ok_iff.mp ho
      split at ho
      · have hv := reading_eq_number_iff.mpr ⟨_, hx⟩
        have hw := reading_eq_number_iff.mpr ⟨_, hy⟩
        simp [hv, hw] at h
      · obtain ⟨s, hs, ho⟩ := Except.bind_eq_ok_iff.mp ho
        obtain ⟨t, ht, -⟩ := Except.bind_eq_ok_iff.mp ho
        exact ⟨⟨s, hs⟩, ⟨t, ht⟩⟩
    · rw [Classical.not_imp] at h
      exact ⟨isWritable_of_reading h.2, isWritable_of_reading (h.1 ▸ h.2)⟩
  · rintro ⟨hv, hw⟩
    by_cases h : v.reading = w.reading → v.reading = .text
    · exact ⟨_, order_of_others hv hw h⟩
    · rw [Classical.not_imp] at h
      obtain ⟨hsame, htext⟩ := h
      cases hread : v.reading with
      | instant => exact ⟨_, order_of_instants hread (hsame ▸ hread)⟩
      | number => exact ⟨_, order_of_numbers hread (hsame ▸ hread)⟩
      | text => exact absurd hread htext

end Value
end QueryDesk
