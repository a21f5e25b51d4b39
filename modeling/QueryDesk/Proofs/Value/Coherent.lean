import Mathlib.Order.Std
import QueryDesk.Proofs.Value.Readings

/-!
# Where the order of values makes sense

Instants stand in an order, and so do numbers and texts.  But whether two values are compared as one
or the other is decided for each pair, and what comes of it need not be transitive: a text may stand
between two numbers that stand the other way round by size.

Such a text is all that can go wrong.  The order is transitive on some values exactly if they are
coherent (`notBehind_trans_iff`): two instants, or two numbers, with a value of another kind between
them stand to each other as their spellings do.  Values that are read alike are coherent.
-/

set_option autoImplicit false

namespace QueryDesk

open Std

instance : TransOrd Glyph := inferInstanceAs (TransCmp (compareOn Glyph.code))

namespace Value

instance : TransCmp compareTexts :=
  inferInstanceAs (TransCmp (compareLex (compareOn Text.fold) compare))

/-! ## Comparing by one reading -/

/-- Where two values stand to each other by what they are read as. -/
def compareBy : Reading → Value → Value → Ordering
  | .instant => compareOn moment
  | .number => compareOn size
  | .text => fun v w => compareTexts v.spelling w.spelling

instance (r : Reading) : TransCmp (compareBy r) := by
  cases r with
  | instant => exact inferInstanceAs (TransCmp (compareOn moment))
  | number => exact inferInstanceAs (TransCmp (compareOn size))
  | text =>
    have htexts : TransCmp compareTexts := inferInstance
    exact { eq_swap := htexts.eq_swap, isLE_trans := htexts.isLE_trans }

theorem compareBy_swap (r : Reading) (v w : Value) :
    compareBy r v w = (compareBy r w v).swap := OrientedCmp.eq_swap

/-- The reading by which two values are compared. -/
def common (v w : Value) : Reading := if v.reading = w.reading then v.reading else .text

variable {v w x y z : Value} {values : List Value}

theorem common_comm (v w : Value) : v.common w = w.common v := by
  unfold common
  by_cases h : v.reading = w.reading
  · simp [h]
  · simp [h, Ne.symm h]

/-- Says that two values are read as instants both, or both as numbers. -/
def AreCommensurable (v w : Value) : Prop := v.reading = w.reading ∧ v.reading ≠ .text

theorem AreCommensurable.symm (h : v.AreCommensurable w) : w.AreCommensurable v :=
  ⟨h.1.symm, h.1 ▸ h.2⟩

theorem common_of_not (h : ¬ v.AreCommensurable w) : v.common w = .text := by
  unfold common
  split
  · next heq => exact Classical.not_not.mp fun htext => h ⟨heq, htext⟩
  · rfl

theorem common_of_eq (h : v.reading = w.reading) : v.common w = v.reading := if_pos h

/-- **Two values that can be written are compared by their common reading.** -/
theorem order_eq (hv : v.IsWritable) (hw : w.IsWritable) :
    v.order w = .ok (compareBy (v.common w) v w) := by
  by_cases h : v.reading = w.reading
  · rw [common_of_eq h]
    cases hread : v.reading with
    | instant => exact order_of_instants hread (h ▸ hread)
    | number => exact order_of_numbers hread (h ▸ hread)
    | text => exact order_of_others hv hw fun _ => hread
  · rw [common_of_not fun hkind => h hkind.1]
    exact order_of_others hv hw fun heq => absurd heq h

theorem order_swap {o : Ordering} (h : v.order w = .ok o) : w.order v = .ok o.swap := by
  obtain ⟨hv, hw⟩ := exists_order_iff.mp ⟨o, h⟩
  rw [order_eq hv hw] at h
  rw [order_eq hw hv, common_comm, compareBy_swap, Except.ok.inj h]

/-! ## Values that stand in order -/

/-- Says that a value can be compared with another and does not stand behind it. -/
def NotBehind (v w : Value) : Prop := ∃ o, v.order w = .ok o ∧ o ≠ .gt

/-- The same, read off the comparison the other way round. -/
theorem notBehind_iff_swap : w.NotBehind v ↔ ∃ o, v.order w = .ok o ∧ o ≠ .lt := by
  constructor
  · rintro ⟨o, ho, hne⟩
    exact ⟨o.swap, order_swap ho, by cases o <;> simp_all⟩
  · rintro ⟨o, ho, hne⟩
    exact ⟨o.swap, order_swap ho, by cases o <;> simp_all⟩

theorem notBehind_iff :
    v.NotBehind w ↔ v.IsWritable ∧ w.IsWritable ∧ (compareBy (v.common w) v w).isLE = true := by
  constructor
  · rintro ⟨o, ho, hne⟩
    obtain ⟨hv, hw⟩ := exists_order_iff.mp ⟨o, ho⟩
    rw [order_eq hv hw] at ho
    rw [Except.ok.inj ho]
    exact ⟨hv, hw, Ordering.isLE_iff_ne_gt.mpr hne⟩
  · rintro ⟨hv, hw, hle⟩
    exact ⟨_, order_eq hv hw, Ordering.isLE_iff_ne_gt.mp hle⟩

instance (v w : Value) : Decidable (v.NotBehind w) :=
  decidable_of_iff ((v.order w).toOption.any (· != .gt) = true) (by
    unfold NotBehind
    cases v.order w <;> simp)

instance (v w : Value) : Decidable (v.AreCommensurable w) :=
  inferInstanceAs (Decidable (_ ∧ _))

/-- Says that among some values two instants, or two numbers, stand as their spellings do wherever a
value of another kind stands between them. -/
def IsCoherent (values : List Value) : Prop :=
  ∀ v ∈ values, ∀ w ∈ values, v.AreCommensurable w →
    ∀ z ∈ values, z.reading ≠ v.reading → v.NotBehind z → z.NotBehind w →
      v.order w = .ok (compareTexts v.spelling w.spelling)

instance (values : List Value) : Decidable (IsCoherent values) :=
  inferInstanceAs (Decidable (∀ v ∈ values, _))

/-- Says that any two of some values can be compared. -/
def AreComparable (values : List Value) : Prop :=
  ∀ v ∈ values, ∀ w ∈ values, ∃ o, v.order w = .ok o

theorem areComparable_of_wholes (h : ∀ v ∈ values, ∀ n ∈ v.wholes, Number.isTooLong n = false) :
    AreComparable values := fun v hv w hw =>
  exists_order_iff.mpr ⟨isWritable_of_wholes (h v hv), isWritable_of_wholes (h w hw)⟩

/-- Values that are read alike leave no room for one of another kind. -/
theorem isCoherent_of_reading {reading : Reading} (h : ∀ v ∈ values, v.reading = reading) :
    IsCoherent values := by
  intro v hv w _ _ z hz hne
  exact absurd ((h z hz).trans (h v hv).symm) hne

theorem NotBehind.isWritable (h : v.NotBehind w) : v.IsWritable ∧ w.IsWritable :=
  exists_order_iff.mp (h.imp fun _ ho => ho.1)

theorem NotBehind.isLE (h : v.NotBehind w) : (compareBy (v.common w) v w).isLE = true :=
  (notBehind_iff.mp h).2.2

/-- Two values that are not both instants or numbers stand as their spellings do. -/
theorem NotBehind.text_isLE (h : v.NotBehind w) (hkind : ¬ v.AreCommensurable w) :
    (compareBy .text v w).isLE = true := common_of_not hkind ▸ h.isLE

theorem notBehind_of_text (hv : v.IsWritable) (hw : w.IsWritable) (hkind : ¬ v.AreCommensurable w)
    (h : (compareBy .text v w).isLE = true) : v.NotBehind w :=
  notBehind_iff.mpr ⟨hv, hw, common_of_not hkind ▸ h⟩

/-- A value does not stand behind another that its spelling puts it strictly before. -/
theorem not_notBehind_of_text (h : v.order w = .ok (compareTexts v.spelling w.spelling))
    (hlt : compareBy .text v w = .lt) : ¬ w.NotBehind v := by
  rintro ⟨o, ho, hne⟩
  rw [order_swap h] at ho
  have hswap : o = Ordering.gt := by
    rw [← Except.ok.inj ho]
    exact congrArg Ordering.swap hlt
  exact hne hswap

/-! ## Coherent values stand in order -/

/-- Behind two values of one kind stands what is behind the second of them. -/
theorem IsCoherent.trans_left (h : IsCoherent values) (hx : x ∈ values) (hy : y ∈ values)
    (hz : z ∈ values) (hkind : x.AreCommensurable y) (hne : z.reading ≠ x.reading)
    (hxy : x.NotBehind y) (hyz : y.NotBehind z) : x.NotBehind z := by
  have hne' : z.reading ≠ y.reading := hkind.1 ▸ hne
  have hle := hyz.text_isLE fun hk => hne' hk.1.symm
  refine notBehind_of_text hxy.isWritable.1 hyz.isWritable.2 (fun hk => hne hk.1.symm) ?_
  by_contra hgt
  have hlt : compareBy .text z x = .lt := OrientedCmp.lt_of_not_isLE hgt
  have hback : z.NotBehind x := notBehind_of_text hyz.isWritable.2 hxy.isWritable.1
    (fun hk => hne hk.1) (Ordering.isLE_of_eq_lt hlt)
  have horder := h y hy x hx hkind.symm z hz hne' hyz hback
  exact not_notBehind_of_text horder (TransCmp.lt_of_isLE_of_lt hle hlt) hxy

/-- In front of two values of one kind stands what is in front of the first of them. -/
theorem IsCoherent.trans_right (h : IsCoherent values) (hx : x ∈ values) (hy : y ∈ values)
    (hz : z ∈ values) (hkind : y.AreCommensurable z) (hne : x.reading ≠ y.reading)
    (hxy : x.NotBehind y) (hyz : y.NotBehind z) : x.NotBehind z := by
  have hne' : x.reading ≠ z.reading := hkind.1 ▸ hne
  have hle := hxy.text_isLE fun hk => hne hk.1
  refine notBehind_of_text hxy.isWritable.1 hyz.isWritable.2 (fun hk => hne' hk.1) ?_
  by_contra hgt
  have hlt : compareBy .text z x = .lt := OrientedCmp.lt_of_not_isLE hgt
  have hback : z.NotBehind x := notBehind_of_text hyz.isWritable.2 hxy.isWritable.1
    (fun hk => hne' hk.1.symm) (Ordering.isLE_of_eq_lt hlt)
  have horder := h z hz y hy hkind.symm x hx hne' hback hxy
  exact not_notBehind_of_text horder (TransCmp.lt_of_lt_of_isLE hlt hle) hyz

/-- Two values of one kind stand in order if one of another kind stands between them. -/
theorem IsCoherent.trans_between (h : IsCoherent values) (hx : x ∈ values) (hy : y ∈ values)
    (hz : z ∈ values) (hkind : x.AreCommensurable z) (hne : y.reading ≠ x.reading)
    (hxy : x.NotBehind y) (hyz : y.NotBehind z) : x.NotBehind z := by
  have hle : (compareBy .text x z).isLE = true :=
    TransCmp.isLE_trans (hxy.text_isLE fun hk => hne hk.1.symm)
      (hyz.text_isLE fun hk => hne (hk.1.trans hkind.1.symm))
  exact ⟨_, h x hx z hz hkind y hy hne hxy hyz, Ordering.isLE_iff_ne_gt.mp hle⟩

theorem IsCoherent.notBehind_trans (h : IsCoherent values) (hx : x ∈ values) (hy : y ∈ values)
    (hz : z ∈ values) (hxy : x.NotBehind y) (hyz : y.NotBehind z) : x.NotBehind z := by
  by_cases hxzKind : x.AreCommensurable z
  · by_cases hsame : y.reading = x.reading
    · refine notBehind_iff.mpr ⟨hxy.isWritable.1, hyz.isWritable.2, ?_⟩
      have hle := hxy.isLE
      have hle' := hyz.isLE
      rw [common_of_eq hsame.symm] at hle
      rw [common_of_eq (hsame.trans hxzKind.1), hsame] at hle'
      rw [common_of_eq hxzKind.1]
      exact TransCmp.isLE_trans hle hle'
    · exact h.trans_between hx hy hz hxzKind hsame hxy hyz
  by_cases hxyKind : x.AreCommensurable y
  · exact h.trans_left hx hy hz hxyKind (fun hs => hxzKind ⟨hs.symm, hxyKind.2⟩) hxy hyz
  by_cases hyzKind : y.AreCommensurable z
  · refine h.trans_right hx hy hz hyzKind (fun hs => hxyKind ⟨hs, ?_⟩) hxy hyz
    exact hs ▸ hyzKind.2
  · refine notBehind_of_text hxy.isWritable.1 hyz.isWritable.2 hxzKind ?_
    exact TransCmp.isLE_trans (hxy.text_isLE hxyKind) (hyz.text_isLE hyzKind)

/-- Where the order is transitive two values stand as their spellings do if one of another kind
stands between them. -/
theorem order_eq_of_trans (h : ∀ v ∈ values, ∀ w ∈ values, ∀ z ∈ values,
      v.NotBehind w → w.NotBehind z → v.NotBehind z)
    (hx : x ∈ values) (hy : y ∈ values) (hz : z ∈ values) (hkind : x.AreCommensurable y)
    (hne : z.reading ≠ x.reading) (hxz : x.NotBehind z) (hzy : z.NotBehind y) :
    x.order y = .ok (compareTexts x.spelling y.spelling) := by
  have hxw := hxz.isWritable.1
  have hyw := hzy.isWritable.2
  have hzw := hxz.isWritable.2
  have hxzKind : ¬ x.AreCommensurable z := fun hk => hne hk.1.symm
  have hyzKind : ¬ y.AreCommensurable z := fun hk => hne (hk.1.symm.trans hkind.1.symm)
  have hxzText := hxz.text_isLE hxzKind
  have hzyText := hzy.text_isLE fun hk => hyzKind hk.symm
  have hle := (h x hx z hz y hy hxz hzy).isLE
  have hleText : (compareBy .text x y).isLE = true := TransCmp.isLE_trans hxzText hzyText
  -- The value between the two is what takes each of the two orders over to the other.
  have hback : (compareBy (x.common y) y x).isLE = true ↔ (compareBy .text y x).isLE = true := by
    constructor
    · intro hyx
      have hyx' : y.NotBehind x := notBehind_iff.mpr ⟨hyw, hxw, common_comm y x ▸ hyx⟩
      have hyz := h y hy x hx z hz hyx' hxz
      have hzx := h z hz y hy x hx hzy hyx'
      exact TransCmp.isLE_trans (hyz.text_isLE hyzKind)
        (hzx.text_isLE fun hk => hxzKind hk.symm)
    · intro hyx
      have hyz : y.NotBehind z :=
        notBehind_of_text hyw hzw hyzKind (TransCmp.isLE_trans hyx hxzText)
      have hzx : z.NotBehind x := notBehind_of_text hzw hxw (fun hk => hxzKind hk.symm)
        (TransCmp.isLE_trans hzyText hyx)
      exact common_comm y x ▸ (h y hy z hz x hx hyz hzx).isLE
  rw [order_eq hxw hyw]
  refine congrArg Except.ok (?_ : _ = compareBy .text x y)
  rw [compareBy_swap _ y x, compareBy_swap _ y x] at hback
  generalize compareBy (x.common y) x y = o at *
  generalize compareBy .text x y = o' at *
  cases o <;> cases o' <;> simp at hle hleText hback ⊢

/-- **The order is transitive on some values exactly if they are coherent.** -/
theorem notBehind_trans_iff :
    (∀ x ∈ values, ∀ y ∈ values, ∀ z ∈ values,
      x.NotBehind y → y.NotBehind z → x.NotBehind z) ↔ IsCoherent values := by
  constructor
  · intro h x hx y hy hkind z hz hne hxz hzy
    exact order_eq_of_trans h hx hy hz hkind hne hxz hzy
  · intro h x hx y hy z hz
    exact h.notBehind_trans hx hy hz

end Value
end QueryDesk
