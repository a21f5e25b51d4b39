import Mathlib.Data.List.Induction
import Mathlib.Tactic.IntervalCases
import QueryDesk.Number.Whole
import QueryDesk.Proofs.Text.Digit

/-!
# Digits of a number

The decimal digits of a number are read back as the number (`digitValues_digits`), so two numbers
with the same digits are equal (`digits_injective`).  Zeros in front change nothing in what is read,
and numbers that are padded with them to one width stand in the order of their digits
(`compare_paddedDigits`).
-/

set_option autoImplicit false

namespace QueryDesk
namespace Number

theorem digitsOnto_of_lt {n : Nat} (h : n < 10) (behind : Text) :
    digitsOnto n behind = digitGlyph n :: behind := by
  rw [digitsOnto, if_pos h]

theorem digitsOnto_of_le {n : Nat} (h : 10 ≤ n) (behind : Text) :
    digitsOnto n behind = digitsOnto (n / 10) (digitGlyph (n % 10) :: behind) := by
  rw [digitsOnto, if_neg (Nat.not_lt.mpr h)]

theorem digitsOnto_eq (n : Nat) (behind : Text) : digitsOnto n behind = digits n ++ behind := by
  induction n using Nat.strongRecOn generalizing behind with
  | ind n ih =>
    rcases Nat.lt_or_ge n 10 with h | h
    · rw [digits, digitsOnto_of_lt h, digitsOnto_of_lt h, List.singleton_append]
    · have hlt : n / 10 < n := Nat.div_lt_self (by omega) (by decide)
      rw [digits, digitsOnto_of_le h, digitsOnto_of_le h [], ih _ hlt, ih _ hlt [_],
        List.append_assoc, List.singleton_append]

theorem digits_of_lt {n : Nat} (h : n < 10) : digits n = [digitGlyph n] := digitsOnto_of_lt h []

theorem digits_of_le {n : Nat} (h : 10 ≤ n) :
    digits n = digits (n / 10) ++ [digitGlyph (n % 10)] := by
  rw [digits, digitsOnto_of_le h, digitsOnto_eq]

theorem code_digitGlyph {d : Nat} (h : d < 10) : (digitGlyph d).code - 48 = d := by
  interval_cases d <;> rfl

theorem isAsciiDigit_digitGlyph (d : Nat) : (digitGlyph d).isAsciiDigit = true := by
  have h : d % 10 < 10 := Nat.mod_lt d (by decide)
  rw [digitGlyph]
  interval_cases d % 10 <;> rfl

theorem digits_ne_nil (n : Nat) : digits n ≠ [] := by
  rw [digits, digitsOnto]
  split
  · exact List.cons_ne_nil _ _
  · rw [digitsOnto_eq]
    simp

theorem isAsciiDigit_of_mem_digits (n : Nat) : ∀ g ∈ digits n, g.isAsciiDigit = true := by
  induction n using Nat.strongRecOn with
  | ind n ih =>
    rcases Nat.lt_or_ge n 10 with h | h
    · rw [digits_of_lt h]
      simp [isAsciiDigit_digitGlyph]
    · have hlt : n / 10 < n := Nat.div_lt_self (by omega) (by decide)
      rw [digits_of_le h]
      simpa [or_imp, forall_and, isAsciiDigit_digitGlyph] using ih _ hlt

/-- A number other than zero is written without a leading zero. -/
theorem head_digits_ne_zero {n : Nat} (h : 0 < n) : ∀ g ∈ (digits n).head?, g ≠ .char '0' := by
  induction n using Nat.strongRecOn with
  | ind n ih =>
    rcases Nat.lt_or_ge n 10 with hn | hn
    · rw [digits_of_lt hn]
      interval_cases n <;> decide
    · have hlt : n / 10 < n := Nat.div_lt_self (by omega) (by decide)
      have hhead := ih _ hlt (Nat.div_pos hn (by decide))
      rw [digits_of_le hn]
      cases hdigits : digits (n / 10) with
      | nil => exact absurd hdigits (digits_ne_nil _)
      | cons g gs =>
        rw [hdigits] at hhead
        exact hhead

theorem length_digits_le {n k : Nat} (hk : 0 < k) (h : n < Nat.pow 10 k) :
    (digits n).length ≤ k := by
  induction k generalizing n with
  | zero => exact absurd hk (Nat.lt_irrefl 0)
  | succ k ih =>
    rcases Nat.lt_or_ge n 10 with hn | hn
    · rw [digits_of_lt hn]
      exact hk
    · have hlt : n < Nat.pow 10 k * 10 := h
      have hpos : 0 < k := by
        rcases Nat.eq_zero_or_pos k with rfl | hpos
        · exact absurd (show n < 10 from hlt) (Nat.not_lt.mpr hn)
        · exact hpos
      rw [digits_of_le hn, List.length_append]
      exact Nat.succ_le_succ (ih hpos (by omega))

theorem length_digits_mono {m n : Nat} (h : m ≤ n) : (digits m).length ≤ (digits n).length := by
  induction n using Nat.strongRecOn generalizing m with
  | ind n ih =>
    rcases Nat.lt_or_ge m 10 with hm | hm
    · rw [digits_of_lt hm]
      exact List.length_pos_iff.mpr (digits_ne_nil n)
    · have hlt : n / 10 < n := Nat.div_lt_self (by omega) (by decide)
      rw [digits_of_le hm, digits_of_le (hm.trans h), List.length_append, List.length_append]
      exact Nat.succ_le_succ (ih _ hlt (Nat.div_le_div_right h))

theorem ofDigitValues_concat (values : List Nat) (d : Nat) :
    ofDigitValues (values ++ [d]) = 10 * ofDigitValues values + d := by
  rw [ofDigitValues, List.foldl_append]
  rfl

theorem ofDigitValues_lt {values : List Nat} (h : ∀ d ∈ values, d < 10) :
    ofDigitValues values < 10 ^ values.length := by
  induction values using List.reverseRecOn with
  | nil => exact Nat.one_pos
  | append_singleton values d ih =>
    have hd : d < 10 := h d (by simp)
    have hvalues := ih fun e he => h e (by simp [he])
    rw [ofDigitValues_concat, List.length_append, List.length_singleton, Nat.pow_succ]
    omega

/-- **Digits are read back.** -/
theorem digitValues_digits (n : Nat) :
    ofDigitValues ((digits n).map fun g => g.code - 48) = n := by
  induction n using Nat.strongRecOn with
  | ind n ih =>
    rcases Nat.lt_or_ge n 10 with h | h
    · rw [digits_of_lt h, List.map_singleton, code_digitGlyph h]
      exact Nat.zero_add n
    · have hlt : n / 10 < n := Nat.div_lt_self (by omega) (by decide)
      rw [digits_of_le h, List.map_append, List.map_singleton, ofDigitValues_concat, ih _ hlt,
        code_digitGlyph (Nat.mod_lt n (by decide))]
      exact Nat.div_add_mod n 10

theorem digits_injective {m n : Nat} (h : digits m = digits n) : m = n := by
  rw [← digitValues_digits m, h, digitValues_digits]

/-! ## Padded digits -/

theorem ofDigitValues_cons (d : Nat) (values : List Nat) :
    ofDigitValues (d :: values) = d * 10 ^ values.length + ofDigitValues values := by
  induction values using List.reverseRecOn with
  | nil => simp [ofDigitValues]
  | append_singleton values e ih =>
    rw [← List.cons_append, ofDigitValues_concat, ofDigitValues_concat, ih, List.length_append,
      List.length_singleton, Nat.pow_succ, ← Nat.mul_assoc]
    omega

theorem ofDigitValues_zeros (count : Nat) (values : List Nat) :
    ofDigitValues (List.replicate count 0 ++ values) = ofDigitValues values := by
  induction count with
  | zero => rfl
  | succ count ih =>
    rw [List.replicate_succ, List.cons_append, ofDigitValues_cons, ih, Nat.zero_mul, Nat.zero_add]

/-- Zeros in front do not change what digits are read as. -/
theorem digitValues_paddedDigits (w n : Nat) :
    ofDigitValues ((paddedDigits w n).map fun g => g.code - 48) = n := by
  rw [paddedDigits, List.map_append, List.map_replicate]
  exact (ofDigitValues_zeros _ _).trans (digitValues_digits n)

theorem isAsciiDigit_of_mem_paddedDigits (w n : Nat) :
    ∀ g ∈ paddedDigits w n, g.isAsciiDigit = true := by
  refine List.forall_mem_append.mpr ⟨fun g hg => ?_, isAsciiDigit_of_mem_digits n⟩
  rw [List.eq_of_mem_replicate hg]
  rfl

theorem paddedDigits_ne_nil (w n : Nat) : paddedDigits w n ≠ [] :=
  List.append_ne_nil_of_right_ne_nil _ (digits_ne_nil n)

theorem length_paddedDigits {w n : Nat} (hw : 0 < w) (hn : n < Nat.pow 10 w) :
    (paddedDigits w n).length = w := by
  have hle := length_digits_le hw hn
  rw [paddedDigits, List.length_append, List.length_replicate]
  omega

/-! ## The order of digits -/

theorem compare_congr {α β : Type} [LinearOrder α] [LinearOrder β] {a b : α} {c d : β}
    (hlt : a < b ↔ c < d) (hgt : b < a ↔ d < c) : compare a b = compare c d := by
  rcases lt_trichotomy a b with h | h | h
  · rw [compare_lt_iff_lt.mpr h, compare_lt_iff_lt.mpr (hlt.mp h)]
  · have hle : c ≤ d := not_lt.mp fun hd => h.not_gt (hgt.mpr hd)
    have hge : d ≤ c := not_lt.mp fun hc => h.not_lt (hlt.mpr hc)
    rw [compare_eq_iff_eq.mpr h, compare_eq_iff_eq.mpr (le_antisymm hle hge)]
  · rw [compare_gt_iff_gt.mpr h, compare_gt_iff_gt.mpr (hgt.mp h)]

/-- Pairs are in the order of the numbers that they make up. -/
theorem compare_then_compare {a b c d base : Nat} (hc : c < base) (hd : d < base) :
    (compare a b).then (compare c d) = compare (a * base + c) (b * base + d) := by
  have hstep : ∀ {m n : Nat}, m < n → m * base + base ≤ n * base := fun h => by
    rw [← Nat.succ_mul]
    exact Nat.mul_le_mul_right base h
  rcases lt_trichotomy a b with hlt | rfl | hgt
  · have hless : a * base + c < b * base + d := by
      have := hstep hlt
      omega
    rw [Nat.compare_eq_lt.mpr hlt, Nat.compare_eq_lt.mpr hless, Ordering.lt_then]
  · rw [Nat.compare_eq_eq.mpr rfl, Ordering.eq_then]
    exact compare_congr (by omega) (by omega)
  · have hmore : b * base + d < a * base + c := by
      have := hstep hgt
      omega
    rw [Nat.compare_eq_gt.mpr hgt, Nat.compare_eq_gt.mpr hmore, Ordering.gt_then]

/-- **Digits are in the order of the numbers that they are read as**, if they are equally many. -/
theorem compare_eq_compare_ofDigitValues {ds es : Text} (hds : ∀ g ∈ ds, g.isAsciiDigit = true)
    (hes : ∀ g ∈ es, g.isAsciiDigit = true) (hlength : ds.length = es.length) :
    compare ds es = compare (ofDigitValues (ds.map fun g => g.code - 48))
      (ofDigitValues (es.map fun g => g.code - 48)) := by
  induction ds generalizing es with
  | nil =>
    obtain rfl := List.eq_nil_of_length_eq_zero hlength.symm
    rfl
  | cons g ds ih =>
    obtain ⟨e, es, rfl⟩ := List.exists_cons_of_length_eq_add_one hlength.symm
    have hlength := Nat.succ.inj hlength
    obtain ⟨hg, hds⟩ := List.forall_mem_cons.mp hds
    obtain ⟨he, hes⟩ := List.forall_mem_cons.mp hes
    have hcodes := Glyph.code_of_isAsciiDigit hg
    have hcodes' := Glyph.code_of_isAsciiDigit he
    have hcode : compare g.code e.code = compare (g.code - 48) (e.code - 48) :=
      compare_congr (by omega) (by omega)
    have hhead : compare g e = compare (g.code - 48) (e.code - 48) := hcode
    have hvalues : ∀ {cs : Text}, (∀ c ∈ cs, c.isAsciiDigit = true) →
        ofDigitValues (cs.map fun c => c.code - 48) < 10 ^ cs.length := by
      intro cs hcs
      rw [← List.length_map (f := fun c : Glyph => c.code - 48)]
      refine ofDigitValues_lt (List.forall_mem_map.mpr fun c hc => ?_)
      have := Glyph.code_of_isAsciiDigit (hcs c hc)
      omega
    rw [List.compare_cons_cons, ih hds hes hlength, hhead, List.map_cons, List.map_cons,
      ofDigitValues_cons, ofDigitValues_cons, List.length_map, List.length_map, hlength,
      compare_then_compare (hlength ▸ hvalues hds) (hvalues hes)]

theorem compare_paddedDigits {w m n : Nat} (hw : 0 < w) (hm : m < Nat.pow 10 w)
    (hn : n < Nat.pow 10 w) : compare (paddedDigits w m) (paddedDigits w n) = compare m n := by
  rw [compare_eq_compare_ofDigitValues (isAsciiDigit_of_mem_paddedDigits w m)
      (isAsciiDigit_of_mem_paddedDigits w n)
      (by rw [length_paddedDigits hw hm, length_paddedDigits hw hn]),
    digitValues_paddedDigits, digitValues_paddedDigits]

end Number
end QueryDesk
