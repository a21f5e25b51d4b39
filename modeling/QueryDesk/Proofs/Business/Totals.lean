import QueryDesk.Proofs.Business.Metrics
import QueryDesk.Proofs.Json.Numerals
import QueryDesk.Proofs.Value.Readings

/-!
# Totals are exact

Amounts are summed as decimals of 28 digits, one after the other, and the total is made a binary
number at the end.  As long as the amounts have two places at most and come to less than `10 ^ 26`,
each sum on the way fits into the digits (`Decimal.exists_add`), whatever the mixture of places.  So
nothing is rounded before the end, and the total of completed sales does not depend on the order of
the sales orders (`Metrics.of_exact`).
-/

set_option autoImplicit false

namespace QueryDesk

open Json (IsDigits digitsValue)

/-! ## Sums that fit -/

namespace Decimal

variable {m n : Nat} {d e : Int}

theorem digitCount_le {n k : Nat} (hk : 0 < k) (h : n < 10 ^ k) : digitCount n ≤ k :=
  Number.length_digits_le hk h

/-- A number of few digits is kept as it is. -/
theorem fit_eq (hn : n < 10 ^ precision) (hlow : sumLeastExponent ≤ e) (hhigh : e ≤ 0) :
    fit false n e = .ok (.finite false n e) := by
  have hcount : digitCount n ≤ 28 := digitCount_le (by decide) hn
  unfold sumLeastExponent at hlow
  unfold fit sumLeastExponent sumGreatestPower precision
  split
  · next hzero =>
    subst hzero
    rw [min_eq_right (by omega), max_eq_right hlow]
  · have hexcess : max ((digitCount n : Int) - (28 : Nat)) (-1000026 - e) ≤ 0 := by omega
    have hleading : ¬(999999 : Int) < leadingPower n e := by
      unfold leadingPower
      omega
    simp only [hexcess, if_true, hcount, hleading, and_false, if_false]

/-- Numbers of few digits are added exactly: the second is not so far below the first that it would
be replaced. -/
theorem addAligned_eq (hle : e ≤ d) (hsize : m * 10 ^ (d - e).toNat + n < 10 ^ precision)
    (hlow : sumLeastExponent ≤ e) (hhigh : e ≤ 0) :
    addAligned false m d false n e = .ok (.finite false (m * 10 ^ (d - e).toNat + n) e) := by
  have hnear : ¬(m ≠ 0 ∧ leadingPower n e < d - 1 + min 0 ((digitCount m : Int) - precision - 1)) := by
    rintro ⟨hm, hfar⟩
    have hlog : 10 ^ (Nat.log 10 m + (d - e).toNat) < 10 ^ precision :=
      calc 10 ^ (Nat.log 10 m + (d - e).toNat)
          = 10 ^ Nat.log 10 m * 10 ^ (d - e).toNat := Nat.pow_add _ _ _
        _ ≤ m * 10 ^ (d - e).toNat := Nat.mul_le_mul_right _ (Nat.pow_log_le_self 10 hm)
        _ < 10 ^ precision := by omega
    have hshift := (Nat.pow_lt_pow_iff_right (by decide)).mp hlog
    rw [leadingPower_eq, digitCount_eq] at hfar
    unfold precision at hshift hfar
    omega
  have hzero : (if m = 0 then 0 else m * Nat.pow 10 (d - e).toNat) = m * 10 ^ (d - e).toNat := by
    split
    · next hm => rw [hm, Nat.zero_mul]
    · rfl
  rw [addAligned]
  simp only [hnear, if_false, hzero, Number.withSign, Bool.false_eq_true, Bool.and_self]
  rw [← Int.natCast_add, Int.natAbs_natCast]
  have hsign : (if ((m * 10 ^ (d - e).toNat + n : Nat) : Int) = 0 then false
      else decide (((m * 10 ^ (d - e).toNat + n : Nat) : Int) < 0)) = false := by
    split
    · rfl
    · exact decide_eq_false (by omega)
  rw [hsign]
  exact fit_eq hsize hlow hhigh

/-- Says that a decimal is not below zero and has two places at most. -/
inductive IsPlain : Decimal → Prop
  | intro {coefficient : Nat} {exponent : Int} (hlow : -2 ≤ exponent) (hhigh : exponent ≤ 0) :
    IsPlain (.finite false coefficient exponent)

theorem toRat_finite (m : Nat) (d : Int) : (finite false m d).toRat = m * (10 : ℚ) ^ d := by
  simp [toRat]

/-- A number with few places that is less than `10 ^ 26` has few digits. -/
theorem lt_of_size (hlow : -2 ≤ e) (hhigh : e ≤ 0) (hsize : n * (10 : ℚ) ^ e < 10 ^ 26) :
    n < 10 ^ precision := by
  have hscale : (0 : ℚ) < (10 : ℚ) ^ (-e) := by positivity
  have hn : (n : ℚ) = n * (10 : ℚ) ^ e * (10 : ℚ) ^ (-e) := by
    rw [mul_assoc, ← zpow_add₀ (by norm_num), add_neg_cancel, zpow_zero, mul_one]
  have hplaces : (10 : ℚ) ^ (-e) ≤ (10 : ℚ) ^ (2 : Int) :=
    zpow_le_zpow_right₀ (by norm_num) (by omega)
  have hlt : (n : ℚ) < (10 : ℚ) ^ precision :=
    calc (n : ℚ) = n * (10 : ℚ) ^ e * (10 : ℚ) ^ (-e) := hn
      _ < 10 ^ 26 * (10 : ℚ) ^ (-e) := mul_lt_mul_of_pos_right hsize hscale
      _ ≤ 10 ^ 26 * (10 : ℚ) ^ (2 : Int) := by gcongr
      _ = (10 : ℚ) ^ precision := by norm_num [precision]
  exact_mod_cast hlt

/-- **A sum of less than `10 ^ 26` is exact**, with the places of the summand that has more. -/
theorem exists_add {x y : Decimal} (hx : x.IsPlain) (hy : y.IsPlain)
    (hsize : x.toRat + y.toRat < 10 ^ 26) :
    ∃ z, x.add y = .ok z ∧ z.IsPlain ∧ z.toRat = x.toRat + y.toRat := by
  have haligned : ∀ {m n : Nat} {d e : Int}, e ≤ d → -2 ≤ e → e ≤ 0 →
      m * (10 : ℚ) ^ d + n * (10 : ℚ) ^ e < 10 ^ 26 →
      ∃ z, addAligned false m d false n e = .ok z ∧ z.IsPlain ∧
        z.toRat = m * (10 : ℚ) ^ d + n * (10 : ℚ) ^ e := by
    intro m n d e hle hlow hhigh hsize
    have hsum : ((m * 10 ^ (d - e).toNat + n : Nat) : ℚ) * (10 : ℚ) ^ e =
        m * (10 : ℚ) ^ d + n * (10 : ℚ) ^ e := by
      rw [Nat.cast_add, add_mul, mul_zpow_align hle m]
      rfl
    have hfew : m * 10 ^ (d - e).toNat + n < 10 ^ precision :=
      lt_of_size hlow hhigh (hsum ▸ hsize)
    have hleast : sumLeastExponent ≤ e := by
      unfold sumLeastExponent
      omega
    exact ⟨_, addAligned_eq hle hfew hleast hhigh, .intro hlow hhigh, (toRat_finite _ _).trans hsum⟩
  cases hx with
  | @intro m d hdlow hdhigh =>
    cases hy with
    | @intro n e helow hehigh =>
      rw [toRat_finite, toRat_finite] at hsize ⊢
      rw [add]
      split
      · next hle => exact haligned hle helow hehigh hsize
      · next hlt =>
        rw [add_comm] at hsize ⊢
        exact haligned (by omega) hdlow hdhigh hsize

end Decimal

/-! ## The binary number of a total -/

namespace Binary64

/-- The binary number nearest to a rational one. -/
def ofRat (q : ℚ) : Binary64 := round (q < 0) q.num.natAbs q.den

theorem roundDiv_mul {k : Nat} (hk : 0 < k) (num den : Nat) :
    roundDiv (num * k) (den * k) = roundDiv num den := by
  have hlt : 2 * (num % den * k) < den * k ↔ 2 * (num % den) < den := by
    rw [← Nat.mul_assoc, Nat.mul_lt_mul_right hk]
  have hgt : den * k < 2 * (num % den * k) ↔ den < 2 * (num % den) := by
    rw [← Nat.mul_assoc, Nat.mul_lt_mul_right hk]
  unfold roundDiv
  simp only [Nat.mul_div_mul_right _ _ hk, Nat.mul_mod_mul_right, hlt, hgt]

/-- Rounding a fraction depends on its value only. -/
theorem round_mul {k : Nat} (hk : 0 < k) (negative : Bool) (num den : Nat) :
    round negative (num * k) (den * k) = round negative num den := by
  have hunits : ∀ scale, roundUnits negative (num * k * scale) (den * k) =
      roundUnits negative (num * scale) den := by
    intro scale
    unfold roundUnits
    rw [Nat.mul_right_comm num k scale, Nat.mul_div_mul_right _ _ hk]
    simp only [Nat.mul_right_comm den k, roundDiv_mul hk]
  unfold round
  generalize Nat.pow 2 1074 = scale
  exact hunits scale

theorem round_eq_ofRat (num : Nat) {den : Nat} (hden : 0 < den) :
    round false num den = ofRat (num / den) := by
  have hnonneg : (0 : ℚ) ≤ num / den := by positivity
  have hdivInt : (num / den : ℚ) = Rat.divInt num den := by
    rw [Rat.divInt_eq_div, Int.cast_natCast, Int.cast_natCast]
  generalize (num / den : ℚ) = q at hnonneg hdivInt
  -- The fraction is the reduced one with a common factor.
  obtain ⟨c, hnum, hd⟩ := Rat.num_den_mk (by omega) hdivInt
  have hpos : 0 < c := by
    by_contra hc
    have hle : c * (q.den : Int) ≤ 0 := Int.mul_nonpos_of_nonpos_of_nonneg (by omega) (by omega)
    omega
  obtain ⟨k, rfl⟩ := Int.eq_ofNat_of_zero_le hpos.le
  obtain ⟨p, hp⟩ := Int.eq_ofNat_of_zero_le (Rat.num_nonneg.mpr hnonneg)
  have hnum' : num = p * k := by
    rw [hp] at hnum
    exact_mod_cast hnum.trans (mul_comm _ _)
  have hden' : den = q.den * k := by exact_mod_cast hd.trans (mul_comm _ _)
  rw [ofRat, decide_eq_false (not_lt.mpr hnonneg), hp, Int.natAbs_natCast, hnum', hden',
    round_mul (by exact_mod_cast hpos)]

end Binary64

theorem Decimal.toBinary64_eq {x : Decimal} (hx : x.IsPlain) (hsize : x.toRat < 10 ^ 26) :
    x.toBinary64 = Binary64.ofRat x.toRat := by
  cases hx with
  | @intro n e hlow hhigh =>
    rw [toRat_finite] at hsize
    have hcount : digitCount n ≤ 28 := digitCount_le (by decide) (lt_of_size hlow hhigh hsize)
    have hpow : (n : ℚ) * (10 : ℚ) ^ e = n / ((10 ^ (-e).toNat : Nat) : ℚ) := by
      obtain ⟨k, hk⟩ := Int.eq_ofNat_of_zero_le (Int.neg_nonneg.mpr hhigh)
      obtain rfl : e = -k := by omega
      simp [div_eq_mul_inv]
    have hround : Binary64.round false n (10 ^ (-e).toNat) = Binary64.ofRat (n * (10 : ℚ) ^ e) := by
      rw [hpow]
      exact Binary64.round_eq_ofRat n (by positivity)
    rw [toRat_finite, ← hround, toBinary64, Binary64.ofDecimal]
    unfold digitCount at hcount
    split
    · next hzero => rw [hzero, Binary64.round_zero, Binary64.zero]
    · rw [if_neg (by omega), if_neg (by omega)]
      split
      · next hwhole =>
        obtain rfl : e = 0 := by omega
        exact congrArg (Binary64.round false · 1) (Nat.mul_one n)
      · rfl

/-! ## Amounts -/

/-- Says that a text spells an amount: digits, and a point among them or at their end with two of
them behind it at most. -/
inductive IsAmount : Text → ℚ → Prop
  | whole {ds : Text} (hne : ds ≠ []) (hds : IsDigits ds) : IsAmount ds (digitsValue ds)
  | places {ds ps : Text} (hne : ds ++ ps ≠ []) (hds : IsDigits (ds ++ ps)) (hps : ps.length ≤ 2) :
    IsAmount (ds ++ .char '.' :: ps) (digitsValue (ds ++ ps) / 10 ^ ps.length)

namespace Decimal

theorem allDigits?_eq {ds : Text} (h : IsDigits ds) :
    allDigits? ds = some (ds.map fun g => g.code - 48) := by
  induction ds with
  | nil => rfl
  | cons g ds ih =>
    obtain ⟨hg, hds⟩ := List.forall_mem_cons.mp h
    rw [allDigits?] at ih ⊢
    rw [List.mapM_cons, Glyph.digitValue?_of_isAsciiDigit hg, ih hds]
    rfl

/-- Digits around a point are read as a decimal with their places. -/
theorem readFinite_eq {ds ps tail : Text} (hne : ds ++ ps ≠ []) (hds : IsDigits (ds ++ ps))
    (htail : tail = .char '.' :: ps ∨ (tail = [] ∧ ps = [])) (hps : ps.length ≤ 2)
    (hsize : digitsValue (ds ++ ps) < 10 ^ precision) :
    readFinite false (ds ++ tail) = .ok (.finite false (digitsValue (ds ++ ps)) (-ps.length)) := by
  obtain ⟨hdigits, hplaces⟩ := List.forall_mem_append.mp hds
  have hmark : ∀ g ∈ ds ++ tail, (!g.isOneOf ['e', 'E']) = true := by
    have hdigit : ∀ g : Glyph, g.isAsciiDigit = true → (!g.isOneOf ['e', 'E']) = true := fun g hg => by
      rw [Glyph.isOneOf_of_isAsciiDigit hg (by decide)]
      rfl
    refine List.forall_mem_append.mpr ⟨fun g hg => hdigit g (hdigits g hg), ?_⟩
    rcases htail with rfl | ⟨rfl, -⟩
    · exact List.forall_mem_cons.mpr ⟨rfl, fun g hg => hdigit g (hplaces g hg)⟩
    · exact fun g hg => (List.not_mem_nil hg).elim
  have hwhole : splitBefore (· = .char '.') (ds ++ tail) = (ds, tail) := by
    have hpoint : ∀ g ∈ ds, (!decide (g = Glyph.char '.')) = true := fun g hg => by
      rw [decide_eq_false (Glyph.ne_of_isAsciiDigit (hdigits g hg) rfl)]
      rfl
    rw [splitBefore, List.takeWhile_append_of_pos hpoint, List.dropWhile_append_of_pos hpoint]
    rcases htail with rfl | ⟨rfl, -⟩ <;> simp
  have hdrop : tail.drop 1 = ps := by
    rcases htail with rfl | ⟨rfl, rfl⟩ <;> rfl
  have hmantissa : splitBefore (·.isOneOf ['e', 'E']) (ds ++ tail) = (ds ++ tail, []) := by
    rw [splitBefore, List.takeWhile_eq_self_iff.mpr hmark, List.dropWhile_eq_nil_iff.mpr hmark]
  have hcount : digitCount (digitsValue (ds ++ ps)) ≤ 28 := digitCount_le (by decide) hsize
  have hbounds : ¬(greatestPower < leadingPower (digitsValue (ds ++ ps)) (-ps.length) ∨
      (-ps.length : Int) < leastExponent) := by
    unfold greatestPower leadingPower leastExponent
    omega
  obtain ⟨v, vs, hvalues⟩ : ∃ v vs, (ds ++ ps).map (fun g => g.code - 48) = v :: vs :=
    List.exists_cons_of_ne_nil (by rwa [Ne, List.map_eq_nil_iff])
  unfold digitsValue at hbounds ⊢
  rw [hvalues] at hbounds ⊢
  unfold readFinite
  simp only [hmantissa, hwhole, hdrop, allDigits?_eq hds, hvalues, hbounds, if_false, Int.zero_sub]

/-- **An amount is read exactly.** -/
theorem exists_read {t : Text} {q : ℚ} (h : IsAmount t q) (hsize : q < 10 ^ 26) :
    ∃ x, read t = .ok x ∧ x.IsPlain ∧ x.toRat = q := by
  -- Both forms of an amount are digits in front of a tail.
  obtain ⟨ds, ps, tail, rfl, hne, hds, htail, hps, rfl⟩ : ∃ ds ps tail : Text, t = ds ++ tail ∧
      ds ++ ps ≠ [] ∧ IsDigits (ds ++ ps) ∧ (tail = .char '.' :: ps ∨ (tail = [] ∧ ps = [])) ∧
        ps.length ≤ 2 ∧ q = digitsValue (ds ++ ps) * (10 : ℚ) ^ (-ps.length : Int) := by
    cases h with
    | whole hne hds =>
      exact ⟨t, [], [], (List.append_nil t).symm, by simpa using hne, by simpa using hds,
        .inr ⟨rfl, rfl⟩, Nat.zero_le 2, by simp⟩
    | @places ds ps hne hds hps =>
      exact ⟨ds, ps, _, rfl, hne, hds, .inl rfl, hps, by simp [div_eq_mul_inv]⟩
  have hfew : digitsValue (ds ++ ps) < 10 ^ precision := lt_of_size (by omega) (by omega) hsize
  have hglyph : ∀ g ∈ ds ++ tail, g.isAsciiDigit = true ∨ g = .char '.' := by
    obtain ⟨hdigits, hplaces⟩ := List.forall_mem_append.mp hds
    refine List.forall_mem_append.mpr ⟨fun g hg => .inl (hdigits g hg), ?_⟩
    rcases htail with rfl | ⟨rfl, -⟩
    · exact List.forall_mem_cons.mpr ⟨.inr rfl, fun g hg => .inl (hplaces g hg)⟩
    · exact fun g hg => (List.not_mem_nil hg).elim
  have hblank : ∀ g ∈ ds ++ tail, g.isBlank = false := by
    intro g hg
    rcases hglyph g hg with hdigit | rfl
    · exact Glyph.isBlank_of_isAsciiDigit hdigit
    · decide
  have htrim : (ds ++ tail).trim = ds ++ tail := Text.trim_eq_self
    ⟨fun g hg => hblank g (List.mem_of_mem_head? hg),
      fun g hg => hblank g (List.mem_of_mem_getLast? hg)⟩
  have hline : (ds ++ tail).trim.filter (· ≠ .char '_') = ds ++ tail := by
    rw [htrim, List.filter_eq_self]
    intro g hg
    rcases hglyph g hg with hdigit | rfl
    · exact decide_eq_true (Glyph.ne_of_isAsciiDigit hdigit rfl)
    · rfl
  obtain ⟨g, rest, hfirst⟩ : ∃ g rest, ds ++ tail = g :: rest := by
    refine List.exists_cons_of_ne_nil fun hnil => hne ?_
    obtain ⟨rfl, rfl⟩ := List.append_eq_nil_iff.mp hnil
    rcases htail with htail | ⟨-, rfl⟩
    · cases htail
    · rfl
  have hhead := hglyph g (hfirst ▸ List.mem_cons_self)
  have hread := readFinite_eq hne hds htail hps hfew
  exact ⟨_, (read_of_numeral hhead (hline.trans hfirst)).trans (hfirst ▸ hread),
    .intro (by omega) (by omega), toRat_finite _ _⟩

end Decimal

theorem IsAmount.nonneg {t : Text} {q : ℚ} (h : IsAmount t q) : 0 ≤ q := by
  cases h <;> positivity

/-! ## Totals -/

namespace Metrics

variable {size : SalesOrder → ℚ} {orders : List SalesOrder}

/-- Says that the amounts of all orders of a list are spelled, and what they are. -/
def HaveAmounts (orders : List SalesOrder) (size : SalesOrder → ℚ) : Prop :=
  ∀ o ∈ orders, ∃ t, o.totalAmount = .text t ∧ IsAmount t (size o)

theorem HaveAmounts.sum_nonneg (h : HaveAmounts orders size) : 0 ≤ (orders.map size).sum :=
  List.sum_nonneg <| List.forall_mem_map.mpr fun o ho =>
    let ⟨_, _, hamount⟩ := h o ho
    hamount.nonneg

/-- **Amounts are added up exactly**, one after the other. -/
theorem exists_total {sum : Decimal} (hsum : sum.IsPlain) (h : HaveAmounts orders size)
    (hsize : sum.toRat + (orders.map size).sum < 10 ^ 26) :
    ∃ z, total sum (orders.map (·.totalAmount)) = .ok z ∧ z.IsPlain ∧
      z.toRat = sum.toRat + (orders.map size).sum := by
  induction orders generalizing sum with
  | nil => exact ⟨sum, rfl, hsum, by simp⟩
  | cons o orders ih =>
    obtain ⟨⟨t, ht, hamount⟩, horders⟩ := List.forall_mem_cons.mp h
    have hrest := HaveAmounts.sum_nonneg horders
    rw [List.map_cons, List.sum_cons] at hsize
    have hfirst := hamount.nonneg
    have hbelow : 0 ≤ sum.toRat := by
      cases hsum
      rw [Decimal.toRat_finite]
      positivity
    obtain ⟨x, hread, hx, hxsize⟩ := Decimal.exists_read hamount (by linarith)
    obtain ⟨y, hadd, hy, hysize⟩ := Decimal.exists_add hsum hx (by linarith)
    obtain ⟨z, hz, hplain, hzsize⟩ := ih hy horders (by linarith)
    refine ⟨z, ?_, hplain, by rw [hzsize, hysize, hxsize, List.map_cons, List.sum_cons, add_assoc]⟩
    rw [List.map_cons, total, ht, amount, hread]
    show ((sum.add x).mapError Fault.decimal >>= fun sum => total sum _) = _
    rw [hadd]
    exact hz

/-- The completed ones among some orders. -/
def completed (orders : List SalesOrder) : List SalesOrder :=
  orders.filter (·.status = Text.of "completed")

/-- **Totals are exact.**  Each sum on the way is the exact sum of the amounts so far, and whatever
the order of the sales orders, the key figures hold the binary number nearest to the exact total;
they fail only where the dates of invoices cannot be compared. -/
theorem of_exact {d : Dataset} (h : HaveAmounts (completed d.salesOrders) size)
    (hsize : ((completed d.salesOrders).map size).sum < 10 ^ 26) (now : Timestamp) :
    (∀ front, front <+: completed d.salesOrders →
      ∃ sum, total (.finite false 0 0) (front.map (·.totalAmount)) = .ok sum ∧
        sum.isFinite = true ∧ sum.toRat = (front.map size).sum) ∧
    ∀ orders, orders.Perm d.salesOrders → Metrics.of { d with salesOrders := orders } now =
      (count (isOverdue now) d.invoices).map fun overdue =>
        { totalSales := .ofRat ((completed d.salesOrders).map size).sum
          pendingOrders := (d.salesOrders.filter (·.status = Text.of "pending")).length
          activeWorkOrders := (d.workOrders.filter (·.status = Text.of "in-progress")).length
          overdueInvoices := overdue } := by
  have hzero : (Decimal.finite false 0 0).toRat = 0 := by simp [Decimal.toRat]
  have hstart : (Decimal.finite false 0 0).IsPlain := .intro (by decide) (by decide)
  constructor
  · rintro front ⟨behind, hfront⟩
    have hparts : HaveAmounts front size ∧ HaveAmounts behind size := by
      rw [← hfront] at h
      exact List.forall_mem_append.mp h
    have hbehind := hparts.2.sum_nonneg
    rw [← hfront, List.map_append, List.sum_append] at hsize
    obtain ⟨sum, hsum, hplain, hexact⟩ := exists_total hstart hparts.1 (by rw [hzero]; linarith)
    refine ⟨sum, hsum, ?_, by rw [hexact, hzero, zero_add]⟩
    cases hplain
    rfl
  · intro orders hperm
    have hcompleted : (completed orders).Perm (completed d.salesOrders) := hperm.filter _
    have hsame : ((completed orders).map size).sum = ((completed d.salesOrders).map size).sum :=
      (hcompleted.map size).sum_eq
    have hamounts : HaveAmounts (completed orders) size := fun o ho => h o (hcompleted.subset ho)
    obtain ⟨sum, hsum, hplain, hexact⟩ := exists_total hstart hamounts
      (by rw [hzero, hsame, zero_add]; exact hsize)
    rw [hzero, zero_add, hsame] at hexact
    have hnearest : sum.toBinary64 = .ofRat ((completed d.salesOrders).map size).sum := by
      rw [Decimal.toBinary64_eq hplain (hexact ▸ hsize), hexact]
    rw [completed] at hsum
    rw [Metrics.of, hsum, Except.ok_bind, (hperm.filter _).length_eq, hnearest]
    cases count (isOverdue now) d.invoices <;> rfl

/-- An order whose amount does not matter. -/
def cancelledOrder : SalesOrder :=
  { completedOrder (.text (Text.of "abc")) with status := Text.of "cancelled" }

/-- Orders with amounts of several forms that come to 28 digits. -/
def largeOrders : List SalesOrder :=
  [completedOrder (.text (Text.of "99999999999999999999999998.49")), cancelledOrder,
    completedOrder (.text (Text.of "01")), completedOrder (.text (Text.of ".5"))]

/-- What their amounts are. -/
def largeSize (o : SalesOrder) : ℚ :=
  match o.totalAmount with
  | .text t =>
    if t = Text.of ".5" then 1 / 2
    else if t = Text.of "01" then 1
    else 9999999999999999999999999849 / 100
  | _ => 0

theorem haveAmounts_largeOrders : HaveAmounts (completed largeOrders) largeSize := by
  have hlarge : IsAmount (Text.of "99999999999999999999999998.49")
      (9999999999999999999999999849 / 100) := by
    have hvalue : digitsValue (Text.of "99999999999999999999999998" ++ Text.of "49") =
        9999999999999999999999999849 := by decide +kernel
    have hsize : ((9999999999999999999999999849 : Nat) : ℚ) / 10 ^ 2 =
        9999999999999999999999999849 / 100 := by norm_num
    have h := @IsAmount.places (Text.of "99999999999999999999999998") (Text.of "49")
      (by decide) (by decide) (by decide)
    rw [hvalue] at h
    exact hsize ▸ h
  have hone : IsAmount (Text.of "01") 1 := by
    have hsize : ((digitsValue (Text.of "01") : Nat) : ℚ) = 1 := Nat.cast_one
    exact hsize ▸ IsAmount.whole (by decide) (by decide)
  have hhalf : IsAmount (Text.of ".5") (1 / 2) := by
    have hsize : ((5 : Nat) : ℚ) / 10 ^ 1 = 1 / 2 := by norm_num
    exact hsize ▸ @IsAmount.places [] (Text.of "5") (by decide) (by decide) (by decide)
  exact List.forall_mem_cons.mpr ⟨⟨_, rfl, hlarge⟩, List.forall_mem_cons.mpr ⟨⟨_, rfl, hone⟩,
    List.forall_mem_cons.mpr ⟨⟨_, rfl, hhalf⟩, fun _ ho => (List.not_mem_nil ho).elim⟩⟩⟩

theorem sum_largeSize :
    ((completed largeOrders).map largeSize).sum = 9999999999999999999999999999 / 100 := by
  have hsizes : (completed largeOrders).map largeSize =
      [9999999999999999999999999849 / 100, 1, 1 / 2] := rfl
  rw [hsizes]
  norm_num

/-- The total is as close to `10 ^ 26` as it can be, and the same from the last order to the first;
an amount that is no number stands at a cancelled order. -/
theorem of_exact_largeOrders :
    HaveAmounts (completed largeOrders) largeSize ∧
    ((completed largeOrders).map largeSize).sum < 10 ^ 26 ∧
    (∀ front, front <+: completed largeOrders →
      ∃ sum, total (.finite false 0 0) (front.map (·.totalAmount)) = .ok sum ∧
        sum.isFinite = true ∧ sum.toRat = (front.map largeSize).sum) ∧
    Metrics.of ⟨largeOrders.reverse, [], [], []⟩ (.midnight ⟨2024, 6, 15⟩) =
      .ok ⟨.ofRat (9999999999999999999999999999 / 100), 0, 0, 0⟩ := by
  have hbound : ((completed largeOrders).map largeSize).sum < 10 ^ 26 := by
    rw [sum_largeSize]
    norm_num
  obtain ⟨hfront, horder⟩ := of_exact (d := ⟨largeOrders, [], [], []⟩) haveAmounts_largeOrders
    hbound (.midnight ⟨2024, 6, 15⟩)
  refine ⟨haveAmounts_largeOrders, hbound, hfront, ?_⟩
  rw [← sum_largeSize]
  exact horder _ (List.reverse_perm _)

end Metrics
end QueryDesk
