import Mathlib.Algebra.Field.ZMod
import Mathlib.Algebra.Polynomial.AlgebraMap
import Mathlib.Algebra.Polynomial.BigOperators
import Mathlib.Tactic.IntervalCases
import Mathlib.Tactic.Ring
import QueryDesk.Random.Twister

/-!
# A generator never fails for long

The words of a register, written one after the other through all its renewals, are a sequence of
words in which each depends on three before it (`isTwisted_stream`), bit by bit a linear recurrence
over the field of two elements.  A generator draws these words in turn (`IsFull.draw_fst`,
`IsFull.upcoming_draw`).

A number below a bound is drawn again as long as the word drawn is too large, and then its leading
bit is one.  Eliminating the other bits from the recurrence leaves a polynomial in the shift that
sends each sequence of bits to zero (`act_annihilator`).  Its degree is below 20000, and at one it
is one; so the leading bits of 20000 words in turn are not all ones (`exists_bit_temper_ne_one`).
Hence the bound on the number of tries never shows (`draws_drawBelow`).
-/

set_option autoImplicit false

open Polynomial

namespace QueryDesk
namespace Twister

/-! ## Renewing the register -/

/-- The register with the words in front of a place renewed. -/
def renewTo (words : Array UInt32) (k : Nat) : Array UInt32 := (List.range k).foldl renewWord words

/-- The leading bit of one word with the other bits of the next. -/
def join (y z : UInt32) : UInt32 := (y &&& 0x80000000) ||| (z &&& 0x7FFFFFFF)

/-- The bits that a last bit of one changes. -/
def feedback : UInt32 := 0x9908B0DF

/-- What a word contributes to the words after it. -/
def twist (u : UInt32) : UInt32 := (u >>> 1) ^^^ (if u &&& 1 = 0 then 0 else feedback)

variable {words : Array UInt32} {i j k n : Nat}

theorem renewTo_succ (words : Array UInt32) (k : Nat) :
    renewTo words (k + 1) = renewWord (renewTo words k) k := by
  simp [renewTo, List.range_succ]

theorem word_setIfInBounds (words : Array UInt32) (i j : Nat) (w : UInt32) :
    word (words.setIfInBounds i w) j = if i = j ∧ i < words.size then w else word words j := by
  simp only [word, Array.getD_eq_getD_getElem?, Array.getElem?_setIfInBounds]
  by_cases hij : i = j
  · subst hij
    by_cases hi : i < words.size <;> simp [hi]
  · simp [hij]

theorem size_renewWord (words : Array UInt32) (i : Nat) : (renewWord words i).size = words.size :=
  Array.size_setIfInBounds

@[simp] theorem size_renewTo (words : Array UInt32) (k : Nat) :
    (renewTo words k).size = words.size := by
  induction k with
  | zero => rfl
  | succ k ih => rw [renewTo_succ, size_renewWord, ih]

@[simp] theorem size_renew (words : Array UInt32) : (renew words).size = words.size :=
  size_renewTo words size

theorem word_renewWord (words : Array UInt32) (hi : i < words.size) :
    word (renewWord words i) j = if i = j then
      word words ((i + middle) % size) ^^^ twist (join (word words i) (word words ((i + 1) % size)))
    else word words j := by
  rw [renewWord, word_setIfInBounds, UInt32.xor_assoc]
  simp only [hi, and_true]
  rfl

/-- A word is renewed once, in its turn. -/
theorem word_renewTo_of_le (h : k ≤ words.size) (hj : k ≤ j) :
    word (renewTo words k) j = word words j := by
  induction k with
  | zero => rfl
  | succ k ih =>
    rw [renewTo_succ, word_renewWord _ (by rwa [size_renewTo]), if_neg (by omega),
      ih (by omega) (by omega)]

theorem word_renewTo_of_lt (h : k ≤ words.size) (hj : j < k) :
    word (renewTo words k) j = word (renewTo words (j + 1)) j := by
  induction k with
  | zero => omega
  | succ k ih =>
    rcases Nat.lt_succ_iff_lt_or_eq.mp hj with hlt | rfl
    · rw [renewTo_succ, word_renewWord _ (by rwa [size_renewTo]), if_neg (by omega),
        ih (by omega) hlt]
    · rfl

/-- While words are renewed, those in front of a place are new and the others old. -/
theorem word_renewTo (hwords : words.size = size) (hk : k ≤ size) :
    word (renewTo words k) j = if j < k then word (renew words) j else word words j := by
  split_ifs with hj
  · rw [word_renewTo_of_lt (by omega) hj, ← word_renewTo_of_lt (k := size) (by omega) (by omega)]
    rfl
  · exact word_renewTo_of_le (by omega) (by omega)

/-! ## The sequence of words -/

/-- The word at a place of the sequence that begins with a register and goes on with its
renewals. -/
def stream (words : Array UInt32) (n : Nat) : UInt32 := word (renew^[n / size] words) (n % size)

theorem stream_of_lt (h : n < size) : stream words n = word words n := by
  rw [stream, Nat.div_eq_of_lt h, Nat.mod_eq_of_lt h]
  rfl

/-- The sequence of a renewed register begins with its second block. -/
theorem stream_renew (words : Array UInt32) (n : Nat) :
    stream (renew words) n = stream words (n + size) := by
  rw [stream, stream, Nat.add_mod_right, Nat.add_div_right n (by decide), Function.iterate_succ_apply]

theorem size_iterate_renew (words : Array UInt32) (k : Nat) :
    (renew^[k] words).size = words.size := by
  induction k generalizing words with
  | zero => rfl
  | succ k ih => rw [Function.iterate_succ_apply, ih, size_renew]

/-- So many renewals on, the sequence begins with a later block. -/
theorem stream_iterate_renew (words : Array UInt32) (k n : Nat) :
    stream (renew^[k] words) n = stream words (k * size + n) := by
  induction k generalizing words with
  | zero => rw [Nat.zero_mul, Nat.zero_add]; rfl
  | succ k ih =>
    rw [Function.iterate_succ_apply, ih, stream_renew]
    exact congrArg _ (by ring)

/-- A word that is read in a renewal stands less than a block further on in the sequence. -/
theorem word_renewTo_mod (hwords : words.size = size) (hi : i < size) {d : Nat} (hd : 0 < d)
    (hlt : d < size) : word (renewTo words i) ((i + d) % size) = stream words (i + d) := by
  rw [word_renewTo hwords hi.le]
  rcases Nat.lt_or_ge (i + d) size with h | h
  · rw [Nat.mod_eq_of_lt h, if_neg (by omega), stream_of_lt h]
  · obtain ⟨j, hj⟩ : ∃ j, i + d = j + size := ⟨i + d - size, by omega⟩
    have hmod : (i + d) % size = j := by
      rw [hj, Nat.add_mod_right, Nat.mod_eq_of_lt (by omega)]
    rw [hmod, if_pos (by omega), hj, ← stream_renew, stream_of_lt (by omega)]

/-- Says that each word of a sequence is made of those 624, 623 and 227 places before it. -/
def IsTwisted (x : Nat → UInt32) : Prop :=
  ∀ n, x (n + size) = x (n + middle) ^^^ twist (join (x n) (x (n + 1)))

theorem stream_add_size (hwords : words.size = size) (hi : i < size) :
    stream words (i + size) =
      stream words (i + middle) ^^^ twist (join (stream words i) (stream words (i + 1))) := by
  have hnew : word (renew words) i = word (renewTo words (i + 1)) i :=
    word_renewTo_of_lt (by omega) hi
  rw [← stream_renew, stream_of_lt hi, hnew, renewTo_succ,
    word_renewWord _ (by rw [size_renewTo]; omega), if_pos rfl,
    word_renewTo_mod hwords hi (by decide) (by decide),
    word_renewTo_mod hwords hi (by decide) (by decide), word_renewTo hwords hi.le,
    if_neg (Nat.lt_irrefl i), stream_of_lt hi]

/-- **The words of a register and its renewals follow one recurrence.** -/
theorem isTwisted_stream (hwords : words.size = size) : IsTwisted (stream words) := by
  intro n
  have hblock : ∀ d, stream words (n + d) =
      stream (renew^[n / size] words) (n % size + d) := by
    intro d
    rw [stream_iterate_renew, ← Nat.add_assoc, Nat.mul_comm, Nat.div_add_mod]
  have hfirst := hblock 0
  rw [Nat.add_zero, Nat.add_zero] at hfirst
  rw [hblock, hblock, hblock, hfirst]
  exact stream_add_size (by rw [size_iterate_renew, hwords]) (Nat.mod_lt n (by decide))

/-! ## Drawing from the sequence -/

/-- A generator whose register is complete. -/
structure IsFull (t : Twister) : Prop where
  size_words : t.words.size = size
  next_le : t.next ≤ size

theorem isFull_mk {next : Nat} (hwords : words.size = size) (hnext : next ≤ size) :
    IsFull ⟨words, next⟩ := ⟨hwords, hnext⟩

/-- The word that is drawn, before its bits are spread, after so many others. -/
def upcoming (t : Twister) (n : Nat) : UInt32 := stream t.words (t.next + n)

variable {t : Twister}

theorem IsFull.isTwisted (h : t.IsFull) : IsTwisted t.upcoming := fun n => by
  simpa only [upcoming, Nat.add_assoc] using isTwisted_stream h.size_words (t.next + n)

theorem draw_of_lt (h : t.next < size) :
    t.draw = (temper (word t.words t.next), ⟨t.words, t.next + 1⟩) := if_pos h

theorem draw_of_le (h : size ≤ t.next) :
    t.draw = (temper (word (renew t.words) 0), ⟨renew t.words, 1⟩) := if_neg (Nat.not_lt.mpr h)

theorem IsFull.draw (h : t.IsFull) : t.draw.2.IsFull := by
  rcases Nat.lt_or_ge t.next size with hlt | hle
  · rw [draw_of_lt hlt]
    exact ⟨h.size_words, hlt⟩
  · rw [draw_of_le hle]
    have hwords : (renew t.words).size = size := (size_renew _).trans h.size_words
    have hnext : 1 ≤ size := by decide
    exact isFull_mk hwords hnext

/-- A drawn word is the next of the sequence, its bits spread. -/
theorem IsFull.draw_fst (h : t.IsFull) : t.draw.1 = temper (t.upcoming 0) := by
  rcases Nat.lt_or_ge t.next size with hlt | hle
  · rw [draw_of_lt hlt, upcoming, Nat.add_zero t.next, stream_of_lt hlt]
  · have hnext : t.next + 0 = 0 + size := by
      have := h.next_le
      omega
    rw [draw_of_le hle, upcoming, hnext, ← stream_renew, stream_of_lt (by decide)]

theorem IsFull.upcoming_draw (h : t.IsFull) (n : Nat) :
    t.draw.2.upcoming n = t.upcoming (n + 1) := by
  rcases Nat.lt_or_ge t.next size with hlt | hle
  · have hnext : t.next + 1 + n = t.next + (n + 1) := by omega
    rw [draw_of_lt hlt, upcoming, upcoming, hnext]
  · have hnext : t.next + (n + 1) = 1 + n + size := by
      have := h.next_le
      omega
    rw [draw_of_le hle, upcoming, upcoming, hnext, ← stream_renew]

/-! ## Bits -/

/-- A bit of a word, in the field of two elements. -/
def bit (j : Nat) (w : UInt32) : ZMod 2 := if w.toBitVec.getLsbD j then 1 else 0

theorem bit_xor (j : Nat) (a b : UInt32) : bit j (a ^^^ b) = bit j a + bit j b := by
  simp only [bit, UInt32.toBitVec_xor, BitVec.getLsbD_xor]
  cases a.toBitVec.getLsbD j <;> cases b.toBitVec.getLsbD j <;> decide

theorem bit_join_of_lt (h : j < 31) (y z : UInt32) : bit j (join y z) = bit j z := by
  have hlow : (0x7FFFFFFF#32).getLsbD j = true := by
    interval_cases j <;> rfl
  have hhigh : (0x80000000#32).getLsbD j = false := by
    interval_cases j <;> rfl
  simp [bit, join, hlow, hhigh]

theorem bit_join_last (y z : UInt32) : bit 31 (join y z) = bit 31 y := by
  simp [bit, join]

theorem and_one_eq_zero_iff (u : UInt32) : u &&& 1 = 0 ↔ u.toBitVec.getLsbD 0 = false := by
  rw [← UInt32.toBitVec_inj]
  constructor
  · intro h
    simpa using congrArg (BitVec.getLsbD · 0) h
  · intro h
    refine BitVec.eq_of_getLsbD_eq fun i hi => ?_
    cases i with
    | zero => simpa using h
    | succ i => simp

/-- Each bit is taken from the next place, and a last bit of one is fed back. -/
theorem bit_twist (j : Nat) (u : UInt32) :
    bit j (twist u) = bit (j + 1) u + bit j feedback * bit 0 u := by
  have hlast := and_one_eq_zero_iff u
  have hshift : bit j (u >>> 1) = bit (j + 1) u := by simp [bit, Nat.add_comm]
  rw [twist, bit_xor, hshift]
  by_cases h : u &&& 1 = 0
  · have hzero := hlast.mp h
    simp only [if_pos h, bit, hzero]
    simp
  · have hone := (Bool.not_eq_false _).mp (mt hlast.mpr h)
    simp only [if_neg h, bit, hone]
    simp

/-- The leading bit of a word that is drawn is the sum of four bits of the register. -/
theorem bit_temper (y : UInt32) :
    bit 31 (temper y) = bit 31 y + bit 24 y + bit 16 y + bit 27 y := by
  have h : (temper y).toBitVec.getLsbD 31 = (y.toBitVec.getLsbD 31 ^^ (y.toBitVec.getLsbD 24 ^^
      (y.toBitVec.getLsbD 16 ^^ y.toBitVec.getLsbD 27))) := by
    simp [temper]
  have hsum : ∀ a b c d : Bool, (if (a ^^ (b ^^ (c ^^ d))) then 1 else 0 : ZMod 2) =
      (if a then 1 else 0) + (if b then 1 else 0) + (if c then 1 else 0) +
        (if d then 1 else 0) := by
    decide
  rw [bit, h, hsum]
  rfl

/-! ## Polynomials in the shift -/

/-- A sequence of bits. -/
abbrev Bits := Nat → ZMod 2

/-- The sequence without its first bit. -/
noncomputable def shift : Module.End (ZMod 2) Bits := LinearMap.funLeft (ZMod 2) (ZMod 2) (· + 1)

/-- A polynomial in the shift, at work on a sequence. -/
noncomputable def act (p : (ZMod 2)[X]) (s : Bits) : Bits := aeval shift p s

theorem act_mul (p q : (ZMod 2)[X]) (s : Bits) : act (p * q) s = act p (act q s) := by
  rw [act, map_mul]
  rfl

theorem act_add (p q : (ZMod 2)[X]) (s : Bits) : act (p + q) s = act p s + act q s := by
  rw [act, map_add]
  rfl

theorem act_map_add (p : (ZMod 2)[X]) (s u : Bits) : act p (s + u) = act p s + act p u :=
  map_add (aeval shift p) s u

theorem act_comm (p q : (ZMod 2)[X]) (s : Bits) : act p (act q s) = act q (act p s) := by
  rw [← act_mul, mul_comm, act_mul]

theorem act_zero (p : (ZMod 2)[X]) : act p 0 = 0 := map_zero (aeval shift p)

theorem act_X_pow (k : Nat) (s : Bits) : act (X ^ k) s = fun n => s (n + k) := by
  rw [act, map_pow, aeval_X]
  induction k generalizing s with
  | zero => rfl
  | succ k ih =>
    rw [pow_succ, Module.End.mul_apply, ih]
    funext n
    exact congrArg s (Nat.add_assoc n k 1)

theorem act_C (c : ZMod 2) (s : Bits) : act (C c) s = c • s := by
  rw [act, aeval_C]
  rfl

/-- A polynomial that is one at one does not send as many ones in turn to zero as it has
coefficients. -/
theorem exists_ne_one_of_act_eq_zero {p : (ZMod 2)[X]} {s : Bits} {count : Nat}
    (hdegree : p.natDegree < count) (hone : p.eval 1 = 1) (hzero : act p s = 0) :
    ∃ n < count, s n ≠ 1 := by
  by_contra hall
  push Not at hall
  have hsum : act p s 0 = ∑ i ∈ Finset.range count, p.coeff i * s i := by
    rw [act, aeval_eq_sum_range' hdegree, LinearMap.sum_apply, Finset.sum_apply]
    refine Finset.sum_congr rfl fun i _ => ?_
    have hshift := congrFun (act_X_pow i s) 0
    rw [act, map_pow, aeval_X, Nat.zero_add] at hshift
    rw [LinearMap.smul_apply, Pi.smul_apply, hshift, smul_eq_mul]
  have hcoeff : ∑ i ∈ Finset.range count, p.coeff i * s i = p.eval 1 := by
    rw [eval_eq_sum_range' hdegree]
    refine Finset.sum_congr rfl fun i hi => ?_
    rw [hall i (Finset.mem_range.mp hi), one_pow]
  rw [hzero, hcoeff, hone] at hsum
  exact zero_ne_one hsum

/-! ## Elimination -/

/-- The polynomial of the two places from which a word is taken over.  It is opened only where it is
named, lest its power of 624 be multiplied out. -/
@[irreducible]
noncomputable def renewal : (ZMod 2)[X] := X ^ size + X ^ middle

/-- The polynomial that gives the bits at a place, shifted by the place, from the last bits. -/
noncomputable def fromLast : Nat → (ZMod 2)[X]
  | 0 => 1
  | j + 1 => renewal * fromLast j + C (bit j feedback) * X ^ (j + 1)

/-- The polynomial that sends the last bits to zero. -/
noncomputable def lastAnnihilator : (ZMod 2)[X] := renewal * fromLast 31 + X ^ 31

/-- The polynomial that sends the bits at any place to zero. -/
noncomputable def annihilator : (ZMod 2)[X] := X ^ 31 * lastAnnihilator

/-- The bits at one place of the words. -/
def track (x : Nat → UInt32) (j : Nat) : Bits := fun n => bit j (x n)

/-- The words joined with those behind them. -/
def joined (x : Nat → UInt32) (n : Nat) : UInt32 := join (x n) (x (n + 1))

variable {x : Nat → UInt32}

theorem act_renewal (s : Bits) (n : Nat) : act renewal s n = s (n + size) + s (n + middle) := by
  unfold renewal
  rw [act_add, act_X_pow, act_X_pow, Pi.add_apply]

theorem track_joined_of_lt (h : j < 31) : track (joined x) j = act X (track x j) := by
  rw [← pow_one X, act_X_pow]
  funext n
  exact bit_join_of_lt h _ _

theorem track_joined_last : track (joined x) 31 = track x 31 := by
  funext n
  exact bit_join_last _ _

/-- The recurrence, at one place. -/
theorem act_renewal_track (hx : IsTwisted x) (j : Nat) : act renewal (track x j) =
    track (joined x) (j + 1) + act (C (bit j feedback)) (track (joined x) 0) := by
  have htwice : ∀ a b : ZMod 2, a + b + a = b := by decide
  funext n
  rw [act_renewal, Pi.add_apply, act_C, Pi.smul_apply, smul_eq_mul]
  simp only [track, joined]
  rw [hx n, bit_xor, htwice, bit_twist]

theorem add_self_bits (s : Bits) : s + s = 0 := by
  have htwice : ∀ a : ZMod 2, a + a = 0 := by decide
  exact funext fun n => htwice (s n)

theorem act_X_track_succ (hx : IsTwisted x) (h : j < 31) : act X (track (joined x) (j + 1)) =
    act renewal (track (joined x) j) + act (C (bit j feedback) * X) (track (joined x) 0) := by
  have hstep : track (joined x) (j + 1) =
      act renewal (track x j) + act (C (bit j feedback)) (track (joined x) 0) := by
    rw [act_renewal_track hx, add_assoc, add_self_bits, add_zero]
  rw [hstep, act_map_add, act_comm, ← track_joined_of_lt h, mul_comm, act_mul]

/-- **The bits at each place come from the last bits.** -/
theorem act_X_pow_track (hx : IsTwisted x) (h : j ≤ 31) :
    act (X ^ j) (track (joined x) j) = act (fromLast j) (track (joined x) 0) := by
  induction j with
  | zero => rfl
  | succ j ih =>
    calc act (X ^ (j + 1)) (track (joined x) (j + 1))
        = act (X ^ j) (act X (track (joined x) (j + 1))) := by rw [pow_succ, act_mul]
      _ = act (X ^ j) (act renewal (track (joined x) j)) +
            act (X ^ j) (act (C (bit j feedback) * X) (track (joined x) 0)) := by
          rw [act_X_track_succ hx (by omega), act_map_add]
      _ = act renewal (act (fromLast j) (track (joined x) 0)) +
            act (C (bit j feedback) * X ^ (j + 1)) (track (joined x) 0) := by
          rw [act_comm, ih (by omega), ← act_mul (X ^ j), mul_left_comm, ← pow_succ]
      _ = act (fromLast (j + 1)) (track (joined x) 0) := by
          rw [← act_mul, ← act_add]
          rfl

theorem act_renewal_track_last (hx : IsTwisted x) :
    act renewal (track (joined x) 31) = track (joined x) 0 := by
  have hnone : track (joined x) 32 = 0 := by
    funext n
    simp [track, bit]
  have hfeedback : bit 31 feedback = 1 := by decide
  rw [track_joined_last, act_renewal_track hx, hnone, hfeedback, zero_add, act_C, one_smul]

theorem act_lastAnnihilator (hx : IsTwisted x) :
    act lastAnnihilator (track (joined x) 0) = 0 := by
  unfold lastAnnihilator
  rw [act_add, act_mul, ← act_X_pow_track hx le_rfl, act_comm, act_renewal_track_last hx,
    add_self_bits]

/-- **One polynomial sends the bits at every place to zero.** -/
theorem act_annihilator (hx : IsTwisted x) (h : j ≤ 31) : act annihilator (track x j) = 0 := by
  have hjoined : ∀ {i}, i ≤ 31 → act lastAnnihilator (act (X ^ i) (track (joined x) i)) = 0 := by
    intro i hi
    rw [act_X_pow_track hx hi, act_comm, act_lastAnnihilator hx, act_zero]
  unfold annihilator
  rcases h.eq_or_lt with rfl | hlt
  · rw [act_mul, act_comm, ← track_joined_last, hjoined le_rfl]
  · have hpow : X ^ 31 = X ^ (30 - j) * (X ^ j * X : (ZMod 2)[X]) := by
      rw [← pow_succ, ← pow_add]
      exact congrArg _ (by omega)
    rw [mul_comm, hpow, mul_left_comm, act_mul, act_mul, act_mul,
      ← track_joined_of_lt hlt, hjoined h, act_zero]

theorem natDegree_renewal : renewal.natDegree ≤ size := by
  unfold renewal
  refine natDegree_add_le_of_degree_le (natDegree_X_pow_le _) ?_
  exact (natDegree_X_pow_le _).trans (by decide)

theorem natDegree_fromLast (j : Nat) : (fromLast j).natDegree ≤ size * j := by
  induction j with
  | zero => exact natDegree_one.le
  | succ j ih =>
    have hsize : j + 1 ≤ size * (j + 1) := Nat.le_mul_of_pos_left _ (by decide)
    refine natDegree_add_le_of_degree_le ?_ ((natDegree_C_mul_X_pow_le _ _).trans hsize)
    rw [Nat.mul_succ, Nat.add_comm]
    exact natDegree_mul_le_of_le natDegree_renewal ih

theorem natDegree_annihilator : annihilator.natDegree < 20000 := by
  have hlast : lastAnnihilator.natDegree ≤ size + size * 31 := by
    unfold lastAnnihilator
    refine natDegree_add_le_of_degree_le ?_ ((natDegree_X_pow_le _).trans (by decide))
    exact natDegree_mul_le_of_le natDegree_renewal (natDegree_fromLast 31)
  have h : annihilator.natDegree ≤ 31 + (size + size * 31) :=
    natDegree_mul_le_of_le (natDegree_X_pow_le _) hlast
  exact h.trans_lt (by decide)

theorem eval_annihilator : annihilator.eval 1 = 1 := by
  have hrenewal : renewal.eval 1 = 0 := by
    unfold renewal
    rw [eval_add, eval_pow, eval_pow, eval_X, one_pow, one_pow]
    decide
  unfold annihilator lastAnnihilator
  rw [eval_mul, eval_add, eval_mul, hrenewal, eval_pow, eval_X, one_pow, zero_mul, zero_add, mul_one]

/-- **Of 20000 words drawn in turn, one has zero as its leading bit.** -/
theorem exists_bit_temper_ne_one (hx : IsTwisted x) : ∃ n < 20000, bit 31 (temper (x n)) ≠ 1 := by
  have hsum : (fun n => bit 31 (temper (x n))) =
      track x 31 + track x 24 + track x 16 + track x 27 :=
    funext fun n => bit_temper (x n)
  refine exists_ne_one_of_act_eq_zero natDegree_annihilator eval_annihilator ?_
  rw [hsum, act_map_add, act_map_add, act_map_add]
  have hplace : ∀ j ≤ 31, act annihilator (track x j) = 0 := fun j hj => act_annihilator hx hj
  rw [hplace 31 (by decide), hplace 24 (by decide), hplace 16 (by decide), hplace 27 (by decide),
    add_zero, add_zero, add_zero]

/-! ## Drawing numbers -/

/-- The number that a word gives for a bound: as many leading bits as the bound has. -/
def leading (bound : Nat) (w : UInt32) : Nat := w.toNat / Nat.pow 2 (32 - bits bound)

/-- Says what comes of drawing words, however many, until one gives a number below a bound. -/
inductive Draws (bound : Nat) : Twister → Nat × Twister → Prop
  | serves {t : Twister} (h : leading bound t.draw.1 < bound) :
    Draws bound t (leading bound t.draw.1, t.draw.2)
  | again {t : Twister} {r : Nat × Twister} (h : bound ≤ leading bound t.draw.1)
    (rest : Draws bound t.draw.2 r) : Draws bound t r

variable {bound : Nat}

/-- A word that does not serve has one as its leading bit. -/
theorem bit_eq_one_of_le_leading (hpos : 0 < bound) (hbound : bound < 2 ^ 32) {w : UInt32}
    (h : bound ≤ leading bound w) : bit 31 w = 1 := by
  have hbits : bits bound = Nat.log2 bound + 1 := if_neg hpos.ne'
  have hlog : Nat.log2 bound < 32 := (Nat.log2_lt hpos.ne').mpr hbound
  have hword : 2 ^ 31 ≤ w.toNat := by
    calc 2 ^ 31 = 2 ^ Nat.log2 bound * 2 ^ (32 - bits bound) := by
          rw [← Nat.pow_add, hbits]
          exact congrArg _ (by omega)
      _ ≤ bound * 2 ^ (32 - bits bound) := Nat.mul_le_mul_right _ (Nat.log2_self_le hpos.ne')
      _ ≤ w.toNat := (Nat.le_div_iff_mul_le (Nat.two_pow_pos _)).mp h
  have hlast : w.toBitVec.getLsbD 31 = true := by
    have hlt : w.toNat < 2 ^ 32 := w.toNat_lt
    rw [BitVec.getLsbD, UInt32.toNat_toBitVec, Nat.testBit_eq_decide_div_mod_eq, decide_eq_true_eq]
    omega
  rw [bit, hlast, if_pos rfl]

theorem draws_below {tries : Nat} (ht : t.IsFull) (hpos : 0 < bound) (hbound : bound < 2 ^ 32)
    (h : ∃ n < tries, bit 31 (temper (t.upcoming n)) ≠ 1) :
    Draws bound t (below bound tries t) := by
  induction tries generalizing t with
  | zero =>
    obtain ⟨n, hn, -⟩ := h
    exact absurd hn (Nat.not_lt_zero n)
  | succ tries ih =>
    show Draws bound t (if leading bound t.draw.1 < bound then _ else _)
    split_ifs with hserves
    · exact .serves hserves
    · have hagain := Nat.not_lt.mp hserves
      refine .again hagain (ih ht.draw ?_)
      obtain ⟨n, hn, hbit⟩ := h
      cases n with
      | zero =>
        rw [← ht.draw_fst] at hbit
        exact absurd (bit_eq_one_of_le_leading hpos hbound hagain) hbit
      | succ n => exact ⟨n, Nat.lt_of_succ_lt_succ hn, by rwa [ht.upcoming_draw]⟩

/-- **A generator draws until a word serves**: the bound on the number of tries never shows. -/
theorem draws_drawBelow (ht : t.IsFull) (hpos : 0 < bound) (hbound : bound < 2 ^ 32) :
    Draws bound t (t.drawBelow bound) :=
  draws_below ht hpos hbound (exists_bit_temper_ne_one ht.isTwisted)

/-- A number that is drawn is below the bound. -/
theorem Draws.fst_lt {r : Nat × Twister} (h : Draws bound t r) : r.1 < bound := by
  induction h with
  | serves h => exact h
  | again _ _ ih => exact ih

/-- Words are drawn from a register as long as need be. -/
theorem Draws.isFull {r : Nat × Twister} (h : Draws bound t r) (ht : t.IsFull) : r.2.IsFull := by
  induction h with
  | serves _ => exact ht.draw
  | again _ _ ih => exact ih ht.draw

/-! ## Seeding -/

theorem size_foldl_push (f : Array UInt32 → Nat → UInt32) (ks : List Nat) (words : Array UInt32) :
    (ks.foldl (fun words k => words.push (f words k)) words).size = words.size + ks.length := by
  induction ks generalizing words with
  | nil => rfl
  | cons k ks ih =>
    rw [List.foldl_cons, ih, Array.size_push, List.length_cons]
    omega

theorem size_fill (seed : UInt32) : (fill seed).size = size := by
  unfold fill
  dsimp only
  rw [size_foldl_push, List.length_range]
  rfl

theorem size_mix (factor : UInt32) (combine : UInt32 → UInt32) (words : Array UInt32) (k : Nat) :
    (mix factor combine words k).size = words.size := by
  unfold mix
  dsimp only
  split_ifs <;> simp only [Array.size_setIfInBounds]

theorem size_foldl_mix (factor : UInt32) (combine : Nat → UInt32 → UInt32) (place : Nat → Nat)
    (ks : List Nat) (words : Array UInt32) :
    (ks.foldl (fun words k => mix factor (combine k) words (place k)) words).size = words.size := by
  induction ks generalizing words with
  | nil => rfl
  | cons k ks ih => rw [List.foldl_cons, ih, size_mix]

theorem isFull_ofSeed (seed : Int) : (ofSeed seed).IsFull := by
  refine ⟨?_, Nat.le_refl size⟩
  unfold ofSeed ofKey
  dsimp only
  rw [Array.size_setIfInBounds, size_foldl_mix, size_foldl_mix, size_fill]

end Twister
end QueryDesk
