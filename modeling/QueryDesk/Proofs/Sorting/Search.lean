import Mathlib.Tactic.ByContra
import QueryDesk.Sorting.Search

/-!
# Computations that fault only where a test does

Searching, merging and sorting do nothing that can fault but ask their test.  So what each of them
gives is stated together with the faults that it may meet: `Gives fails post result` says that a
result has the property `post`, and that a fault is one of those in `fails`.  `Gives.bind` takes a
computation apart, and no proof looks at faults by itself.

Of a sort `fails` is `Faults less items`: the faults of the test on two of the items at hand.  Where
the test answers on all of them there are none, and where faults do not matter any will do.

Of a search for a place all that can be said for every test is that it ends at a border
(`IsBorder`): the item before the place passed and the item at it failed, or there is none.  Where
an item passes a test wherever a later one does, the items that pass stand before all that fail, and
a border is what lies between them (`IsBorder.parts`).  So a search counts the items in front that
pass, whichever items it tries (`exists_bisect`).  Of any other list only this is known: a border
does not lie among items at the end that all fail (`IsBorder.suffix_drop`), nor among items in front
that all pass (`IsBorder.prefix_take`).
-/

set_option autoImplicit false

namespace QueryDesk
namespace Sorting

variable {α β γ ε : Type}

/-! ## Results of computations -/

/-- Says that a computation gives a result of some kind or meets a fault of some kind. -/
def Gives (fails : ε → Prop) (post : β → Prop) : Except ε β → Prop
  | .ok b => post b
  | .error e => fails e

variable {fails : ε → Prop} {post : β → Prop}

theorem Gives.bind {post' : γ → Prop} {x : Except ε β} {f : β → Except ε γ}
    (hx : Gives fails post x) (hf : ∀ b, post b → Gives fails post' (f b)) :
    Gives fails post' (x >>= f) := by
  rcases x with e | b
  · exact hx
  · exact hf b hx

theorem Gives.mono {post' : β → Prop} {x : Except ε β} (hx : Gives fails post x)
    (h : ∀ b, post b → post' b) : Gives fails post' x := by
  rcases x with e | b
  · exact hx
  · exact h b hx

/-- A computation that meets no fault meets none of any kind. -/
theorem Gives.of_none {fails' : ε → Prop} {x : Except ε β} (hx : Gives fails post x)
    (hnone : ∀ e, ¬ fails e) : Gives fails' post x := by
  rcases x with e | b
  · exact absurd hx (hnone e)
  · exact hx

/-- A computation without a fault to meet has a result. -/
theorem Gives.exists_ok {x : Except ε β} (hx : Gives fails post x) (hnone : ∀ e, ¬ fails e) :
    ∃ b, x = .ok b ∧ post b := by
  rcases x with e | b
  · exact absurd hx (hnone e)
  · exact ⟨b, rfl, hx⟩

/-- What a computation gives when it gives something. -/
theorem Gives.of_eq_ok {x : Except ε β} {b : β} (hx : Gives fails post x) (h : x = .ok b) :
    post b := by
  rw [h] at hx
  exact hx

/-- What a computation faults with when it faults. -/
theorem Gives.of_eq_error {x : Except ε β} {e : ε} (hx : Gives fails post x) (h : x = .error e) :
    fails e := by
  rw [h] at hx
  exact hx

/-- Says that a fault of a computation is of some kind, whatever the computation gives. -/
abbrev Answers (fails : ε → Prop) (x : Except ε β) : Prop := Gives fails (fun _ => True) x

/-- A result with a property, and with another one as well. -/
theorem Gives.and {fails' : ε → Prop} {post' : β → Prop} {x : Except ε β}
    (h : Gives fails post x) (h' : Gives fails' post' x) :
    Gives fails (fun b => post b ∧ post' b) x := by
  rcases x with e | b
  · exact h
  · exact ⟨h, h'⟩

/-- The result of a computation is its result. -/
theorem Gives.eq_ok {x : Except ε β} (hx : Gives fails post x) :
    Gives fails (fun b => x = .ok b) x := by
  rcases x with e | b
  · exact hx
  · rfl

theorem Answers.map {x : Except ε β} (hx : Answers fails x) (f : β → γ) :
    Answers fails (x.map f) := by
  rcases x with e | b
  · exact hx
  · trivial

/-- Says that a test answers on any two items of a list. -/
def Decides (less : α → α → Except ε Bool) (items : List α) : Prop :=
  ∀ a ∈ items, ∀ b ∈ items, ∃ c, less a b = .ok c

/-- The faults of a test on two items of a list. -/
def Faults (less : α → α → Except ε Bool) (items : List α) (e : ε) : Prop :=
  ∃ a ∈ items, ∃ b ∈ items, less a b = .error e

theorem Decides.not_faults {less : α → α → Except ε Bool} {items : List α}
    (h : Decides less items) (e : ε) : ¬ Faults less items e := by
  rintro ⟨a, ha, b, hb, hfault⟩
  obtain ⟨c, hc⟩ := h a ha b hb
  rw [hc] at hfault
  cases hfault

theorem answers_less {less : α → α → Except ε Bool} {items : List α} {a b : α}
    (ha : a ∈ items) (hb : b ∈ items) : Answers (Faults less items) (less a b) := by
  cases h : less a b with
  | ok c => trivial
  | error e => exact ⟨a, ha, b, hb, h⟩

/-! ## Searching -/

variable {test : α → Except ε Bool} {xs : List α}

/-- Says that the item before a place passes a test. -/
def Opens (test : α → Except ε Bool) (xs : List α) (place : Nat) : Prop :=
  ∀ i x, i + 1 = place → xs[i]? = some x → test x = .ok true

/-- Says that the item at a place fails a test. -/
def Closes (test : α → Except ε Bool) (xs : List α) (place : Nat) : Prop :=
  ∀ x, xs[place]? = some x → test x = .ok false

/-- Says that a place is a border: the item before it passes and the item at it fails. -/
structure IsBorder (test : α → Except ε Bool) (xs : List α) (place : Nat) : Prop where
  inside : place ≤ xs.length
  opens : Opens test xs place
  closes : Closes test xs place

theorem opens_zero : Opens test xs 0 := fun _ _ h => absurd h (Nat.succ_ne_zero _)

theorem opens_succ {i : Nat} {x : α} (hi : xs[i]? = some x) (hx : test x = .ok true) :
    Opens test xs (i + 1) := by
  intro j y hj hy
  obtain rfl := Nat.succ.inj hj
  obtain rfl := Option.some.inj (hi.symm.trans hy)
  exact hx

theorem closes_of_fails {i : Nat} {x : α} (hi : xs[i]? = some x) (hx : test x = .ok false) :
    Closes test xs i := by
  intro y hy
  obtain rfl := Option.some.inj (hi.symm.trans hy)
  exact hx

theorem closes_length : Closes test xs xs.length := by simp [Closes]

/-- A search by halves finds a border in a window between an item that passes and one that fails. -/
theorem gives_bisect (htest : ∀ x ∈ xs, Answers fails (test x)) (fromEnd : Bool) {low size : Nat}
    (hlow : Opens test xs low) (hhigh : Closes test xs (low + size))
    (hsize : low + size ≤ xs.length) :
    Gives fails (IsBorder test xs) (bisect fromEnd test xs low size) := by
  fun_induction bisect fromEnd test xs low size with
  | case1 low => exact ⟨hsize, hlow, hhigh⟩
  | case2 low size hne probe hnone =>
    have hprobe : probe < size := by
      simp only [probe]
      split <;> omega
    rw [List.getElem?_eq_none_iff] at hnone
    omega
  | case3 low size hne probe x hx ihPass ihFail =>
    have hprobe : probe < size := by
      simp only [probe]
      split <;> omega
    refine (htest x (List.mem_of_getElem? hx)).eq_ok.bind fun passes hpasses => ?_
    cases passes with
    | false => exact ihFail hlow (closes_of_fails hx hpasses) (by omega)
    | true =>
      have hend : low + probe + 1 + (size - probe - 1) = low + size := by omega
      exact ihPass (opens_succ hx hpasses) (hend ▸ hhigh) (by omega)

/-- Of the two items that trying further and further on ends with the first passes, and the other
fails or lies behind the list. -/
theorem gives_reach (htest : ∀ x ∈ xs, Answers fails (test x)) {last next : Nat}
    (hlast : Opens test xs (last + 1)) (hinside : last < xs.length) (hnext : last < next) :
    Gives fails
      (fun r => Opens test xs (r.1 + 1) ∧ Closes test xs r.2 ∧ r.1 < r.2 ∧ r.2 ≤ xs.length)
      (reach test xs last next) := by
  fun_induction reach test xs last next with
  | case1 last next h ih =>
    refine (htest _ (List.getElem_mem h)).eq_ok.bind fun passes hpasses => ?_
    have hget : xs[next]? = some xs[next] := List.getElem?_eq_getElem h
    cases passes with
    | false => exact ⟨hlast, closes_of_fails hget hpasses, hnext, Nat.le_of_lt h⟩
    | true => exact ih (opens_succ hget hpasses) h (by omega)
  | case2 last next h => exact ⟨hlast, closes_length, hinside, Nat.le_refl _⟩

/-- **Galloping finds a border**, whatever its test. -/
theorem gives_gallop (htest : ∀ x ∈ xs, Answers fails (test x)) (fromEnd : Bool) :
    Gives fails (IsBorder test xs) (gallop fromEnd test xs) := by
  rcases xs with _ | ⟨x, xs⟩
  · exact ⟨Nat.le_refl _, opens_zero, closes_length⟩
  · refine (htest x List.mem_cons_self).eq_ok.bind fun passes hpasses => ?_
    cases passes with
    | false => exact ⟨Nat.zero_le _, opens_zero, closes_of_fails rfl hpasses⟩
    | true =>
      have hfirst : Opens test (x :: xs) (0 + 1) := opens_succ rfl hpasses
      refine (gives_reach htest hfirst (Nat.succ_pos _) Nat.one_pos).bind fun r h => ?_
      obtain ⟨hopens, hcloses, hlt, hle⟩ := h
      have hend : r.1 + 1 + (r.2 - r.1 - 1) = r.2 := by omega
      exact gives_bisect htest fromEnd hopens (hend.symm ▸ hcloses) (by omega)

/-- A search of a whole list finds a border as well. -/
theorem gives_bisect_all (htest : ∀ x ∈ xs, Answers fails (test x)) (fromEnd : Bool) :
    Gives fails (IsBorder test xs) (bisect fromEnd test xs 0 xs.length) :=
  gives_bisect htest fromEnd opens_zero (by rw [Nat.zero_add]; exact closes_length) (by omega)

/-! ## Borders -/

variable {p : α → Bool}

/-- The items before a border pass and the others fail. -/
theorem IsBorder.parts {place : Nat} (h : IsBorder test xs place)
    (htest : ∀ x ∈ xs, test x = .ok (p x))
    (hpair : xs.Pairwise fun a b => p b = true → p a = true) :
    (∀ x ∈ xs.take place, p x = true) ∧ ∀ x ∈ xs.drop place, p x = false := by
  rw [List.pairwise_iff_getElem] at hpair
  have hanswer : ∀ (i : Nat) (hi : i < xs.length) (c : Bool), test xs[i] = .ok c → p xs[i] = c :=
    fun i hi c hc => Except.ok.inj ((htest _ (List.getElem_mem hi)).symm.trans hc)
  constructor
  · intro x hx
    obtain ⟨i, hi, rfl⟩ := List.mem_take_iff_getElem.mp hx
    obtain ⟨last, rfl⟩ : ∃ last, place = last + 1 := ⟨place - 1, by omega⟩
    have hlast : last < xs.length := h.inside
    have hpass := hanswer last hlast true (h.opens last _ rfl (List.getElem?_eq_getElem hlast))
    by_cases heq : i = last
    · subst heq
      exact hpass
    · exact hpair i last (by omega) hlast (by omega) hpass
  · intro x hx
    obtain ⟨i, hi, rfl⟩ := List.mem_drop_iff_getElem.mp hx
    have hplace : place < xs.length := by omega
    have hfail := hanswer place hplace false (h.closes _ (List.getElem?_eq_getElem hplace))
    by_contra hpass
    rw [Bool.not_eq_false] at hpass
    by_cases hzero : i = 0
    · subst hzero
      simp [hfail] at hpass
    · exact Bool.eq_false_iff.mp hfail (hpair place (place + i) hplace (by omega) (by omega) hpass)

/-- A border stands in front of items at the end none of which passes. -/
theorem IsBorder.suffix_drop {place : Nat} {zs : List α} (h : IsBorder test xs place)
    (hzs : zs <:+ xs) (hfails : ∀ z ∈ zs, test z ≠ .ok true) : zs <:+ xs.drop place := by
  refine List.suffix_of_suffix_length_le hzs (List.drop_suffix place xs) ?_
  obtain ⟨front, rfl⟩ := hzs
  by_contra hlen
  rw [List.length_drop, List.length_append] at hlen
  have hinside := h.inside
  rw [List.length_append] at hinside
  obtain ⟨i, rfl⟩ : ∃ i, place = front.length + i + 1 := ⟨place - 1 - front.length, by omega⟩
  have hi : i < zs.length := by omega
  refine hfails zs[i] (List.getElem_mem hi) (h.opens (front.length + i) _ rfl ?_)
  rw [List.getElem?_append_right (Nat.le_add_right _ _), Nat.add_sub_cancel_left,
    List.getElem?_eq_getElem hi]

/-- A border stands behind items in front none of which fails. -/
theorem IsBorder.prefix_take {place : Nat} {zs : List α} (h : IsBorder test xs place)
    (hzs : zs <+: xs) (hpasses : ∀ z ∈ zs, test z ≠ .ok false) : zs <+: xs.take place := by
  have htake := List.take_prefix place xs
  refine List.prefix_of_prefix_length_le hzs htake ?_
  obtain ⟨back, rfl⟩ := hzs
  by_contra hlen
  have hinside := h.inside
  rw [List.length_take, Nat.min_eq_left hinside] at hlen
  have hplace : place < zs.length := Nat.not_le.mp hlen
  refine hpasses zs[place] (List.getElem_mem hplace) (h.closes _ ?_)
  rw [List.getElem?_append_left hplace, List.getElem?_eq_getElem hplace]

theorem IsBorder.eq_length {place : Nat} (h : IsBorder test xs place)
    (hpasses : ∀ x ∈ xs, test x ≠ .ok false) : place = xs.length := by
  have hlen := (h.prefix_take (List.prefix_refl xs) hpasses).length_le
  rw [List.length_take, Nat.le_min] at hlen
  exact Nat.le_antisymm h.inside hlen.1

theorem IsBorder.eq_zero {place : Nat} (h : IsBorder test xs place)
    (hfails : ∀ x ∈ xs, test x ≠ .ok true) : place = 0 := by
  have hlen := (h.suffix_drop (List.suffix_refl xs) hfails).length_le
  rw [List.length_drop] at hlen
  have hinside := h.inside
  omega

/-- A test that answers on every item of a list. -/
theorem answers_of_eq_ok (htest : ∀ x ∈ xs, test x = .ok (p x)) :
    ∀ x ∈ xs, Answers (fun _ => False) (test x) := by
  intro x hx
  rw [htest x hx]
  trivial

/-- A search by halves counts the items in front that pass, where all that pass stand in front. -/
theorem exists_bisect (htest : ∀ x ∈ xs, test x = .ok (p x))
    (h : xs.Pairwise fun a b => p b = true → p a = true) (fromEnd : Bool) :
    ∃ count, bisect fromEnd test xs 0 xs.length = .ok count ∧
      (∀ x ∈ xs.take count, p x = true) ∧ ∀ x ∈ xs.drop count, p x = false := by
  obtain ⟨count, hcount, hborder⟩ :=
    (gives_bisect_all (answers_of_eq_ok htest) fromEnd).exists_ok fun _ => id
  exact ⟨count, hcount, hborder.parts htest h⟩

end Sorting
end QueryDesk
