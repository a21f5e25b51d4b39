import QueryDesk.Proofs.Sorting.Search
import QueryDesk.Proofs.Sorting.Sort

/-!
# Items that go last

A test may send some items, the heavy ones, behind all others and leave them as they stand among
themselves (`Sinks`).  Of what it says about the other items nothing is assumed: it may be no order
at all, and it may fault.  A sort then still puts the heavy items last, in their old order
(`sort_eq_append_heavy`).

That is kept by every step of the sort.  A merge looks for places by searches that skip most items,
and of a place that is found only its border is known; but a border never lies among heavy items,
where all answers are known.  So the heavy items at the end of the first list stay together, and so
do those of the second list, which go behind them.
-/

set_option autoImplicit false

namespace QueryDesk
namespace Sorting

variable {α ε : Type} {less : α → α → Except ε Bool} {heavy : α → Bool} {x y : α}
  {xs ys zs out : List α}

/-- Says that a test sends some items behind all others: a heavy item goes before no item, and any
other one before all that are heavy. -/
structure Sinks (less : α → α → Except ε Bool) (heavy : α → Bool) : Prop where
  stays : ∀ {a}, heavy a = true → ∀ b, less a b = .ok false
  rises : ∀ {a b}, heavy a = false → heavy b = true → less a b = .ok true

/-- Says that the heavy items of a list are its last. -/
def Sunk (heavy : α → Bool) (xs : List α) : Prop :=
  xs.Pairwise fun a b => heavy a = true → heavy b = true

/-! ## Lists with their heavy items last -/

theorem filter_eq_nil_of_light (h : ∀ a ∈ xs, heavy a = false) : xs.filter heavy = [] :=
  List.filter_eq_nil_iff.mpr fun a ha => by simp [h a ha]

/-- In front of the heavy items at the end stand all others. -/
theorem Sunk.exists_front (h : Sunk heavy xs) :
    ∃ front, (∀ a ∈ front, heavy a = false) ∧ xs = front ++ xs.filter heavy := by
  induction xs with
  | nil => exact ⟨[], by simp, rfl⟩
  | cons x xs ih =>
    obtain ⟨hx, hxs⟩ := List.pairwise_cons.mp h
    cases hheavy : heavy x with
    | true =>
      refine ⟨[], by simp, (List.filter_eq_self.mpr fun a ha => ?_).symm⟩
      rcases List.mem_cons.mp ha with rfl | ha
      · exact hheavy
      · exact hx a ha hheavy
    | false =>
      obtain ⟨front, hfront, heq⟩ := ih hxs
      refine ⟨x :: front, by simpa [hheavy] using hfront, ?_⟩
      simpa [hheavy] using heq

theorem Sunk.filter_suffix (h : Sunk heavy xs) : xs.filter heavy <:+ xs := by
  obtain ⟨front, -, hcut⟩ := h.exists_front
  exact ⟨front, hcut.symm⟩

theorem sunk_append {front back : List α} (hfront : ∀ a ∈ front, heavy a = false)
    (hback : ∀ a ∈ back, heavy a = true) : Sunk heavy (front ++ back) := by
  refine List.pairwise_append.mpr ⟨?_, ?_, fun a ha b hb _ => hback b hb⟩
  · exact List.pairwise_of_forall_mem_list fun a ha b _ h => absurd h (by simp [hfront a ha])
  · exact List.pairwise_of_forall_mem_list fun _ _ b hb _ => hback b hb

/-- Says that two lists have the same items, heavy ones in the same order. -/
def SameHeavy (heavy : α → Bool) (xs ys : List α) : Prop :=
  xs.Perm ys ∧ xs.filter heavy = ys.filter heavy

/-- Of a list with the same items only the end has to be looked at. -/
theorem sunk_of_suffix (h : xs.filter heavy <:+ out) (hperm : out.Perm xs) :
    Sunk heavy out ∧ SameHeavy heavy out xs := by
  obtain ⟨front, rfl⟩ := h
  have hall : ∀ a ∈ xs.filter heavy, heavy a = true := fun a ha => (List.mem_filter.mp ha).2
  have hself : (xs.filter heavy).filter heavy = xs.filter heavy := List.filter_eq_self.mpr hall
  have hlen := (hperm.filter heavy).length_eq
  rw [List.filter_append, hself, List.length_append, Nat.add_eq_right,
    List.length_eq_zero_iff] at hlen
  have hfront : ∀ a ∈ front, heavy a = false := by simpa using hlen
  exact ⟨sunk_append hfront hall, hperm, by rw [List.filter_append, hlen, hself, List.nil_append]⟩

/-! ## Taking from two lists -/

/-- Where any fault will do nothing has to be said of the test. -/
theorem answers_any {β : Type} (answer : Except ε β) : Answers (fun _ => True) answer := by
  cases answer <;> trivial

/-- Read from the front, a merge puts out last what stands at the end of the first list, if all of
the second list goes before it. -/
theorem taking_last (second : α → α → Except ε Bool) :
    Taking second false (fun _ => True) (fun _ _ => True) fun xs ys out =>
      ∀ zs, zs <:+ xs → (∀ z ∈ zs, ∀ y ∈ ys, second z y = .ok true) → zs <:+ out where
  left _ _ _ := trivial
  answers _ _ _ _ _ := answers_any _
  firstDone ys zs hzs _ := by
    rw [List.suffix_nil.mp hzs]
    exact List.nil_suffix
  secondDone xs zs hzs _ := hzs
  last {x y xs ys out} _ hout zs hzs _ := by
    simp only [lastOrder, Bool.false_eq_true, if_false, Option.ite_none_right_eq_some] at hout
    obtain ⟨hnil, hout⟩ := hout
    rw [List.isEmpty_iff.mp hnil] at hzs
    rw [← Option.some.inj hout]
    exact List.suffix_append_of_suffix hzs
  one {x y xs ys out} _ hstays hpost zs hzs hall := by
    rcases List.suffix_cons_iff.mp hzs with rfl | hzs
    · simp [hall x List.mem_cons_self y List.mem_cons_self] at hstays
    · exact (hpost zs hzs hall).trans (List.suffix_cons x out)
  other {x y xs ys out} _ _ hpost zs hzs hall :=
    (hpost zs hzs fun z hz b hb => hall z hz b (List.mem_cons_of_mem y hb)).trans
      (List.suffix_cons y out)
  row {x y xs ys out count} _ hborder hpost zs hzs hall := by
    refine List.suffix_append_of_suffix (hpost zs (hborder.suffix_drop hzs fun z hz => ?_) hall)
    simp [hall z hz y List.mem_cons_self, Except.map]
  otherRow _ _ hpost zs hzs hall :=
    List.suffix_append_of_suffix
      (hpost zs hzs fun z hz b hb => hall z hz b (List.mem_of_mem_drop hb))

/-- Read from the end, a merge puts out first what the first list begins with, if nothing of the
second list goes before it. -/
theorem taking_first (second : α → α → Except ε Bool) :
    Taking second true (fun _ => True) (fun _ _ => True) fun xs ys out =>
      ∀ zs, zs <+: xs → (∀ z ∈ zs, ∀ y ∈ ys, second z y = .ok false) → zs <+: out where
  left _ _ _ := trivial
  answers _ _ _ _ _ := answers_any _
  firstDone ys zs hzs _ := by
    rw [List.prefix_nil.mp hzs]
    exact List.nil_prefix
  secondDone xs zs hzs _ := hzs
  last {x y xs ys out} _ hout zs hzs _ := by
    simp only [lastOrder, if_true, Option.ite_none_right_eq_some] at hout
    rw [← Option.some.inj hout.2]
    exact hzs.trans (List.prefix_append (x :: xs) [y])
  one {x y xs ys out} _ _ hpost zs hzs hall := by
    rcases List.prefix_cons_iff.mp hzs with rfl | ⟨rest, rfl, hrest⟩
    · exact List.nil_prefix
    · exact (List.prefix_cons_inj x).mpr
        (hpost rest hrest fun z hz => hall z (List.mem_cons_of_mem x hz))
  other {x y xs ys out} _ hgoes hpost zs hzs hall := by
    rcases List.prefix_cons_iff.mp hzs with rfl | ⟨rest, rfl, -⟩
    · exact List.nil_prefix
    · simp [hall x List.mem_cons_self y List.mem_cons_self] at hgoes
  row {x y xs ys out count} _ hborder hpost zs hzs hall := by
    refine (hborder.prefix_take hzs fun z hz => ?_).trans (List.prefix_append _ out)
    simp [hall z hz y List.mem_cons_self, Except.map]
  otherRow {x y xs ys out count} _ hborder hpost zs hzs hall := by
    rcases List.prefix_cons_iff.mp hzs with rfl | ⟨rest, rfl, -⟩
    · exact List.nil_prefix
    · -- The first item stays behind none of the second list, so the row is empty.
      obtain rfl := hborder.eq_zero fun b hb => by simp [hall x List.mem_cons_self b hb]
      exact hpost _ hzs hall

/-! ## Merging -/

/-- A merge with a list of light items leaves the heavy ones at the end. -/
theorem suffix_of_mergeBetween (hs : Sinks less heavy) (hzs : zs <:+ xs)
    (hheavy : ∀ z ∈ zs, heavy z = true) (hlight : ∀ y ∈ ys, heavy y = false) (patience : Nat) :
    Gives (fun _ => True) (fun r => zs <:+ r.2) (mergeBetween less patience xs ys) := by
  refine gives_mergeBetween_of (P := fun out => zs <:+ out) (fun _ => hzs) ?_ ?_ ?_
  · rintro rfl
    rw [List.suffix_nil.mp hzs]
    exact List.nil_suffix
  · rintro y ys rfl
    refine ((taking_last _).takeSingly trivial patience 0 0).mono fun r hr => ?_
    refine (hr zs hzs fun z hz b hb => ?_).trans (List.suffix_cons y r.2)
    exact hs.rises (hlight b (List.mem_cons_of_mem y hb)) (hheavy z hz)
  · intro x back hback
    refine ((taking_first _).takeSingly trivial patience 0 0).mono fun r hr => ?_
    rw [← List.reverse_prefix, hback] at hzs
    rw [← List.reverse_prefix, List.reverse_reverse]
    rcases List.prefix_cons_iff.mp hzs with hnil | ⟨rest, hrest, hleft⟩
    · rw [hnil]
      exact List.nil_prefix
    · rw [hrest]
      refine (List.prefix_cons_inj x).mpr (hr rest hleft fun z hz b hb => ?_)
      have hz : z ∈ zs := List.mem_reverse.mp (hrest ▸ List.mem_cons_of_mem x hz)
      rw [hs.rises (hlight b (List.mem_reverse.mp hb)) (hheavy z hz)]
      rfl

/-- The heavy items of the second list stay behind an item of the first; nothing else stays behind a
heavy one. -/
theorem IsBorder.drop_heavy {front back : List α} {count : Nat} (hs : Sinks less heavy)
    (hfront : ∀ a ∈ front, heavy a = false) (hback : ∀ a ∈ back, heavy a = true)
    (h : IsBorder (fun b => (less b x).map (!·)) (front ++ back).reverse count) :
    back <:+ (front ++ back).drop ((front ++ back).length - count) ∧
      (heavy x = true → (front ++ back).length - count = front.length) := by
  have hinside := h.inside
  rw [List.length_reverse, List.length_append] at hinside
  have hstay : back.reverse <+: (front ++ back).reverse.take count := by
    refine h.prefix_take (by simp) fun b hb => ?_
    simp [hs.stays (hback b (List.mem_reverse.mp hb)), Except.map]
  have hlen := hstay.length_le
  rw [List.length_take, List.length_reverse, List.length_reverse, List.length_append] at hlen
  constructor
  · rwa [List.take_reverse, List.reverse_prefix] at hstay
  · intro hx
    have hgo : front.reverse <:+ (front ++ back).reverse.drop count := by
      refine h.suffix_drop (by simp) fun b hb => ?_
      simp [hs.rises (hfront b (List.mem_reverse.mp hb)) hx, Except.map]
    have hgoes := hgo.length_le
    rw [List.length_drop, List.length_reverse, List.length_reverse, List.length_append] at hgoes
    rw [List.length_append]
    omega

/-- A list that ends with heavy items, joined with others of them. -/
theorem suffix_append_append {xs' ys' : List α} (hxs : xs' <:+ xs) (hys : ys' <:+ ys)
    (h : xs' = [] ∨ ys = ys') : xs' ++ ys' <:+ xs ++ ys := by
  rcases h with rfl | rfl
  · exact List.suffix_append_of_suffix hys
  · exact (List.suffix_append_inj_of_length_eq rfl).mpr ⟨hxs, rfl⟩

/-- **A merge puts the heavy items of both lists last**, those of the first list before those of the
second. -/
theorem suffix_of_merge {front back : List α} (hs : Sinks less heavy) (hzs : zs <:+ xs)
    (hheavy : ∀ z ∈ zs, heavy z = true) (hfront : ∀ a ∈ front, heavy a = false)
    (hback : ∀ a ∈ back, heavy a = true) (patience : Nat) :
    Gives (fun _ => True) (fun r => zs ++ back <:+ r.2)
      (merge less patience xs (front ++ back)) := by
  refine (gives_merges (fun _ _ _ _ => answers_any _) patience).mono fun r hr => ?_
  generalize r.2 = merged at hr ⊢
  cases hr with
  | apart hall =>
    refine suffix_append_append hzs (List.suffix_append front back) ?_
    cases front with
    | nil => exact .inr rfl
    | cons y front =>
      -- A light item would go before the heavy ones, but all of the first list stays in front.
      have hnil := (hall y rfl).suffix_drop hzs fun z hz => by
        simp [hs.rises (hfront y List.mem_cons_self) (hheavy z hz), Except.map]
      rw [List.drop_length, List.suffix_nil] at hnil
      exact .inl hnil
  | @between start count _ x y out hhead hstart hlast hcount hout =>
    -- Behind a heavy item the first list would stay as it is.
    have hy : heavy y = false := by
      by_contra hy
      obtain rfl := hstart.eq_length fun a _ => by
        simp [hs.stays (Bool.not_eq_false _ ▸ hy), Except.map]
      simp at hlast
    have hkept : zs <:+ xs.drop start := hstart.suffix_drop hzs fun z hz => by
      simp [hs.rises hy (hheavy z hz), Except.map]
    obtain ⟨hbehind, hexact⟩ := hcount.drop_heavy hs hfront hback
    generalize (front ++ back).length - count = kept at *
    -- If the first list ends with a heavy item, then all light ones of the second are moved.
    have hcut : zs = [] ∨ kept = front.length := by
      rcases List.eq_nil_or_concat' zs with hnil | ⟨rest, z, rfl⟩
      · exact .inl hnil
      · obtain ⟨more, hmore⟩ := hkept
        rw [← hmore, ← List.append_assoc, List.getLast?_concat] at hlast
        obtain rfl := Option.some.inj hlast
        exact .inr (hexact (hheavy z (by simp)))
    have hmiddle : zs <:+ out := by
      rcases hcut with rfl | rfl
      · exact List.nil_suffix
      · rw [List.take_left] at hout
        exact (suffix_of_mergeBetween hs hkept hheavy hfront patience).of_eq_ok hout
    refine suffix_append_append (List.suffix_append_of_suffix hmiddle) hbehind (hcut.imp_right ?_)
    rintro rfl
    exact List.drop_left

/-! ## Sorting -/

/-- A rising run comes to its heavy items last; a falling one has none behind its first item. -/
theorem IsRun.sunk {r : List α × List α} (h : IsRun less xs r) (hs : Sinks less heavy) :
    Sunk heavy r.1 ∧ SameHeavy heavy (r.1 ++ r.2) xs := by
  have hperm := h.perm
  obtain ⟨falling, front, hne, hchain, rfl, hrun⟩ := h
  cases falling with
  | false =>
    obtain rfl : r.1 = front := hrun
    have : Trans (fun a b => heavy a = true → heavy b = true)
        (fun a b => heavy a = true → heavy b = true)
        (fun a b => heavy a = true → heavy b = true) := ⟨fun hab hbc ha => hbc (hab ha)⟩
    refine ⟨List.IsChain.pairwise (hchain.imp fun a b hless ha => ?_), List.Perm.refl _, rfl⟩
    by_contra hb
    simp [hs.rises (Bool.eq_false_iff.mpr hb) ha] at hless
  | true =>
    obtain ⟨x, rest, rfl⟩ := List.exists_cons_of_ne_nil hne
    have : Trans (fun (_ b : α) => heavy b = false) (fun (_ b : α) => heavy b = false)
        (fun (_ b : α) => heavy b = false) := ⟨fun _ hbc => hbc⟩
    have hpair : (x :: rest).Pairwise fun _ b => heavy b = false := by
      refine List.IsChain.pairwise (hchain.imp fun a b hless => ?_)
      by_contra hb
      simp [hs.stays (Bool.not_eq_false _ ▸ hb) a] at hless
    have hlight := (List.pairwise_cons.mp hpair).1
    have hrun' : r.1 = rest.reverse ++ [x] := by simpa using hrun
    rw [hrun'] at hperm ⊢
    refine ⟨?_, hperm, ?_⟩
    · refine List.pairwise_append.mpr ⟨?_, List.pairwise_singleton _ _, fun a ha b _ h => ?_⟩
      · exact List.pairwise_of_forall_mem_list fun a ha b _ h =>
          absurd h (by simp [hlight a (List.mem_reverse.mp ha)])
      · exact absurd h (by simp [hlight a (List.mem_reverse.mp ha)])
    · have hnil := filter_eq_nil_of_light hlight
      simp [List.filter_cons, List.filter_reverse, hnil]

/-- An item is put in front of the heavy ones, or behind them if it is heavy. -/
theorem suffix_of_insert {run : List α} (hs : Sinks less heavy) (hzs : zs <:+ run)
    (hheavy : ∀ z ∈ zs, heavy z = true) (x : α) :
    Gives (fun _ => True) (fun out => zs ++ [x].filter heavy <:+ out) (insert less x run) := by
  refine (gives_bisect_all (fun _ _ => answers_any _) false).bind fun place hplace => ?_
  cases hx : heavy x with
  | true =>
    obtain rfl := hplace.eq_length fun a _ => by simp [hs.stays hx, Except.map]
    rw [List.take_length, List.drop_length, List.filter_cons_of_pos hx]
    exact suffix_append_append hzs (List.suffix_refl _) (.inr rfl)
  | false =>
    have hkept := hplace.suffix_drop hzs fun z hz => by
      simp [hs.rises hx (hheavy z hz), Except.map]
    rw [filter_eq_nil_of_light (by simpa using hx), List.append_nil]
    exact List.suffix_append_of_suffix (hkept.trans (List.suffix_cons x _))

/-- The steps of a sort keep the heavy items at the end of the runs, in their old order. -/
theorem keeping_sunk (hs : Sinks less heavy) (items : List α) :
    Keeping less items (fun _ => True) (Sunk heavy) (SameHeavy heavy) where
  nil := List.Pairwise.nil
  refl xs := ⟨List.Perm.refl xs, rfl⟩
  trans h h' := ⟨h.1.trans h'.1, h.2.trans h'.2⟩
  append h h' := ⟨h.1.append h'.1, by rw [List.filter_append, List.filter_append, h.2, h'.2]⟩
  perm := And.left
  firstRun h := by
    have hrun := (answers_any (firstRun less _ _)).and (gives_firstRun h)
    exact hrun.mono fun r hr => hr.2.sunk hs
  insert {x run} h hrun := by
    have hout := suffix_of_insert hs hrun.filter_suffix (fun _ => List.of_mem_filter) x
    refine (hout.and (gives_insert h)).mono fun out hout => sunk_of_suffix ?_ hout.2
    rw [List.filter_append]
    exact hout.1
  merge {xs ys} h hxs hys patience := by
    obtain ⟨front, hfront, hcut⟩ := hys.exists_front
    have hheavy : ∀ b ∈ ys.filter heavy, heavy b = true := fun _ => List.of_mem_filter
    have hout := suffix_of_merge hs hxs.filter_suffix (fun _ => List.of_mem_filter) hfront hheavy
      patience
    rw [← hcut] at hout
    refine (hout.and (gives_merge_of_subset h patience)).mono
      fun r hr => sunk_of_suffix ?_ hr.2
    rw [List.filter_append]
    exact hr.1

/-- **A sort puts the heavy items last, in their old order**, whatever the test says of the
others. -/
theorem sort_eq_append_heavy (hs : Sinks less heavy) (h : sort less xs = .ok out) :
    ∃ front, (∀ a ∈ front, heavy a = false) ∧ out = front ++ xs.filter heavy := by
  obtain ⟨hsunk, -, hfilter⟩ := (keeping_sunk hs xs).sort.of_eq_ok h
  rw [← hfilter]
  exact hsunk.exists_front

end Sorting
end QueryDesk
