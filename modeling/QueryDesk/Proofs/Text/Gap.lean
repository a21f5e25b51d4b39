import QueryDesk.Proofs.Text.Abreast

/-!
# Recognising across a gap

Two texts may differ in the blanks that stand at one place, as long as both have some there: a gap
(`IsGap`).  No part of a recogniser but a run of blanks takes a blank, and a run of blanks takes all
of the gap; so recognisers do the same in both texts (`Place.agreeing_acrossGap`), and a search
steps over the gap at once (`Place.AcrossGap.onward`).
-/

set_option autoImplicit false

namespace QueryDesk

/-- A run of blanks, at least one. -/
structure IsGap (r : Text) : Prop where
  ne_nil : r ≠ []
  blank : ∀ g ∈ r, g.isBlank = true

instance (r : Text) : Decidable (IsGap r) :=
  decidable_of_iff (r ≠ [] ∧ ∀ g ∈ r, g.isBlank = true) ⟨fun h => ⟨h.1, h.2⟩, fun h => ⟨h.1, h.2⟩⟩

/-- Up to the first glyph that fails a test all pass it. -/
theorem Text.exists_first_of_not_forall {test : Glyph → Bool} {t : Text}
    (h : ¬∀ g ∈ t, test g = true) : ∃ (w : Text) (g : Glyph) (v : Text), t = w ++ g :: v ∧
      (∀ a ∈ w, test a = true) ∧ test g = false := by
  have hdrop : t.dropWhile test ≠ [] := by rwa [Ne, List.dropWhile_eq_nil_iff]
  obtain ⟨g, v, hv⟩ := List.exists_cons_of_ne_nil hdrop
  refine ⟨t.takeWhile test, g, v, ?_, fun a => List.mem_takeWhile_imp, ?_⟩
  · rw [← hv, List.takeWhile_append_dropWhile]
  · have hnot := List.head?_dropWhile_not test t
    rw [hv] at hnot
    simpa using hnot

namespace Place

/-- Of what stands in front of a text it only matters whether a word goes on. -/
theorem any_isWord_lastGlyph {b b' : Option Glyph} (h : b.any Glyph.isWord = b'.any Glyph.isWord)
    (t : Text) : (lastGlyph b t).any Glyph.isWord = (lastGlyph b' t).any Glyph.isWord := by
  cases t with
  | nil => exact h
  | cons g t => rw [lastGlyph_cons, lastGlyph_cons]

/-- Behind blanks, at least one, no word goes on. -/
theorem any_isWord_lastGlyph_of_blank {t : Text} (hne : t ≠ []) (h : ∀ g ∈ t, g.isBlank = true)
    (b : Option Glyph) : (lastGlyph b t).any Glyph.isWord = false := by
  rw [lastGlyph, List.getLast?_eq_some_getLast hne, Option.some_or, Option.any_some]
  exact Glyph.isWord_of_isBlank (h _ (List.getLast_mem hne))

/-- Says that two places stand in front of two gaps with the same text up to them, or behind the
gaps with the same text ahead. -/
inductive AcrossGap (front r r' more : Text) : Place → Place → Prop
  | ahead {y x : Text} (h : front = y ++ x) : AcrossGap front r r' more
      ⟨lastGlyph none y, x ++ (r ++ more)⟩ ⟨lastGlyph none y, x ++ (r' ++ more)⟩
  | behind {b b' : Option Glyph} {u : Text} (h : u <:+ more)
      (hword : b.any Glyph.isWord = b'.any Glyph.isWord) :
      AcrossGap front r r' more ⟨b, u⟩ ⟨b', u⟩

variable {front r r' more : Text} {p p' : Place}

theorem acrossGap_start (front r r' more : Text) : AcrossGap front r r' more
    (.start (front ++ (r ++ more))) (.start (front ++ (r' ++ more))) :=
  .ahead (y := []) rfl

/-- Ahead of the places stands the same glyph, or a blank of either gap, or nothing. -/
theorem AcrossGap.step (hr : IsGap r) (hr' : IsGap r') (h : AcrossGap front r r' more p p') :
    (∃ g t t', p.rest = g :: t ∧ p'.rest = g :: t' ∧
      AcrossGap front r r' more ⟨some g, t⟩ ⟨some g, t'⟩) ∨
    (∃ g g' t t', p.rest = g :: t ∧ p'.rest = g' :: t' ∧ g.isBlank = true ∧ g'.isBlank = true) ∨
    (p.rest = [] ∧ p'.rest = []) := by
  cases h with
  | @ahead y x h =>
    cases x with
    | nil =>
      obtain ⟨g, t, rfl⟩ := List.exists_cons_of_ne_nil hr.ne_nil
      obtain ⟨g', t', rfl⟩ := List.exists_cons_of_ne_nil hr'.ne_nil
      exact .inr (.inl ⟨g, g', _, _, rfl, rfl, hr.blank g List.mem_cons_self,
        hr'.blank g' List.mem_cons_self⟩)
    | cons g x =>
      have hfront : front = (y ++ [g]) ++ x := by rw [h, List.append_assoc, List.singleton_append]
      have hstep : AcrossGap front r r' more ⟨lastGlyph none (y ++ [g]), x ++ (r ++ more)⟩
          ⟨lastGlyph none (y ++ [g]), x ++ (r' ++ more)⟩ := .ahead hfront
      rw [lastGlyph_append, lastGlyph_cons, lastGlyph_nil] at hstep
      exact .inl ⟨g, _, _, rfl, rfl, hstep⟩
  | @behind b b' u h hword =>
    cases u with
    | nil => exact .inr (.inr ⟨rfl, rfl⟩)
    | cons g u => exact .inl ⟨g, u, u, rfl, rfl, .behind ((List.suffix_cons g u).trans h) rfl⟩

theorem AcrossGap.inWord (h : AcrossGap front r r' more p p') :
    p.before.any Glyph.isWord = p'.before.any Glyph.isWord := by
  cases h with
  | ahead => rfl
  | behind _ hword => exact hword

section

variable (hr : IsGap r) (hr' : IsGap r')
include hr hr'

theorem AcrossGap.isEmpty_eq (h : AcrossGap front r r' more p p') :
    p.rest.isEmpty = p'.rest.isEmpty := by
  rcases h.step hr hr' with ⟨g, t, t', hp, hp', -⟩ | ⟨g, g', t, t', hp, hp', -, -⟩ | ⟨hp, hp'⟩ <;>
    rw [hp, hp'] <;> rfl

theorem AcrossGap.edge? (h : AcrossGap front r r' more p p') :
    Option.Rel (AcrossGap front r r' more) p.edge? p'.edge? := by
  have hhead : p.rest.head?.any Glyph.isWord = p'.rest.head?.any Glyph.isWord := by
    rcases h.step hr hr' with ⟨g, t, t', hp, hp', -⟩ | ⟨g, g', t, t', hp, hp', hg, hg'⟩ | ⟨hp, hp'⟩
    · rw [hp, hp']
      rfl
    · rw [hp, hp', List.head?_cons, List.head?_cons, Option.any_some, Option.any_some,
        Glyph.isWord_of_isBlank hg, Glyph.isWord_of_isBlank hg']
    · rw [hp, hp']
  rw [Place.edge?, Place.edge?, atEdge, atEdge, h.inWord, hhead]
  split
  · exact .some h
  · exact .none

/-- No word goes over a gap. -/
theorem AcrossGap.word?_take {word : List Char} (hw : ∀ c ∈ word, (Glyph.char c).isBlank = false)
    (h : AcrossGap front r r' more p p') :
    Option.Rel (fun f f' => List.Forall₂ (· = ·) f.1 f'.1 ∧ AcrossGap front r r' more f.2 f'.2)
      ((p.word? word).map fun q => (p.rest.take word.length, q))
      ((p'.word? word).map fun q => (p'.rest.take word.length, q)) := by
  induction word generalizing p p' with
  | nil => exact .some ⟨.nil, h⟩
  | cons c cs ih =>
    obtain ⟨hc, hcs⟩ := List.forall_mem_cons.mp hw
    have hgo : ∀ (b : Option Glyph) (a : Glyph) (u : Text), Place.word? (c :: cs) ⟨b, a :: u⟩ =
        if a.agrees c then Place.word? cs ⟨some a, u⟩ else none := fun _ _ _ => rfl
    rcases p with ⟨b, u⟩
    rcases p' with ⟨b', u'⟩
    rcases h.step hr hr' with ⟨g, t, t', rfl, rfl, hstep⟩ | ⟨g, g', t, t', rfl, rfl, hg, hg'⟩ |
      ⟨rfl, rfl⟩
    · rw [hgo, hgo]
      split
      · have hcons := rel_map (f := fun f : Text × Place => (g :: f.1, f.2))
          (g := fun f : Text × Place => (g :: f.1, f.2)) (ih hcs hstep)
          (S := fun f f' => List.Forall₂ (· = ·) f.1 f'.1 ∧ AcrossGap front r r' more f.2 f'.2)
          fun a b hab => ⟨.cons rfl hab.1, hab.2⟩
        rw [Option.map_map, Option.map_map] at hcons
        exact hcons
      · exact .none
    · rw [hgo, hgo, Glyph.agrees_of_isBlank hc hg, Glyph.agrees_of_isBlank hc hg']
      exact .none
    · exact .none

theorem AcrossGap.sign? {signs : List Char} (hsigns : ∀ c ∈ signs, (Glyph.char c).isBlank = false)
    (h : AcrossGap front r r' more p p') :
    Option.Rel (AcrossGap front r r' more) (p.sign? signs) (p'.sign? signs) := by
  have hnone : ∀ {g : Glyph}, g.isBlank = true → g.isOneOf signs = false := by
    intro g hg
    cases g with
    | lone half => rfl
    | char c =>
      rw [Glyph.isOneOf, ← Bool.not_eq_true]
      intro hmem
      exact absurd (hg.symm.trans (hsigns c (List.contains_iff_mem.mp hmem))) (by decide)
  have hgo : ∀ (b : Option Glyph) (a : Glyph) (u : Text), Place.sign? signs ⟨b, a :: u⟩ =
      if a.isOneOf signs then some ⟨some a, u⟩ else none := fun _ _ _ => rfl
  rcases p with ⟨b, u⟩
  rcases p' with ⟨b', u'⟩
  rcases h.step hr hr' with ⟨g, t, t', rfl, rfl, hstep⟩ | ⟨g, g', t, t', rfl, rfl, hg, hg'⟩ |
    ⟨rfl, rfl⟩
  · rw [hgo, hgo]
    split
    · exact .some hstep
    · exact .none
  · rw [hgo, hgo, hnone hg, hnone hg']
    exact .none
  · exact .none

/-- A run of blanks takes all of a gap. -/
theorem AcrossGap.span_isBlank (h : AcrossGap front r r' more p p') :
    ((p.span Glyph.isBlank).1 = [] ↔ (p'.span Glyph.isBlank).1 = []) ∧
      AcrossGap front r r' more (p.span Glyph.isBlank).2 (p'.span Glyph.isBlank).2 := by
  cases h with
  | @behind b b' u h hword =>
    rw [span_eq, span_eq]
    exact ⟨Iff.rfl, .behind ((List.dropWhile_suffix _).trans h) (any_isWord_lastGlyph hword _)⟩
  | @ahead y x h =>
    by_cases hall : ∀ g ∈ x, g.isBlank = true
    · have hspan : ∀ {s : Text}, IsGap s → (span Glyph.isBlank ⟨lastGlyph none y, x ++ (s ++ more)⟩) =
          (x ++ (s ++ more.takeWhile Glyph.isBlank),
            ⟨lastGlyph (lastGlyph none y) (x ++ (s ++ more.takeWhile Glyph.isBlank)),
              more.dropWhile Glyph.isBlank⟩) := by
        intro s hs
        rw [span_eq, List.takeWhile_append_of_pos hall, List.takeWhile_append_of_pos hs.blank,
          List.dropWhile_append_of_pos hall, List.dropWhile_append_of_pos hs.blank]
      have hblank : ∀ {s : Text}, IsGap s → x ++ (s ++ more.takeWhile Glyph.isBlank) ≠ [] ∧
          ∀ g ∈ x ++ (s ++ more.takeWhile Glyph.isBlank), g.isBlank = true := by
        intro s hs
        refine ⟨by simp [hs.ne_nil], fun g hg => ?_⟩
        simp only [List.mem_append] at hg
        rcases hg with hg | hg | hg
        · exact hall g hg
        · exact hs.blank g hg
        · exact List.mem_takeWhile_imp hg
      obtain ⟨hne, hrun⟩ := hblank hr
      obtain ⟨hne', hrun'⟩ := hblank hr'
      rw [hspan hr, hspan hr']
      refine ⟨iff_of_false hne hne', .behind (List.dropWhile_suffix _) ?_⟩
      rw [any_isWord_lastGlyph_of_blank hne hrun, any_isWord_lastGlyph_of_blank hne' hrun']
    · obtain ⟨w, g, v, rfl, hw, hg⟩ := Text.exists_first_of_not_forall hall
      have hspan : ∀ s : Text, span Glyph.isBlank ⟨lastGlyph none y, w ++ g :: v ++ (s ++ more)⟩ =
          (w, ⟨lastGlyph none (y ++ w), g :: v ++ (s ++ more)⟩) := by
        intro s
        rw [List.append_assoc, lastGlyph_append]
        exact span_append hw (by rintro a ⟨⟩; exact hg) _
      rw [hspan, hspan]
      exact ⟨Iff.rfl, .ahead (by rw [h, List.append_assoc])⟩

theorem AcrossGap.blanks1? (h : AcrossGap front r r' more p p') :
    Option.Rel (AcrossGap front r r' more) p.blanks1? p'.blanks1? := by
  obtain ⟨hnil, hplace⟩ := h.span_isBlank hr hr'
  rw [Place.blanks1?, Place.blanks1?, span1?, span1?]
  generalize p.span Glyph.isBlank = found at hnil hplace ⊢
  generalize p'.span Glyph.isBlank = found' at hnil hplace ⊢
  rcases found with ⟨run, q⟩
  rcases found' with ⟨run', q'⟩
  cases run with
  | nil =>
    obtain rfl : run' = [] := hnil.mp rfl
    exact .none
  | cons g run =>
    obtain ⟨g', run', rfl⟩ :=
      List.exists_cons_of_ne_nil fun h' : run' = [] => List.cons_ne_nil g run (hnil.mpr h')
    exact .some hplace

/-- **Recognisers do the same on both sides of a gap and over it.** -/
theorem agreeing_acrossGap (front more : Text) :
    Agreeing (· = ·) (AcrossGap front r r' more) where
  isEmpty_eq h := h.isEmpty_eq hr hr'
  edge? h := h.edge? hr hr'
  word? hword h := rel_mono (word?_rel (h.word?_take hr hr' fun c hc =>
    isBlank_of_isVisible (hword c hc))) fun _ _ hf => hf.2
  oneOf? hwords h := oneOf?_rel fun word hmem => h.word?_take hr hr' fun c hc =>
    isBlank_of_isVisible (hwords word hmem c hc)
  sign? hsigns h := h.sign? hr hr' fun c hc => isBlank_of_isVisible (hsigns c hc).2
  blanks h := (h.span_isBlank hr hr').2
  blanks1? h := h.blanks1? hr hr'

end

/-! ## Searching across a gap -/

section

variable (hr : IsGap r) (hr' : IsGap r')
include hr hr'

/-- A search steps over a gap at once, if nothing that it looks for begins with a blank. -/
theorem AcrossGap.onward {α : Type} {recognise : Place → Option α}
    (hblank : ∀ b g t, g.isBlank = true → recognise ⟨b, g :: t⟩ = none)
    (h : AcrossGap front r r' more p p') :
    Onward recognise (AcrossGap front r r' more) p p' := by
  have havoids : ∀ {t : Text}, (∀ g ∈ t, g.isBlank = true) → ∀ b, Avoids recognise b t := by
    intro t ht
    induction t with
    | nil => exact fun _ => trivial
    | cons g t ih =>
      obtain ⟨hg, ht⟩ := List.forall_mem_cons.mp ht
      exact fun b => ⟨fun _ => hblank b g _ hg, ih ht _⟩
  have hpasses : ∀ {g : Glyph} {t : Text}, (∀ a ∈ g :: t, a.isBlank = true) →
      Passes recognise ⟨some g, t ++ more⟩ ⟨lastGlyph none (g :: t), more⟩ := by
    intro g t ht
    exact ⟨t, rfl, lastGlyph_cons none g t, havoids (List.forall_mem_cons.mp ht).2 (some g)⟩
  cases h with
  | @behind b b' u h hword =>
    cases u with
    | nil => exact .ended
    | cons g u => exact .step (.of_rel (.behind ((List.suffix_cons g u).trans h) rfl))
  | @ahead y x h =>
    cases x with
    | nil =>
      obtain ⟨g, t, rfl⟩ := List.exists_cons_of_ne_nil hr.ne_nil
      obtain ⟨g', t', rfl⟩ := List.exists_cons_of_ne_nil hr'.ne_nil
      refine .step ⟨_, _, hpasses hr.blank, hpasses hr'.blank, .behind List.suffix_rfl ?_⟩
      rw [any_isWord_lastGlyph_of_blank hr.ne_nil hr.blank,
        any_isWord_lastGlyph_of_blank hr'.ne_nil hr'.blank]
    | cons g x =>
      have hfront : front = (y ++ [g]) ++ x := by rw [h, List.append_assoc, List.singleton_append]
      have hstep : AcrossGap front r r' more ⟨lastGlyph none (y ++ [g]), x ++ (r ++ more)⟩
          ⟨lastGlyph none (y ++ [g]), x ++ (r' ++ more)⟩ := .ahead hfront
      rw [lastGlyph_append, lastGlyph_cons, lastGlyph_nil] at hstep
      exact .step (.of_rel hstep)

end

end Place
end QueryDesk
