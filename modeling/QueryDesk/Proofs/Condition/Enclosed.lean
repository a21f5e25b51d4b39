import QueryDesk.Proofs.Condition.Respaced

/-!
# Enclosing parentheses

Parentheses around a whole condition, with any blanks on either side of them, change nothing of what
it asks for (`read_enclosed`): not around alternatives, nor around text of no known form, nor around
parentheses in a literal.

All that is asked of the condition is that its quotes and parentheses are matched (`IsMatched`).
That is counted on the masked text and knows nothing of how a condition is read.  It comes to the
same as balance (`isBalanced_iff`), since the depth that a reader has come to is the number of
parentheses that are open: a text closes all that is open around it if its parentheses use up that
depth (`closesAll_iff`).
-/

set_option autoImplicit false

namespace QueryDesk
namespace Condition

/-! ## Matched parentheses -/

/-- Says that a text closes the parentheses that are open in front of it, so many of them, and those
that it opens itself, and that it never closes more than are open. -/
structure UsesUp (depth : Nat) (t : Text) : Prop where
  fronts : ∀ front, front <+: t → front.count (.char ')') ≤ depth + front.count (.char '(')
  whole : t.count (.char ')') = depth + t.count (.char '(')

/-- Says that each quote of a text is closed, and that outside of literals as many parentheses close
as open, and no more in any front of the text. -/
structure IsMatched (t : Text) : Prop where
  quotes : Literal.behind none t = none
  fronts : ∀ front, front <+: Literal.mask t →
    front.count (.char ')') ≤ front.count (.char '(')
  whole : (Literal.mask t).count (.char ')') = (Literal.mask t).count (.char '(')

theorem isMatched_iff {t : Text} :
    IsMatched t ↔ Literal.behind none t = none ∧ UsesUp 0 (Literal.mask t) := by
  constructor
  · rintro ⟨hquotes, hfronts, hwhole⟩
    exact ⟨hquotes, fun front h => by rw [Nat.zero_add]; exact hfronts front h,
      by rw [Nat.zero_add]; exact hwhole⟩
  · rintro ⟨hquotes, hfronts, hwhole⟩
    exact ⟨hquotes, fun front h => by simpa using hfronts front h, by simpa using hwhole⟩

/-! ## What one glyph uses up -/

variable {depth : Nat} {g : Glyph} {t : Text}

/-- What holds of all fronts of a text holds of the empty one and of those behind the first glyph. -/
theorem forall_prefix_cons {P : Text → Prop} :
    (∀ front, front <+: g :: t → P front) ↔ P [] ∧ ∀ front, front <+: t → P (g :: front) := by
  constructor
  · exact fun h => ⟨h [] List.nil_prefix, fun front hfront =>
      h _ ((List.prefix_cons_inj g).mpr hfront)⟩
  · rintro ⟨hnil, hcons⟩ front hfront
    rcases List.prefix_cons_iff.mp hfront with rfl | ⟨behind, rfl, hbehind⟩
    · exact hnil
    · exact hcons behind hbehind

theorem usesUp_nil : UsesUp depth [] ↔ depth = 0 := by
  constructor
  · rintro ⟨-, hwhole⟩
    simpa using hwhole.symm
  · rintro rfl
    exact ⟨fun front hfront => by simp [List.prefix_nil.mp hfront], rfl⟩

/-- **One glyph uses up what it closes**, and adds what it opens. -/
theorem usesUp_cons (opens closes : Nat)
    (ho : ∀ s : Text, (g :: s).count (.char '(') = s.count (.char '(') + opens)
    (hc : ∀ s : Text, (g :: s).count (.char ')') = s.count (.char ')') + closes) :
    UsesUp depth (g :: t) ↔ closes ≤ depth + opens ∧ UsesUp (depth + opens - closes) t := by
  constructor
  · rintro ⟨hfronts, hwhole⟩
    rw [forall_prefix_cons] at hfronts
    have hfirst := hfronts.2 [] List.nil_prefix
    rw [ho, hc, List.count_nil, List.count_nil] at hfirst
    rw [ho, hc] at hwhole
    refine ⟨by omega, fun front hfront => ?_, by omega⟩
    have hle := hfronts.2 front hfront
    rw [ho, hc] at hle
    omega
  · rintro ⟨hopen, hfronts, hwhole⟩
    refine ⟨forall_prefix_cons.mpr ⟨Nat.zero_le _, fun front hfront => ?_⟩, ?_⟩
    · have hle := hfronts front hfront
      rw [ho, hc]
      omega
    · rw [ho, hc]
      omega

theorem usesUp_opening : UsesUp depth (.char '(' :: t) ↔ UsesUp (depth + 1) t :=
  (usesUp_cons 1 0 (fun _ => List.count_cons_self)
    fun _ => List.count_cons_of_ne (by decide)).trans (and_iff_right (Nat.zero_le _))

/-- A parenthesis closes only if one is open. -/
theorem usesUp_closing : UsesUp depth (.char ')' :: t) ↔ depth ≠ 0 ∧ UsesUp (depth - 1) t :=
  (usesUp_cons 0 1 (fun _ => List.count_cons_of_ne (by decide))
    fun _ => List.count_cons_self).trans (and_congr_left' Nat.one_le_iff_ne_zero)

theorem usesUp_other (hopening : g ≠ .char '(') (hclosing : g ≠ .char ')') :
    UsesUp depth (g :: t) ↔ UsesUp depth t :=
  (usesUp_cons 0 0 (fun _ => List.count_cons_of_ne hopening)
    fun _ => List.count_cons_of_ne hclosing).trans (and_iff_right (Nat.zero_le _))

/-! ## Depth is what is open -/

theorem ne_parenthesis_of_isQuote (h : Literal.isQuote g = true) :
    g ≠ .char '(' ∧ g ≠ .char ')' := by
  rcases Literal.eq_of_isQuote h with rfl | rfl <;> decide

/-- **A text closes all that is open around it** if it closes its quotes and its parentheses use up
the depth. -/
theorem closesAll_iff {level : Level} (hq : ∀ q ∈ level.opened, Literal.isQuote q = true) :
    closesAll level t = true ↔ Literal.behind level.opened t = none ∧
      UsesUp level.depth (Literal.maskFrom level.opened t) := by
  -- Induction on the text, from every level that a reader can be at.
  induction t generalizing level with
  | nil =>
    obtain ⟨opened, depth⟩ := level
    simp only [closesAll, decide_eq_true_eq, Level.outside, Level.mk.injEq, Literal.maskFrom,
      usesUp_nil]
    rfl
  | cons g t ih =>
    obtain ⟨opened, depth⟩ := level
    rw [closesAll_cons, Literal.maskFrom]
    have hbehind : Literal.behind opened (g :: t) =
        Literal.behind (Literal.after opened g) t := rfl
    rw [hbehind]
    cases opened with
    | some q =>
      have hquote : Literal.isQuote q = true := hq q rfl
      have hafter : ∀ q' ∈ Literal.after (some q) g, Literal.isQuote q' = true := by
        rw [Literal.after]
        split
        · simp
        · rintro _ ⟨⟩
          exact hquote
      have hmasked : (if Literal.isContent (some q) g = true then Literal.filler else g) ≠ .char '(' ∧
          (if Literal.isContent (some q) g = true then Literal.filler else g) ≠ .char ')' := by
        split
        · decide
        · next h =>
          obtain rfl : g = q := by simpa [Literal.isContent] using h
          exact ne_parenthesis_of_isQuote hquote
      have hlevel : (⟨some q, depth⟩ : Level) ≠ .outside := fun h =>
        absurd (congrArg Level.opened h) (by simp [Level.outside])
      rw [usesUp_other hmasked.1 hmasked.2, Level.after]
      exact (and_iff_right fun h => hlevel h.1).trans (ih hafter)
    | none =>
      have hnone : ∀ q' ∈ (none : Option Glyph), Literal.isQuote q' = true := by simp
      have hcontent : Literal.isContent none g = false := rfl
      rw [hcontent, if_neg Bool.false_ne_true, Level.after, Literal.after]
      by_cases hquote : Literal.isQuote g = true
      · obtain ⟨hopening, hclosing⟩ := ne_parenthesis_of_isQuote hquote
        rw [usesUp_other hopening hclosing]
        simp only [hquote, if_true]
        exact (and_iff_right fun h => hclosing h.2).trans (ih fun q' hq' => by cases hq'; exact hquote)
      · simp only [if_neg hquote]
        by_cases hopening : g = .char '('
        · subst hopening
          rw [if_pos rfl, usesUp_opening]
          exact (and_iff_right fun h => absurd h.2 (by decide)).trans (ih hnone)
        · rw [if_neg hopening]
          by_cases hclosing : g = .char ')'
          · subst hclosing
            rw [if_pos rfl, usesUp_closing, and_left_comm]
            have hlevel : ¬((⟨none, depth⟩ : Level) = .outside ∧ Glyph.char ')' = .char ')') ↔
                depth ≠ 0 := by
              simp [Level.outside]
            exact and_congr hlevel (ih hnone)
          · rw [if_neg hclosing, usesUp_other hopening hclosing]
            exact (and_iff_right fun h => hclosing h.2).trans (ih hnone)

/-- **A text is balanced if its quotes and parentheses are matched.** -/
theorem isBalanced_iff : IsBalanced t ↔ IsMatched t := by
  rw [isMatched_iff]
  have hq : ∀ q ∈ Level.outside.opened, Literal.isQuote q = true := by simp [Level.outside]
  exact closesAll_iff hq

/-! ## Parentheses and blanks around a text -/

theorem isBalanced_of_blank (h : ∀ g ∈ t, g.isBlank = true) : IsBalanced t := by
  induction t with
  | nil => rfl
  | cons g t ih =>
    obtain ⟨hg, ht⟩ := List.forall_mem_cons.mp h
    refine closesAll_cons.mpr ⟨?_, ?_⟩
    · rintro ⟨-, rfl⟩
      exact absurd hg (by decide)
    · rw [Level.outside, after_of_isBlank hg]
      exact ih ht

/-- Outer blanks do not count. -/
theorem unwrap_between_blanks {w w' : Text} (hw : ∀ g ∈ w, g.isBlank = true)
    (hw' : ∀ g ∈ w', g.isBlank = true) (t : Text) : unwrap (w ++ t ++ w') = unwrap t := by
  rw [unwrap, unwrap, Text.trim_append_of_blank hw', Text.trim_blank_append hw]

section

variable {w₁ w₂ w₃ w₄ : Text} (h₁ : ∀ g ∈ w₁, g.isBlank = true) (h₂ : ∀ g ∈ w₂, g.isBlank = true)
  (h₃ : ∀ g ∈ w₃, g.isBlank = true) (h₄ : ∀ g ∈ w₄, g.isBlank = true)
include h₁ h₂ h₃ h₄

/-- Parentheses come off with the blanks around them, down to what is left of the text alone. -/
theorem unwrap_enclosed (h : IsBalanced t) :
    unwrap (w₁ ++ (.char '(' :: (w₂ ++ t ++ w₃ ++ [.char ')'])) ++ w₄) = unwrap t := by
  have hinside : IsBalanced (w₂ ++ t ++ w₃) :=
    ((isBalanced_of_blank h₂).append h).append (isBalanced_of_blank h₃)
  rw [unwrap_between_blanks h₁ h₄, unwrap_parentheses hinside, unwrap_between_blanks h₂ h₃]

/-- **Enclosing parentheses never matter.** -/
theorem read_enclosed (h : IsMatched t) :
    read (w₁ ++ (.char '(' :: (w₂ ++ t ++ w₃ ++ [.char ')'])) ++ w₄) = read t :=
  read_congr (unwrap_enclosed h₁ h₂ h₃ h₄ (isBalanced_iff.mpr h))

end

/-- Alternatives in parentheses, with blanks of several kinds around them, and with a parenthesis in a
literal: they are still the form for late work orders. -/
theorem read_enclosed_delayed_or_late :
    let condition := Text.of "status = 'delayed' OR (region = ')' AND scheduled_date < NOW())"
    IsMatched condition ∧ (∀ g ∈ Text.of " \t", g.isBlank = true) ∧
      (∀ g ∈ Text.of "\u00A0", g.isBlank = true) ∧ (∀ g ∈ Text.of "", g.isBlank = true) ∧
      (∀ g ∈ Text.of "\n", g.isBlank = true) ∧
      read (Text.of " \t" ++ (.char '(' :: (Text.of "\u00A0" ++ condition ++ Text.of "" ++
        [.char ')'])) ++ Text.of "\n") = read condition ∧ (read condition).length = 1 := by
  intro condition
  have hmatched : IsMatched condition := isBalanced_iff.mp (by decide)
  have h₁ : ∀ g ∈ Text.of " \t", g.isBlank = true := by decide
  have h₂ : ∀ g ∈ Text.of "\u00A0", g.isBlank = true := by decide
  have h₃ : ∀ g ∈ Text.of "", g.isBlank = true := by decide
  have h₄ : ∀ g ∈ Text.of "\n", g.isBlank = true := by decide
  exact ⟨hmatched, h₁, h₂, h₃, h₄, read_enclosed h₁ h₂ h₃ h₄ hmatched, by decide +kernel⟩

end Condition
end QueryDesk
