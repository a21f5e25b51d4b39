import Mathlib.Tactic.SplitIfs
import QueryDesk.Proofs.Text.Trim
import QueryDesk.Statement.Condition

/-!
# Balanced texts

A text is balanced (`IsBalanced`) when it closes every literal and every parenthesis that it opens
and no other parenthesis.  That is a test from left to right (`closesAll`), and it says all that a
reader of conditions has to know of a text that it does not look into: from any depth the text
leads back to that depth (`behind_raise`) and never below it, so it cannot close a parenthesis
around it (`closesAtEnd_append`).

Enclosing parentheses come off such a text (`unwrap_parentheses`), and only if they enclose all of
it (`isWrapped_parentheses`).
-/

set_option autoImplicit false

namespace QueryDesk

/-- There are two quotes. -/
theorem Literal.eq_of_isQuote {g : Glyph} (h : isQuote g = true) :
    g = .char '\'' ∨ g = .char '"' := by
  cases g with
  | lone half => cases h
  | char c => simpa using List.contains_iff_mem.mp h

namespace Condition

namespace Level

/-! ## The level behind a text -/

/-- The level behind a text. -/
def behind (level : Level) (t : Text) : Level := t.foldl after level

@[simp] theorem behind_nil (level : Level) : level.behind [] = level := rfl

@[simp] theorem behind_cons (level : Level) (g : Glyph) (t : Text) :
    level.behind (g :: t) = (level.after g).behind t := rfl

@[simp] theorem behind_append (level : Level) (t u : Text) :
    level.behind (t ++ u) = (level.behind t).behind u := List.foldl_append

/-- The level inside `d` more parentheses. -/
def raise (level : Level) (d : Nat) : Level := { level with depth := level.depth + d }

theorem raise_ne_outside (level : Level) (d : Nat) : level.raise (d + 1) ≠ .outside := by
  intro h
  have hd : level.depth + (d + 1) = 0 := congrArg Level.depth h
  omega

/-- A glyph does the same at every depth, unless it closes a parenthesis that the depth decides
about. -/
theorem after_raise {level : Level} {g : Glyph} (h : ¬(level = .outside ∧ g = .char ')'))
    (d : Nat) : (level.raise d).after g = (level.after g).raise d := by
  obtain ⟨opened, depth⟩ := level
  cases opened with
  | some q => rfl
  | none =>
    simp only [after, raise]
    split_ifs with hq ho hc
    · rfl
    · simp only [Level.mk.injEq, true_and]; omega
    · have hpos : depth ≠ 0 := fun h₀ => h ⟨by rw [h₀, outside], hc⟩
      simp only [Level.mk.injEq, true_and]; omega
    · rfl

end Level

/-! ## Balance -/

/-- Tests that a text closes all that is open in front of it and closes nothing else. -/
def closesAll (level : Level) : Text → Bool
  | [] => level = .outside
  | g :: rest => !(level = .outside && g = .char ')') && closesAll (level.after g) rest

/-- A text that closes what it opens and nothing else. -/
def IsBalanced (t : Text) : Prop := closesAll .outside t = true

instance (t : Text) : Decidable (IsBalanced t) := inferInstanceAs (Decidable (_ = true))

theorem closesAll_cons {level : Level} {g : Glyph} {t : Text} :
    closesAll level (g :: t) = true ↔
      ¬(level = .outside ∧ g = .char ')') ∧ closesAll (level.after g) t = true := by
  simp only [closesAll, Bool.and_eq_true, Bool.not_eq_true', ← Bool.not_eq_true,
    decide_eq_true_eq]

/-- **A balanced text leads back to the depth in front of it.** -/
theorem behind_raise {level : Level} {t : Text} (h : closesAll level t = true) (d : Nat) :
    (level.raise d).behind t = ⟨none, d⟩ := by
  induction t generalizing level with
  | nil =>
    have hl : level = .outside := by simpa [closesAll] using h
    simp [hl, Level.raise, Level.outside]
  | cons g t ih =>
    rw [closesAll_cons] at h
    rw [Level.behind_cons, Level.after_raise h.1, ih h.2]

theorem IsBalanced.behind_eq {t : Text} (h : IsBalanced t) :
    Level.outside.behind t = .outside := behind_raise h 0

/-- A text that closes all, and a text behind it that closes what is left around it, together close
all. -/
theorem closesAll_append {level : Level} {t u : Text} {d : Nat} (ht : closesAll level t = true)
    (hu : closesAll ⟨none, d⟩ u = true) : closesAll (level.raise d) (t ++ u) = true := by
  induction t generalizing level with
  | nil =>
    have hl : level = .outside := by simpa [closesAll] using ht
    simpa [hl, Level.raise, Level.outside] using hu
  | cons g t ih =>
    rw [closesAll_cons] at ht
    rw [List.cons_append, closesAll_cons, Level.after_raise ht.1]
    refine ⟨fun h => ht.1 ⟨?_, h.2⟩, ih ht.2⟩
    have hd : level.depth + d = 0 := congrArg Level.depth h.1
    have ho : level.opened = none := congrArg Level.opened h.1
    obtain ⟨opened, depth⟩ := level
    simp only [Level.outside, Level.mk.injEq]
    exact ⟨ho, by simp only at hd; omega⟩

theorem IsBalanced.append {t u : Text} (ht : IsBalanced t) (hu : IsBalanced u) :
    IsBalanced (t ++ u) := closesAll_append (d := 0) ht hu

theorem IsBalanced.parentheses {t : Text} (h : IsBalanced t) :
    IsBalanced (.char '(' :: (t ++ [.char ')'])) := by
  have hclose : closesAll ⟨none, 1⟩ [.char ')'] = true := by decide
  exact closesAll_append h hclose

/-- The content of a literal and the quote that ends it. -/
theorem closesAll_literal {q : Glyph} {d : Nat} {content t : Text} (hc : q ∉ content)
    (ht : closesAll ⟨none, d⟩ t = true) : closesAll ⟨some q, d⟩ (content ++ q :: t) = true := by
  induction content with
  | nil => simpa [closesAll, Level.after, Literal.after, Level.outside] using ht
  | cons g rest ih =>
    rw [List.mem_cons, not_or] at hc
    rw [List.cons_append, closesAll_cons]
    refine ⟨fun h => absurd (congrArg Level.opened h.1) (by simp [Level.outside]), ?_⟩
    rw [Level.after, Literal.after, if_neg (Ne.symm hc.1)]
    exact ih hc.2

/-! ## Parentheses around a text -/

/-- A parenthesis around a balanced text does not close in it. -/
theorem closesAtEnd_append {level : Level} {t : Text} (h : closesAll level t = true) (d : Nat)
    (u : Text) : closesAtEnd (level.raise (d + 1)) (t ++ u) = closesAtEnd ⟨none, d + 1⟩ u := by
  induction t generalizing level with
  | nil =>
    have hl : level = .outside := by simpa [closesAll] using h
    simp [hl, Level.raise, Level.outside]
  | cons g t ih =>
    rw [closesAll_cons] at h
    rw [List.cons_append, closesAtEnd, Level.after_raise h.1, ih h.2, if_neg]
    simp [Level.raise]

/-- Parentheses around a balanced text are a wrapping if nothing follows. -/
theorem isWrapped_parentheses {t : Text} (h : IsBalanced t) (u : Text) :
    isWrapped (.char '(' :: (t ++ .char ')' :: u)) = u.isEmpty := by
  have hc := closesAtEnd_append h 0 (.char ')' :: u)
  simp only [isWrapped, List.head?_cons, beq_self_eq_true, Bool.true_and]
  exact hc

theorem isWrapped_eq_false {t : Text} (h : t.head? ≠ some (.char '(')) : isWrapped t = false := by
  rw [isWrapped, beq_eq_false_iff_ne.mpr h, Bool.false_and]

theorem unwrapTrimmed_eq_self {t : Text} (h : isWrapped t = false) : unwrapTrimmed t = t := by
  rw [unwrapTrimmed, dif_neg (by rw [h]; exact Bool.false_ne_true)]

/-- **Enclosing parentheses come off.** -/
theorem unwrap_parentheses {t : Text} (h : IsBalanced t) :
    unwrap (.char '(' :: (t ++ [.char ')'])) = unwrap t := by
  have hw : isWrapped (.char '(' :: (t ++ [.char ')'])) = true := isWrapped_parentheses h []
  have ht : Text.IsTight (.char '(' :: (t ++ [.char ')'])) := by
    refine ⟨fun g hg => ?_, fun g hg => ?_⟩
    · cases hg; decide
    · rw [← List.cons_append, List.getLast?_append_of_ne_nil _ (by simp)] at hg
      cases hg; decide
  rw [unwrap, Text.trim_eq_self ht, unwrapTrimmed, dif_pos hw, List.drop_one, List.tail_cons,
    List.dropLast_concat, unwrap]

end Condition
end QueryDesk

/-! ## The mask of a text

A text is masked part by part, where each part begins with the literal that is open behind the
parts in front (`maskFrom_append`).  The content of a literal becomes low lines
(`maskFrom_content`), and behind a balanced text no literal is open (`mask_append`).
-/

namespace QueryDesk
namespace Literal

/-- The literal that is open behind a text. -/
def behind (opened : Option Glyph) (t : Text) : Option Glyph := t.foldl after opened

theorem head?_mask (t : Text) : (mask t).head? = t.head? := by
  cases t <;> rfl

theorem maskFrom_append (opened : Option Glyph) (t u : Text) :
    maskFrom opened (t ++ u) = maskFrom opened t ++ maskFrom (behind opened t) u := by
  induction t generalizing opened with
  | nil => rfl
  | cons g t ih =>
    rw [List.cons_append, maskFrom, ih]
    rfl

/-- A reader of conditions and the mask agree about literals. -/
theorem opened_behind (level : Condition.Level) (t : Text) :
    (level.behind t).opened = behind level.opened t := by
  induction t generalizing level with
  | nil => rfl
  | cons g t ih =>
    have hafter : (level.after g).opened = after level.opened g := by
      obtain ⟨opened, depth⟩ := level
      cases opened with
      | some q => rfl
      | none =>
        simp only [Condition.Level.after, after]
        split_ifs <;> rfl
    rw [Condition.Level.behind_cons, ih, hafter]
    rfl

/-- Behind a text that leaves no literal open the mask begins anew. -/
theorem mask_append_of_behind {t : Text} (h : behind none t = none) (u : Text) :
    mask (t ++ u) = mask t ++ mask u := by
  rw [mask, maskFrom_append, h]
  rfl

/-- **Behind a balanced text no literal is open.** -/
theorem mask_append {t : Text} (h : Condition.IsBalanced t) (u : Text) :
    mask (t ++ u) = mask t ++ mask u := by
  have hlevel := opened_behind .outside t
  rw [h.behind_eq] at hlevel
  exact mask_append_of_behind hlevel.symm u

/-- The content of a literal and the quote that ends it. -/
theorem maskFrom_content {q : Glyph} {content : Text} (hc : q ∉ content) (t : Text) :
    maskFrom (some q) (content ++ q :: t) =
      List.replicate content.length filler ++ q :: maskFrom none t := by
  induction content with
  | nil => simp [maskFrom, isContent, after]
  | cons g rest ih =>
    rw [List.mem_cons, not_or] at hc
    have hcontent : isContent (some q) g = true := decide_eq_true (Ne.symm hc.1)
    rw [List.cons_append, maskFrom, if_pos hcontent, after, if_neg (Ne.symm hc.1), ih hc.2]
    rfl

end Literal
end QueryDesk
