import QueryDesk.Proofs.Condition.Depth
import QueryDesk.Proofs.Text.Recognition

/-!
# Where a condition is cut

A text is cut at a keyword that stands outside literals and parentheses with blanks on both sides.
`Uncut` says that no cut falls into a text, whatever follows it; then the text goes as a whole into
the first part of what is cut (`cut_append`).  There are three reasons for it: the text lies inside
parentheses (`uncut_of_closesAll`), or inside a literal (`uncut_content`), or it shows behind each
of its blanks that no keyword follows (`uncut_of_isSolid`).
-/

set_option autoImplicit false

namespace QueryDesk
namespace Condition

variable {keyword : List Char} {level : Level}

/-! ## Cutting step by step -/

theorem cut_cons_of_none {g : Glyph} {t part : Text} {parts : List Text}
    (h : cutHere? keyword level (g :: t) = none)
    (ht : cut keyword (level.after g) t = part :: parts) :
    cut keyword level (g :: t) = (g :: part) :: parts := by
  rw [cut]
  split
  · next behind hb => rw [h] at hb; cases hb
  · rw [ht]

theorem cut_cons_of_some {g : Glyph} {t behind : Text}
    (h : cutHere? keyword level (g :: t) = some behind) :
    cut keyword level (g :: t) = [] :: cut keyword .outside behind := by
  rw [cut]
  split
  · next b hb => rw [h] at hb; cases hb; rfl
  · next hb => rw [h] at hb; cases hb

theorem cutHere?_of_ne_outside (h : level ≠ .outside) (t : Text) :
    cutHere? keyword level t = none := by
  rw [cutHere?, if_neg h]

theorem cutHere?_outside (keyword : List Char) (t : Text) :
    cutHere? keyword .outside t = behindKeyword? keyword t := by
  rw [cutHere?, if_pos rfl]

/-- A keyword needs a blank in front. -/
theorem behindKeyword?_of_not_blank {g : Glyph} (h : g.isBlank = false) (t : Text) :
    behindKeyword? keyword (g :: t) = none := by
  rw [behindKeyword?, Place.start, Place.blanks1?_eq_none h, Option.bind_eq_bind,
    Option.bind_none]

/-! ## Texts that are not cut -/

/-- No cut falls into a text that is read from a level on, whatever follows it. -/
def Uncut (keyword : List Char) (level : Level) : Text → Prop
  | [] => True
  | g :: t =>
    (∀ more, cutHere? keyword level (g :: t ++ more) = none) ∧ Uncut keyword (level.after g) t

theorem Uncut.append {t u : Text} (ht : Uncut keyword level t)
    (hu : Uncut keyword (level.behind t) u) : Uncut keyword level (t ++ u) := by
  induction t generalizing level with
  | nil => exact hu
  | cons g t ih =>
    refine ⟨fun more => ?_, ih ht.2 hu⟩
    have hm := ht.1 (u ++ more)
    rwa [← List.append_assoc] at hm

/-- **A text that is not cut goes into the first part.** -/
theorem cut_append {t u part : Text} {parts : List Text} (ht : Uncut keyword level t)
    (hu : cut keyword (level.behind t) u = part :: parts) :
    cut keyword level (t ++ u) = (t ++ part) :: parts := by
  induction t generalizing level with
  | nil => exact hu
  | cons g t ih => exact cut_cons_of_none (ht.1 u) (ih ht.2 hu)

theorem cut_eq_singleton {t : Text} (h : Uncut keyword level t) : cut keyword level t = [t] := by
  have hnil : cut keyword (level.behind t) [] = [[]] := by rw [cut]
  simpa using cut_append h hnil

/-- Inside parentheses nothing is cut. -/
theorem uncut_of_closesAll {t : Text} (h : closesAll level t = true) (d : Nat) :
    Uncut keyword (level.raise (d + 1)) t := by
  induction t generalizing level with
  | nil => exact trivial
  | cons g t ih =>
    rw [closesAll_cons] at h
    refine ⟨fun more => cutHere?_of_ne_outside (level.raise_ne_outside d) _, ?_⟩
    rw [Level.after_raise h.1]
    exact ih h.2

/-- Inside a literal nothing is cut. -/
theorem uncut_content {q : Glyph} {d : Nat} {content : Text} (hc : q ∉ content) :
    Uncut keyword ⟨some q, d⟩ content := by
  induction content with
  | nil => exact trivial
  | cons g rest ih =>
    rw [List.mem_cons, not_or] at hc
    refine ⟨fun more => cutHere?_of_ne_outside (by simp [Level.outside]) _, ?_⟩
    rw [Level.after, Literal.after, if_neg (Ne.symm hc.1)]
    exact ih hc.2

theorem behind_content {q : Glyph} {d : Nat} {content : Text} (hc : q ∉ content) :
    (⟨some q, d⟩ : Level).behind content = ⟨some q, d⟩ := by
  induction content with
  | nil => rfl
  | cons g rest ih =>
    rw [List.mem_cons, not_or] at hc
    rw [Level.behind_cons, Level.after, Literal.after, if_neg (Ne.symm hc.1)]
    exact ih hc.2

/-- A text in parentheses is not cut. -/
theorem uncut_parentheses {t : Text} (h : IsBalanced t) :
    Uncut keyword .outside (.char '(' :: (t ++ [.char ')'])) := by
  refine ⟨fun more => ?_, (uncut_of_closesAll h 0).append ?_⟩
  · rw [cutHere?_outside]
    exact behindKeyword?_of_not_blank (by decide) _
  · rw [behind_raise h]
    exact ⟨fun more => cutHere?_of_ne_outside (by simp [Level.outside]) _, trivial⟩

/-! ## Texts that show that they are not cut -/

/-- Tests that a text shows by itself not to begin with a keyword and a blank. -/
def differs : List Char → Text → Bool
  | [], t => t.head?.any (!·.isBlank)
  | _ :: _, [] => false
  | c :: cs, g :: t => !g.agrees c || differs cs t

/-- Tests that behind each blank of a text stands something else than a keyword. -/
def isSolid (keyword : List Char) : Text → Bool
  | [] => true
  | g :: t =>
    (!g.isBlank || (t.head?.any (!·.isBlank) && differs keyword t)) && isSolid keyword t

theorem blanks1?_word?_of_differs {t : Text} (h : differs keyword t = true)
    (before : Option Glyph) (more : Text) :
    ((Place.word? keyword ⟨before, t ++ more⟩).bind Place.blanks1?) = none := by
  show (Place.word?.go keyword before (t ++ more)).bind Place.blanks1? = none
  induction keyword generalizing t before with
  | nil =>
    cases t with
    | nil => cases h
    | cons g t => exact Place.blanks1?_eq_none (by simpa [differs] using h) before _
  | cons c cs ih =>
    cases t with
    | nil => cases h
    | cons g t =>
      rw [differs, Bool.or_eq_true, Bool.not_eq_true'] at h
      rw [List.cons_append, Place.word?.go]
      split
      · next hg => exact ih (h.resolve_left (by rw [hg]; simp)) (some g)
      · rfl

theorem behindKeyword?_eq_none {g : Glyph} {t : Text}
    (h : g.isBlank = false ∨ (t.head?.any (!·.isBlank) = true ∧ differs keyword t = true))
    (more : Text) : behindKeyword? keyword (g :: t ++ more) = none := by
  by_cases hg : g.isBlank
  · obtain ⟨hhead, hdiff⟩ := h.resolve_left (by rw [hg]; simp)
    have hrest : ∀ g' ∈ (t ++ more).head?, g'.isBlank = false := by
      cases t with
      | nil => cases hhead
      | cons g' t => intro g'' hg''; cases hg''; simpa using hhead
    have hrun : ∀ g' ∈ [g], g'.isBlank = true := by simpa using hg
    have hspan := Place.span1?_append (by simp) hrun hrest none
    have hword := blanks1?_word?_of_differs hdiff (some g) more
    have hb : (Place.start (g :: t ++ more)).blanks1? = some ⟨some g, t ++ more⟩ := by
      rw [Place.blanks1?, Place.start, ← List.singleton_append, List.append_assoc, hspan]
      rfl
    rw [behindKeyword?, Option.bind_eq_bind, hb, Option.bind_some, ← Option.bind_assoc]
    simp only [hword, Option.bind_none]
  · exact behindKeyword?_of_not_blank (Bool.eq_false_iff.mpr hg) (t ++ more)

theorem uncut_of_isSolid {t : Text} (h : isSolid keyword t = true) (level : Level) :
    Uncut keyword level t := by
  induction t generalizing level with
  | nil => exact trivial
  | cons g t ih =>
    rw [isSolid, Bool.and_eq_true, Bool.or_eq_true, Bool.and_eq_true, Bool.not_eq_true'] at h
    refine ⟨fun more => ?_, ih h.2 _⟩
    rw [cutHere?]
    split
    · exact behindKeyword?_eq_none h.1 more
    · rfl

end Condition
end QueryDesk
