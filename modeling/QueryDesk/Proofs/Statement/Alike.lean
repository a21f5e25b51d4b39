import QueryDesk.Proofs.Condition.Depth
import QueryDesk.Proofs.Text.Abreast
import QueryDesk.Proofs.Text.Trim

/-!
# Statements that are alike

A text is made of glyphs outside literals, of literals, and possibly of a last literal without an
end (`Literal.pieces_induction`).  Two texts are *alike* (`Alike`) when they are made of the same
pieces, up to what a `Likeness` allows: which glyphs outside literals may stand for each other, at
most the same letter in either case, and which contents of literals may, however long they are.
What content is allowed may hang on the text in front of the literal.

Masked texts are made of the masks of their pieces (`mask_literal`), so masking again changes
nothing (`mask_mask`).
-/

set_option autoImplicit false

namespace QueryDesk
namespace Literal

variable {q g : Glyph} {c t : Text}

/-! ## Pieces -/

/-- **Every text is made of glyphs outside literals, of literals and of an open one at the end.** -/
@[elab_as_elim]
theorem pieces_induction {motive : Text → Prop} (nil : motive [])
    (glyph : ∀ g t, isQuote g = false → motive t → motive (g :: t))
    (literal : ∀ q c t, isQuote q = true → q ∉ c → motive t → motive (q :: (c ++ q :: t)))
    (opened : ∀ q c, isQuote q = true → q ∉ c → motive (q :: c)) (t : Text) : motive t := by
  induction hlen : t.length using Nat.strongRecOn generalizing t with
  | _ n ih =>
    cases t with
    | nil => exact nil
    | cons g t =>
      subst hlen
      cases hg : isQuote g with
      | false => exact glyph g t hg (ih _ (Nat.lt_succ_self _) t rfl)
      | true =>
        by_cases hmem : g ∈ t
        · obtain ⟨c, u, rfl, hc⟩ := List.eq_append_cons_of_mem hmem
          refine literal g c u hg hc (ih _ ?_ u rfl)
          simp only [List.length_cons, List.length_append]
          omega
        · exact opened g t hg hmem

theorem after_of_not_isQuote (h : isQuote g = false) : after none g = none := by
  rw [after, if_neg (by rw [h]; exact Bool.false_ne_true)]

theorem behind_append (opened : Option Glyph) (t u : Text) :
    behind opened (t ++ u) = behind (behind opened t) u := List.foldl_append

theorem behind_cons_of_not_isQuote (h : isQuote g = false) (t : Text) :
    behind none (g :: t) = behind none t := by
  show behind (after none g) t = _
  rw [after_of_not_isQuote h]

theorem behind_content (hc : q ∉ c) : behind (some q) c = some q := by
  induction c with
  | nil => rfl
  | cons g c ih =>
    rw [List.mem_cons, not_or] at hc
    show behind (after (some q) g) c = _
    rw [after, if_neg (Ne.symm hc.1), ih hc.2]

/-- A literal without an end is open behind its content. -/
theorem behind_opened (hq : isQuote q = true) (hc : q ∉ c) : behind none (q :: c) = some q := by
  show behind (after none q) c = _
  rw [after, if_pos hq, behind_content hc]

theorem behind_literal (hq : isQuote q = true) (hc : q ∉ c) (t : Text) :
    behind none (q :: (c ++ q :: t)) = behind none t := by
  rw [← List.cons_append, behind_append, behind_opened hq hc]
  show behind (after (some q) q) t = _
  rw [after, if_pos rfl]

/-! ## Masks of pieces -/

theorem mask_cons_of_not_isQuote (h : isQuote g = false) (t : Text) :
    mask (g :: t) = g :: mask t := by
  show g :: maskFrom (after none g) t = _
  rw [after_of_not_isQuote h, mask]

theorem mask_cons_of_isQuote (hq : isQuote q = true) (t : Text) :
    mask (q :: t) = q :: maskFrom (some q) t := by
  show q :: maskFrom (after none q) t = _
  rw [after, if_pos hq]

theorem mask_literal (hq : isQuote q = true) (hc : q ∉ c) (t : Text) :
    mask (q :: (c ++ q :: t)) = q :: (List.replicate c.length filler ++ q :: mask t) := by
  rw [mask_cons_of_isQuote hq, maskFrom_content hc, mask]

theorem maskFrom_of_not_mem (hc : q ∉ c) :
    maskFrom (some q) c = List.replicate c.length filler := by
  induction c with
  | nil => rfl
  | cons g c ih =>
    rw [List.mem_cons, not_or] at hc
    have hcontent : isContent (some q) g = true := decide_eq_true (Ne.symm hc.1)
    rw [maskFrom, if_pos hcontent, after, if_neg (Ne.symm hc.1), ih hc.2]
    rfl

theorem mask_opened (hq : isQuote q = true) (hc : q ∉ c) :
    mask (q :: c) = q :: List.replicate c.length filler := by
  rw [mask_cons_of_isQuote hq, maskFrom_of_not_mem hc]

/-- No quote is a low line, so the masked content of a literal does not end it. -/
theorem not_mem_replicate_filler (hq : isQuote q = true) (n : Nat) :
    q ∉ List.replicate n filler := by
  intro hmem
  rw [List.eq_of_mem_replicate hmem] at hq
  cases hq

/-- **Masking a masked text changes nothing.** -/
theorem mask_mask (t : Text) : mask (mask t) = mask t := by
  induction t using pieces_induction with
  | nil => rfl
  | glyph g t hg ih => rw [mask_cons_of_not_isQuote hg, mask_cons_of_not_isQuote hg, ih]
  | literal q c t hq hc ih =>
    rw [mask_literal hq hc, mask_literal hq (not_mem_replicate_filler hq _), ih,
      List.length_replicate]
  | opened q c hq hc =>
    rw [mask_opened hq hc, mask_opened hq (not_mem_replicate_filler hq _), List.length_replicate]

/-- Outside the content of literals a glyph stays, quotes included, and content is masked. -/
theorem getElem?_mask (t : Text) (g : Glyph) (u : Text) :
    (mask (t ++ g :: u))[t.length]? =
      some (if isContent (behind none t) g then filler else g) := by
  rw [mask, maskFrom_append, List.getElem?_append_right (by rw [length_maskFrom]),
    length_maskFrom, Nat.sub_self, maskFrom]
  rfl

end Literal

/-! ## Likeness -/

/-- What texts that are alike may differ in. -/
structure Likeness where
  /-- Says that outside literals a glyph may stand for another. -/
  glyph : Glyph → Glyph → Prop
  /-- Says that behind a text a literal in such quotes may have one content or the other. -/
  content : (before : Text) → (quote : Glyph) → Text → Text → Prop
  glyph_refl : ∀ g, glyph g g
  content_refl : ∀ before quote c, content before quote c c
  sameLetter : ∀ {g g'}, glyph g g' → g.SameLetter g'
  /-- What is in front of the last glyph that belongs to no word does not count. -/
  content_of_append : ∀ {front before quote c c'},
    (Place.lastGlyph none front).any Glyph.isWord = false →
      content (front ++ before) quote c c' → content before quote c c'

/-- Says that two texts behind a given one are alike: made of the same pieces, but for glyphs
outside literals and contents of literals that may stand for each other. -/
inductive Alike (L : Likeness) : (before : Text) → Text → Text → Prop
  | nil {before : Text} : Alike L before [] []
  | glyph {before : Text} {g g' : Glyph} {t t' : Text} (hg : Literal.isQuote g = false)
      (hgg : L.glyph g g') (ht : Alike L (before ++ [g]) t t') : Alike L before (g :: t) (g' :: t')
  | literal {before : Text} {q : Glyph} {c c' t t' : Text} (hq : Literal.isQuote q = true)
      (hc : q ∉ c) (hc' : q ∉ c') (hcc : L.content before q c c')
      (ht : Alike L (before ++ q :: (c ++ [q])) t t') :
      Alike L before (q :: (c ++ q :: t)) (q :: (c' ++ q :: t'))
  | opened {before : Text} {q : Glyph} {c : Text} (hq : Literal.isQuote q = true) (hc : q ∉ c) :
      Alike L before (q :: c) (q :: c)

namespace Alike

variable {L : Likeness} {before t t' u u' : Text}

theorem refl (L : Likeness) (before t : Text) : Alike L before t t := by
  induction t using Literal.pieces_induction generalizing before with
  | nil => exact .nil
  | glyph g t hg ih => exact .glyph hg (L.glyph_refl g) (ih _)
  | literal q c t hq hc ih => exact .literal hq hc hc (L.content_refl _ _ _) (ih _)
  | opened q c hq hc => exact .opened hq hc

/-- Texts that are alike may be put in front of others, if they leave no literal open. -/
theorem append (h : Alike L before t t') (ht : Literal.behind none t = none)
    (hu : Alike L (before ++ t) u u') : Alike L before (t ++ u) (t' ++ u') := by
  induction h with
  | nil => rwa [List.append_nil] at hu
  | glyph hg hgg _ ih =>
    rw [Literal.behind_cons_of_not_isQuote hg] at ht
    exact .glyph hg hgg (ih ht (by rwa [List.append_assoc]))
  | @literal before q c c' t t' hq hc hc' hcc _ ih =>
    rw [Literal.behind_literal hq hc] at ht
    have hu' : Alike L (before ++ q :: (c ++ [q]) ++ t) u u' := by
      simpa using hu
    have hall := Alike.literal hq hc hc' hcc (ih ht hu')
    simpa using hall
  | opened hq hc =>
    rw [Literal.behind_opened hq hc] at ht
    cases ht

/-- What stands in front of the last glyph that belongs to no word does not count. -/
theorem of_append {front : Text} (h : Alike L (front ++ before) t t')
    (hfront : (Place.lastGlyph none front).any Glyph.isWord = false) : Alike L before t t' := by
  generalize hall : front ++ before = whole at h
  induction h generalizing before with
  | nil => exact .nil
  | glyph hg hgg _ ih => exact .glyph hg hgg (ih (by rw [← List.append_assoc, hall]))
  | literal hq hc hc' hcc _ ih =>
    subst hall
    exact .literal hq hc hc' (L.content_of_append hfront hcc) (ih (by rw [← List.append_assoc]))
  | opened hq hc => exact .opened hq hc

theorem of_before (h : Alike L before t t')
    (hbefore : (Place.lastGlyph none before).any Glyph.isWord = false) : Alike L [] t t' :=
  have hnil : Alike L (before ++ []) t t' := by rwa [List.append_nil]
  hnil.of_append hbefore

theorem isEmpty_eq (h : Alike L before t t') : t.isEmpty = t'.isEmpty := by
  cases h <;> rfl

/-! ## Trimming -/

section Drop

variable {test : Glyph → Bool}

theorem dropWhile (htest : ∀ g g' : Glyph, g.SameLetter g' → test g = test g')
    (hquote : ∀ g, test g = true → Literal.isQuote g = false)
    (hword : ∀ g, test g = true → g.isWord = false) (h : Alike L before t t')
    (hbefore : (Place.lastGlyph none before).any Glyph.isWord = false) :
    Alike L [] (t.dropWhile test) (t'.dropWhile test) := by
  have hstop : ∀ {q : Glyph}, Literal.isQuote q = true → ¬ test q = true := by
    intro q hq hpass
    rw [hquote q hpass] at hq
    cases hq
  induction h with
  | nil => exact .nil
  | @glyph before g g' t t' hg hgg ht ih =>
    have hsame := htest g g' (L.sameLetter hgg)
    by_cases hpass : test g = true
    · have hlast : (Place.lastGlyph none (before ++ [g])).any Glyph.isWord = false := by
        rw [Place.lastGlyph_append, Place.lastGlyph_cons, Place.lastGlyph_nil, Option.any_some,
          hword g hpass]
      rw [List.dropWhile_cons_of_pos hpass, List.dropWhile_cons_of_pos (hsame ▸ hpass)]
      exact ih hlast
    · rw [List.dropWhile_cons_of_neg hpass, List.dropWhile_cons_of_neg (hsame ▸ hpass)]
      exact of_before (.glyph hg hgg ht) hbefore
  | literal hq hc hc' hcc ht ih =>
    rw [List.dropWhile_cons_of_neg (hstop hq), List.dropWhile_cons_of_neg (hstop hq)]
    exact of_before (.literal hq hc hc' hcc ht) hbefore
  | opened hq hc =>
    rw [List.dropWhile_cons_of_neg (hstop hq)]
    exact refl L _ _

theorem dropEndWhile (htest : ∀ g g' : Glyph, g.SameLetter g' → test g = test g')
    (hquote : ∀ g, test g = true → Literal.isQuote g = false) (h : Alike L before t t') :
    Alike L before (Text.dropEndWhile test t) (Text.dropEndWhile test t') := by
  induction h with
  | nil => exact .nil
  | @glyph before g g' t t' hg hgg ht ih =>
    rw [Text.dropEndWhile_cons, Text.dropEndWhile_cons, ih.isEmpty_eq,
      htest g g' (L.sameLetter hgg)]
    split
    · exact .nil
    · exact .glyph hg hgg ih
  | @literal before q c c' t t' hq hc hc' hcc ht ih =>
    have hstop : test q = false := by
      rw [← Bool.not_eq_true]
      intro hpass
      rw [hquote q hpass] at hq
      cases hq
    rw [← List.cons_append, ← List.cons_append, Text.dropEndWhile_append_cons hstop,
      Text.dropEndWhile_append_cons hstop]
    exact .literal hq hc hc' hcc ih
  | opened hq hc => exact refl L _ _

end Drop

/-- Trimming takes the same blanks off texts that are alike. -/
theorem trim (h : Alike L [] t t') : Alike L [] t.trim t'.trim := by
  refine dropEndWhile (fun _ _ hg => hg.isBlank_eq) (fun _ => Literal.isQuote_of_isBlank) ?_
  exact dropWhile (fun _ _ hg => hg.isBlank_eq) (fun _ => Literal.isQuote_of_isBlank)
    (fun _ => Glyph.isWord_of_isBlank) h rfl

end Alike
end QueryDesk
