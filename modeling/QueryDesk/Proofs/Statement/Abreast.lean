import QueryDesk.Proofs.Statement.Alike

/-!
# Masks abreast

A clause is looked for in the masks of two texts that are alike.  The two searches stand at the
beginnings of the same pieces (`Masked`) and take one glyph after the other; a literal they pass
over, however long it is in either text, because no clause begins with a quote or with a low line
(`SkipsLiterals`).
-/

set_option autoImplicit false

namespace QueryDesk

/-! ## Recognisers that skip literals -/

namespace Literal

/-- Says that nothing is recognised at a quote or at masked content. -/
def SkipsLiterals {α : Type} (recognise : Place → Option α) : Prop :=
  ∀ before g t, isQuote g = true ∨ g = filler → recognise ⟨before, g :: t⟩ = none

section Skips

variable {α : Type} {recognise : Place → Option α}

theorem SkipsLiterals.avoids (hr : SkipsLiterals recognise) {t : Text}
    (h : ∀ g ∈ t, isQuote g = true ∨ g = filler) (before : Option Glyph) :
    Place.Avoids recognise before t := by
  induction t generalizing before with
  | nil => exact trivial
  | cons g t ih =>
    refine ⟨fun more => hr _ _ _ (h g List.mem_cons_self), ?_⟩
    exact ih (fun a ha => h a (List.mem_cons_of_mem g ha)) _

/-- A search passes over the masked content of a literal. -/
theorem SkipsLiterals.passes (hr : SkipsLiterals recognise) {q : Glyph} (hq : isQuote q = true)
    (n : Nat) (before : Option Glyph) (t : Text) :
    Place.Passes recognise ⟨before, List.replicate n filler ++ q :: t⟩ ⟨some q, t⟩ := by
  refine ⟨List.replicate n filler ++ [q], ?_, ?_, hr.avoids ?_ _⟩
  · rw [List.append_assoc]
    rfl
  · rw [Place.lastGlyph_append, Place.lastGlyph_cons, Place.lastGlyph_nil]
  · intro g hg
    rcases List.mem_append.mp hg with hg | hg
    · exact .inr (List.eq_of_mem_replicate hg)
    · exact .inl (List.mem_singleton.mp hg ▸ hq)

theorem SkipsLiterals.passes_opened (hr : SkipsLiterals recognise) (n : Nat)
    (before : Option Glyph) : Place.Passes recognise ⟨before, List.replicate n filler⟩
      ⟨Place.lastGlyph before (List.replicate n filler), []⟩ :=
  ⟨List.replicate n filler, (List.append_nil _).symm, rfl,
    hr.avoids (fun _ hg => .inr (List.eq_of_mem_replicate hg)) _⟩

/-- Neither a quote nor masked content agrees with a letter with which a clause begins. -/
theorem agrees_eq_false {c : Char} (hc : c ∈ ['w', 'o', 'l', 't', 's']) {g : Glyph}
    (hg : isQuote g = true ∨ g = filler) : g.agrees c = false := by
  have hagrees : ∀ d ∈ ['w', 'o', 'l', 't', 's'], ∀ a ∈ [Glyph.char '\'', .char '"', filler],
      a.agrees d = false := by decide
  refine hagrees c hc g ?_
  rcases hg with hg | rfl
  · rcases eq_of_isQuote hg with rfl | rfl <;> decide
  · decide

/-- A clause that begins with a letter begins neither with a quote nor with masked content. -/
theorem skipsLiterals_keyword {c : Char} (hc : c ∈ ['w', 'o', 'l', 't', 's']) (cs : List Char)
    (more : Place → Option α) : SkipsLiterals fun p => p.edge?.bind fun p =>
      (p.word? (c :: cs)).bind more :=
  fun before _ t hg => Place.keyword?_eq_none (agrees_eq_false hc hg) cs more before t

end Skips
end Literal

/-! ## Places of masks -/

namespace Statement

open Literal (mask)
open Place (lastGlyph)

variable {L : Likeness} {s s' : Text} {p p' : Place}

/-- Places of the masks of two texts between pieces, with alike texts in front and behind. -/
structure CutsMasks (L : Likeness) (s s' front front' t t' : Text) (p p' : Place) : Prop where
  left : s = front ++ t
  right : s' = front' ++ t'
  inFront : Alike L [] front front'
  ahead : Alike L front t t'
  /-- No literal is open in front, unless nothing follows. -/
  closed : t ≠ [] → Literal.behind none front = none
  leftRest : p.rest = mask t
  rightRest : p'.rest = mask t'
  before : t ≠ [] → p.before.any Glyph.isWord = (lastGlyph none front).any Glyph.isWord
  inWord : p.before.any Glyph.isWord = p'.before.any Glyph.isWord

/-- Says that two places stand between the same pieces of two texts. -/
def Masked (L : Likeness) (s s' : Text) (p p' : Place) : Prop :=
  ∃ front front' t t', CutsMasks L s s' front front' t t' p p'

/-- The places behind the next pieces. -/
theorem CutsMasks.step {front front' x x' t t' : Text}
    (h : CutsMasks L s s' front front' (x ++ t) (x' ++ t') p p') (hx : x ≠ [])
    (hxx : Alike L front x x') (ht : Alike L (front ++ x) t t')
    (hclosed : t ≠ [] → Literal.behind none x = none) {b b' : Option Glyph}
    (hb : t ≠ [] → b = lastGlyph none x) (hword : b.any Glyph.isWord = b'.any Glyph.isWord) :
    Masked L s s' ⟨b, mask t⟩ ⟨b', mask t'⟩ := by
  have hfront : Literal.behind none front = none :=
    h.closed fun hnil => hx (List.append_eq_nil_iff.mp hnil).1
  have hlast : lastGlyph none (front ++ x) = lastGlyph none x := by
    obtain ⟨g, y, rfl⟩ := List.exists_cons_of_ne_nil hx
    rw [Place.lastGlyph_append, Place.lastGlyph_cons, Place.lastGlyph_cons]
  refine ⟨front ++ x, front' ++ x', t, t', ⟨?_, ?_, ?_, ht, fun hne => ?_, rfl, rfl, fun hne => ?_,
    hword⟩⟩
  · rw [List.append_assoc, h.left]
  · rw [List.append_assoc, h.right]
  · exact h.inFront.append hfront hxx
  · rw [Literal.behind_append, hfront, hclosed hne]
  · rw [hlast, ← hb hne]

/-- The first places of masks. -/
theorem masked_start (h : Alike L [] s s') {b b' : Option Glyph}
    (hb : b.any Glyph.isWord = false) (hb' : b'.any Glyph.isWord = false) :
    Masked L s s' ⟨b, mask s⟩ ⟨b', mask s'⟩ :=
  ⟨[], [], s, s', rfl, rfl, .nil, h, fun _ => rfl, rfl, rfl, fun _ => hb, hb.trans hb'.symm⟩

/-- **Masks of texts that are alike are read abreast.** -/
theorem masked_abreast (L : Likeness) (s s' : Text) : Place.Abreast L.glyph (Masked L s s') where
  sameLetter := L.sameLetter
  inWord := fun ⟨_, _, _, _, h⟩ => h.inWord
  inStep := by
    rintro p p' ⟨front, front', t, t', h⟩
    rw [h.leftRest, h.rightRest]
    cases h.ahead with
    | nil => exact .nil
    | @glyph _ g g' t t' hg hgg ht =>
      have hg' : Literal.isQuote g' = false := (L.sameLetter hgg).isQuote_eq ▸ hg
      rw [Literal.mask_cons_of_not_isQuote hg, Literal.mask_cons_of_not_isQuote hg']
      have hone : CutsMasks L s s' front front' ([g] ++ t) ([g'] ++ t') p p' := h
      refine .cons hgg fun _ => ?_
      exact hone.step (List.cons_ne_nil _ _) (.glyph hg hgg .nil) ht
        (fun _ => Literal.after_of_not_isQuote hg) (fun _ => rfl) (L.sameLetter hgg).isWord_eq
    | literal hq hc hc' hcc ht =>
      rw [Literal.mask_literal hq hc, Literal.mask_literal hq hc']
      exact .cons (L.glyph_refl _) fun hnot => absurd hq (by rw [hnot]; exact Bool.false_ne_true)
    | opened hq hc =>
      rw [Literal.mask_opened hq hc]
      exact .cons (L.glyph_refl _) fun hnot => absurd hq (by rw [hnot]; exact Bool.false_ne_true)

/-- **A search for a clause gets over literals in both masks.** -/
theorem masked_searchable {α : Type} {recognise : Place → Option α}
    (hr : Literal.SkipsLiterals recognise) (L : Likeness) (s s' : Text) :
    Place.Searchable recognise L.glyph (Masked L s s') where
  toAbreast := masked_abreast L s s'
  behindQuote := by
    rintro before before' q q' u u' ⟨front, front', t, t', h⟩ hquote
    have hleft : q :: u = mask t := h.leftRest
    have hright : q' :: u' = mask t' := h.rightRest
    cases h.ahead with
    | nil => cases hleft
    | @glyph _ g g' t t' hg hgg ht =>
      rw [Literal.mask_cons_of_not_isQuote hg, List.cons.injEq] at hleft
      rw [hleft.1, hg] at hquote
      cases hquote
    | @literal _ r c c' t t' hq hc hc' hcc ht =>
      rw [Literal.mask_literal hq hc, List.cons.injEq] at hleft
      rw [Literal.mask_literal hq hc', List.cons.injEq] at hright
      obtain ⟨rfl, rfl⟩ := hleft
      obtain ⟨rfl, rfl⟩ := hright
      refine ⟨⟨some q', mask t⟩, ⟨some q', mask t'⟩, hr.passes hq _ _ _, hr.passes hq _ _ _, ?_⟩
      have hassoc : ∀ d v : Text, q' :: (d ++ q' :: v) = (q' :: (d ++ [q'])) ++ v := by simp
      rw [hassoc c t, hassoc c' t'] at h
      refine h.step (List.cons_ne_nil _ _) (.literal hq hc hc' hcc .nil) ht (fun _ => ?_)
        (fun _ => ?_) rfl
      · exact Literal.behind_literal hq hc []
      · simp only [Place.lastGlyph_cons, Place.lastGlyph_append, Place.lastGlyph_nil]
    | @opened _ r c hq hc =>
      rw [Literal.mask_opened hq hc, List.cons.injEq] at hleft hright
      obtain ⟨rfl, rfl⟩ := hleft
      obtain ⟨rfl, rfl⟩ := hright
      refine ⟨_, _, hr.passes_opened _ _, hr.passes_opened _ _, ?_⟩
      rw [← List.append_nil (q' :: c)] at h
      have hnil : Alike L (front ++ q' :: c) [] [] := .nil
      exact h.step (List.cons_ne_nil _ _) (.opened hq hc) hnil
        (fun hne => absurd rfl hne) (fun hne => absurd rfl hne) rfl

end Statement
end QueryDesk
