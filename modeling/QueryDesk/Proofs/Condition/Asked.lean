import QueryDesk.Proofs.Condition.Alike

/-!
# Which literals a condition reads

A condition reads the content of a literal in two ways.  It asks for it, when the literal stands
behind the column of an equality and an equals sign (`AsksForLiteral`); and it comes upon it, since
the forms of terms are looked for at every place of a term, literals included.  Content at no place
of which a form begins is `Idle`: the search for the forms passes over it.

A `Likeness` is *quiet* (`Likeness.IsQuiet`) when contents may differ only if both are idle and the
text in front does not ask for the literal.  What lies in front of the last glyph that belongs to no
word does not matter for that (`asksForLiteral_append`).
-/

set_option autoImplicit false

namespace QueryDesk

namespace Place

variable {α : Type}

theorem InStep.imp {G : Glyph → Glyph → Prop} {R S : Place → Place → Prop} {t t' : Text}
    (h : InStep G R t t') (hRS : ∀ p p', R p p' → S p p') : InStep G S t t' := by
  cases h with
  | nil => exact .nil
  | cons hg hstep => exact .cons hg fun hquote => hRS _ _ (hstep hquote)

/-- What is found from a later place on is found from an earlier one on. -/
theorem isSome_firstMatch_append {recognise : Place → Option α} {before : Option Glyph}
    {t u : Text} (h : (firstMatch recognise ⟨lastGlyph before t, u⟩).isSome = true) :
    (firstMatch recognise ⟨before, t ++ u⟩).isSome = true := by
  induction t generalizing before with
  | nil => exact h
  | cons g t ih =>
    rw [List.cons_append, firstMatch_cons, Option.isSome_or, Bool.or_eq_true]
    exact .inr (ih (by rwa [lastGlyph_cons] at h))

/-- Says that two places have the same text ahead, and that a word goes on at both or at neither. -/
def SameAhead (p p' : Place) : Prop :=
  p.rest = p'.rest ∧ p.before.any Glyph.isWord = p'.before.any Glyph.isWord

theorem sameAhead_searchable (recognise : Place → Option α) :
    Searchable recognise (· = ·) SameAhead where
  sameLetter h := h ▸ .refl _
  inWord h := h.2
  inStep := by
    rintro ⟨b, t⟩ ⟨b', t'⟩ ⟨hrest, -⟩
    dsimp only at hrest ⊢
    subst hrest
    cases t with
    | nil => exact .nil
    | cons g t => exact .cons rfl fun _ => ⟨rfl, rfl⟩
  behindQuote h _ := .of_rel (by cases h.1; exact ⟨rfl, rfl⟩)

/-- Says that two places have the same text ahead up to a quote, behind which the second text
ends. -/
def SameUpTo (q : Glyph) (more : Text) (p p' : Place) : Prop :=
  p.before.any Glyph.isWord = p'.before.any Glyph.isWord ∧
    ∃ t, p.rest = t ++ q :: more ∧ p'.rest = t ++ [q]

theorem sameUpTo_abreast {q : Glyph} (hq : Literal.isQuote q = true) (more : Text) :
    Abreast (· = ·) (SameUpTo q more) where
  sameLetter h := h ▸ .refl _
  inWord h := h.1
  inStep := by
    rintro ⟨b, u⟩ ⟨b', u'⟩ ⟨-, t, hrest, hrest'⟩
    dsimp only at hrest hrest' ⊢
    subst hrest hrest'
    cases t with
    | nil => exact .cons rfl fun hnot => absurd hq (by rw [hnot]; exact Bool.false_ne_true)
    | cons g t => exact .cons rfl fun _ => ⟨rfl, t, rfl, rfl⟩

end Place

namespace Condition

open Place (lastGlyph)

/-! ## Literals that are asked for -/

/-- Recognises the column of an equality and the equals sign behind it. -/
def equalityHead? (p : Place) : Option (Text × Place) := do
  let p ← p.edge?
  let (name, p) ← p.oneOf? equalityColumns
  let p ← p.blanks.sign? ['=']
  some (name, p.blanks)

/-- Recognises what asks for a literal right in front of the quote that ends a text. -/
def asking? (q : Glyph) (p : Place) : Option (Text × Place) :=
  (equalityHead? p).filter fun found => found.2.rest == [q]

/-- Says that a text asks for the literal that the quote behind it begins. -/
def AsksForLiteral (front : Text) (q : Glyph) : Prop :=
  ((Place.start (front ++ [q])).firstMatch (asking? q)).isSome = true

instance (front : Text) (q : Glyph) : Decidable (AsksForLiteral front q) :=
  inferInstanceAs (Decidable (_ = true))

theorem equalityHead?_rel {G : Glyph → Glyph → Prop} {R : Place → Place → Prop} {p p' : Place}
    (hR : Place.Agreeing G R) (h : R p p') :
    Option.Rel (fun f f' => List.Forall₂ G f.1 f'.1 ∧ R f.2 f'.2) (equalityHead? p)
      (equalityHead? p') := by
  refine rel_bind (hR.edge? h) fun a a' ha => ?_
  refine rel_bind (hR.oneOf? (by decide) ha) fun f f' hf => ?_
  obtain ⟨name, b⟩ := f
  obtain ⟨name', b'⟩ := f'
  refine rel_bind (hR.sign? (by decide) (hR.blanks hf.2)) fun c c' hc => ?_
  exact .some ⟨hf.1, hR.blanks hc⟩

theorem suffix_of_equalityHead? {p q : Place} {name : Text}
    (h : equalityHead? p = some (name, q)) : q.rest <:+ p.rest := by
  simp only [equalityHead?, Option.bind_eq_bind, Option.bind_eq_some_iff, Option.some.injEq,
    Prod.mk.injEq] at h
  obtain ⟨a, ha, ⟨name', b⟩, hb, c, hc, -, rfl⟩ := h
  obtain ⟨g, hg, -⟩ := Place.exists_of_sign? hc
  have hsign : c.rest <:+ b.blanks.rest := ⟨[g], hg.symm⟩
  have hcolumn := (Place.suffix_of_oneOf? hb).trans (Place.suffix_of_edge? ha)
  exact (Place.suffix_of_blanks c).trans (hsign.trans ((Place.suffix_of_blanks b).trans hcolumn))

theorem needs_of_equalityHead? {p q : Place} {name : Text}
    (h : equalityHead? p = some (name, q)) : .char '=' ∈ p.rest := by
  simp only [equalityHead?, Option.bind_eq_bind, Option.bind_eq_some_iff, Option.some.injEq] at h
  obtain ⟨a, ha, ⟨name', b⟩, hb, c, hc, -⟩ := h
  obtain ⟨g, hg, hsign⟩ := Place.exists_of_sign? hc
  have hequals : g = .char '=' := by
    cases g <;> simp_all [Glyph.isOneOf]
  refine (Place.suffix_of_edge? ha).mem ((Place.suffix_of_oneOf? hb).mem ?_)
  refine (Place.suffix_of_blanks b).mem ?_
  rw [hg, hequals]
  exact List.mem_cons_self

/-- The column of an equality, found anywhere in front of a quote, asks for the literal. -/
theorem asksForLiteral_of_equalityHead? {front name more : Text} {q : Glyph} {p r : Place}
    {x : Text} (hq : Literal.isQuote q = true) (hp : front ++ q :: more = x ++ p.rest)
    (hword : p.before.any Glyph.isWord = (lastGlyph none x).any Glyph.isWord)
    (h : equalityHead? p = some (name, r)) (hr : r.rest = q :: more) :
    AsksForLiteral front q := by
  obtain ⟨y, hy⟩ := suffix_of_equalityHead? h
  rw [hr] at hy
  have hfront : front = x ++ y := by
    rw [← hy, ← List.append_assoc] at hp
    exact List.append_cancel_right hp
  have hstart : Place.SameUpTo q more p ⟨lastGlyph none x, y ++ [q]⟩ := ⟨hword, y, hy.symm, rfl⟩
  have hhead := equalityHead?_rel (Place.sameUpTo_abreast hq more).agreeing hstart
  obtain ⟨hnone, -⟩ | ⟨head, found, hhead, hfound, -, -, z, hz, hz'⟩ := rel_cases hhead
  · rw [h] at hnone
    cases hnone
  · cases h.symm.trans hhead
    have hnil : z = [] := by
      have hlength := congrArg List.length (hr.symm.trans hz)
      rw [List.length_append] at hlength
      exact List.length_eq_zero_iff.mp (by omega)
    have hasks : asking? q ⟨lastGlyph none x, y ++ [q]⟩ = some found := by
      rw [asking?, hfound, Option.filter_some, if_pos]
      rw [hz', hnil]
      exact beq_self_eq_true _
    rw [AsksForLiteral, hfront, List.append_assoc]
    refine Place.isSome_firstMatch_append ?_
    rw [Place.firstMatch_of_match hasks]
    rfl

/-- What asks for a literal does so behind any text that ends in no word. -/
theorem asksForLiteral_append {front before : Text} {q : Glyph}
    (hfront : (lastGlyph none front).any Glyph.isWord = false) (h : AsksForLiteral before q) :
    AsksForLiteral (front ++ before) q := by
  have hstart : Place.SameAhead (.start (before ++ [q])) ⟨lastGlyph none front, before ++ [q]⟩ :=
    ⟨rfl, hfront.symm⟩
  have hrel := Place.firstMatch_rel (V := fun _ _ => True)
    (fun _ _ => (Place.sameAhead_searchable (asking? q)).onward) (fun p p' hp => ?_)
    (.of_rel hstart)
  · rw [AsksForLiteral, List.append_assoc]
    refine Place.isSome_firstMatch_append ?_
    rw [← isSome_eq_of_rel hrel]
    exact h
  · have hhead := equalityHead?_rel (Place.sameAhead_searchable (asking? q)).agreeing hp
    exact rel_mono (rel_filter hhead fun f f' hf => by rw [hf.2.1]) fun _ _ _ => trivial

/-! ## Idle literals -/

/-- Says that no form of a term begins in the content of a literal. -/
structure Idle (q : Glyph) (content : Text) : Prop where
  equality : Place.Avoids equality? (some q) (content ++ [q])
  beforeNow : Place.Avoids beforeNow? (some q) (content ++ [q])
  lowStock : Place.Avoids lowStock? (some q) (content ++ [q])
  lastQuarter : Place.Avoids lastQuarter? (some q) (content ++ [q])

end Condition

/-- Says that contents of literals may differ only where conditions do not read them. -/
def Likeness.IsQuiet (L : Likeness) : Prop :=
  ∀ {front : Text} {q : Glyph} {c c' : Text}, L.content front q c c' →
    c = c' ∨ (Condition.Idle q c ∧ Condition.Idle q c' ∧ ¬ Condition.AsksForLiteral front q)

end QueryDesk
