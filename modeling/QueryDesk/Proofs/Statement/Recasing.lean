import QueryDesk.Proofs.Statement.Clauses
import QueryDesk.Table.Execute

/-!
# Statements in other cases

Two statements differ in case only (`Literal.lowered`) when they are one in lower case, content of
literals left aside.  Such statements are alike, so they name the same table, have clauses in the
same places and the same row limit, and ask for predicates and a sort order of the same form.

A plan keeps some texts as the statement spells them (`spelled`): the columns that the table of
columns does not know, and the values of equalities, which an equality that begins in a literal
takes from outside.  Where these are spelled alike the plans are equal (`predicates_eq_of_spelled`,
`sort?_eq_of_spelled`).
-/

set_option autoImplicit false

namespace QueryDesk

/-! ## Lower case outside literals -/

namespace Literal

/-- The text with its ASCII letters in lower case, except in literals, given the literal that is
open before it. -/
def loweredFrom (opened : Option Glyph) : Text → Text
  | [] => []
  | g :: rest =>
    (if opened.isNone then g.asciiLower else g) :: loweredFrom (after opened g) rest

/-- The statement with its ASCII letters in lower case, except in literals. -/
def lowered (t : Text) : Text := loweredFrom none t

variable {q : Glyph} {c t t' u : Text}

theorem asciiLower_of_isQuote (hq : isQuote q = true) : q.asciiLower = q := by
  rcases eq_of_isQuote hq with rfl | rfl <;> rfl

/-- The same letter as a quote is the quote. -/
theorem eq_of_asciiLower_eq_quote {g : Glyph} (hq : isQuote q = true) (h : g.asciiLower = q) :
    g = q := by
  have hsame : g.SameLetter q := h.trans (asciiLower_of_isQuote hq).symm
  rcases hsame.eq_or_isAsciiLetter with rfl | ⟨-, hletter⟩
  · rfl
  · rcases eq_of_isQuote hq with rfl | rfl <;> cases hletter

theorem lowered_cons_of_not_isQuote {g : Glyph} (hg : isQuote g = false) (t : Text) :
    lowered (g :: t) = g.asciiLower :: lowered t := by
  show g.asciiLower :: loweredFrom (after none g) t = _
  rw [after_of_not_isQuote hg, lowered]

theorem lowered_cons_of_isQuote (hq : isQuote q = true) (t : Text) :
    lowered (q :: t) = q :: loweredFrom (some q) t := by
  show q.asciiLower :: loweredFrom (after none q) t = _
  rw [asciiLower_of_isQuote hq, after, if_pos hq]

theorem loweredFrom_content (hc : q ∉ c) (t : Text) :
    loweredFrom (some q) (c ++ q :: t) = c ++ q :: lowered t := by
  induction c with
  | nil => rw [List.nil_append, loweredFrom, after, if_pos rfl]; rfl
  | cons g c ih =>
    rw [List.mem_cons, not_or] at hc
    rw [List.cons_append, loweredFrom, after, if_neg (Ne.symm hc.1), ih hc.2]
    rfl

theorem loweredFrom_of_not_mem (hc : q ∉ c) : loweredFrom (some q) c = c := by
  induction c with
  | nil => rfl
  | cons g c ih =>
    rw [List.mem_cons, not_or] at hc
    rw [loweredFrom, after, if_neg (Ne.symm hc.1), ih hc.2]
    rfl

/-- In a literal the same text in lower case is the same text, up to the quote that ends it. -/
theorem eq_of_loweredFrom_eq (hc : q ∉ c) (h : loweredFrom (some q) t = c ++ q :: u) :
    ∃ t', t = c ++ q :: t' ∧ lowered t' = u := by
  induction c generalizing t with
  | nil =>
    cases t with
    | nil => cases h
    | cons g t =>
      obtain ⟨hg, ht⟩ := List.cons.inj h
      obtain rfl : g = q := hg
      rw [after, if_pos rfl] at ht
      exact ⟨t, rfl, ht⟩
  | cons a c ih =>
    rw [List.mem_cons, not_or] at hc
    cases t with
    | nil => cases h
    | cons g t =>
      obtain ⟨hg, ht⟩ := List.cons.inj h
      obtain rfl : g = a := hg
      rw [after, if_neg (Ne.symm hc.1)] at ht
      obtain ⟨t', rfl, ht'⟩ := ih hc.2 ht
      exact ⟨t', rfl, ht'⟩

theorem eq_of_loweredFrom_eq_of_not_mem (hc : q ∉ c) (h : loweredFrom (some q) t = c) :
    t = c := by
  induction c generalizing t with
  | nil =>
    cases t with
    | nil => rfl
    | cons g t => cases h
  | cons a c ih =>
    rw [List.mem_cons, not_or] at hc
    cases t with
    | nil => cases h
    | cons g t =>
      obtain ⟨hg, ht⟩ := List.cons.inj h
      obtain rfl : g = a := hg
      rw [after, if_neg (Ne.symm hc.1)] at ht
      rw [ih hc.2 ht]

end Literal

/-- The same letters outside literals, and the same content. -/
def Likeness.recasing : Likeness where
  glyph := Glyph.SameLetter
  content _ _ c c' := c = c'
  glyph_refl := .refl
  content_refl _ _ _ := rfl
  sameLetter h := h
  content_of_append _ hcontent := hcontent

theorem Likeness.isQuiet_recasing : Likeness.recasing.IsQuiet := fun hcontent => .inl hcontent

/-- **Statements that differ in case only are alike.** -/
theorem Alike.of_lowered_eq {before t t' : Text} (h : Literal.lowered t = Literal.lowered t') :
    Alike .recasing before t t' := by
  -- The pieces are those of the first text: that the second has the same is what is to be shown.
  induction t using Literal.pieces_induction generalizing before t' with
  | nil =>
    cases t' with
    | nil => exact .nil
    | cons g t' => cases h
  | glyph g t hg ih =>
    rw [Literal.lowered_cons_of_not_isQuote hg] at h
    cases t' with
    | nil => cases h
    | cons g' t' =>
      obtain ⟨hglyph, htail⟩ := List.cons.inj h
      have hsame : g.SameLetter g' := hglyph
      have hg' : Literal.isQuote g' = false := hsame.isQuote_eq ▸ hg
      rw [Literal.after_of_not_isQuote hg'] at htail
      exact .glyph hg hsame (ih htail)
  | literal q c t hq hc ih =>
    rw [Literal.lowered_cons_of_isQuote hq, Literal.loweredFrom_content hc] at h
    cases t' with
    | nil => cases h
    | cons g' t' =>
      obtain ⟨hglyph, htail⟩ := List.cons.inj h
      obtain rfl := Literal.eq_of_asciiLower_eq_quote hq hglyph.symm
      rw [Literal.after, if_pos hq] at htail
      obtain ⟨u, rfl, hu⟩ := Literal.eq_of_loweredFrom_eq hc htail.symm
      exact .literal hq hc hc rfl (ih hu.symm)
  | opened q c hq hc =>
    rw [Literal.lowered_cons_of_isQuote hq, Literal.loweredFrom_of_not_mem hc] at h
    cases t' with
    | nil => cases h
    | cons g' t' =>
      obtain ⟨hglyph, htail⟩ := List.cons.inj h
      obtain rfl := Literal.eq_of_asciiLower_eq_quote hq hglyph.symm
      rw [Literal.after, if_pos hq] at htail
      rw [Literal.eq_of_loweredFrom_eq_of_not_mem hc htail.symm]
      exact .opened hq hc

theorem Alike.forall₂_sameLetter {before t t' : Text} (h : Alike .recasing before t t') :
    List.Forall₂ Glyph.SameLetter t t' := by
  have hrefl : ∀ u : Text, List.Forall₂ Glyph.SameLetter u u :=
    fun u => List.forall₂_same.mpr fun g _ => .refl g
  induction h with
  | nil => exact .nil
  | glyph _ hgg _ ih => exact .cons hgg ih
  | literal _ _ _ hcc _ ih =>
    obtain rfl : _ = _ := hcc
    exact .cons (.refl _) (List.rel_append (hrefl _) (.cons (.refl _) ih))
  | opened => exact hrefl _

namespace Statement

variable {s s' : Text}

/-- Statements that differ in case only are to be run on the same table. -/
theorem target_eq_of_alike (h : Alike .recasing [] s s') : target s = target s' := by
  have hwhole := (Text.lower_eq_and_upper_eq h.forall₂_sameLetter).1
  have htrimmed := (Text.lower_eq_and_upper_eq h.trim.forall₂_sameLetter).1
  rw [target, target, isSelect, isSelect, table, table, hwhole, htrimmed]

/-! ## What a plan keeps as it is spelled -/

end Statement

/-- The texts of a predicate that are spelled in a statement. -/
def Predicate.spelled : Predicate → List Text
  | equals field (.text value) => [field, value]
  | beforeNow field => [field]
  | _ => []

namespace Statement

variable {s s' : Text}

/-- The texts of a plan that are spelled in the statement. -/
def spelled (statement : Text) : List Text :=
  (predicates statement).flatMap Predicate.spelled ++
    (sort? statement).toList.map (·.column)

theorem length_spelled_eq {predicate predicate' : Predicate}
    (h : Condition.PredicatesAlike Glyph.SameLetter predicate predicate') :
    predicate.spelled.length = predicate'.spelled.length := by
  cases h <;> rfl

/-- A predicate is known by its form and by the texts that are spelled. -/
theorem eq_of_spelled_eq {predicate predicate' : Predicate}
    (h : Condition.PredicatesAlike Glyph.SameLetter predicate predicate')
    (hspelled : predicate.spelled = predicate'.spelled) : predicate = predicate' := by
  cases h with
  | same => rfl
  | equals hname hvalue =>
    simp only [Predicate.spelled, List.cons.injEq, and_true] at hspelled
    rw [hspelled.1, hspelled.2]
  | beforeNow hname =>
    simp only [Predicate.spelled, List.cons.injEq, and_true] at hspelled
    rw [hspelled]

/-- Predicates that are alike are equal if their texts are, and so is what follows. -/
theorem predicates_eq_of_spelled {predicates predicates' : List Predicate} {more more' : List Text}
    (h : List.Forall₂ (Condition.PredicatesAlike Glyph.SameLetter) predicates predicates')
    (hspelled : predicates.flatMap Predicate.spelled ++ more =
      predicates'.flatMap Predicate.spelled ++ more') :
    predicates = predicates' ∧ more = more' := by
  induction h with
  | nil => exact ⟨rfl, hspelled⟩
  | @cons p p' ps ps' hp _ ih =>
    rw [List.flatMap_cons, List.flatMap_cons, List.append_assoc, List.append_assoc] at hspelled
    obtain ⟨hfirst, hrest⟩ := List.append_inj hspelled (length_spelled_eq hp)
    obtain ⟨hps, hmore⟩ := ih hrest
    exact ⟨by rw [eq_of_spelled_eq hp hfirst, hps], hmore⟩

theorem sort?_eq_of_spelled {key key' : Option SortKey}
    (h : Option.Rel (SortsAlike Glyph.SameLetter) key key')
    (hspelled : key.toList.map (·.column) = key'.toList.map (·.column)) : key = key' := by
  cases h with
  | none => rfl
  | some hsort =>
    cases hsort with
    | mk hname hdirection =>
      simp only [Option.toList_some, List.map_cons, List.map_nil, List.cons.injEq, and_true]
        at hspelled
      rw [hspelled, hdirection]

end Statement
end QueryDesk
