import QueryDesk.Proofs.Condition.Phrases
import QueryDesk.Proofs.Text.Abreast

/-!
# Atoms as terms

A term is looked through for four forms, each at every place.  An atom in writing shows its own form
once and no other (`ofTerm_render`): the other forms of a comparison need a sign that the atom does
not hold, and its literal holds no such sign either.

The term that begins the form for late work orders is the atom `status = 'delayed'`
(`isDelayedTerm_render`), with nothing behind it (`isDelayedTerm_append`).
-/

set_option autoImplicit false

namespace QueryDesk
namespace Condition

/-! ## What the forms need -/

theorem needs_of_beforeNow? {p : Place} {found : Predicate × Place}
    (h : beforeNow? p = some found) : .char '<' ∈ p.rest := by
  simp only [beforeNow?, Option.bind_eq_bind, Option.bind_eq_some_iff] at h
  obtain ⟨p₁, h₁, ⟨name, p₂⟩, h₂, p₃, h₃, -⟩ := h
  obtain ⟨g, hg, hsign⟩ := Place.exists_of_sign? h₃
  have hlt : g = .char '<' := by
    cases g <;> simp_all [Glyph.isOneOf]
  refine (Place.suffix_of_edge? h₁).mem ((Place.suffix_of_oneOf? h₂).mem ?_)
  refine (Place.suffix_of_blanks p₂).mem ?_
  rw [hg, hlt]
  exact List.mem_cons_self

theorem needs_of_lowStock? {p q : Place} (h : lowStock? p = some q) : .char '<' ∈ p.rest := by
  simp only [lowStock?, Option.bind_eq_bind, Option.bind_eq_some_iff] at h
  obtain ⟨p₁, h₁, p₂, h₂, p₃, h₃, -⟩ := h
  obtain ⟨g, hg, hagrees⟩ := Place.exists_of_word?_cons h₃
  rw [Glyph.eq_of_agrees (by decide) hagrees] at hg
  refine (Place.suffix_of_edge? h₁).mem ((Place.suffix_of_word? h₂).mem ?_)
  exact (Place.suffix_of_blanks p₂).mem hg

theorem needs_of_lastQuarter? {p q : Place} (h : lastQuarter? p = some q) :
    .char '>' ∈ p.rest := by
  simp only [lastQuarter?, Option.bind_eq_bind, Option.bind_eq_some_iff] at h
  obtain ⟨p₁, h₁, p₂, h₂, p₃, h₃, -⟩ := h
  obtain ⟨g, hg, hagrees⟩ := Place.exists_of_word?_cons h₃
  rw [Glyph.eq_of_agrees (by decide) hagrees] at hg
  refine (Place.suffix_of_edge? h₁).mem ((Place.suffix_of_word? h₂).mem ?_)
  exact (Place.suffix_of_blanks p₂).mem hg

theorem length_lt_of_beforeNow? {p : Place} {f : Predicate × Place} (h : beforeNow? p = some f) :
    f.2.rest.length < p.rest.length := by
  simp only [beforeNow?, Option.bind_eq_bind, Option.bind_eq_some_iff, Option.some.injEq] at h
  obtain ⟨a, ha, ⟨name, b⟩, hb, c, hc, ⟨present, d⟩, hd, e, he, rfl⟩ := h
  have hedge := (Place.suffix_of_edge? ha).length_le
  have hcolumn := (Place.suffix_of_oneOf? hb).length_le
  have hblanks := (Place.suffix_of_blanks b).length_le
  have hsign := Place.length_lt_of_sign? hc
  have hblanks' := (Place.suffix_of_blanks c).length_le
  have hpresent := (Place.suffix_of_oneOf? hd).length_le
  have hend := (Place.suffix_of_edge? he).length_le
  dsimp only at hblanks hsign hblanks' hend ⊢
  omega

/-- An equality holds the two quotes of its literal. -/
theorem two_le_countP_of_equality? {p : Place} {found : Predicate × Place}
    (h : equality? p = some found) : 2 ≤ p.rest.countP Literal.isQuote := by
  simp only [equality?, Option.bind_eq_bind, Option.bind_eq_some_iff] at h
  obtain ⟨p₁, h₁, ⟨name, p₂⟩, h₂, p₃, h₃, p₄, h₄, ⟨content, p₅⟩, h₅, p₆, h₆, -⟩ := h
  obtain ⟨equals, hequals, -⟩ := Place.exists_of_sign? h₃
  obtain ⟨opening, hopening, hopens⟩ := Place.exists_of_sign? h₄
  obtain ⟨closing, hclosing, hcloses⟩ := Place.exists_of_sign? h₆
  have hfront : p₃.rest <:+ p.rest :=
    ((List.suffix_cons equals p₃.rest).trans (hequals ▸ Place.suffix_of_blanks p₂)).trans
      ((Place.suffix_of_oneOf? h₂).trans (Place.suffix_of_edge? h₁))
  have hquotes := List.Sublist.countP_le (p := Literal.isQuote)
    ((Place.suffix_of_blanks p₃).trans hfront).sublist
  have hbehind := List.Sublist.countP_le (p := Literal.isQuote)
    (Place.suffix_of_span1? h₅).sublist
  have hopen : Literal.isQuote opening = true := hopens
  have hclose : Literal.isQuote closing = true := hcloses
  rw [hopening, List.countP_cons_of_pos hopen] at hquotes
  rw [hclosing, List.countP_cons_of_pos hclose] at hbehind
  omega

/-! ## Equalities -/

section

variable {q : Glyph} {content : Text} (hq : Literal.isQuote q = true)
  (hcontent : ∀ g ∈ content, Literal.isQuote g = false)

include hq hcontent in
/-- An equality is recognised up to the next quote, whichever it is. -/
theorem equality?_equality (column : EqualityColumn) {r : Glyph} (hr : Literal.isQuote r = true)
    (hne : content ≠ []) (more : Text) :
    equality? (.start (Text.of column.name ++ (Text.of " = " ++ q :: (content ++ r :: more)))) =
      some (.equals (Text.of column.name) (.text content), ⟨some r, more⟩) := by
  have hspan : Place.span1? (fun g => !Literal.isQuote g) ⟨some q, content ++ r :: more⟩ =
      some (content, ⟨Place.lastGlyph (some q) content, r :: more⟩) := by
    refine Place.span1?_append hne (fun g hg => ?_) ?_ _
    · rw [hcontent g hg]; rfl
    · rintro g ⟨⟩; rw [hr]; rfl
  have hform : equality?
      (.start (Text.of column.name ++ (Text.of " = " ++ q :: (content ++ r :: more)))) =
        (Place.span1? (fun g => !Literal.isQuote g) ⟨some q, content ++ r :: more⟩).bind
          fun found => (found.2.sign? ['\'', '"']).bind fun p =>
            some (.equals (Text.of column.name) (.text found.1), p) := by
    rcases Literal.eq_of_isQuote hq with rfl | rfl <;> cases column <;> rfl
  have hclose : Place.sign? ['\'', '"']
      ⟨Place.lastGlyph (some q) content, r :: more⟩ = some ⟨some r, more⟩ := if_pos hr
  rw [hform, hspan, Option.bind_some, hclose]
  rfl

include hq hcontent in
/-- A literal by itself holds no equality. -/
theorem firstMatch_equality?_literal :
    (Place.start (literal q content)).firstMatch equality? = none := by
  have hquote : equality? ⟨none, q :: (content ++ [q])⟩ = none := by
    rcases Literal.eq_of_isQuote hq with rfl | rfl <;> rfl
  have hcount : (content ++ [q]).countP Literal.isQuote = 1 := by
    rw [List.countP_append, List.countP_eq_zero.mpr fun g hg => by rw [hcontent g hg]; simp,
      List.countP_cons_of_pos hq, List.countP_nil]
  rw [Place.start, literal, Place.firstMatch_cons, hquote, Option.none_or]
  refine Place.firstMatch_eq_none_of_suffix (fun p hp => ?_) _
  rw [← Option.not_isSome_iff_eq_none, Option.isSome_iff_exists]
  rintro ⟨found, hfound⟩
  have htwo := two_le_countP_of_equality? hfound
  have hle := List.Sublist.countP_le (p := Literal.isQuote) hp.sublist
  omega

end

/-- Says that a form begins neither in front of the content of an equality nor at its literal. -/
def BeginsNoEquality {α : Type} (form : Place → Option α) : Prop :=
  ∀ (column : EqualityColumn) (q : Glyph), Literal.isQuote q = true →
    Place.Avoids form none (Text.of column.name ++ (Text.of " = " ++ [q])) ∧
      Place.Avoids form none [q]

theorem beginsNoEquality_beforeNow? : BeginsNoEquality beforeNow? := by
  intro column q hq
  rcases Literal.eq_of_isQuote hq with rfl | rfl <;> cases column <;>
    (constructor <;> repeat (first | exact trivial | refine ⟨fun _ => rfl, ?_⟩))

theorem beginsNoEquality_lowStock? : BeginsNoEquality lowStock? := by
  intro column q hq
  rcases Literal.eq_of_isQuote hq with rfl | rfl <;> cases column <;>
    (constructor <;> repeat (first | exact trivial | refine ⟨fun _ => rfl, ?_⟩))

theorem beginsNoEquality_lastQuarter? : BeginsNoEquality lastQuarter? := by
  intro column q hq
  rcases Literal.eq_of_isQuote hq with rfl | rfl <;> cases column <;>
    (constructor <;> repeat (first | exact trivial | refine ⟨fun _ => rfl, ?_⟩))

/-- Then the form is found in the equality where it is found in the literal. -/
theorem BeginsNoEquality.firstMatch_eq {α : Type} {form : Place → Option α}
    (h : BeginsNoEquality form) (column : EqualityColumn) {q : Glyph}
    (hq : Literal.isQuote q = true) (content : Text) :
    (Place.start (equality column q content)).firstMatch form =
      (Place.start (literal q content)).firstMatch form := by
  obtain ⟨hfront, hquote⟩ := h column q hq
  have hequality := Place.firstMatch_append hfront (content ++ [q])
  have hliteral := Place.firstMatch_append hquote (content ++ [q])
  simp only [List.append_assoc, Place.lastGlyph_append, Place.lastGlyph_cons,
    Place.lastGlyph_nil] at hequality hliteral
  exact hequality.trans hliteral.symm

theorem BeginsNoEquality.allMatches_eq {α : Type} {form : Place → Option (α × Place)}
    (h : BeginsNoEquality form)
    (hshorter : ∀ p f, form p = some f → f.2.rest.length < p.rest.length)
    (column : EqualityColumn) {q : Glyph} (hq : Literal.isQuote q = true) (content : Text) :
    (Place.start (equality column q content)).allMatches form =
      (Place.start (literal q content)).allMatches form := by
  obtain ⟨hfront, hquote⟩ := h column q hq
  have hequality := Place.allMatches_append hshorter hfront (content ++ [q])
  have hliteral := Place.allMatches_append hshorter hquote (content ++ [q])
  simp only [List.append_assoc, Place.lastGlyph_append, Place.lastGlyph_cons,
    Place.lastGlyph_nil] at hequality hliteral
  exact hequality.trans hliteral.symm

/-- **An equality asks for its content, and for all that the literal would ask for by itself.** -/
theorem ofTerm_equality {q : Glyph} {content : Text} (hq : Literal.isQuote q = true)
    (hcontent : ∀ g ∈ content, Literal.isQuote g = false) (hne : content ≠ [])
    (column : EqualityColumn) : ofTerm (equality column q content) =
      .equals (Text.of column.name) (.text content) :: ofTerm (literal q content) := by
  have hfound := equality?_equality hq hcontent column hq hne []
  have hpos : 0 < (equality column q content).length := by
    cases column <;> exact Nat.succ_pos _
  have hend : Place.firstMatch equality? ⟨some q, []⟩ = none := by
    rcases Literal.eq_of_isQuote hq with rfl | rfl <;> rfl
  have hliteral := firstMatch_equality?_literal hq hcontent
  rw [ofTerm, ofTerm, beginsNoEquality_beforeNow?.allMatches_eq
    (fun _ _ => length_lt_of_beforeNow?) column hq, beginsNoEquality_lowStock?.firstMatch_eq column
    hq, beginsNoEquality_lastQuarter?.firstMatch_eq column hq, Place.allMatches_eq_nil hliteral,
    equality, literal, Place.allMatches_of_match hfound hpos, Place.allMatches_eq_nil hend]
  rfl

theorem Content.ne_of_mem (content : Content) {g : Glyph} (hg : g ∈ content.text) {c : Char}
    (hc : isPlain (.char c) = false) : g ≠ .char c := by
  rintro rfl
  exact absurd (content.plain _ hg) (by rw [hc]; exact Bool.false_ne_true)

theorem Content.not_isQuote (content : Content) {g : Glyph} (hg : g ∈ content.text) :
    Literal.isQuote g = false := by
  rw [← Bool.not_eq_true]
  intro hq
  rcases Literal.eq_of_isQuote hq with rfl | rfl <;> exact content.ne_of_mem hg rfl rfl

/-- A literal without signs of comparison asks for nothing by itself. -/
theorem ofTerm_literal {q : Glyph} {content : Text} (hq : Literal.isQuote q = true)
    (hcontent : ∀ g ∈ content, Literal.isQuote g = false) (hless : .char '<' ∉ content)
    (hmore : .char '>' ∉ content) : ofTerm (literal q content) = [] := by
  have hsign : ∀ g : Glyph, Literal.isQuote g = false → g ∉ content → g ∉ literal q content := by
    intro g hg hout hmem
    rw [literal, List.mem_cons, List.mem_append, List.mem_singleton] at hmem
    rcases hmem with rfl | hmem | rfl
    · exact absurd (hq.symm.trans hg) (by decide)
    · exact hout hmem
    · exact absurd (hq.symm.trans hg) (by decide)
  have hbefore := Place.firstMatch_eq_none_of_needs (fun _ _ h => needs_of_beforeNow? h)
    (hsign (.char '<') rfl hless)
  have hstock := Place.firstMatch_eq_none_of_needs (fun _ _ h => needs_of_lowStock? h)
    (hsign (.char '<') rfl hless)
  have hquarter := Place.firstMatch_eq_none_of_needs (fun _ _ h => needs_of_lastQuarter? h)
    (hsign (.char '>') rfl hmore)
  rw [ofTerm, Place.allMatches_eq_nil (firstMatch_equality?_literal hq hcontent),
    Place.allMatches_eq_nil hbefore, hstock, hquarter]
  rfl

/-! ## Comparisons -/

theorem ofTerm_beforeNow (column : DateColumn) (present : Present) :
    ofTerm (Atom.beforeNow column present).render =
      [(Atom.beforeNow column present).predicate] := by
  obtain ⟨q, hfound, hlt, hrest⟩ : ∃ q,
      beforeNow? (Place.start (Atom.beforeNow column present).render) =
        some ((Atom.beforeNow column present).predicate, q) ∧
      q.rest.length < (Atom.beforeNow column present).render.length ∧
      q.firstMatch beforeNow? = none := by
    cases column <;> cases present <;> exact ⟨_, rfl, by decide, rfl⟩
  have hequality : (Place.start (Atom.beforeNow column present).render).firstMatch equality? =
      none := by
    cases column <;> cases present <;> rfl
  have hstock : (Place.start (Atom.beforeNow column present).render).firstMatch lowStock? =
      none := by
    cases column <;> cases present <;> rfl
  have hquarter : (Place.start (Atom.beforeNow column present).render).firstMatch lastQuarter? =
      none := by
    cases column <;> cases present <;> rfl
  rw [ofTerm, Place.allMatches_eq_nil hequality, Place.allMatches_of_match hfound hlt,
    Place.allMatches_eq_nil hrest, hstock, hquarter]
  rfl

/-- **An atom is a term of its own form and of no other.** -/
theorem ofTerm_render (a : Atom) : ofTerm a.render = [a.predicate] := by
  cases a with
  | equals column content =>
    have hequality :=
      ofTerm_equality (q := .char '\'') rfl (fun _ => content.not_isQuote) content.ne_nil column
    rwa [ofTerm_literal rfl (fun _ => content.not_isQuote)
      (fun hless => content.ne_of_mem hless rfl rfl)
      fun hmore => content.ne_of_mem hmore rfl rfl] at hequality
  | beforeNow column present => exact ofTerm_beforeNow column present
  | lowStock =>
    rw [ofTerm, Place.allMatches_eq_nil rfl, Place.allMatches_eq_nil rfl]
    rfl
  | lastQuarter =>
    rw [ofTerm, Place.allMatches_eq_nil rfl, Place.allMatches_eq_nil rfl]
    rfl

/-! ## The term of late work orders -/

theorem isDelayedTerm_status {t : Text} :
    isDelayedTerm (Text.of "status = '" ++ t) = true ↔
      ∃ (w : Text) (q : Glyph), t = w ++ [q] ∧ w.asciiLower = Text.of "delayed" ∧
        Literal.isQuote q = true := by
  have hform : isDelayedTerm (Text.of "status = '" ++ t) =
      ((Place.word? "delayed".toList ⟨some (.char '\''), t⟩).bind fun p =>
        p.sign? ['\'', '"']).any fun p => p.rest.isEmpty := rfl
  have husual : ∀ c ∈ "delayed".toList, Glyph.isUsual c = true := List.all_eq_true.mp rfl
  rw [hform, Option.any_eq_true]
  constructor
  · rintro ⟨p, hp, hend⟩
    obtain ⟨q, hword, hsign⟩ := Option.bind_eq_some_iff.mp hp
    obtain ⟨w, hw, rfl, -⟩ := Place.word?_eq_some_iff.mp hword
    obtain ⟨g, hg, hquote⟩ := Place.exists_of_sign? hsign
    rw [List.isEmpty_iff] at hend
    exact ⟨w, g, by rw [hg, hend], (Text.spells_iff husual).mp hw, hquote⟩
  · rintro ⟨w, q, rfl, hw, hquote⟩
    have hword : Place.word? "delayed".toList ⟨some (.char '\''), w ++ [q]⟩ =
        some ⟨Place.lastGlyph (some (.char '\'')) w, [q]⟩ :=
      Place.word?_eq_some_iff.mpr ⟨w, (Text.spells_iff husual).mpr hw, rfl, rfl⟩
    refine ⟨⟨some q, []⟩, ?_, rfl⟩
    rw [hword, Option.bind_some]
    exact if_pos hquote

theorem isDelayedTerm_parenthesis (t : Text) : isDelayedTerm (.char '(' :: t) = false := rfl

/-- **The term of late work orders is the atom of delayed status.** -/
theorem isDelayedTerm_render (a : Atom) : isDelayedTerm a.render = a.isDelayed := by
  cases a with
  | equals column content =>
    cases column with
    | status =>
      rw [Bool.eq_iff_iff]
      refine isDelayedTerm_status.trans ?_
      simp only [Atom.isDelayed, decide_eq_true_eq]
      constructor
      · rintro ⟨w, q, ht, hw, -⟩
        rwa [(List.append_inj' ht rfl).1]
      · exact fun h => ⟨content.text, .char '\'', rfl, h, rfl⟩
    | priority => rfl
    | region => rfl
  | beforeNow column present => cases column <;> cases present <;> rfl
  | lowStock => rfl
  | lastQuarter => rfl

/-- Something behind an atom makes it another term. -/
theorem isDelayedTerm_append (a : Atom) {more : Text} (hmore : more ≠ []) :
    isDelayedTerm (a.render ++ more) = false := by
  cases a with
  | equals column content =>
    cases column with
    | status =>
      rw [Bool.eq_false_iff]
      intro h
      have hassoc : (Atom.equals .status content).render ++ more =
          Text.of "status = '" ++ (content.text ++ (.char '\'' :: more)) := by
        simp [Atom.render, EqualityColumn.name, Text.of]
      rw [hassoc] at h
      obtain ⟨w, q, ht, hw, -⟩ := isDelayedTerm_status.mp h
      -- The quote lies inside `w`, which is spelled without one.
      have hmem : Glyph.char '\'' ∈ w := by
        rw [← List.dropLast_concat_getLast hmore, ← List.cons_append, ← List.append_assoc] at ht
        rw [← (List.append_inj' ht rfl).1]
        exact List.mem_append_right _ List.mem_cons_self
      have hquote : Glyph.char '\'' ∈ w.asciiLower := List.mem_map.mpr ⟨_, hmem, rfl⟩
      rw [hw] at hquote
      exact absurd hquote (by decide)
    | priority => rfl
    | region => rfl
  | beforeNow column present => cases column <;> cases present <;> rfl
  | lowStock => rfl
  | lastQuarter => rfl

end Condition
end QueryDesk
