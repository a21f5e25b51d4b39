import QueryDesk.Proofs.Condition.AlikeTerms
import QueryDesk.Proofs.Statement.Abreast
import QueryDesk.Proofs.Statement.Limit
import QueryDesk.Proofs.Statement.Where

/-!
# The clauses of statements that are alike

Statements that are alike have the same clauses.  The texts of their conditions are alike again
(`whereText?_alike`) and so are the predicates read from them (`predicates_alike`), their sort
orders name the same column up to what may differ (`sort?_alike`), and their row limits agree
(`rowLimit_alike`): they are equal, or the value of the same clause cannot be read in either
statement.
-/

set_option autoImplicit false

namespace QueryDesk

namespace Statement

open Literal (mask)

variable {L : Likeness} {s s' : Text} {p p' : Place}

/-! ## Conditions -/

/-- Says that at two places of their masks two texts begin anew that are alike. -/
def StartsAnew (L : Likeness) (s s' : Text) (p p' : Place) : Prop :=
  ∃ front front' t t', s = front ++ t ∧ s' = front' ++ t' ∧ p.rest = mask t ∧ p'.rest = mask t' ∧
    Masked L t t' p p'

/-- Behind a glyph that belongs to no word texts begin anew. -/
theorem Masked.startsAnew (h : Masked L s s' p p') (hword : p.before.any Glyph.isWord = false)
    (hne : p.rest ≠ []) : StartsAnew L s s' p p' := by
  obtain ⟨front, front', t, t', h⟩ := h
  have hne' : t ≠ [] := by
    rintro rfl
    exact hne h.leftRest
  have hfront := (h.before hne').symm.trans hword
  refine ⟨front, front', t, t', h.left, h.right, h.leftRest, h.rightRest, ?_⟩
  have hstart := masked_start (h.ahead.of_before hfront) hword (h.inWord.symm.trans hword)
  rwa [← h.leftRest, ← h.rightRest] at hstart

theorem whereStart?_rel (h : Masked L s s' p p') :
    Option.Rel (StartsAnew L s s') (whereStart? p) (whereStart? p') := by
  have hR := masked_abreast L s s'
  refine rel_bind (hR.edge? h) fun a a' ha => ?_
  refine rel_bind (hR.word? (by decide) ha) fun b b' hb => ?_
  have hblanks := hR.blanks1? hb
  have hword := fun q => Place.before_of_blanks1? (p := b) (q := q)
  refine rel_bind (rel_and_left hblanks hword) fun c c' hc => ?_
  rw [← hR.isEmpty_eq hc.1]
  split
  · exact .none
  · next hne => exact .some (hc.1.startsAnew hc.2 (by rwa [List.isEmpty_iff] at hne))

theorem whereEnd?_rel {G : Glyph → Glyph → Prop} {R : Place → Place → Prop}
    (hR : Place.Agreeing G R) (h : R p p') : Option.Rel R (whereEnd? p) (whereEnd? p') := by
  simp only [whereEnd?, Option.bind_eq_bind]
  have hvisible : ∀ word ∈ ["order".toList, "by".toList, "limit".toList, "top".toList],
      ∀ c ∈ word, Place.isVisible c = true := by decide
  have horder := isSome_eq_of_rel <| rel_bind (hR.edge? h) fun a a' ha =>
    rel_bind (hR.word? (hvisible "order".toList (by decide)) ha) fun b b' hb =>
      rel_bind (hR.blanks1? hb) fun c c' hc =>
        rel_bind (hR.word? (hvisible "by".toList (by decide)) hc) fun d d' hd => hR.edge? hd
  have hlimit := isSome_eq_of_rel <| rel_bind (hR.edge? h) fun a a' ha =>
    rel_bind (hR.word? (hvisible "limit".toList (by decide)) ha) fun b b' hb => hR.edge? hb
  have htop := isSome_eq_of_rel <| rel_bind (hR.edge? h) fun a a' ha =>
    rel_bind (hR.word? (hvisible "top".toList (by decide)) ha) fun b b' hb => hR.edge? hb
  simp only [horder, hlimit, htop, hR.isEmpty_eq h]
  split
  · exact .some h
  · exact .none

/-- The conditions do not end at a glyph with which no clause begins. -/
theorem whereEnd?_eq_none {g : Glyph} (h : ∀ c ∈ ['o', 'l', 't'], g.agrees c = false)
    (before : Option Glyph) (t : Text) : whereEnd? ⟨before, g :: t⟩ = none := by
  have hkeyword : ∀ c ∈ ['o', 'l', 't'], ∀ (cs : List Char) (more : Place → Option Place),
      (Place.edge? ⟨before, g :: t⟩).bind (fun q => (q.word? (c :: cs)).bind more) = none :=
    fun c hc cs more => Place.keyword?_eq_none (h c hc) cs more before t
  have horder : (Place.edge? ⟨before, g :: t⟩).bind (fun q => (q.word? "order".toList).bind fun q =>
      q.blanks1?.bind fun q => (q.word? "by".toList).bind fun q => q.edge?) = none :=
    hkeyword 'o' (by decide) _ _
  have hlimit : (Place.edge? ⟨before, g :: t⟩).bind (fun q => (q.word? "limit".toList).bind fun q =>
      q.edge?) = none := hkeyword 'l' (by decide) _ _
  have htop : (Place.edge? ⟨before, g :: t⟩).bind (fun q => (q.word? "top".toList).bind fun q =>
      q.edge?) = none := hkeyword 't' (by decide) _ _
  simp only [whereEnd?, Option.bind_eq_bind, horder, hlimit, htop, Option.isSome_none,
    List.isEmpty_cons, Bool.or_self, Bool.false_eq_true, if_false]

theorem skipsLiterals_whereEnd? : Literal.SkipsLiterals whereEnd? := by
  intro before g t hg
  have hletters : ∀ c ∈ ['o', 'l', 't'], c ∈ ['w', 'o', 'l', 't', 's'] := by decide
  exact whereEnd?_eq_none (fun c hc => Literal.agrees_eq_false (hletters c hc) hg) before t

/-- What lies between the beginnings of two texts and related places further on is alike. -/
theorem Masked.between_alike {front front' t t' : Text} {q q' : Place} (hp : p.rest = mask t)
    (hp' : p'.rest = mask t') (h : Masked L t t' q q') :
    Alike L [] (between (front ++ t) p q) (between (front' ++ t') p' q') := by
  obtain ⟨x, x', u, u', h⟩ := h
  have hlength : p.rest.length = (x ++ u).length := by rw [hp, Literal.length_mask, h.left]
  have hlength' : p'.rest.length = (x' ++ u').length := by rw [hp', Literal.length_mask, h.right]
  have hrest : q.rest.length = u.length := by rw [h.leftRest, Literal.length_mask]
  have hrest' : q'.rest.length = u'.length := by rw [h.rightRest, Literal.length_mask]
  rw [h.left, h.right, between_append hlength hrest, between_append hlength' hrest']
  exact h.inFront

/-- **The texts of the conditions of statements that are alike are alike.** -/
theorem whereText?_alike (h : Alike L [] s s') :
    Option.Rel (Alike L []) (whereText? s) (whereText? s') := by
  have hskips : Literal.SkipsLiterals whereStart? :=
    Literal.skipsLiterals_keyword (c := 'w') (by decide) _ _
  have hstart := masked_searchable hskips L s s'
  have hend := fun t t' => masked_searchable skipsLiterals_whereEnd? L t t'
  have hmasked : Masked L s s' (.start (mask s)) (.start (mask s')) := masked_start h rfl rfl
  have hfirst := Place.firstMatch_rel (fun _ _ => hstart.onward) (fun _ _ => whereStart?_rel)
    (.of_rel hmasked)
  refine rel_bind hfirst fun first first' hanew => ?_
  -- The conditions begin behind a blank, so the search for their end may take them for a text.
  obtain ⟨front, front', t, t', rfl, rfl, hrest, hrest', hmasked⟩ := hanew
  refine rel_bind ((hend t t').onward hmasked).next?_rel fun second second' hsecond => ?_
  refine rel_bind (Place.firstMatch_rel (fun _ _ => (hend t t').onward)
    (fun _ _ => whereEnd?_rel (masked_abreast L t t').agreeing) hsecond)
    fun last last' hlast => ?_
  have hbetween : Alike L [] (between (front ++ t) first last)
      (between (front' ++ t') first' last') := hlast.between_alike hrest hrest'
  have hclause := hbetween.trim
  have hsemicolon : ∀ g g' : Glyph, g.SameLetter g' →
      decide (g = .char ';') = decide (g' = .char ';') := by
    intro g g' hg
    exact decide_eq_decide.mpr (hg.eq_char_iff (by decide))
  have hquote : ∀ g : Glyph, decide (g = .char ';') = true → Literal.isQuote g = false := by
    intro g hg
    rw [of_decide_eq_true hg]
    decide
  have hdropped := (hclause.dropEndWhile hsemicolon hquote).trim
  dsimp only
  rw [hdropped.isEmpty_eq]
  split
  · exact .none
  · exact .some hdropped

/-- **The predicates of statements that are alike are alike.** -/
theorem predicates_alike (hL : L.IsQuiet) (h : Alike L [] s s') :
    List.Forall₂ (Condition.PredicatesAlike L.glyph) (predicates s) (predicates s') := by
  have hclause := whereText?_alike h
  unfold predicates
  generalize whereText? s = clause at hclause ⊢
  generalize whereText? s' = clause' at hclause ⊢
  cases hclause with
  | none => exact .nil
  | some hclause => exact Condition.read_alike hL hclause

/-! ## Order -/

/-- Says that two sort orders go in one direction and are for columns with names that are alike. -/
inductive SortsAlike (G : Glyph → Glyph → Prop) : SortKey → SortKey → Prop
  | mk {name name' : Text} {descending descending' : Bool} (hname : List.Forall₂ G name name')
      (hdirection : descending = descending') :
      SortsAlike G ⟨column name, descending⟩ ⟨column name', descending'⟩

theorem sortKey?_rel (h : Masked L s s' p p') :
    Option.Rel (SortsAlike L.glyph) (sortKey? p) (sortKey? p') := by
  have hR := masked_abreast L s s'
  refine rel_bind (hR.edge? h) fun a a' ha => ?_
  refine rel_bind (hR.word? (by decide) ha) fun b b' hb => ?_
  refine rel_bind (hR.blanks1? hb) fun c c' hc => ?_
  refine rel_bind (hR.word? (by decide) hc) fun d d' hd => ?_
  refine rel_bind (hR.blanks1? hd) fun e e' he => ?_
  refine rel_bind (hR.spanWord? he) fun found found' hfound => ?_
  obtain ⟨name, r⟩ := found
  obtain ⟨name', r'⟩ := found'
  obtain ⟨hname, hr⟩ := hfound
  have hdirection := rel_bind (hR.blanks1? hr) fun _ _ hk => hR.spanWord? hk
  have hdescending : ∀ {x x' : Option (Text × Place)}, Option.Rel
      (fun f f' => List.Forall₂ L.glyph f.1 f'.1 ∧ Masked L s s' f.2 f'.2) x x' →
        (x.any fun d => d.1.upper == Text.of "DESC") =
          x'.any fun d => d.1.upper == Text.of "DESC" := by
    intro x x' hx
    cases hx with
    | none => rfl
    | some hword =>
      rw [Option.any_some, Option.any_some,
        (Text.lower_eq_and_upper_eq (hword.1.imp fun _ _ hg => L.sameLetter hg)).2]
  exact .some (.mk hname (hdescending hdirection))

/-- **The sort orders of statements that are alike are alike.** -/
theorem sort?_alike (h : Alike L [] s s') :
    Option.Rel (SortsAlike L.glyph) (sort? s) (sort? s') := by
  have hskips : Literal.SkipsLiterals sortKey? :=
    Literal.skipsLiterals_keyword (c := 'o') (by decide) _ _
  have hmasked : Masked L s s' (.start (mask s)) (.start (mask s')) := masked_start h rfl rfl
  exact Place.firstMatch_rel (fun _ _ => (masked_searchable hskips L s s').onward)
    (fun _ _ => sortKey?_rel) (.of_rel hmasked)

/-! ## Row limits -/

/-- Says that two values of a row limit are alike, or that there is a quote in both. -/
inductive ValuesAlike (G : Glyph → Glyph → Prop) : Text → Text → Prop
  | alike {value value' : Text} (h : List.Forall₂ G value value') : ValuesAlike G value value'
  | quoted {value value' : Text} {q q' : Glyph} (hq : Literal.isQuote q = true) (h : q ∈ value)
      (hq' : Literal.isQuote q' = true) (h' : q' ∈ value') : ValuesAlike G value value'

theorem ValuesAlike.eq_nil_iff {G : Glyph → Glyph → Prop} {value value' : Text}
    (h : ValuesAlike G value value') : value = [] ↔ value' = [] := by
  cases h with
  | alike h => cases h <;> simp
  | quoted _ h _ h' => exact iff_of_false (List.ne_nil_of_mem h) (List.ne_nil_of_mem h')

/-- What the value of a row limit takes of a text, in front of which no literal is open. -/
def limitRun (t : Text) : Text := t.take ((mask t).takeWhile isLimitGlyph).length

theorem isLimitGlyph_eq {g g' : Glyph} (h : g.SameLetter g') :
    isLimitGlyph g = isLimitGlyph g' := by
  rw [isLimitGlyph, isLimitGlyph, h.isBlank_eq, h.isOneOf_eq (by decide)]

/-- The value goes on over a quote, whatever stands behind it. -/
theorem mem_limitRun_of_isQuote {q : Glyph} (hq : Literal.isQuote q = true) (t : Text) :
    q ∈ limitRun (q :: t) := by
  have hpass : isLimitGlyph q = true := by
    rcases Literal.eq_of_isQuote hq with rfl | rfl <;> decide
  rw [limitRun, Literal.mask_cons_of_isQuote hq, List.takeWhile_cons_of_pos hpass,
    List.length_cons, List.take_succ_cons]
  exact List.mem_cons_self

theorem limitRun_alike {before t t' : Text} (h : Alike L before t t') :
    ValuesAlike L.glyph (limitRun t) (limitRun t') := by
  induction h with
  | nil => exact .alike .nil
  | @glyph before g g' t t' hg hgg ht ih =>
    have hsame := L.sameLetter hgg
    have hg' : Literal.isQuote g' = false := hsame.isQuote_eq ▸ hg
    rw [limitRun, limitRun, Literal.mask_cons_of_not_isQuote hg,
      Literal.mask_cons_of_not_isQuote hg']
    by_cases hpass : isLimitGlyph g = true
    · rw [List.takeWhile_cons_of_pos hpass,
        List.takeWhile_cons_of_pos (isLimitGlyph_eq hsame ▸ hpass), List.length_cons,
        List.length_cons, List.take_succ_cons, List.take_succ_cons]
      cases ih with
      | alike h => exact .alike (.cons hgg h)
      | quoted hq h hq' h' =>
        exact .quoted hq (List.mem_cons_of_mem g h) hq' (List.mem_cons_of_mem g' h')
    · rw [List.takeWhile_cons_of_neg hpass,
        List.takeWhile_cons_of_neg (isLimitGlyph_eq hsame ▸ hpass)]
      exact .alike .nil
  | literal hq hc hc' hcc ht ih =>
    exact .quoted hq (mem_limitRun_of_isQuote hq _) hq (mem_limitRun_of_isQuote hq _)
  | opened hq hc =>
    exact .quoted hq (mem_limitRun_of_isQuote hq _) hq (mem_limitRun_of_isQuote hq _)

/-- A value that is found is what stands there, and there is none if nothing stands there. -/
theorem limitValue?_eq {t : Text} (hp : p.rest = mask t) :
    (limitRun t = [] ∧ limitValue? p = none) ∨
      (limitRun t ≠ [] ∧ ∃ q, limitValue? p = some (p, q) ∧
        ∀ front : Text, between (front ++ t) p q = limitRun t) := by
  have hlength : p.rest.length = t.length := by rw [hp, Literal.length_mask]
  rw [limitValue?, Place.span1?_eq, limitRun, ← hp]
  by_cases hrun : p.rest.takeWhile isLimitGlyph = []
  · rw [if_pos hrun, hrun]
    exact .inl ⟨rfl, rfl⟩
  · rw [if_neg hrun]
    refine .inr ⟨fun hnil => ?_, _, rfl, fun front => ?_⟩
    · rcases List.take_eq_nil_iff.mp hnil with hzero | rfl
      · exact hrun (List.length_eq_zero_iff.mp hzero)
      · rw [List.length_nil, List.length_eq_zero_iff] at hlength
        exact hrun (by rw [hlength]; rfl)
    · have hsplit := congrArg List.length
        (List.takeWhile_append_dropWhile (p := isLimitGlyph) (l := p.rest))
      rw [List.length_append] at hsplit
      have hfirst : p.rest.length = (t.take (p.rest.takeWhile isLimitGlyph).length ++
          t.drop (p.rest.takeWhile isLimitGlyph).length).length := by
        rw [List.take_append_drop, hlength]
      have hlast : (⟨Place.lastGlyph p.before (p.rest.takeWhile isLimitGlyph),
          p.rest.dropWhile isLimitGlyph⟩ : Place).rest.length =
            (t.drop (p.rest.takeWhile isLimitGlyph).length).length := by
        rw [List.length_drop]
        dsimp only
        omega
      have hbetween := between_append (s := front) hfirst hlast
      rwa [List.take_append_drop] at hbetween

theorem limitValue?_rel (h : Masked L s s' p p') :
    Option.Rel (fun f f' => ValuesAlike L.glyph (between s f.1 f.2) (between s' f'.1 f'.2))
      (limitValue? p) (limitValue? p') := by
  obtain ⟨front, front', t, t', h⟩ := h
  have hvalues := limitRun_alike h.ahead
  rcases limitValue?_eq h.leftRest with ⟨hnil, hnone⟩ | ⟨hne, q, hsome, hvalue⟩
  · rcases limitValue?_eq h.rightRest with ⟨-, hnone'⟩ | ⟨hne', -⟩
    · rw [hnone, hnone']
      exact .none
    · exact absurd (hvalues.eq_nil_iff.mp hnil) hne'
  · rcases limitValue?_eq h.rightRest with ⟨hnil', -⟩ | ⟨-, q', hsome', hvalue'⟩
    · exact absurd (hvalues.eq_nil_iff.mpr hnil') hne
    · rw [hsome, hsome']
      refine .some ?_
      dsimp only
      rwa [h.left, h.right, hvalue, hvalue']

theorem limit?_rel (h : Masked L s s' p p') :
    Option.Rel (fun f f' => ValuesAlike L.glyph (between s f.1 f.2) (between s' f'.1 f'.2))
      (limit? p) (limit? p') := by
  have hR := masked_abreast L s s'
  refine rel_bind (hR.edge? h) fun a a' ha => ?_
  refine rel_bind (hR.word? (by decide) ha) fun b b' hb => ?_
  exact rel_bind (hR.blanks1? hb) fun c c' hc => limitValue?_rel hc

theorem top?_rel (h : Masked L s s' p p') :
    Option.Rel (fun f f' => ValuesAlike L.glyph (between s f.1 f.2) (between s' f'.1 f'.2))
      (top? p) (top? p') := by
  have hR := masked_abreast L s s'
  refine rel_bind (hR.edge? h) fun a a' ha => ?_
  refine rel_bind (hR.word? (by decide) ha) fun b b' hb => ?_
  refine rel_bind (hR.blanks1? hb) fun c c' hc => ?_
  refine rel_bind (hR.word? (by decide) hc) fun d d' hd => ?_
  refine rel_or ?_ (limitValue?_rel (hR.blanks hd))
  exact rel_bind (hR.sign? (by decide) (by decide) (hR.blanks hd)) fun e e' he =>
    limitValue?_rel (hR.blanks he)

/-- A value with a quote is no row count. -/
theorem readLimit_of_isQuote {q : Glyph} {value : Text} (hq : Literal.isQuote q = true)
    (h : q ∈ value) (form : LimitForm) :
    readLimit form value = .error (.badLimit form.keyword value) := by
  refine readLimit_of_not (fun hall => ?_) form
  have hdigit := hall.2 q h
  rcases Literal.eq_of_isQuote hq with rfl | rfl <;> exact absurd hdigit (by decide)

/-- Values that are alike are read as one limit, or neither of them can be read. -/
theorem readLimit_alike {value value' : Text} (h : ValuesAlike L.glyph value value')
    (form : LimitForm) : readLimit form value = readLimit form value' ∨
      (readLimit form value = .error (.badLimit form.keyword value) ∧
        readLimit form value' = .error (.badLimit form.keyword value')) := by
  cases h with
  | quoted hq h hq' h' =>
    exact .inr ⟨readLimit_of_isQuote hq h form, readLimit_of_isQuote hq' h' form⟩
  | alike h =>
    have hletters := h.imp fun _ _ hg => L.sameLetter hg
    by_cases hdigits : ∀ g ∈ value, g.isAsciiDigit = true
    · exact .inl (by rw [Text.eq_of_isAsciiDigit hletters hdigits])
    by_cases hdigits' : ∀ g ∈ value', g.isAsciiDigit = true
    · have hback : List.Forall₂ Glyph.SameLetter value' value :=
        .flip (hletters.imp fun _ _ hg => hg.symm)
      exact .inl (by rw [Text.eq_of_isAsciiDigit hback hdigits'])
    · exact .inr ⟨readLimit_of_not (fun hall => hdigits hall.2) form,
        readLimit_of_not (fun hall => hdigits' hall.2) form⟩

/-- Says that two row limits are equal, or that the value of the same clause was refused. -/
def LimitsAgree (limit limit' : Except Fault (Option RowLimit)) : Prop :=
  limit = limit' ∨ ∃ (form : LimitForm) (value value' : Text),
    limit = .error (.badLimit form.keyword value) ∧
      limit' = .error (.badLimit form.keyword value')

/-- **The row limits of statements that are alike agree.** -/
theorem rowLimit_alike (h : Alike L [] s s') : LimitsAgree (rowLimit s) (rowLimit s') := by
  have hskips : Literal.SkipsLiterals limit? :=
    Literal.skipsLiterals_keyword (c := 'l') (by decide) _ _
  have hskips' : Literal.SkipsLiterals top? :=
    Literal.skipsLiterals_keyword (c := 's') (by decide) _ _
  have hstart : Masked L s s' (.start (mask s)) (.start (mask s')) := masked_start h rfl rfl
  have hlimit := Place.firstMatch_rel (fun _ _ => (masked_searchable hskips L s s').onward)
    (fun _ _ => limit?_rel) (.of_rel hstart)
  have htop := Place.firstMatch_rel (fun _ _ => (masked_searchable hskips' L s s').onward)
    (fun _ _ => top?_rel) (.of_rel hstart)
  have hread : ∀ {value value' : Text} (form : LimitForm), ValuesAlike L.glyph value value' →
      LimitsAgree ((readLimit form value).map some) ((readLimit form value').map some) := by
    intro value value' form hvalue
    rcases readLimit_alike hvalue form with heq | ⟨hbad, hbad'⟩
    · exact .inl (by rw [heq])
    · exact .inr ⟨form, value, value', by rw [hbad]; rfl, by rw [hbad']; rfl⟩
  rw [rowLimit, rowLimit]
  obtain ⟨hnone, hnone'⟩ | ⟨found, found', hfound, hfound', hvalue⟩ := rel_cases hlimit
  · rw [hnone, hnone']
    obtain ⟨hnone, hnone'⟩ | ⟨found, found', hfound, hfound', hvalue⟩ := rel_cases htop
    · rw [hnone, hnone']
      exact .inl rfl
    · rw [hfound, hfound']
      exact hread .top hvalue
  · rw [hfound, hfound']
    exact hread .limit hvalue

end Statement
end QueryDesk
