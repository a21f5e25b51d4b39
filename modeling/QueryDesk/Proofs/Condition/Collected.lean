import QueryDesk.Proofs.Statement.Fillings

/-!
# The atoms of a text that is not cut

A term is looked through for each form from left to right.  A condition in writing that is read as
one term, with its parentheses and joiners in it, shows every atom that it has, and nothing else: so
it asks for what each of them says, form by form (`byForm`), whatever the joiners say
(`ofTerm_of_collects`).

What a search collects in a text does not depend on what stands around it (`Collects`), as long as
no word goes on from there; so it is put together part by part (`OfParts`).
-/

set_option autoImplicit false

namespace QueryDesk

namespace Place

variable {β : Type} {b b' : Option Glyph}

/-! ## Beginning anew -/

/-- A word that is found does not depend on what stands in front. -/
theorem oneOf?_anew {words : List (List Char)} (hwords : ∀ word ∈ words, word ≠ []) (t : Text) :
    oneOf? words ⟨b, t⟩ = oneOf? words ⟨b', t⟩ := by
  rw [oneOf?, oneOf?]
  induction words with
  | nil => rfl
  | cons word words ih =>
    obtain ⟨hne, htail⟩ := List.forall_mem_cons.mp hwords
    have hword : Place.word? word ⟨b, t⟩ = Place.word? word ⟨b', t⟩ := by
      obtain ⟨c, cs, rfl⟩ := List.exists_cons_of_ne_nil hne
      cases t <;> rfl
    rw [List.firstM, List.firstM, hword, ih htail]

theorem words?_anew {words : List (List Char)} (hwords : ∀ word ∈ words, word ≠ [])
    (h : b.any Glyph.isWord = b'.any Glyph.isWord) (more : Text × Place → Option β) (t : Text) :
    (edge? ⟨b, t⟩).bind (fun p => (p.oneOf? words).bind more) =
      (edge? ⟨b', t⟩).bind fun p => (p.oneOf? words).bind more := by
  rw [edge?, edge?, atEdge, atEdge, h]
  split
  · rw [Option.bind_some, Option.bind_some, oneOf?_anew hwords]
  · rfl

theorem keyword?_anew {c : Char} (h : b.any Glyph.isWord = b'.any Glyph.isWord) (cs : List Char)
    (more : Place → Option β) (t : Text) :
    (edge? ⟨b, t⟩).bind (fun p => (p.word? (c :: cs)).bind more) =
      (edge? ⟨b', t⟩).bind fun p => (p.word? (c :: cs)).bind more := by
  have hword : Place.word? (c :: cs) ⟨b, t⟩ = Place.word? (c :: cs) ⟨b', t⟩ := by
    cases t <;> rfl
  rw [edge?, edge?, atEdge, atEdge, h]
  split
  · rw [Option.bind_some, Option.bind_some, hword]
  · rfl

theorem length_lt_of_word?_cons {c : Char} {cs : List Char} {p q : Place}
    (h : p.word? (c :: cs) = some q) : q.rest.length < p.rest.length := by
  obtain ⟨g, t, hrest, -, hword⟩ := exists_of_word?_cons_eq_some h
  rw [hrest]
  exact Nat.lt_succ_of_le (length_le_of_word? hword)

/-- What is found first is found among all. -/
theorem isSome_firstMatch_eq {recognise : Place → Option Place} (a : β)
    (hshorter : ∀ p q, recognise p = some q → q.rest.length < p.rest.length) (p : Place) :
    (p.firstMatch recognise).isSome =
      !(p.allMatches fun p => (recognise p).map fun q => (a, q)).isEmpty := by
  have hshorter' : ∀ p f, (recognise p).map (fun q => (a, q)) = some f →
      f.2.rest.length < p.rest.length := by
    intro p f hf
    obtain ⟨q, hq, rfl⟩ := Option.map_eq_some_iff.mp hf
    exact hshorter p q hq
  rcases p with ⟨before, rest⟩
  induction rest generalizing before with
  | nil =>
    have hnone : recognise ⟨before, []⟩ = none := by
      cases hr : recognise ⟨before, []⟩ with
      | none => rfl
      | some q => exact absurd (hshorter _ q hr) (Nat.not_lt_zero _)
    rw [allMatches_nil hshorter', firstMatch, firstMatch.go, hnone]
    rfl
  | cons g t ih =>
    rw [firstMatch_cons, allMatches_cons hshorter']
    cases recognise ⟨before, g :: t⟩ with
    | none => exact ih _
    | some q => rfl

end Place

namespace Condition

open Place (lastGlyph)

/-! ## Forms -/

/-- The four forms of atoms. -/
inductive Form
  | equality
  | beforeNow
  | lowStock
  | lastQuarter
  deriving DecidableEq

/-- The form of an atom. -/
def Atom.form : Atom → Form
  | equals .. => .equality
  | beforeNow .. => .beforeNow
  | lowStock => .lowStock
  | lastQuarter => .lastQuarter

namespace Form

/-- Recognises an atom of a form. -/
def recognise : Form → Place → Option (Predicate × Place)
  | equality => equality?
  | beforeNow => beforeNow?
  | lowStock => fun p => (lowStock? p).map fun q => (.stockBelowReorder, q)
  | lastQuarter => fun p => (lastQuarter? p).map fun q => (.orderedLastQuarter, q)

/-- The predicates of the atoms of a form. -/
def predicates (form : Form) (atoms : List Atom) : List Predicate :=
  (atoms.filter (·.form = form)).map Atom.predicate

end Form

/-- What atoms ask for, form by form: each equality and each comparison of dates, and once each the
level of stock and the last quarter. -/
def byForm (atoms : List Atom) : List Predicate :=
  Form.equality.predicates atoms ++ Form.beforeNow.predicates atoms ++
    (Form.lowStock.predicates atoms).take 1 ++ (Form.lastQuarter.predicates atoms).take 1

theorem length_lt_of_lowStock? {p q : Place} (h : lowStock? p = some q) :
    q.rest.length < p.rest.length := by
  simp only [lowStock?, Option.bind_eq_bind, Option.bind_eq_some_iff] at h
  obtain ⟨a, ha, b, hb, c, hc, d, hd, he⟩ := h
  have hword := Place.length_lt_of_word?_cons hb
  have hedge := (Place.suffix_of_edge? ha).length_le
  have hsign := (Place.suffix_of_word? hc).trans (Place.suffix_of_blanks b)
  have hlevel := (Place.suffix_of_word? hd).trans (Place.suffix_of_blanks c)
  have hbehind := ((Place.suffix_of_edge? he).trans (hlevel.trans hsign)).length_le
  omega

theorem length_lt_of_lastQuarter? {p q : Place} (h : lastQuarter? p = some q) :
    q.rest.length < p.rest.length := by
  simp only [lastQuarter?, Option.bind_eq_bind, Option.bind_eq_some_iff] at h
  obtain ⟨a, ha, b, hb, c, hc, d, hd, e, he, f, hf, g, hg, k, hk, hl⟩ := h
  have hword := Place.length_lt_of_word?_cons hb
  have hedge := (Place.suffix_of_edge? ha).length_le
  have hsign := (Place.suffix_of_word? hc).trans (Place.suffix_of_blanks b)
  have hcall := (Place.suffix_of_word? hd).trans (Place.suffix_of_blanks c)
  have hopen := (Place.length_lt_of_sign? he).le
  have hunit := (Place.suffix_of_word? hf).trans (Place.suffix_of_blanks e)
  have hcomma := (Place.length_lt_of_sign? hg).le
  have hcount := (Place.suffix_of_word? hk).trans (Place.suffix_of_blanks g)
  have hblanks := (Place.suffix_of_blanks d).length_le
  have hblanks' := (Place.suffix_of_blanks f).length_le
  have hfront := (hcall.trans hsign).length_le
  have hbehind := ((Place.suffix_of_edge? hl).trans hcount).length_le
  have hinside := hunit.length_le
  omega

namespace Form

theorem length_lt_of_recognise (form : Form) (p : Place) (found : Predicate × Place)
    (h : form.recognise p = some found) : found.2.rest.length < p.rest.length := by
  cases form with
  | equality => exact length_lt_of_equality? h
  | beforeNow => exact length_lt_of_beforeNow? h
  | lowStock =>
    obtain ⟨q, hq, rfl⟩ := Option.map_eq_some_iff.mp h
    exact length_lt_of_lowStock? hq
  | lastQuarter =>
    obtain ⟨q, hq, rfl⟩ := Option.map_eq_some_iff.mp h
    exact length_lt_of_lastQuarter? hq

/-- Where no word goes on, what stands in front does not count. -/
theorem recognise_anew (form : Form) {before : Option Glyph}
    (h : before.any Glyph.isWord = false) (t : Text) :
    form.recognise ⟨before, t⟩ = form.recognise (.start t) := by
  have hstock : lowStock? ⟨before, t⟩ = lowStock? (.start t) :=
    Place.keyword?_anew (c := 'q') h _ _ t
  have hquarter : lastQuarter? ⟨before, t⟩ = lastQuarter? (.start t) :=
    Place.keyword?_anew (c := 'o') h _ _ t
  cases form with
  | equality => exact Place.words?_anew (by decide) h _ t
  | beforeNow => exact Place.words?_anew (by decide) h _ t
  | lowStock => exact congrArg (Option.map _) hstock
  | lastQuarter => exact congrArg (Option.map _) hquarter

theorem avoids_anew {form : Form} {before : Option Glyph} (h : before.any Glyph.isWord = false)
    {t : Text} (ht : Place.Avoids form.recognise none t) :
    Place.Avoids form.recognise before t := by
  cases t with
  | nil => trivial
  | cons g t => exact ⟨fun more => by rw [recognise_anew form h]; exact ht.1 more, ht.2⟩

/-- In the content of a literal no atom begins. -/
theorem avoids_content (form : Form) (content : Content) :
    Place.Avoids form.recognise (some (.char '\'')) (content.text ++ [.char '\'']) := by
  have hidle : Idle (.char '\'') content.text := idle_of_isPlain rfl content.plain
  cases form with
  | equality => exact hidle.equality
  | beforeNow => exact hidle.beforeNow
  | lowStock => exact hidle.lowStock.imp fun _ => congrArg (Option.map _)
  | lastQuarter => exact hidle.lastQuarter.imp fun _ => congrArg (Option.map _)

/-- In an atom no atom of another form begins. -/
theorem avoids_atom {form : Form} {a : Atom} (h : a.form ≠ form) :
    Place.Avoids form.recognise none a.render := by
  cases a with
  | equals column content =>
    have hfront : Place.Avoids form.recognise none
        (Text.of column.name ++ (Text.of " = " ++ [.char '\''])) := by
      cases form with
      | equality => exact absurd rfl h
      | beforeNow =>
        cases column <;> (repeat (first | exact trivial | refine ⟨fun _ => rfl, ?_⟩))
      | lowStock =>
        cases column <;> (repeat (first | exact trivial | refine ⟨fun _ => rfl, ?_⟩))
      | lastQuarter =>
        cases column <;> (repeat (first | exact trivial | refine ⟨fun _ => rfl, ?_⟩))
    have hlast : lastGlyph none (Text.of column.name ++ (Text.of " = " ++ [.char '\''])) =
        some (.char '\'') := by
      cases column <;> rfl
    have hall := hfront.append (hlast ▸ form.avoids_content content)
    rwa [List.append_assoc, List.append_assoc] at hall
  | beforeNow column present =>
    cases form with
    | beforeNow => exact absurd rfl h
    | equality => cases column <;> cases present <;>
        (repeat (first | exact trivial | refine ⟨fun _ => rfl, ?_⟩))
    | lowStock => cases column <;> cases present <;>
        (repeat (first | exact trivial | refine ⟨fun _ => rfl, ?_⟩))
    | lastQuarter => cases column <;> cases present <;>
        (repeat (first | exact trivial | refine ⟨fun _ => rfl, ?_⟩))
  | lowStock =>
    cases form with
    | lowStock => exact absurd rfl h
    | equality => repeat (first | exact trivial | refine ⟨fun _ => rfl, ?_⟩)
    | beforeNow => repeat (first | exact trivial | refine ⟨fun _ => rfl, ?_⟩)
    | lastQuarter => repeat (first | exact trivial | refine ⟨fun _ => rfl, ?_⟩)
  | lastQuarter =>
    cases form with
    | lastQuarter => exact absurd rfl h
    | equality => repeat (first | exact trivial | refine ⟨fun _ => rfl, ?_⟩)
    | beforeNow => repeat (first | exact trivial | refine ⟨fun _ => rfl, ?_⟩)
    | lowStock => repeat (first | exact trivial | refine ⟨fun _ => rfl, ?_⟩)

end Form

/-- An atom is found where it stands, and in what is left of it no other begins. -/
theorem Atom.recognise_render (a : Atom) {more : Text}
    (hmore : more.head?.any Glyph.isWord = false) : ∃ (before : Option Glyph) (left : Text),
      a.form.recognise (.start (a.render ++ more)) = some (a.predicate, ⟨before, left ++ more⟩) ∧
        Place.Avoids a.form.recognise before left ∧
        lastGlyph before left = lastGlyph none a.render := by
  have hedge : ∀ g : Glyph, g.isWord = true →
      Place.edge? ⟨some g, more⟩ = some ⟨some g, more⟩ := by
    intro g hg
    rw [Place.edge?, if_pos]
    rw [Place.atEdge, hmore, Option.any_some, hg]
    rfl
  cases a with
  | equals column content =>
    have hassoc : (equals column content).render ++ more = Text.of column.name ++
        (Text.of " = " ++ .char '\'' :: (content.text ++ .char '\'' :: more)) := by
      simp [render, Text.of]
    have hlast : lastGlyph none (equals column content).render = some (.char '\'') := by
      rw [render, Place.lastGlyph_append, Place.lastGlyph_append, Place.lastGlyph_append]
      rfl
    refine ⟨some (.char '\''), [], ?_, trivial, hlast.symm⟩
    rw [hassoc]
    exact equality?_equality rfl (fun _ => content.not_isQuote) column rfl content.ne_nil more
  | beforeNow column present =>
    cases present with
    | getdate =>
      refine ⟨some (.char 'E'), Text.of "()", ?_, ?_, ?_⟩
      · cases column <;> rfl
      · repeat (first | exact trivial | refine ⟨fun _ => rfl, ?_⟩)
      · cases column <;> rfl
    | currentDate =>
      have hform : beforeNow? (.start ((beforeNow column .currentDate).render ++ more)) =
          (Place.edge? ⟨some (.char 'E'), more⟩).bind fun p =>
            some ((beforeNow column .currentDate).predicate, p) := by
        cases column <;> rfl
      refine ⟨some (.char 'E'), [], ?_, trivial, ?_⟩
      · exact hform.trans (by rw [hedge _ (by decide)]; rfl)
      · cases column <;> rfl
    | currentTimestamp =>
      have hform : beforeNow? (.start ((beforeNow column .currentTimestamp).render ++ more)) =
          (Place.edge? ⟨some (.char 'P'), more⟩).bind fun p =>
            some ((beforeNow column .currentTimestamp).predicate, p) := by
        cases column <;> rfl
      refine ⟨some (.char 'P'), [], ?_, trivial, ?_⟩
      · exact hform.trans (by rw [hedge _ (by decide)]; rfl)
      · cases column <;> rfl
    | now =>
      refine ⟨some (.char 'W'), Text.of "()", ?_, ?_, ?_⟩
      · cases column <;> rfl
      · repeat (first | exact trivial | refine ⟨fun _ => rfl, ?_⟩)
      · cases column <;> rfl
  | lowStock =>
    have hform : lowStock? (.start (lowStock.render ++ more)) =
        Place.edge? ⟨some (.char 'l'), more⟩ := rfl
    refine ⟨some (.char 'l'), [], ?_, trivial, rfl⟩
    exact congrArg (Option.map _) (hform.trans (hedge _ (by decide)))
  | lastQuarter =>
    refine ⟨some (.char '1'), Text.of ", GETDATE())", rfl, ?_, rfl⟩
    repeat (first | exact trivial | refine ⟨fun _ => rfl, ?_⟩)

/-! ## Conditions by their parts -/

/-- What stands between the parts of a condition: a parenthesis, or a joiner with a blank or a
parenthesis on each side. -/
inductive IsGlue : Text → Prop
  | opening : IsGlue (Text.of "(")
  | closing : IsGlue (Text.of ")")
  | joiner {s : String} {g h : Glyph} (hs : s ∈ ["AND", "OR"])
      (hg : g ∈ Text.of " )") (hh : h ∈ Text.of " (") : IsGlue (g :: (Text.of s ++ [h]))

/-- Says that something holds of each atom in writing and stays with what stands between parts. -/
structure OfParts (P : Text → List Atom → Prop) : Prop where
  atom : ∀ a : Atom, P a.render [a]
  front : ∀ {w t : Text} {atoms : List Atom}, IsGlue w → P t atoms → P (w ++ t) atoms
  back : ∀ {w t : Text} {atoms : List Atom}, IsGlue w → IsPhrase t → P t atoms → P (t ++ w) atoms
  between : ∀ {s w t : Text} {atoms others : List Atom}, IsGlue w → IsPhrase s → P s atoms →
    P t others → P (s ++ (w ++ t)) (atoms ++ others)

/-! ## Collecting -/

/-- Says what a search for a form collects in a text, whatever stands around it. -/
def Collects (form : Form) (t : Text) (atoms : List Atom) : Prop :=
  ∀ (before : Option Glyph) (more : Text), before.any Glyph.isWord = false →
    more.head?.any Glyph.isWord = false →
      Place.allMatches form.recognise ⟨before, t ++ more⟩ =
        form.predicates atoms ++ Place.allMatches form.recognise ⟨lastGlyph before t, more⟩

theorem Form.predicates_append (form : Form) (atoms others : List Atom) :
    form.predicates (atoms ++ others) = form.predicates atoms ++ form.predicates others := by
  simp [predicates]

theorem collects_atom (form : Form) (a : Atom) : Collects form a.render [a] := by
  intro before more hbefore hmore
  by_cases h : a.form = form
  · subst h
    obtain ⟨b, left, hfound, havoids, hlast⟩ := a.recognise_render hmore
    have hlt := a.form.length_lt_of_recognise _ _ hfound
    have hown : a.form.predicates [a] = [a.predicate] := by simp [Form.predicates]
    have hbehind : lastGlyph before a.render = lastGlyph none a.render := by
      obtain ⟨g, t, ht⟩ := List.exists_cons_of_ne_nil a.isPhrase.ne_nil
      rw [ht, Place.lastGlyph_cons, Place.lastGlyph_cons]
    rw [← a.form.recognise_anew hbefore] at hfound
    rw [Place.allMatches_of_match hfound hlt, hown, hbehind, ← hlast,
      Place.allMatches_append a.form.length_lt_of_recognise havoids]
    rfl
  · have hnone : form.predicates [a] = [] := by simp [Form.predicates, h]
    rw [hnone, List.nil_append, Place.allMatches_append form.length_lt_of_recognise
      (Form.avoids_anew hbefore (Form.avoids_atom h))]

theorem Form.avoids_sign (form : Form) {g : Glyph} (hg : g ∈ Text.of " ()")
    (before : Option Glyph) : Place.Avoids form.recognise before [g] := by
  have hletters : ∀ g ∈ Text.of " ()", g.agrees 'q' = false ∧ g.agrees 'o' = false ∧
      (∀ word ∈ equalityColumns, word.head?.all g.agrees = false) ∧
      ∀ word ∈ dateColumns, word.head?.all g.agrees = false := by decide
  obtain ⟨hstock, hquarter, hequality, hdate⟩ := hletters g hg
  refine ⟨fun more => ?_, trivial⟩
  cases form with
  | equality => exact Place.words?_eq_none hequality _ before more
  | beforeNow => exact Place.words?_eq_none hdate _ before more
  | lowStock => exact congrArg (Option.map _) (Place.keyword?_eq_none hstock _ _ before more)
  | lastQuarter => exact congrArg (Option.map _) (Place.keyword?_eq_none hquarter _ _ before more)

namespace IsGlue

variable {w : Text} (hw : IsGlue w) (form : Form) {atoms others : List Atom}
include hw

theorem avoids (before : Option Glyph) : Place.Avoids form.recognise before w := by
  cases hw with
  | opening => exact form.avoids_sign (by decide) before
  | closing => exact form.avoids_sign (by decide) before
  | @joiner word g h hword hg hh =>
    have hsign : ∀ g ∈ Text.of " )", g ∈ Text.of " ()" := by decide
    have hother : ∀ h ∈ Text.of " (", h = .char ' ' ∨ h = .char '(' := by decide
    refine Place.Avoids.append (t := [g]) (form.avoids_sign (hsign g hg) before) ?_
    have hplain : ∀ g ∈ Text.of " )", g.isWord = false := by decide
    refine Form.avoids_anew ?_ ?_
    · rw [Place.lastGlyph_cons, Place.lastGlyph_nil, Option.any_some, hplain g hg]
    · simp only [List.mem_cons, List.not_mem_nil, or_false] at hword
      rcases hword with rfl | rfl <;> rcases hother h hh with rfl | rfl <;> cases form <;>
        (repeat (first | exact trivial | refine ⟨fun _ => rfl, ?_⟩))

theorem allMatches_eq (before : Option Glyph) (t : Text) :
    Place.allMatches form.recognise ⟨before, w ++ t⟩ =
      Place.allMatches form.recognise ⟨lastGlyph before w, t⟩ :=
  Place.allMatches_append form.length_lt_of_recognise (hw.avoids form before) t

/-- No word goes on into what stands between parts. -/
theorem isWord_head? (t : Text) : (w ++ t).head?.any Glyph.isWord = false := by
  cases hw with
  | opening => rfl
  | closing => rfl
  | @joiner word g h hword hg hh =>
    have hsign : ∀ g ∈ Text.of " )", g.isWord = false := by decide
    exact hsign g hg

/-- No word goes on out of what stands between parts. -/
theorem isWord_lastGlyph (before : Option Glyph) :
    (lastGlyph before w).any Glyph.isWord = false := by
  cases hw with
  | opening => rfl
  | closing => rfl
  | @joiner word g h hword hg hh =>
    have hsign : ∀ h ∈ Text.of " (", h.isWord = false := by decide
    rw [Place.lastGlyph_cons, Place.lastGlyph_append]
    exact hsign h hh

variable {form} {s t : Text}

theorem front (ht : Collects form t atoms) : Collects form (w ++ t) atoms := by
  intro before more _ hmore
  rw [List.append_assoc, hw.allMatches_eq form, ht _ more (hw.isWord_lastGlyph before) hmore,
    Place.lastGlyph_append]

theorem back (ht : Collects form t atoms) : Collects form (t ++ w) atoms := by
  intro before more hbefore _
  rw [List.append_assoc, ht before _ hbefore (hw.isWord_head? more), hw.allMatches_eq form,
    Place.lastGlyph_append]

theorem between (hs : Collects form s atoms) (ht : Collects form t others) :
    Collects form (s ++ (w ++ t)) (atoms ++ others) := by
  intro before more hbefore hmore
  have hfront := hs before (w ++ (t ++ more)) hbefore (hw.isWord_head? _)
  have hback := ht (lastGlyph (lastGlyph before s) w) more (hw.isWord_lastGlyph _) hmore
  rw [List.append_assoc, List.append_assoc, hfront, hw.allMatches_eq form, hback,
    form.predicates_append, Place.lastGlyph_append, Place.lastGlyph_append, List.append_assoc]

end IsGlue

theorem ofParts_collects (form : Form) : OfParts (Collects form) where
  atom := collects_atom form
  front hw := hw.front
  back hw _ := hw.back
  between hw _ := hw.between

/-! ## Terms -/

/-- **A term that shows atoms asks for what they say, form by form.** -/
theorem ofTerm_of_collects {t : Text} {atoms : List Atom} (h : ∀ form, Collects form t atoms) :
    ofTerm t = byForm atoms := by
  have hall : ∀ form : Form, (Place.start t).allMatches form.recognise =
      form.predicates atoms := by
    intro form
    have hform := h form none [] rfl rfl
    rwa [List.append_nil, Place.allMatches_nil form.length_lt_of_recognise,
      List.append_nil] at hform
  have hsame : ∀ (form : Form) (predicate : Predicate),
      (∀ a : Atom, a.form = form → a.predicate = predicate) →
        (if !(form.predicates atoms).isEmpty then [predicate] else []) =
          (form.predicates atoms).take 1 := by
    intro form predicate hpredicate
    cases hfound : form.predicates atoms with
    | nil => rfl
    | cons first others =>
      obtain ⟨a, ha, rfl⟩ := List.mem_map.mp (hfound ▸ List.mem_cons_self : first ∈ _)
      rw [hpredicate a (by simpa using (List.mem_filter.mp ha).2)]
      rfl
  have hstock := Place.isSome_firstMatch_eq Predicate.stockBelowReorder
    (fun _ _ => length_lt_of_lowStock?) (.start t)
  have hquarter := Place.isSome_firstMatch_eq Predicate.orderedLastQuarter
    (fun _ _ => length_lt_of_lastQuarter?) (.start t)
  have hequalities := hall .equality
  have hdates := hall .beforeNow
  have hlevels := hall .lowStock
  have hquarters := hall .lastQuarter
  simp only [Form.recognise] at hequalities hdates hlevels hquarters
  rw [ofTerm, hstock, hquarter, hequalities, hdates, hlevels, hquarters,
    hsame .lowStock .stockBelowReorder fun a ha => ?_,
    hsame .lastQuarter .orderedLastQuarter fun a ha => ?_]
  · rfl
  · cases a <;> cases ha
    rfl
  · cases a <;> cases ha
    rfl

end Condition
end QueryDesk
