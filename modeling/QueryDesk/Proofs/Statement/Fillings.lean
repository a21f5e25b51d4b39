import QueryDesk.Proofs.Statement.Boundaries

/-!
# The content of a literal and the predicates

Clauses are looked for in the mask, forms of terms in the text itself.  So the content of a literal
can make a predicate, and it does where a form begins in it.  Idle content makes none: a literal
that no equality asks for may be filled with other idle content, and the plan of the statement stays
(`plan_refill`).  Content without signs of comparison is idle (`idle_of_isPlain`).
-/

set_option autoImplicit false

namespace QueryDesk

/-! ## Idle content -/

namespace Condition

/-- A recogniser that stops at a quote and needs a glyph in front of it finds nothing in content
without that glyph, whatever follows. -/
theorem avoids_of_needs {α : Type} {recognise : Place → Option α} {q needed : Glyph}
    (hrel : ∀ {p p' : Place} {more : Text}, Place.SameUpTo q more p p' →
      (recognise p).isSome = true → (recognise p').isSome = true)
    (hneeds : ∀ p a, recognise p = some a → needed ∈ p.rest) {content : Text}
    (hcontent : needed ∉ content) (hq : needed ≠ q) (before : Option Glyph) :
    Place.Avoids recognise before (content ++ [q]) := by
  have hnone : ∀ (b : Option Glyph) (u more : Text), needed ∉ u →
      recognise ⟨b, u ++ q :: more⟩ = none := by
    intro b u more hu
    have hsame : Place.SameUpTo q more ⟨b, u ++ q :: more⟩ ⟨b, u ++ [q]⟩ := ⟨rfl, u, rfl, rfl⟩
    rw [← Option.not_isSome_iff_eq_none]
    intro hfound
    obtain ⟨a, ha⟩ := Option.isSome_iff_exists.mp (hrel hsame hfound)
    rcases List.mem_append.mp (hneeds _ a ha) with hmem | hmem
    · exact hu hmem
    · exact hq (List.mem_singleton.mp hmem)
  induction content generalizing before with
  | nil => exact ⟨fun more => hnone _ [] more List.not_mem_nil, trivial⟩
  | cons g content ih =>
    refine ⟨fun more => ?_, ih (fun hmem => hcontent (List.mem_cons_of_mem g hmem)) _⟩
    have hat := hnone before (g :: content) more hcontent
    rw [List.append_cons] at hat
    exact hat

/-- **Content without signs of comparison is idle.** -/
theorem idle_of_isPlain {q : Glyph} {content : Text} (hq : Literal.isQuote q = true)
    (h : ∀ g ∈ content, isPlain g = true) : Idle q content := by
  have hplain : ∀ c, isPlain (.char c) = false → Glyph.char c ∉ content := by
    intro c hc hmem
    rw [h _ hmem] at hc
    cases hc
  have hsign : ∀ c, Literal.isQuote (.char c) = false → Glyph.char c ≠ q := by
    rintro c hc rfl
    rw [hq] at hc
    cases hc
  have hR := fun more => Place.sameUpTo_abreast hq more
  have hhead : ∀ p, equalityHead? p = none → equality? p = none := by
    intro p hp
    rw [equality?_eq, equalityOpening?, hp]
    rfl
  refine ⟨.imp hhead ?_, ?_, ?_, ?_⟩
  · refine avoids_of_needs (fun hp hfound => ?_) (fun p f => needs_of_equalityHead?)
      (hplain '=' (by decide)) (hsign '=' (by decide)) _
    rwa [← isSome_eq_of_rel (equalityHead?_rel (hR _).agreeing hp)]
  · refine avoids_of_needs (fun hp hfound => ?_) (fun p f => needs_of_beforeNow?)
      (hplain '<' (by decide)) (hsign '<' (by decide)) _
    rwa [← isSome_eq_of_rel (beforeNow?_rel (hR _).agreeing hp)]
  · refine avoids_of_needs (fun hp hfound => ?_) (fun p f => needs_of_lowStock?)
      (hplain '<' (by decide)) (hsign '<' (by decide)) _
    rwa [← isSome_eq_of_rel (lowStock?_rel (hR _).agreeing hp)]
  · refine avoids_of_needs (fun hp hfound => ?_) (fun p f => needs_of_lastQuarter?)
      (hplain '>' (by decide)) (hsign '>' (by decide)) _
    rwa [← isSome_eq_of_rel (lastQuarter?_rel (hR _).agreeing hp)]

end Condition

/-! ## Quiet fillings -/

/-- The same glyphs outside literals, and idle content where no equality asks for it. -/
def Likeness.quiet : Likeness where
  glyph := (· = ·)
  content front q c c' :=
    c = c' ∨ (Condition.Idle q c ∧ Condition.Idle q c' ∧ ¬ Condition.AsksForLiteral front q)
  glyph_refl := Eq.refl
  content_refl _ _ _ := .inl rfl
  sameLetter := @Glyph.SameLetter.of_eq
  content_of_append hfront hcontent := hcontent.imp id fun ⟨hc, hc', hasks⟩ =>
    ⟨hc, hc', fun h => hasks (Condition.asksForLiteral_append hfront h)⟩

theorem Likeness.isQuiet_quiet : Likeness.quiet.IsQuiet := fun hcontent => hcontent

namespace Statement

/-- Says that two plans are equal, or that the value of the same clause was refused. -/
def PlansAgree (plan plan' : Except Fault Plan) : Prop :=
  plan = plan' ∨ ∃ (form : LimitForm) (value value' : Text),
    plan = .error (.badLimit form.keyword value) ∧ plan' = .error (.badLimit form.keyword value')

theorem plansAgree_of_limitsAgree {s s' : Text} (hpredicates : predicates s = predicates s')
    (hsort : sort? s = sort? s') (hlimit : LimitsAgree (rowLimit s) (rowLimit s')) :
    PlansAgree (plan s) (plan s') := by
  rcases hlimit with heq | ⟨form, value, value', hbad, hbad'⟩
  · exact .inl (by rw [plan, plan, heq, hpredicates, hsort])
  · exact .inr ⟨form, value, value', by rw [plan, hbad]; rfl, by rw [plan, hbad']; rfl⟩

/-- Plans that agree have the same predicates, unless a row limit was refused. -/
theorem predicates_eq_of_plansAgree {s s' : Text} (h : PlansAgree (plan s) (plan s'))
    (hlimit : (rowLimit s).toOption.isSome = true) : predicates s = predicates s' := by
  cases hread : rowLimit s with
  | error fault =>
    rw [hread] at hlimit
    cases hlimit
  | ok limit =>
    have hplan : plan s = .ok ⟨predicates s, sort? s, limit⟩ := by
      rw [plan, hread]
      rfl
    rw [hplan] at h
    rcases h with heq | ⟨form, value, value', hbad, -⟩
    · cases hread' : rowLimit s' with
      | error fault =>
        rw [plan, hread'] at heq
        cases heq
      | ok limit' =>
        rw [plan, hread'] at heq
        exact congrArg Plan.predicates (Except.ok.inj heq)
    · cases hbad

variable {front content content' back : Text} {q : Glyph}

/-- **Idle content makes no predicate, and clauses see no content at all.** -/
theorem plan_refill (hfront : Literal.behind none front = none) (hq : Literal.isQuote q = true)
    (hc : q ∉ content) (hc' : q ∉ content') (hasks : ¬ Condition.AsksForLiteral front q)
    (hidle : Condition.Idle q content) (hidle' : Condition.Idle q content') :
    PlansAgree (plan (front ++ q :: (content ++ q :: back)))
      (plan (front ++ q :: (content' ++ q :: back))) := by
  have halike : Alike .quiet [] (front ++ q :: (content ++ q :: back))
      (front ++ q :: (content' ++ q :: back)) :=
    alike_refill hfront hq hc hc' (.inr ⟨hidle, hidle', hasks⟩)
  have hpredicates := (predicates_alike Likeness.isQuiet_quiet halike).imp
    fun _ _ => Condition.PredicatesAlike.eq
  rw [List.forall₂_eq_eq_eq] at hpredicates
  exact plansAgree_of_limitsAgree hpredicates (sort?_eq_of_alike rfl halike)
    (rowLimit_alike halike)

/-- A name that looks like the end of the conditions and like an alternative. -/
theorem plan_vendor_like_a_clause :
    let front := Text.of "SELECT * FROM invoices WHERE vendor_name = "
    let back := Text.of " AND due_date < NOW()"
    let short := front ++ .char '\'' :: (Text.of "Acme" ++ .char '\'' :: back)
    let long := front ++ .char '\'' :: (Text.of "A OR B ORDER BY x LIMIT 9" ++ .char '\'' :: back)
    Literal.behind none front = none ∧ ¬ Condition.AsksForLiteral front (.char '\'') ∧
      PlansAgree (plan short) (plan long) := by
  have hfront :
      Literal.behind none (Text.of "SELECT * FROM invoices WHERE vendor_name = ") = none := by
    decide
  have hasks : ¬ Condition.AsksForLiteral (Text.of "SELECT * FROM invoices WHERE vendor_name = ")
      (.char '\'') := by
    decide +kernel
  exact ⟨hfront, hasks, plan_refill hfront (by decide) (by decide) (by decide) hasks
    (Condition.idle_of_isPlain (by decide) (by decide))
    (Condition.idle_of_isPlain (by decide) (by decide))⟩

/-- A name in which a form begins makes a predicate. -/
theorem not_plansAgree_vendor_like_a_term :
    let front := Text.of "SELECT * FROM invoices WHERE vendor_name = "
    Literal.behind none front = none ∧ ¬ Condition.AsksForLiteral front (.char '\'') ∧
      (∀ g ∈ Text.of "Acme" ++ Text.of "due_date < NOW()", Literal.isQuote g = false) ∧
      ¬ PlansAgree (plan (front ++ .char '\'' :: (Text.of "Acme" ++ [.char '\''])))
        (plan (front ++ .char '\'' :: (Text.of "due_date < NOW()" ++ [.char '\'']))) := by
  intro front
  have hlimit : (rowLimit (front ++ .char '\'' ::
      (Text.of "Acme" ++ [.char '\'']))).toOption.isSome = true := by
    decide +kernel
  have hnone : (predicates (front ++ .char '\'' ::
      (Text.of "Acme" ++ [.char '\'']))).length = 0 := by
    decide +kernel
  have hone : (predicates (front ++ .char '\'' ::
      (Text.of "due_date < NOW()" ++ [.char '\'']))).length = 1 := by
    decide +kernel
  refine ⟨by decide, by decide +kernel, by decide, fun h => ?_⟩
  rw [← predicates_eq_of_plansAgree h hlimit, hnone] at hone
  cases hone

end Statement
end QueryDesk
