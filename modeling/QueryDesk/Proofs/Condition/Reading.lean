import QueryDesk.Proofs.Condition.Phrases
import QueryDesk.Proofs.Condition.Terms

/-!
# Reading undoes writing

A condition in writing is read back as what it says (`read_render`).  The induction follows the
grammar.  Parentheses come off a group, and of a conjunction or of alternatives none come off, since
what stands in front closes before the joiner (`Operand.isWrapped_append`); a text is then cut into
exactly the parts that its tree has (`Tree.split_render`, `Conjunction.split_render`).

What two texts ask for compares as their terms do, if they come apart in the same way
(`ReadsInStep.read`).
-/

set_option autoImplicit false

namespace QueryDesk
namespace Condition

/-! ## Joiners -/

/-- A joiner in front of a phrase is cut off. -/
theorem cut_joiner {keyword : List Char} {joiner t part : Text} {parts : List Text}
    (hjoiner : behindKeyword? keyword (joiner ++ t) = some t) (hj : joiner ≠ [])
    (ht : cut keyword .outside t = part :: parts) :
    cut keyword .outside (joiner ++ t) = [] :: part :: parts := by
  cases joiner with
  | nil => exact absurd rfl hj
  | cons g joiner =>
    rw [← ht]
    exact cut_cons_of_some (by rw [cutHere?_outside]; exact hjoiner)

theorem behindKeyword?_and {t : Text} (h : ∀ g ∈ t.head?, g.isBlank = false) :
    behindKeyword? "and".toList (Text.of " AND " ++ t) = some t := by
  have hform : behindKeyword? "and".toList (Text.of " AND " ++ t) =
      (Place.blanks1? ⟨some (.char 'D'), .char ' ' :: t⟩).bind fun p => some p.rest := rfl
  rw [hform, Place.blanks1?_space h]
  rfl

theorem behindKeyword?_or {t : Text} (h : ∀ g ∈ t.head?, g.isBlank = false) :
    behindKeyword? "or".toList (Text.of " OR " ++ t) = some t := by
  have hform : behindKeyword? "or".toList (Text.of " OR " ++ t) =
      (Place.blanks1? ⟨some (.char 'R'), .char ' ' :: t⟩).bind fun p => some p.rest := rfl
  rw [hform, Place.blanks1?_space h]
  rfl

/-- A phrase that is not cut, then a joiner, then a text that is cut. -/
theorem cut_join {keyword : List Char} {s joiner t part : Text} {parts : List Text}
    (hs : IsPhrase s) (huncut : Uncut keyword .outside (.char ' ' :: s))
    (hjoiner : behindKeyword? keyword (joiner ++ t) = some t) (hj : joiner ≠ [])
    (ht : cut keyword .outside t = part :: parts) :
    cut keyword .outside (s ++ (joiner ++ t)) = s :: part :: parts := by
  have hcut := cut_joiner hjoiner hj ht
  rw [← hs.balanced.behind_eq] at hcut
  have hall := cut_append huncut.2 hcut
  rwa [List.append_nil] at hall

theorem Conjunction.cut_render (k : Conjunction) :
    cut "and".toList .outside k.render = k.operands.map Operand.render := by
  cases k with
  | one u => exact cut_eq_singleton (u.uncut .and).2
  | and u k =>
    obtain ⟨v, vs, hparts⟩ : ∃ v vs, k.operands = v :: vs := by
      cases k <;> exact ⟨_, _, rfl⟩
    have hk := k.cut_render
    rw [hparts, List.map_cons] at hk
    rw [Conjunction.operands, hparts, List.map_cons, List.map_cons]
    exact cut_join u.isPhrase (u.uncut .and) (behindKeyword?_and k.isPhrase.tight.head)
      (by decide) hk

theorem Tree.cut_render (c : Tree) :
    cut "or".toList .outside c.render = c.branches.map Conjunction.render := by
  cases c with
  | one k => exact cut_eq_singleton k.uncut.2
  | or k c =>
    obtain ⟨l, ls, hparts⟩ : ∃ l ls, c.branches = l :: ls := by
      cases c <;> exact ⟨_, _, rfl⟩
    have hc := c.cut_render
    rw [hparts, List.map_cons] at hc
    rw [Tree.branches, hparts, List.map_cons, List.map_cons]
    exact cut_join k.isPhrase k.uncut (behindKeyword?_or c.isPhrase.tight.head) (by decide) hc

/-- Phrases that are cut out are parts as they are. -/
theorem split_eq {keyword : List Char} {t : Text} {parts : List Text}
    (hcut : cut keyword .outside t = parts) (h : ∀ part ∈ parts, IsPhrase part) :
    split keyword t = parts := by
  have htrim : parts.map Text.trim = parts.map id :=
    List.map_congr_left fun part hpart => Text.trim_eq_self (h part hpart).tight
  rw [split, hcut, htrim, List.map_id, List.filter_eq_self]
  intro part hpart
  rw [Bool.not_eq_true', List.isEmpty_eq_false_iff]
  exact (h part hpart).ne_nil

theorem Conjunction.split_render (k : Conjunction) :
    split "and".toList k.render = k.operands.map Operand.render := by
  refine split_eq k.cut_render fun part hpart => ?_
  obtain ⟨u, -, rfl⟩ := List.mem_map.mp hpart
  exact u.isPhrase

theorem Tree.split_render (c : Tree) :
    split "or".toList c.render = c.branches.map Conjunction.render := by
  refine split_eq c.cut_render fun part hpart => ?_
  obtain ⟨k, -, rfl⟩ := List.mem_map.mp hpart
  exact k.isPhrase

/-! ## Enclosing parentheses -/

theorem IsPhrase.unwrap_eq_self {t : Text} (h : IsPhrase t) (hw : isWrapped t = false) :
    unwrap t = t := by
  rw [unwrap, Text.trim_eq_self h.tight, unwrapTrimmed_eq_self hw]

theorem Atom.unwrap_render (a : Atom) : unwrap a.render = a.render :=
  a.isPhrase.unwrap_eq_self (isWrapped_eq_false a.head?_ne)

/-- With something behind it an atom is not wrapped. -/
theorem Atom.isWrapped_append (a : Atom) (more : Text) : isWrapped (a.render ++ more) = false := by
  refine isWrapped_eq_false ?_
  rw [List.head?_append_of_ne_nil _ a.isPhrase.ne_nil]
  exact a.head?_ne

/-- A parenthesis in front of a phrase closes before anything behind the phrase. -/
theorem IsPhrase.isWrapped_group_append {t more : Text} (h : IsPhrase t) (hmore : more ≠ []) :
    isWrapped (Text.of "(" ++ (t ++ Text.of ")") ++ more) = false := by
  have hw := isWrapped_parentheses h.balanced more
  rw [List.isEmpty_eq_false_iff.mpr hmore] at hw
  rw [← hw]
  simp [Text.of]

/-- What an operand begins with closes before anything behind the operand. -/
theorem Operand.isWrapped_append (u : Operand) {more : Text} (hmore : more ≠ []) :
    isWrapped (u.render ++ more) = false := by
  cases u with
  | atom a => exact a.isWrapped_append more
  | group c => exact c.isPhrase.isWrapped_group_append hmore

/-- A conjunction begins with an operand. -/
theorem Conjunction.exists_render_eq (k : Conjunction) :
    ∃ (u : Operand) (more : Text), k.render = u.render ++ more := by
  cases k with
  | one u => exact ⟨u, [], by rw [List.append_nil, Conjunction.render]⟩
  | and u k => exact ⟨u, Text.of " AND " ++ k.render, rfl⟩

theorem Conjunction.unwrap_and (u : Operand) (k : Conjunction) :
    unwrap (Conjunction.and u k).render = (Conjunction.and u k).render :=
  (Conjunction.and u k).isPhrase.unwrap_eq_self
    (u.isWrapped_append (List.append_ne_nil_of_left_ne_nil (by decide) _))

theorem Tree.unwrap_or (k : Conjunction) (c : Tree) :
    unwrap (Tree.or k c).render = (Tree.or k c).render := by
  refine (Tree.or k c).isPhrase.unwrap_eq_self ?_
  obtain ⟨u, more, hk⟩ := k.exists_render_eq
  rw [Tree.render, hk, List.append_assoc]
  refine u.isWrapped_append (List.append_ne_nil_of_right_ne_nil _ ?_)
  exact List.append_ne_nil_of_left_ne_nil (by decide) _

/-! ## The form for late work orders -/

/-- An operand with something behind it is not the term of late work orders. -/
theorem Operand.isDelayedTerm_append (u : Operand) {more : Text} (hmore : more ≠ []) :
    isDelayedTerm (u.render ++ more) = false := by
  cases u with
  | atom a => exact Condition.isDelayedTerm_append a hmore
  | group c => exact isDelayedTerm_parenthesis _

mutual

theorem Operand.isDelayedTerm_unwrap : (u : Operand) →
    isDelayedTerm (unwrap u.render) = u.isDelayed
  | .atom a => by
    rw [Operand.render, a.unwrap_render, isDelayedTerm_render]
    rfl
  | .group c => by
    have hunwrap : unwrap (Operand.group c).render = unwrap c.render :=
      unwrap_parentheses c.isPhrase.balanced
    rw [hunwrap, Tree.isDelayedTerm_unwrap c]
    rfl

theorem Conjunction.isDelayedTerm_unwrap : (k : Conjunction) →
    isDelayedTerm (unwrap k.render) = k.isDelayed
  | .one u => Operand.isDelayedTerm_unwrap u
  | .and u k => by
    rw [Conjunction.unwrap_and]
    exact u.isDelayedTerm_append (List.append_ne_nil_of_left_ne_nil (by decide) _)

theorem Tree.isDelayedTerm_unwrap : (c : Tree) →
    isDelayedTerm (unwrap c.render) = c.isDelayed
  | .one k => Conjunction.isDelayedTerm_unwrap k
  | .or k c => by
    obtain ⟨u, more, hk⟩ := k.exists_render_eq
    rw [Tree.unwrap_or, Tree.render, hk, List.append_assoc]
    refine u.isDelayedTerm_append (List.append_ne_nil_of_right_ne_nil _ ?_)
    exact List.append_ne_nil_of_left_ne_nil (by decide) _

end

/-! ## Reading -/

/-- What a text asks for depends only on what is left without enclosing parentheses. -/
theorem read_congr {s t : Text} (h : unwrap s = unwrap t) : read s = read t := by
  rw [read, read, h]

theorem read_alternatives {t first second : Text} {others : List Text} (hne : unwrap t ≠ [])
    (hsplit : split "or".toList (unwrap t) = first :: second :: others) :
    read t = if isDelayedTerm (unwrap first) then [.lateWork] else [] := by
  rw [read, if_neg (by rwa [List.isEmpty_iff]), hsplit]

theorem read_conjunction {t single : Text} (hne : unwrap t ≠ [])
    (hor : split "or".toList (unwrap t) = [single])
    (hmany : 2 ≤ (split "and".toList (unwrap t)).length) :
    read t = (split "and".toList (unwrap t)).flatMap read := by
  have hparts : read t =
      (split "and".toList (unwrap t)).attach.flatMap fun part => read part.1 := by
    rw [read, if_neg (by rwa [List.isEmpty_iff]), hor]
    exact dif_pos hmany
  rw [hparts, List.flatMap_subtype fun _ _ => rfl, List.unattach_attach]

theorem read_term {t single : Text} (hne : unwrap t ≠ [])
    (hor : split "or".toList (unwrap t) = [single])
    (hone : (split "and".toList (unwrap t)).length < 2) : read t = ofTerm (unwrap t) := by
  rw [read, if_neg (by rwa [List.isEmpty_iff]), hor]
  exact dif_neg (Nat.not_le.mpr hone)

/-- **A phrase that nothing cuts is read as a term.** -/
theorem IsPhrase.read_eq_ofTerm {t : Text} (h : IsPhrase t) (hw : isWrapped t = false)
    (huncut : ∀ keyword, IsJoiner keyword → Uncut keyword .outside (.char ' ' :: t)) :
    read t = ofTerm t := by
  have hunwrap := h.unwrap_eq_self hw
  have hsplit : ∀ keyword, IsJoiner keyword → split keyword (unwrap t) = [t] := by
    intro keyword hk
    rw [hunwrap]
    exact split_eq (cut_eq_singleton (huncut keyword hk).2) (by simpa using h)
  have hone : (split "and".toList (unwrap t)).length < 2 := by
    rw [hsplit _ .and]
    exact Nat.lt_succ_self 1
  rw [read_term (by rw [hunwrap]; exact h.ne_nil) (hsplit _ .or) hone, hunwrap]

theorem read_atom (a : Atom) : read a.render = [a.predicate] := by
  rw [a.isPhrase.read_eq_ofTerm (isWrapped_eq_false a.head?_ne) fun _ hk => a.uncut hk,
    ofTerm_render]

/-- An equality is read as a term, whatever stands in its literal. -/
theorem read_equality {q : Glyph} {content : Text} (hq : Literal.isQuote q = true)
    (hcontent : q ∉ content) (column : EqualityColumn) :
    read (equality column q content) = ofTerm (equality column q content) := by
  refine (isPhrase_equality hq hcontent column).read_eq_ofTerm (isWrapped_eq_false ?_)
    fun _ hk => uncut_equality hq hcontent hk column
  cases column <;> exact fun h => absurd (Option.some.inj h) (by decide)

/-- Of a conjunction each operand is read by itself. -/
theorem Conjunction.read_eq_flatMap (k : Conjunction) :
    read k.render = k.operands.flatMap fun u => read u.render := by
  cases k with
  | one u => simp [Conjunction.render, operands]
  | and u k =>
    have hunwrap := Conjunction.unwrap_and u k
    have hne : unwrap (Conjunction.and u k).render ≠ [] := by
      rw [hunwrap]
      exact (Conjunction.and u k).isPhrase.ne_nil
    have hor : split "or".toList (unwrap (Conjunction.and u k).render) =
        [(Conjunction.and u k).render] := by
      rw [hunwrap]
      refine split_eq (cut_eq_singleton (Conjunction.and u k).uncut.2) ?_
      simpa using (Conjunction.and u k).isPhrase
    have hand : split "and".toList (unwrap (Conjunction.and u k).render) =
        (Conjunction.and u k).operands.map Operand.render := by
      rw [hunwrap, Conjunction.split_render]
    have hmany : 2 ≤ (split "and".toList (unwrap (Conjunction.and u k).render)).length := by
      rw [hand]
      cases k <;> exact Nat.le_add_left _ _
    rw [read_conjunction hne hor hmany, hand, List.flatMap_map]

/-- Of alternatives only the first counts. -/
theorem Tree.read_or (k : Conjunction) (c : Tree) :
    read (Tree.or k c).render = (Tree.or k c).denote := by
  have hunwrap := Tree.unwrap_or k c
  have hne : unwrap (Tree.or k c).render ≠ [] := by
    rw [hunwrap]
    exact (Tree.or k c).isPhrase.ne_nil
  obtain ⟨second, others, hsplit⟩ : ∃ second others,
      split "or".toList (unwrap (Tree.or k c).render) = k.render :: second :: others := by
    rw [hunwrap, Tree.split_render]
    cases c <;> exact ⟨_, _, rfl⟩
  rw [read_alternatives hne hsplit, k.isDelayedTerm_unwrap]
  rfl

mutual

theorem Operand.read_render : (u : Operand) → read u.render = u.denote
  | .atom a => read_atom a
  | .group c => by
    have hunwrap : unwrap (Operand.group c).render = unwrap c.render :=
      unwrap_parentheses c.isPhrase.balanced
    rw [read_congr hunwrap, Tree.read_render c]
    rfl

theorem Conjunction.read_render : (k : Conjunction) → read k.render = k.denote
  | .one u => Operand.read_render u
  | .and u k => by
    rw [Conjunction.read_eq_flatMap, Conjunction.operands, List.flatMap_cons,
      ← Conjunction.read_eq_flatMap, Operand.read_render u, Conjunction.read_render k]
    rfl

/-- **A condition is read as what it says.** -/
theorem Tree.read_render : (c : Tree) → read c.render = c.denote
  | .one k => Conjunction.read_render k
  | .or k c => Tree.read_or k c

end

/-! ## Reading two conditions at once -/

/-- What cannot be cut at `OR` is cut at `AND` or read as a term. -/
theorem read_of_not_alternatives {t : Text} (hne : (unwrap t).isEmpty = false)
    (hor : (split "or".toList (unwrap t)).length < 2) :
    read t = if 2 ≤ (split "and".toList (unwrap t)).length then
      (split "and".toList (unwrap t)).flatMap read else ofTerm (unwrap t) := by
  have hand : (split "and".toList (unwrap t)).attach.flatMap (fun part => read part.1) =
      (split "and".toList (unwrap t)).flatMap read := by
    rw [List.flatMap_subtype fun _ _ => rfl, List.unattach_attach]
  rw [read, if_neg (by rw [hne]; exact Bool.false_ne_true), ← hand]
  rcases hparts : split "or".toList (unwrap t) with _ | ⟨first, _ | ⟨second, others⟩⟩
  · rfl
  · rfl
  · rw [hparts] at hor
    exact absurd hor (by simp)

theorem forall₂_flatMap {α β γ δ : Type} {R : α → β → Prop} {S : γ → δ → Prop} {xs : List α}
    {ys : List β} {f : α → List γ} {f' : β → List δ} (h : List.Forall₂ R xs ys)
    (hf : ∀ x ∈ xs, ∀ y, R x y → List.Forall₂ S (f x) (f' y)) :
    List.Forall₂ S (xs.flatMap f) (ys.flatMap f') := by
  induction h with
  | nil => exact .nil
  | @cons x y xs ys hxy _ ih =>
    rw [List.flatMap_cons, List.flatMap_cons]
    refine List.rel_append (hf x List.mem_cons_self y hxy) (ih fun a ha => ?_)
    exact hf a (List.mem_cons_of_mem x ha)

/-- A relation between texts that taking them apart keeps, and a relation between the predicates of
the terms that are left. -/
structure ReadsInStep (R : Text → Text → Prop) (V : Predicate → Predicate → Prop) : Prop where
  isEmpty_eq : ∀ {t t' : Text}, R t t' → t.isEmpty = t'.isEmpty
  unwrap : ∀ {t t' : Text}, R t t' → R (unwrap t) (unwrap t')
  split : ∀ {keyword : List Char} {t t' : Text}, IsJoiner keyword → R t t' →
    List.Forall₂ R (split keyword t) (split keyword t')
  isDelayedTerm_eq : ∀ {t t' : Text}, R t t' → isDelayedTerm t = isDelayedTerm t'
  ofTerm : ∀ {t t' : Text}, R t t' → List.Forall₂ V (ofTerm t) (ofTerm t')
  lateWork : V .lateWork .lateWork

/-- **Related conditions are read as related predicates.** -/
theorem ReadsInStep.read {R : Text → Text → Prop} {V : Predicate → Predicate → Prop}
    (hR : ReadsInStep R V) {t t' : Text} (h : R t t') :
    List.Forall₂ V (read t) (read t') := by
  induction hlen : t.length using Nat.strongRecOn generalizing t t' with
  | _ n ih =>
    have hcondition := hR.unwrap h
    have hor := hR.split .or hcondition
    have hand := hR.split .and hcondition
    have hsame := hR.isEmpty_eq hcondition
    cases hempty : (Condition.unwrap t).isEmpty with
    | true =>
      rw [Condition.read, if_pos hempty, Condition.read, if_pos (hsame ▸ hempty)]
      exact .nil
    | false =>
      have hempty' : (Condition.unwrap t').isEmpty = false := hsame ▸ hempty
      have hne : ∀ {u : Text}, u.isEmpty = false → u ≠ [] := List.isEmpty_eq_false_iff.mp
      by_cases hmany : (Condition.split "or".toList (Condition.unwrap t)).length < 2
      · have hmany' := hor.length_eq ▸ hmany
        rw [read_of_not_alternatives hempty hmany, read_of_not_alternatives hempty' hmany',
          ← hand.length_eq]
        split
        · next hparts =>
          refine forall₂_flatMap hand fun part hpart part' hpart' => ih _ ?_ hpart' rfl
          rw [← hlen]
          exact Nat.lt_of_lt_of_le (length_lt_of_mem_split hparts hpart) (length_unwrap_le t)
        · exact hR.ofTerm hcondition
      · generalize hparts : Condition.split "or".toList (Condition.unwrap t) = parts at hor hmany
        generalize hparts' : Condition.split "or".toList (Condition.unwrap t') = parts' at hor
        cases hor with
        | nil => exact absurd (Nat.zero_lt_two) hmany
        | cons hfirst hrest =>
          cases hrest with
          | nil => exact absurd Nat.one_lt_two hmany
          | cons hsecond hothers =>
            rw [read_alternatives (hne hempty) hparts, read_alternatives (hne hempty') hparts',
              hR.isDelayedTerm_eq (hR.unwrap hfirst)]
            split
            · exact .cons hR.lateWork .nil
            · exact .nil

end Condition
end QueryDesk
