import QueryDesk.Proofs.Condition.Lines

/-!
# Joiners that touch a parenthesis

A joiner without one of its blanks joins nothing: the pieces around it stay one term, and a term
asks for the atoms that it shows, form by form (`Line.read_run`).  So a line is read as what it asks
(`Line.read_render`), which with all its blanks is what it says (`Line.asks_eq_denote`).  Of
alternatives none of which is seen each atom is asked for, and that is never what they say
(`Line.asks_ne_denote`).
-/

set_option autoImplicit false

namespace QueryDesk
namespace Condition

/-! ## The parts of a line -/

theorem Joiner.isGlue (j : Joiner) {g h : Glyph} (hg : g ∈ Text.of " )") (hh : h ∈ Text.of " (") :
    IsGlue (g :: (j.word ++ [h])) := by
  cases j with
  | and => exact .joiner (s := "AND") (by decide) hg hh
  | or => exact .joiner (s := "OR") (by decide) hg hh

/-- A line that begins with parentheses has something behind the first. -/
theorem Line.render_eq_cons {l : Line} (h : l.head.isGroup = true) :
    l.render = .char '(' :: l.render.tail := by
  obtain ⟨more, hmore⟩ := l.exists_render_eq
  rw [hmore]
  cases hhead : l.head with
  | atom a => rw [hhead] at h; cases h
  | group c => rfl

namespace OfParts

variable {P : Text → List Atom → Prop}

/-- Behind a joiner comes a blank or a parenthesis, and something that has the property. -/
theorem exists_behind {l : Line} (hl : P l.render l.atoms)
    (htail : l.head.isGroup = true → P l.render.tail l.atoms) (x : Link) (u : Piece) :
    ∃ h t, (∀ g ∈ Text.of " )", IsGlue (g :: (x.joiner.word ++ [h]))) ∧ P t l.atoms ∧
      x.render u l.head ++ l.render =
        (if x.touchesFirst u then [] else Text.of " ") ++ (x.joiner.word ++ h :: t) := by
  rw [Link.render]
  cases hsecond : x.touchesSecond l.head with
  | true =>
    rw [Link.touchesSecond, Bool.and_eq_true] at hsecond
    refine ⟨.char '(', l.render.tail, fun g hg => x.joiner.isGlue hg (by decide),
      htail hsecond.2, ?_⟩
    rw [← Line.render_eq_cons hsecond.2, if_pos rfl, List.append_nil, List.append_assoc]
  | false =>
    refine ⟨.char ' ', l.render, fun g hg => x.joiner.isGlue hg (by decide), hl, ?_⟩
    simp [Text.of]

/-- What holds along the grammar holds of a line, and of what is behind its first parenthesis. -/
theorem line_tail (hP : OfParts P) : (l : Line) →
    P l.render l.atoms ∧ (l.head.isGroup = true → P l.render.tail l.atoms)
  | .one (.atom a) => ⟨hP.atom a, fun h => by cases h⟩
  | .one (.group c) => by
    have hback : P (c.render ++ Text.of ")") c.atoms :=
      hP.back .closing c.isPhrase (hP.line_tail c).1
    exact ⟨hP.front .opening hback, fun _ => hback⟩
  | .join (.atom a) x l => by
    obtain ⟨hl, htail⟩ := hP.line_tail l
    obtain ⟨h, t, hglue, ht, heq⟩ := exists_behind hl htail x (.atom a)
    have hfirst : x.touchesFirst (.atom a) = false := Bool.and_false _
    rw [hfirst, if_neg Bool.false_ne_true] at heq
    have hall := hP.between (hglue (.char ' ') (by decide)) a.isPhrase (hP.atom a) ht
    refine ⟨?_, fun h => by cases h⟩
    rw [Line.render, heq]
    simpa [Text.of, Piece.render, Line.atoms, Piece.atoms] using hall
  | .join (.group c) x l => by
    obtain ⟨hl, htail⟩ := hP.line_tail l
    obtain ⟨h, t, hglue, ht, heq⟩ := exists_behind hl htail x (.group c)
    have hc := (hP.line_tail c).1
    have hback : P (c.render ++ (Text.of ")" ++ (x.render (.group c) l.head ++ l.render)))
        (c.atoms ++ l.atoms) := by
      rw [heq]
      cases x.touchesFirst (.group c) with
      | true =>
        have hall := hP.between (hglue (.char ')') (by decide)) c.isPhrase hc ht
        simpa [Text.of] using hall
      | false =>
        have hjoined := hP.front (hglue (.char ' ') (by decide)) ht
        have hall := hP.between .closing c.isPhrase hc hjoined
        simpa [Text.of] using hall
    have hrender : (Line.join (.group c) x l).render = Text.of "(" ++
        (c.render ++ (Text.of ")" ++ (x.render (.group c) l.head ++ l.render))) := by
      simp [Line.render, Piece.render]
    rw [hrender]
    exact ⟨hP.front .opening hback, fun _ => hback⟩

/-- **What holds along the grammar holds of every line.** -/
theorem line (hP : OfParts P) (l : Line) : P l.render l.atoms := (hP.line_tail l).1

end OfParts

/-! ## Reading a line -/

namespace Line

/-- **Pieces between which no joiner is seen are read as one term.** -/
theorem read_run {u : Piece} {x : Link} {l : Line}
    (h : ∀ j, (join u x l).hasSeen j = false) :
    read (join u x l).render = byForm (join u x l).atoms := by
  have hsplit : ∀ j : Joiner,
      split j.keyword (unwrap (join u x l).render) = [(join u x l).render] := by
    intro j
    rw [unwrap_join, split_render, parts_eq_singleton (h j)]
    rfl
  have hne : unwrap (join u x l).render ≠ [] := by
    rw [unwrap_join]
    exact (join u x l).isPhrase.ne_nil
  have hone : (split "and".toList (unwrap (join u x l).render)).length < 2 := by
    rw [show split "and".toList _ = _ from hsplit .and]
    exact Nat.lt_succ_self 1
  rw [read_term hne (hsplit .or) hone, unwrap_join]
  exact ofTerm_of_collects fun form => (ofParts_collects form).line _

/-- What a line asks for if none of its alternatives is seen is what its parts ask for. -/
theorem read_of_conjuncts {l : Line} (hor : l.hasSeen .or = false)
    (hparts : (l.parts .and).flatMap (fun part => read part.render) = l.conjuncts) :
    read l.render = l.asks := by
  have hasks : l.asks = l.conjuncts := by
    rw [asks, Piece.asks, hor, if_neg Bool.false_ne_true]
  rw [hasks, ← hparts]
  cases hand : l.hasSeen .and with
  | false => rw [parts_eq_singleton hand, List.flatMap_cons, List.flatMap_nil, List.append_nil]
  | true =>
    obtain ⟨first, second, others, htwo⟩ := exists_two_parts hand
    obtain ⟨u, x, l, rfl⟩ : ∃ u x k, l = join u x k := by
      cases l with
      | one u => cases hand
      | join u x k => exact ⟨u, x, k, rfl⟩
    have hsplit : ∀ j : Joiner, split j.keyword (unwrap (join u x l).render) =
        ((join u x l).parts j).map render := by
      intro j
      rw [unwrap_join, split_render]
    have hne : unwrap (join u x l).render ≠ [] := by
      rw [unwrap_join]
      exact (join u x l).isPhrase.ne_nil
    have hsingle : split "or".toList (unwrap (join u x l).render) = [(join u x l).render] := by
      rw [show split "or".toList _ = _ from hsplit .or, parts_eq_singleton hor]
      rfl
    have hmany : 2 ≤ (split "and".toList (unwrap (join u x l).render)).length := by
      rw [show split "and".toList _ = _ from hsplit .and, htwo]
      exact Nat.le_add_left _ _
    rw [read_conjunction hne hsingle hmany, show split "and".toList _ = _ from hsplit .and,
      List.flatMap_map]

/-- Of alternatives that are seen only the first counts. -/
theorem read_of_hasSeen {l : Line} (hor : l.hasSeen .or = true) : read l.render = l.asks := by
  obtain ⟨u, x, l, rfl⟩ : ∃ u x k, l = join u x k := by
    cases l with
    | one u => cases hor
    | join u x k => exact ⟨u, x, k, rfl⟩
  obtain ⟨first, second, others, hparts⟩ := exists_two_parts hor
  have hne : unwrap (join u x l).render ≠ [] := by
    rw [unwrap_join]
    exact (join u x l).isPhrase.ne_nil
  have hsplit : split "or".toList (unwrap (join u x l).render) =
      first.render :: second.render :: others.map render := by
    rw [unwrap_join, show split "or".toList _ = _ from split_render .or _, hparts]
    rfl
  have hopens : first.isDelayed = (join u x l).opensDelayed := by
    rw [opensDelayed]
    rw [parts] at hparts
    split at hparts
    · next h =>
      obtain rfl : one u = first := (List.cons.inj hparts).1
      rw [h, Bool.true_and, isDelayed]
    · next h =>
      obtain ⟨k, ks, hk, -⟩ := l.exists_parts .or
      rw [hk, List.modifyHead_cons] at hparts
      obtain rfl : join u x k = first := (List.cons.inj hparts).1
      rw [Bool.not_eq_true] at h
      rw [h, Bool.false_and, isDelayed]
  rw [read_alternatives hne hsplit, first.isDelayedTerm_unwrap, hopens, asks, Piece.asks,
    if_pos hor]

end Line

mutual

theorem Piece.read_render : (u : Piece) → read u.render = u.asks
  | .atom a => by
    rw [Piece.render, read_atom, Piece.asks]
  | .group l => by
    rw [read_congr (Piece.unwrap_group l)]
    cases hor : l.hasSeen .or with
    | true => exact Line.read_of_hasSeen hor
    | false =>
      obtain ⟨first, others, hparts, -⟩ := l.exists_parts .and
      exact Line.read_of_conjuncts hor (by rw [hparts]; exact (Line.flatMap_parts l hor hparts).2.1)

/-- What the parts of a line ask for if none of its alternatives is seen. -/
theorem Line.flatMap_parts : (l : Line) → l.hasSeen .or = false → ∀ {first : Line}
    {others : List Line}, l.parts .and = first :: others → first.atoms = l.firstRun ∧
      (first :: others).flatMap (fun part => read part.render) = l.conjuncts ∧
      others.flatMap (fun part => read part.render) = l.laterConjuncts
  | .one u, _, _, _, rfl => by
    rw [List.flatMap_cons, List.flatMap_nil, List.append_nil, Line.conjuncts]
    exact ⟨rfl, Piece.read_render u, rfl⟩
  | .join u x l, hor, first, others, hparts => by
    rw [Line.hasSeen, Bool.or_eq_false_iff] at hor
    obtain ⟨k, ks, hk, hhead, hand, hmore⟩ := l.exists_parts .and
    obtain ⟨hrun, hconjuncts, hlater⟩ := Line.flatMap_parts l hor.2 hk
    rw [Line.parts, hk] at hparts
    rw [Line.firstRun, Line.conjuncts, Line.laterConjuncts]
    cases hseen : x.isSeen u l.head with
    | true =>
      have hjoiner : x.joiner = .and := by
        cases hj : x.joiner with
        | and => rfl
        | or => rw [hj, hseen] at hor; cases hor.1
      rw [hjoiner, hseen] at hparts
      obtain ⟨rfl, rfl⟩ := List.cons.inj hparts
      refine ⟨rfl, ?_, hconjuncts⟩
      rw [List.flatMap_cons, hconjuncts, if_pos rfl]
      exact congrArg (· ++ l.conjuncts) (Piece.read_render u)
    | false =>
      rw [hseen, Bool.and_false, if_neg Bool.false_ne_true] at hparts
      obtain ⟨rfl, rfl⟩ := List.cons.inj hparts
      have hnone : ∀ j, (Line.join u x k).hasSeen j = false := by
        intro j
        rw [Line.hasSeen, hhead, hseen, Bool.and_false, Bool.false_or]
        cases j with
        | and => exact hand
        | or => exact hmore .or hor.2
      refine ⟨congrArg (u.atoms ++ ·) hrun, ?_, hlater⟩
      rw [List.flatMap_cons, Line.read_run hnone, hlater, Line.atoms, hrun]
      rfl

end

/-- **A line is read as what it asks.** -/
theorem Line.read_render (l : Line) : read l.render = l.asks := by
  rw [← read_congr (Piece.unwrap_group l)]
  exact Piece.read_render (.group l)

/-! ## What is meant and what is asked for -/

theorem Operand.render_joined (u : Operand) (j : Joiner) (c : Tree) : (u.joined j c).render =
    u.render ++ (Text.of " " ++ (j.word ++ (Text.of " " ++ c.render))) := by
  cases j with
  | or => rfl
  | and =>
    cases c with
    | one k => rfl
    | or k c => simp [joined, Tree.render, Conjunction.render, Joiner.word, Text.of]

mutual

theorem Piece.render_spaced : (u : Piece) → u.isSpaced = true → u.spaced.render = u.render
  | .atom _, _ => rfl
  | .group l, h => by
    rw [Piece.spaced, Operand.render, Line.render_spaced l h, Piece.render]

/-- A line with all its blanks is the condition that it stands for, in writing. -/
theorem Line.render_spaced : (l : Line) → l.isSpaced = true → l.spaced.render = l.render
  | .one u, h => Piece.render_spaced u h
  | .join u x l, h => by
    rw [Line.isSpaced, Bool.and_eq_true, Bool.and_eq_true] at h
    rw [Line.spaced, Operand.render_joined, Piece.render_spaced u h.2.1,
      Line.render_spaced l h.2.2, Line.render, Link.render_of_isSeen h.1]
    simp only [List.append_assoc]

end

/-- **With all its blanks a line asks for what it says.** -/
theorem Line.asks_eq_denote {l : Line} (h : l.isSpaced = true) : l.asks = l.spaced.denote := by
  rw [← l.read_render, ← l.render_spaced h, Tree.read_render]

/-- Of atoms each is asked for. -/
theorem predicate_mem_byForm {atoms : List Atom} {a : Atom} (h : a ∈ atoms) :
    a.predicate ∈ byForm atoms := by
  have hform : a.predicate ∈ a.form.predicates atoms :=
    List.mem_map_of_mem (List.mem_filter.mpr ⟨h, by simp⟩)
  have honce : ∀ form : Form, a.form = form → (∀ b : Atom, b.form = form →
      b.predicate = a.predicate) → a.predicate ∈ (form.predicates atoms).take 1 := by
    rintro form rfl hsame
    cases hfound : a.form.predicates atoms with
    | nil => exact absurd (hfound ▸ hform) List.not_mem_nil
    | cons first others =>
      obtain ⟨b, hb, rfl⟩ := List.mem_map.mp (hfound ▸ List.mem_cons_self : first ∈ _)
      rw [hsame b (by simpa using (List.mem_filter.mp hb).2)]
      exact List.mem_cons_self
  simp only [byForm, List.mem_append]
  cases a with
  | equals column content => exact .inl (.inl (.inl hform))
  | beforeNow column present => exact .inl (.inl (.inr hform))
  | lowStock =>
    refine .inl (.inr (honce .lowStock rfl fun b hb => ?_))
    cases b <;> cases hb
    rfl
  | lastQuarter =>
    refine .inr (honce .lastQuarter rfl fun b hb => ?_)
    cases b <;> cases hb
    rfl

/-- No atom is the form for late work orders. -/
theorem Atom.predicate_ne_lateWork (a : Atom) : a.predicate ≠ .lateWork := by
  cases a <;> exact fun h => Predicate.noConfusion h

theorem ofParts_ne_nil : OfParts fun _ atoms => atoms ≠ [] where
  atom _ := List.cons_ne_nil _ _
  front _ h := h
  back _ _ h := h
  between _ _ hs _ := List.append_ne_nil_of_left_ne_nil hs _

/-- Atoms ask for something, and not for late work orders. -/
theorem exists_mem_byForm {atoms : List Atom} (h : atoms ≠ []) :
    ∃ predicate ∈ byForm atoms, predicate ≠ .lateWork := by
  obtain ⟨a, others, rfl⟩ := List.exists_cons_of_ne_nil h
  exact ⟨a.predicate, predicate_mem_byForm List.mem_cons_self, a.predicate_ne_lateWork⟩

namespace Line

/-- Alternatives of which none is seen ask for an atom. -/
theorem exists_mem_conjuncts : {l : Line} → l.hasOr = true → l.hasSeen .or = false →
    ∃ predicate ∈ l.conjuncts, predicate ≠ .lateWork
  | join u x l, h, hseen => by
    rw [hasSeen, Bool.or_eq_false_iff] at hseen
    rw [conjuncts]
    split
    · next hx =>
      rw [hx, Bool.and_true] at hseen
      rw [hasOr, hseen.1, Bool.false_or] at h
      obtain ⟨predicate, hmem, hne⟩ := exists_mem_conjuncts h hseen.2
      exact ⟨predicate, List.mem_append_right _ hmem, hne⟩
    · have hatoms : u.atoms ++ l.firstRun ≠ [] :=
        List.append_ne_nil_of_left_ne_nil (ofParts_ne_nil.line (one u)) _
      obtain ⟨predicate, hmem, hne⟩ := exists_mem_byForm hatoms
      exact ⟨predicate, List.mem_append_left _ hmem, hne⟩

/-- Alternatives in a line are alternatives of the condition that it stands for. -/
theorem exists_spaced_eq_or : {l : Line} → l.hasOr = true → ∃ k c, l.spaced = .or k c
  | join u x l, h => by
    rw [spaced]
    cases hj : x.joiner with
    | or => exact ⟨_, _, rfl⟩
    | and =>
      rw [hasOr, hj] at h
      obtain ⟨k, c, hspaced⟩ := exists_spaced_eq_or (l := l) (by simpa using h)
      rw [hspaced]
      exact ⟨_, _, rfl⟩

/-- Alternatives say that late work orders are asked for, or nothing. -/
theorem eq_lateWork_of_mem_denote {l : Line} (h : l.hasOr = true) :
    ∀ predicate ∈ l.spaced.denote, predicate = .lateWork := by
  obtain ⟨k, c, hspaced⟩ := exists_spaced_eq_or h
  intro predicate hmem
  rw [hspaced, Tree.denote] at hmem
  split at hmem
  · exact List.mem_singleton.mp hmem
  · exact absurd hmem List.not_mem_nil

/-- **Alternatives of which none is seen never ask for what they say.** -/
theorem asks_ne_denote {l : Line} (h : l.hasOr = true) (hseen : l.hasSeen .or = false) :
    l.asks ≠ l.spaced.denote := by
  obtain ⟨predicate, hmem, hne⟩ := exists_mem_conjuncts h hseen
  intro heq
  rw [asks, Piece.asks, hseen, if_neg Bool.false_ne_true] at heq
  exact hne (eq_lateWork_of_mem_denote h predicate (heq ▸ hmem))

end Line

end Condition
end QueryDesk
