import QueryDesk.Proofs.Condition.Collected

/-!
# Lines of conditions

Next to a parenthesis the blank beside a joiner may be left out in writing.  A *line* is a condition
with blanks left out at any of its joiners (`Line`); the condition that it stands for has them all
(`Line.spaced`).

A joiner is seen only with a blank on each side, so a line comes apart at the joiners that are seen,
and at no others (`Line.cut_render`).  What it asks for is what is left between them (`Line.asks`).
-/

set_option autoImplicit false

namespace QueryDesk
namespace Condition

/-! ## Lines -/

/-- A word that joins conditions. -/
inductive Joiner
  | and
  | or
  deriving DecidableEq

namespace Joiner

/-- The word as it is written. -/
def word : Joiner → Text
  | and => Text.of "AND"
  | or => Text.of "OR"

/-- The letters of the word. -/
def keyword : Joiner → List Char
  | and => "and".toList
  | or => "or".toList

theorem isJoiner : (j : Joiner) → IsJoiner j.keyword
  | and => .and
  | or => .or

end Joiner

/-- A joiner, and whether its blanks are left out if there is a parenthesis instead. -/
structure Link where
  joiner : Joiner
  tightInFront : Bool
  tightBehind : Bool

mutual

/-- What joiners join: an atom, or a line in parentheses. -/
inductive Piece
  | atom (a : Atom)
  | group (l : Line)

/-- Pieces, and a link between each and the next. -/
inductive Line
  | one (u : Piece)
  | join (u : Piece) (x : Link) (l : Line)

end

/-- Tests for parentheses. -/
def Piece.isGroup : Piece → Bool
  | atom _ => false
  | group _ => true

/-- The first piece. -/
def Line.head : Line → Piece
  | one u => u
  | join u _ _ => u

namespace Link

/-- Tests that a blank is left out in front of the joiner, behind the first of two pieces. -/
def touchesFirst (x : Link) (u : Piece) : Bool := x.tightInFront && u.isGroup

/-- Tests that a blank is left out behind the joiner, in front of the second of two pieces. -/
def touchesSecond (x : Link) (v : Piece) : Bool := x.tightBehind && v.isGroup

/-- Tests that a joiner has both its blanks. -/
def isSeen (x : Link) (u v : Piece) : Bool := !x.touchesFirst u && !x.touchesSecond v

/-- A joiner in writing, with its blanks. -/
def render (x : Link) (u v : Piece) : Text :=
  (if x.touchesFirst u then [] else Text.of " ") ++
    (x.joiner.word ++ if x.touchesSecond v then [] else Text.of " ")

end Link

mutual

/-- A piece in writing. -/
def Piece.render : Piece → Text
  | .atom a => a.render
  | .group l => Text.of "(" ++ (l.render ++ Text.of ")")

/-- A line in writing. -/
def Line.render : Line → Text
  | .one u => u.render
  | .join u x l => u.render ++ (x.render u l.head ++ l.render)

end

mutual

/-- The atoms of a piece, from left to right. -/
def Piece.atoms : Piece → List Atom
  | .atom a => [a]
  | .group l => l.atoms

/-- The atoms of a line, from left to right. -/
def Line.atoms : Line → List Atom
  | .one u => u.atoms
  | .join u _ l => u.atoms ++ l.atoms

end

/-! ## What is asked for -/

/-- Tests for a joiner that is seen, outside all parentheses. -/
def Line.hasSeen (j : Joiner) : Line → Bool
  | one _ => false
  | join u x l => (x.joiner = j && x.isSeen u l.head) || l.hasSeen j

mutual

/-- Tests for the atom `status = 'delayed'`, up to parentheses. -/
def Piece.isDelayed : Piece → Bool
  | .atom a => a.isDelayed
  | .group l => l.isDelayed

/-- Tests for the atom `status = 'delayed'`, up to parentheses. -/
def Line.isDelayed : Line → Bool
  | .one u => u.isDelayed
  | .join .. => false

end

/-- Tests that a line begins with the atom `status = 'delayed'` and an `OR` that is seen. -/
def Line.opensDelayed : Line → Bool
  | one _ => false
  | join u x l => (x.joiner = .or && x.isSeen u l.head) && u.isDelayed

/-- The atoms of the pieces up to the first joiner that is seen. -/
def Line.firstRun : Line → List Atom
  | one u => u.atoms
  | join u x l => if x.isSeen u l.head then u.atoms else u.atoms ++ l.firstRun

mutual

/-- What a piece asks of a row.  Of alternatives that are seen only the form for late work orders is
understood. -/
def Piece.asks : Piece → List Predicate
  | .atom a => [a.predicate]
  | .group l =>
    if l.hasSeen .or then if l.opensDelayed then [.lateWork] else [] else l.conjuncts

/-- What a line asks of a row if each joiner that is seen is taken for `AND`: of pieces that no such
joiner sets off, the atoms, form by form. -/
def Line.conjuncts : Line → List Predicate
  | .one u => u.asks
  | .join u x l =>
    if x.isSeen u l.head then u.asks ++ l.conjuncts
    else byForm (u.atoms ++ l.firstRun) ++ l.laterConjuncts

/-- What of it comes behind the first joiner that is seen. -/
def Line.laterConjuncts : Line → List Predicate
  | .one _ => []
  | .join u x l => if x.isSeen u l.head then l.conjuncts else l.laterConjuncts

end

/-- What a line asks of a row. -/
def Line.asks (l : Line) : List Predicate := (Piece.group l).asks

/-! ## The condition that is meant -/

/-- An operand in front of a condition. -/
def Operand.joined (u : Operand) : Joiner → Tree → Tree
  | .or, c => .or (.one u) c
  | .and, .one k => .one (.and u k)
  | .and, .or k c => .or (.and u k) c

mutual

/-- The operand that a piece stands for. -/
def Piece.spaced : Piece → Operand
  | .atom a => .atom a
  | .group l => .group l.spaced

/-- The condition that a line stands for, which has all its blanks. -/
def Line.spaced : Line → Tree
  | .one u => .one (.one u.spaced)
  | .join u x l => u.spaced.joined x.joiner l.spaced

end

mutual

/-- Tests that each joiner in a piece is seen. -/
def Piece.isSpaced : Piece → Bool
  | .atom _ => true
  | .group l => l.isSpaced

/-- Tests that each joiner in a line is seen. -/
def Line.isSpaced : Line → Bool
  | .one u => u.isSpaced
  | .join u x l => x.isSeen u l.head && (u.isSpaced && l.isSpaced)

end

/-- Tests for an `OR` outside all parentheses. -/
def Line.hasOr : Line → Bool
  | one _ => false
  | join _ x l => x.joiner = .or || l.hasOr

/-! ## Lines as phrases -/

namespace Link

variable (x : Link) (u v : Piece)

theorem isBalanced_render : IsBalanced (x.render u v) := by
  rw [render]
  cases x.joiner <;> cases x.touchesFirst u <;> cases x.touchesSecond v <;> decide

theorem render_ne_nil : x.render u v ≠ [] := by
  refine List.append_ne_nil_of_right_ne_nil _ (List.append_ne_nil_of_left_ne_nil ?_ _)
  cases x.joiner <;> decide

variable {x u v}

theorem render_of_isSeen (h : x.isSeen u v = true) :
    x.render u v = Text.of " " ++ (x.joiner.word ++ Text.of " ") := by
  rw [isSeen, Bool.and_eq_true, Bool.not_eq_true', Bool.not_eq_true'] at h
  rw [render, h.1, h.2]
  rfl

end Link

mutual

theorem Piece.isPhrase : (u : Piece) → IsPhrase u.render
  | .atom a => a.isPhrase
  | .group l => l.isPhrase.parentheses

theorem Line.isPhrase : (l : Line) → IsPhrase l.render
  | .one u => u.isPhrase
  | .join u x l => u.isPhrase.join (x.isBalanced_render u l.head) l.isPhrase

end

namespace Piece

/-- A piece is not cut, and neither is the blank in front of it. -/
theorem uncut {keyword : List Char} (hk : IsJoiner keyword) (u : Piece) :
    Uncut keyword .outside (.char ' ' :: u.render) := by
  cases u with
  | atom a => exact a.uncut hk
  | group l => exact l.isPhrase.uncut_group hk

/-- What a piece begins with closes before anything behind the piece. -/
theorem isWrapped_append (u : Piece) {more : Text} (hmore : more ≠ []) :
    isWrapped (u.render ++ more) = false := by
  cases u with
  | atom a => exact a.isWrapped_append more
  | group l => exact l.isPhrase.isWrapped_group_append hmore

/-- A piece with something behind it is not the term of late work orders. -/
theorem isDelayedTerm_append (u : Piece) {more : Text} (hmore : more ≠ []) :
    isDelayedTerm (u.render ++ more) = false := by
  cases u with
  | atom a => exact Condition.isDelayedTerm_append a hmore
  | group l => exact isDelayedTerm_parenthesis _

theorem unwrap_group (l : Line) : unwrap (Piece.group l).render = unwrap l.render :=
  unwrap_parentheses l.isPhrase.balanced

end Piece

/-- A line begins with its first piece. -/
theorem Line.exists_render_eq (l : Line) : ∃ more, l.render = l.head.render ++ more := by
  cases l with
  | one u => exact ⟨[], (List.append_nil _).symm⟩
  | join u x l => exact ⟨x.render u l.head ++ l.render, rfl⟩

theorem Line.unwrap_join (u : Piece) (x : Link) (l : Line) :
    unwrap (Line.join u x l).render = (Line.join u x l).render :=
  (Line.join u x l).isPhrase.unwrap_eq_self
    (u.isWrapped_append (List.append_ne_nil_of_left_ne_nil (x.render_ne_nil u l.head) _))

mutual

theorem Piece.isDelayedTerm_unwrap : (u : Piece) → isDelayedTerm (unwrap u.render) = u.isDelayed
  | .atom a => by
    rw [Piece.render, a.unwrap_render, isDelayedTerm_render]
    rfl
  | .group l => by
    rw [Piece.unwrap_group, Line.isDelayedTerm_unwrap l]
    rfl

theorem Line.isDelayedTerm_unwrap : (l : Line) → isDelayedTerm (unwrap l.render) = l.isDelayed
  | .one u => Piece.isDelayedTerm_unwrap u
  | .join u x l => by
    rw [Line.unwrap_join]
    exact u.isDelayedTerm_append (List.append_ne_nil_of_left_ne_nil (x.render_ne_nil u l.head) _)

end

/-! ## Cutting a line -/

/-- A text goes into the first part if it is not cut in front of the first glyph behind it. -/
theorem cut_append_cons {keyword : List Char} {level : Level} {s t part : Text} {g : Glyph}
    {parts : List Text} (hs : Uncut keyword level (s ++ [g]))
    (ht : cut keyword (level.behind s) (g :: t) = part :: parts) :
    cut keyword level (s ++ g :: t) = (s ++ part) :: parts := by
  induction s generalizing level with
  | nil => exact ht
  | cons a s ih =>
    have hat : cutHere? keyword level (a :: (s ++ [g] ++ t)) = none := hs.1 t
    rw [List.append_assoc, List.singleton_append] at hat
    exact cut_cons_of_none hat (ih hs.2 ht)

namespace Line

/-- The lines that the joiners of one kind set off, as far as they are seen. -/
def parts (j : Joiner) : Line → List Line
  | one u => [one u]
  | join u x l =>
    if x.joiner = j && x.isSeen u l.head then one u :: l.parts j
    else (l.parts j).modifyHead (join u x)

/-- The first part begins as the line does and has no more joiners that are seen. -/
theorem exists_parts (j : Joiner) : (l : Line) → ∃ first others, l.parts j = first :: others ∧
    first.head = l.head ∧ first.hasSeen j = false ∧
      ∀ i, l.hasSeen i = false → first.hasSeen i = false
  | one u => ⟨one u, [], rfl, rfl, rfl, fun _ => id⟩
  | join u x l => by
    obtain ⟨first, others, hparts, hhead, hown, hmore⟩ := l.exists_parts j
    rw [parts]
    split
    · exact ⟨one u, l.parts j, rfl, rfl, rfl, fun _ _ => rfl⟩
    · next h =>
      rw [Bool.not_eq_true] at h
      refine ⟨join u x first, others, by rw [hparts]; rfl, rfl, ?_, fun i hi => ?_⟩
      · rw [hasSeen, hhead, h, hown]
        rfl
      · rw [hasSeen, Bool.or_eq_false_iff] at hi ⊢
        rw [hhead]
        exact ⟨hi.1, hmore i hi.2⟩

theorem parts_eq_singleton {j : Joiner} : {l : Line} → l.hasSeen j = false → l.parts j = [l]
  | one u, _ => rfl
  | join u x l, h => by
    rw [hasSeen, Bool.or_eq_false_iff] at h
    rw [parts, h.1, if_neg Bool.false_ne_true, parts_eq_singleton h.2]
    rfl

theorem exists_two_parts {j : Joiner} : {l : Line} → l.hasSeen j = true →
    ∃ first second others, l.parts j = first :: second :: others
  | join u x l, h => by
    rw [parts]
    split
    · obtain ⟨first, others, hparts, -⟩ := l.exists_parts j
      exact ⟨one u, first, others, by rw [hparts]⟩
    · next hnot =>
      rw [hasSeen, Bool.or_eq_true] at h
      obtain ⟨first, second, others, hparts⟩ := exists_two_parts (h.resolve_left hnot)
      exact ⟨join u x first, second, others, by rw [hparts]; rfl⟩

/-- A joiner of another kind, or one that is not seen, cuts nothing. -/
theorem cut_link {j : Joiner} {x : Link} {u : Piece} {l : Line} {part : Text} {others : List Text}
    (h : (x.joiner = j && x.isSeen u l.head) = false)
    (hl : cut j.keyword .outside l.render = part :: others) :
    cut j.keyword .outside (x.render u l.head ++ l.render) =
      (x.render u l.head ++ part) :: others := by
  obtain ⟨more, hmore⟩ := l.exists_render_eq
  rw [Link.isSeen] at h
  rw [Link.render]
  generalize hfirst : x.touchesFirst u = first at h ⊢
  cases hsecond : x.touchesSecond l.head with
  | true =>
    obtain ⟨t, ht⟩ : ∃ t, l.render = .char '(' :: t := by
      rw [Link.touchesSecond, Bool.and_eq_true] at hsecond
      cases hhead : l.head with
      | atom a =>
        rw [hhead] at hsecond
        exact absurd hsecond.2 Bool.false_ne_true
      | group c => exact ⟨_, by rw [hmore, hhead]; rfl⟩
    rw [ht] at hl ⊢
    rw [if_pos rfl, List.append_nil]
    refine cut_append_cons ?_ ?_
    · cases j <;> cases x.joiner <;> cases first <;> exact uncut_of_isSolid (by decide) _
    · cases x.joiner <;> cases first <;> exact hl
  | false =>
    have hblank : cut j.keyword .outside (.char ' ' :: l.render) =
        (.char ' ' :: part) :: others := by
      refine cut_cons_of_none ?_ hl
      rw [hmore]
      exact (l.head.uncut j.isJoiner).1 more
    have hword : Uncut j.keyword .outside
        ((if first then [] else Text.of " ") ++ x.joiner.word) := by
      rw [hsecond] at h
      cases first with
      | true => cases j <;> cases x.joiner <;> exact uncut_of_isSolid (by decide) _
      | false =>
        generalize x.joiner = i at h ⊢
        cases j <;> cases i <;> first | exact uncut_of_isSolid (by decide) _ | cases h
    have hbehind : Level.outside.behind ((if first then [] else Text.of " ") ++ x.joiner.word) =
        .outside := by
      cases x.joiner <;> cases first <;> rfl
    have hall := cut_append hword (by rw [hbehind]; exact hblank)
    rw [if_neg Bool.false_ne_true]
    simpa [Text.of] using hall

/-- **A line is cut at the joiners that are seen.** -/
theorem cut_render (j : Joiner) : (l : Line) →
    cut j.keyword .outside l.render = (l.parts j).map render
  | one u => cut_eq_singleton (u.uncut j.isJoiner).2
  | join u x l => by
    obtain ⟨first, others, hparts, hhead, -⟩ := l.exists_parts j
    have hl := cut_render j l
    rw [hparts, List.map_cons] at hl
    rw [parts]
    split
    · next h =>
      obtain ⟨hj, hseen⟩ : x.joiner = j ∧ x.isSeen u l.head = true := by simpa using h
      subst hj
      rw [hparts, List.map_cons, List.map_cons, render, render, Link.render_of_isSeen hseen]
      refine cut_join u.isPhrase (u.uncut x.joiner.isJoiner) ?_ (by cases x.joiner <;> decide) hl
      cases x.joiner with
      | and => exact behindKeyword?_and l.isPhrase.tight.head
      | or => exact behindKeyword?_or l.isPhrase.tight.head
    · next h =>
      have hlink := cut_link (Bool.not_eq_true _ ▸ h) hl
      rw [← u.isPhrase.balanced.behind_eq] at hlink
      rw [hparts, List.modifyHead_cons, List.map_cons, render, render, hhead]
      exact cut_append (u.uncut j.isJoiner).2 hlink

theorem split_render (j : Joiner) (l : Line) :
    split j.keyword l.render = (l.parts j).map render := by
  refine split_eq (l.cut_render j) fun part hpart => ?_
  obtain ⟨k, -, rfl⟩ := List.mem_map.mp hpart
  exact k.isPhrase

end Line

end Condition
end QueryDesk
