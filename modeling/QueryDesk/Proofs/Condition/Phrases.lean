import QueryDesk.Proofs.Condition.Grammar
import QueryDesk.Proofs.Condition.Parts

/-!
# Conditions as phrases

What a reader may rely on in every condition in writing, whatever it says: it is balanced and has no
outer blanks (`IsPhrase`), and no keyword that stands in a literal or in parentheses cuts it
(`Operand.uncut`).
-/

set_option autoImplicit false

namespace QueryDesk
namespace Condition

/-- A text that closes what it opens, with something in it, no blanks around it and no semicolon at
the end. -/
structure IsPhrase (t : Text) : Prop where
  ne_nil : t ≠ []
  tight : t.IsTight
  unended : ∀ g ∈ t.getLast?, g ≠ .char ';'
  balanced : IsBalanced t

theorem IsPhrase.parentheses {t : Text} (h : IsPhrase t) :
    IsPhrase (.char '(' :: (t ++ [.char ')'])) := by
  have hlast : List.getLast? (.char '(' :: (t ++ [.char ')'])) = some (.char ')') := by
    rw [← List.cons_append, List.getLast?_concat]
  refine ⟨List.cons_ne_nil _ _, ⟨fun g hg => ?_, fun g hg => ?_⟩, fun g hg => ?_,
    h.balanced.parentheses⟩
  · cases hg; decide
  · rw [hlast] at hg; cases hg; decide
  · rw [hlast] at hg; cases hg; decide

/-- Two phrases and a joiner between them are a phrase. -/
theorem IsPhrase.join {s joiner t : Text} (hs : IsPhrase s) (hj : IsBalanced joiner)
    (ht : IsPhrase t) : IsPhrase (s ++ (joiner ++ t)) := by
  have hlast : (s ++ (joiner ++ t)).getLast? = t.getLast? := by
    rw [List.getLast?_append_of_ne_nil _ (List.append_ne_nil_of_right_ne_nil joiner ht.ne_nil),
      List.getLast?_append_of_ne_nil _ ht.ne_nil]
  refine ⟨List.append_ne_nil_of_left_ne_nil hs.ne_nil _, ⟨fun g hg => ?_, fun g hg => ?_⟩,
    fun g hg => ?_, hs.balanced.append (hj.append ht.balanced)⟩
  · rw [List.head?_append_of_ne_nil _ hs.ne_nil] at hg
    exact hs.tight.head g hg
  · rw [hlast] at hg
    exact ht.tight.last g hg
  · rw [hlast] at hg
    exact ht.unended g hg

/-! ## Equalities -/

/-- Content between two quotes. -/
def literal (q : Glyph) (content : Text) : Text := q :: (content ++ [q])

/-- A column that is held equal to a literal, in writing. -/
def equality (column : EqualityColumn) (q : Glyph) (content : Text) : Text :=
  Text.of column.name ++ (Text.of " = " ++ literal q content)

/-- The two words that join conditions. -/
inductive IsJoiner : List Char → Prop
  | and : IsJoiner "and".toList
  | or : IsJoiner "or".toList

section

variable {q : Glyph} {content : Text} (hq : Literal.isQuote q = true) (hcontent : q ∉ content)
include hq hcontent

theorem isBalanced_literal : IsBalanced (literal q content) := by
  have hclose : closesAll ⟨some q, 0⟩ (content ++ [q]) = true := closesAll_literal hcontent rfl
  rcases Literal.eq_of_isQuote hq with rfl | rfl <;> exact hclose

theorem isPhrase_equality (column : EqualityColumn) : IsPhrase (equality column q content) := by
  have hfront : IsBalanced (Text.of column.name ++ Text.of " = ") := by cases column <;> decide
  have hlast : (equality column q content).getLast? = some q := by
    rw [equality, literal, ← List.cons_append, ← List.append_assoc, ← List.append_assoc,
      List.getLast?_concat]
  refine ⟨?_, ⟨fun g hg => ?_, fun g hg => ?_⟩, fun g hg => ?_, ?_⟩
  · cases column <;> exact List.cons_ne_nil _ _
  · cases column <;> cases hg <;> decide
  · rw [hlast] at hg
    cases hg
    rcases Literal.eq_of_isQuote hq with rfl | rfl <;> decide
  · rw [hlast] at hg
    cases hg
    rcases Literal.eq_of_isQuote hq with rfl | rfl <;> decide
  · rw [equality, ← List.append_assoc]
    exact hfront.append (isBalanced_literal hq hcontent)

/-- An equality is not cut, and neither is the blank in front of it. -/
theorem uncut_equality {keyword : List Char} (hk : IsJoiner keyword) (column : EqualityColumn) :
    Uncut keyword .outside (.char ' ' :: equality column q content) := by
  have hfront : Uncut keyword .outside
      (.char ' ' :: (Text.of column.name ++ (Text.of " = " ++ [q]))) := by
    rcases Literal.eq_of_isQuote hq with rfl | rfl <;> cases hk <;> cases column <;>
      exact uncut_of_isSolid (by decide) _
  have hlevel : Level.outside.behind
      (.char ' ' :: (Text.of column.name ++ (Text.of " = " ++ [q]))) = ⟨some q, 0⟩ := by
    rcases Literal.eq_of_isQuote hq with rfl | rfl <;> cases column <;> rfl
  have hquote : Uncut keyword ⟨some q, 0⟩ [q] := by
    rcases Literal.eq_of_isQuote hq with rfl | rfl <;> cases hk <;>
      exact uncut_of_isSolid (by decide) _
  have hliteral := (uncut_content hcontent).append
    (by rw [behind_content hcontent]; exact hquote)
  have hall := hfront.append (by rw [hlevel]; exact hliteral)
  rwa [List.cons_append, List.append_assoc, List.append_assoc] at hall

end

/-! ## Atoms -/

theorem Content.quote_not_mem (content : Content) : .char '\'' ∉ content.text := by
  intro h
  exact absurd (content.plain _ h) (by decide)

theorem Atom.isPhrase (a : Atom) : IsPhrase a.render := by
  cases a with
  | equals column content => exact isPhrase_equality rfl content.quote_not_mem column
  | beforeNow column present =>
    cases column <;> cases present <;>
      exact ⟨List.cons_ne_nil _ _, ⟨by decide, by decide⟩, by decide, by decide⟩
  | lowStock => exact ⟨List.cons_ne_nil _ _, ⟨by decide, by decide⟩, by decide, by decide⟩
  | lastQuarter => exact ⟨List.cons_ne_nil _ _, ⟨by decide, by decide⟩, by decide, by decide⟩

theorem Atom.head?_ne (a : Atom) : a.render.head? ≠ some (.char '(') := by
  cases a with
  | equals column content => cases column <;> exact fun h => absurd (Option.some.inj h) (by decide)
  | beforeNow column present => cases column <;> cases present <;> decide
  | lowStock => decide
  | lastQuarter => decide

/-- An atom is not cut, and neither is the blank in front of it. -/
theorem Atom.uncut {keyword : List Char} (hk : IsJoiner keyword) (a : Atom) :
    Uncut keyword .outside (.char ' ' :: a.render) := by
  cases a with
  | equals column content => exact uncut_equality rfl content.quote_not_mem hk column
  | beforeNow column present =>
    cases hk <;> cases column <;> cases present <;> exact uncut_of_isSolid (by decide) _
  | lowStock => cases hk <;> exact uncut_of_isSolid (by decide) _
  | lastQuarter => cases hk <;> exact uncut_of_isSolid (by decide) _

/-! ## Trees -/

mutual

theorem Operand.isPhrase : (u : Operand) → IsPhrase u.render
  | .atom a => a.isPhrase
  | .group c => c.isPhrase.parentheses

theorem Conjunction.isPhrase : (k : Conjunction) → IsPhrase k.render
  | .one u => u.isPhrase
  | .and u k => u.isPhrase.join (by decide) k.isPhrase

theorem Tree.isPhrase : (c : Tree) → IsPhrase c.render
  | .one k => k.isPhrase
  | .or k c => k.isPhrase.join (by decide) c.isPhrase

end

/-- A phrase in parentheses is not cut, and neither is the blank in front of it. -/
theorem IsPhrase.uncut_group {keyword : List Char} (hk : IsJoiner keyword) {t : Text}
    (h : IsPhrase t) :
    Uncut keyword .outside (.char ' ' :: (Text.of "(" ++ (t ++ Text.of ")"))) := by
  refine ⟨fun more => ?_, uncut_parentheses h.balanced⟩
  have hparenthesis : differs keyword [.char '('] = true := by cases hk <;> rfl
  rw [cutHere?_outside]
  exact behindKeyword?_eq_none (Or.inr ⟨rfl, hparenthesis⟩) ((t ++ [.char ')']) ++ more)

/-- An operand is not cut, and neither is the blank in front of it. -/
theorem Operand.uncut {keyword : List Char} (hk : IsJoiner keyword) (u : Operand) :
    Uncut keyword .outside (.char ' ' :: u.render) := by
  cases u with
  | atom a => exact a.uncut hk
  | group c => exact c.isPhrase.uncut_group hk

/-- A conjunction is not cut into alternatives. -/
theorem Conjunction.uncut : (k : Conjunction) → Uncut "or".toList .outside (.char ' ' :: k.render)
  | .one u => u.uncut .or
  | .and u k => by
    have hand : Uncut "or".toList .outside (Text.of " AND") := uncut_of_isSolid (by decide) _
    have hrest : Uncut "or".toList .outside (Text.of " AND" ++ .char ' ' :: k.render) :=
      hand.append (Conjunction.uncut k)
    have hlevel : Level.outside.behind (.char ' ' :: u.render) = .outside :=
      u.isPhrase.balanced.behind_eq
    exact (u.uncut .or).append (by rw [hlevel]; exact hrest)

end Condition
end QueryDesk
