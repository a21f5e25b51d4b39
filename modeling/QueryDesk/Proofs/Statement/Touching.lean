import QueryDesk.Proofs.Condition.Touching
import QueryDesk.Proofs.Statement.Respaced

/-!
# Blanks next to parentheses

How many blanks stand next to a parenthesis, and which, does not count, but that there is one does.
With another gap in its place a statement asks for the same (`predicates_respaced`).  Without some
of its blanks a condition is read as a line (`predicates_line`), and behind a `WHERE` that touches a
parenthesis no condition is found (`predicates_where_touching`).
-/

set_option autoImplicit false

namespace QueryDesk
namespace Statement

open Condition

variable {α : Type} {recognise : Place → Option α}

/-! ## Masks of conditions -/

/-- Says that in the mask of a text nothing is recognised, if no word goes on in front. -/
def Shuns (recognise : Place → Option α) (t : Text) : Prop :=
  ∀ before : Option Glyph, before.any Glyph.isWord = false →
    Place.Avoids recognise before (Literal.mask t)

theorem isQuote_of_isGlue {w : Text} (hw : IsGlue w) : ∀ g ∈ w, Literal.isQuote g = false := by
  have hjoiner : ∀ word ∈ ["AND", "OR"], ∀ g ∈ Text.of " )", ∀ h ∈ Text.of " (",
      ∀ a ∈ g :: (Text.of word ++ [h]), Literal.isQuote a = false := by decide
  cases hw with
  | opening => decide
  | closing => decide
  | joiner hword hg hh => exact hjoiner _ hword _ hg _ hh

/-- What atoms in writing and what stands between parts shun every condition in writing shuns. -/
theorem ofParts_shuns
    (hglue : ∀ {w : Text}, IsGlue w → ∀ before, Place.Avoids recognise before w)
    (hatom : ∀ a : Atom, Shuns recognise a.render) : OfParts fun t _ => Shuns recognise t where
  atom := hatom
  front hw ht before _ := by
    rw [Literal.mask_append_of_forall (isQuote_of_isGlue hw)]
    exact (hglue hw before).append (ht _ (hw.isWord_lastGlyph before))
  back {w t _} hw hphrase ht before hbefore := by
    have hmask : Literal.mask w = w := by
      have hall := Literal.mask_append_of_forall (isQuote_of_isGlue hw) []
      rwa [List.append_nil, show Literal.mask [] = [] from rfl, List.append_nil] at hall
    rw [Literal.mask_append hphrase.balanced, hmask]
    exact (ht before hbefore).append (hglue hw _)
  between hw hphrase hs ht before hbefore := by
    rw [Literal.mask_append hphrase.balanced, Literal.mask_append_of_forall (isQuote_of_isGlue hw)]
    exact (hs before hbefore).append ((hglue hw _).append (ht _ (hw.isWord_lastGlyph _)))

/-! ## Lines in a statement -/

theorem avoids_whereEnd?_of_isGlue {w : Text} (hw : IsGlue w) (before : Option Glyph) :
    Place.Avoids whereEnd? before w := by
  have hjoiner : ∀ word ∈ ["AND", "OR"], ∀ g ∈ Text.of " )", ∀ h ∈ Text.of " (",
      ∀ inWord, staysClear inWord (g :: (Text.of word ++ [h])) = true := by decide
  refine avoids_of_forall ?_ before
  cases hw with
  | opening => decide
  | closing => decide
  | joiner hword hg hh => exact hjoiner _ hword _ hg _ hh

theorem isClear_line (l : Line) : IsClear l.render :=
  (ofParts_shuns avoids_whereEnd?_of_isGlue isClear_atom).line l

/-- **A statement asks for what its line asks.** -/
theorem predicates_line {table : Text} (htable : table ∈ tableNames) (l : Line) (tail : Tail) :
    predicates (Text.of "SELECT * FROM " ++
      (table ++ (Text.of " WHERE " ++ (l.render ++ tail.render)))) = l.asks := by
  rw [predicates, whereText?_phrase htable l.isPhrase (isClear_line l) tail]
  exact l.read_render

/-! ## A `WHERE` that touches a parenthesis -/

/-- Conditions begin with the letter of their keyword. -/
theorem avoids_whereStart?_of_forall {t : Text} (h : ∀ g ∈ t, g.agrees 'w' = false)
    (before : Option Glyph) : Place.Avoids whereStart? before t := by
  induction t generalizing before with
  | nil => trivial
  | cons g t ih =>
    obtain ⟨hg, ht⟩ := List.forall_mem_cons.mp h
    exact ⟨fun more => Place.keyword?_eq_none hg _ _ before (t ++ more), ih ht _⟩

theorem avoids_whereStart?_anew {before : Option Glyph} (h : before.any Glyph.isWord = false)
    {t : Text} (ht : Place.Avoids whereStart? none t) : Place.Avoids whereStart? before t := by
  cases t with
  | nil => trivial
  | cons g t =>
    exact ⟨fun more => (Place.keyword?_anew (c := 'w') h _ _ _).trans (ht.1 more), ht.2⟩

theorem shuns_whereStart?_atom (a : Atom) : Shuns whereStart? a.render := by
  intro before hbefore
  cases a with
  | equals column content =>
    have hfront : ∀ g ∈ Text.of column.name ++ Text.of " = '", g.agrees 'w' = false := by
      cases column <;> decide
    have hmask : Literal.mask (Atom.equals column content).render =
        Text.of column.name ++ Text.of " = '" ++
          (List.replicate content.text.length Literal.filler ++ [.char '\'']) := by
      rw [List.append_assoc]
      exact mask_equality (q := .char '\'') rfl content.quote_not_mem column
    refine avoids_whereStart?_of_forall (fun g hg => ?_) before
    rw [hmask] at hg
    rcases List.mem_append.mp hg with hg | hg
    · exact hfront g hg
    · rcases List.mem_append.mp hg with hg | hg
      · rw [List.eq_of_mem_replicate hg]
        decide
      · rw [List.mem_singleton.mp hg]
        decide
  | beforeNow column present =>
    refine avoids_whereStart?_anew hbefore ?_
    cases column <;> cases present <;>
      (repeat (first | exact trivial | refine ⟨fun _ => rfl, ?_⟩))
  | lowStock => exact avoids_whereStart?_of_forall (by decide) before
  | lastQuarter => exact avoids_whereStart?_of_forall (by decide) before

theorem avoids_whereStart?_of_isGlue {w : Text} (hw : IsGlue w) (before : Option Glyph) :
    Place.Avoids whereStart? before w := by
  have hjoiner : ∀ word ∈ ["AND", "OR"], ∀ g ∈ Text.of " )", ∀ h ∈ Text.of " (",
      ∀ a ∈ g :: (Text.of word ++ [h]), a.agrees 'w' = false := by decide
  refine avoids_whereStart?_of_forall ?_ before
  cases hw with
  | opening => decide
  | closing => decide
  | joiner hword hg hh => exact hjoiner _ hword _ hg _ hh

/-- **Behind a `WHERE` that touches a parenthesis no condition is found.** -/
theorem predicates_where_touching {table : Text} (htable : table ∈ tableNames) (l : Line) :
    predicates (Text.of "SELECT * FROM " ++
      (table ++ (Text.of " WHERE" ++ (Piece.group l).render))) = [] := by
  have hgroup : Shuns whereStart? (l.render ++ Text.of ")") := by
    have hparts := ofParts_shuns avoids_whereStart?_of_isGlue shuns_whereStart?_atom
    exact @OfParts.back _ hparts _ _ l.atoms .closing l.isPhrase (hparts.line l)
  have hfront : Place.Avoids whereStart? none
      (Text.of "SELECT * FROM " ++ (table ++ Text.of " WHERE(")) := by
    simp only [tableNames, List.mem_cons, List.not_mem_nil, or_false] at htable
    rcases htable with rfl | rfl | rfl | rfl <;>
      (repeat (first | exact trivial | refine ⟨fun _ => rfl, ?_⟩))
  have hmask : Literal.mask (Text.of "SELECT * FROM " ++
      (table ++ (Text.of " WHERE" ++ (Piece.group l).render))) =
        (Text.of "SELECT * FROM " ++ (table ++ Text.of " WHERE(")) ++
          Literal.mask (l.render ++ Text.of ")") := by
    simp only [tableNames, List.mem_cons, List.not_mem_nil, or_false] at htable
    rcases htable with rfl | rfl | rfl | rfl <;> rfl
  have hlast : Place.lastGlyph none (Text.of "SELECT * FROM " ++ (table ++ Text.of " WHERE(")) =
      some (.char '(') := by
    rw [Place.lastGlyph_append, Place.lastGlyph_append]
    rfl
  have hnone : (Place.start (Literal.mask (Text.of "SELECT * FROM " ++
      (table ++ (Text.of " WHERE" ++ (Piece.group l).render))))).firstMatch whereStart? =
        none := by
    have hskip := Place.firstMatch_append (hgroup (some (.char '(')) (by decide)) []
    rw [List.append_nil] at hskip
    rw [hmask, Place.start, Place.firstMatch_append hfront, hlast, hskip]
    exact Place.keyword?_nil _ _ _
  rw [predicates, whereText?, hnone]
  rfl

/-! ## Blanks next to parentheses -/

/-- **Next to a parenthesis any blanks serve, and some must be there.**  A gap outside literals may
be any other gap, unless an equality reads on over it.  Without some of its blanks a condition asks
for what its line asks: with all of them that is what it says, but never if it has alternatives and
none of them is seen.  Behind a `WHERE` that touches a parenthesis nothing is asked for. -/
theorem blanks_next_to_parentheses {r r' a b table : Text} (hr : IsGap r) (hr' : IsGap r')
    (ha : Literal.behind none a = none) (hon : ¬ReadsOn a) (htable : table ∈ tableNames)
    (l : Line) (tail : Tail) :
    predicates (a ++ (r ++ b)) = predicates (a ++ (r' ++ b)) ∧
    predicates (Text.of "SELECT * FROM " ++
      (table ++ (Text.of " WHERE " ++ (l.render ++ tail.render)))) = l.asks ∧
    predicates (Text.of "SELECT * FROM " ++
      (table ++ (Text.of " WHERE " ++ (l.spaced.render ++ tail.render)))) = l.spaced.denote ∧
    (l.isSpaced = true → l.asks = l.spaced.denote) ∧
    (l.hasOr = true → l.hasSeen .or = false → l.asks ≠ l.spaced.denote) ∧
    predicates (Text.of "SELECT * FROM " ++
      (table ++ (Text.of " WHERE" ++ (Piece.group l).render))) = [] := by
  have hspaced : predicates (Text.of "SELECT * FROM " ++
      (table ++ (Text.of " WHERE " ++ (l.spaced.render ++ tail.render)))) = l.spaced.denote := by
    rw [predicates, whereText?_phrase htable l.spaced.isPhrase (isClear_tree l.spaced) tail]
    exact l.spaced.read_render
  exact ⟨predicates_respaced hr hr' (.gap b ha hon), predicates_line htable l tail, hspaced,
    Line.asks_eq_denote, Line.asks_ne_denote, predicates_where_touching htable l⟩

/-- Two statuses in parentheses, behind a line break, and behind nothing but the joiner. -/
theorem blanks_next_to_parentheses_statuses :
    let front := Text.of "SELECT * FROM work_orders WHERE status = 'pending' OR"
    let back := Text.of "(status = 'completed')"
    (IsGap (Text.of "\n\t ") ∧ IsGap (Text.of " ") ∧ Literal.behind none front = none ∧
      ¬ReadsOn front ∧ Text.of "work_orders" ∈ tableNames) ∧
    predicates (front ++ (Text.of "\n\t " ++ back)) = [] ∧
    predicates (front ++ back) =
      [.equals (Text.of "status") (.text (Text.of "pending")),
        .equals (Text.of "status") (.text (Text.of "completed"))] := by
  intro front back
  have hbreak : IsGap (Text.of "\n\t ") := by decide
  have hblank : IsGap (Text.of " ") := by decide
  have hbehind : Literal.behind none front = none := by decide
  have htable : Text.of "work_orders" ∈ tableNames := by decide
  have hon : ¬ReadsOn front := by
    have hlast : front = Text.of "SELECT * FROM work_orders WHERE status = 'pending" ++
        .char '\'' :: Text.of " OR" := rfl
    rw [hlast, readsOn_append_cons_iff (by decide) (by decide)]
    decide +kernel
  let status (t : Text) (hne : t ≠ []) (hplain : ∀ g ∈ t, isPlain g = true) : Piece :=
    .atom (.equals .status ⟨t, hne, hplain⟩)
  obtain ⟨hgap, hat, hapart, -⟩ := blanks_next_to_parentheses (b := back) hbreak hblank hbehind
    hon htable (.join (status (Text.of "pending") (by decide) (by decide)) ⟨.or, false, true⟩
      (.one (.group (.one (status (Text.of "completed") (by decide) (by decide)))))) .none
  exact ⟨⟨hbreak, hblank, hbehind, hon, htable⟩, hgap.trans hapart, hat⟩

/-- The blank between `OR` and a parenthesis counts. -/
theorem not_predicates_eq_without_blank :
    ¬∀ (r a b : Text), IsGap r → Literal.behind none (a ++ Text.of " OR") = none →
      predicates (a ++ (Text.of " OR" ++ (r ++ (Text.of "(" ++ b)))) =
        predicates (a ++ (Text.of " OR" ++ (Text.of "(" ++ b))) := by
  intro h
  have heq := h (Text.of " ") (Text.of "SELECT * FROM work_orders WHERE status = 'pending'")
    (Text.of "status = 'completed')") (by decide) (by decide)
  exact absurd (congrArg List.length heq) (by decide +kernel)

end Statement
end QueryDesk
