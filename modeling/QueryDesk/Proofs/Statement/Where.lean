import QueryDesk.Proofs.Condition.Reading
import QueryDesk.Proofs.Condition.Depth
import QueryDesk.Table.Execute

/-!
# The conditions of a statement

A statement with a condition in writing behind its `WHERE` asks for what the condition says
(`predicates_render`).  In the masked statement the condition holds no word at which another clause
could begin, since its literals are low lines there (`Tree.avoids`); so the search for the end of
the clause passes over it and stops at the tail, and what is cut out is the condition itself.
-/

set_option autoImplicit false

namespace QueryDesk
namespace Statement

open Condition

/-! ## Words at which no clause begins -/

/-- Tests that no clause begins at any glyph of a text, given whether a word goes on in front: each
glyph goes on with a word, or begins neither `limit` nor `top` nor `order` with a blank behind. -/
def staysClear (inWord : Bool) : Text → Bool
  | [] => true
  | g :: t =>
    (inWord && g.isWord ||
      !g.agrees 'l' && !g.agrees 't' && differs "order".toList (g :: t)) && staysClear g.isWord t

theorem whereEnd?_cons {before : Option Glyph} {g : Glyph} {t : Text}
    (h : (before.any Glyph.isWord && g.isWord ||
      !g.agrees 'l' && !g.agrees 't' && differs "order".toList (g :: t)) = true) (more : Text) :
    whereEnd? ⟨before, g :: t ++ more⟩ = none := by
  have hnonempty : (g :: t ++ more).isEmpty = false := rfl
  simp only [whereEnd?, Place.edge?, hnonempty, Option.bind_eq_bind, Bool.or_false]
  by_cases hedge : (⟨before, g :: t ++ more⟩ : Place).atEdge = true
  · have hboth : (before.any Glyph.isWord && g.isWord) = false := by
      simp only [Place.atEdge, List.cons_append, List.head?_cons, Option.any_some] at hedge
      cases hb : before.any Glyph.isWord <;> cases hg : g.isWord <;> simp_all
    rw [hboth, Bool.false_or, Bool.and_eq_true, Bool.and_eq_true, Bool.not_eq_true',
      Bool.not_eq_true'] at h
    obtain ⟨⟨hl, ht⟩, horder⟩ := h
    have hlimit : Place.word? "limit".toList ⟨before, g :: t ++ more⟩ = none :=
      if_neg (Bool.eq_false_iff.mp hl)
    have htop : Place.word? "top".toList ⟨before, g :: t ++ more⟩ = none :=
      if_neg (Bool.eq_false_iff.mp ht)
    have hblank := blanks1?_word?_of_differs horder before more
    simp only [if_pos hedge, Option.bind_some, hlimit, htop]
    rw [← Option.bind_assoc, hblank]
    rfl
  · rw [if_neg hedge]
    rfl

theorem avoids_of_staysClear {before : Option Glyph} {t : Text}
    (h : staysClear (before.any Glyph.isWord) t = true) : Place.Avoids whereEnd? before t := by
  induction t generalizing before with
  | nil => exact trivial
  | cons g t ih =>
    rw [staysClear, Bool.and_eq_true] at h
    exact ⟨whereEnd?_cons h.1, ih h.2⟩

/-- A text at which no clause begins, whatever stands in front. -/
theorem avoids_of_forall {t : Text} (h : ∀ inWord, staysClear inWord t = true)
    (before : Option Glyph) : Place.Avoids whereEnd? before t :=
  avoids_of_staysClear (h _)

/-- A text in whose mask no clause begins, if no word goes on in front. -/
def IsClear (t : Text) : Prop :=
  ∀ before : Option Glyph, before.any Glyph.isWord = false →
    Place.Avoids whereEnd? before (Literal.mask t)

theorem isClear_join {s joiner t : Text} (hs : IsPhrase s) (hsc : IsClear s) (htc : IsClear t)
    (hj : joiner = Text.of " AND " ∨ joiner = Text.of " OR ") :
    IsClear (s ++ (joiner ++ t)) := by
  intro before hbefore
  have hmask : Literal.mask joiner = joiner := by rcases hj with rfl | rfl <;> rfl
  have hbalanced : IsBalanced joiner := by rcases hj with rfl | rfl <;> decide
  have hclear : ∀ inWord, staysClear inWord joiner = true := by
    rcases hj with rfl | rfl <;> decide
  have hlast : ∀ b, (Place.lastGlyph b joiner).any Glyph.isWord = false := by
    intro b
    rcases hj with rfl | rfl <;> rfl
  rw [Literal.mask_append hs.balanced, Literal.mask_append hbalanced, hmask]
  exact (hsc before hbefore).append ((avoids_of_forall hclear _).append (htc _ (hlast _)))

theorem staysClear_replicate {q : Glyph} (hq : Literal.isQuote q = true) (n : Nat) (t : Text)
    (inWord : Bool) :
    staysClear inWord (List.replicate n Literal.filler ++ q :: t) = staysClear false t := by
  induction n generalizing inWord with
  | zero => rcases Literal.eq_of_isQuote hq with rfl | rfl <;> cases inWord <;> rfl
  | succ n ih =>
    rw [List.replicate_succ, List.cons_append, staysClear, ih]
    cases inWord <;> rfl

/-- In front of its literal an equality is masked as it is. -/
theorem mask_equality {q : Glyph} {content : Text} (hq : Literal.isQuote q = true)
    (hcontent : q ∉ content) (column : EqualityColumn) : Literal.mask (equality column q content) =
      Text.of column.name ++ (Text.of " = " ++
        q :: (List.replicate content.length Literal.filler ++ [q])) := by
  have hliteral : Literal.maskFrom (some q) (content ++ [q]) =
      List.replicate content.length Literal.filler ++ [q] := Literal.maskFrom_content hcontent []
  rw [← hliteral]
  rcases Literal.eq_of_isQuote hq with rfl | rfl <;> cases column <;> rfl

theorem isClear_equality {q : Glyph} {content : Text} (hq : Literal.isQuote q = true)
    (hcontent : q ∉ content) (column : EqualityColumn) : IsClear (equality column q content) := by
  intro before hbefore
  have hclear : ∀ inWord, staysClear inWord
      (List.replicate content.length Literal.filler ++ [q]) = true := by
    intro inWord
    rw [staysClear_replicate hq]
    rfl
  refine avoids_of_staysClear ?_
  rw [hbefore, mask_equality hq hcontent]
  rcases Literal.eq_of_isQuote hq with rfl | rfl <;> cases column <;> exact hclear _

theorem isClear_atom (a : Atom) : IsClear a.render := by
  cases a with
  | equals column content => exact isClear_equality rfl content.quote_not_mem column
  | beforeNow column present =>
    refine fun before hbefore => avoids_of_staysClear ?_
    rw [hbefore]
    cases column <;> cases present <;> decide
  | lowStock =>
    refine fun before hbefore => avoids_of_staysClear ?_
    rw [hbefore]
    decide
  | lastQuarter =>
    refine fun before hbefore => avoids_of_staysClear ?_
    rw [hbefore]
    decide

theorem isClear_parentheses {t : Text} (ht : IsPhrase t) (hc : IsClear t) :
    IsClear (.char '(' :: (t ++ [.char ')'])) := by
  intro before _
  have hopen : ∀ inWord, staysClear inWord [.char '('] = true := by decide
  have hclose : ∀ inWord, staysClear inWord [.char ')'] = true := by decide
  have hmask : Literal.mask (.char '(' :: (t ++ [.char ')'])) =
      [.char '('] ++ (Literal.mask t ++ [.char ')']) := by
    show Glyph.char '(' :: Literal.mask (t ++ [.char ')']) = _
    rw [Literal.mask_append ht.balanced]
    rfl
  rw [hmask]
  exact (avoids_of_forall hopen _).append ((hc _ rfl).append (avoids_of_forall hclose _))

mutual

theorem isClear_operand : (u : Operand) → IsClear u.render
  | .atom a => isClear_atom a
  | .group c => isClear_parentheses c.isPhrase (isClear_tree c)

theorem isClear_conjunction : (k : Conjunction) → IsClear k.render
  | .one u => isClear_operand u
  | .and u k => isClear_join u.isPhrase (isClear_operand u) (isClear_conjunction k) (.inl rfl)

/-- **In the mask of a condition no clause begins.** -/
theorem isClear_tree : (c : Tree) → IsClear c.render
  | .one k => isClear_conjunction k
  | .or k c => isClear_join k.isPhrase (isClear_conjunction k) (isClear_tree c) (.inr rfl)

end

/-! ## Tails -/

/-- What may follow the conditions of a statement. -/
inductive Tail
  | none
  | order (column : Text)
  | limit (count : Text)

/-- A tail in writing. -/
def Tail.render : Tail → Text
  | none => []
  | order column => Text.of " ORDER BY " ++ column
  | limit count => Text.of " LIMIT " ++ count

/-- The blanks of a tail, which are in front of its clause. -/
def Tail.blanks : Tail → Text
  | none => []
  | _ => Text.of " "

/-- The search for the end of the conditions stops behind the blanks of the tail. -/
theorem firstMatch_tail (tail : Tail) (before : Option Glyph) :
    ∃ (clause : Text) (last : Place), tail.render = tail.blanks ++ clause ∧
      Place.firstMatch whereEnd? ⟨before, Literal.mask tail.render⟩ = some last ∧
      last.rest.length = clause.length := by
  have hblank : ∀ inWord, staysClear inWord [.char ' '] = true := by decide
  cases tail with
  | none =>
    have hend : whereEnd? ⟨before, []⟩ = some ⟨before, []⟩ := if_pos (Bool.or_true _)
    exact ⟨[], ⟨before, []⟩, rfl, hend, rfl⟩
  | order column =>
    have hskip := Place.firstMatch_append (avoids_of_forall hblank before)
      (Literal.mask (Text.of "ORDER BY " ++ column))
    exact ⟨Text.of "ORDER BY " ++ column,
      ⟨some (.char ' '), Literal.mask (Text.of "ORDER BY " ++ column)⟩, rfl, hskip,
      Literal.length_mask _⟩
  | limit count =>
    have hskip := Place.firstMatch_append (avoids_of_forall hblank before)
      (Literal.mask (Text.of "LIMIT " ++ count))
    exact ⟨Text.of "LIMIT " ++ count,
      ⟨some (.char ' '), Literal.mask (Text.of "LIMIT " ++ count)⟩, rfl, hskip,
      Literal.length_mask _⟩

/-! ## The clause -/

/-- No conditions begin in front of the `WHERE`. -/
theorem avoids_whereStart? {table : Text} (htable : table ∈ tableNames) :
    Place.Avoids whereStart? none (Text.of "SELECT * FROM " ++ (table ++ Text.of " ")) := by
  simp only [tableNames, List.mem_cons, List.not_mem_nil, or_false] at htable
  rcases htable with rfl | rfl | rfl | rfl <;> (repeat refine ⟨fun _ => rfl, ?_⟩) <;> exact trivial

/-- The search for the conditions of a statement stops at the text behind its `WHERE`. -/
theorem firstMatch_whereStart? {table : Text} (htable : table ∈ tableNames) {t : Text}
    (hne : t ≠ []) (ht : ∀ g ∈ t.head?, g.isBlank = false) :
    (Place.start (Text.of "SELECT * FROM " ++ (table ++ (Text.of " WHERE " ++ t)))).firstMatch
      whereStart? = some ⟨some (.char ' '), t⟩ := by
  have hkeyword : whereStart? ⟨some (.char ' '), Text.of "WHERE " ++ t⟩ =
      some ⟨some (.char ' '), t⟩ := by
    have hform : whereStart? ⟨some (.char ' '), Text.of "WHERE " ++ t⟩ =
        (Place.blanks1? ⟨some (.char 'E'), .char ' ' :: t⟩).bind fun p =>
          if p.rest.isEmpty then none else some p := rfl
    have hnonempty : ¬t.isEmpty = true := by rwa [List.isEmpty_iff]
    rw [hform, Place.blanks1?_space ht, Option.bind_some, if_neg hnonempty]
  have hassoc : Text.of "SELECT * FROM " ++ (table ++ (Text.of " WHERE " ++ t)) =
      (Text.of "SELECT * FROM " ++ (table ++ Text.of " ")) ++ (Text.of "WHERE " ++ t) := by
    rw [List.append_assoc, List.append_assoc]
    rfl
  have hskip := Place.firstMatch_append (avoids_whereStart? htable) (Text.of "WHERE " ++ t)
  rw [Place.lastGlyph_append, Place.lastGlyph_append] at hskip
  rw [Place.start, hassoc, hskip]
  exact Place.firstMatch_of_match hkeyword

theorem mask_statement {table : Text} (htable : table ∈ tableNames) (t : Text) :
    Literal.mask (Text.of "SELECT * FROM " ++ (table ++ (Text.of " WHERE " ++ t))) =
      Text.of "SELECT * FROM " ++ (table ++ (Text.of " WHERE " ++ Literal.mask t)) := by
  simp only [tableNames, List.mem_cons, List.not_mem_nil, or_false] at htable
  rcases htable with rfl | rfl | rfl | rfl <;> rfl

/-- What lies between two places is known by what lies behind them. -/
theorem between_append {s t u : Text} {first last : Place}
    (hfirst : first.rest.length = (t ++ u).length) (hlast : last.rest.length = u.length) :
    between (s ++ (t ++ u)) first last = t := by
  have hdrop : (s ++ (t ++ u)).length - (t ++ u).length = s.length := by
    rw [List.length_append, Nat.add_sub_cancel]
  have htake : (t ++ u).length - u.length = t.length := by
    rw [List.length_append, Nat.add_sub_cancel]
  rw [between, hfirst, hlast, hdrop, htake, List.drop_left, List.take_left]

/-- **The clause of a statement is the phrase that was written there.** -/
theorem whereText?_phrase {table : Text} (htable : table ∈ tableNames) {t : Text}
    (hphrase : IsPhrase t) (hclear : IsClear t) (tail : Tail) :
    whereText? (Text.of "SELECT * FROM " ++
      (table ++ (Text.of " WHERE " ++ (t ++ tail.render)))) = some t := by
  obtain ⟨g, rest, hrest⟩ : ∃ g rest, Literal.mask t = g :: rest := by
    refine List.exists_cons_of_ne_nil fun h => hphrase.ne_nil ?_
    rw [← List.length_eq_zero_iff, ← Literal.length_mask, h, List.length_nil]
  have hmask : Literal.mask (t ++ tail.render) =
      g :: (rest ++ Literal.mask tail.render) := by
    rw [Literal.mask_append hphrase.balanced, hrest, List.cons_append]
  have hhead : ∀ g' ∈ (Literal.mask (t ++ tail.render)).head?, g'.isBlank = false := by
    intro g' hg'
    rw [Literal.head?_mask, List.head?_append_of_ne_nil _ hphrase.ne_nil] at hg'
    exact hphrase.tight.head g' hg'
  have hfirst := firstMatch_whereStart? htable (by rw [hmask]; exact List.cons_ne_nil _ _) hhead
  rw [← mask_statement htable] at hfirst
  -- At least one glyph belongs to the conditions, so the search for their end begins behind it.
  have hclear' := hclear (some (.char ' ')) rfl
  rw [hrest] at hclear'
  obtain ⟨clause, last, htail, hend, hlast⟩ :=
    firstMatch_tail tail (Place.lastGlyph (some g) rest)
  have hsecond : Place.firstMatch whereEnd? ⟨some g, rest ++ Literal.mask tail.render⟩ =
      some last := by
    rw [Place.firstMatch_append hclear'.2, hend]
  have hbetween : between (Text.of "SELECT * FROM " ++
      (table ++ (Text.of " WHERE " ++ (t ++ tail.render))))
      ⟨some (.char ' '), Literal.mask (t ++ tail.render)⟩ last =
        t ++ tail.blanks := by
    have hlength : (Literal.mask (t ++ tail.render)).length =
        ((t ++ tail.blanks) ++ clause).length := by
      rw [Literal.length_mask, htail, List.append_assoc]
    have hassoc : Text.of "SELECT * FROM " ++
        (table ++ (Text.of " WHERE " ++ (t ++ tail.render))) =
          (Text.of "SELECT * FROM " ++ (table ++ Text.of " WHERE ")) ++
            ((t ++ tail.blanks) ++ clause) := by
      rw [htail]
      simp only [List.append_assoc]
    rw [hassoc]
    exact between_append hlength hlast
  have hblanks : ∀ b ∈ tail.blanks, b.isBlank = true := by
    intro b hb
    cases tail with
    | none => cases hb
    | order column => rw [List.mem_singleton.mp hb]; decide
    | limit count => rw [List.mem_singleton.mp hb]; decide
  have htrim : Text.trim (t ++ tail.blanks) = t :=
    (Text.trim_append_of_blank hblanks t).trans (Text.trim_eq_self hphrase.tight)
  have hdrop : t.dropEndWhile (· = .char ';') = t :=
    Text.dropEndWhile_eq_self fun g hg => decide_eq_false (hphrase.unended g hg)
  have hnonempty : ¬t.isEmpty = true := by
    rw [List.isEmpty_iff]
    exact hphrase.ne_nil
  have hnext : Place.next? ⟨some (.char ' '), Literal.mask (t ++ tail.render)⟩ =
      some ⟨some g, rest ++ Literal.mask tail.render⟩ := by
    rw [hmask]
    rfl
  simp only [whereText?, Option.bind_eq_bind, hfirst, hnext, hsecond, Option.bind_some, hbetween,
    htrim, hdrop, Text.trim_eq_self hphrase.tight, if_neg hnonempty]

/-- **A statement asks for what its condition says.** -/
theorem predicates_render {table : Text} (htable : table ∈ tableNames) (c : Tree) (tail : Tail) :
    predicates (Text.of "SELECT * FROM " ++
      (table ++ (Text.of " WHERE " ++ (c.render ++ tail.render)))) = c.denote := by
  rw [predicates, whereText?_phrase htable c.isPhrase (isClear_tree c) tail]
  exact c.read_render

/-- A keyword in a literal, and alternatives inside a conjunction. -/
theorem predicates_late_work_in_region :
    Text.of "work_orders" ∈ tableNames ∧
      predicates (Text.of "SELECT * FROM " ++ (Text.of "work_orders" ++ (Text.of " WHERE " ++
        (Text.of "region = 'A OR (B' AND ((status = 'Delayed') OR due_date < NOW())" ++
          Text.of " LIMIT 5")))) =
        [.equals (Text.of "region") (.text (Text.of "A OR (B")), .lateWork] := by
  have htable : Text.of "work_orders" ∈ tableNames := by decide
  exact ⟨htable, predicates_render htable
    (.one (.and (.atom (.equals .region ⟨Text.of "A OR (B", by decide, by decide⟩))
      (.one (.group (.or
        (.one (.group (.one (.one (.atom (.equals .status
          ⟨Text.of "Delayed", by decide, by decide⟩))))))
        (.one (.one (.atom (.beforeNow .dueDate .now)))))))))
    (.limit (Text.of "5"))⟩

end Statement
end QueryDesk
