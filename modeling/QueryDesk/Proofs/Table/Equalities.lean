import QueryDesk.Proofs.Condition.Forms
import QueryDesk.Proofs.Statement.Clauses
import QueryDesk.Proofs.Table.LimitForms
import QueryDesk.Proofs.Table.Reports

/-!
# Statements on one value of a column

The simplest question to a table is for the rows that hold a value in a column, and the value stands
in a literal (`equalityStatement`).  The statement has no sort order and no row limit, whatever the
value (`rowLimit_equalityStatement`), so all depends on what is read from its condition.

That is not always the value.  A term is matched against its forms with its literals in it, and the
forms do not know which quote opened the literal: a value that holds the other quote is cut off
there, and words in a value that look like a comparison are taken for one.  These are the only two
ways to go wrong (`predicates_equalityStatement_iff`).  A value without quotes and without signs of
comparison is read exactly (`predicates_equalityStatement_of_unsigned`), and where the value is read
exactly the rows are exactly those that hold it (`execute_equalityStatement`).
-/

set_option autoImplicit false

namespace QueryDesk

namespace Condition

/-! ## Values that are read -/

/-- Says that a text that a condition compares with holds no quote. -/
def HoldsNoQuote (predicate : Predicate) : Prop :=
  ∀ name content, predicate = .equals name (.text content) →
    ∀ g ∈ content, Literal.isQuote g = false

theorem ofForms_holdsNoQuote : OfForms HoldsNoQuote where
  equality p found h := by
    simp only [equality?, Option.bind_eq_bind, Option.bind_eq_some_iff, Option.some.injEq] at h
    obtain ⟨_, -, _, -, _, -, _, -, ⟨span, _⟩, hspan, _, -, rfl⟩ := h
    rintro name content ⟨⟩ g hg
    rw [Place.span1?_eq] at hspan
    split at hspan
    · cases hspan
    · cases hspan
      simpa using List.mem_takeWhile_imp hg
  beforeNow p found h := by
    simp only [beforeNow?, Option.bind_eq_bind, Option.bind_eq_some_iff, Option.some.injEq] at h
    obtain ⟨_, -, _, -, _, -, _, -, _, -, rfl⟩ := h
    exact fun _ _ heq => Predicate.noConfusion heq
  stock _ _ heq := Predicate.noConfusion heq
  quarter _ _ heq := Predicate.noConfusion heq
  late _ _ heq := Predicate.noConfusion heq

end Condition

namespace Statement

open Condition

/-! ## The statement -/

/-- The statement on the orders with a value in a column. -/
def equalityStatement (column : EqualityColumn) (q : Glyph) (value : Text) : Text :=
  Text.of "SELECT * FROM " ++
    (Text.of "sales_orders" ++ (Text.of " WHERE " ++ equality column q value))

variable {q : Glyph} {value : Text} (hq : Literal.isQuote q = true) (column : EqualityColumn)

theorem target_equalityStatement (q : Glyph) (value : Text) :
    target (equalityStatement column q value) = .ok (Text.of "sales_orders") := by
  have hselect : isSelect (equalityStatement column q value) = true := isSelect_select _
  have hlower : (equalityStatement column q value).lower = Text.of "select * from " ++
      (Text.of "sales_orders" ++ (Text.of " WHERE " ++ equality column q value).lower) := rfl
  have hoccurs : Text.of "sales_orders" <:+: (equalityStatement column q value).lower :=
    hlower ▸ ⟨_, _, List.append_assoc _ _ _⟩
  have hfind : (tableNames.find? fun name =>
      name.occursIn (equalityStatement column q value).lower) = some (Text.of "sales_orders") :=
    List.find?_cons_of_pos (Text.occursIn_iff.mpr hoccurs)
  rw [target, if_pos hselect, table, hfind]

include hq in
/-- A clause that does not begin in front of the literal is not found at all. -/
theorem firstMatch_mask_equalityStatement {α : Type} {c : Char} (hc : c ∈ ['w', 'o', 'l', 't', 's'])
    (cs : List Char) (more : Place → Option α) (hvalue : q ∉ value)
    (hfront : Place.Avoids (fun p => p.edge?.bind fun p => (p.word? (c :: cs)).bind more) none
      (Text.of "SELECT * FROM " ++ (Text.of "sales_orders" ++
        (Text.of " WHERE " ++ (Text.of column.name ++ Text.of " = "))))) :
    (Place.start (Literal.mask (equalityStatement column q value))).firstMatch
      (fun p => p.edge?.bind fun p => (p.word? (c :: cs)).bind more) = none := by
  have hmask : Literal.mask (equalityStatement column q value) =
      (Text.of "SELECT * FROM " ++ (Text.of "sales_orders" ++ (Text.of " WHERE " ++
        (Text.of column.name ++ Text.of " = ")))) ++
          (q :: (List.replicate value.length Literal.filler ++ [q]) ++ []) := by
    rw [equalityStatement, mask_statement (by decide), mask_equality hq hvalue]
    simp only [List.append_assoc, List.append_nil]
  have hliteral : ∀ g ∈ q :: (List.replicate value.length Literal.filler ++ [q]),
      Literal.isQuote g = true ∨ g = Literal.filler := by
    intro g hg
    rw [List.mem_cons, List.mem_append, List.mem_singleton] at hg
    rcases hg with rfl | hg | rfl
    · exact .inl hq
    · exact .inr (List.eq_of_mem_replicate hg)
    · exact .inl hq
  have hskips := Literal.skipsLiterals_keyword hc cs more
  rw [hmask, Place.start, Place.firstMatch_append hfront,
    Place.firstMatch_append (hskips.avoids hliteral _)]
  exact Place.keyword?_nil cs more _

include hq in
theorem sort?_equalityStatement (hvalue : q ∉ value) :
    sort? (equalityStatement column q value) = none := by
  refine firstMatch_mask_equalityStatement (c := 'o') hq column (by decide) _ _ hvalue ?_
  cases column <;> (repeat refine ⟨fun _ => rfl, ?_⟩) <;> exact trivial

include hq in
theorem rowLimit_equalityStatement (hvalue : q ∉ value) :
    rowLimit (equalityStatement column q value) = .ok none := by
  have hlimit : (Place.start (Literal.mask (equalityStatement column q value))).firstMatch limit? =
      none := by
    refine firstMatch_mask_equalityStatement (c := 'l') hq column (by decide) _ _ hvalue ?_
    cases column <;> (repeat refine ⟨fun _ => rfl, ?_⟩) <;> exact trivial
  have htop : (Place.start (Literal.mask (equalityStatement column q value))).firstMatch top? =
      none := by
    refine firstMatch_mask_equalityStatement (c := 's') hq column (by decide) _ _ hvalue ?_
    cases column <;> (repeat refine ⟨fun _ => rfl, ?_⟩) <;> exact trivial
  refine rowLimit_eq_none ?_
  rw [limitText?, hlimit, htop]
  rfl

/-! ## What is read -/

include hq in
theorem predicates_equalityStatement (hvalue : q ∉ value) :
    predicates (equalityStatement column q value) = ofTerm (equality column q value) := by
  have htable : Text.of "sales_orders" ∈ tableNames := by decide
  have hclause := whereText?_phrase htable
    (isPhrase_equality hq hvalue column) (isClear_equality hq hvalue column) .none
  rw [Tail.render, List.append_nil] at hclause
  rw [predicates, equalityStatement, hclause]
  exact read_equality hq hvalue column

include hq in
/-- **A value is read exactly if it holds no quote and asks for nothing by itself.** -/
theorem predicates_equalityStatement_iff (hne : value ≠ []) (hvalue : q ∉ value) :
    predicates (equalityStatement column q value) =
        [.equals (Text.of column.name) (.text value)] ↔
      (∀ g ∈ value, Literal.isQuote g = false) ∧ ofTerm (literal q value) = [] := by
  rw [predicates_equalityStatement hq column hvalue]
  constructor
  · intro h
    have hquotes : ∀ g ∈ value, Literal.isQuote g = false :=
      ofForms_holdsNoQuote.of_mem_ofTerm (h ▸ List.mem_singleton_self _) _ _ rfl
    rw [ofTerm_equality hq hquotes hne column] at h
    exact ⟨hquotes, (List.cons.inj h).2⟩
  · rintro ⟨hquotes, hsilent⟩
    rw [ofTerm_equality hq hquotes hne column, hsilent]

include hq in
/-- A value without quotes and without signs of comparison is read exactly. -/
theorem predicates_equalityStatement_of_unsigned (hne : value ≠ [])
    (hquotes : ∀ g ∈ value, Literal.isQuote g = false) (hless : .char '<' ∉ value)
    (hmore : .char '>' ∉ value) : predicates (equalityStatement column q value) =
      [.equals (Text.of column.name) (.text value)] := by
  have hvalue : q ∉ value := fun hmem => absurd (hq.symm.trans (hquotes q hmem)) (by decide)
  exact (predicates_equalityStatement_iff hq column hne hvalue).mpr
    ⟨hquotes, ofTerm_literal hq hquotes hless hmore⟩

include hq in
/-- A value that holds the other quote is cut off there. -/
theorem predicates_equalityStatement_cut {piece rest : Text} {r : Glyph}
    (hr : Literal.isQuote r = true) (hpiece : piece ≠ [])
    (hquotes : ∀ g ∈ piece, Literal.isQuote g = false) (hvalue : q ∉ piece ++ r :: rest) :
    ∃ others, predicates (equalityStatement column q (piece ++ r :: rest)) =
      .equals (Text.of column.name) (.text piece) :: others := by
  have hfound := equality?_equality hq hquotes column hr hpiece (rest ++ [q])
  have hassoc : equality column q (piece ++ r :: rest) =
      Text.of column.name ++ (Text.of " = " ++ q :: (piece ++ r :: (rest ++ [q]))) := by
    rw [equality, literal, List.append_assoc, List.cons_append]
  have hshort : (rest ++ [q]).length <
      (Text.of column.name ++ (Text.of " = " ++ q :: (piece ++ r :: (rest ++ [q])))).length := by
    simp only [List.length_append, List.length_cons]
    omega
  rw [predicates_equalityStatement hq column hvalue, hassoc, ofTerm,
    Place.allMatches_of_match hfound hshort]
  exact ⟨_, rfl⟩

end Statement

namespace Table

open Statement Condition

variable {q : Glyph} {value : Text}

/-- **A value that is read exactly selects exactly the rows that hold it**, whatever the rows. -/
theorem execute_equalityStatement (hq : Literal.isQuote q = true) (hvalue : q ∉ value)
    (column : EqualityColumn) (hread : predicates (equalityStatement column q value) =
      [.equals (Text.of column.name) (.text value)]) (tables : Tables) (now : Timestamp) :
    execute tables (equalityStatement column q value) now =
      .ok ((rowsOf tables (Text.of "sales_orders")).filter fun row =>
        (Value.field row (Text.of column.name)).text? == some value) := by
  have hkeeps : ∀ row ∈ rowsOf tables (Text.of "sales_orders"),
      Predicate.allHold now.asUniversal (id row) [.equals (Text.of column.name) (.text value)] =
        .ok ((Value.field row (Text.of column.name)).text? == some value) := by
    intro row _
    have hholds : (Predicate.equals (Text.of column.name) (.text value)).holds row now.asUniversal =
        .ok ((Value.field row (Text.of column.name)).text? == some value) := Value.same_text _ value
    rw [id_eq, Predicate.allHold_cons hholds rfl, Bool.and_true]
  have hkept := filter_map hkeeps
  rw [List.map_id, List.map_id] at hkept
  rw [execute, target_equalityStatement, Except.ok_bind,
    select_of_rowLimit (rowLimit_equalityStatement hq column hvalue), apply, hread,
    sort?_equalityStatement hq column hvalue, hkept]
  rfl

/-- **What a statement on one value comes to.**  The value is read exactly if it holds no quote and
asks for nothing by itself, and then the rows are exactly those that hold it, in their order.  What
the value asks for by itself, which takes a sign of comparison, is asked for as well; and a value
that holds the other quote is read up to there. -/
theorem selects_exact_value (hq : Literal.isQuote q = true) (hne : value ≠ []) (hvalue : q ∉ value)
    (column : EqualityColumn) :
    (predicates (equalityStatement column q value) =
        [.equals (Text.of column.name) (.text value)] ↔
      (∀ g ∈ value, Literal.isQuote g = false) ∧ ofTerm (literal q value) = []) ∧
    ((∀ g ∈ value, Literal.isQuote g = false) ∧ ofTerm (literal q value) = [] →
      ∀ (tables : Tables) (now : Timestamp),
        execute tables (equalityStatement column q value) now =
          .ok ((rowsOf tables (Text.of "sales_orders")).filter fun row =>
            (Value.field row (Text.of column.name)).text? == some value)) ∧
    ((∀ g ∈ value, Literal.isQuote g = false) →
      predicates (equalityStatement column q value) =
        .equals (Text.of column.name) (.text value) :: ofTerm (literal q value) ∧
      (.char '<' ∉ value → .char '>' ∉ value → ofTerm (literal q value) = [])) ∧
    ∀ (piece rest : Text) (r : Glyph), value = piece ++ r :: rest → Literal.isQuote r = true →
      piece ≠ [] → (∀ g ∈ piece, Literal.isQuote g = false) →
        ∃ others, predicates (equalityStatement column q value) =
          .equals (Text.of column.name) (.text piece) :: others := by
  have hiff := predicates_equalityStatement_iff hq column hne hvalue
  refine ⟨hiff, fun hexact => ?_, fun hquotes => ⟨?_, ?_⟩, ?_⟩
  · exact execute_equalityStatement hq hvalue column (hiff.mpr hexact)
  · rw [predicates_equalityStatement hq column hvalue, ofTerm_equality hq hquotes hne column]
  · exact ofTerm_literal hq hquotes
  · rintro piece rest r rfl hr hpiece hquotes
    exact predicates_equalityStatement_cut hq column hr hpiece hquotes hvalue

/-- Keywords, a parenthesis and another equality inside double quotes are part of the value. -/
theorem selects_exact_value_of_keywords :
    let value := Text.of "North OR (South AND status = late LIMIT 5"
    Literal.isQuote (.char '"') = true ∧ value ≠ [] ∧ .char '"' ∉ value ∧
      predicates (equalityStatement .region (.char '"') value) =
        [.equals (Text.of "region") (.text value)] ∧
      ∀ (tables : Tables) (now : Timestamp),
        execute tables (equalityStatement .region (.char '"') value) now =
          .ok ((rowsOf tables (Text.of "sales_orders")).filter fun row =>
            (Value.field row (Text.of "region")).text? == some value) := by
  intro value
  have hq : Literal.isQuote (.char '"') = true := rfl
  have hne : value ≠ [] := by decide
  have hvalue : .char '"' ∉ value := by decide
  have hquotes : ∀ g ∈ value, Literal.isQuote g = false := by decide
  obtain ⟨hread, hrows, hsilent, -⟩ := selects_exact_value hq hne hvalue .region
  have hexact := And.intro hquotes ((hsilent hquotes).2 (by decide) (by decide))
  exact ⟨hq, hne, hvalue, hread.mpr hexact, hrows hexact⟩

/-- A name with an apostrophe inside double quotes is not read exactly. -/
theorem not_exact_value_of_apostrophe :
    ¬∀ (column : EqualityColumn) (q : Glyph) (value : Text), Literal.isQuote q = true → value ≠ [] →
      q ∉ value → predicates (equalityStatement column q value) =
          [.equals (Text.of column.name) (.text value)] ∧
        ∀ (tables : Tables) (now : Timestamp),
          execute tables (equalityStatement column q value) now =
            .ok ((rowsOf tables (Text.of "sales_orders")).filter fun row =>
              (Value.field row (Text.of column.name)).text? == some value) := by
  intro h
  have hne : Text.of "O'Brien" ≠ [] := by decide
  have hvalue : .char '"' ∉ Text.of "O'Brien" := by decide
  have hread := (h .region (.char '"') (Text.of "O'Brien") rfl hne hvalue).1
  have hquotes := ((predicates_equalityStatement_iff rfl .region hne hvalue).mp hread).1
  exact absurd (hquotes (.char '\'') (by decide)) (by decide)

end Table
end QueryDesk
