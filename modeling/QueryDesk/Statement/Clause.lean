import QueryDesk.Statement.Condition
import QueryDesk.Number.Whole

/-!
# Clauses

A statement is not parsed as a whole: its `WHERE`, `ORDER BY` and `LIMIT` or `TOP` clauses are
looked for in the masked text, where no literal can look like a clause, and what they hold is cut
out of the statement itself at the same offsets.
-/

set_option autoImplicit false

namespace QueryDesk
namespace Statement

/-- The part of a statement that lies between two places of its masked text. -/
def between (statement : Text) (first last : Place) : Text :=
  (statement.drop (statement.length - first.rest.length)).take
    (first.rest.length - last.rest.length)

/-! ## Conditions -/

/-- Recognises the keyword of the conditions, with something behind it. -/
def whereStart? (p : Place) : Option Place := do
  let p ← p.edge?
  let p ← p.word? "where".toList
  let p ← p.blanks1?
  if p.rest.isEmpty then none else some p

/-- Recognises the beginning of the clause behind the conditions. -/
def whereEnd? (p : Place) : Option Place :=
  let order := do
    let q ← p.edge?
    let q ← q.word? "order".toList
    let q ← q.blanks1?
    let q ← q.word? "by".toList
    q.edge?
  let keyword (word : String) := do
    let q ← p.edge?
    let q ← q.word? word.toList
    q.edge?
  if order.isSome || (keyword "limit").isSome || (keyword "top").isSome || p.rest.isEmpty then
    some p
  else none

/-- The text of the conditions of a statement, at least one glyph long at first and then without
outer blanks and trailing semicolons. -/
def whereText? (statement : Text) : Option Text := do
  let first ← (Place.start (Literal.mask statement)).firstMatch whereStart?
  let second ← first.next?
  let last ← second.firstMatch whereEnd?
  let clause := ((between statement first last).trim.dropEndWhile (· = .char ';')).trim
  if clause.isEmpty then none else some clause

/-- The conditions of a statement. -/
def predicates (statement : Text) : List Predicate :=
  match whereText? statement with
  | some clause => Condition.read clause
  | none => []

/-! ## Order -/

/-- Recognises a sort order: a column, and possibly a second word, which counts if it says to
descend. -/
def sortKey? (p : Place) : Option SortKey := do
  let p ← p.edge?
  let p ← p.word? "order".toList
  let p ← p.blanks1?
  let p ← p.word? "by".toList
  let p ← p.blanks1?
  let (name, p) ← p.span1? Glyph.isWord
  let direction := do
    let p ← p.blanks1?
    p.span1? Glyph.isWord
  some ⟨column name, direction.any fun d => d.1.upper == Text.of "DESC"⟩

/-- The sort order of a statement. -/
def sort? (statement : Text) : Option SortKey :=
  (Place.start (Literal.mask statement)).firstMatch sortKey?

/-! ## Row limits -/

/-- Tests for a glyph of the value of a row limit. -/
def isLimitGlyph (g : Glyph) : Bool := !g.isBlank && !g.isOneOf [';', ',', ')']

/-- Steps over the value of a row limit: the places in front of it and behind it. -/
def limitValue? (p : Place) : Option (Place × Place) :=
  (p.span1? isLimitGlyph).map fun found => (p, found.2)

/-- Recognises `LIMIT` and its value. -/
def limit? (p : Place) : Option (Place × Place) := do
  let p ← p.edge?
  let p ← p.word? "limit".toList
  let p ← p.blanks1?
  limitValue? p

/-- Recognises `SELECT TOP` and its value, which may stand in parentheses; a parenthesis with no
value behind it is the value itself. -/
def top? (p : Place) : Option (Place × Place) := do
  let p ← p.edge?
  let p ← p.word? "select".toList
  let p ← p.blanks1?
  let p ← p.word? "top".toList
  let inside := do
    let q ← p.blanks.sign? ['(']
    limitValue? q.blanks
  inside.or (limitValue? p.blanks)

/-- The row limit that a value stands for. -/
def readLimit (form : LimitForm) (raw : Text) : Except Fault RowLimit :=
  if raw.isEmpty || !raw.all Glyph.isAsciiDigit then .error (.badLimit form.keyword raw)
  else
    match Number.readWhole raw with
    | .read n => .ok ⟨n, form⟩
    | .tooLong count => .error (.numeralTooLong count)
    | .malformed => .error (.badLimit form.keyword raw)

/-- The row limit of a statement: that of `LIMIT` if there is one, else that of `SELECT TOP`. -/
def rowLimit (statement : Text) : Except Fault (Option RowLimit) :=
  let masked := Place.start (Literal.mask statement)
  match masked.firstMatch limit? with
  | some (first, last) => (readLimit .limit (between statement first last)).map some
  | none =>
    match masked.firstMatch top? with
    | some (first, last) => (readLimit .top (between statement first last)).map some
    | none => .ok none

/-- What a statement asks of a table. -/
def plan (statement : Text) : Except Fault Plan := do
  let limit ← rowLimit statement
  .ok ⟨predicates statement, sort? statement, limit⟩

end Statement
end QueryDesk
