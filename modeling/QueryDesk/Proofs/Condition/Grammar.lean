import QueryDesk.Statement.Condition

/-!
# The grammar of conditions

Conditions as trees: a tree is a list of conjunctions that `OR` joins, a conjunction is a list of
operands that `AND` joins, and an operand is an atom or a tree in parentheses.

`render` writes a tree as the text that a statement holds, and `denote` says what the tree asks of a
row.  The two are independent of how conditions are read; that reading undoes writing is proved in
`QueryDesk.Proofs.Condition.Reading`.
-/

set_option autoImplicit false

namespace QueryDesk
namespace Condition

/-! ## Atoms -/

/-- A column that may be held equal to a literal. -/
inductive EqualityColumn
  | status
  | priority
  | region
  deriving DecidableEq

/-- The name of the column, which is also the name of its field. -/
def EqualityColumn.name : EqualityColumn → String
  | status => "status"
  | priority => "priority"
  | region => "region"

/-- A column that may be compared with the present. -/
inductive DateColumn
  | dueDate
  | scheduledDate
  deriving DecidableEq

namespace DateColumn

/-- The name of the column. -/
def name : DateColumn → String
  | dueDate => "due_date"
  | scheduledDate => "scheduled_date"

/-- The name of its field. -/
def field : DateColumn → String
  | dueDate => "dueDate"
  | scheduledDate => "scheduledDate"

end DateColumn

/-- A way to write the present. -/
inductive Present
  | getdate
  | currentDate
  | currentTimestamp
  | now
  deriving DecidableEq

/-- The present in writing. -/
def Present.name : Present → String
  | getdate => "GETDATE()"
  | currentDate => "CURRENT_DATE"
  | currentTimestamp => "CURRENT_TIMESTAMP"
  | now => "NOW()"

/-- Tests for a glyph that neither ends a literal nor looks like a comparison. -/
def isPlain (g : Glyph) : Bool := !g.isOneOf ['\'', '"', '<', '>', '=']

/-- What may stand in a literal: any plain text but the empty one, keywords and parentheses
included. -/
structure Content where
  text : Text
  ne_nil : text ≠ []
  plain : ∀ g ∈ text, isPlain g = true

/-- The smallest conditions. -/
inductive Atom
  | equals (column : EqualityColumn) (content : Content)
  | beforeNow (column : DateColumn) (present : Present)
  | lowStock
  | lastQuarter

namespace Atom

/-- An atom in writing. -/
def render : Atom → Text
  | equals column content =>
    Text.of column.name ++ (Text.of " = '" ++ (content.text ++ Text.of "'"))
  | beforeNow column present => Text.of column.name ++ (Text.of " < " ++ Text.of present.name)
  | lowStock => Text.of "quantity_on_hand <= reorder_level"
  | lastQuarter => Text.of "order_date >= DATEADD(quarter, -1, GETDATE())"

/-- What an atom asks of a row. -/
def predicate : Atom → Predicate
  | equals column content => .equals (Text.of column.name) (.text content.text)
  | beforeNow column _ => .beforeNow (Text.of column.field)
  | lowStock => .stockBelowReorder
  | lastQuarter => .orderedLastQuarter

/-- Tests for `status = 'delayed'`, the literal in any mixture of cases. -/
def isDelayed : Atom → Bool
  | equals .status content => content.text.asciiLower = Text.of "delayed"
  | _ => false

end Atom

/-! ## Trees -/

mutual

/-- What `AND` joins. -/
inductive Operand
  | atom (a : Atom)
  | group (c : Tree)

/-- What `OR` joins: one operand or several. -/
inductive Conjunction
  | one (u : Operand)
  | and (u : Operand) (k : Conjunction)

/-- A condition: one conjunction or several. -/
inductive Tree
  | one (k : Conjunction)
  | or (k : Conjunction) (c : Tree)

end

/-! ## Writing -/

mutual

/-- An operand in writing. -/
def Operand.render : Operand → Text
  | .atom a => a.render
  | .group c => Text.of "(" ++ (c.render ++ Text.of ")")

/-- A conjunction in writing. -/
def Conjunction.render : Conjunction → Text
  | .one u => u.render
  | .and u k => u.render ++ (Text.of " AND " ++ k.render)

/-- A condition in writing. -/
def Tree.render : Tree → Text
  | .one k => k.render
  | .or k c => k.render ++ (Text.of " OR " ++ c.render)

end

/-! ## Meaning -/

mutual

/-- Tests for the atom `status = 'delayed'`, up to parentheses. -/
def Operand.isDelayed : Operand → Bool
  | .atom a => a.isDelayed
  | .group c => c.isDelayed

/-- Tests for the atom `status = 'delayed'`, up to parentheses. -/
def Conjunction.isDelayed : Conjunction → Bool
  | .one u => u.isDelayed
  | .and .. => false

/-- Tests for the atom `status = 'delayed'`, up to parentheses. -/
def Tree.isDelayed : Tree → Bool
  | .one k => k.isDelayed
  | .or .. => false

end

mutual

/-- What an operand asks of a row. -/
def Operand.denote : Operand → List Predicate
  | .atom a => [a.predicate]
  | .group c => c.denote

/-- What a conjunction asks of a row: all that its operands ask. -/
def Conjunction.denote : Conjunction → List Predicate
  | .one u => u.denote
  | .and u k => u.denote ++ k.denote

/-- What a condition asks of a row.  Of several branches only the form for late work orders is
understood, which is known by its first branch. -/
def Tree.denote : Tree → List Predicate
  | .one k => k.denote
  | .or k _ => if k.isDelayed then [.lateWork] else []

end

/-! ## Parts -/

/-- The operands of a conjunction. -/
def Conjunction.operands : Conjunction → List Operand
  | .one u => [u]
  | .and u k => u :: k.operands

/-- The branches of a condition. -/
def Tree.branches : Tree → List Conjunction
  | .one k => [k]
  | .or k c => k :: c.branches

end Condition
end QueryDesk
