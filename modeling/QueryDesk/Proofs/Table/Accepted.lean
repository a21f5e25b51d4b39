import QueryDesk.Proofs.Query.Topics
import QueryDesk.Proofs.Text.Capitals

/-!
# Statements that an agent accepts

An agent and a table both ask that a statement begin with `SELECT`, but the agent looks at its upper
case and the table at its lower case.  Case mappings are not inverse to each other, and there are
two glyphs that only the agent takes for letters of the keyword: the long S and the T with dots.
Those two, at those places, are all that tells the two checks apart (`Table.execute_generated`).
The statements of the rules have neither.
-/

set_option autoImplicit false

namespace QueryDesk

namespace Statement

/-- Says that a glyph of the keyword of a statement is a letter in upper case only: the long S in
front, or the T with dots at the end. -/
def HasOddKeyword (statement : Text) : Prop :=
  statement[0]? = some (.char '\u017F') ∨ statement[5]? = some (.char '\u1E97')

variable {statement : Text}

instance : Decidable (HasOddKeyword statement) := inferInstanceAs (Decidable (_ ∨ _))

/-- Of the statements that begin with `SELECT` in upper case those with an odd keyword do not begin
with it in lower case. -/
theorem beginsWithSelect_iff (htrim : statement.trim = statement)
    (h : Text.of "SELECT" <+: statement.upper) :
    BeginsWithSelect statement ↔ ¬HasOddKeyword statement := by
  rw [BeginsWithSelect, htrim]
  exact Text.prefix_lower_select_iff h

end Statement

namespace Table

open Statement

variable {tables : Tables} {now : Timestamp}

theorem select_ne_notSelect (statement table : Text) (rows : List Row) (now : Timestamp) :
    select statement table rows now ≠ .error .notSelect := by
  have hexecution : ∀ result : Except Fault (List Row),
      result.mapError (Fault.execution table) ≠ .error .notSelect := by
    intro result
    cases result <;> nofun
  exact hexecution _

/-- A statement is refused as none that reads exactly if it does not begin with `SELECT`. -/
theorem execute_eq_notSelect_iff {statement : Text} :
    execute tables statement now = .error .notSelect ↔ ¬BeginsWithSelect statement := by
  by_cases hselect : BeginsWithSelect statement
  · refine iff_of_false (fun h => ?_) (not_not_intro hselect)
    rw [execute, Except.bind_eq_error_iff] at h
    rcases h with htarget | ⟨name, -, hselected⟩
    · rw [target, if_pos (isSelect_iff.mpr hselect), table] at htarget
      split at htarget <;> cases htarget
    · exact select_ne_notSelect _ _ _ _ hselected
  · refine iff_of_true ?_ hselect
    rw [execute, target_of_not_select hselect]
    rfl

/-- **A table refuses a statement that an agent made only for an odd keyword**, which only a model
can give. -/
theorem execute_generated (tables : Tables) (now : Timestamp) :
    (∀ answer generation, Answer.read answer = .ok generation →
      (execute tables generation.statement now = .error .notSelect ↔
        HasOddKeyword generation.statement)) ∧
    ∀ question, execute tables (FallbackRule.choose question).generation.statement now
      ≠ .error .notSelect := by
  refine ⟨fun answer generation hread => ?_, fun question => ?_⟩
  · obtain ⟨⟨sql, hsql⟩, hselect, -⟩ := Answer.generation_of_read hread
    have htrim : generation.statement.trim = generation.statement := by
      rw [hsql, Text.trim_trim]
    rw [execute_eq_notSelect_iff, beginsWithSelect_iff htrim hselect, not_not]
  · rw [Ne, execute_eq_notSelect_iff, not_not]
    exact FallbackRule.beginsWithSelect_choose question

/-- An answer whose statement begins with the long S. -/
def longSAnswer : Value :=
  .object (Row.of [("output_text",
    .text (Text.of "\x7b\"sql\": \"\u017Felect * from invoices\"\x7d"))])

theorem statement_of_longSAnswer : (Answer.read longSAnswer).toOption.map (·.statement)
    = some (Text.of "\u017Felect * from invoices") := by
  decide +kernel

theorem exists_read_longSAnswer : ∃ generation, Answer.read longSAnswer = .ok generation ∧
    generation.statement = Text.of "\u017Felect * from invoices" := by
  have hstatement := statement_of_longSAnswer
  cases hread : Answer.read longSAnswer with
  | error fault =>
    rw [hread] at hstatement
    cases hstatement
  | ok generation =>
    rw [hread] at hstatement
    exact ⟨generation, rfl, Option.some.inj hstatement⟩

/-- Its statement is accepted by the agent and refused by the table. -/
theorem execute_longSAnswer : ∃ generation, Answer.read longSAnswer = .ok generation ∧
    execute [] generation.statement (.midnight ⟨2024, 6, 15⟩) = .error .notSelect := by
  obtain ⟨generation, hread, hstatement⟩ := exists_read_longSAnswer
  refine ⟨generation, hread, ((execute_generated _ _).1 _ _ hread).mpr ?_⟩
  rw [hstatement]
  decide

/-- The two checks do not agree. -/
theorem not_execute_ne_notSelect : ¬∀ (tables : Tables) (now : Timestamp) (answer : Value)
    (generation : Generation), Answer.read answer = .ok generation →
      execute tables generation.statement now ≠ .error .notSelect := by
  obtain ⟨generation, hread, hstatement⟩ := exists_read_longSAnswer
  intro h
  refine h [] (.midnight ⟨2024, 6, 15⟩) _ _ hread (execute_eq_notSelect_iff.mpr ?_)
  rw [hstatement]
  decide +kernel

end Table
end QueryDesk
