import Mathlib.Data.List.Nodup
import QueryDesk.Desk.Answering
import QueryDesk.Proofs.Business.Typed
import QueryDesk.Proofs.Json.Readable
import QueryDesk.Proofs.Json.RoundTrip

/-!
# Results in writing

The rows of a typed dataset can be kept as text, and the text is read back as the rows, with
timestamps in their standard form (`Office.exists_resultText`).  Whatever the rows hold, a text that
is kept is read as a list of as many items (`Office.exists_read_of_resultText`).  And rows of any
nested values lose nothing when they are kept (`Office.exists_read_resultText`).
-/

set_option autoImplicit false

namespace QueryDesk

/-! ## Rows -/

/-- A stored value in writing: a timestamp in its standard form, and any other as it is. -/
def Value.inWriting : Value → Value
  | timestamp t => text t.written
  | v => v

/-- A row with its timestamps in their standard form. -/
def Row.inWriting (row : Row) : Row := row.map fun f => (f.1, f.2.inWriting)

open Value

theorem Value.IsStored.isKept {v : Value} (h : v.IsStored) : Json.IsKept Office.resultForm v := by
  cases v with
  | null => exact .null
  | text t => exact .text t
  | timestamp t => exact .timestamp rfl
  | whole n => exact .whole h
  | _ => exact h.elim

theorem Value.IsStored.readBack_eq {v : Value} (h : v.IsStored) :
    Json.readBack Office.resultForm v = v.inWriting := by
  cases v with
  | null | text | timestamp | whole => rfl
  | _ => exact h.elim

/-- Says that the fields of a row have different names. -/
def Row.IsNamed (row : Row) : Prop := (row.map (·.1)).Nodup

/-- The fields of such a row are found under their names. -/
theorem Row.IsNamed.field_eq {row : Row} (h : row.IsNamed) {f : Text × Value} (hf : f ∈ row) :
    field row f.1 = f.2 := by
  have hfound : (row.find? (·.1 == f.1)).isSome := by
    rw [List.find?_isSome]
    exact ⟨f, hf, beq_self_eq_true f.1⟩
  obtain ⟨g, hg⟩ := Option.isSome_iff_exists.mp hfound
  have hname : g.1 = f.1 := by simpa using List.find?_some hg
  have hsame : g = f := List.inj_on_of_nodup_map h (List.mem_of_find?_eq_some hg) hf hname
  rw [field, lookup, hg, hsame]
  rfl

theorem Row.isNamed_of {fields : List (String × Value)} (h : (fields.map (·.1)).Nodup) :
    (Row.of fields).IsNamed := by
  have hnames : (Row.of fields).map (·.1) = (fields.map (·.1)).map Text.of := by
    rw [Row.of, List.map_map, List.map_map]
    rfl
  rw [IsNamed, hnames]
  exact h.map fun _ _ heq => Text.of_inj.mp heq

theorem Dataset.isNamed_of_mem {d : Dataset} {name : Text} {row : Row}
    (h : row ∈ Table.rowsOf d.tables name) : row.IsNamed := by
  obtain ⟨table, htable, hrow⟩ := Table.exists_mem_of_mem_rowsOf h
  simp only [Dataset.tables, List.mem_cons, List.not_mem_nil, or_false] at htable
  rcases htable with rfl | rfl | rfl | rfl <;> obtain ⟨o, -, rfl⟩ := List.mem_map.mp hrow <;>
    exact Row.isNamed_of (by simp)

/-- A typed row with different names is kept as it is in writing. -/
theorem Row.IsTyped.isKept {row : Row} (h : row.IsTyped) (hnamed : row.IsNamed) :
    Json.IsKept Office.resultForm (.record row) :=
  .record hnamed fun f hf => (hnamed.field_eq hf ▸ h.stored f.1).isKept

theorem Row.IsTyped.readBack_eq {row : Row} (h : row.IsTyped) (hnamed : row.IsNamed) :
    Json.readBack Office.resultForm (.record row) = .record row.inWriting := by
  rw [Json.readBack, Json.readBackFields_eq]
  refine congrArg record (List.map_congr_left fun f hf => ?_)
  rw [(hnamed.field_eq hf ▸ h.stored f.1 : f.2.IsStored).readBack_eq]

/-- **Rows of a typed dataset are written, and read back in their standard form.** -/
theorem Office.exists_resultText {rows : List Row} (htyped : ∀ row ∈ rows, row.IsTyped)
    (hnamed : ∀ row ∈ rows, row.IsNamed) : ∃ t, resultText rows = .ok t ∧
      Json.read t = .ok (.list (rows.map fun row => .record row.inWriting)) := by
  have hkept : Json.IsKept resultForm (.list (rows.map .record)) :=
    .list <| List.forall_mem_map.mpr fun row hrow => (htyped row hrow).isKept (hnamed row hrow)
  obtain ⟨t, ht, hread⟩ := Json.exists_write_read hkept
  refine ⟨t, ht, hread.trans (congrArg Except.ok ?_)⟩
  rw [Json.readBack, Json.readBackItems_eq, List.map_map]
  exact congrArg list (List.map_congr_left fun row hrow =>
    (htyped row hrow).readBack_eq (hnamed row hrow))

/-- **The text of a result is read as a list of as many items as there are rows.** -/
theorem Office.exists_read_of_resultText {rows : List Row} {t : Text}
    (h : resultText rows = .ok t) :
    ∃ items, Json.read t = .ok (.list items) ∧ items.length = rows.length := by
  obtain ⟨items, hread, hlength⟩ := Json.exists_read_list h
  exact ⟨items, hread, hlength.trans (List.length_map _)⟩

/-- A result without a text holds a number that is too long or a value without a JSON form. -/
theorem Office.fault_of_resultText {rows : List Row} {fault : Fault}
    (h : resultText rows = .error fault) :
    fault = .wholeTooLong ∨ ∃ kind, fault = .notSerializable kind := by
  rcases Json.isWritingFault_of_write h with hlong | ⟨v, hv⟩
  · exact .inl hlong
  · refine .inr ⟨v.shortKindName, ?_⟩
    unfold resultForm at hv
    split at hv <;> cases hv
    rfl

end QueryDesk

/-! ## Results lose nothing

A query keeps its rows as a text, and that text is the only copy of its answer.  Rows of any nested
values that have a form in a result can be kept, and are read back as they were: rows and fields in
their order, and only the timestamps and days replaced, by their standard forms
(`Office.exists_read_resultText`).
-/

namespace QueryDesk

namespace Value

/-- Says that a value is simple and has a form in a result. -/
def IsReportable : Value → Prop
  | null | flag _ | text _ | timestamp _ | date _ => True
  | whole n => Number.isTooLong n = false
  | _ => False

/-- A simple value as a result shows it: an instant or a day in its standard form. -/
def inStandardForm : Value → Value
  | timestamp t => text t.written
  | date d => text d.written
  | v => v

variable {v : Value}

theorem IsReportable.isKept (h : v.IsReportable) : Json.IsKept Office.resultForm v := by
  cases v with
  | null => exact .null
  | flag b => exact .flag b
  | whole n => exact .whole h
  | text t => exact .text t
  | timestamp t => exact .timestamp rfl
  | date d => exact .date rfl
  | _ => exact h.elim

theorem IsReportable.readBack_eq (h : v.IsReportable) :
    Json.readBack Office.resultForm v = v.mapLeaves inStandardForm := by
  cases v with
  | null | flag | whole | text | timestamp | date => rfl
  | _ => exact h.elim

end Value

namespace Office

/-- **Results lose nothing.**  Rows made of reportable values are kept, and what is read back has
the rows and fields in their order and each timestamp and day in its standard form. -/
theorem exists_read_resultText {rows : List Row}
    (h : ∀ row ∈ rows, (Value.record row).IsMadeOf (fun _ => True) Value.IsReportable) :
    ∃ t, resultText rows = .ok t ∧ Json.read t =
      .ok (.list (rows.map fun row => (Value.record row).mapLeaves Value.inStandardForm)) := by
  have hrows : (Value.list (rows.map .record)).IsMadeOf (fun _ => True) Value.IsReportable :=
    .list (List.forall_mem_map.mpr h)
  obtain ⟨t, ht, hread⟩ := Json.exists_write_read (hrows.isKept fun _ h => h.isKept)
  refine ⟨t, ht, ?_⟩
  rw [hread, hrows.readBack_eq fun _ h => h.readBack_eq, Value.mapLeaves, Value.mapLeavesItems_eq,
    List.map_map]
  rfl

/-- A note with signs that JSON must escape, and with half of a surrogate pair. -/
def visitNote : Text := Text.of "a \"b\"\\\n\x01é" ++ [.ofCode 0xD800]

/-- When a visit starts. -/
def visitStart : Timestamp := ⟨⟨2024, 2, 29⟩, 23, 59, 0, 7, some 19800000000⟩

/-- The rooms of a visit, with records inside. -/
def visitRooms : Value :=
  .list [.null, .flag true, .record (Row.of [("size", .whole (-12)), ("tags", .list [])])]

/-- A row for a visit. -/
def visitRow : Row :=
  Row.of [("note", .text visitNote), ("start", .timestamp visitStart), ("day", .date ⟨2024, 3, 1⟩),
    ("rooms", visitRooms)]

theorem isMadeOf_visitRow :
    (Value.record visitRow).IsMadeOf (fun _ => True) Value.IsReportable := by
  have hleaf : ∀ {v : Value}, v.IsReportable → v.IsMadeOf (fun _ => True) Value.IsReportable :=
    .leaf
  have hsize : Number.isTooLong (-12) = false := by decide +kernel
  have hroom : (Value.record (Row.of [("size", .whole (-12)), ("tags", .list [])])).IsMadeOf
      (fun _ => True) Value.IsReportable := by
    refine .record (by decide) (by simp) ?_
    simp only [Row.of, List.map_cons, List.map_nil, List.forall_mem_cons]
    exact ⟨hleaf hsize, .list (by simp), by simp⟩
  have hrooms : visitRooms.IsMadeOf (fun _ => True) Value.IsReportable := by
    refine .list ?_
    simp only [List.forall_mem_cons]
    exact ⟨hleaf trivial, hleaf trivial, hroom, by simp⟩
  refine .record (by decide) (by simp) ?_
  simp only [visitRow, Row.of, List.map_cons, List.map_nil, List.forall_mem_cons]
  exact ⟨hleaf trivial, hleaf trivial, hleaf trivial, hrooms, by simp⟩

/-- It is read back with everything in it, beside a row without fields. -/
theorem read_resultText_visit :
    (∀ row ∈ [visitRow, []],
      (Value.record row).IsMadeOf (fun _ => True) Value.IsReportable) ∧
    ∃ t, resultText [visitRow, []] = .ok t ∧ Json.read t =
      .ok (.list [.record (Row.of [("note", .text visitNote),
          ("start", .text (Text.of "2024-02-29T23:59:00.000007+05:30")),
          ("day", .text (Text.of "2024-03-01")), ("rooms", visitRooms)]), .record []]) := by
  have hrows : ∀ row ∈ [visitRow, []],
      (Value.record row).IsMadeOf (fun _ => True) Value.IsReportable := by
    simp only [List.forall_mem_cons]
    exact ⟨isMadeOf_visitRow, .record List.nodup_nil (by simp) (by simp), by simp⟩
  have hstart : visitStart.written = Text.of "2024-02-29T23:59:00.000007+05:30" := by
    decide +kernel
  have hday : Date.written ⟨2024, 3, 1⟩ = Text.of "2024-03-01" := by decide +kernel
  obtain ⟨t, ht, hread⟩ := exists_read_resultText hrows
  rw [← hstart, ← hday]
  exact ⟨hrows, t, ht, hread⟩

end Office
end QueryDesk
