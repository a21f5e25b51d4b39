import QueryDesk.Business.Records
import QueryDesk.Table.Execute
import QueryDesk.Proofs.Value.Stored

/-!
# Datasets of the declared types

`Dataset.IsTyped` says that the fields of the records hold what they are declared to hold, as far as
the types of the records leave that open: the amount of an order is a text, and whole numbers are
short enough to be written.  Each row of each table then holds stored values only, and the fields
that hold stock in a table of articles hold no text in any other table (`Row.IsTyped`).
-/

set_option autoImplicit false

namespace QueryDesk

/-- A row all of whose values are stored ones, with counts in the fields that hold stock. -/
structure Row.IsTyped (row : Row) : Prop where
  stored : ∀ name, (Value.field row name).IsStored
  quantity : (Value.field row (Text.of "quantityOnHand")).IsCount
  level : (Value.field row (Text.of "reorderLevel")).IsCount

theorem Text.of_inj {s t : String} : Text.of s = Text.of t ↔ s = t := by
  have hchar : Function.Injective Glyph.char := fun _ _ => Glyph.char.inj
  rw [Text.of, Text.of, List.map_inj_right hchar, String.toList_inj]

namespace Value

/-! ## Fields of rows -/

/-- The fields of a row can be told apart by the strings that name them. -/
theorem field_of (fields : List (String × Value)) (name : String) :
    field (Row.of fields) (Text.of name) = (fields.lookup name).getD null := by
  unfold field lookup
  congr 1
  induction fields with
  | nil => rfl
  | cons f fields ih =>
    rw [Row.of, List.map_cons, List.find?_cons, List.lookup_cons]
    by_cases h : f.1 = name
    · subst h
      simp
    · have htext : (Text.of f.1 == Text.of name) = false :=
        beq_eq_false_iff_ne.mpr fun hf => h (Text.of_inj.mp hf)
      have hname : (name == f.1) = false := beq_eq_false_iff_ne.mpr (Ne.symm h)
      rw [htext, hname]
      exact ih

theorem isStored_field_of {fields : List (String × Value)} (h : ∀ f ∈ fields, f.2.IsStored)
    (name : Text) : (field (Row.of fields) name).IsStored := by
  unfold field lookup
  cases hf : (Row.of fields).find? (·.1 == name) with
  | none => trivial
  | some f =>
    obtain ⟨g, hg, rfl⟩ := List.mem_map.mp (List.mem_of_find?_eq_some hf)
    exact h g hg

@[simp] theorem isStored_text (t : Text) : (text t).IsStored := trivial

@[simp] theorem isStored_timestamp (t : Timestamp) : (timestamp t).IsStored := trivial

@[simp] theorem isStored_ofText? (t : Option Text) : (ofText? t).IsStored := by
  cases t <;> trivial

@[simp] theorem isStored_ofTimestamp? (t : Option Timestamp) : (ofTimestamp? t).IsStored := by
  cases t <;> trivial

theorem isStored_ofWhole? {n : Option Int} (h : ∀ k ∈ n, Number.isTooLong k = false) :
    (ofWhole? n).IsStored := by
  cases n with
  | none => trivial
  | some k => exact h k rfl

theorem isCount_ofWhole? (n : Option Int) : (ofWhole? n).IsCount := by
  cases n <;> trivial

end Value

open Value

/-! ## Rows of records -/

theorem SalesOrder.isTyped_row {o : SalesOrder} {amount : Text}
    (h : o.totalAmount = .text amount) : o.row.IsTyped where
  stored := isStored_field_of (by simp [h])
  quantity := by
    rw [SalesOrder.row, field_of]
    trivial
  level := by
    rw [SalesOrder.row, field_of]
    trivial

theorem WorkOrder.isTyped_row (o : WorkOrder) : o.row.IsTyped where
  stored := isStored_field_of (by simp)
  quantity := by
    rw [WorkOrder.row, field_of]
    trivial
  level := by
    rw [WorkOrder.row, field_of]
    trivial

theorem Invoice.isTyped_row (i : Invoice) : i.row.IsTyped where
  stored := isStored_field_of (by simp)
  quantity := by
    rw [Invoice.row, field_of]
    trivial
  level := by
    rw [Invoice.row, field_of]
    trivial

theorem InventoryItem.isTyped_row {i : InventoryItem}
    (hquantity : Number.isTooLong i.quantityOnHand = false)
    (hlevel : ∀ n ∈ i.reorderLevel, Number.isTooLong n = false) : i.row.IsTyped where
  stored := by
    have hwhole : (whole i.quantityOnHand).IsStored := hquantity
    exact isStored_field_of (by simp [hwhole, isStored_ofWhole? hlevel])
  quantity := by
    rw [InventoryItem.row, field_of]
    trivial
  level := by
    rw [InventoryItem.row, field_of]
    exact isCount_ofWhole? i.reorderLevel

/-! ## Datasets -/

/-- A dataset whose records hold what they are declared to hold, and no whole number that is too
long to be written. -/
structure Dataset.IsTyped (d : Dataset) : Prop where
  amounts : ∀ o ∈ d.salesOrders, ∃ t, o.totalAmount = .text t
  quantities : ∀ i ∈ d.inventoryItems, Number.isTooLong i.quantityOnHand = false
  levels : ∀ i ∈ d.inventoryItems, ∀ n ∈ i.reorderLevel, Number.isTooLong n = false

theorem Table.exists_mem_of_mem_rowsOf {tables : Tables} {name : Text} {row : Row}
    (h : row ∈ Table.rowsOf tables name) : ∃ table ∈ tables, row ∈ table.2 := by
  unfold Table.rowsOf at h
  cases hf : tables.find? (·.1 == name) with
  | none =>
    rw [hf] at h
    exact absurd h List.not_mem_nil
  | some table =>
    rw [hf] at h
    exact ⟨table, List.mem_of_find?_eq_some hf, h⟩

/-- **Every row of every table of a typed dataset is a typed row.** -/
theorem Dataset.IsTyped.isTyped_of_mem {d : Dataset} (hd : d.IsTyped) {name : Text} {row : Row}
    (h : row ∈ Table.rowsOf d.tables name) : row.IsTyped := by
  obtain ⟨table, htable, hrow⟩ := Table.exists_mem_of_mem_rowsOf h
  simp only [Dataset.tables, List.mem_cons, List.not_mem_nil, or_false] at htable
  rcases htable with rfl | rfl | rfl | rfl <;> obtain ⟨o, ho, rfl⟩ := List.mem_map.mp hrow
  · obtain ⟨amount, hamount⟩ := hd.amounts o ho
    exact SalesOrder.isTyped_row hamount
  · exact o.isTyped_row
  · exact o.isTyped_row
  · exact InventoryItem.isTyped_row (hd.quantities o ho) (hd.levels o ho)

end QueryDesk
