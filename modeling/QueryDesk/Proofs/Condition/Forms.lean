import QueryDesk.Proofs.Results
import QueryDesk.Proofs.Text.Recognition
import QueryDesk.Proofs.Text.SameLetter
import QueryDesk.Statement.Clause

/-!
# The forms of conditions

Whatever text stands in a statement, the conditions read from it are of the five known forms, with
the fields and the number of months that the forms name (`isKnown_of_mem_predicates`).  So no row
is ever tested for something that is no condition.  That is one thing that holds of all that the
forms ask for; whatever does holds of every condition of a statement (`OfForms.of_mem_read`).  Another
is that no condition compares a field that holds a date (`notMem_dateFields_of_mem_predicates`).
-/

set_option autoImplicit false

namespace QueryDesk

namespace Predicate

/-- Says that a condition is one of those that a statement can ask for. -/
def IsKnown : Predicate → Prop
  | equals _ (.text _) | beforeNow _ | delayedOrOverdue _ _ => True
  | lowStock quantity level =>
    quantity = Text.of "quantityOnHand" ∧ level = Text.of "reorderLevel"
  | withinMonths _ months => months = 3
  | _ => False

end Predicate

namespace Condition

/-- Says that a property is one of every condition that a form asks for. -/
structure OfForms (P : Predicate → Prop) : Prop where
  equality : ∀ p found, equality? p = some found → P found.1
  beforeNow : ∀ p found, beforeNow? p = some found → P found.1
  stock : P .stockBelowReorder
  quarter : P .orderedLastQuarter
  late : P .lateWork

variable {P : Predicate → Prop} {t : Text} {predicate : Predicate}

theorem OfForms.of_mem_ofTerm (hP : OfForms P) (h : predicate ∈ ofTerm t) : P predicate := by
  simp only [ofTerm, List.mem_append] at h
  rcases h with ((h | h) | h) | h
  · obtain ⟨p, q, hp⟩ := Place.exists_of_mem_allMatches h
    exact hP.equality p _ hp
  · obtain ⟨p, q, hp⟩ := Place.exists_of_mem_allMatches h
    exact hP.beforeNow p _ hp
  · split at h
    · exact List.mem_singleton.mp h ▸ hP.stock
    · exact absurd h List.not_mem_nil
  · split at h
    · exact List.mem_singleton.mp h ▸ hP.quarter
    · exact absurd h List.not_mem_nil

/-- **What holds of all that the forms ask for holds of all that a condition asks for.** -/
theorem OfForms.of_mem_read (hP : OfForms P) (h : predicate ∈ read t) : P predicate := by
  fun_induction read t with
  | case1 => exact absurd h List.not_mem_nil
  | case2 => exact List.mem_singleton.mp h ▸ hP.late
  | case3 => exact absurd h List.not_mem_nil
  | case4 t condition _ _ _ ih =>
    obtain ⟨part, -, hpart⟩ := List.mem_flatMap.mp h
    exact ih part hpart
  | case5 => exact hP.of_mem_ofTerm h

theorem OfForms.of_mem_predicates (hP : OfForms P) {statement : Text}
    (h : predicate ∈ Statement.predicates statement) : P predicate := by
  unfold Statement.predicates at h
  split at h
  · exact hP.of_mem_read h
  · exact absurd h List.not_mem_nil

theorem ofForms_isKnown : OfForms Predicate.IsKnown where
  equality p found h := by
    simp only [equality?, Option.bind_eq_bind, Option.bind_eq_some_iff, Option.some.injEq] at h
    obtain ⟨_, -, _, -, _, -, _, -, _, -, _, -, rfl⟩ := h
    trivial
  beforeNow p found h := by
    simp only [beforeNow?, Option.bind_eq_bind, Option.bind_eq_some_iff, Option.some.injEq] at h
    obtain ⟨_, -, _, -, _, -, _, -, _, -, rfl⟩ := h
    trivial
  stock := ⟨rfl, rfl⟩
  quarter := rfl
  late := trivial

end Condition

namespace Statement

/-- **A statement asks only for conditions of the known forms.** -/
theorem isKnown_of_mem_predicates {statement : Text} {predicate : Predicate}
    (h : predicate ∈ predicates statement) : predicate.IsKnown :=
  Condition.ofForms_isKnown.of_mem_predicates h

/-- A plan has the conditions of its statement. -/
theorem predicates_of_plan {statement : Text} {made : Plan} (h : plan statement = .ok made) :
    made.predicates = predicates statement := by
  rw [plan] at h
  obtain ⟨limit, -, hmade⟩ := Except.bind_eq_ok_iff.mp h
  rw [← Except.ok.inj hmade]

end Statement
end QueryDesk

/-! ## The fields that conditions compare

A condition reads some fields as instants and compares others as they are.  What the conditions of a
statement compare are columns that keep the name they have in the statement, and the two fields of
stock; none of these fields holds a date (`notMem_dateFields_of_mem_predicates`).
-/

namespace QueryDesk

/-! ### Columns -/

/-- In lower case, a glyph that agrees with a letter has no low line. -/
theorem Glyph.lowLine_notMem_lower {g : Glyph} {c : Char} (hc : c.isLower = true)
    (h : g.agrees c = true) : Glyph.char '_' ∉ g.lower := by
  cases g with
  | lone half => cases h
  | char d =>
    have hletter : d.toLower = c ∨ d ∈ ['\u0130', '\u0131', '\u017F', '\u212A'] := by
      simp only [agrees, Bool.or_eq_true, beq_iff_eq] at h
      refine h.imp_right fun hd => ?_
      simp only [List.mem_cons, List.not_mem_nil, or_false]
      split at hd <;> simp only [Bool.or_eq_true, beq_iff_eq, Bool.false_eq_true] at hd <;> grind
    rcases hletter with rfl | hd
    · have hrange : 97 ≤ d.toLower.toNat ∧ d.toLower.toNat ≤ 122 := by
        have hlower : d.toLower.isLower =
            (decide (d.toLower.val ≥ 'a'.val) && decide (d.toLower.val ≤ 'z'.val)) := rfl
        rw [hlower, Bool.and_eq_true, decide_eq_true_eq, decide_eq_true_eq] at hc
        exact hc
      have hne : d.toLower ≠ '_' := fun heq => absurd (heq ▸ hrange) (by decide)
      have hascii : d.toNat < 0x80 := by
        rw [toNat_toLower] at hrange
        split at hrange <;> omega
      rw [lower, if_pos hascii]
      simpa using hne.symm
    · simp only [List.mem_cons, List.not_mem_nil, or_false] at hd
      rcases hd with rfl | rfl | rfl | rfl <;> decide +kernel

theorem Text.lowLine_notMem_lower {t : Text} {word : List Char} (ht : t.Spells word)
    (hword : ∀ c ∈ word, c.isLower = true) : Glyph.char '_' ∉ t.lower := by
  induction ht with
  | nil => simp [lower]
  | cons hg _ ih =>
    obtain ⟨hc, hword⟩ := List.forall_mem_cons.mp hword
    rw [lower, List.flatMap_cons, List.mem_append, not_or]
    exact ⟨Glyph.lowLine_notMem_lower hc hg, ih hword⟩

/-- A column whose name is a word of letters is not in the table of columns. -/
theorem Statement.column_eq_self {t : Text} {word : List Char} (ht : t.Spells word)
    (hword : ∀ c ∈ word, c.isLower = true) : column t = t := by
  have hcolumns : ∀ c ∈ columns, Glyph.char '_' ∈ Text.of c.1 := by decide
  have hnone : columns.find? (fun c => Text.of c.1 == t.lower) = none := by
    rw [List.find?_eq_none]
    intro c hc heq
    have hline := hcolumns c hc
    rw [beq_iff_eq.mp heq] at hline
    exact Text.lowLine_notMem_lower ht hword hline
  rw [column, hnone]

theorem Place.exists_spells_of_oneOf? {words : List (List Char)} {p q : Place} {t : Text}
    (h : p.oneOf? words = some (t, q)) : ∃ word ∈ words, t.Spells word := by
  rw [oneOf?] at h
  induction words with
  | nil => cases h
  | cons w ws ih =>
    rw [List.firstM] at h
    cases hw : p.word? w with
    | none =>
      rw [hw] at h
      obtain ⟨word, hmem, ht⟩ := ih h
      exact ⟨word, List.mem_cons_of_mem w hmem, ht⟩
    | some r =>
      rw [hw] at h
      cases h
      obtain ⟨u, hu, hrest, -⟩ := word?_eq_some_iff.mp hw
      refine ⟨w, List.mem_cons_self, ?_⟩
      rw [hrest, ← hu.length_eq, List.take_left]
      exact hu

/-! ### Conditions -/

namespace Predicate

/-- The fields that a condition compares as they are. -/
def comparedFields : Predicate → List Text
  | equals field _ => [field]
  | lowStock quantity reorder => [quantity, reorder]
  | delayedOrOverdue status _ => [status]
  | _ => []

end Predicate

/-- The fields of records that hold dates. -/
def Row.dateFields : List Text :=
  ["orderDate", "scheduledDate", "completionDate", "invoiceDate", "dueDate"].map Text.of

namespace Condition

open Predicate

/-- Says that no field of a date is compared as it is. -/
def SparesDates (predicate : Predicate) : Prop :=
  ∀ field ∈ predicate.comparedFields, field ∉ Row.dateFields

theorem sparesDates_of_equality? {p : Place} {found : Predicate × Place}
    (h : equality? p = some found) : SparesDates found.1 := by
  simp only [equality?, Option.bind_eq_bind, Option.bind_eq_some_iff, Option.some.injEq] at h
  obtain ⟨_, -, ⟨name, r⟩, hname, _, -, _, -, _, -, _, -, rfl⟩ := h
  obtain ⟨word, hword, hspells⟩ := Place.exists_spells_of_oneOf? hname
  have hletters : ∀ word ∈ equalityColumns, ∀ c ∈ word, c.isLower = true := by decide
  have hlength : ∀ word ∈ equalityColumns, ∀ field ∈ Row.dateFields,
      field.length ≠ word.length := by decide
  intro field hfield hdate
  rw [List.mem_singleton.mp hfield, Statement.column_eq_self hspells (hletters word hword)] at hdate
  exact hlength word hword name hdate hspells.length_eq

theorem ofForms_sparesDates : OfForms SparesDates where
  equality p found h := sparesDates_of_equality? h
  beforeNow p found h := by
    simp only [beforeNow?, Option.bind_eq_bind, Option.bind_eq_some_iff, Option.some.injEq] at h
    obtain ⟨_, -, _, -, _, -, _, -, _, -, rfl⟩ := h
    exact fun _ hfield => absurd hfield List.not_mem_nil
  stock := by
    have hstock : ∀ field ∈ stockBelowReorder.comparedFields, field ∉ Row.dateFields := by decide
    exact hstock
  quarter := fun _ hfield => absurd hfield List.not_mem_nil
  late := by
    have hlate : ∀ field ∈ lateWork.comparedFields, field ∉ Row.dateFields := by decide
    exact hlate

end Condition

/-- **No condition of a statement compares a date as it is.** -/
theorem Statement.notMem_dateFields_of_mem_predicates {statement : Text} {predicate : Predicate}
    (h : predicate ∈ predicates statement) {field : Text}
    (hfield : field ∈ predicate.comparedFields) : field ∉ Row.dateFields :=
  Condition.ofForms_sparesDates.of_mem_predicates h field hfield

end QueryDesk
