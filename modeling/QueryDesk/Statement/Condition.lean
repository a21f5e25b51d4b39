import QueryDesk.Statement.Literal
import QueryDesk.Statement.Predicate
import QueryDesk.Text.Place

/-!
# Conditions

A condition is made of terms that `AND`, `OR` and parentheses join.  It is read from the outside:
enclosing parentheses come off (`unwrap`), then the text is cut at each `OR` outside literals and
parentheses, or else at each `AND` (`split`), and what cannot be cut any further is matched against
the known forms of a term (`ofTerm`).

Of alternatives only one form is understood, the one for late work orders, which is known by its
first branch; any other alternative asks nothing of a row, and so does text of no known form.

A part of a cut is shorter than the text (`length_lt_of_mem_split`), so reading comes to an end.
-/

set_option autoImplicit false

namespace QueryDesk
namespace Condition

/-! ## Depth -/

/-- Where a reader of a condition stands: in a literal or not, and how deep in parentheses. -/
structure Level where
  opened : Option Glyph
  depth : Nat
  deriving DecidableEq, Repr

namespace Level

/-- The level in front of a condition. -/
def outside : Level := ⟨none, 0⟩

/-- The level behind a glyph.  A parenthesis that closes nothing counts for nothing. -/
def after (level : Level) (g : Glyph) : Level :=
  match level.opened with
  | some _ => { level with opened := Literal.after level.opened g }
  | none =>
    if Literal.isQuote g then { level with opened := some g }
    else if g = .char '(' then { level with depth := level.depth + 1 }
    else if g = .char ')' then { level with depth := level.depth - 1 }
    else level

end Level

/-! ## Parentheses -/

/-- Tests that the parenthesis that opened `level.depth` levels ago closes at the very end. -/
def closesAtEnd (level : Level) : Text → Bool
  | [] => false
  | g :: rest =>
    let next := level.after g
    if next.opened.isNone && next.depth == 0 then rest.isEmpty else closesAtEnd next rest

/-- Tests that a text is one pair of parentheses with what they enclose. -/
def isWrapped (t : Text) : Bool :=
  t.head? == some (.char '(') && closesAtEnd .outside t

theorem length_trim_le (t : Text) : t.trim.length ≤ t.length := by
  unfold Text.trim Text.trimEnd Text.trimStart Text.dropEndWhile
  have h₁ := (List.dropWhile_sublist (l := t) Glyph.isBlank).length_le
  have h₂ := (List.dropWhile_sublist (l := (t.dropWhile Glyph.isBlank).reverse)
    Glyph.isBlank).length_le
  simp only [List.length_reverse] at *
  omega

/-- Takes enclosing parentheses off a text without outer blanks. -/
def unwrapTrimmed (t : Text) : Text :=
  if _h : isWrapped t then unwrapTrimmed (Text.trim (t.drop 1).dropLast) else t
termination_by t.length
decreasing_by
  have h₁ : t ≠ [] := by rintro rfl; simp [isWrapped] at _h
  have h₂ := List.length_pos_iff.mpr h₁
  have h₃ := length_trim_le (t.drop 1).dropLast
  simp only [List.length_dropLast, List.length_drop] at h₃
  omega

/-- The text without outer blanks and enclosing parentheses. -/
def unwrap (t : Text) : Text := unwrapTrimmed t.trim

theorem length_unwrapTrimmed_le (t : Text) : (unwrapTrimmed t).length ≤ t.length := by
  fun_induction unwrapTrimmed t with
  | case1 t h ih =>
    have h₁ := length_trim_le (t.drop 1).dropLast
    simp only [List.length_dropLast, List.length_drop] at h₁
    omega
  | case2 => exact Nat.le_refl _

theorem length_unwrap_le (t : Text) : (unwrap t).length ≤ t.length :=
  Nat.le_trans (length_unwrapTrimmed_le _) (length_trim_le t)

/-! ## Cuts -/

/-- What follows a keyword with blanks on both sides at the front of a text. -/
def behindKeyword? (keyword : List Char) (t : Text) : Option Text := do
  let p ← (Place.start t).blanks1?
  let p ← p.word? keyword
  let p ← p.blanks1?
  some p.rest

theorem length_lt_of_behindKeyword? {keyword : List Char} {t behind : Text}
    (h : behindKeyword? keyword t = some behind) : behind.length < t.length := by
  simp only [behindKeyword?, Option.bind_eq_bind, Option.bind_eq_some_iff, Option.some.injEq] at h
  obtain ⟨p, hp, q, hq, r, hr, rfl⟩ := h
  have h₁ := Place.length_lt_of_blanks1? hp
  have h₂ := Place.length_le_of_word? hq
  have h₃ := Place.length_lt_of_blanks1? hr
  simp only [Place.start] at h₁
  omega

/-- What follows a keyword, when the level in front is outside literals and parentheses. -/
def cutHere? (keyword : List Char) (level : Level) (t : Text) : Option Text :=
  if level = .outside then behindKeyword? keyword t else none

theorem length_lt_of_cutHere? {keyword : List Char} {level : Level} {t behind : Text}
    (h : cutHere? keyword level t = some behind) : behind.length < t.length := by
  unfold cutHere? at h
  split at h
  · exact length_lt_of_behindKeyword? h
  · cases h

/-- Cuts a text at each keyword outside literals and parentheses, given the level in front. -/
def cut (keyword : List Char) (level : Level) (t : Text) : List Text :=
  match t with
  | [] => [[]]
  | g :: rest =>
    match _h : cutHere? keyword level (g :: rest) with
    | some behind => [] :: cut keyword .outside behind
    | none =>
      match cut keyword (level.after g) rest with
      | [] => [[g]]
      | part :: parts => (g :: part) :: parts
termination_by t.length
decreasing_by
  · exact length_lt_of_cutHere? _h
  · exact Nat.lt_succ_self _

/-- The parts of a text between the keywords outside literals and parentheses, without outer
blanks and without empty parts. -/
def split (keyword : List Char) (t : Text) : List Text :=
  ((cut keyword .outside t).map Text.trim).filter fun part => !part.isEmpty

/-- A part of a cut and the places of the cuts fit into the text. -/
theorem length_add_length_cut_le (keyword : List Char) (level : Level) (t : Text) :
    (cut keyword level t).length ≤ t.length + 1 ∧
      ∀ part ∈ cut keyword level t, part.length + (cut keyword level t).length ≤ t.length + 1 := by
  fun_induction cut keyword level t with
  | case1 => simp
  | case2 level g rest behind h ih =>
    have := length_lt_of_cutHere? h
    simp only [List.forall_mem_cons, List.length_cons, List.length_nil] at *
    refine ⟨by omega, by omega, fun part hpart => ?_⟩
    have := ih.2 part hpart
    omega
  | case3 => simp
  | case4 level g rest h part parts hc ih =>
    rw [hc] at ih
    simp only [List.forall_mem_cons, List.length_cons] at *
    refine ⟨by omega, by omega, fun part hpart => ?_⟩
    have := ih.2.2 part hpart
    omega

/-- **Each of several parts is shorter than the text.** -/
theorem length_lt_of_mem_split {keyword : List Char} {t part : Text}
    (hmany : 2 ≤ (split keyword t).length) (h : part ∈ split keyword t) :
    part.length < t.length := by
  obtain ⟨raw, hraw, rfl⟩ := List.mem_map.mp (List.mem_filter.mp h).1
  have h₁ := length_trim_le raw
  have h₂ := (length_add_length_cut_le keyword .outside t).2 raw hraw
  have h₃ : (split keyword t).length ≤ (cut keyword .outside t).length := by
    have := List.length_filter_le (fun part : Text => !part.isEmpty)
      ((cut keyword .outside t).map Text.trim)
    simpa [split] using this
  omega

/-! ## Terms -/

/-- The columns that a term may hold equal to a literal. -/
def equalityColumns : List (List Char) := ["status".toList, "priority".toList, "region".toList]

/-- The columns that a term may compare with the present. -/
def dateColumns : List (List Char) := ["due_date".toList, "scheduled_date".toList]

/-- The names of the present. -/
def presentNames : List (List Char) :=
  ["getdate".toList, "current_date".toList, "current_timestamp".toList, "now".toList]

/-- Recognises a column that equals a literal. -/
def equality? (p : Place) : Option (Predicate × Place) := do
  let p ← p.edge?
  let (name, p) ← p.oneOf? equalityColumns
  let p ← p.blanks.sign? ['=']
  let p ← p.blanks.sign? ['\'', '"']
  let (content, p) ← p.span1? fun g => !Literal.isQuote g
  let p ← p.sign? ['\'', '"']
  some (.equals (Statement.column name) (.text content), p)

/-- Recognises a column that is before the present. -/
def beforeNow? (p : Place) : Option (Predicate × Place) := do
  let p ← p.edge?
  let (name, p) ← p.oneOf? dateColumns
  let p ← p.blanks.sign? ['<']
  let (_, p) ← p.blanks.oneOf? presentNames
  let p ← p.edge?
  some (.beforeNow (Statement.column name), p)

/-- Recognises stock at or below the level at which to order again. -/
def lowStock? (p : Place) : Option Place := do
  let p ← p.edge?
  let p ← p.word? "quantity_on_hand".toList
  let p ← p.blanks.word? "<=".toList
  let p ← p.blanks.word? "reorder_level".toList
  p.edge?

/-- Recognises the last quarter. -/
def lastQuarter? (p : Place) : Option Place := do
  let p ← p.edge?
  let p ← p.word? "order_date".toList
  let p ← p.blanks.word? ">=".toList
  let p ← p.blanks.word? "dateadd".toList
  let p ← p.blanks.sign? ['(']
  let p ← p.blanks.word? "quarter".toList
  let p ← p.blanks.sign? [',']
  let p ← p.blanks.word? "-1".toList
  p.edge?

/-- The conditions that a term asks for, those of one form together. -/
def ofTerm (t : Text) : List Predicate :=
  let p := Place.start t
  p.allMatches equality? ++ p.allMatches beforeNow?
    ++ (if (p.firstMatch lowStock?).isSome then [.stockBelowReorder] else [])
    ++ (if (p.firstMatch lastQuarter?).isSome then [.orderedLastQuarter] else [])

/-- Tests for the term that begins the form for late work orders. -/
def isDelayedTerm (t : Text) : Bool :=
  let found := do
    let p ← (Place.start t).word? "status".toList
    let p ← p.blanks.sign? ['=']
    let p ← p.blanks.sign? ['\'', '"']
    let p ← p.word? "delayed".toList
    p.sign? ['\'', '"']
  found.any fun p => p.rest.isEmpty

/-! ## Reading -/

/-- The conditions that a text asks for. -/
def read (t : Text) : List Predicate :=
  let condition := unwrap t
  if condition.isEmpty then []
  else
    match split "or".toList condition with
    | first :: _ :: _ => if isDelayedTerm (unwrap first) then [.lateWork] else []
    | _ =>
      if _hmany : 2 ≤ (split "and".toList condition).length then
        (split "and".toList condition).attach.flatMap fun part => read part.1
      else ofTerm condition
termination_by t.length
decreasing_by
  exact Nat.lt_of_lt_of_le (length_lt_of_mem_split _hmany part.2) (length_unwrap_le t)

end Condition
end QueryDesk
