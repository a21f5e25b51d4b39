import Mathlib.Data.List.Forall2
import QueryDesk.Proofs.Json.Glyphs
import QueryDesk.Proofs.Json.Spelling

/-!
# What is written as JSON is read back

Nulls, flags, whole numbers that are not too long, texts of any glyphs, and lists and records of
such values are read back from JSON as they were written (`exists_write_read`).  A timestamp or a
day is read back as the text that the writer made of it.
-/

set_option autoImplicit false

namespace QueryDesk
namespace Json

/-! ## What is kept -/

mutual

/-- What a value is read back as: a timestamp or a day as the text made of it. -/
def readBack (fallback : Fallback) : Value → Value
  | .list items => .list (readBackItems fallback items)
  | .record fields => .record (readBackFields fallback fields)
  | .timestamp t => ((fallback (.timestamp t)).toOption.map .text).getD .null
  | .date d => ((fallback (.date d)).toOption.map .text).getD .null
  | v => v

/-- What the items of a list are read back as. -/
def readBackItems (fallback : Fallback) : List Value → List Value
  | [] => []
  | v :: vs => readBack fallback v :: readBackItems fallback vs

/-- What the fields of a record are read back as. -/
def readBackFields (fallback : Fallback) : List (Text × Value) → List (Text × Value)
  | [] => []
  | (name, v) :: fields => (name, readBack fallback v) :: readBackFields fallback fields

end

/-- Says that JSON keeps a value: no number in it is too long, no record has two fields of one name,
and its timestamps and days can be written. -/
inductive IsKept (fallback : Fallback) : Value → Prop
  | null : IsKept fallback .null
  | flag (b : Bool) : IsKept fallback (.flag b)
  | whole {n : Int} (h : Number.isTooLong n = false) : IsKept fallback (.whole n)
  | text (t : Text) : IsKept fallback (.text t)
  | timestamp {t : Timestamp} {u : Text} (h : fallback (.timestamp t) = .ok u) :
    IsKept fallback (.timestamp t)
  | date {d : Date} {u : Text} (h : fallback (.date d) = .ok u) : IsKept fallback (.date d)
  | list {items : List Value} (h : ∀ v ∈ items, IsKept fallback v) : IsKept fallback (.list items)
  | record {fields : List (Text × Value)} (hnames : (fields.map (·.1)).Nodup)
    (h : ∀ p ∈ fields, IsKept fallback p.2) : IsKept fallback (.record fields)

variable {fallback : Fallback}

theorem readBackItems_eq (items : List Value) :
    readBackItems fallback items = items.map (readBack fallback) := by
  induction items with
  | nil => rw [readBackItems]; rfl
  | cons v items ih => rw [readBackItems, ih]; rfl

theorem readBackFields_eq (fields : List (Text × Value)) :
    readBackFields fallback fields = fields.map fun p => (p.1, readBack fallback p.2) := by
  induction fields with
  | nil => rw [readBackFields]; rfl
  | cons p fields ih => rw [readBackFields, ih]; rfl

/-! ## Whole outputs -/

namespace Output

@[simp] theorem toExcept_piece (t : Text) : (piece t).toExcept = .ok t := by
  simp [piece, toExcept]

@[simp] theorem toExcept_opening (lead : Text) : (opening lead).toExcept = .ok lead := by
  rw [opening]
  split
  · next h => rw [List.isEmpty_iff.mp h]; rfl
  · exact toExcept_piece lead

@[simp] theorem toExcept_attempt (x : Except Fault Text) : (attempt x).toExcept = x := by
  cases x with
  | ok t => exact toExcept_piece t
  | error f => rfl

theorem toExcept_andThen {a b : Output} {s t : Text} (ha : a.toExcept = .ok s)
    (hb : b.toExcept = .ok t) : (a.andThen b).toExcept = .ok (s ++ t) := by
  unfold toExcept at ha hb
  split at ha
  · cases ha
  · next hfault =>
    split at hb
    · cases hb
    · next hfault' =>
      cases ha
      cases hb
      simp [andThen, toExcept, hfault, hfault']

end Output

/-! ## Ways to spell -/

/-- A way to spell what is sent, glyph by glyph: signs stay as they are, and the strings of some
texts are read as these texts. -/
structure Respelling where
  form : Glyph → Text
  holds : Text → Prop
  form_sign : ∀ g, g.isSign = true → form g = [g]
  spellsString : ∀ t, holds t → SpellsString ((string t).flatMap form) t

namespace Respelling

variable (r : Respelling)

/-- A text spelled in some way. -/
def apply (t : Text) : Text := t.flatMap r.form

@[simp] theorem apply_append (t u : Text) : r.apply (t ++ u) = r.apply t ++ r.apply u :=
  List.flatMap_append

/-- Signs are spelled as they are. -/
theorem apply_sign {t : Text} (h : ∀ g ∈ t, g.isSign = true) : r.apply t = t := by
  induction t with
  | nil => rfl
  | cons g t ih =>
    obtain ⟨hg, ht⟩ := List.forall_mem_cons.mp h
    have htail : t.flatMap r.form = t := ih ht
    rw [apply, List.flatMap_cons, r.form_sign g hg, htail]
    rfl

/-- What is sent, as it is. -/
def asIs : Respelling where
  form g := [g]
  holds _ := True
  form_sign _ _ := rfl
  spellsString t _ := by
    rw [List.flatMap_singleton']
    exact spellsString_string t

@[simp] theorem apply_asIs (t : Text) : asIs.apply t = t := List.flatMap_singleton' t

end Respelling

variable {r : Respelling}

/-- Says that a value is sent as a text that, spelled in some way, spells some value. -/
def IsSpelledAs (r : Respelling) (fallback : Fallback) (v back : Value) : Prop :=
  ∃ u, (∀ lead, (send fallback lead v).toExcept = .ok (lead ++ u)) ∧
    Spells Number.maxDigits (r.apply u) back

/-- Says that a value is sent as a text that spells what it is read back as. -/
abbrev IsSpelled (fallback : Fallback) (v : Value) : Prop :=
  IsSpelledAs .asIs fallback v (readBack fallback v)

/-- A value that is sent in one piece of signs. -/
theorem isSpelledAs_of_signs {v back : Value} {u : Text}
    (hsend : ∀ lead, send fallback lead v = .piece (lead ++ u)) (hsign : ∀ g ∈ u, g.isSign = true)
    (h : Spells Number.maxDigits u back) : IsSpelledAs r fallback v back := by
  refine ⟨u, fun lead => ?_, (r.apply_sign hsign).symm ▸ h⟩
  rw [hsend]
  exact Output.toExcept_piece _

theorem isSpelledAs_null : IsSpelledAs r fallback .null .null :=
  isSpelledAs_of_signs (fun _ => by rw [send]) (by decide) spells_null

theorem isSpelledAs_flag (b : Bool) : IsSpelledAs r fallback (.flag b) (.flag b) :=
  isSpelledAs_of_signs (fun _ => by rw [send]) (by cases b <;> decide) (spells_flag b)

theorem isSpelledAs_whole {n : Int} (h : Number.isTooLong n = false) :
    IsSpelledAs r fallback (.whole n) (.whole n) := by
  have hshort : ¬ Nat.pow 10 Number.maxDigits ≤ n.natAbs := of_decide_eq_false h
  have hlen := Number.length_digits_le (by decide) (Nat.lt_of_not_le hshort)
  refine isSpelledAs_of_signs (fun lead => ?_) (Number.isSign_signedDigits n) (spells_whole hlen)
  rw [send, Value.writeWhole, h, if_neg Bool.false_ne_true]
  rfl

theorem isSpelledAs_text {t : Text} (h : r.holds t) :
    IsSpelledAs r fallback (.text t) (.text t) := by
  refine ⟨string t, fun lead => ?_, (r.spellsString t h).spells⟩
  rw [send]
  exact Output.toExcept_piece _

/-- A value that is written as a text. -/
theorem isSpelledAs_of_fallback {v : Value} {t : Text} (h : fallback v = .ok t)
    (hsend : ∀ lead, send fallback lead v =
      (opening lead).andThen (.attempt ((fallback v).map string))) (ht : r.holds t) :
    IsSpelledAs r fallback v (.text t) := by
  refine ⟨string t, fun lead => ?_, (r.spellsString t ht).spells⟩
  rw [hsend, h]
  exact Output.toExcept_andThen (Output.toExcept_opening lead) (Output.toExcept_attempt _)

section Nested

variable {items backs : List Value} {fields fieldBacks : List (Text × Value)}

theorem exists_sendItems (h : List.Forall₂ (IsSpelledAs r fallback) items backs)
    (hne : items ≠ []) :
    ∃ u, (∀ lead, (sendItems fallback lead items).toExcept = .ok (lead ++ u)) ∧
      SpellsItems Number.maxDigits (r.apply u) backs := by
  induction h with
  | nil => exact absurd rfl hne
  | @cons v back items backs hv hitems ih =>
    obtain ⟨u, hu, hspells⟩ := hv
    cases hitems with
    | nil =>
      refine ⟨u ++ Text.of "]", fun lead => ?_, ?_⟩
      · rw [sendItems, sendItems, ← List.append_assoc]
        exact Output.toExcept_andThen (hu lead) (Output.toExcept_piece _)
      · rw [r.apply_append, r.apply_sign (t := Text.of "]") (by decide)]
        exact spellsItems_singleton hspells
    | cons hw hitems =>
      obtain ⟨us, hus, hspellsItems⟩ := ih (List.cons_ne_nil _ _)
      refine ⟨u ++ Text.of ", " ++ us, fun lead => ?_, ?_⟩
      · rw [sendItems, List.append_assoc u, ← List.append_assoc lead]
        exact Output.toExcept_andThen (hu lead) (hus _)
      · rw [r.apply_append, r.apply_append, r.apply_sign (t := Text.of ", ") (by decide)]
        exact spellsItems_cons hspells hspellsItems

/-- Says that a field is sent under its name as a text that spells another field. -/
def FieldSpelledAs (r : Respelling) (fallback : Fallback) (field back : Text × Value) : Prop :=
  back.1 = field.1 ∧ r.holds field.1 ∧ IsSpelledAs r fallback field.2 back.2

theorem exists_sendFields (h : List.Forall₂ (FieldSpelledAs r fallback) fields fieldBacks)
    (hne : fields ≠ []) :
    ∃ u, (∀ lead, (sendFields fallback lead fields).toExcept = .ok (lead ++ u)) ∧
      SpellsFields Number.maxDigits (r.apply u) fieldBacks := by
  induction h with
  | nil => exact absurd rfl hne
  | @cons field back fields fieldBacks hfield hfields ih =>
    obtain ⟨_, v⟩ := field
    obtain ⟨name, back⟩ := back
    obtain ⟨rfl, hholds, u, hu, hspells⟩ := hfield
    dsimp only at hu hholds
    have hname := r.spellsString name hholds
    -- The name and the value behind a lead, in front of what is left.
    have hsend : ∀ lead more rest, rest.toExcept = .ok more →
        ((opening lead).andThen <| (Output.piece (string name)).andThen <|
          (Output.piece (Text.of ": ")).andThen <| (send fallback [] v).andThen rest).toExcept =
          .ok (lead ++ (string name ++ (Text.of ": " ++ (u ++ more)))) := by
      intro lead more rest hrest
      exact Output.toExcept_andThen (Output.toExcept_opening lead) <|
        Output.toExcept_andThen (Output.toExcept_piece _) <|
          Output.toExcept_andThen (Output.toExcept_piece _) <|
            Output.toExcept_andThen (hu []) hrest
    have happly : ∀ more, r.apply (string name ++ (Text.of ": " ++ (u ++ more))) =
        (string name).flatMap r.form ++ Text.of ": " ++ r.apply u ++ r.apply more := by
      intro more
      rw [r.apply_append, r.apply_append, r.apply_append,
        r.apply_sign (t := Text.of ": ") (by decide)]
      simp only [Respelling.apply, List.append_assoc]
    cases hfields with
    | nil =>
      refine ⟨string name ++ (Text.of ": " ++ (u ++ Text.of "\x7d")), fun lead => ?_, ?_⟩
      · rw [sendFields, sendFields, hsend lead _ _ (Output.toExcept_piece _)]
      · rw [happly, r.apply_sign (t := Text.of "\x7d") (by decide)]
        exact spellsFields_singleton hname hspells
    | cons hw hfields =>
      obtain ⟨us, hus, hspellsFields⟩ := ih (List.cons_ne_nil _ _)
      refine ⟨string name ++ (Text.of ": " ++ (u ++ (Text.of ", " ++ us))), fun lead => ?_, ?_⟩
      · rw [sendFields]
        exact hsend lead _ _ (hus _)
      · rw [happly, r.apply_append, r.apply_sign (t := Text.of ", ") (by decide),
          ← List.append_assoc]
        exact spellsFields_cons hname hspells hspellsFields

/-- A list, of whatever kind, is spelled as the list of what its items are spelled as. -/
theorem isSpelledAs_of_sendItems {v : Value}
    (hsend : ∀ lead, send fallback lead v = (opening lead).andThen
      (if items.isEmpty then .piece (Text.of "[]") else sendItems fallback (Text.of "[") items))
    (h : List.Forall₂ (IsSpelledAs r fallback) items backs) :
    IsSpelledAs r fallback v (.list backs) := by
  cases h with
  | nil =>
    refine ⟨Text.of "[]", fun lead => ?_, ?_⟩
    · rw [hsend]
      exact Output.toExcept_andThen (Output.toExcept_opening lead) (Output.toExcept_piece _)
    · rw [r.apply_sign (by decide)]
      exact spells_nil
  | cons hv hitems =>
    obtain ⟨u, hu, hspells⟩ := exists_sendItems (.cons hv hitems) (List.cons_ne_nil _ _)
    refine ⟨Text.of "[" ++ u, fun lead => ?_, ?_⟩
    · rw [hsend]
      exact Output.toExcept_andThen (Output.toExcept_opening lead) (hu _)
    · rw [r.apply_append, r.apply_sign (t := Text.of "[") (by decide)]
      exact spells_list hspells

/-- A record is sent as a text that spells the record of what its fields are spelled as, whatever
follows. -/
theorem exists_send_record (h : List.Forall₂ (FieldSpelledAs r fallback) fields fieldBacks) :
    ∃ u, (∀ lead, (send fallback lead (.record fields)).toExcept = .ok (lead ++ u)) ∧
      SpellsRecord Number.maxDigits (r.apply u) (Value.recordOf fieldBacks) := by
  cases h with
  | nil =>
    refine ⟨Text.of "\x7b\x7d", fun lead => ?_, ?_⟩
    · rw [send]
      exact Output.toExcept_andThen (Output.toExcept_opening lead) (Output.toExcept_piece _)
    · rw [r.apply_sign (by decide)]
      exact spellsRecord_nil
  | cons hfield hfields =>
    obtain ⟨u, hu, hspells⟩ := exists_sendFields (.cons hfield hfields) (List.cons_ne_nil _ _)
    refine ⟨Text.of "\x7b" ++ u, fun lead => ?_, ?_⟩
    · rw [send]
      exact Output.toExcept_andThen (Output.toExcept_opening lead)
        (Output.toExcept_andThen (Output.toExcept_piece _) (hu []))
    · rw [r.apply_append, r.apply_sign (t := Text.of "\x7b") (by decide)]
      exact spellsRecord_fields hspells

theorem isSpelledAs_record (h : List.Forall₂ (FieldSpelledAs r fallback) fields fieldBacks) :
    IsSpelledAs r fallback (.record fields) (Value.recordOf fieldBacks) := by
  obtain ⟨u, hu, hspells⟩ := exists_send_record h
  exact ⟨u, hu, hspells.spells⟩

end Nested

theorem isSpelled_list {items : List Value} (h : ∀ v ∈ items, IsSpelled fallback v) :
    IsSpelled fallback (.list items) := by
  rw [IsSpelled, readBack, readBackItems_eq]
  refine isSpelledAs_of_sendItems (fun lead => by rw [send]) ?_
  rw [List.forall₂_map_right_iff, List.forall₂_same]
  exact h

theorem isSpelled_record {fields : List (Text × Value)} (hnames : (fields.map (·.1)).Nodup)
    (h : ∀ p ∈ fields, IsSpelled fallback p.2) : IsSpelled fallback (.record fields) := by
  have hnames' : ((readBackFields fallback fields).map (·.1)).Nodup := by
    rw [readBackFields_eq, List.map_map]
    exact hnames
  rw [IsSpelled, readBack, ← Value.recordOf_of_nodup hnames', readBackFields_eq]
  refine isSpelledAs_record ?_
  rw [List.forall₂_map_right_iff, List.forall₂_same]
  exact fun p hp => ⟨rfl, trivial, h p hp⟩

theorem isSpelled_of_isKept {v : Value} (h : IsKept fallback v) : IsSpelled fallback v := by
  induction h with
  | null => exact isSpelledAs_null
  | flag b => exact isSpelledAs_flag b
  | whole h => exact isSpelledAs_whole h
  | text t => exact isSpelledAs_text trivial
  | timestamp h =>
    rw [IsSpelled, readBack, h]
    exact isSpelledAs_of_fallback h (fun _ => rfl) trivial
  | date h =>
    rw [IsSpelled, readBack, h]
    exact isSpelledAs_of_fallback h (fun _ => rfl) trivial
  | list h ih => exact isSpelled_list ih
  | record hnames h ih => exact isSpelled_record hnames ih

/-- **What JSON keeps is written and read back.** -/
theorem exists_write_read {v : Value} (h : IsKept fallback v) :
    ∃ t, write fallback v = .ok t ∧ read t = .ok (readBack fallback v) := by
  obtain ⟨u, hu, hspells⟩ := isSpelled_of_isKept h
  rw [Respelling.apply_asIs] at hspells
  exact ⟨u, hu [], readAtMost_of_spells hspells⟩

end Json
end QueryDesk

/-! ## Nested values in JSON

Whether a nested value can be written as JSON, what of it is read back and which glyphs are sent for
it is settled by its leaves and by the names of its fields.  So each of the three has to be looked
at for simple values only.
-/

namespace QueryDesk
namespace Value.IsMadeOf

open Json

variable {names : Text → Prop} {leaves : Value → Prop} {v : Value} {fallback : Fallback}

theorem isKept (hleaf : ∀ v, leaves v → IsKept fallback v) (h : v.IsMadeOf names leaves) :
    IsKept fallback v := by
  induction h with
  | leaf h => exact hleaf _ h
  | list _ ih => exact .list ih
  | record hnodup _ _ ih => exact .record hnodup ih

theorem readBack_eq {f : Value → Value}
    (hleaf : ∀ v, leaves v → readBack fallback v = v.mapLeaves f) (h : v.IsMadeOf names leaves) :
    readBack fallback v = v.mapLeaves f := by
  induction h with
  | leaf h => exact hleaf _ h
  | list _ ih =>
    rw [readBack, readBackItems_eq, mapLeaves, mapLeavesItems_eq]
    exact congrArg Value.list (List.map_congr_left ih)
  | record _ _ _ ih =>
    rw [readBack, readBackFields_eq, mapLeaves, mapLeavesFields_eq]
    refine congrArg Value.record (List.map_congr_left fun p hp => ?_)
    rw [ih p hp]

theorem each_send {P : Glyph → Prop} (hsign : ∀ g, g.isSign = true → P g)
    (hnames : ∀ name, names name → ∀ g ∈ string name, P g)
    (hleaf : ∀ v, leaves v → ∀ lead, (∀ g ∈ lead, P g) → Output.Each P (send fallback lead v))
    (h : v.IsMadeOf names leaves) (lead : Text) (hlead : ∀ g ∈ lead, P g) :
    Output.Each P (send fallback lead v) := by
  induction h generalizing lead with
  | leaf h => exact hleaf _ h lead hlead
  | list _ ih => exact each_send_list hsign (fun v hv lead => ih v hv lead) lead hlead
  | record _ hrecord _ ih =>
    exact each_send_record hsign (fun p hp => hnames p.1 (hrecord p hp))
      (fun p hp lead => ih p hp lead) lead hlead

end Value.IsMadeOf
end QueryDesk
