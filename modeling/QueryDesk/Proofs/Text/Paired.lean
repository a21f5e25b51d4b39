import QueryDesk.Proofs.Json.Glyphs
import QueryDesk.Web.Body

/-!
# Texts that can be written as bytes

A text can be written as bytes if no half of a surrogate pair stands alone in it.  So can numbers and
instants in all their forms, and a text as JSON spells it if the text itself can.
-/

set_option autoImplicit false

namespace QueryDesk

theorem Glyph.isLone_of_isSign {g : Glyph} (h : g.isSign = true) : g.isLone = false := by
  rcases g with c | half
  · rfl
  · cases h

namespace Text

/-- Says that no half of a surrogate pair stands alone in a text. -/
def IsPaired (t : Text) : Prop := ∀ g ∈ t, g.isLone = false

variable {g : Glyph} {s t : Text}

@[simp] theorem isPaired_nil : IsPaired [] := fun _ h => (List.not_mem_nil h).elim

@[simp] theorem isPaired_cons : IsPaired (g :: t) ↔ g.isLone = false ∧ t.IsPaired :=
  List.forall_mem_cons

@[simp] theorem isPaired_append : IsPaired (s ++ t) ↔ s.IsPaired ∧ t.IsPaired :=
  List.forall_mem_append

@[simp] theorem isPaired_of (s : String) : (Text.of s).IsPaired := by
  intro g hg
  obtain ⟨c, -, rfl⟩ := List.mem_map.mp hg
  rfl

@[simp] theorem isPaired_digits (n : Nat) : IsPaired (Number.digits n) :=
  fun g hg => Glyph.isLone_of_isSign (Number.isSign_digits n g hg)

@[simp] theorem isPaired_paddedDigits (width n : Nat) : IsPaired (Number.paddedDigits width n) :=
  fun g hg => Glyph.isLone_of_isSign (Number.isSign_paddedDigits width n g hg)

@[simp] theorem isPaired_signedDigits (n : Int) : IsPaired (Number.signedDigits n) :=
  fun g hg => Glyph.isLone_of_isSign (Number.isSign_signedDigits n g hg)

theorem isPaired_string (h : t.IsPaired) : (Json.string t).IsPaired :=
  Json.forall_mem_string (fun _ => Glyph.isLone_of_isSign) fun g hg _ => h g hg

end Text

namespace Timestamp

variable (t : Timestamp)

theorem isPaired_writtenToMillisecond : t.writtenToMillisecond.IsPaired := by
  simp [writtenToMillisecond, clockText, Date.written, Glyph.isLone]

theorem isPaired_shortAheadText (ahead : Int) : (shortAheadText ahead).IsPaired := by
  rw [shortAheadText]
  split
  · exact Text.isPaired_of "Z"
  · split <;> simp [Glyph.isLone]

/-- An instant can be written in a body. -/
theorem isPaired_shortWritten : t.shortWritten.IsPaired := by
  have hwritten : ({ t with ahead := none } : Timestamp).written.IsPaired := by
    rw [written, writtenWith]
    split <;> simp [clockText, Date.written, Glyph.isLone]
  rw [shortWritten, Text.isPaired_append]
  refine ⟨hwritten, ?_⟩
  cases t.ahead with
  | none => exact Text.isPaired_nil
  | some ahead => exact isPaired_shortAheadText ahead

end Timestamp
end QueryDesk
