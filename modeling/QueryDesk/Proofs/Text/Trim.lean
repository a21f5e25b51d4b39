import Mathlib.Data.List.DropRight
import QueryDesk.Text.Classes

/-!
# Texts without outer blanks

`Text.IsTight` says that a text neither begins nor ends with a blank.  Trimming leaves such a text
alone (`trim_eq_self`), and takes off all blanks in front of a text (`trim_blank_append`) and behind
it (`trim_append_of_blank`).
-/

set_option autoImplicit false

namespace QueryDesk
namespace Text

/-- A text that neither begins nor ends with a blank. -/
structure IsTight (t : Text) : Prop where
  head : ∀ g ∈ t.head?, g.isBlank = false
  last : ∀ g ∈ t.getLast?, g.isBlank = false

/-- Nothing is dropped from the end of a text whose last glyph fails the test. -/
theorem dropEndWhile_eq_self {p : Glyph → Bool} {t : Text}
    (h : ∀ g ∈ t.getLast?, p g = false) : t.dropEndWhile p = t := by
  show t.rdropWhile p = t
  rw [List.rdropWhile_eq_self_iff]
  intro ht
  rw [h _ (List.getLast_mem_getLast? ht)]
  exact Bool.false_ne_true

theorem dropEndWhile_cons (p : Glyph → Bool) (g : Glyph) (t : Text) :
    dropEndWhile p (g :: t) =
      if (dropEndWhile p t).isEmpty && p g then [] else g :: dropEndWhile p t := by
  rw [dropEndWhile, dropEndWhile, List.reverse_cons, List.dropWhile_append]
  cases t.reverse.dropWhile p with
  | cons a rest => simp
  | nil => cases h : p g <;> simp [h]

/-- Dropping from the end stops at a glyph that fails the test. -/
theorem dropEndWhile_append_cons {p : Glyph → Bool} {g : Glyph} (h : p g = false) (s t : Text) :
    dropEndWhile p (s ++ g :: t) = s ++ g :: dropEndWhile p t := by
  induction s with
  | nil =>
    rw [List.nil_append, List.nil_append, dropEndWhile_cons, h, Bool.and_false,
      if_neg Bool.false_ne_true]
  | cons a s ih => rw [List.cons_append, dropEndWhile_cons, ih]; simp

theorem trimStart_eq_self {t : Text} (h : ∀ g ∈ t.head?, g.isBlank = false) :
    t.trimStart = t := by
  cases t with
  | nil => rfl
  | cons g rest =>
    have hg := h g rfl
    rw [trimStart, List.dropWhile_cons, hg, if_neg Bool.false_ne_true]

/-- **A text without outer blanks is left alone.** -/
theorem trim_eq_self {t : Text} (h : t.IsTight) : t.trim = t := by
  rw [trim, trimStart_eq_self h.head, trimEnd, dropEndWhile_eq_self h.last]

theorem dropEndWhile_last {p : Glyph → Bool} (t : Text) :
    ∀ g ∈ (t.dropEndWhile p).getLast?, p g = false := by
  intro g hg
  rw [dropEndWhile, List.getLast?_reverse] at hg
  have hhead := List.head?_dropWhile_not p t.reverse
  rw [Option.mem_def.mp hg] at hhead
  exact Bool.eq_false_iff.mpr (by simpa using hhead)

/-- **Trimming takes off all outer blanks.** -/
theorem isTight_trim (t : Text) : t.trim.IsTight where
  head g hg := by
    have hprefix : t.trim <+: t.trimStart := List.rdropWhile_prefix _ _
    have hstart : t.trimStart.head? = some g := by
      obtain ⟨behind, hbehind⟩ := hprefix
      rw [← hbehind, List.head?_append, Option.mem_def.mp hg]
      rfl
    have hhead := List.head?_dropWhile_not Glyph.isBlank t
    rw [← trimStart, hstart] at hhead
    exact Bool.eq_false_iff.mpr (by simpa using hhead)
  last := dropEndWhile_last _

theorem trim_trim (t : Text) : t.trim.trim = t.trim := trim_eq_self (isTight_trim t)

/-- Blanks in front of a text do not count. -/
theorem trim_blank_append {blanks : Text} (hb : ∀ g ∈ blanks, g.isBlank = true) (t : Text) :
    trim (blanks ++ t) = t.trim := by
  rw [trim, trim, trimStart, trimStart, List.dropWhile_append_of_pos hb]

/-- Blanks behind a text do not count. -/
theorem trim_append_of_blank {blanks : Text} (hb : ∀ g ∈ blanks, g.isBlank = true) (t : Text) :
    trim (t ++ blanks) = t.trim := by
  rw [trim, trim, trimStart, trimStart, List.dropWhile_append]
  split
  · next hempty =>
    rw [List.isEmpty_iff.mp hempty, List.dropWhile_eq_nil_iff.mpr hb]
  · rw [trimEnd, trimEnd, dropEndWhile, dropEndWhile, List.reverse_append,
      List.dropWhile_append_of_pos fun b hmem => hb b (List.mem_reverse.mp hmem)]

/-- A text is what trimming leaves of it, between the blanks that it takes off. -/
theorem exists_trim (t : Text) : ∃ b b' : Text, t = b ++ (t.trim ++ b') ∧
    (∀ g ∈ b, g.isBlank = true) ∧ ∀ g ∈ b', g.isBlank = true := by
  refine ⟨t.takeWhile Glyph.isBlank, t.trimStart.rtakeWhile Glyph.isBlank, ?_,
    fun g => List.mem_takeWhile_imp, fun g => List.mem_rtakeWhile_imp⟩
  have hend : t.trim ++ t.trimStart.rtakeWhile Glyph.isBlank = t.trimStart :=
    List.rdropWhile_append_rtakeWhile
  rw [hend]
  exact List.takeWhile_append_dropWhile.symm

end Text
end QueryDesk
