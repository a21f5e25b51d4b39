import QueryDesk.Text.Glyph

/-!
# Texts as bytes

UTF-8, with bytes as plain numbers.  Reading never fails: each longest run of bytes that begins a
character but cannot be completed is read as U+FFFD, and so is each byte that begins nothing.  The
bounds on the byte behind the first keep out overlong forms, surrogate halves and numbers beyond
the last code point, so every completed number is a character.
-/

set_option autoImplicit false

namespace QueryDesk
namespace Utf8

/-- The character that stands for what could not be read. -/
def replacement : Glyph := .char '\uFFFD'

/-- The bytes of a glyph; a lone half has none of its own and counts as unreadable. -/
def ofGlyph : Glyph → List Nat
  | .char c => (String.utf8EncodeChar c).map (·.toNat)
  | .lone _ => [0xEF, 0xBF, 0xBD]

/-- What a first byte announces: its share of the code point, how many bytes follow, and the bounds
of the first of them. -/
structure Announcement where
  share : Nat
  following : Nat
  least : Nat := 0x80
  most : Nat := 0xBF

/-- What a first byte above the ASCII ones announces, if it may come first. -/
def announcement? (b : Nat) : Option Announcement :=
  if 0xC2 ≤ b ∧ b ≤ 0xDF then some { share := b - 0xC0, following := 1 }
  else if b = 0xE0 then some { share := 0, following := 2, least := 0xA0 }
  else if b = 0xED then some { share := 0xD, following := 2, most := 0x9F }
  else if 0xE1 ≤ b ∧ b ≤ 0xEF then some { share := b - 0xE0, following := 2 }
  else if b = 0xF0 then some { share := 0, following := 3, least := 0x90 }
  else if b = 0xF4 then some { share := 4, following := 3, most := 0x8F }
  else if 0xF1 ≤ b ∧ b ≤ 0xF3 then some { share := b - 0xF0, following := 3 }
  else none

/-- Completes a code point with the bytes that follow; the rest of the bytes remains. -/
def complete (share least most : Nat) : Nat → List Nat → Option Nat × List Nat
  | 0, bytes => (some share, bytes)
  | _ + 1, [] => (none, [])
  | following + 1, b :: rest =>
    if least ≤ b ∧ b ≤ most then complete (share * 0x40 + b % 0x40) 0x80 0xBF following rest
    else (none, b :: rest)

/-- What remains is no longer than what was there. -/
theorem length_complete_le (share least most following : Nat) (bytes : List Nat) :
    (complete share least most following bytes).2.length ≤ bytes.length := by
  induction following generalizing share least most bytes with
  | zero => simp [complete]
  | succ n ih =>
    cases bytes with
    | nil => simp [complete]
    | cons b rest =>
      simp only [complete]
      split
      · exact Nat.le_succ_of_le (ih ..)
      · exact Nat.le_refl _

/-- Reads the glyph at the front of some bytes, given its first byte and the others. -/
def readGlyph (b : Nat) (rest : List Nat) : Glyph × List Nat :=
  if b < 0x80 then (Glyph.ofCode b, rest)
  else match announcement? b with
    | none => (replacement, rest)
    | some a =>
      match complete a.share a.least a.most a.following rest with
      | (some code, behind) => (Glyph.ofCode code, behind)
      | (none, behind) => (replacement, behind)

theorem length_readGlyph_le (b : Nat) (rest : List Nat) :
    (readGlyph b rest).2.length ≤ rest.length := by
  unfold readGlyph
  split
  · exact Nat.le_refl _
  · split
    · exact Nat.le_refl _
    · rename_i a _
      have h := length_complete_le a.share a.least a.most a.following rest
      rcases hc : complete a.share a.least a.most a.following rest with ⟨code, behind⟩
      rw [hc] at h
      cases code <;> exact h

/-- Reads bytes as a text. -/
def read (bytes : List Nat) : Text :=
  match bytes with
  | [] => []
  | b :: rest =>
    let found := readGlyph b rest
    found.1 :: read found.2
termination_by bytes.length
decreasing_by exact Nat.lt_succ_of_le (length_readGlyph_le b rest)

end Utf8
end QueryDesk
