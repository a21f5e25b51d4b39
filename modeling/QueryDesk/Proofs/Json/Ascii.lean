import Mathlib.Data.List.Chain
import QueryDesk.Proofs.Json.RoundTrip

/-!
# JSON in ASCII

A writer of JSON may keep to ASCII: it sends the escapes of code units for all other glyphs of its
strings, one for most of them and the two halves of a surrogate pair for a character beyond the
first 65536.  The reader joins such halves again.  It joins any two, so halves that stand side by
side in a text would be read as one character; texts without such neighbours (`Text.IsUnsplit`) are
read back (`Respelling.ascii`).
-/

set_option autoImplicit false

namespace QueryDesk

/-! ## Code points -/

namespace Glyph

theorem code_char (c : Char) : (char c).code < 0xD800 ∨
    (0xE000 ≤ (char c).code ∧ (char c).code < 0x110000) := by
  rcases c.valid with hlow | ⟨hhigh, hlt⟩
  · exact .inl hlow
  · exact .inr ⟨hhigh, hlt⟩

theorem code_lt (g : Glyph) : g.code < 0x110000 := by
  rcases g with c | half
  · have hcode := code_char c
    omega
  · have hhalf := half.isLt
    rw [code]
    omega

theorem isSign_iff (g : Glyph) : g.isSign = true ↔ 0x20 ≤ g.code ∧ g.code < 0x7F := by
  rcases g with c | half
  · simp [isSign, code]
  · refine iff_of_false Bool.false_ne_true fun h => ?_
    rw [code] at h
    omega

theorem isFirstHalf_iff (g : Glyph) :
    g.isFirstHalf = true ↔ 0xD800 ≤ g.code ∧ g.code < 0xDC00 := by
  rcases g with c | half
  · have hcode := code_char c
    exact iff_of_false Bool.false_ne_true (by omega)
  · have hbound : ((0x400 : Fin 0x800) : Nat) = 0x400 := rfl
    simp only [isFirstHalf, code, decide_eq_true_eq, Fin.lt_def]
    omega

theorem isSecondHalf_iff (g : Glyph) :
    g.isSecondHalf = true ↔ 0xDC00 ≤ g.code ∧ g.code < 0xE000 := by
  rcases g with c | half
  · have hcode := code_char c
    exact iff_of_false Bool.false_ne_true (by omega)
  · have hhalf := half.isLt
    have hbound : ((0x400 : Fin 0x800) : Nat) = 0x400 := rfl
    simp only [isSecondHalf, code, decide_eq_true_eq, Fin.le_def]
    omega

end Glyph

/-- Says that in a text no first half of a surrogate pair has a second half behind it. -/
def Text.IsUnsplit (t : Text) : Prop :=
  t.IsChain fun g h => ¬(g.isFirstHalf = true ∧ h.isSecondHalf = true)

instance (t : Text) : Decidable t.IsUnsplit :=
  inferInstanceAs (Decidable (t.IsChain fun g h =>
    ¬(g.isFirstHalf = true ∧ h.isSecondHalf = true)))

namespace Json

/-! ## Escapes -/

/-- The escape of a code unit. -/
def unitEscape (n : Nat) : Text := Text.of "\\u" ++ Text.hexadecimal 4 n

/-- The escapes of the code units of a code point. -/
def codeEscape (n : Nat) : Text :=
  if n < 0x10000 then unitEscape n
  else unitEscape (0xD800 + (n - 0x10000) / 0x400) ++ unitEscape (0xDC00 + (n - 0x10000) % 0x400)

/-- A glyph of a written text in ASCII. -/
def asciiGlyph (g : Glyph) : Text := if g.isSign = true then [g] else codeEscape g.code

variable {n m : Nat} {g : Glyph} {behind : Text}

theorem unitEscape_append (h : n < 0x10000) (behind : Text) : unitEscape n ++ behind =
    .char '\\' :: .char 'u' :: hexDigit (n / 16 / 16 / 16) :: hexDigit (n / 16 / 16) ::
      hexDigit (n / 16) :: hexDigit n :: behind := by
  rw [unitEscape, hexadecimal_four h]
  rfl

theorem leadingUnit?_unitEscape (h : n < 0x10000) :
    leadingUnit? (unitEscape n ++ behind) = some n := by
  rw [unitEscape_append h]
  exact codeUnit?_hexDigit h

/-- The escapes of two halves are read as the character that they make. -/
theorem takeGlyph?_pair (hn : 0xD800 ≤ n ∧ n < 0xDC00) (hm : 0xDC00 ≤ m ∧ m < 0xE000) :
    takeGlyph? (unitEscape n ++ (unitEscape m ++ behind)) =
      some (Glyph.ofCode (joinHalves n m), behind) := by
  rw [unitEscape_append (by omega), unitEscape_append (by omega)]
  simp only [takeGlyph?, codeUnit?_hexDigit (show n < 0x10000 by omega),
    codeUnit?_hexDigit (show m < 0x10000 by omega)]
  exact if_pos ⟨hn.1, hn.2, hm⟩

/-! ## Strings -/

theorem flatMap_asciiGlyph_of_isSign {t : Text} (h : ∀ g ∈ t, g.isSign = true) :
    t.flatMap asciiGlyph = t := by
  induction t with
  | nil => rfl
  | cons g t ih =>
    obtain ⟨hg, ht⟩ := List.forall_mem_cons.mp h
    rw [List.flatMap_cons, ih ht, asciiGlyph, if_pos hg]
    rfl

/-- A glyph inside a string in ASCII. -/
def asciiEscaped (g : Glyph) : Text := (escapedGlyph g).flatMap asciiGlyph

theorem escapedGlyph_of_le (h : 0x7F ≤ g.code) : escapedGlyph g = [g] := by
  have hne : ∀ c : Char, c.toNat < 0x7F → g ≠ .char c := by
    rintro c hc rfl
    exact absurd hc (Nat.not_lt.mpr h)
  unfold escapedGlyph
  rw [if_neg (hne _ (by decide)), if_neg (hne _ (by decide)), if_neg (hne _ (by decide)),
    if_neg (hne _ (by decide)), if_neg (hne _ (by decide)), if_neg (hne _ (by decide)),
    if_neg (hne _ (by decide)), if_neg (by omega)]

/-- In ASCII a glyph is escaped as ever, or by its code units. -/
theorem asciiEscaped_eq_or (g : Glyph) : (g.code < 0x7F ∧ asciiEscaped g = escapedGlyph g) ∨
    (0x7F ≤ g.code ∧ asciiEscaped g = codeEscape g.code) := by
  rcases Nat.lt_or_ge g.code 0x7F with hlt | hge
  · refine .inl ⟨hlt, flatMap_asciiGlyph_of_isSign fun h hmem => ?_⟩
    rcases of_mem_escapedGlyph hmem with hs | ⟨rfl, hcode⟩
    · exact hs
    · exact h.isSign_iff.mpr ⟨hcode, hlt⟩
  · have hsign : ¬g.isSign = true := fun h => absurd hge (Nat.not_le.mpr (g.isSign_iff.mp h).2)
    refine .inr ⟨hge, ?_⟩
    rw [asciiEscaped, escapedGlyph_of_le hge, List.flatMap_singleton, asciiGlyph, if_neg hsign]

/-- The first code unit of a glyph that is escaped as ever is that of a control sign. -/
theorem leadingUnit?_escapedGlyph (h : n ∈ leadingUnit? (escapedGlyph g ++ behind)) : n < 0x20 := by
  unfold escapedGlyph at h
  split_ifs at h with h₁ h₂ h₃ h₄ h₅ h₆ h₇ h₈
  on_goal 9 =>
    unfold leadingUnit? at h
    split at h
    · next heq => exact absurd (List.cons.inj heq).1 h₂
    · cases h
  on_goal 8 =>
    have hunit : leadingUnit? (unitEscape g.code ++ behind) = some g.code :=
      leadingUnit?_unitEscape (h₈.trans (by decide))
    exact Option.some.inj (hunit.symm.trans h) ▸ h₈
  all_goals cases h

/-- Only a second half begins with the code unit of one. -/
theorem isSecondHalf_of_leadingUnit? (h : n ∈ leadingUnit? (asciiEscaped g ++ behind))
    (hn : 0xDC00 ≤ n ∧ n < 0xE000) : g.isSecondHalf = true := by
  rcases asciiEscaped_eq_or g with ⟨hlt, hg⟩ | ⟨hge, hg⟩
  · rw [hg] at h
    have := leadingUnit?_escapedGlyph h
    omega
  · have hcode := g.code_lt
    rw [hg, codeEscape] at h
    split at h
    · next hshort =>
      rw [leadingUnit?_unitEscape hshort] at h
      cases h
      exact g.isSecondHalf_iff.mpr hn
    · rw [List.append_assoc, leadingUnit?_unitEscape (by omega)] at h
      cases h
      omega

theorem exists_asciiEscaped (g : Glyph) : ∃ first more,
    asciiEscaped g = first :: more ∧ first ≠ .char '"' := by
  rcases asciiEscaped_eq_or g with ⟨-, hg⟩ | ⟨-, hg⟩
  · rw [hg]
    exact exists_escapedGlyph g
  · rw [hg, codeEscape]
    split
    · exact ⟨_, _, rfl, by decide⟩
    · exact ⟨_, _, rfl, by decide⟩

/-- A glyph is read from its form in a string in ASCII, unless it is a first half and the code unit
of a second half follows. -/
theorem takeGlyph?_ascii (hbehind : g.isFirstHalf = true →
      ∀ m ∈ leadingUnit? behind, ¬(0xDC00 ≤ m ∧ m < 0xE000)) :
    takeGlyph? (asciiEscaped g ++ behind) = some (g, behind) := by
  rcases asciiEscaped_eq_or g with ⟨-, hg⟩ | ⟨hge, hg⟩
  · rw [hg]
    exact takeGlyph?_escapedGlyph g behind
  · have hcode := g.code_lt
    rw [hg, codeEscape]
    split
    · next hshort =>
      rw [unitEscape_append hshort, takeGlyph?_unit (codeUnit?_hexDigit hshort), ofCode_code]
      rintro m hm ⟨h₁, h₂, hm'⟩
      exact hbehind (g.isFirstHalf_iff.mpr ⟨h₁, h₂⟩) m hm hm'
    · rw [List.append_assoc, takeGlyph?_pair (by omega) (by omega)]
      have hjoin : joinHalves (0xD800 + (g.code - 0x10000) / 0x400)
          (0xDC00 + (g.code - 0x10000) % 0x400) = g.code := by
        unfold joinHalves
        omega
      rw [hjoin, ofCode_code]

/-- What is sent, in ASCII. -/
def Respelling.ascii : Respelling where
  form := asciiGlyph
  holds := Text.IsUnsplit
  form_sign g hg := if_pos hg
  spellsString t ht := by
    have hstring : (string t).flatMap asciiGlyph =
        .char '"' :: t.flatMap asciiEscaped ++ [.char '"'] := by
      rw [string, List.flatMap_append, List.flatMap_cons, List.flatMap_assoc]
      rfl
    rw [hstring]
    refine spellsString_flatMap exists_asciiEscaped fun g after rest hsuffix => ?_
    refine takeGlyph?_ascii fun hfirst m hm hsecond => ?_
    cases after with
    | nil => cases hm
    | cons g' after =>
      rw [List.flatMap_cons, List.append_assoc] at hm
      have hneighbours := (List.isChain_cons_cons.mp (ht.suffix hsuffix)).1
      exact hneighbours ⟨hfirst, isSecondHalf_of_leadingUnit? hm hsecond⟩

end Json
end QueryDesk
