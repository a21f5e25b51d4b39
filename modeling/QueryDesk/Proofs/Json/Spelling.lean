import QueryDesk.Json.Writer
import QueryDesk.Proofs.Json.Numerals
import QueryDesk.Proofs.Results

/-!
# Texts that are read as values

A text *spells* a value if the reader takes it for the value whatever stands behind it (`Spells`).
Only a number depends on what stands behind it: it must not go on (`EndsNumeral`).  There is one
lemma for each form of a value, and those for lists and records put the spellings of their parts
together.  The steps that a reader may take are counted along: two for each glyph are enough.
-/

set_option autoImplicit false

namespace QueryDesk

/-! ## Records by their fields -/

namespace Value

variable {fields : List (Text × Value)}

theorem setField_of_not_mem {name : Text} (v : Value) (h : name ∉ fields.map (·.1)) :
    setField name v fields = fields ++ [(name, v)] := by
  induction fields with
  | nil => rfl
  | cons p fields ih =>
    rw [List.map_cons, List.mem_cons, not_or] at h
    rw [setField, if_neg (Ne.symm h.1), ih h.2]
    rfl

/-- A record of fields with different names has them as they are. -/
theorem recordOf_of_nodup (h : (fields.map (·.1)).Nodup) : recordOf fields = record fields := by
  have hfold : ∀ front, ((front ++ fields).map (·.1)).Nodup →
      fields.foldl (fun fields p => setField p.1 p.2 fields) front = front ++ fields := by
    clear h
    induction fields with
    | nil => simp
    | cons p fields ih =>
      intro front h
      have hp : p.1 ∉ front.map (·.1) := by
        rw [List.map_append, List.nodup_append] at h
        exact fun hmem => h.2.2 _ hmem _ (by simp) rfl
      rw [List.foldl_cons, setField_of_not_mem p.2 hp, ih _ (by simpa using h)]
      simp
  rw [recordOf, hfold [] h]
  rfl

end Value

namespace Json

variable {most : Nat} {rest : Text}

/-! ## Strings -/

/-- The last hexadecimal digit of a number. -/
def hexDigit (n : Nat) : Glyph := .char (n % 16).digitChar

theorem hexValue?_hexDigit (n : Nat) : hexValue? (hexDigit n) = some (n % 16) := by
  have hlt : n % 16 < 16 := Nat.mod_lt n (by decide)
  rw [hexDigit]
  interval_cases n % 16 <;> rfl

/-- The other digits are those of a sixteenth of the number. -/
theorem hexadecimal_succ {width : Nat} (hwidth : 0 < width) (n : Nat) :
    Text.hexadecimal (width + 1) n = Text.hexadecimal width (n / 16) ++ [hexDigit n] := by
  obtain ⟨width, rfl⟩ := Nat.exists_eq_succ_of_ne_zero hwidth.ne'
  unfold Text.hexadecimal hexDigit
  dsimp only
  rcases Nat.lt_or_ge n 16 with hlt | hge
  · rw [Nat.toDigits_of_lt_base hlt, Nat.div_eq_of_lt hlt, Nat.toDigits_zero, Nat.mod_eq_of_lt hlt]
    simp [List.replicate_succ']
  · rw [Nat.toDigits_of_base_le (by decide) hge]
    simp

theorem hexadecimal_one {n : Nat} (h : n < 16) : Text.hexadecimal 1 n = [hexDigit n] := by
  unfold Text.hexadecimal hexDigit
  rw [Nat.toDigits_of_lt_base h, Nat.mod_eq_of_lt h]
  rfl

theorem hexadecimal_four {n : Nat} (h : n < 0x10000) : Text.hexadecimal 4 n =
    [hexDigit (n / 16 / 16 / 16), hexDigit (n / 16 / 16), hexDigit (n / 16), hexDigit n] := by
  rw [hexadecimal_succ (by decide), hexadecimal_succ (by decide), hexadecimal_succ (by decide),
    hexadecimal_one (by omega)]
  rfl

/-- A code unit is read from its four digits. -/
theorem codeUnit?_hexDigit {n : Nat} (h : n < 0x10000) : codeUnit? (hexDigit (n / 16 / 16 / 16))
    (hexDigit (n / 16 / 16)) (hexDigit (n / 16)) (hexDigit n) = some n := by
  simp only [codeUnit?, hexValue?_hexDigit, Option.bind_eq_bind, Option.bind_some,
    Option.some.injEq]
  omega

theorem ofCode_code (g : Glyph) : Glyph.ofCode g.code = g := by
  rcases g with c | half
  · have hvalid : c.toNat.isValidChar := c.valid
    rw [Glyph.code, Glyph.ofCode, if_pos hvalid, Char.ofNat_toNat]
  · have hhalf := half.isLt
    have hcode : ¬(0xD800 + half : Nat).isValidChar := by
      unfold Nat.isValidChar
      omega
    rw [Glyph.code, Glyph.ofCode, if_neg hcode, if_pos (by omega), Nat.add_sub_cancel_left]
    exact congrArg _ (Fin.ext (Nat.mod_eq_of_lt hhalf))

/-- A glyph that is no escape stands for itself, unless it is a control sign. -/
theorem takeGlyph?_of_ne {g : Glyph} (hescape : g ≠ .char '\\') (behind : Text) :
    takeGlyph? (g :: behind) = if g.code < 0x20 then none else some (g, behind) := by
  unfold takeGlyph?
  split
  · next h => cases h
  · next h => exact absurd (List.cons.inj h).1 hescape
  · next h => exact absurd (List.cons.inj h).1 hescape
  · next h =>
    obtain ⟨rfl, rfl⟩ := List.cons.inj h
    simp only [hescape, or_false]

/-- The code unit of the escape that a text begins with. -/
def leadingUnit? : Text → Option Nat
  | .char '\\' :: .char 'u' :: a :: b :: c :: d :: _ => codeUnit? a b c d
  | _ => none

theorem leadingUnit?_eq_some_iff {t : Text} {n : Nat} : leadingUnit? t = some n ↔
    ∃ a b c d rest, t = .char '\\' :: .char 'u' :: a :: b :: c :: d :: rest ∧
      codeUnit? a b c d = some n := by
  constructor
  · intro h
    unfold leadingUnit? at h
    split at h
    · exact ⟨_, _, _, _, _, rfl, h⟩
    · cases h
  · rintro ⟨a, b, c, d, rest, rfl, h⟩
    exact h

/-- An escape of four digits stands for a glyph of its own, or together with a second one for the
character of a surrogate pair. -/
theorem takeGlyph?_of_leadingUnit? {t : Text} {n : Nat} (h : leadingUnit? t = some n) :
    takeGlyph? t = some (match leadingUnit? (t.drop 6) with
      | some m =>
        if 0xD800 ≤ n ∧ n < 0xDC00 ∧ 0xDC00 ≤ m ∧ m < 0xE000 then
          (Glyph.ofCode (joinHalves n m), t.drop 12)
        else (Glyph.ofCode n, t.drop 6)
      | none => (Glyph.ofCode n, t.drop 6)) := by
  obtain ⟨a, b, c, d, rest, rfl, hn⟩ := leadingUnit?_eq_some_iff.mp h
  rw [takeGlyph?, hn]
  simp only [List.drop_succ_cons, List.drop_zero]
  cases hrest : leadingUnit? rest with
  | some m =>
    obtain ⟨e, f, g, h, more, rfl, hm⟩ := leadingUnit?_eq_some_iff.mp hrest
    simp only [hm]
    split <;> rfl
  | none =>
    split
    · next e f g h' more =>
      have hnone : codeUnit? e f g h' = none := hrest
      rw [hnone]
    · rfl

/-- Any other escape has one letter. -/
theorem takeGlyph?_of_leadingUnit?_eq_none {rest : Text} {g : Glyph}
    (h : leadingUnit? (.char '\\' :: g :: rest) = none) :
    takeGlyph? (.char '\\' :: g :: rest) = (shortEscape? g).map (·, rest) := by
  by_cases hform : ∃ a b c d more, g = .char 'u' ∧ rest = a :: b :: c :: d :: more
  · obtain ⟨a, b, c, d, more, rfl, rfl⟩ := hform
    have hnone : codeUnit? a b c d = none := h
    rw [takeGlyph?, hnone]
    rfl
  · rw [takeGlyph?]
    exact fun a b c d more hg hrest => hform ⟨a, b, c, d, more, hg, hrest⟩

theorem takeGlyph?_unit {a b c d : Glyph} {n : Nat} (h : codeUnit? a b c d = some n) {behind : Text}
    (hbehind : ∀ m ∈ leadingUnit? behind, ¬(0xD800 ≤ n ∧ n < 0xDC00 ∧ 0xDC00 ≤ m ∧ m < 0xE000)) :
    takeGlyph? (.char '\\' :: .char 'u' :: a :: b :: c :: d :: behind) =
      some (Glyph.ofCode n, behind) := by
  have hlead : leadingUnit? (.char '\\' :: .char 'u' :: a :: b :: c :: d :: behind) = some n := h
  rw [takeGlyph?_of_leadingUnit? hlead]
  simp only [List.drop_succ_cons, List.drop_zero]
  cases hm : leadingUnit? behind with
  | none => rfl
  | some m => exact congrArg _ (if_neg (hbehind m hm))

/-- **A glyph is read from its form inside a string**, whatever follows. -/
theorem takeGlyph?_escapedGlyph (g : Glyph) (behind : Text) :
    takeGlyph? (escapedGlyph g ++ behind) = some (g, behind) := by
  unfold escapedGlyph
  split_ifs with h₁ h₂ h₃ h₄ h₅ h₆ h₇ h₈
  · rw [h₁]; rfl
  · rw [h₂]; rfl
  · rw [h₃]; rfl
  · rw [h₄]; rfl
  · rw [h₅]; rfl
  · rw [h₆]; rfl
  · rw [h₇]; rfl
  · have hcode : g.code < 0x10000 := h₈.trans (by decide)
    rw [hexadecimal_four hcode]
    refine (takeGlyph?_unit (codeUnit?_hexDigit hcode) fun m _ => by omega).trans ?_
    rw [ofCode_code]
    rfl
  · exact (takeGlyph?_of_ne h₂ behind).trans (if_neg h₈)

/-- Inside a string no glyph is written as a quote. -/
theorem exists_escapedGlyph (g : Glyph) : ∃ h more, escapedGlyph g = h :: more ∧ h ≠ .char '"' := by
  unfold escapedGlyph
  split_ifs with h₁
  all_goals first | exact ⟨_, _, rfl, h₁⟩ | exact ⟨_, _, rfl, by decide⟩

/-- A string is read glyph by glyph up to its last quote. -/
theorem takeString_cons {g : Glyph} {u behind : Text} (hquote : ∀ more, u ≠ .char '"' :: more)
    (hglyph : takeGlyph? u = some (g, behind)) (steps : Nat) : takeString (steps + 1) u = (do
      let (gs, rest) ← takeString steps behind
      .ok (g :: gs, rest)) := by
  rw [takeString, hglyph]
  exact hquote

/-- Says that a text is read as a string, whatever follows, with a step for each glyph of the string
and one for its last quote. -/
structure SpellsString (u t : Text) : Prop where
  length_add_two_le : t.length + 2 ≤ u.length
  reads : ∃ body, u = .char '"' :: body ∧
    ∀ steps rest, t.length < steps → takeString steps (body ++ rest) = .ok (t, rest)

variable {spell : Glyph → Text}

/-- Glyphs are read one by one if each is read in front of those that follow it. -/
theorem takeString_flatMap
    (hbegins : ∀ g, ∃ first more, spell g = first :: more ∧ first ≠ .char '"') {t rest : Text}
    (hreads : ∀ g after, g :: after <:+ t →
      takeGlyph? (spell g ++ (after.flatMap spell ++ .char '"' :: rest)) =
        some (g, after.flatMap spell ++ .char '"' :: rest))
    {steps : Nat} (h : t.length < steps) :
    takeString steps (t.flatMap spell ++ .char '"' :: rest) = .ok (t, rest) := by
  induction t generalizing steps with
  | nil =>
    obtain ⟨steps, rfl⟩ := Nat.exists_eq_add_of_lt h
    rfl
  | cons g t ih =>
    rw [List.length_cons] at h
    obtain ⟨steps, rfl⟩ := Nat.exists_eq_succ_of_ne_zero (Nat.ne_zero_of_lt h)
    obtain ⟨first, more, hfirst, hquote⟩ := hbegins g
    rw [List.flatMap_cons, List.append_assoc,
      takeString_cons ?_ (hreads g t List.suffix_rfl),
      ih (fun g' after hsuffix => hreads g' after (List.suffix_cons_iff.mpr (.inr hsuffix)))
        (Nat.lt_of_succ_lt_succ h)]
    · rfl
    · intro behind hbehind
      rw [hfirst] at hbehind
      exact hquote (List.cons.inj hbehind).1

theorem length_le_flatMap
    (hbegins : ∀ g, ∃ first more, spell g = first :: more ∧ first ≠ .char '"') (t : Text) :
    t.length ≤ (t.flatMap spell).length := by
  induction t with
  | nil => exact Nat.le_refl _
  | cons g t ih =>
    obtain ⟨first, more, hfirst, -⟩ := hbegins g
    simp only [List.flatMap_cons, hfirst, List.length_append, List.length_cons]
    omega

/-- The spellings of glyphs between quotes spell a string. -/
theorem spellsString_flatMap
    (hbegins : ∀ g, ∃ first more, spell g = first :: more ∧ first ≠ .char '"') {t : Text}
    (hreads : ∀ g after rest, g :: after <:+ t →
      takeGlyph? (spell g ++ (after.flatMap spell ++ .char '"' :: rest)) =
        some (g, after.flatMap spell ++ .char '"' :: rest)) :
    SpellsString (.char '"' :: t.flatMap spell ++ [.char '"']) t where
  length_add_two_le := by
    have hlength := length_le_flatMap hbegins t
    simp only [List.length_append, List.length_cons, List.length_nil]
    omega
  reads := by
    refine ⟨t.flatMap spell ++ [.char '"'], rfl, fun steps rest h => ?_⟩
    rw [List.append_assoc]
    exact takeString_flatMap hbegins (fun g after => hreads g after rest) h

/-- **A string is read back.** -/
theorem spellsString_string (t : Text) : SpellsString (string t) t :=
  spellsString_flatMap exists_escapedGlyph fun g _ _ _ => takeGlyph?_escapedGlyph g _

/-! ## Values -/

/-- Says that a text begins neither with a blank nor with the end of a list. -/
def BeginsToken (u : Text) : Prop :=
  ∃ g more, u = g :: more ∧ g.isOneOf [' ', '\t', '\n', '\r', ']'] = false

/-- Says that a text is read as a value, whatever follows, as long as there are enough steps. -/
structure Spells (most : Nat) (u : Text) (v : Value) : Prop where
  begins : BeginsToken u
  reads : ∀ steps rest, 2 * u.length ≤ steps → EndsNumeral rest →
    readValue most steps (u ++ rest) = .ok (v, rest)

/-- Says that a text is read as the items of a list, up to the end of the list. -/
structure SpellsItems (most : Nat) (u : Text) (items : List Value) : Prop where
  begins : BeginsToken u
  reads : ∀ steps rest, 2 * u.length ≤ steps →
    readItems most steps (u ++ rest) = .ok (items, rest)

/-- Says that a text is read as the fields of a record, up to the end of the record. -/
structure SpellsFields (most : Nat) (u : Text) (fields : List (Text × Value)) : Prop where
  begins : ∃ more, u = .char '"' :: more
  reads : ∀ steps rest, 2 * u.length ≤ steps →
    readFields most steps (u ++ rest) = .ok (fields, rest)

variable {u : Text} {v : Value} {items : List Value} {fields : List (Text × Value)}

theorem BeginsToken.skipBlanks (h : BeginsToken u) (rest : Text) :
    skipBlanks (u ++ rest) = u ++ rest := by
  obtain ⟨g, more, rfl, hg⟩ := h
  have hblank : g.isOneOf [' ', '\t', '\n', '\r'] = false := by
    rcases g with c | half
    · simp_all [Glyph.isOneOf]
    · rfl
  simp [Json.skipBlanks, hblank]

theorem BeginsToken.ne_close (h : BeginsToken u) (rest behind : Text) :
    u ++ rest ≠ .char ']' :: behind := by
  obtain ⟨g, more, rfl, hg⟩ := h
  intro hclose
  obtain ⟨rfl, -⟩ := List.cons.inj hclose
  cases hg

/-- A value that is neither a string nor nested. -/
theorem spells_of_readSimple {g : Glyph} {more : Text} (hu : u = g :: more)
    (hg : g.isOneOf [' ', '\t', '\n', '\r', ']', '"', '[', '\x7b'] = false)
    (h : ∀ rest, EndsNumeral rest → readSimple most (u ++ rest) = .ok (v, rest)) :
    Spells most u v where
  begins := ⟨g, more, hu, by
    rcases g with c | half
    · simp_all [Glyph.isOneOf]
    · rfl⟩
  reads := by
    intro steps rest hsteps hrest
    rw [hu, List.length_cons] at hsteps
    obtain ⟨steps, rfl⟩ := Nat.exists_eq_succ_of_ne_zero (show steps ≠ 0 by omega)
    rw [← h rest hrest, hu]
    unfold readValue
    split
    · next heq => obtain ⟨rfl, -⟩ := List.cons.inj heq; cases hg
    · next heq => obtain ⟨rfl, -⟩ := List.cons.inj heq; cases hg
    · next heq => obtain ⟨rfl, -⟩ := List.cons.inj heq; cases hg
    · rfl

theorem spells_null : Spells most (Text.of "null") .null :=
  spells_of_readSimple rfl (by decide) fun _ _ => readSimple_null

theorem spells_flag (b : Bool) :
    Spells most (Text.of (if b then "true" else "false")) (.flag b) := by
  cases b
  · exact spells_of_readSimple rfl (by decide) fun _ _ => readSimple_flag false
  · exact spells_of_readSimple rfl (by decide) fun _ _ => readSimple_flag true

theorem spells_whole {n : Int} (h : (Number.digits n.natAbs).length ≤ most) :
    Spells most (Number.signedDigits n) (.whole n) := by
  have hread : ∀ rest, EndsNumeral rest →
      readSimple most (Number.signedDigits n ++ rest) = .ok (.whole n, rest) :=
    fun rest hrest => readSimple_signedDigits h hrest
  cases n with
  | ofNat n =>
    obtain ⟨g, more, hdigits, hg⟩ := (isWholePart_digits n).exists_digit
    exact spells_of_readSimple hdigits (Glyph.isOneOf_of_isAsciiDigit hg (by decide)) hread
  | negSucc n => exact spells_of_readSimple rfl (by decide) hread

/-- A whole part with places or an exponent spells a real number. -/
theorem exists_spells_numeral {whole fraction : Text} (hwhole : IsWholePart whole)
    (hfraction : IsFraction fraction) (negative : Bool) :
    ∃ x, Spells most (signed negative (whole ++ fraction)) (.real x) := by
  obtain ⟨x, hx⟩ := exists_readNumber hwhole hfraction negative
  have hread : ∀ rest, EndsNumeral rest →
      readSimple most (signed negative (whole ++ fraction) ++ rest) = .ok (.real x, rest) := by
    intro rest hrest
    rw [signed_append, List.append_assoc, readSimple_signed hwhole]
    exact hx most rest hrest
  obtain ⟨g, ds, rfl, hg⟩ := hwhole.exists_digit
  cases negative with
  | true => exact ⟨x, spells_of_readSimple rfl (by decide) hread⟩
  | false =>
    exact ⟨x, spells_of_readSimple rfl (Glyph.isOneOf_of_isAsciiDigit hg (by decide)) hread⟩

/-- **Every binary number is written as a text that spells a real number.** -/
theorem exists_spells_real (x : Binary64) :
    ∃ y, Spells most (x.writtenIn Binary64.storedNotation) (.real y) := by
  cases x with
  | nan => exact ⟨.nan, spells_of_readSimple rfl (by decide) fun _ _ => rfl⟩
  | infinite negative =>
    refine ⟨.infinite negative, ?_⟩
    cases negative
    · exact spells_of_readSimple rfl (by decide) fun _ _ => rfl
    · exact spells_of_readSimple rfl (by decide) fun _ _ => rfl
  | finite negative significand unit =>
    have hn := fun hs : significand ≠ 0 => Binary64.shortest_ne_zero hs unit
    rw [Binary64.writtenIn]
    -- The digits are not to be computed.
    generalize Binary64.shortest significand unit = decimal at hn
    obtain ⟨n, e⟩ := decimal
    obtain ⟨whole, fraction, hmagnitude, hwhole, hfraction⟩ :
        ∃ whole fraction, (if significand = 0 then Text.of "0.0"
            else Binary64.layOut Binary64.storedNotation n e) = whole ++ fraction ∧
          IsWholePart whole ∧ IsFraction fraction := by
      split
      · exact ⟨[.char '0'], [.char '.', .char '0'], rfl, .zero,
          .places (List.cons_ne_nil _ _) (isDigits_zeros 1)⟩
      · next hs => exact exists_parts_layOut Binary64.storedNotation (hn hs) e
    have hspells : ∃ y, Spells most (signed negative (whole ++ fraction)) (.real y) :=
      exists_spells_numeral hwhole hfraction negative
    rwa [← hmagnitude] at hspells

theorem SpellsString.spells {t : Text} (h : SpellsString u t) : Spells most u (.text t) where
  begins := by
    obtain ⟨body, rfl, -⟩ := h.reads
    exact ⟨_, _, rfl, by decide⟩
  reads := by
    intro steps rest hsteps _
    have hlength := h.length_add_two_le
    obtain ⟨body, rfl, hbody⟩ := h.reads
    obtain ⟨steps, rfl⟩ := Nat.exists_eq_succ_of_ne_zero (show steps ≠ 0 by omega)
    rw [List.cons_append, readValue, hbody steps rest (by omega)]
    rfl

/-! ## Lists -/

theorem endsNumeral_of_not {g : Glyph} {more : Text}
    (hg : g.isAsciiDigit = false ∧ g ≠ .char '.' ∧ g.isOneOf ['e', 'E'] = false) :
    EndsNumeral (g :: more) := by
  rintro g' ⟨⟩
  exact hg

theorem spellsItems_singleton (h : Spells most u v) :
    SpellsItems most (u ++ Text.of "]") [v] where
  begins := by
    obtain ⟨g, more, rfl, hg⟩ := h.begins
    exact ⟨g, _, rfl, hg⟩
  reads := by
    intro steps rest hsteps
    rw [List.length_append] at hsteps
    obtain ⟨steps, rfl⟩ := Nat.exists_eq_succ_of_ne_zero (show steps ≠ 0 by
      have : (Text.of "]").length = 1 := rfl
      omega)
    rw [List.append_assoc, readItems, h.reads steps (Text.of "]" ++ rest) (by
      have : (Text.of "]").length = 1 := rfl
      omega) (endsNumeral_of_not (by decide))]
    rfl

theorem spellsItems_cons {us : Text} (h : Spells most u v) (hs : SpellsItems most us items) :
    SpellsItems most (u ++ Text.of ", " ++ us) (v :: items) where
  begins := by
    obtain ⟨g, more, rfl, hg⟩ := h.begins
    exact ⟨g, _, rfl, hg⟩
  reads := by
    intro steps rest hsteps
    have hcomma : (Text.of ", ").length = 2 := rfl
    simp only [List.length_append] at hsteps
    obtain ⟨steps, rfl⟩ := Nat.exists_eq_succ_of_ne_zero (show steps ≠ 0 by omega)
    rw [List.append_assoc, List.append_assoc, readItems,
      h.reads steps (Text.of ", " ++ (us ++ rest)) (by omega) (endsNumeral_of_not (by decide))]
    show (readItems most steps (skipBlanks (.char ' ' :: (us ++ rest))) >>= _) = _
    have hskip : skipBlanks (.char ' ' :: (us ++ rest)) = us ++ rest := hs.begins.skipBlanks rest
    rw [hskip, hs.reads steps rest (by omega)]
    rfl

theorem spells_nil : Spells most (Text.of "[]") (.list []) where
  begins := ⟨_, _, rfl, by decide⟩
  reads := by
    intro steps rest hsteps _
    obtain ⟨steps, rfl⟩ := Nat.exists_eq_succ_of_ne_zero (show steps ≠ 0 by
      have : (Text.of "[]").length = 2 := rfl
      omega)
    rfl

theorem spells_list (h : SpellsItems most u items) :
    Spells most (Text.of "[" ++ u) (.list items) where
  begins := ⟨_, _, rfl, by decide⟩
  reads := by
    intro steps rest hsteps _
    have hopen : (Text.of "[").length = 1 := rfl
    rw [List.length_append] at hsteps
    obtain ⟨steps, rfl⟩ := Nat.exists_eq_succ_of_ne_zero (show steps ≠ 0 by omega)
    show readValue most (steps + 1) (.char '[' :: (u ++ rest)) = _
    rw [readValue, h.begins.skipBlanks]
    split
    · next behind hclose => exact absurd hclose (h.begins.ne_close rest behind)
    · rw [h.reads steps rest (by omega)]
      rfl

/-! ## Records -/

theorem readFields_string {un name : Text} (h : SpellsString un name) (t : Text) {steps : Nat}
    (hsteps : name.length < steps) :
    readFields most (steps + 1) (un ++ Text.of ": " ++ t) = (do
      let (v, behind) ← readValue most steps (skipBlanks t)
      match skipBlanks behind with
      | .char '\x7d' :: rest => .ok ([(name, v)], rest)
      | .char ',' :: rest => do
        let (fields, behind) ← readFields most steps (skipBlanks rest)
        .ok ((name, v) :: fields, behind)
      | _ => .error .malformed) := by
  obtain ⟨body, rfl, hbody⟩ := h.reads
  rw [List.append_assoc, List.cons_append, readFields, hbody steps _ hsteps]
  rfl

variable {un name : Text}

theorem spellsFields_singleton (hname : SpellsString un name) (h : Spells most u v) :
    SpellsFields most (un ++ Text.of ": " ++ u ++ Text.of "\x7d") [(name, v)] where
  begins := by
    obtain ⟨body, rfl, -⟩ := hname.reads
    exact ⟨_, rfl⟩
  reads := by
    intro steps rest hsteps
    have hlength := hname.length_add_two_le
    simp only [List.length_append] at hsteps
    obtain ⟨steps, rfl⟩ := Nat.exists_eq_succ_of_ne_zero (show steps ≠ 0 by omega)
    rw [List.append_assoc, List.append_assoc, readFields_string hname _ (by omega),
      h.begins.skipBlanks, h.reads steps (Text.of "\x7d" ++ rest) (by omega)
        (endsNumeral_of_not (by decide))]
    rfl

theorem spellsFields_cons {us : Text} (hname : SpellsString un name) (h : Spells most u v)
    (hs : SpellsFields most us fields) :
    SpellsFields most (un ++ Text.of ": " ++ u ++ Text.of ", " ++ us) ((name, v) :: fields) where
  begins := by
    obtain ⟨body, rfl, -⟩ := hname.reads
    exact ⟨_, rfl⟩
  reads := by
    intro steps rest hsteps
    have hlength := hname.length_add_two_le
    simp only [List.length_append] at hsteps
    obtain ⟨steps, rfl⟩ := Nat.exists_eq_succ_of_ne_zero (show steps ≠ 0 by omega)
    rw [List.append_assoc, List.append_assoc, List.append_assoc,
      readFields_string hname _ (by omega), h.begins.skipBlanks,
      h.reads steps (Text.of ", " ++ (us ++ rest)) (by omega) (endsNumeral_of_not (by decide))]
    show (readFields most steps (skipBlanks (.char ' ' :: (us ++ rest))) >>= _) = _
    have hskip : skipBlanks (.char ' ' :: (us ++ rest)) = us ++ rest := by
      obtain ⟨more, rfl⟩ := hs.begins
      rfl
    rw [hskip, hs.reads steps rest (by omega)]
    rfl

/-- Says that a text between braces is read as a value, whatever follows. -/
structure SpellsRecord (most : Nat) (u : Text) (v : Value) : Prop where
  begins : ∃ more, u = .char '\x7b' :: more
  reads : ∀ steps rest, 2 * u.length ≤ steps → readValue most steps (u ++ rest) = .ok (v, rest)

theorem SpellsRecord.spells (h : SpellsRecord most u v) : Spells most u v where
  begins := by
    obtain ⟨more, rfl⟩ := h.begins
    exact ⟨_, _, rfl, by decide⟩
  reads steps rest hsteps _ := h.reads steps rest hsteps

theorem spellsRecord_nil : SpellsRecord most (Text.of "\x7b\x7d") (.record []) where
  begins := ⟨_, rfl⟩
  reads := by
    intro steps rest hsteps
    obtain ⟨steps, rfl⟩ := Nat.exists_eq_succ_of_ne_zero (show steps ≠ 0 by
      have : (Text.of "\x7b\x7d").length = 2 := rfl
      omega)
    rfl

/-- **A record ends with its last brace.**  Of fields with one name the last one counts. -/
theorem spellsRecord_fields (h : SpellsFields most u fields) :
    SpellsRecord most (Text.of "\x7b" ++ u) (Value.recordOf fields) where
  begins := ⟨_, rfl⟩
  reads := by
    intro steps rest hsteps
    have hopen : (Text.of "\x7b").length = 1 := rfl
    rw [List.length_append] at hsteps
    obtain ⟨steps, rfl⟩ := Nat.exists_eq_succ_of_ne_zero (show steps ≠ 0 by omega)
    obtain ⟨more, rfl⟩ := h.begins
    show (readFields most steps (.char '"' :: more ++ rest) >>= _) = _
    rw [h.reads steps rest (by omega)]
    rfl

/-! ## Whole texts -/

/-- **A text that spells a value is read as the value.** -/
theorem readAtMost_of_spells (h : Spells most u v) :
    readAtMost most u = .ok v := by
  have hskip := h.begins.skipBlanks []
  have hread := h.reads (2 * u.length + 2) [] (by omega) nofun
  rw [List.append_nil] at hskip hread
  rw [readAtMost, hskip, hread]
  rfl

end Json
end QueryDesk
