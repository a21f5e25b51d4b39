import QueryDesk.Json.Writer
import QueryDesk.Proofs.Number.Digits
import QueryDesk.Proofs.Text.Digit
import QueryDesk.Proofs.Value.Nested

/-!
# The glyphs of JSON output

A writer of JSON sends printable ASCII signs and glyphs of the texts that it writes, and among those
no control sign, which it escapes.  So no output has a line break in it, whatever is written and
however far the writer comes (`Json.each_send`).
-/

set_option autoImplicit false

namespace QueryDesk

/-- Tests for a blank or visible sign of ASCII. -/
def Glyph.isSign : Glyph → Bool
  | .char c => 0x20 ≤ c.toNat && c.toNat < 0x7F
  | .lone _ => false

theorem Glyph.isSign_of_isAsciiDigit {g : Glyph} (h : g.isAsciiDigit = true) :
    g.isSign = true := by
  have hcode := code_of_isAsciiDigit h
  rcases g with c | half
  · rw [code] at hcode
    simp only [isSign, Bool.and_eq_true, decide_eq_true_eq]
    omega
  · cases h

/-! ## Numbers -/

namespace Number

theorem isSign_digits (n : Nat) : ∀ g ∈ digits n, g.isSign = true :=
  fun g hg => Glyph.isSign_of_isAsciiDigit (isAsciiDigit_of_mem_digits n g hg)

theorem isSign_paddedDigits (width n : Nat) : ∀ g ∈ paddedDigits width n, g.isSign = true := by
  refine List.forall_mem_append.mpr ⟨fun g hg => ?_, isSign_digits n⟩
  rw [List.eq_of_mem_replicate hg]
  rfl

theorem isSign_signedDigits (n : Int) : ∀ g ∈ signedDigits n, g.isSign = true := by
  cases n with
  | ofNat n => exact isSign_digits n
  | negSucc n => exact List.forall_mem_cons.mpr ⟨rfl, isSign_digits (n + 1)⟩

end Number

namespace Binary64

theorem isSign_layOut (notn : Notation) (n : Nat) (e : Int) :
    ∀ g ∈ layOut notn n e, g.isSign = true := by
  have hdigits := Number.isSign_digits n
  have hzeros : ∀ count, ∀ g ∈ List.replicate count (Glyph.char '0'), g.isSign = true := by
    intro count g hg
    rw [List.eq_of_mem_replicate hg]
    rfl
  have hexponent : ∀ e, ∀ g ∈ exponentText e, g.isSign = true := by
    intro e
    refine List.forall_mem_cons.mpr ⟨?_, Number.isSign_paddedDigits 2 e.natAbs⟩
    split <;> rfl
  unfold layOut
  dsimp only
  split
  · split
    · exact List.forall_mem_append.mpr
        ⟨List.forall_mem_append.mpr ⟨by decide, hzeros _⟩, hdigits⟩
    · split
      · exact List.forall_mem_append.mpr ⟨fun g hg => hdigits g (List.mem_of_mem_take hg),
          List.forall_mem_cons.mpr ⟨rfl, fun g hg => hdigits g (List.mem_of_mem_drop hg)⟩⟩
      · exact List.forall_mem_append.mpr
          ⟨List.forall_mem_append.mpr ⟨hdigits, hzeros _⟩, by decide⟩
  · refine List.forall_mem_append.mpr ⟨?_, List.forall_mem_cons.mpr ⟨rfl, hexponent _⟩⟩
    split
    · simp
    · next hds => exact hds ▸ hdigits
    · next d more hds =>
      rw [hds] at hdigits
      obtain ⟨hd, hmore⟩ := List.forall_mem_cons.mp hdigits
      exact List.forall_mem_cons.mpr ⟨hd, List.forall_mem_cons.mpr ⟨rfl, hmore⟩⟩

theorem isSign_writtenIn (x : Binary64) : ∀ g ∈ x.writtenIn storedNotation, g.isSign = true := by
  have hzero : ∀ g ∈ Text.of "0.0", g.isSign = true := by decide
  cases x with
  | nan => decide
  | infinite negative => cases negative <;> decide
  | finite negative significand unit =>
    -- Kept apart from the notation, whose digits are not to be computed.
    have hmagnitude : ∀ n e, ∀ g ∈ (if significand = 0 then Text.of "0.0"
        else layOut storedNotation n e), g.isSign = true := by
      intro n e
      split
      · exact hzero
      · exact isSign_layOut _ n e
    rw [writtenIn]
    generalize shortest significand unit = decimal
    obtain ⟨n, e⟩ := decimal
    cases negative with
    | true => exact List.forall_mem_cons.mpr ⟨rfl, hmagnitude n e⟩
    | false => exact hmagnitude n e

end Binary64

namespace Json

/-! ## Strings -/

theorem isSign_hexadecimal {n : Nat} (h : n < 0x20) :
    ∀ g ∈ Text.hexadecimal 4 n, g.isSign = true := by
  have hall : ∀ n < 0x20, ∀ g ∈ Text.hexadecimal 4 n, g.isSign = true := by decide +kernel
  exact hall n h

/-- A glyph inside a string is written with signs, or is written as it is and no control sign. -/
theorem of_mem_escapedGlyph {g h : Glyph} (hmem : h ∈ escapedGlyph g) :
    h.isSign = true ∨ (h = g ∧ 0x20 ≤ g.code) := by
  have hconst : ∀ t : Text, (∀ g ∈ t, g.isSign = true) → h ∈ t → h.isSign = true := fun t ht => ht h
  unfold escapedGlyph at hmem
  split_ifs at hmem with h₁ h₂ h₃ h₄ h₅ h₆ h₇ h₈
  all_goals first
    | exact .inl (hconst _ (by decide) hmem)
    | skip
  · rcases List.mem_append.mp hmem with hmem | hmem
    · exact .inl (hconst _ (by decide) hmem)
    · exact .inl (isSign_hexadecimal h₈ h hmem)
  · exact .inr ⟨List.mem_singleton.mp hmem, Nat.not_lt.mp h₈⟩

/-- What holds of signs holds of all glyphs of a text of signs. -/
theorem forall_mem_of_isSign {P : Glyph → Prop} {t : Text} (hsign : ∀ g, g.isSign = true → P g)
    (ht : ∀ g ∈ t, g.isSign = true) : ∀ g ∈ t, P g :=
  fun g hg => hsign g (ht g hg)

/-- What holds of signs and of what a text holds beside control signs holds of its string. -/
theorem forall_mem_string {P : Glyph → Prop} {t : Text} (hsign : ∀ g, g.isSign = true → P g)
    (ht : ∀ g ∈ t, 0x20 ≤ g.code → P g) : ∀ g ∈ string t, P g := by
  have hquote : P (.char '"') := hsign _ rfl
  refine List.forall_mem_cons.mpr ⟨hquote, List.forall_mem_append.mpr ⟨?_, by simpa using hquote⟩⟩
  intro h hh
  obtain ⟨g, hg, hmem⟩ := List.mem_flatMap.mp hh
  rcases of_mem_escapedGlyph hmem with hs | ⟨rfl, hcode⟩
  · exact hsign h hs
  · exact ht h hg hcode

/-! ## Outputs -/

namespace Output

/-- Says that all glyphs that were sent have a property. -/
def Each (P : Glyph → Prop) (o : Output) : Prop := ∀ t ∈ o.sent, ∀ g ∈ t, P g

variable {P : Glyph → Prop}

theorem each_piece {t : Text} (h : ∀ g ∈ t, P g) : Each P (piece t) := by
  intro s hs
  rw [List.mem_singleton.mp hs]
  exact h

theorem each_opening {lead : Text} (h : ∀ g ∈ lead, P g) : Each P (opening lead) := by
  rw [opening]
  split
  · exact fun t ht => (List.not_mem_nil ht).elim
  · exact each_piece h

theorem each_attempt {x : Except Fault Text} (h : ∀ t, x = .ok t → ∀ g ∈ t, P g) :
    Each P (attempt x) := by
  cases x with
  | ok t => exact each_piece (h t rfl)
  | error fault => exact fun t ht => (List.not_mem_nil ht).elim

theorem Each.andThen {a b : Output} (ha : Each P a) (hb : Each P b) : Each P (a.andThen b) := by
  rw [Output.andThen]
  split
  · exact ha
  · exact List.forall_mem_append.mpr ⟨ha, hb⟩

end Output

open Output

variable {P : Glyph → Prop} {fallback : Fallback}

/-- What is sent of a list, if the same is known of its items. -/
theorem each_sendItems {items : List Value} (hsign : ∀ g, g.isSign = true → P g)
    (h : ∀ v ∈ items, ∀ lead, (∀ g ∈ lead, P g) → Each P (send fallback lead v)) (lead : Text)
    (hlead : ∀ g ∈ lead, P g) : Each P (sendItems fallback lead items) := by
  induction items generalizing lead with
  | nil =>
    rw [sendItems]
    exact each_piece (forall_mem_of_isSign hsign (by decide))
  | cons v items ih =>
    obtain ⟨hv, hitems⟩ := List.forall_mem_cons.mp h
    rw [sendItems]
    exact (hv lead hlead).andThen (ih hitems _ (forall_mem_of_isSign hsign (by decide)))

/-- What is sent of a record, if the same is known of its names and values. -/
theorem each_sendFields {fields : List (Text × Value)} (hsign : ∀ g, g.isSign = true → P g)
    (hnames : ∀ p ∈ fields, ∀ g ∈ string p.1, P g)
    (h : ∀ p ∈ fields, ∀ lead, (∀ g ∈ lead, P g) → Each P (send fallback lead p.2)) (lead : Text)
    (hlead : ∀ g ∈ lead, P g) : Each P (sendFields fallback lead fields) := by
  induction fields generalizing lead with
  | nil =>
    rw [sendFields]
    exact each_piece (forall_mem_of_isSign hsign (by decide))
  | cons p fields ih =>
    obtain ⟨name, v⟩ := p
    obtain ⟨hname, hnames⟩ := List.forall_mem_cons.mp hnames
    obtain ⟨hv, hfields⟩ := List.forall_mem_cons.mp h
    rw [sendFields]
    exact (each_opening hlead).andThen <| (each_piece hname).andThen <|
      (each_piece (forall_mem_of_isSign hsign (by decide))).andThen <| (hv [] (by simp)).andThen <|
        ih hnames hfields _ (forall_mem_of_isSign hsign (by decide))

theorem each_send_list {items : List Value} (hsign : ∀ g, g.isSign = true → P g)
    (h : ∀ v ∈ items, ∀ lead, (∀ g ∈ lead, P g) → Each P (send fallback lead v)) (lead : Text)
    (hlead : ∀ g ∈ lead, P g) : Each P (send fallback lead (.list items)) := by
  rw [send]
  refine (each_opening hlead).andThen ?_
  split
  · exact each_piece (forall_mem_of_isSign hsign (by decide))
  · exact each_sendItems hsign h _ (forall_mem_of_isSign hsign (by decide))

theorem each_send_record {fields : List (Text × Value)} (hsign : ∀ g, g.isSign = true → P g)
    (hnames : ∀ p ∈ fields, ∀ g ∈ string p.1, P g)
    (h : ∀ p ∈ fields, ∀ lead, (∀ g ∈ lead, P g) → Each P (send fallback lead p.2)) (lead : Text)
    (hlead : ∀ g ∈ lead, P g) : Each P (send fallback lead (.record fields)) := by
  rw [send]
  refine (each_opening hlead).andThen ?_
  split
  · exact each_piece (forall_mem_of_isSign hsign (by decide))
  · exact (each_piece (forall_mem_of_isSign hsign (by decide))).andThen
      (each_sendFields hsign hnames h _ (by simp))

/-- A simple value, if the texts in it and the texts made of it are known. -/
theorem each_send_leaf {v : Value} (hleaf : v.isNested = false)
    (hsign : ∀ g, g.isSign = true → P g)
    (htext : ∀ t, v = .text t ∨ fallback v = .ok t → ∀ g ∈ string t, P g) (lead : Text)
    (hlead : ∀ g ∈ lead, P g) : Each P (send fallback lead v) := by
  have hbehind : ∀ t : Text, (∀ g ∈ t, g.isSign = true) → ∀ g ∈ lead ++ t, P g :=
    fun t ht => List.forall_mem_append.mpr ⟨hlead, forall_mem_of_isSign hsign ht⟩
  have hmade : Each P ((opening lead).andThen (.attempt ((fallback v).map string))) := by
    refine (each_opening hlead).andThen (each_attempt fun t ht => ?_)
    cases hv : fallback v with
    | ok s =>
      rw [hv] at ht
      obtain rfl := Except.ok.inj ht
      exact htext s (.inr hv)
    | error fault =>
      rw [hv] at ht
      cases ht
  cases v with
  | null => exact each_piece (hbehind _ (by decide))
  | flag b =>
    refine each_piece (hbehind _ ?_)
    cases b <;> decide
  | whole n =>
    rw [send, Value.writeWhole]
    split
    · exact each_attempt nofun
    · exact each_piece (hbehind _ (Number.isSign_signedDigits n))
  | real x => exact each_piece (hbehind _ x.isSign_writtenIn)
  | text t => exact each_piece (List.forall_mem_append.mpr ⟨hlead, htext t (.inl rfl)⟩)
  | decimal | timestamp | date | object => exact hmade
  | list | tuple | record => cases hleaf

/-- **No output has a control sign in it.** -/
theorem each_send (v : Value) (lead : Text) (hlead : ∀ g ∈ lead, 0x20 ≤ g.code) :
    Each (fun g => 0x20 ≤ g.code) (send fallback lead v) := by
  have hsign : ∀ g : Glyph, g.isSign = true → 0x20 ≤ g.code := by
    intro g hg
    rcases g with c | half
    · simp only [Glyph.isSign, Bool.and_eq_true, decide_eq_true_eq] at hg
      exact hg.1
    · cases hg
  have hstring : ∀ t, ∀ g ∈ string t, 0x20 ≤ g.code :=
    fun t => forall_mem_string hsign fun _ _ h => h
  induction v using Value.nested_induction generalizing lead with
  | leaf v hleaf => exact each_send_leaf hleaf hsign (fun t _ => hstring t) lead hlead
  | list items ih => exact each_send_list hsign (fun v hv lead => ih v hv lead) lead hlead
  | tuple items ih =>
    have htuple : send fallback lead (.tuple items) = send fallback lead (.list items) := by
      rw [send, send]
    rw [htuple]
    exact each_send_list hsign (fun v hv lead => ih v hv lead) lead hlead
  | record fields ih =>
    exact each_send_record hsign (fun p _ => hstring p.1) (fun p hp lead => ih p hp lead) lead hlead

end Json
end QueryDesk
