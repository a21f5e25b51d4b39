import QueryDesk.Proofs.Json.Spelling

/-!
# What is left behind what is read

The reader of JSON takes something from the front of a text and leaves the rest
(`length_lt_of_readFront`).  Some glyphs begin no token and go on with none: all but the visible
signs of ASCII, and the backquote.  When a text has such glyphs put behind it, the same is read from
it, and they are left as well (`readFront_append`).  For a text that ends too early that is so
because no such glyph completes anything: a string that is not closed stays open however it goes on.

The count of the steps differs between the two texts, so readings are compared that have enough of
them each (`ReadsAlike`).
-/

set_option autoImplicit false

namespace QueryDesk

/-! ## Glyphs that are in no token -/

/-- Tests for a glyph that begins no token of JSON and goes on with none. -/
def Glyph.isInert (g : Glyph) : Bool := g.code ≤ 0x20 ∨ g.code = 0x60 ∨ 0x7F ≤ g.code

/-- Says that all glyphs of a text are in no token. -/
def Text.IsInert (s : Text) : Prop := ∀ g ∈ s, g.isInert = true

instance (s : Text) : Decidable s.IsInert :=
  inferInstanceAs (Decidable (∀ g ∈ s, g.isInert = true))

namespace Glyph

variable {g : Glyph} (h : g.isInert = true)

include h

theorem ne_of_isInert {c : Char} (hc : (char c).isInert = false) : g ≠ char c := by
  rintro rfl
  exact absurd h (Bool.eq_false_iff.mp hc)

theorem isOneOf_of_isInert {cs : List Char} (hcs : ∀ c ∈ cs, (char c).isInert = false) :
    g.isOneOf cs = false :=
  isOneOf_eq_false fun c hc => ne_of_isInert h (hcs c hc)

theorem isAsciiDigit_of_isInert : g.isAsciiDigit = false := by
  rw [← Bool.not_eq_true]
  intro hdigit
  have hcode := code_of_isAsciiDigit hdigit
  have hinert := of_decide_eq_true h
  omega

theorem hexValue?_of_isInert : Json.hexValue? g = none := by
  rcases g with c | half
  · have hdigit : c.isDigit = false := isAsciiDigit_of_isInert h
    have hinert : c.toNat ≤ 0x20 ∨ c.toNat = 0x60 ∨ 0x7F ≤ c.toNat := of_decide_eq_true h
    have hlower : ¬('a' ≤ c ∧ c ≤ 'f') := by
      rw [Char.le_def, Char.le_def, UInt32.le_iff_toNat_le, UInt32.le_iff_toNat_le]
      show ¬(97 ≤ c.toNat ∧ c.toNat ≤ 102)
      omega
    have hupper : ¬('A' ≤ c ∧ c ≤ 'F') := by
      rw [Char.le_def, Char.le_def, UInt32.le_iff_toNat_le, UInt32.le_iff_toNat_le]
      show ¬(65 ≤ c.toNat ∧ c.toNat ≤ 70)
      omega
    rw [Json.hexValue?, hdigit, if_neg Bool.false_ne_true, if_neg hlower, if_neg hupper]
  · rfl

theorem shortEscape?_of_isInert : Json.shortEscape? g = none := by
  unfold Json.shortEscape?
  split <;> first | rfl | exact absurd h (by decide)

end Glyph

namespace Text.IsInert

variable {s p u : Text}

theorem nil : IsInert [] := fun _ h => (List.not_mem_nil h).elim

theorem dropWhile (hs : s.IsInert) (test : Glyph → Bool) : IsInert (s.dropWhile test) :=
  fun g hg => hs g ((List.dropWhile_sublist test).subset hg)

/-- A text without such glyphs stands in front of others whether or not they are put behind. -/
theorem prefix_append_iff (hs : s.IsInert) (hp : ∀ g ∈ p, g.isInert = false) :
    p <+: u ++ s ↔ p <+: u := by
  constructor
  · intro h
    rcases Nat.le_total p.length u.length with hle | hle
    · exact List.prefix_of_prefix_length_le h (List.prefix_append u s) hle
    · obtain ⟨q, rfl⟩ := List.prefix_of_prefix_length_le (List.prefix_append u s) h hle
      rw [List.prefix_append_right_inj] at h
      cases q with
      | nil => simp
      | cons g q =>
        have hg := hs g (h.subset List.mem_cons_self)
        rw [hp g (by simp)] at hg
        cases hg
  · exact fun h => h.trans (List.prefix_append u s)

theorem ne_cons (hs : s.IsInert) {c : Char} (hc : (Glyph.char c).isInert = false) (rest : Text) :
    s ≠ .char c :: rest := by
  rintro rfl
  exact Glyph.ne_of_isInert (hs _ List.mem_cons_self) hc rfl

/-- No token comes to begin a text by such glyphs behind it. -/
theorem append_ne_cons (hs : s.IsInert) {c : Char} (hc : (Glyph.char c).isInert = false)
    (hu : ∀ rest, u ≠ .char c :: rest) (rest : Text) : u ++ s ≠ .char c :: rest := by
  cases u with
  | nil => exact hs.ne_cons hc rest
  | cons g u =>
    intro h
    exact hu u (by rw [(List.cons.inj h).1])

end Text.IsInert

namespace Json

variable {α β : Type} {most : Nat} {s u : Text}

/-! ## Readings that are alike -/

/-- What was read, with more behind it. -/
def leaving (s : Text) (p : α × Text) : α × Text := (p.1, p.2 ++ s)

@[simp] theorem leaving_mk (s : Text) (a : α) (behind : Text) :
    leaving s (a, behind) = (a, behind ++ s) := rfl

/-- Says that a second reading gives what the first gives and leaves some glyphs more, and that the
first leaves fewer than a number of glyphs. -/
structure ReadsAlike (s : Text) (bound : Nat) (x y : Except Trouble (α × Text)) : Prop where
  eq : y = x.map (leaving s)
  lt : ∀ a behind, x = .ok (a, behind) → behind.length < bound

namespace ReadsAlike

variable {bound : Nat}

theorem error (trouble : Trouble) :
    ReadsAlike s bound (.error trouble : Except Trouble (α × Text)) (.error trouble) :=
  ⟨rfl, nofun⟩

theorem ok (a : α) {behind : Text} (h : behind.length < bound) :
    ReadsAlike s bound (.ok (a, behind)) (.ok (a, behind ++ s)) where
  eq := rfl
  lt := by
    rintro _ _ ⟨⟩
    exact h

theorem mono {bound' : Nat} {x y : Except Trouble (α × Text)} (h : ReadsAlike s bound x y)
    (hle : bound ≤ bound') : ReadsAlike s bound' x y :=
  ⟨h.eq, fun a behind hx => Nat.lt_of_lt_of_le (h.lt a behind hx) hle⟩

theorem bind {bound' : Nat} {x y : Except Trouble (α × Text)}
    {f f' : α × Text → Except Trouble (β × Text)} (h : ReadsAlike s bound x y)
    (hf : ∀ a behind, behind.length < bound →
      ReadsAlike s bound' (f (a, behind)) (f' (a, behind ++ s))) :
    ReadsAlike s bound' (x >>= f) (y >>= f') := by
  rw [h.eq]
  rcases x with trouble | ⟨a, behind⟩
  · exact .error trouble
  · exact hf a behind (h.lt a behind rfl)

end ReadsAlike

/-! ## Strings -/

/-- A glyph that is read is taken away. -/
theorem length_lt_of_takeGlyph? {g : Glyph} {behind : Text} (h : takeGlyph? u = some (g, behind)) :
    behind.length < u.length := by
  have hlt : ∀ {g' : Glyph} {rest : Text}, some (g', rest) = some (g, behind) →
      rest.length < u.length → behind.length < u.length := by
    intro g' rest h hrest
    rwa [← (Prod.mk.inj (Option.some.inj h)).2]
  unfold takeGlyph? at h
  split at h
  · cases h
  · split at h
    · cases h
    · split at h
      · split at h
        · split at h
          · exact hlt h (by simp only [List.length_cons]; omega)
          · exact hlt h (by simp only [List.length_cons]; omega)
        · exact hlt h (by simp only [List.length_cons]; omega)
      · exact hlt h (by simp only [List.length_cons]; omega)
  · obtain ⟨g', -, hg⟩ := Option.map_eq_some_iff.mp h
    exact hlt (congrArg some hg) (by simp only [List.length_cons]; omega)
  · split at h
    · cases h
    · exact hlt h (Nat.lt_succ_self _)

/-- An escape of four digits is a token. -/
theorem isInert_of_codeUnit? {a b c d : Glyph} {n : Nat} (h : codeUnit? a b c d = some n) :
    ∀ g ∈ [.char '\\', .char 'u', a, b, c, d], g.isInert = false := by
  have hdigit : ∀ g x, hexValue? g = some x → g.isInert = false := by
    intro g x hx
    rw [← Bool.not_eq_true]
    intro hinert
    rw [Glyph.hexValue?_of_isInert hinert] at hx
    cases hx
  simp only [codeUnit?, Option.bind_eq_bind, Option.bind_eq_some_iff] at h
  obtain ⟨x, hx, y, hy, z, hz, w, hw, -⟩ := h
  simp only [List.forall_mem_cons]
  exact ⟨by decide, by decide, hdigit a x hx, hdigit b y hy, hdigit c z hz, hdigit d w hw, by simp⟩

section Inert

variable (hs : s.IsInert)

include hs

theorem leadingUnit?_append : leadingUnit? (u ++ s) = leadingUnit? u := by
  refine Option.ext fun n => ?_
  have hiff : ∀ t : Text, leadingUnit? t = some n ↔ ∃ a b c d,
      [.char '\\', .char 'u', a, b, c, d] <+: t ∧ codeUnit? a b c d = some n := by
    intro t
    rw [leadingUnit?_eq_some_iff]
    constructor
    · rintro ⟨a, b, c, d, rest, rfl, h⟩
      exact ⟨a, b, c, d, ⟨rest, rfl⟩, h⟩
    · rintro ⟨a, b, c, d, ⟨rest, rfl⟩, h⟩
      exact ⟨a, b, c, d, rest, rfl, h⟩
  rw [hiff, hiff]
  constructor
  · rintro ⟨a, b, c, d, hprefix, h⟩
    exact ⟨a, b, c, d, (hs.prefix_append_iff (isInert_of_codeUnit? h)).mp hprefix, h⟩
  · rintro ⟨a, b, c, d, hprefix, h⟩
    exact ⟨a, b, c, d, hprefix.trans (List.prefix_append u s), h⟩

theorem takeGlyph?_append (hu : u ≠ []) :
    takeGlyph? (u ++ s) = (takeGlyph? u).map (leaving s) := by
  cases hlead : leadingUnit? u with
  | some n =>
    have hlead' : leadingUnit? (u ++ s) = some n := by rw [leadingUnit?_append hs, hlead]
    rw [takeGlyph?_of_leadingUnit? hlead, takeGlyph?_of_leadingUnit? hlead']
    obtain ⟨a, b, c, d, rest, rfl, -⟩ := leadingUnit?_eq_some_iff.mp hlead
    simp only [List.cons_append, List.drop_succ_cons, List.drop_zero, leadingUnit?_append hs]
    cases hrest : leadingUnit? rest with
    | none => rfl
    | some m =>
      obtain ⟨e, f, g, h, more, rfl, -⟩ := leadingUnit?_eq_some_iff.mp hrest
      rw [Option.map_some]
      dsimp only
      split
      · simp only [leaving_mk, List.cons_append, List.drop_succ_cons, List.drop_zero]
      · rw [leaving_mk, List.cons_append, List.cons_append, List.cons_append, List.cons_append,
          List.cons_append, List.cons_append]
  | none =>
    have hlead' : leadingUnit? (u ++ s) = none := by rw [leadingUnit?_append hs, hlead]
    obtain ⟨g, rest, rfl⟩ := List.exists_cons_of_ne_nil hu
    by_cases hg : g = .char '\\'
    · subst hg
      cases rest with
      | cons h rest =>
        rw [takeGlyph?_of_leadingUnit?_eq_none hlead]
        refine (takeGlyph?_of_leadingUnit?_eq_none hlead').trans ?_
        rw [Option.map_map]
        rfl
      | nil =>
        cases s with
        | nil => rfl
        | cons h s =>
          have hshort := Glyph.shortEscape?_of_isInert (hs h List.mem_cons_self)
          refine (takeGlyph?_of_leadingUnit?_eq_none hlead').trans ?_
          rw [hshort]
          rfl
    · rw [takeGlyph?_of_ne hg, List.cons_append, takeGlyph?_of_ne hg]
      split <;> rfl

/-- A string that is not closed stays open. -/
theorem takeString_of_isInert (steps : Nat) : takeString steps s = .error .malformed := by
  induction steps generalizing s with
  | zero => rfl
  | succ steps ih =>
    cases s with
    | nil => rfl
    | cons g s =>
      obtain ⟨hg, hs⟩ := List.forall_mem_cons.mp hs
      have hglyph := takeGlyph?_of_ne (Glyph.ne_of_isInert hg (c := '\\') (by decide)) s
      have hquote : ∀ rest, g :: s ≠ .char '"' :: rest := fun rest h =>
        Glyph.ne_of_isInert hg (c := '"') (by decide) (List.cons.inj h).1
      split at hglyph
      · rw [takeString, hglyph]
        exact hquote
      · rw [takeString_cons hquote hglyph, ih hs]
        rfl

theorem readsAlike_takeString {steps steps' : Nat} (h : u.length < steps) (h' : u.length < steps') :
    ReadsAlike s u.length (takeString steps u) (takeString steps' (u ++ s)) := by
  induction steps generalizing steps' u with
  | zero => exact absurd h (Nat.not_lt_zero _)
  | succ steps ih =>
    obtain ⟨steps', rfl⟩ := Nat.exists_eq_succ_of_ne_zero (Nat.ne_zero_of_lt h')
    cases u with
    | nil =>
      rw [List.nil_append, takeString_of_isInert hs]
      exact .error .malformed
    | cons g rest =>
      rw [List.length_cons] at h h'
      by_cases hg : g = .char '"'
      · subst hg
        exact .ok [] (Nat.lt_succ_self _)
      · have hquote : ∀ more, g :: rest ≠ .char '"' :: more := fun _ h => hg (List.cons.inj h).1
        have hquote' : ∀ more, g :: rest ++ s ≠ .char '"' :: more := fun _ h =>
          hg (List.cons.inj h).1
        have hmore := takeGlyph?_append hs (List.cons_ne_nil g rest)
        cases hglyph : takeGlyph? (g :: rest) with
        | none =>
          rw [hglyph] at hmore
          rw [takeString, hglyph, takeString, hmore]
          · exact .error .malformed
          · exact hquote'
          · exact hquote
        | some p =>
          obtain ⟨g', behind⟩ := p
          have hlt := length_lt_of_takeGlyph? hglyph
          rw [List.length_cons] at hlt ⊢
          rw [hglyph, Option.map_some, leaving_mk] at hmore
          rw [takeString_cons hquote hglyph, takeString_cons hquote' hmore]
          exact (ih (by omega) (by omega)).bind fun gs left hleft => .ok _ (by omega)

end Inert

/-! ## Numbers -/

theorem length_takeDigits (t : Text) :
    (takeDigits t).1.length + (takeDigits t).2.length = t.length := by
  rw [← List.length_append, takeDigits, List.takeWhile_append_dropWhile]

variable {ds rest : Text}

theorem length_lt_of_takeWhole? (h : takeWhole? u = some (ds, rest)) : rest.length < u.length := by
  unfold takeWhole? at h
  split at h
  · cases h
    exact Nat.lt_succ_self _
  · have hlength := length_takeDigits u
    rcases hdigits : takeDigits u with ⟨_ | ⟨g, gs⟩, behind⟩
    · rw [hdigits] at h
      cases h
    · rw [hdigits] at h hlength
      cases h
      simp only [List.length_cons] at hlength
      omega

theorem length_le_of_takePlaces? (h : takePlaces? u = some (ds, rest)) :
    rest.length ≤ u.length := by
  unfold takePlaces? at h
  split at h
  · next more =>
    have hlength := length_takeDigits more
    rcases hdigits : takeDigits more with ⟨_ | ⟨g, gs⟩, behind⟩
    · rw [hdigits] at h
      cases h
    · rw [hdigits] at h hlength
      cases h
      simp only [List.length_cons] at hlength ⊢
      omega
  · cases h

theorem length_takeSign_le (t : Text) : (Number.takeSign t).2.length ≤ t.length := by
  unfold Number.takeSign
  split <;> simp

theorem length_le_of_takePower? {k : Int} (h : takePower? u = some (k, rest)) :
    rest.length ≤ u.length := by
  unfold takePower? at h
  split at h
  · next g more =>
    split at h
    · have hsign := length_takeSign_le more
      rcases hmore : Number.takeSign more with ⟨negative, body⟩
      rw [hmore] at h hsign
      have hlength := length_takeDigits body
      dsimp only at h hsign
      rcases hdigits : takeDigits body with ⟨_ | ⟨g, gs⟩, behind⟩
      · rw [hdigits] at h
        cases h
      · rw [hdigits] at h hlength
        cases h
        simp only [List.length_cons] at hlength ⊢
        omega
    · cases h
  · cases h

/-- A text behind its minus, and whether there is one. -/
def takeMinus (t : Text) : Bool × Text :=
  match t with
  | .char '-' :: rest => (true, rest)
  | _ => (false, t)

theorem length_takeMinus_le (t : Text) : (takeMinus t).2.length ≤ t.length := by
  unfold takeMinus
  split
  · exact Nat.le_succ _
  · exact Nat.le_refl _

/-- Reads a number behind its sign. -/
def readMagnitude (most : Nat) (negative : Bool) (body : Text) : Except Trouble (Value × Text) :=
  match takeWhole? body with
  | none => .error .malformed
  | some (whole, rest) =>
    match takePlaces? rest, takePower? ((takePlaces? rest).elim rest (·.2)) with
    | none, none =>
      if most < whole.length then .error (.numeralTooLong whole.length)
      else .ok (.whole (Number.withSign negative (digitsValue whole)), rest)
    | places, power =>
      let digits := whole ++ (places.map (·.1)).getD []
      let exponent := (power.map (·.1)).getD 0 - ((places.map (·.1.length)).getD 0 : Nat)
      let behind := match power with
        | some (_, behind) => behind
        | none => places.elim rest (·.2)
      .ok (.real (.ofDecimal negative (digitsValue digits) exponent), behind)

theorem readNumber_eq (t : Text) :
    readNumber most t = readMagnitude most (takeMinus t).1 (takeMinus t).2 := rfl

section Inert

variable (hs : s.IsInert)

include hs

theorem endsDigits_of_isInert : EndsDigits s :=
  fun g hg => Glyph.isAsciiDigit_of_isInert (hs g (List.mem_of_mem_head? hg))

theorem takeDigits_append_isInert : takeDigits (u ++ s) = leaving s (takeDigits u) := by
  have hdigits : IsDigits (u.takeWhile Glyph.isAsciiDigit) :=
    fun g hg => List.all_eq_true.mp List.all_takeWhile g hg
  have hends : EndsDigits (u.dropWhile Glyph.isAsciiDigit ++ s) := by
    have hhead := List.head?_dropWhile_not Glyph.isAsciiDigit u
    intro g hg
    cases hrest : u.dropWhile Glyph.isAsciiDigit with
    | nil =>
      rw [hrest] at hg
      exact endsDigits_of_isInert hs g hg
    | cons g' rest =>
      rw [hrest] at hg hhead
      cases hg
      exact Bool.eq_false_iff.mpr (by simpa using hhead)
  have happend := takeDigits_append hdigits hends
  rwa [← List.append_assoc, List.takeWhile_append_dropWhile] at happend

theorem takeWhole?_append_isInert : takeWhole? (u ++ s) = (takeWhole? u).map (leaving s) := by
  have hother : ∀ t : Text, (∀ rest, t ≠ .char '0' :: rest) → takeWhole? t =
      if (takeDigits t).1 = [] then none else some (takeDigits t) := by
    intro t ht
    unfold takeWhole?
    split
    · exact absurd rfl (ht _)
    · split
      · next hdigits => rw [hdigits, if_pos rfl]
      · next hdigits => rw [if_neg fun h => hdigits _ (Prod.ext h rfl)]
  by_cases hzero : ∃ rest, u = .char '0' :: rest
  · obtain ⟨rest, rfl⟩ := hzero
    rfl
  · have hzero : ∀ rest, u ≠ .char '0' :: rest := fun rest h => hzero ⟨rest, h⟩
    rw [hother u hzero, hother _ (hs.append_ne_cons (by decide) hzero),
      takeDigits_append_isInert hs]
    rcases takeDigits u with ⟨_ | ⟨g, ds⟩, rest⟩ <;> rfl

theorem takePlaces?_append_isInert : takePlaces? (u ++ s) = (takePlaces? u).map (leaving s) := by
  have hother : ∀ t : Text, (∀ rest, t ≠ .char '.' :: rest) → takePlaces? t = none := by
    intro t ht
    rw [takePlaces?]
    exact ht
  by_cases hpoint : ∃ rest, u = .char '.' :: rest
  · obtain ⟨rest, rfl⟩ := hpoint
    rw [List.cons_append, takePlaces?, takePlaces?, takeDigits_append_isInert hs]
    rcases takeDigits rest with ⟨_ | ⟨g, ds⟩, rest⟩ <;> rfl
  · have hpoint : ∀ rest, u ≠ .char '.' :: rest := fun rest h => hpoint ⟨rest, h⟩
    rw [hother u hpoint, hother _ (hs.append_ne_cons (by decide) hpoint)]
    rfl

theorem takeSign_append_isInert : Number.takeSign (u ++ s) = leaving s (Number.takeSign u) := by
  by_cases hminus : ∃ rest, u = .char '-' :: rest
  · obtain ⟨rest, rfl⟩ := hminus
    rfl
  by_cases hplus : ∃ rest, u = .char '+' :: rest
  · obtain ⟨rest, rfl⟩ := hplus
    rfl
  have hminus : ∀ rest, u ≠ .char '-' :: rest := fun rest h => hminus ⟨rest, h⟩
  have hplus : ∀ rest, u ≠ .char '+' :: rest := fun rest h => hplus ⟨rest, h⟩
  rw [Number.takeSign, Number.takeSign, leaving_mk]
  · exact hminus
  · exact hplus
  · exact hs.append_ne_cons (by decide) hminus
  · exact hs.append_ne_cons (by decide) hplus

theorem takePower?_append_isInert : takePower? (u ++ s) = (takePower? u).map (leaving s) := by
  cases u with
  | nil =>
    cases s with
    | nil => rfl
    | cons g s =>
      have hmark : g.isOneOf ['e', 'E'] = false :=
        Glyph.isOneOf_of_isInert (hs g List.mem_cons_self) (by decide)
      rw [List.nil_append, takePower?, hmark, if_neg Bool.false_ne_true]
      rfl
  | cons g u =>
    rw [List.cons_append, takePower?, takePower?]
    split
    · rw [takeSign_append_isInert hs]
      obtain ⟨negative, body⟩ := Number.takeSign u
      dsimp only [leaving_mk]
      rw [takeDigits_append_isInert hs]
      rcases takeDigits body with ⟨_ | ⟨g, ds⟩, rest⟩ <;> rfl
    · rfl

theorem takeMinus_append_isInert : takeMinus (u ++ s) = leaving s (takeMinus u) := by
  by_cases hminus : ∃ rest, u = .char '-' :: rest
  · obtain ⟨rest, rfl⟩ := hminus
    rfl
  · have hminus : ∀ rest, u ≠ .char '-' :: rest := fun rest h => hminus ⟨rest, h⟩
    rw [takeMinus, takeMinus, leaving_mk]
    · exact hminus
    · exact hs.append_ne_cons (by decide) hminus

theorem readsAlike_readMagnitude (negative : Bool) (body : Text) : ReadsAlike s body.length
    (readMagnitude most negative body) (readMagnitude most negative (body ++ s)) := by
  unfold readMagnitude
  rw [takeWhole?_append_isInert hs]
  cases hwhole : takeWhole? body with
  | none => exact .error .malformed
  | some p =>
    obtain ⟨whole, rest⟩ := p
    have hlt := length_lt_of_takeWhole? hwhole
    rw [Option.map_some, leaving_mk]
    dsimp only
    rw [takePlaces?_append_isInert hs]
    cases hplaces : takePlaces? rest with
    | none =>
      simp only [Option.map_none, Option.elim_none]
      rw [takePower?_append_isInert hs]
      cases hpower : takePower? rest with
      | none =>
        simp only [Option.map_none]
        split
        · exact .error _
        · exact .ok _ (by omega)
      | some q =>
        obtain ⟨k, behind⟩ := q
        have hle' := length_le_of_takePower? hpower
        exact .ok _ (show behind.length < body.length by omega)
    | some q =>
      obtain ⟨places, middle⟩ := q
      have hle' := length_le_of_takePlaces? hplaces
      simp only [Option.map_some, Option.elim_some, leaving_mk]
      rw [takePower?_append_isInert hs]
      cases hpower : takePower? middle with
      | none => exact .ok _ (by dsimp; omega)
      | some q =>
        obtain ⟨k, behind⟩ := q
        have hle'' := length_le_of_takePower? hpower
        exact .ok _ (show behind.length < body.length by omega)

theorem readsAlike_readNumber :
    ReadsAlike s u.length (readNumber most u) (readNumber most (u ++ s)) := by
  have hle := length_takeMinus_le u
  rw [readNumber_eq, readNumber_eq, takeMinus_append_isInert hs]
  exact (readsAlike_readMagnitude hs (takeMinus u).1 (takeMinus u).2).mono hle

end Inert

/-! ## Names -/

theorem length_of (word : String) : (Text.of word).length = word.length := by
  rw [Text.of, List.length_map, String.length_toList]

theorem length_lt_of_dropWord? {word : String} {rest : Text} (hword : 0 < word.length)
    (h : dropWord? word u = some rest) : rest.length < u.length := by
  have hlength := length_of word
  rw [dropWord?] at h
  split at h
  · next hprefix =>
    have hle := (List.isPrefixOf_iff_prefix.mp hprefix).length_le
    cases h
    rw [List.length_drop]
    omega
  · cases h

theorem readSimple_eq (t : Text) : readSimple most t =
    (names.firstM fun p => (dropWord? p.1 t).map (p.2, ·)).elim (readNumber most t) .ok := by
  unfold readSimple
  cases names.firstM fun p => (dropWord? p.1 t).map (p.2, ·) <;> rfl

section Inert

variable (hs : s.IsInert)

include hs

theorem dropWord?_append {word : String} (hword : ∀ g ∈ Text.of word, g.isInert = false) :
    dropWord? word (u ++ s) = (dropWord? word u).map (· ++ s) := by
  rw [dropWord?, dropWord?]
  simp only [List.isPrefixOf_iff_prefix, hs.prefix_append_iff hword]
  split
  · next h =>
    rw [← length_of, Option.map_some, List.drop_append_of_le_length h.length_le]
  · rfl

theorem readsAlike_readSimple :
    ReadsAlike s u.length (readSimple most u) (readSimple most (u ++ s)) := by
  have hnames : ∀ ps : List (String × Value),
      (∀ p ∈ ps, 0 < p.1.length ∧ ∀ g ∈ Text.of p.1, g.isInert = false) →
      ReadsAlike s u.length
        ((ps.firstM fun p => (dropWord? p.1 u).map (p.2, ·)).elim (readNumber most u) .ok)
        ((ps.firstM fun p => (dropWord? p.1 (u ++ s)).map (p.2, ·)).elim
          (readNumber most (u ++ s)) .ok) := by
    intro ps hps
    induction ps with
    | nil => exact readsAlike_readNumber hs
    | cons p ps ih =>
      obtain ⟨⟨hlength, hword⟩, hps⟩ := List.forall_mem_cons.mp hps
      rw [List.firstM, List.firstM, dropWord?_append hs hword]
      cases hdrop : dropWord? p.1 u with
      | none => exact ih hps
      | some rest => exact .ok p.2 (length_lt_of_dropWord? hlength hdrop)
  rw [readSimple_eq, readSimple_eq]
  exact hnames names (by decide)

end Inert

/-! ## Readers that find nothing -/

variable {steps steps' : Nat} {t : Text}

/-- Says that a reader finds nothing in glyphs that are in no token. -/
def FindsNothing (f : Text → Except Trouble (α × Text)) : Prop :=
  ∀ t : Text, t.IsInert → f t = .error .malformed

theorem readValue_of_ne {t : Text} (hquote : ∀ rest, t ≠ .char '"' :: rest)
    (hlist : ∀ rest, t ≠ .char '[' :: rest) (hrecord : ∀ rest, t ≠ .char '\x7b' :: rest)
    (steps : Nat) : readValue most (steps + 1) t = readSimple most t := by
  rw [readValue]
  · exact hquote
  · exact hlist
  · exact hrecord

theorem findsNothing_readValue : FindsNothing (readValue most steps) := by
  intro t ht
  cases steps with
  | zero => rw [readValue]
  | succ steps =>
    have hsimple : ReadsAlike t ([] : Text).length (readSimple most [])
        (readSimple most ([] ++ t)) := readsAlike_readSimple ht
    rw [readValue_of_ne (ht.ne_cons (by decide)) (ht.ne_cons (by decide)) (ht.ne_cons (by decide))]
    exact hsimple.eq

theorem findsNothing_readItems : FindsNothing (readItems most steps) := by
  intro t ht
  cases steps with
  | zero => rw [readItems]
  | succ steps =>
    rw [readItems, findsNothing_readValue t ht]
    rfl

theorem findsNothing_readFields : FindsNothing (readFields most steps) := by
  intro t ht
  cases steps with
  | zero => rw [readFields]
  | succ steps =>
    rw [readFields]
    exact ht.ne_cons (by decide)

/-! ## Signs between values -/

/-- Reads the parts of a list or a record, at least one, or its end. -/
def readNested (close : Char) (whole : List α → Value)
    (parts : Text → Except Trouble (List α × Text)) (t : Text) : Except Trouble (Value × Text) :=
  if t.head? = some (.char close) then .ok (whole [], t.tail)
  else do
    let (found, behind) ← parts t
    .ok (whole found, behind)

/-- Reads what stands behind a part of a list or a record: the end, or a comma and more parts. -/
def readMore (close : Char) (a : α) (parts : Text → Except Trouble (List α × Text)) (t : Text) :
    Except Trouble (List α × Text) :=
  if t.head? = some (.char close) then .ok ([a], t.tail)
  else if t.head? = some (.char ',') then do
    let (found, behind) ← parts (skipBlanks t.tail)
    .ok (a :: found, behind)
  else .error .malformed

/-- Reads what stands behind the name of a field: a colon, the value, and more fields. -/
def readNamed (name : Text) (value : Text → Except Trouble (Value × Text))
    (fields : Text → Except Trouble (List (Text × Value) × Text)) (t : Text) :
    Except Trouble (List (Text × Value) × Text) :=
  if t.head? = some (.char ':') then do
    let (v, behind) ← value (skipBlanks t.tail)
    readMore '\x7d' (name, v) fields (skipBlanks behind)
  else .error .malformed

theorem head?_ne {g : Glyph} (h : ∀ rest, t ≠ g :: rest) : ¬t.head? = some g := by
  intro hhead
  obtain ⟨rest, hrest⟩ := List.head?_eq_some_iff.mp hhead
  exact h rest hrest

theorem readValue_list (rest : Text) : readValue most (steps + 1) (.char '[' :: rest) =
    readNested ']' .list (readItems most steps) (skipBlanks rest) := by
  rw [readValue, readNested]
  split
  · next h => rw [h]; rfl
  · next hclose => rw [if_neg (head?_ne hclose)]

theorem readValue_record (rest : Text) : readValue most (steps + 1) (.char '\x7b' :: rest) =
    readNested '\x7d' Value.recordOf (readFields most steps) (skipBlanks rest) := by
  rw [readValue, readNested]
  split
  · next h => rw [h]; rfl
  · next hclose => rw [if_neg (head?_ne hclose)]

theorem readItems_eq (t : Text) : readItems most (steps + 1) t = (do
    let (v, behind) ← readValue most steps t
    readMore ']' v (readItems most steps) (skipBlanks behind)) := by
  rw [readItems]
  refine congrArg _ (funext fun p => ?_)
  dsimp only
  rw [readMore]
  split
  · next h => rw [h]; rfl
  · next h => rw [h]; rfl
  · next hclose hcomma => rw [if_neg (head?_ne hclose), if_neg (head?_ne hcomma)]

theorem readFields_eq (t : Text) : readFields most (steps + 1) (.char '"' :: t) = (do
    let (name, behind) ← takeString steps t
    readNamed name (readValue most steps) (readFields most steps) (skipBlanks behind)) := by
  rw [readFields]
  refine congrArg _ (funext fun p => ?_)
  dsimp only
  rw [readNamed]
  split
  · next h =>
    rw [h, List.head?_cons, if_pos rfl]
    refine congrArg _ (funext fun q => ?_)
    obtain ⟨v, behind⟩ := q
    dsimp only
    rw [readMore]
    split
    · next h => rw [h]; rfl
    · next h => rw [h]; rfl
    · next hclose hcomma => rw [if_neg (head?_ne hclose), if_neg (head?_ne hcomma)]
  · next hcolon => rw [if_neg (head?_ne hcolon)]

section Inert

variable (hs : s.IsInert)

include hs

theorem head?_of_isInert {c : Char} (hc : (Glyph.char c).isInert = false) :
    ¬s.head? = some (.char c) :=
  fun h => Glyph.ne_of_isInert (hs _ (List.mem_of_mem_head? h)) hc rfl

theorem head?_append_isInert {c : Char} (hc : (Glyph.char c).isInert = false) :
    (u ++ s).head? = some (.char c) ↔ u.head? = some (.char c) := by
  cases u with
  | cons g u => rfl
  | nil => exact iff_of_false (head?_of_isInert hs hc) (by simp)

end Inert

section Nothing

variable {close : Char} (hclose : (Glyph.char close).isInert = false)

include hclose

theorem findsNothing_readNested (whole : List α → Value)
    {parts : Text → Except Trouble (List α × Text)}
    (hparts : FindsNothing parts) : FindsNothing (readNested close whole parts) := by
  intro t ht
  rw [readNested, if_neg (head?_of_isInert ht hclose), hparts t ht]
  rfl

theorem findsNothing_readMore (a : α) (parts : Text → Except Trouble (List α × Text)) :
    FindsNothing (readMore close a parts) := by
  intro t ht
  rw [readMore, if_neg (head?_of_isInert ht hclose),
    if_neg (head?_of_isInert ht (c := ',') (by decide))]

end Nothing

theorem findsNothing_readNamed (name : Text) (value : Text → Except Trouble (Value × Text))
    (fields : Text → Except Trouble (List (Text × Value) × Text)) :
    FindsNothing (readNamed name value fields) := by
  intro t ht
  rw [readNamed, if_neg (head?_of_isInert ht (c := ':') (by decide))]

/-! ## Values -/

theorem length_skipBlanks_le (t : Text) : (skipBlanks t).length ≤ t.length :=
  (List.dropWhile_suffix _).length_le

section Inert

variable (hs : s.IsInert)

include hs

theorem skipBlanks_append (u : Text) : (skipBlanks u = [] ∧ (skipBlanks (u ++ s)).IsInert) ∨
    (skipBlanks (u ++ s) = skipBlanks u ++ s) := by
  unfold skipBlanks
  rw [List.dropWhile_append]
  split
  · next hend => exact .inl ⟨List.isEmpty_iff.mp hend, hs.dropWhile _⟩
  · exact .inr rfl

/-- What is read behind blanks, by a reader that finds nothing in such glyphs. -/
theorem readsAlike_skipBlanks {f f' : Text → Except Trouble (α × Text)}
    (hf : ∀ t, t.length ≤ u.length → ReadsAlike s t.length (f t) (f' (t ++ s)))
    (hnothing : FindsNothing f) (hnothing' : FindsNothing f') :
    ReadsAlike s u.length (f (skipBlanks u)) (f' (skipBlanks (u ++ s))) := by
  rcases skipBlanks_append hs u with ⟨hend, hinert⟩ | hmore
  · rw [hend, hnothing [] .nil, hnothing' _ hinert]
    exact .error _
  · rw [hmore]
    exact (hf _ (length_skipBlanks_le u)).mono (length_skipBlanks_le u)

theorem readsAlike_readNested {close : Char} (hclose : (Glyph.char close).isInert = false)
    (whole : List α → Value) {parts parts' : Text → Except Trouble (List α × Text)}
    (hparts : ReadsAlike s u.length (parts u) (parts' (u ++ s))) :
    ReadsAlike s u.length (readNested close whole parts u)
      (readNested close whole parts' (u ++ s)) := by
  rw [readNested, readNested]
  simp only [head?_append_isInert hs hclose]
  split
  · next hhead =>
    obtain ⟨rest, rfl⟩ := List.head?_eq_some_iff.mp hhead
    exact .ok _ (Nat.lt_succ_self _)
  · exact hparts.bind fun found behind hbehind => .ok _ hbehind

theorem readsAlike_readMore {close : Char} (hclose : (Glyph.char close).isInert = false) (a : α)
    {parts parts' : Text → Except Trouble (List α × Text)} (hparts : FindsNothing parts)
    (hparts' : FindsNothing parts')
    (h : ∀ t, t.length < u.length → ReadsAlike s t.length (parts t) (parts' (t ++ s))) :
    ReadsAlike s u.length (readMore close a parts u) (readMore close a parts' (u ++ s)) := by
  rw [readMore, readMore]
  simp only [head?_append_isInert hs hclose, head?_append_isInert hs (c := ',') (by decide)]
  split
  · next hhead =>
    obtain ⟨rest, rfl⟩ := List.head?_eq_some_iff.mp hhead
    exact .ok _ (Nat.lt_succ_self _)
  · split
    · next hhead =>
      obtain ⟨rest, rfl⟩ := List.head?_eq_some_iff.mp hhead
      have hmore := readsAlike_skipBlanks hs (u := rest)
        (fun t ht => h t (Nat.lt_succ_of_le ht)) hparts hparts'
      exact hmore.bind fun found behind hbehind => .ok _ (Nat.lt_succ_of_lt hbehind)
    · exact .error _

theorem readsAlike_readNamed (name : Text) {value value' : Text → Except Trouble (Value × Text)}
    {fields fields' : Text → Except Trouble (List (Text × Value) × Text)}
    (hvalue : FindsNothing value) (hvalue' : FindsNothing value') (hfields : FindsNothing fields)
    (hfields' : FindsNothing fields')
    (hv : ∀ t, t.length < u.length → ReadsAlike s t.length (value t) (value' (t ++ s)))
    (h : ∀ t, t.length < u.length → ReadsAlike s t.length (fields t) (fields' (t ++ s))) :
    ReadsAlike s u.length (readNamed name value fields u)
      (readNamed name value' fields' (u ++ s)) := by
  rw [readNamed, readNamed]
  simp only [head?_append_isInert hs (c := ':') (by decide)]
  split
  · next hhead =>
    obtain ⟨rest, rfl⟩ := List.head?_eq_some_iff.mp hhead
    have hread := readsAlike_skipBlanks hs (u := rest)
      (fun t ht => hv t (Nat.lt_succ_of_le ht)) hvalue hvalue'
    refine hread.bind fun v behind hbehind => ?_
    have hclose : (Glyph.char '\x7d').isInert = false := by decide
    have hmore := readsAlike_skipBlanks hs (u := behind)
      (fun t ht => readsAlike_readMore hs hclose (name, v) hfields hfields'
        fun t' ht' => h t' (by rw [List.length_cons]; omega))
      (findsNothing_readMore hclose _ _) (findsNothing_readMore hclose _ _)
    exact hmore.mono (by rw [List.length_cons]; omega)
  · exact .error _

/-- **What is read from a text is also read from it with such glyphs behind**, values, items and
fields, with enough steps for each text. -/
theorem readsAlike_read (steps : Nat) :
    (∀ u steps', 2 * u.length < steps → 2 * u.length < steps' →
      ReadsAlike s u.length (readValue most steps u) (readValue most steps' (u ++ s))) ∧
    (∀ u steps', 2 * u.length + 1 < steps → 2 * u.length + 1 < steps' →
      ReadsAlike s u.length (readItems most steps u) (readItems most steps' (u ++ s))) ∧
    (∀ u steps', 2 * u.length < steps → 2 * u.length < steps' →
      ReadsAlike s u.length (readFields most steps u) (readFields most steps' (u ++ s))) := by
  induction steps with
  | zero => exact ⟨nofun, nofun, nofun⟩
  | succ steps ih =>
    obtain ⟨ihValue, ihItems, ihFields⟩ := ih
    refine ⟨fun u steps' h h' => ?_, fun u steps' h h' => ?_, fun u steps' h h' => ?_⟩
    all_goals obtain ⟨steps', rfl⟩ := Nat.exists_eq_succ_of_ne_zero (Nat.ne_zero_of_lt h')
    · by_cases hquote : ∃ rest, u = .char '"' :: rest
      · obtain ⟨rest, rfl⟩ := hquote
        rw [List.length_cons] at h h' ⊢
        rw [List.cons_append, readValue, readValue]
        exact (readsAlike_takeString hs (by omega) (by omega)).bind fun t behind hbehind =>
          .ok _ (Nat.lt_succ_of_lt hbehind)
      by_cases hlist : ∃ rest, u = .char '[' :: rest
      · obtain ⟨rest, rfl⟩ := hlist
        rw [List.length_cons] at h h' ⊢
        rw [List.cons_append, readValue_list, readValue_list]
        refine (readsAlike_skipBlanks hs (u := rest) (fun t ht => ?_) ?_ ?_).mono (Nat.le_succ _)
        · exact readsAlike_readNested hs (by decide) _ (ihItems t steps' (by omega) (by omega))
        · exact findsNothing_readNested (by decide) _ findsNothing_readItems
        · exact findsNothing_readNested (by decide) _ findsNothing_readItems
      by_cases hrecord : ∃ rest, u = .char '\x7b' :: rest
      · obtain ⟨rest, rfl⟩ := hrecord
        rw [List.length_cons] at h h' ⊢
        rw [List.cons_append, readValue_record, readValue_record]
        refine (readsAlike_skipBlanks hs (u := rest) (fun t ht => ?_) ?_ ?_).mono (Nat.le_succ _)
        · exact readsAlike_readNested hs (by decide) _ (ihFields t steps' (by omega) (by omega))
        · exact findsNothing_readNested (by decide) _ findsNothing_readFields
        · exact findsNothing_readNested (by decide) _ findsNothing_readFields
      have hquote : ∀ rest, u ≠ .char '"' :: rest := fun rest h => hquote ⟨rest, h⟩
      have hlist : ∀ rest, u ≠ .char '[' :: rest := fun rest h => hlist ⟨rest, h⟩
      have hrecord : ∀ rest, u ≠ .char '\x7b' :: rest := fun rest h => hrecord ⟨rest, h⟩
      rw [readValue_of_ne hquote hlist hrecord, readValue_of_ne
        (hs.append_ne_cons (by decide) hquote) (hs.append_ne_cons (by decide) hlist)
        (hs.append_ne_cons (by decide) hrecord)]
      exact readsAlike_readSimple hs
    · rw [readItems_eq, readItems_eq]
      refine (ihValue u steps' (by omega) (by omega)).bind fun v behind hbehind => ?_
      dsimp only
      refine (readsAlike_skipBlanks hs (u := behind) (fun t ht => ?_) ?_ ?_).mono hbehind.le
      · exact readsAlike_readMore hs (by decide) v findsNothing_readItems findsNothing_readItems
          fun t' ht' => ihItems t' steps' (by omega) (by omega)
      · exact findsNothing_readMore (by decide) v _
      · exact findsNothing_readMore (by decide) v _
    · by_cases hquote : ∃ rest, u = .char '"' :: rest
      · obtain ⟨rest, rfl⟩ := hquote
        rw [List.length_cons] at h h' ⊢
        rw [List.cons_append, readFields_eq, readFields_eq]
        refine (readsAlike_takeString hs (u := rest) (by omega) (by omega)).bind
          fun name behind hbehind => ?_
        dsimp only
        refine (readsAlike_skipBlanks hs (u := behind) (fun t ht => ?_) ?_ ?_).mono
          (Nat.le_succ_of_le hbehind.le)
        · exact readsAlike_readNamed hs name findsNothing_readValue findsNothing_readValue
            findsNothing_readFields findsNothing_readFields
            (fun t' ht' => ihValue t' steps' (by omega) (by omega))
            fun t' ht' => ihFields t' steps' (by omega) (by omega)
        · exact findsNothing_readNamed name _ _
        · exact findsNothing_readNamed name _ _
      · have hquote : ∀ rest, u ≠ .char '"' :: rest := fun rest h => hquote ⟨rest, h⟩
        rw [readFields, readFields]
        · exact .error _
        · exact hs.append_ne_cons (by decide) hquote
        · exact hquote

/-- Inert glyphs behind a text are left, and nothing else changes. -/
theorem readFront_append (u : Text) : readFront (u ++ s) = (readFront u).map (leaving s) :=
  ((readsAlike_read hs (2 * u.length + 2)).1 u _ (by omega)
    (by rw [List.length_append]; omega)).eq

end Inert

/-- The reader takes something of what it reads. -/
theorem length_lt_of_readFront {v : Value} {behind : Text} (h : readFront u = .ok (v, behind)) :
    behind.length < u.length := by
  have hread : ReadsAlike [] u.length (readFront u) (readFront (u ++ [])) :=
    (readsAlike_read .nil (2 * u.length + 2)).1 u _ (by omega)
      (by rw [List.length_append]; omega)
  exact hread.lt v behind h

end Json
end QueryDesk
