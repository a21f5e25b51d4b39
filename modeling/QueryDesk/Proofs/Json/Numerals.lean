import QueryDesk.Json.Reader
import QueryDesk.Number.Shortest
import QueryDesk.Proofs.Number.Digits
import QueryDesk.Proofs.Text.Digit

/-!
# Numbers in JSON

A number is read from its numeral whatever stands behind it, as long as that does not go on with the
numeral (`EndsNumeral`).  Digits alone are a whole number (`readNumber_signedDigits`).  Digits with
places or an exponent behind them are a real one (`exists_readNumber`), and that is how binary
numbers are written (`exists_parts_layOut`); whether they are read as the number they were written
for is not looked at here.

A numeral may begin with a zero only if that is its whole part.  So it matters that the shortest
decimal of a number other than zero is not zero (`Binary64.shortest_ne_zero`).
-/

set_option autoImplicit false

namespace QueryDesk

/-! ## The shortest decimal -/

namespace Binary64

variable {significand unit : Nat}

theorem round_zero (den : Nat) : round false 0 den = .finite false 0 0 := by
  have hunits : ∀ scale, roundUnits false (0 * scale) den = .finite false 0 0 := by
    intro scale
    rw [Nat.zero_mul, roundUnits, Nat.zero_div]
    simp [roundDiv]
  unfold round
  generalize Nat.pow 2 1074 = scale
  exact hunits scale

/-- A decimal that reads back as a number other than zero is not zero. -/
theorem ne_zero_of_readsBack? {n : Nat} {e : Int} {found : Nat × Int} (hs : significand ≠ 0)
    (h : readsBack? significand unit n e = some found) : found.1 ≠ 0 := by
  rw [readsBack?] at h
  dsimp only at h
  split at h
  · next hround =>
    cases h
    rintro rfl
    have hzero : (tenFraction 0 e).1 = 0 := by
      rw [tenFraction]
      split <;> simp
    rw [hzero, round_zero] at hround
    injection hround with _ hsignificand
    exact hs hsignificand.symm
  · cases h

theorem of_nearestHit? {hit : Nat → Option (Nat × Int)} {P : Nat × Int → Prop}
    (hhit : ∀ n found, hit n = some found → P found) {num den : Nat} {found : Nat × Int}
    (h : nearestHit? hit num den = some found) : P found := by
  unfold nearestHit? at h
  dsimp only at h
  split at h
  · next a b ha hb =>
    have ha := hhit _ _ ha
    have hb := hhit _ _ hb
    cases h
    split_ifs
    · exact ha
    · exact hb
    · exact ha
    · exact hb
  · next ha hb => exact hhit _ _ (ha.trans h)
  · exact hhit _ _ h

theorem of_firstHit {hit : Nat → Option (Nat × Int)} {P : Nat × Int → Prop}
    (hhit : ∀ count found, hit count = some found → P found) {otherwise : Nat × Int}
    (hotherwise : P otherwise) (tries count : Nat) : P (firstHit hit otherwise tries count) := by
  induction tries generalizing count with
  | zero => exact hotherwise
  | succ tries ih =>
    rw [firstHit]
    split
    · next found hfound => exact hhit count found hfound
    · exact ih (count + 1)

theorem searchGrid_ne_zero (hs : significand ≠ 0) (num den : Nat) (k : Int) :
    (searchGrid significand unit num den k).1 ≠ 0 := by
  rw [searchGrid]
  refine of_firstHit (P := fun found => found.1 ≠ 0) (fun count found hfound => ?_) hs _ _
  exact of_nearestHit? (P := fun found => found.1 ≠ 0)
    (fun n found hfound => ne_zero_of_readsBack? hs hfound) hfound

theorem dropZeros_ne_zero (tries : Nat) {n : Nat} (hn : n ≠ 0) (e : Int) :
    (dropZeros tries n e).1 ≠ 0 := by
  induction tries generalizing n e with
  | zero => exact hn
  | succ tries ih =>
    rw [dropZeros]
    split
    · exact ih (by omega) _
    · exact hn

/-- **The shortest decimal of a number other than zero is not zero.** -/
theorem shortest_ne_zero (hs : significand ≠ 0) (unit : Nat) :
    (shortest significand unit).1 ≠ 0 := by
  rw [shortest]
  exact dropZeros_ne_zero 20 (searchGrid_ne_zero hs _ _ _) _

end Binary64

namespace Json

variable {most : Nat} {rest : Text}

/-! ## Digits -/

/-- Says that a text is made of digits. -/
def IsDigits (ds : Text) : Prop := ∀ g ∈ ds, g.isAsciiDigit = true

instance (ds : Text) : Decidable (IsDigits ds) :=
  inferInstanceAs (Decidable (∀ g ∈ ds, g.isAsciiDigit = true))

theorem isDigits_zeros (count : Nat) : IsDigits (List.replicate count (.char '0')) := by
  intro g hg
  rw [List.eq_of_mem_replicate hg]
  rfl

theorem isDigits_paddedDigits (width n : Nat) : IsDigits (Number.paddedDigits width n) :=
  Number.isAsciiDigit_of_mem_paddedDigits width n

/-- Says that a text does not begin with a digit. -/
def EndsDigits (rest : Text) : Prop := ∀ g ∈ rest.head?, g.isAsciiDigit = false

/-- Says that a text does not go on with a number that ends in front of it. -/
def EndsNumeral (rest : Text) : Prop :=
  ∀ g ∈ rest.head?, g.isAsciiDigit = false ∧ g ≠ .char '.' ∧ g.isOneOf ['e', 'E'] = false

theorem EndsNumeral.endsDigits (h : EndsNumeral rest) : EndsDigits rest := fun g hg => (h g hg).1

theorem takeDigits_append {ds : Text} (hds : IsDigits ds) (hrest : EndsDigits rest) :
    takeDigits (ds ++ rest) = (ds, rest) := by
  have htake : rest.takeWhile Glyph.isAsciiDigit = [] := by
    cases rest with
    | nil => rfl
    | cons g rest => simp [hrest g rfl]
  have hdrop : rest.dropWhile Glyph.isAsciiDigit = rest := by
    cases rest with
    | nil => rfl
    | cons g rest => simp [hrest g rfl]
  rw [takeDigits, List.takeWhile_append_of_pos hds, List.dropWhile_append_of_pos hds, htake, hdrop,
    List.append_nil]

/-! ## The parts of a numeral -/

/-- The whole part of a numeral: a zero, or digits that begin with another one. -/
inductive IsWholePart : Text → Prop
  | zero : IsWholePart [.char '0']
  | digits {g : Glyph} {ds : Text} (hg : g ≠ .char '0') (hds : IsDigits (g :: ds)) :
    IsWholePart (g :: ds)

variable {whole fraction places : Text}

theorem isWholePart_digits (n : Nat) : IsWholePart (Number.digits n) := by
  rcases Nat.eq_zero_or_pos n with rfl | hn
  · rw [Number.digits_of_lt (by decide)]
    exact .zero
  · have hhead := Number.head_digits_ne_zero hn
    have hall := Number.isAsciiDigit_of_mem_digits n
    cases hdigits : Number.digits n with
    | nil => exact absurd hdigits (Number.digits_ne_nil n)
    | cons g ds =>
      rw [hdigits] at hhead hall
      exact .digits (hhead g rfl) hall

theorem IsWholePart.exists_digit (h : IsWholePart whole) :
    ∃ g ds, whole = g :: ds ∧ g.isAsciiDigit = true := by
  cases h with
  | zero => exact ⟨_, _, rfl, rfl⟩
  | digits hg hds => exact ⟨_, _, rfl, hds _ List.mem_cons_self⟩

theorem takeWhole?_append (h : IsWholePart whole) (hrest : EndsDigits rest) :
    takeWhole? (whole ++ rest) = some (whole, rest) := by
  cases h with
  | zero => rfl
  | @digits g ds hg hds =>
    have htake := takeDigits_append hds hrest
    unfold takeWhole?
    split
    · next h => exact absurd (List.cons.inj h).1 hg
    · rw [htake]

theorem takePlaces?_eq_none (hrest : EndsNumeral rest) : takePlaces? rest = none := by
  unfold takePlaces?
  split
  · exact absurd rfl (hrest _ rfl).2.1
  · rfl

theorem takePower?_eq_none (hrest : EndsNumeral rest) : takePower? rest = none := by
  unfold takePower?
  split
  · next g more => simp [(hrest g rfl).2.2]
  · rfl

theorem takePlaces?_append (hne : places ≠ []) (h : IsDigits places) (hrest : EndsDigits rest) :
    takePlaces? (.char '.' :: (places ++ rest)) = some (places, rest) := by
  have htake := takeDigits_append h hrest
  rw [takePlaces?, htake]
  cases places with
  | nil => exact absurd rfl hne
  | cons g ds => rfl

/-- An exponent is read whatever stands behind it, but for a digit. -/
theorem exists_takePower? (e : Int) : ∃ k, ∀ rest, EndsDigits rest →
    takePower? (.char 'e' :: (Binary64.exponentText e ++ rest)) = some (k, rest) := by
  have hdigits := isDigits_paddedDigits 2 e.natAbs
  have hne : Number.paddedDigits 2 e.natAbs ≠ [] := by
    simp [Number.paddedDigits, Number.digits_ne_nil]
  rw [Binary64.exponentText]
  generalize Number.paddedDigits 2 e.natAbs = ds at hdigits hne
  obtain ⟨g, more, rfl⟩ := List.exists_cons_of_ne_nil hne
  refine ⟨Number.withSign (decide (e < 0)) (digitsValue (g :: more)), fun rest hrest => ?_⟩
  have htake := takeDigits_append hdigits hrest
  have hread : ∀ negative sign, Number.takeSign (sign :: (g :: more ++ rest)) =
      (negative, g :: more ++ rest) → takePower? (.char 'e' :: sign :: (g :: more ++ rest)) =
        some (Number.withSign negative (digitsValue (g :: more)), rest) := by
    intro negative sign hsign
    rw [takePower?, if_pos (by decide), hsign]
    dsimp only
    rw [htake]
  by_cases he : e < 0
  · rw [if_pos he, decide_eq_true he]
    exact hread true _ rfl
  · rw [if_neg he, decide_eq_false he]
    exact hread false _ rfl

/-- What stands behind the whole part of a real numeral: places, an exponent, or both. -/
inductive IsFraction : Text → Prop
  | places {places : Text} (hne : places ≠ []) (h : IsDigits places) :
    IsFraction (.char '.' :: places)
  | power (e : Int) : IsFraction (.char 'e' :: Binary64.exponentText e)
  | both {places : Text} (hne : places ≠ []) (h : IsDigits places) (e : Int) :
    IsFraction (.char '.' :: places ++ .char 'e' :: Binary64.exponentText e)

theorem IsFraction.endsDigits (h : IsFraction fraction) (rest : Text) :
    EndsDigits (fraction ++ rest) := by
  cases h <;> rintro g ⟨⟩ <;> rfl

/-- The places and the exponent behind a whole part are found whatever follows, and there is one of
them at least. -/
theorem IsFraction.exists_parts (h : IsFraction fraction) :
    ∃ (places : Option Text) (power : Option Int), (places.isSome ∨ power.isSome) ∧
      ∀ rest, EndsNumeral rest → ∃ middle,
        takePlaces? (fraction ++ rest) = places.map (·, middle) ∧
        (places = none → middle = fraction ++ rest) ∧
        takePower? middle = power.map (·, rest) ∧ (power = none → middle = rest) := by
  cases h with
  | @places places hne h =>
    refine ⟨some places, none, .inl rfl, fun rest hrest => ⟨rest, ?_, nofun, ?_, fun _ => rfl⟩⟩
    · exact takePlaces?_append hne h hrest.endsDigits
    · exact takePower?_eq_none hrest
  | power e =>
    obtain ⟨k, hk⟩ := exists_takePower? e
    exact ⟨none, some k, .inr rfl, fun rest hrest =>
      ⟨_, rfl, fun _ => rfl, hk rest hrest.endsDigits, nofun⟩⟩
  | @both places hne h e =>
    obtain ⟨k, hk⟩ := exists_takePower? e
    refine ⟨some places, some k, .inl rfl, fun rest hrest =>
      ⟨.char 'e' :: (Binary64.exponentText e ++ rest), ?_, nofun, hk rest hrest.endsDigits, nofun⟩⟩
    rw [List.append_assoc]
    exact takePlaces?_append hne h (by rintro g ⟨⟩; rfl)

/-! ## Numerals -/

/-- A text behind its sign. -/
def signed (negative : Bool) (t : Text) : Text := if negative then .char '-' :: t else t

theorem signed_append (negative : Bool) (t rest : Text) :
    signed negative t ++ rest = signed negative (t ++ rest) := by
  cases negative <;> rfl

theorem signedDigits_eq (n : Int) :
    Number.signedDigits n = signed (n < 0) (Number.digits n.natAbs) := by
  cases n with
  | ofNat n =>
    have hsign : decide (Int.ofNat n < 0) = false :=
      decide_eq_false (Int.not_lt.mpr (Int.natCast_nonneg n))
    rw [signed, hsign, if_neg Bool.false_ne_true]
    rfl
  | negSucc n =>
    rw [signed, decide_eq_true (Int.negSucc_lt_zero n), if_pos rfl]
    rfl

/-- The sign in front of a whole part is found. -/
theorem eq_of_sign {negative negative' : Bool} {behind body : Text} (hwhole : IsWholePart whole)
    (h : (match signed negative (whole ++ behind) with
      | .char '-' :: rest => (true, rest)
      | _ => (false, signed negative (whole ++ behind))) = (negative', body)) :
    negative' = negative ∧ body = whole ++ behind := by
  obtain ⟨g, ds, rfl, hdigit⟩ := hwhole.exists_digit
  cases negative with
  | true =>
    obtain ⟨rfl, rfl⟩ := Prod.mk.inj h
    exact ⟨rfl, rfl⟩
  | false =>
    rw [signed, if_neg Bool.false_ne_true, List.cons_append] at h
    split at h
    · next hminus =>
      obtain ⟨rfl, -⟩ := List.cons.inj hminus
      cases hdigit
    · obtain ⟨rfl, rfl⟩ := Prod.mk.inj h
      exact ⟨rfl, rfl⟩

/-- **A whole number is read back.** -/
theorem readNumber_signedDigits {n : Int} (hlen : (Number.digits n.natAbs).length ≤ most)
    (hrest : EndsNumeral rest) :
    readNumber most (Number.signedDigits n ++ rest) = .ok (.whole n, rest) := by
  have hvalue : digitsValue (Number.digits n.natAbs) = n.natAbs := Number.digitValues_digits _
  have hwhole := isWholePart_digits n.natAbs
  rw [signedDigits_eq, signed_append]
  unfold readNumber
  split
  next negative body hsign =>
  obtain ⟨rfl, rfl⟩ := eq_of_sign hwhole hsign
  rw [takeWhole?_append hwhole hrest.endsDigits]
  dsimp only
  rw [takePlaces?_eq_none hrest]
  dsimp only [Option.elim]
  rw [takePower?_eq_none hrest]
  dsimp only
  have hback : Number.withSign (n < 0) n.natAbs = n := by
    rw [Number.withSign]
    split
    · next hneg =>
      rw [decide_eq_true_eq] at hneg
      omega
    · next hneg =>
      rw [decide_eq_true_eq] at hneg
      omega
  rw [if_neg (Nat.not_lt.mpr hlen), hvalue, hback]

/-- **A whole part with places or an exponent is read as a real number.** -/
theorem exists_readNumber (hwhole : IsWholePart whole) (hfraction : IsFraction fraction)
    (negative : Bool) : ∃ x, ∀ most rest, EndsNumeral rest →
      readNumber most (signed negative (whole ++ (fraction ++ rest))) = .ok (.real x, rest) := by
  obtain ⟨places, power, hsome, hparts⟩ := hfraction.exists_parts
  refine ⟨.ofDecimal negative (digitsValue (whole ++ places.getD []))
    (power.getD 0 - (places.elim 0 List.length : Nat)), fun most rest hrest => ?_⟩
  obtain ⟨middle, hplaces, hmiddle, hpower, hend⟩ := hparts rest hrest
  unfold readNumber
  split
  next negative body hsign =>
  obtain ⟨rfl, rfl⟩ := eq_of_sign hwhole hsign
  rw [takeWhole?_append hwhole (hfraction.endsDigits rest)]
  dsimp only
  rw [hplaces]
  cases places with
  | none =>
    obtain rfl := hmiddle rfl
    dsimp only [Option.map, Option.elim]
    rw [hpower]
    cases power with
    | none => simp at hsome
    | some k => rfl
  | some places =>
    dsimp only [Option.map, Option.elim]
    rw [hpower]
    cases power with
    | none =>
      obtain rfl := hend rfl
      rfl
    | some k => rfl

/-! ## Binary numbers in writing -/

/-- **A decimal other than zero is laid out as a whole part with places or an exponent.** -/
theorem exists_parts_layOut (notn : Binary64.Notation) {n : Nat} (hn : n ≠ 0) (e : Int) :
    ∃ whole fraction, Binary64.layOut notn n e = whole ++ fraction ∧ IsWholePart whole ∧
      IsFraction fraction := by
  have hhead := Number.head_digits_ne_zero (Nat.pos_of_ne_zero hn)
  have hall := Number.isAsciiDigit_of_mem_digits n
  obtain ⟨d, ds, hdigits⟩ := List.exists_cons_of_ne_nil (Number.digits_ne_nil n)
  rw [hdigits] at hhead hall
  have hd : d ≠ .char '0' := hhead d rfl
  unfold Binary64.layOut
  rw [hdigits]
  dsimp only
  split
  · split
    · -- Below one.
      refine ⟨[.char '0'], .char '.' :: (List.replicate _ (.char '0') ++ d :: ds), rfl, .zero,
        .places (by simp) (fun g hg => ?_)⟩
      rcases List.mem_append.mp hg with hg | hg
      · exact isDigits_zeros _ g hg
      · exact hall g hg
    · next hpoint =>
      obtain ⟨count, hcount⟩ : ∃ count, (((d :: ds).length : Int) + e).toNat = count + 1 :=
        Nat.exists_eq_succ_of_ne_zero (by omega)
      rw [hcount]
      split
      · -- The point lies between two digits.
        next hlt =>
        refine ⟨d :: ds.take count, .char '.' :: ds.drop count, rfl, .digits hd ?_, .places ?_ ?_⟩
        · exact fun g hg => hall g (List.mem_of_mem_take (i := count + 1) hg)
        · rw [Ne, List.drop_eq_nil_iff]
          simp only [List.length_cons] at hlt hcount
          omega
        · exact fun g hg => hall g (List.mem_cons_of_mem d (List.mem_of_mem_drop hg))
      · refine ⟨d :: ds ++ List.replicate _ (.char '0'), [.char '.', .char '0'], rfl,
          .digits hd (List.forall_mem_append.mpr ⟨hall, isDigits_zeros _⟩),
          .places (List.cons_ne_nil _ _) (isDigits_zeros 1)⟩
  · cases ds with
    | nil => exact ⟨[d], _, rfl, .digits hd hall, .power _⟩
    | cons d' ds =>
      obtain ⟨hfirst, hmore⟩ := List.forall_mem_cons.mp hall
      exact ⟨[d], .char '.' :: (d' :: ds) ++ .char 'e' :: Binary64.exponentText _, rfl,
        .digits hd (by simpa [IsDigits] using hfirst), .both (List.cons_ne_nil _ _) hmore _⟩

/-! ## Simple values -/

/-- None of the names begins with a digit. -/
theorem dropWord?_digit {g : Glyph} (hg : g.isAsciiDigit = true) (more : Text) :
    ∀ p ∈ names, dropWord? p.1 (g :: more) = none := by
  have hne : ∀ c : Char, c.isDigit = false → Glyph.char c ≠ g :=
    fun c hc => (Glyph.ne_of_isAsciiDigit hg hc).symm
  simp [names, dropWord?, Text.of, hne 'n' rfl, hne 't' rfl, hne 'f' rfl, hne 'N' rfl, hne 'I' rfl,
    hne '-' rfl]

/-- Nor does one begin with a digit behind a sign. -/
theorem dropWord?_minus {g : Glyph} (hg : g.isAsciiDigit = true) (more : Text) :
    ∀ p ∈ names, dropWord? p.1 (.char '-' :: g :: more) = none := by
  have hne : Glyph.char 'I' ≠ g := (Glyph.ne_of_isAsciiDigit hg rfl).symm
  simp [names, dropWord?, Text.of, hne]

theorem firstM_eq_none {α β : Type} {f : α → Option β} {xs : List α}
    (h : ∀ x ∈ xs, f x = none) : xs.firstM f = none := by
  induction xs with
  | nil => rfl
  | cons x xs ih =>
    obtain ⟨hx, hxs⟩ := List.forall_mem_cons.mp h
    rw [List.firstM, hx]
    exact ih hxs

/-- What begins with a digit, behind a sign or without one, is no name. -/
theorem readSimple_signed (hwhole : IsWholePart whole) (negative : Bool) (behind : Text) :
    readSimple most (signed negative (whole ++ behind)) =
      readNumber most (signed negative (whole ++ behind)) := by
  obtain ⟨g, ds, rfl, hg⟩ := hwhole.exists_digit
  have hnone : ∀ p ∈ names, dropWord? p.1 (signed negative (g :: ds ++ behind)) = none := by
    cases negative with
    | true => exact dropWord?_minus hg _
    | false => exact dropWord?_digit hg _
  rw [readSimple, firstM_eq_none fun p hp => by rw [hnone p hp]; rfl]

theorem readSimple_signedDigits {n : Int} (hlen : (Number.digits n.natAbs).length ≤ most)
    (hrest : EndsNumeral rest) :
    readSimple most (Number.signedDigits n ++ rest) = .ok (.whole n, rest) := by
  rw [← readNumber_signedDigits hlen hrest, signedDigits_eq, signed_append,
    readSimple_signed (isWholePart_digits _)]

theorem readSimple_null : readSimple most (Text.of "null" ++ rest) = .ok (.null, rest) := rfl

theorem readSimple_flag (b : Bool) :
    readSimple most (Text.of (if b then "true" else "false") ++ rest) = .ok (.flag b, rest) := by
  cases b <;> rfl

end Json
end QueryDesk
