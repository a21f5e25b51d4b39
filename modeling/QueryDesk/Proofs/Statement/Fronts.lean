import QueryDesk.Proofs.Statement.Limit
import QueryDesk.Proofs.Statement.Clauses
import QueryDesk.Proofs.Text.Extended

/-!
# Fronts of statements

What stands between the beginning of a statement and its columns is its *front*: no clause begins
there that is looked for in the whole statement (`IsFront`).  Behind any front a text has the same
conditions, sort order and `LIMIT` (`IsFront.predicates_eq`, `IsFront.sort?_eq`), so fronts may
stand for each other.

`SELECT TOP` with a row count behind it is a front in both of its spellings (`isFront_top`), and
gives the statement its row limit if no `LIMIT` does (`rowLimit_top`).
-/

set_option autoImplicit false

namespace QueryDesk

/-! ## Digits -/

namespace Glyph

theorem mem_of_isAsciiDigit {g : Glyph} (h : g.isAsciiDigit = true) :
    g ∈ Text.of "0123456789" := by
  obtain ⟨hlow, hhigh⟩ := code_of_isAsciiDigit h
  cases g with
  | lone half => cases h
  | char c =>
    rw [code] at hlow hhigh
    rw [← Char.ofNat_toNat c]
    generalize c.toNat = code at hlow hhigh
    interval_cases code <;> decide

/-- No keyword of a clause begins with a digit. -/
theorem agrees_of_isAsciiDigit {g : Glyph} (h : g.isAsciiDigit = true) {c : Char}
    (hc : c ∈ ['l', 'o', 't', 'w']) : g.agrees c = false := by
  have hdigits : ∀ g ∈ Text.of "0123456789", ∀ c ∈ ['l', 'o', 't', 'w'], g.agrees c = false := by
    decide
  exact hdigits g (mem_of_isAsciiDigit h) c hc

end Glyph

namespace Literal

variable {t : Text}

/-- A text without quotes is its own mask, and no literal is open behind it. -/
theorem mask_of_unquoted (h : ∀ g ∈ t, isQuote g = false) (u : Text) :
    mask (t ++ u) = t ++ mask u := by
  induction t with
  | nil => rfl
  | cons g t ih =>
    rw [List.cons_append, mask_cons_of_not_isQuote (h g List.mem_cons_self),
      ih fun a ha => h a (List.mem_cons_of_mem g ha), List.cons_append]

theorem mask_eq_self (h : ∀ g ∈ t, isQuote g = false) : mask t = t := by
  have hmask := mask_of_unquoted h []
  rwa [List.append_nil, show mask [] = [] from rfl, List.append_nil] at hmask

end Literal

namespace Statement

open Literal (mask)
open Place (lastGlyph)

variable {front front' t n : Text}

/-! ## Clauses behind a front -/

/-- The text of the conditions that are found behind a place of the mask. -/
def whereFrom? (t : Text) (p : Place) : Option Text := do
  let first ← p.firstMatch whereStart?
  let second ← first.next?
  let last ← second.firstMatch whereEnd?
  let clause := ((between t first last).trim.dropEndWhile (· = .char ';')).trim
  if clause.isEmpty then none else some clause

theorem whereText?_eq (statement : Text) :
    whereText? statement = whereFrom? statement (.start (mask statement)) := rfl

theorem between_append_left {first last : Place} (h : first.rest.length ≤ t.length)
    (front : Text) : between (front ++ t) first last = between t first last := by
  have hdrop : (front ++ t).length - first.rest.length =
      front.length + (t.length - first.rest.length) := by
    rw [List.length_append]
    omega
  rw [between, between, hdrop, ← List.drop_drop, List.drop_left]

theorem length_le_of_whereStart? {p q : Place} (h : whereStart? p = some q) :
    q.rest.length ≤ p.rest.length := by
  simp only [whereStart?, Option.bind_eq_bind, Option.bind_eq_some_iff] at h
  obtain ⟨a, ha, b, hb, c, hc, hq⟩ := h
  split at hq
  · cases hq
  · cases hq
    have hedge := (Place.suffix_of_edge? ha).length_le
    have hword := Place.length_le_of_word? hb
    have hblanks := Place.length_lt_of_blanks1? hc
    omega

/-- What stands in front of the text in which conditions are looked for does not matter. -/
theorem whereFrom?_append_left {p : Place} (h : p.rest.length ≤ t.length) (front : Text) :
    whereFrom? (front ++ t) p = whereFrom? t p := by
  cases hfirst : p.firstMatch whereStart? with
  | none => simp only [whereFrom?, hfirst, Option.bind_eq_bind, Option.bind_none]
  | some first =>
    have hle := Place.length_le_of_firstMatch (fun _ _ => length_le_of_whereStart?) hfirst
    simp only [whereFrom?, hfirst, Option.bind_eq_bind, Option.bind_some,
      between_append_left (hle.trans h)]

/-- Says that a text without quotes ends in a blank, and that no clause begins in it but a
`SELECT TOP`. -/
structure IsFront (front : Text) : Prop where
  unquoted : ∀ g ∈ front, Literal.isQuote g = false
  ended : lastGlyph none front = some (.char ' ')
  whereStart : Place.Avoids whereStart? none front
  sortKey : Place.Avoids sortKey? none front
  limit : Place.Avoids limit? none front

theorem isFront_select : IsFront (Text.of "SELECT ") where
  unquoted := by decide
  ended := rfl
  whereStart := by repeat first | exact trivial | refine ⟨fun _ => rfl, ?_⟩
  sortKey := by repeat first | exact trivial | refine ⟨fun _ => rfl, ?_⟩
  limit := by repeat first | exact trivial | refine ⟨fun _ => rfl, ?_⟩

/-- A search passes over a front. -/
theorem IsFront.firstMatch_eq {α : Type} {recognise : Place → Option α} (h : IsFront front)
    (havoids : Place.Avoids recognise none front) (t : Text) :
    (Place.start (mask (front ++ t))).firstMatch recognise =
      Place.firstMatch recognise ⟨some (.char ' '), mask t⟩ := by
  rw [Place.start, Literal.mask_of_unquoted h.unquoted, Place.firstMatch_append havoids, h.ended]

theorem IsFront.whereText?_eq (h : IsFront front) (t : Text) :
    whereText? (front ++ t) = whereFrom? t ⟨some (.char ' '), mask t⟩ := by
  have hlength : (mask t).length ≤ t.length := Nat.le_of_eq (Literal.length_mask t)
  rw [← whereFrom?_append_left hlength front, Statement.whereText?_eq, whereFrom?, whereFrom?,
    h.firstMatch_eq h.whereStart]

/-- **Behind any front a text asks for the same predicates.** -/
theorem IsFront.predicates_eq (h : IsFront front) (h' : IsFront front') (t : Text) :
    predicates (front ++ t) = predicates (front' ++ t) := by
  rw [predicates, predicates, h.whereText?_eq, h'.whereText?_eq]

/-- **Behind any front a text has the same sort order.** -/
theorem IsFront.sort?_eq (h : IsFront front) (h' : IsFront front') (t : Text) :
    sort? (front ++ t) = sort? (front' ++ t) := by
  rw [sort?, sort?, h.firstMatch_eq h.sortKey, h'.firstMatch_eq h'.sortKey]

/-! ## Row counts -/

/-- The number that a row count stands for. -/
def rowCount (n : Text) : Nat := Number.ofDigitValues (n.map fun g => g.code - 48)

theorem readWhole_of_isRowCount (hn : IsRowCount n) :
    Number.readWhole n = .read (rowCount n) := by
  rw [Number.readWhole_of_isAsciiDigit hn.1 hn.2.2, if_neg (Nat.not_lt.mpr hn.2.1), rowCount]

theorem readLimit_of_isRowCount (hn : IsRowCount n) (form : LimitForm) :
    readLimit form n = .ok ⟨rowCount n, form⟩ := by
  rw [readLimit_of_isAsciiDigit hn.1 hn.2.2, if_neg (Nat.not_lt.mpr hn.2.1), rowCount]

/-- A value that is a row count is the row limit. -/
theorem exists_rowLimit_eq {statement : Text} (h : limitText? statement = some n)
    (hn : IsRowCount n) : ∃ form, rowLimit statement = .ok (some ⟨rowCount n, form⟩) := by
  rw [limitText?] at h
  rw [rowLimit]
  cases hlimit : (Place.start (mask statement)).firstMatch limit? with
  | some found =>
    rw [hlimit, Option.some_or, Option.map_some, Option.some.injEq] at h
    refine ⟨.limit, ?_⟩
    simp only [h, readLimit_of_isRowCount hn]
    rfl
  | none =>
    cases htop : (Place.start (mask statement)).firstMatch top? with
    | some found =>
      rw [hlimit, htop, Option.none_or, Option.map_some, Option.some.injEq] at h
      refine ⟨.top, ?_⟩
      simp only [h, readLimit_of_isRowCount hn]
      rfl
    | none =>
      rw [hlimit, htop] at h
      cases h

theorem IsRowCount.head?_digit (hn : IsRowCount n) {g : Glyph} (h : g ∈ (n ++ t).head?) :
    g.isAsciiDigit = true := by
  rw [List.head?_append_of_ne_nil _ hn.1] at h
  exact hn.2.2 g (List.mem_of_head? h)

/-- The value of a row limit ends where the row count does. -/
theorem limitValue?_of_isRowCount (hn : IsRowCount n)
    (ht : ∀ g ∈ t.head?, isLimitGlyph g = false) (before : Option Glyph) :
    limitValue? ⟨before, n ++ t⟩ = some (⟨before, n ++ t⟩, ⟨lastGlyph before n, t⟩) := by
  have hdigits : ∀ g ∈ Text.of "0123456789", isLimitGlyph g = true := by decide
  rw [limitValue?, Place.span1?_append hn.1
    (fun g hg => hdigits g (Glyph.mem_of_isAsciiDigit (hn.2.2 g hg))) ht]
  rfl

/-! ## Fronts with a row limit -/

/-- What stands in front of the row count of a `SELECT TOP` and behind it, in its two spellings. -/
def topSpellings : List (Text × Text) :=
  [(Text.of "SELECT TOP ", Text.of " "), (Text.of "SELECT TOP (", Text.of ") ")]

variable {spelling : Text × Text}

theorem avoids_of_mem_topSpellings (h : spelling ∈ topSpellings) :
    Place.Avoids whereStart? none spelling.1 ∧ Place.Avoids sortKey? none spelling.1 ∧
      Place.Avoids limit? none spelling.1 := by
  simp only [topSpellings, List.mem_cons, List.not_mem_nil, or_false] at h
  rcases h with rfl | rfl <;> refine ⟨?_, ?_, ?_⟩ <;>
    repeat first | exact trivial | refine ⟨fun _ => rfl, ?_⟩

/-- **A `SELECT TOP` with its row count is a front.** -/
theorem isFront_top (h : spelling ∈ topSpellings) (hn : IsRowCount n) :
    IsFront (spelling.1 ++ (n ++ spelling.2)) := by
  have hsigns : ∀ spelling ∈ topSpellings, (∀ g ∈ spelling.1, Literal.isQuote g = false) ∧
      ∀ g ∈ spelling.2, Literal.isQuote g = false ∧
        ∀ c ∈ ['l', 'o', 't', 'w'], g.agrees c = false := by decide
  have hdigits : ∀ g ∈ Text.of "0123456789", Literal.isQuote g = false := by decide
  have hrest : ∀ c ∈ ['l', 'o', 't', 'w'], ∀ g ∈ n ++ spelling.2, g.agrees c = false := by
    intro c hc g hg
    rcases List.mem_append.mp hg with hg | hg
    · exact Glyph.agrees_of_isAsciiDigit (hn.2.2 g hg) hc
    · exact ((hsigns spelling h).2 g hg).2 c hc
  obtain ⟨hwhere, hsort, hlimit⟩ := avoids_of_mem_topSpellings h
  refine ⟨fun g hg => ?_, ?_, hwhere.append ?_, hsort.append ?_, hlimit.append ?_⟩
  · rcases List.mem_append.mp hg with hg | hg
    · exact (hsigns spelling h).1 g hg
    · rcases List.mem_append.mp hg with hg | hg
      · exact hdigits g (Glyph.mem_of_isAsciiDigit (hn.2.2 g hg))
      · exact ((hsigns spelling h).2 g hg).1
  · have hblank : ∀ spelling ∈ topSpellings, spelling.2.getLast? = some (.char ' ') := by decide
    rw [Place.lastGlyph_append, Place.lastGlyph_append, lastGlyph, hblank spelling h,
      Option.some_or]
  · exact Place.avoids_keyword (hrest 'w' (by decide)) _
  · exact Place.avoids_keyword (hrest 'o' (by decide)) _
  · exact Place.avoids_keyword (hrest 'l' (by decide)) _

/-- The value of a `SELECT TOP` is found behind it, in both spellings. -/
theorem top?_of_limitValue? (h : spelling ∈ topSpellings) {u v : Text}
    (hu : ∀ g ∈ u.head?, g.isBlank = false ∧ g.isOneOf ['('] = false)
    (hvalue : ∀ before, ∃ last,
      limitValue? ⟨before, u⟩ = some (⟨before, u⟩, last) ∧ last.rest = v) :
    ∃ first last : Place, top? (.start (spelling.1 ++ u)) = some (first, last) ∧
      first.rest = u ∧ last.rest = v := by
  simp only [topSpellings, List.mem_cons, List.not_mem_nil, or_false] at h
  rcases h with rfl | rfl
  · have hform : top? (.start (Text.of "SELECT TOP " ++ u)) =
        (((Place.blanks ⟨some (.char 'P'), [.char ' '] ++ u⟩).sign? ['(']).bind
          fun q => limitValue? q.blanks).or
            (limitValue? (Place.blanks ⟨some (.char 'P'), [.char ' '] ++ u⟩)) := rfl
    have hblanks : Place.blanks ⟨some (.char 'P'), [.char ' '] ++ u⟩ = ⟨some (.char ' '), u⟩ :=
      Place.blanks_append (by decide) (fun g hg => (hu g hg).1) _
    have hsign : Place.sign? ['('] ⟨some (.char ' '), u⟩ = none := by
      cases u with
      | nil => rfl
      | cons g u => exact if_neg (by rw [(hu g rfl).2]; exact Bool.false_ne_true)
    obtain ⟨last, hlast, hrest⟩ := hvalue (some (.char ' '))
    refine ⟨⟨some (.char ' '), u⟩, last, ?_, rfl, hrest⟩
    rw [hform, hblanks, hsign, Option.bind_none, Option.none_or, hlast]
  · have hform : top? (.start (Text.of "SELECT TOP (" ++ u)) =
        (limitValue? (Place.blanks ⟨some (.char '('), u⟩)).or
          (limitValue? ⟨some (.char ' '), .char '(' :: u⟩) := rfl
    have hblanks : Place.blanks ⟨some (.char '('), u⟩ = ⟨some (.char '('), u⟩ :=
      Place.blanks_append (List.forall_mem_nil (Glyph.isBlank · = true)) (fun g hg => (hu g hg).1) _
    obtain ⟨last, hlast, hrest⟩ := hvalue (some (.char '('))
    refine ⟨⟨some (.char '('), u⟩, last, ?_, rfl, hrest⟩
    rw [hform, hblanks, hlast, Option.some_or]

/-- **A `SELECT TOP` with a row count limits the rows, unless a `LIMIT` does.** -/
theorem rowLimit_top (h : spelling ∈ topSpellings) (hn : IsRowCount n) {t : Text}
    (hlimit : Place.firstMatch limit? ⟨some (.char ' '), mask t⟩ = none) :
    rowLimit (spelling.1 ++ (n ++ spelling.2) ++ t) = .ok (some ⟨rowCount n, .top⟩) := by
  have hfront := isFront_top h hn
  have hdigits : ∀ g ∈ Text.of "0123456789",
      g.isBlank = false ∧ g.isOneOf ['('] = false := by decide
  have hend : ∀ spelling ∈ topSpellings,
      spelling.2 ≠ [] ∧ ∀ g ∈ spelling.2.head?, isLimitGlyph g = false := by decide
  have hvalue := limitValue?_of_isRowCount hn (t := spelling.2 ++ mask t) fun g hg => by
    rw [List.head?_append_of_ne_nil _ (hend spelling h).1] at hg
    exact (hend spelling h).2 g hg
  obtain ⟨first, last, htop, hfirst, hlast⟩ :
      ∃ first last, top? (.start (spelling.1 ++ (n ++ (spelling.2 ++ mask t)))) =
        some (first, last) ∧ first.rest = n ++ (spelling.2 ++ mask t) ∧
          last.rest = spelling.2 ++ mask t :=
    top?_of_limitValue? h
      (fun g hg => hdigits g (Glyph.mem_of_isAsciiDigit (hn.head?_digit hg)))
      fun before => ⟨_, hvalue before, rfl⟩
  have hmask : mask (spelling.1 ++ (n ++ spelling.2) ++ t) =
      spelling.1 ++ (n ++ (spelling.2 ++ mask t)) := by
    rw [Literal.mask_of_unquoted hfront.unquoted, List.append_assoc, List.append_assoc]
  have hbetween : between (spelling.1 ++ (n ++ (spelling.2 ++ t))) first last = n := by
    refine between_append ?_ ?_
    · rw [hfirst]
      simp only [List.length_append, Literal.length_mask]
    · rw [hlast, List.length_append, List.length_append, Literal.length_mask]
  have hnone := hfront.firstMatch_eq hfront.limit t
  rw [hlimit] at hnone
  rw [rowLimit, hnone, hmask, Place.firstMatch_of_match htop]
  simp only [List.append_assoc, hbetween, readLimit_of_isRowCount hn]
  rfl

end Statement
end QueryDesk
