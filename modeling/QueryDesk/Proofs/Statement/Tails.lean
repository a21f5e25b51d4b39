import QueryDesk.Proofs.Condition.Signs
import QueryDesk.Proofs.Statement.Fronts

/-!
# A row limit at the end

A `LIMIT` with a row count may be put behind a statement whose literals are all closed, a blank
between them.  If no `LIMIT` stands in the statement yet, this gives it the row limit
(`rowLimit_tail`).  All else that the statement asks for stays (`predicates_tail`, `sort?_tail`),
with one exception: a statement may end in a `WHERE` or an `ORDER BY` with nothing behind it, and
then the `LIMIT` itself becomes its conditions or the column to sort by.  As conditions it asks for
nothing.
-/

set_option autoImplicit false

namespace QueryDesk

open Place (lastGlyph extend)

namespace Statement

open Literal (mask)

variable {front n t : Text} {p q : Place}

/-! ## The tail -/

/-- A `LIMIT` with its value. -/
def limitClause (n : Text) : Text := Text.of "LIMIT " ++ n

/-- A blank and a `LIMIT` with its value. -/
def limitTail (n : Text) : Text := .char ' ' :: limitClause n

/-- The letters of the keywords of clauses. -/
def keywordLetters : List Char := "bdehilmoprtwy".toList

theorem head?_limitTail {g : Glyph} (h : g ∈ (limitTail n).head?) :
    g.isWord = false ∧ ∀ c ∈ keywordLetters, g.agrees c = false := by
  cases h
  decide

theorem edge?_tail (p : Place) :
    (p.extend (limitTail n)).edge? = p.edge?.map (extend (limitTail n)) :=
  Place.edge?_extend (fun _ hg => (head?_limitTail hg).1) p

theorem word?_tail {word : List Char}
    (hword : ∀ c ∈ word, c ∈ keywordLetters) (p : Place) :
    (p.extend (limitTail n)).word? word = (p.word? word).map (extend (limitTail n)) :=
  Place.word?_extend (fun _ hg c hc => (head?_limitTail hg).2 c (hword c hc)) p

theorem span1?_tail (p : Place) (n : Text) :
    (p.extend (limitTail n)).span1? Glyph.isWord =
      (p.span1? Glyph.isWord).map fun found => (found.1, found.2.extend (limitTail n)) :=
  Place.span1?_extend fun _ _ hg => (head?_limitTail hg).1

/-- Blanks that reach the end of a text go on up to the clause, others end where they ended. -/
theorem blanks1?_tail (p : Place) (n : Text) :
    ((∀ g ∈ p.rest, g.isBlank = true) ∧
      (p.extend (limitTail n)).blanks1? = some ⟨some (.char ' '), limitClause n⟩ ∧
        ∀ q, p.blanks1? = some q → q.rest = []) ∨
      ((p.extend (limitTail n)).blanks1? = p.blanks1?.map (extend (limitTail n)) ∧
        ∀ q, p.blanks1? = some q → q.rest ≠ []) := by
  by_cases hblank : ∀ g ∈ p.rest, g.isBlank = true
  · refine .inl ⟨hblank, Place.blanks1?_extend_of_forall hblank (by decide) ?_, fun q hq => ?_⟩
    · rintro g ⟨⟩
      decide
    · exact (Place.rest_of_blanks1? hq).trans (List.dropWhile_eq_nil_iff.mpr hblank)
  · exact .inr (Place.blanks1?_extend hblank _)

/-! ## Conditions -/

theorem whereStart?_tail (h : whereStart? p = some q) :
    whereStart? (p.extend (limitTail n)) = some (q.extend (limitTail n)) ∧ q.rest ≠ [] := by
  simp only [whereStart?, Option.bind_eq_bind, Option.bind_eq_some_iff] at h
  obtain ⟨a, ha, b, hb, c, hc, hq⟩ := h
  split at hq
  · cases hq
  · next hne =>
    cases hq
    rw [List.isEmpty_iff] at hne
    have hext : ¬ (q.extend (limitTail n)).rest.isEmpty = true := by
      rw [List.isEmpty_iff]
      exact List.append_ne_nil_of_left_ne_nil hne _
    have hletters : ∀ c ∈ "where".toList, c ∈ keywordLetters := by decide
    simp only [whereStart?, Option.bind_eq_bind, edge?_tail, ha, Option.map_some, Option.bind_some,
      word?_tail hletters, hb, Place.blanks1?_extend_of_ne_nil hc hne, if_neg hext]
    exact ⟨trivial, hne⟩

/-- A `WHERE` at the very end begins conditions where the tail does. -/
theorem whereStart?_late (h : whereStart? p = none)
    (h' : whereStart? (p.extend (limitTail n)) = some q) :
    q = ⟨some (.char ' '), limitClause n⟩ ∧ p.firstMatch whereStart? = none := by
  simp only [whereStart?, Option.bind_eq_bind, edge?_tail, Option.bind_eq_some_iff,
    Option.map_eq_some_iff] at h'
  obtain ⟨_, ⟨a, ha, rfl⟩, b', hb', c', hc', hq⟩ := h'
  rw [word?_tail (by decide), Option.map_eq_some_iff] at hb'
  obtain ⟨b, hb, rfl⟩ := hb'
  -- The blanks behind the keyword are cut short by the end, or the `WHERE` was found before.
  rcases blanks1?_tail b n with ⟨hblank, htail, -⟩ | ⟨hmap, hne⟩
  · have hblanks : ∀ g ∈ b.rest, g.agrees 'w' = false :=
      fun g hg => Glyph.agrees_of_isBlank (by decide) (hblank g hg)
    have hletters : ∀ c ∈ "here".toList, ∀ g : Glyph, g.agrees c = true → g.agrees 'w' = false := by
      have husual : ∀ c ∈ "here".toList, Glyph.isUsual c = true ∧ c ≠ 'w' := by decide
      exact fun c hc g hg => Glyph.agrees_eq_false (husual c hc).1 (by decide) (husual c hc).2 hg
    obtain ⟨g, u, hrest, -, hu⟩ := Place.exists_of_word?_cons_eq_some hb
    rw [Place.eq_of_edge? ha] at hrest
    rw [htail] at hc'
    cases hc'
    refine ⟨(Option.some.inj hq).symm, Place.firstMatch_keyword_eq_none (c := 'w') h ?_⟩
    rw [hrest]
    exact Place.forall_of_word? hu hletters hblanks
  · rw [hmap, Option.map_eq_some_iff] at hc'
    obtain ⟨c, hc, rfl⟩ := hc'
    have hsome : whereStart? p = some c := by
      simp only [whereStart?, Option.bind_eq_bind, ha, Option.bind_some, hb, hc]
      exact if_neg (by rw [List.isEmpty_iff]; exact hne c hc)
    rw [h] at hsome
    cases hsome

/-- Recognises a word that goes on at neither end. -/
def wholeWord? (word : List Char) (p : Place) : Option Place :=
  p.edge?.bind fun p => (p.word? word).bind Place.edge?

theorem wholeWord?_tail {word : List Char}
    (hword : ∀ c ∈ word, c ∈ keywordLetters) (p : Place) :
    wholeWord? word (p.extend (limitTail n)) = (wholeWord? word p).map (extend (limitTail n)) := by
  rw [wholeWord?, wholeWord?, edge?_tail]
  cases p.edge? with
  | none => rfl
  | some a =>
    rw [Option.map_some, Option.bind_some, Option.bind_some, word?_tail hword]
    cases a.word? word with
    | none => rfl
    | some b => exact edge?_tail b

/-- Recognises the keywords of a sort order. -/
def orderBy? (p : Place) : Option Place :=
  p.edge?.bind fun p => (p.word? "order".toList).bind fun p => p.blanks1?.bind fun p =>
    (p.word? "by".toList).bind Place.edge?

theorem whereEnd?_eq (p : Place) : whereEnd? p =
    if (orderBy? p).isSome || (wholeWord? "limit".toList p).isSome ||
      (wholeWord? "top".toList p).isSome || p.rest.isEmpty then some p else none := rfl

theorem eq_of_whereEnd? (h : whereEnd? p = some q) : q = p := by
  rw [whereEnd?_eq] at h
  split at h
  · exact (Option.some.inj h).symm
  · cases h

theorem isSome_orderBy?_tail (p : Place) (n : Text) :
    (orderBy? (p.extend (limitTail n))).isSome = (orderBy? p).isSome := by
  rw [orderBy?, orderBy?, edge?_tail]
  cases p.edge? with
  | none => rfl
  | some a =>
    rw [Option.map_some, Option.bind_some, Option.bind_some, word?_tail (by decide)]
    cases a.word? "order".toList with
    | none => rfl
    | some b =>
      rw [Option.map_some, Option.bind_some, Option.bind_some]
      rcases blanks1?_tail b n with ⟨-, htail, hend⟩ | ⟨hmap, -⟩
      · rw [htail]
        cases hc : b.blanks1? with
        | none => rfl
        | some c =>
          have hby : c.word? "by".toList = none := by
            rcases c with ⟨before, rest⟩
            rw [show rest = [] from hend _ hc]
            rfl
          rw [Option.bind_some, Option.bind_some, hby]
          rfl
      · rw [hmap]
        cases b.blanks1? with
        | none => rfl
        | some c =>
          rw [Option.map_some, Option.bind_some, Option.bind_some, word?_tail (by decide)]
          cases c.word? "by".toList with
          | none => rfl
          | some d =>
            rw [Option.map_some, Option.bind_some, Option.bind_some, edge?_tail, Option.isSome_map]

/-- Where a text goes on, the end of its conditions is found there with the tail or without it. -/
theorem whereEnd?_tail (hne : p.rest ≠ []) :
    whereEnd? (p.extend (limitTail n)) = (whereEnd? p).map (extend (limitTail n)) := by
  have hempty : (p.extend (limitTail n)).rest.isEmpty = p.rest.isEmpty := by
    rw [List.isEmpty_eq_false_iff.mpr hne, List.isEmpty_eq_false_iff.mpr]
    exact List.append_ne_nil_of_left_ne_nil hne _
  rw [whereEnd?_eq, whereEnd?_eq, isSome_orderBy?_tail, wholeWord?_tail (by decide),
    wholeWord?_tail (by decide), Option.isSome_map, Option.isSome_map, hempty]
  split <;> rfl

/-- Conditions end where they ended, or where the clause of the tail begins. -/
theorem firstMatch_whereEnd?_tail (p : Place) (n : Text) :
    ∃ last, p.firstMatch whereEnd? = some last ∧ last.rest.length ≤ p.rest.length ∧
      (p.extend (limitTail n)).firstMatch whereEnd? =
        some (if last.rest = [] then ⟨some (.char ' '), limitClause n⟩
          else last.extend (limitTail n)) := by
  rcases p with ⟨before, rest⟩
  induction rest generalizing before with
  | nil =>
    have hblank : ∀ inWord, staysClear inWord [.char ' '] = true := by decide
    have hskip := Place.firstMatch_append (avoids_of_forall hblank before) (limitClause n)
    exact ⟨⟨before, []⟩, Place.firstMatch_of_match (if_pos (Bool.or_true _)), Nat.le_refl _, hskip⟩
  | cons g rest ih =>
    have htail := whereEnd?_tail (n := n) (p := ⟨before, g :: rest⟩) (List.cons_ne_nil _ _)
    cases hend : whereEnd? ⟨before, g :: rest⟩ with
    | some last =>
      obtain rfl := eq_of_whereEnd? hend
      rw [hend] at htail
      refine ⟨_, Place.firstMatch_of_match hend, Nat.le_refl _, ?_⟩
      rw [if_neg (List.cons_ne_nil _ _)]
      exact Place.firstMatch_of_match htail
    | none =>
      rw [hend] at htail
      obtain ⟨last, hlast, hle, hext⟩ := ih (some g)
      refine ⟨last, ?_, Nat.le_succ_of_le hle, ?_⟩
      · rw [Place.firstMatch_cons, hend, Option.none_or, hlast]
      · show Place.firstMatch whereEnd? ⟨before, g :: (rest ++ limitTail n)⟩ = _
        have hnone : whereEnd? ⟨before, g :: (rest ++ limitTail n)⟩ = none := htail
        rw [Place.firstMatch_cons, hnone, Option.none_or]
        exact hext

theorem exists_splits {a b : Nat} (ha : a ≤ t.length) (hb : b ≤ a) :
    ∃ x u v : Text, t = x ++ (u ++ v) ∧ (u ++ v).length = a ∧ v.length = b := by
  have hlength : (t.drop (t.length - a)).length = a := by
    rw [List.length_drop]
    omega
  refine ⟨t.take (t.length - a), (t.drop (t.length - a)).take (a - b),
    (t.drop (t.length - a)).drop (a - b), ?_, ?_, ?_⟩
  · rw [List.take_append_drop, List.take_append_drop]
  · rw [List.take_append_drop, hlength]
  · rw [List.length_drop, hlength]
    omega

/-- The text between two places, and the blank of the tail if it reaches the end. -/
theorem between_tail {first last : Place} (hfirst : first.rest.length ≤ t.length)
    (hlast : last.rest.length ≤ first.rest.length) :
    between (t ++ limitTail n) (first.extend (limitTail n))
        (if last.rest = [] then ⟨some (.char ' '), limitClause n⟩ else last.extend (limitTail n)) =
      between t first last ++ (if last.rest = [] then [.char ' '] else []) := by
  obtain ⟨x, u, v, rfl, huv, hv⟩ := exists_splits hfirst hlast
  have hlength : (first.extend (limitTail n)).rest.length = ((u ++ v) ++ limitTail n).length := by
    show (first.rest ++ limitTail n).length = _
    rw [List.length_append, ← huv, ← List.length_append]
  rw [between_append huv.symm hv.symm]
  split
  · next hnil =>
    rw [hnil, List.length_nil, List.length_eq_zero_iff] at hv
    subst hv
    have hassoc : x ++ (u ++ []) ++ limitTail n = x ++ ((u ++ [.char ' ']) ++ limitClause n) := by
      simp [limitTail]
    rw [hassoc]
    refine between_append ?_ rfl
    rw [hlength]
    simp [limitTail]
  · have hassoc : x ++ (u ++ v) ++ limitTail n = x ++ (u ++ (v ++ limitTail n)) := by
      simp only [List.append_assoc]
    rw [hassoc, List.append_nil]
    refine between_append ?_ ?_
    · rw [hlength, List.append_assoc]
    · rw [Place.extend, List.length_append, List.length_append, hv]

/-- So the text between them is the same, blanks around it left aside. -/
theorem trim_between_tail {first last : Place} (hfirst : first.rest.length ≤ t.length)
    (hlast : last.rest.length ≤ first.rest.length) :
    (between (t ++ limitTail n) (first.extend (limitTail n))
      (if last.rest = [] then ⟨some (.char ' '), limitClause n⟩
        else last.extend (limitTail n))).trim = (between t first last).trim := by
  rw [between_tail hfirst hlast]
  split
  · exact Text.trim_append_of_blank (by decide) _
  · rw [List.append_nil]

theorem staysClear_of_isAsciiDigit (h : ∀ g ∈ t, g.isAsciiDigit = true) (inWord : Bool) :
    staysClear inWord t = true := by
  induction t generalizing inWord with
  | nil => rfl
  | cons g t ih =>
    have hdigit := fun {c : Char} => Glyph.agrees_of_isAsciiDigit (h g List.mem_cons_self) (c := c)
    have horder : Condition.differs "order".toList (g :: t) = true := by
      show (!g.agrees 'o' || _) = true
      rw [hdigit (by decide), Bool.not_false, Bool.true_or]
    rw [staysClear, hdigit (c := 'l') (by decide), hdigit (c := 't') (by decide), horder,
      ih fun a ha => h a (List.mem_cons_of_mem g ha)]
    simp

/-- A clause without a `WHERE` in front is a condition if a `WHERE` ends in front of it. -/
theorem whereFrom?_limitClause (hn : IsRowCount n) (t : Text)
    (h : p.firstMatch whereStart? = some ⟨some (.char ' '), limitClause n⟩) :
    whereFrom? (t ++ limitClause n) p = some (limitClause n) := by
  have hclear : staysClear true (Text.of "IMIT " ++ n) = true := by
    have hword : staysClear true (Text.of "IMIT " ++ n) = staysClear false n := rfl
    rw [hword, staysClear_of_isAsciiDigit hn.2.2]
  have havoids : Place.Avoids whereEnd? (some (.char 'L')) (Text.of "IMIT " ++ n) :=
    avoids_of_staysClear hclear
  have hend := Place.firstMatch_append havoids []
  rw [List.append_nil, Place.firstMatch_of_match (p := ⟨_, []⟩) (if_pos (Bool.or_true _))] at hend
  have hbetween : between (t ++ limitClause n) ⟨some (.char ' '), limitClause n⟩
      ⟨lastGlyph (some (.char 'L')) (Text.of "IMIT " ++ n), []⟩ = limitClause n := by
    have hfirst : (⟨some (.char ' '), limitClause n⟩ : Place).rest.length =
        (limitClause n ++ []).length := by rw [List.append_nil]
    have hall := between_append (s := t) (u := []) hfirst
      (Eq.refl (⟨lastGlyph (some (.char 'L')) (Text.of "IMIT " ++ n), []⟩ : Place).rest.length)
    rwa [List.append_nil] at hall
  have hlast : ∀ g ∈ (limitClause n).getLast?, g.isAsciiDigit = true := by
    intro g hg
    rw [limitClause, List.getLast?_append_of_ne_nil _ hn.1] at hg
    exact hn.2.2 g (List.mem_of_getLast? hg)
  have htight : (limitClause n).IsTight :=
    ⟨by rintro g ⟨⟩; decide, fun g hg => Glyph.isBlank_of_isAsciiDigit (hlast g hg)⟩
  have hdrop : (limitClause n).dropEndWhile (· = .char ';') = limitClause n :=
    Text.dropEndWhile_eq_self fun g hg =>
      decide_eq_false (Glyph.ne_of_isAsciiDigit (hlast g hg) rfl)
  have hnext : Place.next? ⟨some (.char ' '), limitClause n⟩ =
      some ⟨some (.char 'L'), Text.of "IMIT " ++ n⟩ := rfl
  have hnonempty : ¬ (limitClause n).isEmpty = true := Bool.false_ne_true
  simp only [whereFrom?, h, hnext, hend, hbetween, Text.trim_eq_self htight, hdrop,
    Option.bind_eq_bind, Option.bind_some, if_neg hnonempty]

theorem agrees_of_mem_limitClause (hn : IsRowCount n) {g : Glyph} (hg : g ∈ limitClause n)
    {c : Char} (hc : c ∈ ['o', 'w']) : g.agrees c = false := by
  have hword : ∀ g ∈ Text.of "LIMIT ", ∀ c ∈ ['o', 'w'], g.agrees c = false := by decide
  have hstarts : ∀ c ∈ ['o', 'w'], c ∈ ['l', 'o', 't', 'w'] := by decide
  rcases List.mem_append.mp hg with hg | hg
  · exact hword g hg c hc
  · exact Glyph.agrees_of_isAsciiDigit (hn.2.2 g hg) (hstarts c hc)

/-- Neither conditions nor a sort order begin in the tail. -/
theorem firstMatch_keyword_limitTail {α : Type} (hn : IsRowCount n) {c : Char}
    (hc : c ∈ ['o', 'w']) (cs : List Char) (more : Place → Option α) (before : Option Glyph) :
    Place.firstMatch (fun p => p.edge?.bind fun p => (p.word? (c :: cs)).bind more)
      ⟨before, limitTail n⟩ = none := by
  have hblank : ∀ c ∈ ['o', 'w'], (Glyph.char ' ').agrees c = false := by decide
  refine Place.firstMatch_keyword_eq_none (Place.keyword?_eq_none (hblank c hc) cs more _ _) ?_
  exact fun g hg => agrees_of_mem_limitClause hn hg hc

/-- **The conditions stay, or there were none and the clause is read as one.** -/
theorem whereFrom?_tail (hn : IsRowCount n) (hp : p.rest.length ≤ t.length) :
    whereFrom? (t ++ limitTail n) (p.extend (limitTail n)) = whereFrom? t p ∨
      (whereFrom? t p = none ∧
        whereFrom? (t ++ limitTail n) (p.extend (limitTail n)) = some (limitClause n)) := by
  have hfound : ∀ p q, whereStart? p = some q →
      whereStart? (p.extend (limitTail n)) = some (q.extend (limitTail n)) :=
    fun p q hq => (whereStart?_tail hq).1
  have hlate : ∀ p, whereStart? p = none → (whereStart? (p.extend (limitTail n))).isSome = true →
      p.firstMatch whereStart? = none := by
    intro p hnone hsome
    obtain ⟨q, hq⟩ := Option.isSome_iff_exists.mp hsome
    exact (whereStart?_late hnone hq).2
  rcases Place.firstMatch_extend hfound hlate p with ⟨first, hfirst, htail⟩ | ⟨hnone, htail⟩
  · left
    obtain ⟨q, hq⟩ := Place.exists_of_firstMatch hfirst
    have hle := Place.length_le_of_firstMatch (fun _ _ => length_le_of_whereStart?) hfirst
    obtain ⟨g, u, hrest⟩ := List.exists_cons_of_ne_nil (whereStart?_tail (n := n) hq).2
    have hnext : first.next? = some ⟨some g, u⟩ := by rw [Place.next?, hrest]
    have hnext' : (first.extend (limitTail n)).next? = some (extend (limitTail n) ⟨some g, u⟩) := by
      rw [Place.next?, Place.extend, hrest]
      rfl
    obtain ⟨last, hlast, hshort, hend⟩ := firstMatch_whereEnd?_tail ⟨some g, u⟩ n
    have hbehind : last.rest.length ≤ first.rest.length :=
      hshort.trans (by rw [hrest]; exact Nat.le_succ _)
    simp only [whereFrom?, hfirst, htail, hnext, hnext', hlast, hend,
      trim_between_tail (hle.trans hp) hbehind, Option.bind_eq_bind, Option.bind_some]
  · have hshort : whereFrom? t p = none := by
      rw [whereFrom?, hnone]
      rfl
    rcases htail with htail | ⟨q, r, hq, hr, htail⟩
    · left
      have hclause : Place.firstMatch whereStart? ⟨lastGlyph p.before p.rest, limitTail n⟩ = none :=
        firstMatch_keyword_limitTail hn (c := 'w') (by decide) _ _ _
      rw [hshort, whereFrom?, htail, hclause]
      rfl
    · right
      refine ⟨hshort, ?_⟩
      rw [(whereStart?_late hq hr).1] at htail
      rw [show t ++ limitTail n = (t ++ [.char ' ']) ++ limitClause n by
        rw [List.append_assoc]; rfl]
      exact whereFrom?_limitClause hn _ htail

theorem mask_tail (ht : Literal.behind none t = none) (hn : IsRowCount n) :
    mask (t ++ limitTail n) = mask t ++ limitTail n := by
  have hword : ∀ g ∈ Text.of " LIMIT ", Literal.isQuote g = false := by decide
  have hdigits : ∀ g ∈ Text.of "0123456789", Literal.isQuote g = false := by decide
  have hunquoted : ∀ g ∈ limitTail n, Literal.isQuote g = false := by
    intro g hg
    rcases List.mem_append.mp (show g ∈ Text.of " LIMIT " ++ n from hg) with hg | hg
    · exact hword g hg
    · exact hdigits g (Glyph.mem_of_isAsciiDigit (hn.2.2 g hg))
  rw [mask, Literal.maskFrom_append, ht]
  show mask t ++ mask (limitTail n) = _
  rw [Literal.mask_eq_self hunquoted]

theorem plain_limitClause (hn : IsRowCount n) : Condition.Plain (limitClause n) := by
  have hword : ∀ g ∈ Text.of "LIMIT ", Condition.isPlain g = true := by decide
  have hdigits : ∀ g ∈ Text.of "0123456789", Condition.isPlain g = true := by decide
  intro g hg
  rcases List.mem_append.mp hg with hg | hg
  · exact hword g hg
  · exact hdigits g (Glyph.mem_of_isAsciiDigit (hn.2.2 g hg))

/-- **A row limit at the end asks for no predicate and takes none away.** -/
theorem predicates_tail (hfront : IsFront front) (ht : Literal.behind none t = none)
    (hn : IsRowCount n) :
    predicates (front ++ (t ++ limitTail n)) = predicates (front ++ t) := by
  have hlength : (mask t).length ≤ t.length := Nat.le_of_eq (Literal.length_mask t)
  have hwhere := whereFrom?_tail (p := ⟨some (.char ' '), mask t⟩) hn hlength
  rw [predicates, predicates, hfront.whereText?_eq, hfront.whereText?_eq, mask_tail ht hn]
  rcases hwhere with heq | ⟨hnone, hclause⟩
  · rw [← heq]
    rfl
  · rw [hnone, show whereFrom? (t ++ limitTail n) ⟨_, mask t ++ limitTail n⟩ = _ from hclause]
    exact Condition.read_of_plain (plain_limitClause hn)

/-! ## Order -/

/-- The direction of a sort order does not change. -/
theorem direction_tail (p : Place) (n : Text) :
    ((p.extend (limitTail n)).blanks1?.bind fun q => q.span1? Glyph.isWord).any
        (fun d => d.1.upper == Text.of "DESC") =
      (p.blanks1?.bind fun q => q.span1? Glyph.isWord).any
        (fun d => d.1.upper == Text.of "DESC") := by
  rcases blanks1?_tail p n with ⟨-, htail, hend⟩ | ⟨hmap, -⟩
  · have hspan : Place.span1? Glyph.isWord ⟨some (.char ' '), limitClause n⟩ =
        some (Text.of "LIMIT", ⟨some (.char 'T'), .char ' ' :: n⟩) := rfl
    rw [htail, Option.bind_some, hspan]
    cases hq : p.blanks1? with
    | none => rfl
    | some q =>
      rcases q with ⟨before, rest⟩
      rw [show rest = [] from hend _ hq]
      rfl
  · rw [hmap]
    cases p.blanks1? with
    | none => rfl
    | some q =>
      rw [Option.map_some, Option.bind_some, Option.bind_some, span1?_tail]
      cases q.span1? Glyph.isWord <;> rfl

theorem sortKey?_tail {key : SortKey} (h : sortKey? p = some key) :
    sortKey? (p.extend (limitTail n)) = some key := by
  have hletters : (∀ c ∈ "order".toList, c ∈ keywordLetters) ∧
      ∀ c ∈ "by".toList, c ∈ keywordLetters := by decide
  simp only [sortKey?, Option.bind_eq_bind, Option.bind_eq_some_iff] at h
  obtain ⟨a, ha, b, hb, c, hc, d, hd, e, he, ⟨name, r⟩, hname, hkey⟩ := h
  have hc' : c.rest ≠ [] := by
    intro hnil
    obtain ⟨g, u, hrest, -⟩ := Place.exists_of_word?_cons_eq_some (c := 'b') hd
    rw [hnil] at hrest
    cases hrest
  have he' : e.rest ≠ [] := by
    intro hnil
    rw [Place.span1?_eq, hnil] at hname
    cases hname
  simp only [sortKey?, Option.bind_eq_bind, edge?_tail, ha, Option.map_some, Option.bind_some,
    word?_tail hletters.1, hb, Place.blanks1?_extend_of_ne_nil hc hc', word?_tail hletters.2, hd,
    Place.blanks1?_extend_of_ne_nil he he', span1?_tail, hname]
  rw [direction_tail]
  exact hkey

/-- Behind the first letter of an `ORDER BY` with nothing but blanks behind it there is no `o`. -/
theorem agrees_behind_orderBy {a b c d : Place} (hb : a.word? "order".toList = some b)
    (hc : b.blanks1? = some c) (hd : c.word? "by".toList = some d)
    (hblank : ∀ g ∈ d.rest, g.isBlank = true) : ∀ g ∈ a.rest.tail, g.agrees 'o' = false := by
  have hblanks : ∀ g : Glyph, g.isBlank = true → g.agrees 'o' = false :=
    fun g hg => Glyph.agrees_of_isBlank (by decide) hg
  have hletters : ∀ c ∈ "rderby".toList, ∀ g : Glyph, g.agrees c = true → g.agrees 'o' = false := by
    have husual : ∀ c ∈ "rderby".toList, Glyph.isUsual c = true ∧ c ≠ 'o' := by decide
    exact fun c hc g hg => Glyph.agrees_eq_false (husual c hc).1 (by decide) (husual c hc).2 hg
  have hrder : ∀ c ∈ "rder".toList, c ∈ "rderby".toList := by decide
  have hby : ∀ c ∈ "by".toList, c ∈ "rderby".toList := by decide
  obtain ⟨g, u, hrest, -, hu⟩ := Place.exists_of_word?_cons_eq_some hb
  have hbehind := Place.forall_of_word? hd (fun c hc => hletters c (hby c hc))
    fun g hg => hblanks g (hblank g hg)
  rw [hrest]
  exact Place.forall_of_word? hu (fun c hc => hletters c (hrder c hc))
    (Place.forall_of_blanks1? hc hblanks hbehind)

/-- An `ORDER BY` at the very end takes the keyword of the tail for its column. -/
theorem sortKey?_late {key : SortKey} (h : sortKey? p = none)
    (h' : sortKey? (p.extend (limitTail n)) = some key) :
    key.column = Text.of "LIMIT" ∧ p.firstMatch sortKey? = none := by
  simp only [sortKey?, Option.bind_eq_bind, edge?_tail, Option.bind_eq_some_iff,
    Option.map_eq_some_iff] at h'
  obtain ⟨_, ⟨a, ha, rfl⟩, b', hb', c', hc', d', hd', e', he', ⟨name, r'⟩, hname, hkey⟩ := h'
  rw [word?_tail (by decide), Option.map_eq_some_iff] at hb'
  obtain ⟨b, hb, rfl⟩ := hb'
  -- A `BY` does not begin the tail, so blanks that are cut short stand behind both keywords.
  rcases blanks1?_tail b n with ⟨-, htail, -⟩ | ⟨hmap, -⟩
  · rw [htail] at hc'
    cases hc'
    cases hd'
  rw [hmap, Option.map_eq_some_iff] at hc'
  obtain ⟨c, hc, rfl⟩ := hc'
  rw [word?_tail (by decide), Option.map_eq_some_iff] at hd'
  obtain ⟨d, hd, rfl⟩ := hd'
  rcases blanks1?_tail d n with ⟨hblank, htail, -⟩ | ⟨hmap, -⟩
  · rw [htail] at he'
    cases he'
    have hspan : Place.span1? Glyph.isWord ⟨some (.char ' '), limitClause n⟩ =
        some (Text.of "LIMIT", ⟨some (.char 'T'), .char ' ' :: n⟩) := rfl
    rw [hspan] at hname
    cases hname
    cases hkey
    have hcolumn : column (Text.of "LIMIT") = Text.of "LIMIT" := by decide +kernel
    refine ⟨hcolumn, Place.firstMatch_keyword_eq_none (c := 'o') h ?_⟩
    rw [← Place.eq_of_edge? ha]
    exact agrees_behind_orderBy hb hc hd hblank
  · rw [hmap, Option.map_eq_some_iff] at he'
    obtain ⟨e, he, rfl⟩ := he'
    rw [span1?_tail, Option.map_eq_some_iff] at hname
    obtain ⟨⟨name', r⟩, hname', -⟩ := hname
    have hsome : (sortKey? p).isSome = true := by
      simp only [sortKey?, Option.bind_eq_bind, ha, Option.bind_some, hb, hc, hd, he, hname']
      rfl
    rw [h] at hsome
    cases hsome

/-- **A row limit at the end leaves the sort order as it is**, or it is its own column. -/
theorem sort?_tail (hfront : IsFront front) (ht : Literal.behind none t = none)
    (hn : IsRowCount n) :
    sort? (front ++ (t ++ limitTail n)) = sort? (front ++ t) ∨
      (sort? (front ++ t) = none ∧ ∃ key, sort? (front ++ (t ++ limitTail n)) = some key ∧
        key.column = Text.of "LIMIT") := by
  have hlate : ∀ p, sortKey? p = none → (sortKey? (p.extend (limitTail n))).isSome = true →
      p.firstMatch sortKey? = none := by
    intro p hnone hsome
    obtain ⟨q, hq⟩ := Option.isSome_iff_exists.mp hsome
    exact (sortKey?_late hnone hq).2
  have hmask : (⟨some (.char ' '), mask (t ++ limitTail n)⟩ : Place) =
      extend (limitTail n) ⟨some (.char ' '), mask t⟩ := by
    rw [mask_tail ht hn]
    rfl
  rw [sort?, sort?, hfront.firstMatch_eq hfront.sortKey, hfront.firstMatch_eq hfront.sortKey,
    hmask]
  have hfound : ∀ p key, sortKey? p = some key →
      sortKey? (p.extend (limitTail n)) = some (id key) :=
    fun _ _ => sortKey?_tail
  rcases Place.firstMatch_extend hfound hlate ⟨some (.char ' '), mask t⟩ with
    ⟨key, hkey, htail⟩ | ⟨hnone, htail | ⟨q, key, hq, hkey, htail⟩⟩
  · exact .inl (htail.trans hkey.symm)
  · left
    rw [htail, hnone]
    exact firstMatch_keyword_limitTail hn (c := 'o') (by decide) _ _ _
  · exact .inr ⟨hnone, key, htail, (sortKey?_late hq hkey).1⟩

/-! ## The row limit -/

/-- Says that a word stands in a text outside literals, in any case. -/
def HoldsWord (word : String) (t : Text) : Prop :=
  ((Place.start (mask t)).firstMatch (wholeWord? word.toList)).isSome = true

instance (word : String) (t : Text) : Decidable (HoldsWord word t) :=
  inferInstanceAs (Decidable (_ = true))

/-- A `LIMIT` with blanks behind it is a whole word. -/
theorem wholeWord?_of_limit? {found : Place × Place} (h : limit? p = some found) :
    (wholeWord? "limit".toList p).isSome = true := by
  simp only [limit?, Option.bind_eq_bind, Option.bind_eq_some_iff] at h
  obtain ⟨a, ha, b, hb, c, hc, -⟩ := h
  have hbefore : b.before.any Glyph.isWord = true := by
    obtain ⟨g, hg, hagrees⟩ :=
      Place.before_of_word? (show a.word? ("limi".toList ++ ['t']) = some b from hb)
    have hsame := Glyph.sameLetter_of_agrees (by decide) (by decide) hagrees
    rw [hg, Option.any_some, hsame.isWord_eq]
    decide
  have hhead : b.rest.head?.any Glyph.isWord = false := by
    rcases b with ⟨before, rest⟩
    cases rest with
    | nil => rfl
    | cons g rest =>
      cases hg : g.isBlank with
      | true => exact Glyph.isWord_of_isBlank hg
      | false =>
        rw [Place.blanks1?_eq_none hg] at hc
        cases hc
  have hedge : b.edge? = some b := by
    rw [Place.edge?, Place.atEdge, hbefore, hhead]
    rfl
  rw [wholeWord?, ha, Option.bind_some, hb, Option.bind_some, hedge]
  rfl

theorem firstMatch_wholeWord? (h : ¬ HoldsWord "limit" t) :
    Place.firstMatch (wholeWord? "limit".toList) ⟨some (.char ' '), mask t⟩ = none := by
  have hblank : (some (Glyph.char ' ')).any Glyph.isWord = (none : Option Glyph).any Glyph.isWord :=
    rfl
  rw [HoldsWord, Option.not_isSome_iff_eq_none] at h
  rw [← h]
  exact Place.firstMatch_keyword_congr (c := 'l') hblank _

theorem limit?_eq_none (h : wholeWord? "limit".toList p = none) : limit? p = none := by
  rw [← Option.not_isSome_iff_eq_none]
  intro hsome
  obtain ⟨found, hfound⟩ := Option.isSome_iff_exists.mp hsome
  have hwhole := wholeWord?_of_limit? hfound
  rw [h] at hwhole
  cases hwhole

/-- Without the word no row limit is found. -/
theorem firstMatch_limit? (h : ¬ HoldsWord "limit" t) :
    Place.firstMatch limit? ⟨some (.char ' '), mask t⟩ = none :=
  Place.firstMatch_eq_none_of_weaker (fun _ => limit?_eq_none) (firstMatch_wholeWord? h)

theorem limit?_limitClause (hn : IsRowCount n) : limit? ⟨some (.char ' '), limitClause n⟩ =
    some (⟨some (.char ' '), n⟩, ⟨lastGlyph (some (.char ' ')) n, []⟩) := by
  have hform : limit? ⟨some (.char ' '), limitClause n⟩ =
      (Place.blanks1? ⟨some (.char 'T'), .char ' ' :: n⟩).bind limitValue? := rfl
  have hhead : ∀ g ∈ n.head?, g.isBlank = false :=
    fun g hg => Glyph.isBlank_of_isAsciiDigit (hn.2.2 g (List.mem_of_head? hg))
  have hvalue := limitValue?_of_isRowCount hn (t := []) (by rintro g ⟨⟩) (some (.char ' '))
  rw [List.append_nil] at hvalue
  rw [hform, Place.blanks1?_space hhead, Option.bind_some, hvalue]

/-- **A row count at the end limits the rows of a statement without a `LIMIT`.** -/
theorem rowLimit_tail (hfront : IsFront front) (ht : Literal.behind none t = none)
    (hlimit : ¬ HoldsWord "limit" t) (hn : IsRowCount n) :
    rowLimit (front ++ (t ++ limitTail n)) = .ok (some ⟨rowCount n, .limit⟩) := by
  have hword : ∀ p, wholeWord? "limit".toList p = none →
      limit? (p.extend (limitTail n)) = none := by
    intro p hnone
    refine limit?_eq_none ?_
    rw [wholeWord?_tail (by decide), hnone]
    rfl
  have hsearch : (Place.start (mask (front ++ (t ++ limitTail n)))).firstMatch limit? =
      some (⟨some (.char ' '), n⟩, ⟨lastGlyph (some (.char ' ')) n, []⟩) := by
    have htail := Place.firstMatch_extend_of_none hword (firstMatch_wholeWord? hlimit)
    have hblank : limit? ⟨lastGlyph (some (.char ' ')) (mask t), limitTail n⟩ = none :=
      Place.keyword?_eq_none (c := 'l') (by decide) _ _ _ _
    have hbehind := Place.firstMatch_of_match (limit?_limitClause hn)
    rw [hfront.firstMatch_eq hfront.limit, mask_tail ht hn]
    refine htail.trans ?_
    rw [limitTail] at hblank ⊢
    rw [Place.firstMatch_cons, hblank, Option.none_or, hbehind]
  have hbetween : between (front ++ (t ++ limitTail n)) ⟨some (.char ' '), n⟩
      ⟨lastGlyph (some (.char ' ')) n, []⟩ = n := by
    have hassoc : front ++ (t ++ limitTail n) =
        (front ++ (t ++ Text.of " LIMIT ")) ++ (n ++ []) := by
      rw [List.append_nil, List.append_assoc, List.append_assoc]
      rfl
    have hfirst : (⟨some (.char ' '), n⟩ : Place).rest.length = (n ++ []).length := by
      rw [List.append_nil]
    rw [hassoc]
    exact between_append hfirst rfl
  rw [rowLimit, hsearch]
  simp only [hbetween, readLimit_of_isRowCount hn]
  rfl

end Statement
end QueryDesk
