import QueryDesk.Proofs.Condition.AlikeTerms
import QueryDesk.Proofs.Text.Gap

/-!
# Conditions with another gap

A gap outside literals may be of any length and made of any blanks: a condition is read as the same
with any other gap in its place (`read_respaced`).  The two texts come apart in the same way, and
the gap stays in one part, goes away with the keyword that it sets off, or is trimmed off.

There is one exception.  An equality does not know which quote opened the literal in front of it: a
text whose last quote stands right behind a column and an equals sign *reads on* (`ReadsOn`), and
the value that is read goes on over the gap.
-/

set_option autoImplicit false

namespace QueryDesk

namespace Text

/-- What is dropped from the end of two texts goes on into the first if nothing of the second is
left. -/
theorem dropEndWhile_append (p : Glyph → Bool) (s t : Text) : dropEndWhile p (s ++ t) =
    if dropEndWhile p t = [] then dropEndWhile p s else s ++ dropEndWhile p t := by
  simp only [dropEndWhile, List.reverse_append, List.dropWhile_append, List.isEmpty_iff,
    List.reverse_eq_nil_iff]
  split
  · rfl
  · rw [List.reverse_append, List.reverse_reverse]

end Text

namespace Literal

/-- A text without quotes opens and closes no literal. -/
theorem behind_append_of_forall {t : Text} (ht : ∀ g ∈ t, isQuote g = false) (u : Text) :
    behind none (t ++ u) = behind none u := by
  induction t with
  | nil => rfl
  | cons g t ih =>
    obtain ⟨hg, ht⟩ := List.forall_mem_cons.mp ht
    rw [List.cons_append, behind_cons_of_not_isQuote hg, ih ht]

/-- A word without quotes is spelled without quotes. -/
theorem isQuote_of_spells {word : List Char} (hword : ∀ c ∈ word, isQuote (.char c) = false)
    {t : Text} (h : t.Spells word) : ∀ g ∈ t, isQuote g = false := by
  induction h with
  | nil => exact fun g hg => absurd hg List.not_mem_nil
  | cons hg _ ih =>
    obtain ⟨hc, hword⟩ := List.forall_mem_cons.mp hword
    exact List.forall_mem_cons.mpr ⟨isQuote_of_agrees hc hg, ih hword⟩

end Literal

namespace Place

theorem any_isWord_lastGlyph_none {t : Text} (h : ∀ g ∈ t, g.isBlank = true) :
    (lastGlyph none t).any Glyph.isWord = false := by
  cases t with
  | nil => rfl
  | cons g t => exact any_isWord_lastGlyph_of_blank (List.cons_ne_nil g t) h none

end Place

namespace IsGap

variable {r : Text} (hr : IsGap r) {p : Glyph → Bool}
include hr

theorem isQuote_eq {g : Glyph} (hg : g ∈ r) : Literal.isQuote g = false :=
  Literal.isQuote_of_isBlank (hr.blank g hg)

theorem dropEndWhile_of_pos (hp : ∀ g : Glyph, g.isBlank = true → p g = true) :
    r.dropEndWhile p = [] := by
  rw [Text.dropEndWhile, List.reverse_eq_nil_iff, List.dropWhile_eq_nil_iff]
  exact fun g hg => hp g (hr.blank g (List.mem_reverse.mp hg))

theorem dropEndWhile_of_neg (hp : ∀ g : Glyph, g.isBlank = true → p g = false) :
    r.dropEndWhile p = r :=
  Text.dropEndWhile_eq_self fun g hg => hp g (hr.blank g (List.mem_of_getLast? hg))

end IsGap

namespace Condition

open Place (lastGlyph AcrossGap)

variable {r r' a b t t' : Text}

/-! ## Texts with another gap -/

/-- Says that an equality at the end of a text takes the last quote for the one that begins its
value, and so reads on behind the text. -/
def ReadsOn (a : Text) : Prop :=
  ∃ (front : Text) (q : Glyph) (u : Text), a = front ++ q :: u ∧ Literal.isQuote q = true ∧
    (∀ g ∈ u, Literal.isQuote g = false) ∧ AsksForLiteral front q

/-- What is in front of the last glyph that belongs to no word does not count. -/
theorem not_readsOn_of_append {x : Text} (h : ¬ReadsOn (x ++ a))
    (hx : (lastGlyph none x).any Glyph.isWord = false) : ¬ReadsOn a := by
  rintro ⟨front, q, u, rfl, hq, hu, hasks⟩
  exact h ⟨x ++ front, q, u, by rw [List.append_assoc], hq, hu, asksForLiteral_append hx hasks⟩

/-- Whether a text reads on is a matter of its last quote. -/
theorem readsOn_append_cons_iff {front u : Text} {q : Glyph} (hq : Literal.isQuote q = true)
    (hu : ∀ g ∈ u, Literal.isQuote g = false) :
    ReadsOn (front ++ q :: u) ↔ AsksForLiteral front q := by
  constructor
  · rintro ⟨front', q', u', heq, hq', hu', hasks⟩
    rcases List.append_eq_append_iff.mp heq with ⟨x, hx, hx'⟩ | ⟨x, hx, hx'⟩
    · cases x with
      | nil =>
        obtain ⟨rfl, rfl⟩ := List.cons.inj hx'
        rwa [hx, List.append_nil] at hasks
      | cons c x =>
        obtain ⟨rfl, rfl⟩ := List.cons.inj hx'
        exact absurd (hq'.symm.trans (hu q' (by simp))) (by decide)
    · cases x with
      | nil =>
        obtain ⟨rfl, rfl⟩ := List.cons.inj hx'
        rwa [hx, List.append_nil]
      | cons c x =>
        obtain ⟨rfl, rfl⟩ := List.cons.inj hx'
        exact absurd (hq.symm.trans (hu' q (by simp))) (by decide)
  · exact fun hasks => ⟨front, q, u, rfl, hq, hu, hasks⟩

/-- Says that two texts are one, or one but for a gap outside literals, over which no equality reads
on. -/
inductive Respaced (r r' : Text) : Text → Text → Prop
  | same (t : Text) : Respaced r r' t t
  | gap {a : Text} (b : Text) (ha : Literal.behind none a = none) (hon : ¬ReadsOn a) :
      Respaced r r' (a ++ (r ++ b)) (a ++ (r' ++ b))

section

variable (hr : IsGap r) (hr' : IsGap r')
include hr hr'

theorem Respaced.isEmpty_eq (h : Respaced r r' t t') : t.isEmpty = t'.isEmpty := by
  cases h with
  | same => rfl
  | @gap a b =>
    have hne : ∀ {s : Text}, IsGap s → (a ++ (s ++ b)).isEmpty = false := fun hs =>
      List.isEmpty_eq_false_iff.mpr
        (List.append_ne_nil_of_right_ne_nil a (List.append_ne_nil_of_left_ne_nil hs.ne_nil b))
    rw [hne hr, hne hr']

/-! ## Trimming -/

theorem Respaced.trimStart (h : Respaced r r' t t') :
    Respaced r r' t.trimStart t'.trimStart := by
  cases h with
  | same => exact .same _
  | @gap a b ha hon =>
    have hstart : ∀ {s : Text}, IsGap s → Text.trimStart (a ++ (s ++ b)) =
        if a.trimStart.isEmpty then b.trimStart else a.trimStart ++ (s ++ b) := by
      intro s hs
      rw [Text.trimStart, List.dropWhile_append, List.dropWhile_append_of_pos hs.blank]
      rfl
    rw [hstart hr, hstart hr']
    split
    · exact .same _
    · have hblank : ∀ g ∈ a.takeWhile Glyph.isBlank, g.isBlank = true :=
        fun g => List.mem_takeWhile_imp
      have hsplit : a = a.takeWhile Glyph.isBlank ++ a.trimStart :=
        List.takeWhile_append_dropWhile.symm
      rw [hsplit] at ha hon
      rw [Literal.behind_append_of_forall fun g hg =>
        Literal.isQuote_of_isBlank (hblank g hg)] at ha
      exact .gap b ha (not_readsOn_of_append hon (Place.any_isWord_lastGlyph_none hblank))

/-- A gap is dropped from the end, or none of it is. -/
theorem Respaced.dropEndWhile {p : Glyph → Bool} (hp : (∀ g : Glyph, g.isBlank = true → p g = true) ∨
      ∀ g : Glyph, g.isBlank = true → p g = false) (h : Respaced r r' t t') :
    Respaced r r' (t.dropEndWhile p) (t'.dropEndWhile p) := by
  cases h with
  | same => exact .same _
  | @gap a b ha hon =>
    have hend : ∀ {s : Text}, IsGap s → Text.dropEndWhile p (a ++ (s ++ b)) =
        if b.dropEndWhile p = [] then
          if s.dropEndWhile p = [] then a.dropEndWhile p else a ++ s.dropEndWhile p
        else a ++ (s ++ b.dropEndWhile p) := by
      intro s hs
      rw [Text.dropEndWhile_append, Text.dropEndWhile_append]
      split
      · rfl
      · rw [if_neg (List.append_ne_nil_of_left_ne_nil hs.ne_nil _)]
    rw [hend hr, hend hr']
    split
    · rcases hp with hp | hp
      · rw [hr.dropEndWhile_of_pos hp, hr'.dropEndWhile_of_pos hp, if_pos rfl]
        exact .same _
      · rw [hr.dropEndWhile_of_neg hp, hr'.dropEndWhile_of_neg hp, if_neg hr.ne_nil,
          if_neg hr'.ne_nil]
        have hgap : Respaced r r' (a ++ (r ++ [])) (a ++ (r' ++ [])) := .gap [] ha hon
        rwa [List.append_nil, List.append_nil] at hgap
    · exact .gap _ ha hon

theorem Respaced.trim (h : Respaced r r' t t') : Respaced r r' t.trim t'.trim :=
  (h.trimStart hr hr').dropEndWhile hr hr' (.inl fun _ hg => hg)

end

/-! ## Parentheses -/

theorem after_of_isBlank {g : Glyph} (hg : g.isBlank = true) (d : Nat) :
    (⟨none, d⟩ : Level).after g = ⟨none, d⟩ := by
  have hparenthesis : ∀ c ∈ ['(', ')'], g ≠ .char c := by
    rintro c hc rfl
    simp only [List.mem_cons, List.not_mem_nil, or_false] at hc
    rcases hc with rfl | rfl <;> exact absurd hg (by decide)
  unfold Level.after
  dsimp only
  rw [if_neg (by rw [Literal.isQuote_of_isBlank hg]; exact Bool.false_ne_true),
    if_neg (hparenthesis '(' (by decide)), if_neg (hparenthesis ')' (by decide))]

theorem closesAtEnd_blanks {s : Text} (hs : ∀ g ∈ s, g.isBlank = true) (d : Nat) (b : Text) :
    closesAtEnd ⟨none, d + 1⟩ (s ++ b) = closesAtEnd ⟨none, d + 1⟩ b := by
  induction s with
  | nil => rfl
  | cons g s ih =>
    obtain ⟨hg, hs⟩ := List.forall_mem_cons.mp hs
    rw [List.cons_append, closesAtEnd, after_of_isBlank hg, ih hs]
    rfl

/-- In front of a text that is not empty no parenthesis closes in a gap. -/
theorem closesAtEnd_gap (hr : IsGap r) (hb : b ≠ []) (d : Nat) :
    closesAtEnd ⟨none, d⟩ (r ++ b) = (d != 0 && closesAtEnd ⟨none, d⟩ b) := by
  cases d with
  | succ d => exact closesAtEnd_blanks hr.blank d b
  | zero =>
    obtain ⟨g, s, rfl⟩ := List.exists_cons_of_ne_nil hr.ne_nil
    rw [List.cons_append, closesAtEnd, after_of_isBlank (hr.blank g List.mem_cons_self)]
    exact List.isEmpty_eq_false_iff.mpr (List.append_ne_nil_of_right_ne_nil s hb)

/-- In a text without outer blanks a gap has something on both sides. -/
theorem ne_nil_of_isTight {s : Text} (hs : IsGap s) (h : (a ++ (s ++ b)).IsTight) :
    a ≠ [] ∧ b ≠ [] := by
  constructor
  · rintro rfl
    obtain ⟨g, s, rfl⟩ := List.exists_cons_of_ne_nil hs.ne_nil
    exact absurd ((hs.blank g List.mem_cons_self).symm.trans (h.head g rfl)) (by decide)
  · rintro rfl
    have hlast := List.getLast?_eq_some_getLast hs.ne_nil
    have htight := h.last (s.getLast hs.ne_nil) (by simp [hlast])
    exact absurd ((hs.blank _ (List.getLast_mem hs.ne_nil)).symm.trans htight) (by decide)

theorem Respaced.inside (hne : a ≠ []) (hb : b ≠ []) (ha : Literal.behind none a = none)
    (hon : ¬ReadsOn a) (hwrapped : isWrapped (a ++ (r ++ b)) = true) :
    Respaced r r' ((a ++ (r ++ b)).drop 1).dropLast ((a ++ (r' ++ b)).drop 1).dropLast := by
  rw [isWrapped, Bool.and_eq_true, beq_iff_eq, List.head?_append_of_ne_nil _ hne] at hwrapped
  obtain ⟨g, a, rfl⟩ := List.exists_cons_of_ne_nil hne
  obtain rfl : g = .char '(' := Option.some.inj hwrapped.1
  have hinside : ∀ s : Text, ((.char '(' :: a ++ (s ++ b)).drop 1).dropLast =
      a ++ (s ++ b.dropLast) := by
    intro s
    rw [List.cons_append, List.drop_one, List.tail_cons,
      List.dropLast_append_of_ne_nil (List.append_ne_nil_of_right_ne_nil s hb),
      List.dropLast_append_of_ne_nil hb]
  rw [hinside, hinside]
  exact .gap _ ha (not_readsOn_of_append (x := [.char '(']) hon (by decide))

section

variable (hr : IsGap r) (hr' : IsGap r')
include hr hr'

theorem closesAtEnd_eq_of_gap (hb : b ≠ []) {l : Level}
    (ha : Literal.behind l.opened a = none) :
    closesAtEnd l (a ++ (r ++ b)) = closesAtEnd l (a ++ (r' ++ b)) := by
  induction a generalizing l with
  | nil =>
    obtain ⟨opened, d⟩ := l
    obtain rfl : opened = none := ha
    rw [List.nil_append, List.nil_append, closesAtEnd_gap hr hb, closesAtEnd_gap hr' hb]
  | cons g a ih =>
    have hnext : Literal.behind (l.after g).opened a = none := by
      rwa [← Literal.opened_behind, ← Level.behind_cons, Literal.opened_behind]
    have hfull : ∀ s : Text, (a ++ (s ++ b)).isEmpty = false := fun s =>
      List.isEmpty_eq_false_iff.mpr
        (List.append_ne_nil_of_right_ne_nil a (List.append_ne_nil_of_right_ne_nil s hb))
    rw [List.cons_append, List.cons_append, closesAtEnd, closesAtEnd, ih hnext, hfull, hfull]

theorem isWrapped_eq_of_gap (hne : a ≠ []) (hb : b ≠ []) (ha : Literal.behind none a = none) :
    isWrapped (a ++ (r ++ b)) = isWrapped (a ++ (r' ++ b)) := by
  rw [isWrapped, isWrapped, List.head?_append_of_ne_nil _ hne, List.head?_append_of_ne_nil _ hne,
    closesAtEnd_eq_of_gap hr hr' hb (l := .outside) ha]

theorem Respaced.unwrapTrimmed (ht : t.IsTight) (ht' : t'.IsTight) (h : Respaced r r' t t') :
    Respaced r r' (unwrapTrimmed t) (unwrapTrimmed t') := by
  fun_induction Condition.unwrapTrimmed t generalizing t' with
  | case1 t hwrapped ih =>
    cases h with
    | same =>
      rw [Condition.unwrapTrimmed.eq_def t, dif_pos hwrapped]
      exact .same _
    | @gap a b ha hon =>
      obtain ⟨hne, hb⟩ := ne_nil_of_isTight hr ht
      have hwrapped' := isWrapped_eq_of_gap hr hr' hne hb ha ▸ hwrapped
      rw [Condition.unwrapTrimmed.eq_def (a ++ (r' ++ b)), dif_pos hwrapped']
      exact ih (Text.isTight_trim _) (Text.isTight_trim _)
        ((Respaced.inside hne hb ha hon hwrapped).trim hr hr')
  | case2 t hwrapped =>
    cases h with
    | same =>
      rw [Condition.unwrapTrimmed.eq_def t, dif_neg hwrapped]
      exact .same _
    | @gap a b ha hon =>
      obtain ⟨hne, hb⟩ := ne_nil_of_isTight hr ht
      have hwrapped' := isWrapped_eq_of_gap hr hr' hne hb ha ▸ hwrapped
      rw [Condition.unwrapTrimmed.eq_def (a ++ (r' ++ b)), dif_neg hwrapped']
      exact .gap b ha hon

theorem Respaced.unwrap (h : Respaced r r' t t') : Respaced r r' (unwrap t) (unwrap t') :=
  (h.trim hr hr').unwrapTrimmed hr hr' (Text.isTight_trim t) (Text.isTight_trim t')

end

/-! ## Cuts -/

variable {keyword : List Char}

/-- **In front of the text behind a keyword** stand a gap, the keyword and another gap. -/
theorem exists_of_behindKeyword? {u : Text} (h : behindKeyword? keyword t = some u) :
    ∃ y w z : Text, t = y ++ (w ++ (z ++ u)) ∧ IsGap y ∧ w.Spells keyword ∧ IsGap z := by
  simp only [behindKeyword?, Option.bind_eq_bind, Option.bind_eq_some_iff, Option.some.injEq] at h
  obtain ⟨p, hp, q, hq, c, hc, rfl⟩ := h
  have hrun : ∀ {p q : Place}, p.blanks1? = some q → ∃ y : Text, IsGap y ∧ p.rest = y ++ q.rest := by
    intro p q hpq
    obtain ⟨found, hfound, rfl⟩ := Option.map_eq_some_iff.mp hpq
    rw [Place.span1?_eq] at hfound
    split at hfound
    · cases hfound
    · next hne =>
      cases hfound
      exact ⟨_, ⟨hne, fun g => List.mem_takeWhile_imp⟩, List.takeWhile_append_dropWhile.symm⟩
  obtain ⟨y, hy, hrest⟩ := hrun hp
  obtain ⟨w, hw, hrest', -⟩ := Place.word?_eq_some_iff.mp hq
  obtain ⟨z, hz, hrest''⟩ := hrun hc
  have hwhole : t = y ++ p.rest := hrest
  exact ⟨y, w, z, by rw [hwhole, hrest', hrest''], hy, hw, hz⟩

/-- So it holds no quotes, and ends in a blank. -/
theorem exists_front_of_behindKeyword? (hk : ∀ c ∈ keyword, Literal.isQuote (.char c) = false)
    {u : Text} (h : behindKeyword? keyword t = some u) : ∃ y : Text, t = y ++ u ∧ y ≠ [] ∧
      (∀ g ∈ y, Literal.isQuote g = false) ∧ (lastGlyph none y).any Glyph.isWord = false := by
  obtain ⟨y, w, z, rfl, hy, hw, hz⟩ := exists_of_behindKeyword? h
  have hword := Literal.isQuote_of_spells hk hw
  refine ⟨y ++ (w ++ z), ?_, ?_, ?_, ?_⟩
  · rw [List.append_assoc, List.append_assoc]
  · exact List.append_ne_nil_of_left_ne_nil hy.ne_nil _
  · intro g hg
    simp only [List.mem_append] at hg
    rcases hg with hg | hg | hg
    · exact hy.isQuote_eq hg
    · exact hword g hg
    · exact hz.isQuote_eq hg
  · rw [Place.lastGlyph_append, Place.lastGlyph_append]
    exact Place.any_isWord_lastGlyph_of_blank hz.ne_nil hz.blank _

/-- Says that behind a keyword two texts are one, or are what is left of two texts that are one but
for a gap. -/
inductive BehindGap (r r' a b : Text) : Text → Text → Prop
  | same (u : Text) : BehindGap r r' a b u u
  | ahead {y x : Text} (ha : a = y ++ x) (hne : y ≠ [])
      (hquote : ∀ g ∈ y, Literal.isQuote g = false)
      (hword : (lastGlyph none y).any Glyph.isWord = false) :
      BehindGap r r' a b (x ++ (r ++ b)) (x ++ (r' ++ b))

section

variable (hr : IsGap r) (hr' : IsGap r') (hk : ∀ c ∈ keyword, Place.isVisible c = true)
include hr hr' hk

theorem behindKeyword?_acrossGap (a b : Text) :
    Option.Rel (BehindGap r r' a b) (behindKeyword? keyword (a ++ (r ++ b)))
      (behindKeyword? keyword (a ++ (r' ++ b))) := by
  have hR := Place.agreeing_acrossGap hr hr' a b
  have hplaces : Option.Rel (fun u u' => ∃ p p' : Place, AcrossGap a r r' b p p' ∧
      p.rest = u ∧ p'.rest = u') (behindKeyword? keyword (a ++ (r ++ b)))
      (behindKeyword? keyword (a ++ (r' ++ b))) := by
    refine rel_bind (hR.blanks1? (Place.acrossGap_start a r r' b)) fun p p' hp => ?_
    refine rel_bind (hR.word? hk hp) fun q q' hq => ?_
    exact rel_bind (hR.blanks1? hq) fun c c' hc => .some ⟨c, c', hc, rfl, rfl⟩
  refine rel_mono (rel_and_left hplaces fun _ h => h) ?_
  rintro u u' ⟨⟨p, p', hp, rfl, rfl⟩, hfound⟩
  cases hp with
  | behind => exact .same _
  | @ahead y x ha =>
    obtain ⟨z, hz, hne, hquote, hword⟩ := exists_front_of_behindKeyword?
      (fun c hc => Place.isQuote_of_isVisible (hk c hc)) hfound
    dsimp only at hz
    rw [ha, List.append_assoc] at hz
    obtain rfl : y = z := List.append_cancel_right hz
    exact .ahead ha hne hquote hword

/-- A gap is the same as any other for a keyword behind it. -/
theorem behindKeyword?_gap (b : Text) :
    behindKeyword? keyword (r ++ b) = behindKeyword? keyword (r' ++ b) := by
  have hrel := behindKeyword?_acrossGap hr hr' hk [] b
  rw [List.nil_append, List.nil_append] at hrel
  obtain ⟨hnone, hnone'⟩ | ⟨u, u', hsome, hsome', hu⟩ := rel_cases hrel
  · rw [hnone, hnone']
  · cases hu with
    | same => rw [hsome, hsome']
    | ahead ha hne => exact absurd (List.append_eq_nil_iff.mp ha.symm).1 hne

end

theorem exists_cut_eq (keyword : List Char) (level : Level) (t : Text) :
    ∃ part parts, cut keyword level t = part :: parts := by
  fun_induction cut keyword level t with
  | case1 => exact ⟨_, _, rfl⟩
  | case2 => exact ⟨_, _, rfl⟩
  | case3 => exact ⟨_, _, rfl⟩
  | case4 => exact ⟨_, _, rfl⟩

/-- Blanks in which no keyword begins go into the part in which they stand. -/
theorem cut_blanks {d : Nat} {part : Text} {parts : List Text}
    (hnone : ∀ s : Text, IsGap s → cutHere? keyword ⟨none, d⟩ (s ++ b) = none)
    (hb : cut keyword ⟨none, d⟩ b = part :: parts) {s : Text} (hs : ∀ g ∈ s, g.isBlank = true) :
    cut keyword ⟨none, d⟩ (s ++ b) = (s ++ part) :: parts := by
  induction s with
  | nil => exact hb
  | cons g s ih =>
    have hgap : IsGap (g :: s) := ⟨List.cons_ne_nil g s, hs⟩
    obtain ⟨hg, hs⟩ := List.forall_mem_cons.mp hs
    exact cut_cons_of_none (hnone _ hgap) (by rw [after_of_isBlank hg]; exact ih hs)

/-- Says that the parts of two texts are one but for the gap, which is in the first part, behind a
given text, or in a later one, or went away with a keyword. -/
inductive RespacedParts (r r' a : Text) : List Text → List Text → Prop
  | first (u : Text) (parts : List Text) :
      RespacedParts r r' a ((a ++ (r ++ u)) :: parts) ((a ++ (r' ++ u)) :: parts)
  | later (part : Text) {parts parts' : List Text} (h : List.Forall₂ (Respaced r r') parts parts') :
      RespacedParts r r' a (part :: parts) (part :: parts')

theorem RespacedParts.forall₂ {parts parts' : List Text} (h : RespacedParts r r' a parts parts')
    (ha : Literal.behind none a = none) (hon : ¬ReadsOn a) :
    List.Forall₂ (Respaced r r') parts parts' := by
  cases h with
  | first u parts => exact .cons (.gap u ha hon) (List.forall₂_same.mpr fun part _ => .same part)
  | later part h => exact .cons (.same part) h

/-- A glyph in front goes into the first part. -/
theorem RespacedParts.cons {l : Level} {g : Glyph} {u u' : Text}
    (hcut : cutHere? keyword l (g :: u) = none) (hcut' : cutHere? keyword l (g :: u') = none)
    (h : RespacedParts r r' a (cut keyword (l.after g) u) (cut keyword (l.after g) u')) :
    RespacedParts r r' (g :: a) (cut keyword l (g :: u)) (cut keyword l (g :: u')) := by
  generalize hparts : cut keyword (l.after g) u = parts at h
  generalize hparts' : cut keyword (l.after g) u' = parts' at h
  cases h with
  | first v rest =>
    rw [cut_cons_of_none hcut hparts, cut_cons_of_none hcut' hparts']
    exact .first v rest
  | later part h =>
    rw [cut_cons_of_none hcut hparts, cut_cons_of_none hcut' hparts']
    exact .later _ h

/-- What is left behind a keyword in front of the gap begins anew. -/
theorem anew_of_append {f x y : Text} (hne : y ≠ [])
    (hquote : ∀ g ∈ y, Literal.isQuote g = false)
    (hword : (lastGlyph none y).any Glyph.isWord = false)
    (ha : Literal.behind none (y ++ x) = none) (hon : ¬ReadsOn (f ++ (y ++ x))) :
    Literal.behind none x = none ∧ ¬ReadsOn x := by
  rw [Literal.behind_append_of_forall hquote] at ha
  rw [← List.append_assoc] at hon
  refine ⟨ha, not_readsOn_of_append hon ?_⟩
  obtain ⟨c, z, rfl⟩ := List.exists_cons_of_ne_nil hne
  rw [Place.lastGlyph_append, Place.lastGlyph_cons]
  rwa [Place.lastGlyph_cons] at hword

section

variable (hr : IsGap r) (hr' : IsGap r') (hk : ∀ c ∈ keyword, Place.isVisible c = true)
include hr hr' hk

/-- A gap is cut off with a keyword behind it, or goes into the first part. -/
theorem cut_gap (d : Nat) (b : Text) : RespacedParts r r' []
    (cut keyword ⟨none, d⟩ (r ++ b)) (cut keyword ⟨none, d⟩ (r' ++ b)) := by
  have hsame : ∀ s : Text, IsGap s →
      cutHere? keyword ⟨none, d⟩ (s ++ b) = cutHere? keyword ⟨none, d⟩ (r ++ b) := by
    intro s hs
    rw [cutHere?, cutHere?, behindKeyword?_gap hs hr hk]
  cases hcut : cutHere? keyword ⟨none, d⟩ (r ++ b) with
  | none =>
    have hnone : ∀ s : Text, IsGap s → cutHere? keyword ⟨none, d⟩ (s ++ b) = none :=
      fun s hs => (hsame s hs).trans hcut
    obtain ⟨part, parts, hparts⟩ := exists_cut_eq keyword ⟨none, d⟩ b
    rw [cut_blanks hnone hparts hr.blank, cut_blanks hnone hparts hr'.blank]
    exact .first part parts
  | some u =>
    have hparts : ∀ s : Text, IsGap s →
        cut keyword ⟨none, d⟩ (s ++ b) = [] :: cut keyword .outside u := by
      intro s hs
      have hs' := (hsame s hs).trans hcut
      obtain ⟨g, v, rfl⟩ := List.exists_cons_of_ne_nil hs.ne_nil
      exact cut_cons_of_some hs'
    rw [hparts r hr, hparts r' hr']
    exact .later [] (List.forall₂_same.mpr fun part _ => .same part)

/-- **Texts with another gap are cut into parts with another gap.** -/
theorem cut_respaced {l : Level} {f : Text} (ha : Literal.behind l.opened a = none)
    (hon : ¬ReadsOn (f ++ a)) : RespacedParts r r' a (cut keyword l (a ++ (r ++ b)))
      (cut keyword l (a ++ (r' ++ b))) := by
  -- A keyword is taken in one step, so the induction is on the length.
  induction hlen : a.length using Nat.strongRecOn generalizing a l f with
  | _ n ih =>
    subst hlen
    cases a with
    | nil =>
      obtain ⟨opened, d⟩ := l
      obtain rfl : opened = none := ha
      exact cut_gap hr hr' hk d b
    | cons g a =>
      have hhere : Option.Rel (BehindGap r r' (g :: a) b)
          (cutHere? keyword l (g :: a ++ (r ++ b))) (cutHere? keyword l (g :: a ++ (r' ++ b))) := by
        rw [cutHere?, cutHere?]
        split
        · exact behindKeyword?_acrossGap hr hr' hk (g :: a) b
        · exact .none
      obtain ⟨hcut, hcut'⟩ | ⟨u, u', hcut, hcut', hu⟩ := rel_cases hhere
      · have hnext : Literal.behind (l.after g).opened a = none := by
          rwa [← Literal.opened_behind, ← Level.behind_cons, Literal.opened_behind]
        exact .cons hcut hcut' (ih a.length (Nat.lt_succ_self _) (f := f ++ [g]) hnext
          (by rwa [List.append_assoc]) rfl)
      · have hopened : l.opened = none := by
          rw [cutHere?] at hcut
          split at hcut
          · next hlevel => rw [hlevel]; rfl
          · cases hcut
        rw [List.cons_append] at hcut hcut'
        rw [List.cons_append, List.cons_append, cut_cons_of_some hcut, cut_cons_of_some hcut']
        refine .later [] ?_
        cases hu with
        | same => exact List.forall₂_same.mpr fun part _ => .same part
        | @ahead y x hyx hne hquote hword =>
          rw [hopened, hyx] at ha
          rw [hyx] at hon
          obtain ⟨hbehind, hquiet⟩ := anew_of_append hne hquote hword ha hon
          have hshort : x.length < (g :: a).length := by
            rw [hyx, List.length_append]
            exact Nat.lt_add_of_pos_left (List.length_pos_iff.mpr hne)
          exact (ih x.length hshort (l := .outside) (f := []) hbehind hquiet rfl).forall₂ hbehind
            hquiet

theorem Respaced.split (h : Respaced r r' t t') :
    List.Forall₂ (Respaced r r') (split keyword t) (split keyword t') := by
  cases h with
  | same => exact List.forall₂_same.mpr fun part _ => .same part
  | @gap a b ha hon =>
    have hcut : RespacedParts r r' a (cut keyword .outside (a ++ (r ++ b)))
        (cut keyword .outside (a ++ (r' ++ b))) := cut_respaced hr hr' hk (f := []) ha hon
    have htrim := List.rel_map (fun _ _ hu => Respaced.trim hr hr' hu) (hcut.forall₂ ha hon)
    refine List.rel_filter (fun u u' hu => ?_) htrim
    show (!u.isEmpty) = true ↔ (!u'.isEmpty) = true
    rw [hu.isEmpty_eq hr hr']

end

/-! ## Terms -/

variable {p p' : Place}

/-- A value that begins in front of the gap ends there, or else an equality reads on. -/
theorem exists_isQuote_of_opening (hon : ¬ReadsOn a) (h : AcrossGap a r r' b p p') {q : Place}
    {name x : Text} {g : Glyph} (hhead : equalityHead? p = some (name, q))
    (hq : q.rest = g :: (x ++ (r ++ b))) (hg : Literal.isQuote g = true) :
    ∃ d ∈ x, Literal.isQuote d = true := by
  by_contra hnone
  have hquotes : ∀ d ∈ x, Literal.isQuote d = false := fun d hd =>
    Bool.eq_false_iff.mpr fun hquote => hnone ⟨d, hd, hquote⟩
  obtain ⟨z, hz⟩ := suffix_of_equalityHead? hhead
  rw [hq] at hz
  cases h with
  | @behind _ _ u hu =>
    have hlength := congrArg List.length hz
    have hle := hu.length_le
    simp only [List.length_append, List.length_cons] at hlength
    omega
  | @ahead y w ha =>
    have hwhole : (z ++ g :: x) ++ (r ++ b) = w ++ (r ++ b) := by
      rw [List.append_assoc, List.cons_append]
      exact hz
    have hw : z ++ g :: x = w := List.append_cancel_right hwhole
    have hsplit : a = (y ++ z) ++ g :: x := by rw [ha, ← hw, List.append_assoc]
    refine hon ⟨y ++ z, g, x, hsplit, hg, hquotes, ?_⟩
    refine asksForLiteral_of_equalityHead? (x := y) hg ?_ rfl hhead hq
    rw [← hz, List.append_assoc]

/-- A value does not depend on the gap, if it ends in front of the gap where it begins there. -/
theorem span1?_acrossGap (h : AcrossGap a r r' b p p')
    (hends : ∀ x : Text, p.rest = x ++ (r ++ b) → ∃ d ∈ x, Literal.isQuote d = true) :
    Option.Rel (fun f f' => f.1 = f'.1 ∧ AcrossGap a r r' b f.2 f'.2)
      (p.span1? fun g => !Literal.isQuote g) (p'.span1? fun g => !Literal.isQuote g) := by
  cases h with
  | @behind b₁ b₂ u hu hword =>
    rw [Place.span1?_eq, Place.span1?_eq]
    split
    · exact .none
    · exact .some ⟨rfl, .behind ((List.dropWhile_suffix _).trans hu)
        (Place.any_isWord_lastGlyph hword _)⟩
  | @ahead y x ha =>
    have hnot : ¬∀ g ∈ x, (!Literal.isQuote g) = true := by
      obtain ⟨d, hd, hquote⟩ := hends x rfl
      intro hall
      exact absurd (hall d hd) (by rw [hquote]; decide)
    obtain ⟨v, q, z, rfl, hv, hq⟩ := Text.exists_first_of_not_forall hnot
    rw [Bool.not_eq_false'] at hq
    by_cases hnil : v = []
    · subst hnil
      have hnone : ∀ s : Text, Place.span1? (fun g => !Literal.isQuote g)
          ⟨lastGlyph none y, [] ++ q :: z ++ (s ++ b)⟩ = none := by
        intro s
        rw [Place.span1?_eq, if_pos]
        exact List.takeWhile_cons_of_neg (by rw [hq]; decide)
      rw [hnone, hnone]
      exact .none
    · have hsome : ∀ s : Text, Place.span1? (fun g => !Literal.isQuote g)
          ⟨lastGlyph none y, v ++ q :: z ++ (s ++ b)⟩ =
            some (v, ⟨lastGlyph none (y ++ v), q :: z ++ (s ++ b)⟩) := by
        intro s
        rw [List.append_assoc, Place.lastGlyph_append]
        refine Place.span1?_append hnil hv ?_ _
        rintro g ⟨⟩
        rw [hq]
        rfl
      rw [hsome, hsome]
      exact .some ⟨rfl, .ahead (by rw [ha, List.append_assoc])⟩

section

variable (hr : IsGap r) (hr' : IsGap r')
include hr hr'

theorem equality?_acrossGap (hon : ¬ReadsOn a) (h : AcrossGap a r r' b p p') :
    Option.Rel (fun f f' => f.1 = f'.1 ∧ AcrossGap a r r' b f.2 f'.2) (equality? p)
      (equality? p') := by
  have hR := Place.agreeing_acrossGap hr hr' a b
  have hquotes : ∀ c ∈ ['\'', '"'], (Glyph.char c).isBlank = false := by decide
  rw [equality?_eq, equality?_eq, equalityOpening?, equalityOpening?, Option.bind_assoc,
    Option.bind_assoc]
  refine rel_bind (rel_and_left (equalityHead?_rel hR h)
    (P := fun f => equalityHead? p = some f) fun _ hf => hf) fun f f' hf => ?_
  obtain ⟨name, q⟩ := f
  obtain ⟨name', q'⟩ := f'
  obtain ⟨⟨hname, hq⟩, hhead⟩ := hf
  obtain rfl : name = name' := by rwa [List.forall₂_eq_eq_eq] at hname
  rw [Option.bind_map, Option.bind_map]
  refine rel_bind (rel_and_left (hq.sign? hr hr' hquotes) fun _ => Place.exists_of_sign?)
    fun c c' hc => ?_
  obtain ⟨hplace, g, hopening, hg⟩ := hc
  have hends : ∀ x : Text, c.rest = x ++ (r ++ b) → ∃ d ∈ x, Literal.isQuote d = true := by
    intro x hx
    rw [hx] at hopening
    exact exists_isQuote_of_opening hon h hhead hopening hg
  refine rel_bind (span1?_acrossGap hplace hends) fun v v' hv => ?_
  refine rel_map (hv.2.sign? hr hr' hquotes) fun d d' hd => ⟨?_, hd⟩
  rw [hv.1]

end

/-- Says that a form of a term does not begin with a blank. -/
def BeginsNoGap {α : Type} (form : Place → Option α) : Prop :=
  ∀ (before : Option Glyph) (g : Glyph) (t : Text), g.isBlank = true →
    form ⟨before, g :: t⟩ = none

theorem beginsNoGap_words {β : Type} {words : List (List Char)}
    (hwords : ∀ word ∈ words, word.head?.all (fun c => (Glyph.char c).isBlank) = false)
    (more : Text × Place → Option β) :
    BeginsNoGap fun p => p.edge?.bind fun p => (p.oneOf? words).bind more := by
  refine fun before g t hg => Place.words?_eq_none (fun word hword => ?_) more before t
  have hletter := hwords word hword
  cases word with
  | nil => cases hletter
  | cons c _ => exact Glyph.agrees_of_isBlank hletter hg

theorem beginsNoGap_equality? : BeginsNoGap equality? := beginsNoGap_words (by decide) _

theorem beginsNoGap_beforeNow? : BeginsNoGap beforeNow? := beginsNoGap_words (by decide) _

theorem beginsNoGap_keyword {β : Type} {c : Char} (hc : (Glyph.char c).isBlank = false)
    (cs : List Char) (more : Place → Option β) :
    BeginsNoGap fun p => p.edge?.bind fun p => (p.word? (c :: cs)).bind more :=
  fun before _ t hg => Place.keyword?_eq_none (Glyph.agrees_of_isBlank hc hg) cs more before t

theorem beginsNoGap_lowStock? : BeginsNoGap lowStock? :=
  beginsNoGap_keyword (c := 'q') (by decide) _ _

theorem beginsNoGap_lastQuarter? : BeginsNoGap lastQuarter? :=
  beginsNoGap_keyword (c := 'o') (by decide) _ _

section

variable (hr : IsGap r) (hr' : IsGap r')
include hr hr'

/-- **A term asks for the same with any gap in it.** -/
theorem ofTerm_respaced (h : Respaced r r' t t') : ofTerm t = ofTerm t' := by
  cases h with
  | same => rfl
  | @gap a b ha hon =>
    have hR := Place.agreeing_acrossGap hr hr' a b
    have hstart := Place.acrossGap_start a r r' b
    have hequalities := Place.allMatches_rel (R := AcrossGap a r r' b) (V := (· = ·))
      (fun _ _ hp => hp.onward hr hr' beginsNoGap_equality?)
      (fun _ _ hp => rel_mono (equality?_acrossGap hr hr' hon hp) fun _ _ hf =>
        ⟨hf.1, .of_rel hf.2⟩)
      (fun _ _ => length_lt_of_equality?) (.of_rel hstart)
    have hdates := Place.allMatches_rel (R := AcrossGap a r r' b) (V := (· = ·))
      (fun _ _ hp => hp.onward hr hr' beginsNoGap_beforeNow?)
      (fun _ _ hp => rel_mono (beforeNow?_rel hR hp) fun _ _ hf => ⟨hf.1.eq, .of_rel hf.2⟩)
      (fun _ _ => length_lt_of_beforeNow?) (.of_rel hstart)
    have hstock := isSome_eq_of_rel <| Place.firstMatch_rel (R := AcrossGap a r r' b)
      (fun _ _ hp => hp.onward hr hr' beginsNoGap_lowStock?) (fun _ _ => lowStock?_rel hR)
      (.of_rel hstart)
    have hquarter := isSome_eq_of_rel <| Place.firstMatch_rel (R := AcrossGap a r r' b)
      (fun _ _ hp => hp.onward hr hr' beginsNoGap_lastQuarter?) (fun _ _ => lastQuarter?_rel hR)
      (.of_rel hstart)
    rw [List.forall₂_eq_eq_eq] at hequalities hdates
    unfold ofTerm
    dsimp only
    rw [hequalities, hdates, hstock, hquarter]

/-- **With any gap in it a term is the one of late work orders, or it is not.** -/
theorem isDelayedTerm_respaced (h : Respaced r r' t t') : isDelayedTerm t = isDelayedTerm t' := by
  cases h with
  | same => rfl
  | @gap a b ha hon =>
    have hR := Place.agreeing_acrossGap hr hr' a b
    have hvisible : ∀ word ∈ ["status".toList, "delayed".toList],
        ∀ c ∈ word, Place.isVisible c = true := by decide
    have hquotes : ∀ c ∈ ['\'', '"'], (Glyph.char c).isBlank = false := by decide
    have hfound : Option.Rel (AcrossGap a r r' b)
        (do let p ← (Place.start (a ++ (r ++ b))).word? "status".toList
            let p ← p.blanks.sign? ['=']
            let p ← p.blanks.sign? ['\'', '"']
            let p ← p.word? "delayed".toList
            p.sign? ['\'', '"'])
        (do let p ← (Place.start (a ++ (r' ++ b))).word? "status".toList
            let p ← p.blanks.sign? ['=']
            let p ← p.blanks.sign? ['\'', '"']
            let p ← p.word? "delayed".toList
            p.sign? ['\'', '"']) := by
      refine rel_bind (hR.word? (hvisible _ (by decide)) (Place.acrossGap_start a r r' b))
        fun p p' hp => ?_
      refine rel_bind (hR.sign? (by decide) (hR.blanks hp)) fun q q' hq => ?_
      refine rel_bind ((hR.blanks hq).sign? hr hr' hquotes) fun c c' hc => ?_
      exact rel_bind (hR.word? (hvisible _ (by decide)) hc) fun d d' hd => hd.sign? hr hr' hquotes
    unfold isDelayedTerm
    dsimp only
    obtain ⟨hnone, hnone'⟩ | ⟨q, q', hsome, hsome', hq⟩ := rel_cases hfound
    · rw [hnone, hnone']
    · rw [hsome, hsome', Option.any_some, Option.any_some, hq.isEmpty_eq hr hr']

/-! ## Reading -/

theorem readsInStep_respaced : ReadsInStep (Respaced r r') (· = ·) where
  isEmpty_eq h := h.isEmpty_eq hr hr'
  unwrap h := h.unwrap hr hr'
  split hk h := h.split hr hr' (by cases hk <;> decide)
  isDelayedTerm_eq h := isDelayedTerm_respaced hr hr' h
  ofTerm h := by rw [ofTerm_respaced hr hr' h, List.forall₂_eq_eq_eq]
  lateWork := rfl

/-- **A condition is read as the same with any gap in it.** -/
theorem read_respaced (h : Respaced r r' t t') : read t = read t' := by
  have hread := (readsInStep_respaced hr hr').read h
  rwa [List.forall₂_eq_eq_eq] at hread

end

end Condition
end QueryDesk
