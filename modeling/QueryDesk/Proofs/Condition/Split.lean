import QueryDesk.Proofs.Condition.Respaced

/-!
# Splitting is complete and reading ends

A text is split at a keyword once and for all: a part holds the keyword nowhere outside of literals
and parentheses (`IsWhole.not_holdsKeyword`), and so is not split any further (`split_of_mem_split`).
The parts stand in the text one behind the other, and nothing else does but blanks and keywords
(`isSplitInto_split`).

What carries this is that a reader stands outside of literals and parentheses at the start of each
part, whatever the text in front of it was like, so that a part by itself is read from the same
level as in the text (`isWhole_of_cut`); and that a keyword found in a part by itself would have
been found in the text (`isSome_behindKeyword?_append`).

Several parts are shorter than the text each, so reading ends on every text: as many rounds for
enclosing parentheses are enough as the text has glyphs (`unwrapWithin_eq`), and as many readings
inside one another and one more (`readWithin_eq`).
-/

set_option autoImplicit false

namespace QueryDesk
namespace Condition

variable {keyword : List Char} {level : Level} {t part : Text}

/-! ## Keywords in a longer text -/

/-- A keyword stands at the front of a text with blanks on both sides. -/
theorem isSome_behindKeyword? (hk : IsJoiner keyword) {y w z : Text} (hy : IsGap y)
    (hw : w.Spells keyword) (hz : IsGap z) (u : Text) :
    (behindKeyword? keyword (y ++ (w ++ (z ++ u)))).isSome = true := by
  obtain ⟨c, cs, rfl, hc⟩ : ∃ c cs, keyword = c :: cs ∧ (Glyph.char c).isBlank = false := by
    cases hk <;> exact ⟨_, _, rfl, by decide⟩
  obtain ⟨g, w, hg, hw', rfl⟩ := List.forall₂_cons_right_iff.mp hw
  have hhead : ∀ a ∈ (g :: w ++ (z ++ u)).head?, a.isBlank = false := by
    rintro _ ⟨⟩
    rw [← Bool.not_eq_true]
    intro hblank
    rw [Glyph.agrees_of_isBlank hc hblank] at hg
    cases hg
  have hfirst : (Place.start (y ++ (g :: w ++ (z ++ u)))).blanks1? =
      some ⟨Place.lastGlyph none y, g :: w ++ (z ++ u)⟩ := by
    rw [Place.blanks1?, Place.start, Place.span1?_append hy.ne_nil hy.blank hhead]
    rfl
  obtain ⟨q, hq, hrest⟩ : ∃ q, Place.word? (c :: cs) ⟨Place.lastGlyph none y, g :: w ++ (z ++ u)⟩ =
      some q ∧ q.rest = z ++ u :=
    ⟨⟨Place.lastGlyph (Place.lastGlyph none y) (g :: w), z ++ u⟩,
      Place.word?_eq_some_iff.mpr ⟨g :: w, .cons hg hw', rfl, rfl⟩, rfl⟩
  have hlast : q.blanks1?.isSome = true := by
    obtain ⟨b, z, rfl⟩ := List.exists_cons_of_ne_nil hz.ne_nil
    rw [Place.blanks1?, Option.isSome_map, Place.span1?_eq, hrest, if_neg]
    · rfl
    · rw [List.cons_append, List.takeWhile_cons, if_pos (hz.blank b List.mem_cons_self)]
      exact List.cons_ne_nil _ _
  simp only [behindKeyword?, Option.bind_eq_bind, hfirst, Option.bind_some, hq]
  obtain ⟨r, hr⟩ := Option.isSome_iff_exists.mp hlast
  rw [hr]
  rfl

/-- **A keyword that is found in a text is found in a longer one.** -/
theorem isSome_behindKeyword?_append (hk : IsJoiner keyword) {behind : Text}
    (h : behindKeyword? keyword t = some behind) (more : Text) :
    (behindKeyword? keyword (t ++ more)).isSome = true := by
  obtain ⟨y, w, z, rfl, hy, hw, hz⟩ := exists_of_behindKeyword? h
  simpa only [List.append_assoc] using isSome_behindKeyword? hk hy hw hz (behind ++ more)

/-! ## Texts that are not cut -/

/-- Says that no cut falls into a text by itself, read from a level on. -/
def IsWhole (keyword : List Char) (level : Level) (t : Text) : Prop :=
  ∀ s u, t = s ++ u → cutHere? keyword (level.behind s) u = none

theorem isWhole_nil (keyword : List Char) (level : Level) : IsWhole keyword level [] := by
  intro s u h
  obtain ⟨rfl, rfl⟩ := List.nil_eq_append_iff.mp h
  rw [cutHere?]
  split <;> rfl

theorem isWhole_cons_iff {g : Glyph} : IsWhole keyword level (g :: t) ↔
    cutHere? keyword level (g :: t) = none ∧ IsWhole keyword (level.after g) t := by
  constructor
  · exact fun h => ⟨h [] _ rfl, fun s u hsu => h (g :: s) u (congrArg (g :: ·) hsu)⟩
  · rintro ⟨hhere, hrest⟩ s u hsu
    rcases List.cons_eq_append_iff.mp hsu with ⟨rfl, rfl⟩ | ⟨front, rfl, ht⟩
    · exact hhere
    · exact hrest front u ht

theorem IsWhole.cut_eq (h : IsWhole keyword level t) : cut keyword level t = [t] := by
  induction t generalizing level with
  | nil => rw [cut]
  | cons g t ih =>
    obtain ⟨hhere, hrest⟩ := isWhole_cons_iff.mp h
    exact cut_cons_of_none hhere (ih hrest)

theorem IsWhole.behind {s u : Text} (h : IsWhole keyword level (s ++ u)) :
    IsWhole keyword (level.behind s) u := by
  intro s' u' hu
  rw [← Level.behind_append]
  exact h (s ++ s') u' (by rw [hu, List.append_assoc])

theorem cutHere?_of_append (hk : IsJoiner keyword) (more : Text)
    (h : cutHere? keyword level (t ++ more) = none) : cutHere? keyword level t = none := by
  rw [cutHere?] at h ⊢
  split
  · next houtside =>
    rw [if_pos houtside] at h
    rw [← Option.not_isSome_iff_eq_none]
    intro hsome
    obtain ⟨behind, hbehind⟩ := Option.isSome_iff_exists.mp hsome
    have hmore := isSome_behindKeyword?_append hk hbehind more
    rw [h] at hmore
    cases hmore
  · rfl

theorem IsWhole.front (hk : IsJoiner keyword) {s u : Text} (h : IsWhole keyword level (s ++ u)) :
    IsWhole keyword level s := by
  intro s' u' hs
  refine cutHere?_of_append hk u (h s' (u' ++ u) ?_)
  rw [hs, List.append_assoc]

/-- A reader stays outside over blanks. -/
theorem behind_blanks {b : Text} (hb : ∀ g ∈ b, g.isBlank = true) :
    Level.outside.behind b = .outside := by
  induction b with
  | nil => rfl
  | cons g b ih =>
    obtain ⟨hg, hb⟩ := List.forall_mem_cons.mp hb
    have hafter : Level.outside.after g = .outside := after_of_isBlank hg 0
    rw [Level.behind_cons, hafter, ih hb]

theorem IsWhole.trim (hk : IsJoiner keyword) (h : IsWhole keyword .outside t) :
    IsWhole keyword .outside t.trim := by
  obtain ⟨b, b', ht, hb, -⟩ := t.exists_trim
  rw [ht] at h
  have hbehind := h.behind
  rw [behind_blanks hb] at hbehind
  exact hbehind.front hk

/-- **No cut falls into what is cut out of a text.**  The first part is read from the level in front
of the text on, every other one from outside. -/
theorem isWhole_of_cut (hk : IsJoiner keyword) (level : Level) (t : Text) :
    ∃ head tail, cut keyword level t = head :: tail ∧ head <+: t ∧
      IsWhole keyword level head ∧ ∀ part ∈ tail, IsWhole keyword .outside part := by
  fun_induction cut keyword level t with
  | case1 level => exact ⟨[], [], rfl, List.nil_prefix, isWhole_nil _ _, by simp⟩
  | case2 level g rest behind hcut ih =>
    obtain ⟨head, tail, hparts, -, hhead, htail⟩ := ih
    rw [hparts]
    exact ⟨[], _, rfl, List.nil_prefix, isWhole_nil _ _, List.forall_mem_cons.mpr ⟨hhead, htail⟩⟩
  | case3 level g rest hcut hnil ih =>
    obtain ⟨head, tail, hparts, -⟩ := ih
    rw [hnil] at hparts
    cases hparts
  | case4 level g rest hcut part parts hparts ih =>
    obtain ⟨head, tail, hcons, ⟨more, rfl⟩, hhead, htail⟩ := ih
    obtain ⟨rfl, rfl⟩ := List.cons.inj (hparts.symm.trans hcons)
    refine ⟨g :: part, parts, rfl, ⟨more, rfl⟩, isWhole_cons_iff.mpr ⟨?_, hhead⟩, htail⟩
    exact cutHere?_of_append hk more hcut

theorem isWhole_of_mem_split (hk : IsJoiner keyword) (h : part ∈ split keyword t) :
    IsWhole keyword .outside part := by
  obtain ⟨raw, hraw, rfl⟩ := List.mem_map.mp (List.mem_filter.mp h).1
  obtain ⟨head, tail, hparts, -, hhead, htail⟩ := isWhole_of_cut hk .outside t
  rw [hparts] at hraw
  exact (List.forall_mem_cons.mpr ⟨hhead, htail⟩ raw hraw).trim hk

/-! ## Parts -/

/-- Says that a keyword stands in a text outside of literals and parentheses, with blanks on both
sides. -/
def HoldsKeyword (keyword : List Char) (t : Text) : Prop :=
  ∃ s y w z u : Text, t = s ++ (y ++ (w ++ (z ++ u))) ∧ Level.outside.behind s = .outside ∧
    IsGap y ∧ w.Spells keyword ∧ IsGap z

theorem IsWhole.not_holdsKeyword (hk : IsJoiner keyword) (h : IsWhole keyword .outside t) :
    ¬HoldsKeyword keyword t := by
  rintro ⟨s, y, w, z, u, ht, houtside, hy, hw, hz⟩
  have hnone := h s _ ht
  rw [houtside, cutHere?_outside] at hnone
  have hsome := isSome_behindKeyword? hk hy hw hz u
  rw [hnone] at hsome
  cases hsome

/-- What a part is: neither empty nor with outer blanks. -/
theorem isTight_of_mem_split (h : part ∈ split keyword t) : part ≠ [] ∧ part.IsTight := by
  obtain ⟨hmem, hne⟩ := List.mem_filter.mp h
  obtain ⟨raw, -, rfl⟩ := List.mem_map.mp hmem
  exact ⟨by simpa using hne, Text.isTight_trim raw⟩

/-- **A part is not split any further.** -/
theorem split_of_mem_split (hk : IsJoiner keyword) (h : part ∈ split keyword t) :
    split keyword part = [part] := by
  obtain ⟨hne, htight⟩ := isTight_of_mem_split h
  rw [split, (isWhole_of_mem_split hk h).cut_eq, List.map_singleton, Text.trim_eq_self htight,
    List.filter_cons_of_pos (by simpa using hne), List.filter_nil]

/-! ## What stands between the parts -/

/-- What may stand between the parts of a text: blanks and keywords. -/
inductive IsBetween (keyword : List Char) : Text → Prop
  | nil : IsBetween keyword []
  | blank {g : Glyph} {t : Text} (hg : g.isBlank = true) (ht : IsBetween keyword t) :
      IsBetween keyword (g :: t)
  | keyword {w t : Text} (hw : w.Spells keyword) (ht : IsBetween keyword t) :
      IsBetween keyword (w ++ t)

theorem IsBetween.append {s u : Text} (hs : IsBetween keyword s) (hu : IsBetween keyword u) :
    IsBetween keyword (s ++ u) := by
  induction hs with
  | nil => exact hu
  | blank hg _ ih => exact .blank hg ih
  | keyword hw _ ih =>
    rw [List.append_assoc]
    exact .keyword hw ih

theorem IsBetween.of_blank {b : Text} (hb : ∀ g ∈ b, g.isBlank = true) : IsBetween keyword b := by
  induction b with
  | nil => exact .nil
  | cons g b ih =>
    obtain ⟨hg, hb⟩ := List.forall_mem_cons.mp hb
    exact .blank hg (ih hb)

/-- Says that a text is made of parts, one behind the other, and of what may stand between them. -/
inductive IsSplitInto (keyword : List Char) : List Text → Text → Prop
  | nil {gap : Text} (hgap : IsBetween keyword gap) : IsSplitInto keyword [] gap
  | cons {gap rest : Text} {parts : List Text} (part : Text) (hgap : IsBetween keyword gap)
      (hrest : IsSplitInto keyword parts rest) :
      IsSplitInto keyword (part :: parts) (gap ++ (part ++ rest))

namespace IsSplitInto

variable {parts : List Text}

theorem between_append {s : Text} (hs : IsBetween keyword s) (h : IsSplitInto keyword parts t) :
    IsSplitInto keyword parts (s ++ t) := by
  cases h with
  | nil hgap => exact .nil (hs.append hgap)
  | cons part hgap hrest =>
    rw [← List.append_assoc]
    exact .cons part (hs.append hgap) hrest

theorem trim (h : IsSplitInto keyword parts t) : IsSplitInto keyword (parts.map Text.trim) t := by
  induction h with
  | nil hgap => exact .nil hgap
  | @cons gap rest parts part hgap _ ih =>
    obtain ⟨b, b', hpart, hb, hb'⟩ := part.exists_trim
    have hwhole : gap ++ (part ++ rest) = (gap ++ b) ++ (part.trim ++ (b' ++ rest)) := by
      conv_lhs => rw [hpart]
      simp only [List.append_assoc]
    rw [hwhole]
    exact .cons part.trim (hgap.append (.of_blank hb)) (ih.between_append (.of_blank hb'))

/-- Empty parts may be left out. -/
theorem filter_isEmpty (h : IsSplitInto keyword parts t) :
    IsSplitInto keyword (parts.filter fun part => !part.isEmpty) t := by
  induction h with
  | nil hgap => exact .nil hgap
  | cons part hgap _ ih =>
    cases part with
    | nil => exact ih.between_append hgap
    | cons g part => exact .cons (g :: part) hgap ih

end IsSplitInto

theorem isSplitInto_cut (keyword : List Char) (level : Level) (t : Text) :
    ∃ head tail rest, cut keyword level t = head :: tail ∧ t = head ++ rest ∧
      IsSplitInto keyword tail rest := by
  fun_induction cut keyword level t with
  | case1 => exact ⟨[], [], [], rfl, rfl, .nil .nil⟩
  | case2 level g t behind hcut ih =>
    obtain ⟨head, tail, rest, hparts, rfl, hrest⟩ := ih
    rw [cutHere?] at hcut
    split at hcut
    · obtain ⟨y, w, z, ht, hy, hw, hz⟩ := exists_of_behindKeyword? hcut
      have hbetween : IsBetween keyword (y ++ (w ++ z)) :=
        (IsBetween.of_blank hy.blank).append (.keyword hw (.of_blank hz.blank))
      refine ⟨[], _, _, rfl, rfl, ?_⟩
      rw [ht, hparts]
      simpa only [List.append_assoc] using IsSplitInto.cons head hbetween hrest
    · cases hcut
  | case3 level g t hcut hnil ih =>
    obtain ⟨head, tail, rest, hparts, -⟩ := ih
    rw [hnil] at hparts
    cases hparts
  | case4 level g t hcut part parts hparts ih =>
    obtain ⟨head, tail, rest, hcons, rfl, hrest⟩ := ih
    obtain ⟨rfl, rfl⟩ := List.cons.inj (hparts.symm.trans hcons)
    exact ⟨g :: part, parts, rest, rfl, rfl, hrest⟩

/-- **A text is made of its parts**, in order, and of blanks and keywords between them. -/
theorem isSplitInto_split (keyword : List Char) (t : Text) :
    IsSplitInto keyword (split keyword t) t := by
  obtain ⟨head, tail, rest, hparts, ht, hrest⟩ := isSplitInto_cut keyword .outside t
  have hcut : IsSplitInto keyword (cut keyword .outside t) t := by
    rw [hparts]
    conv_rhs => rw [ht]
    exact .cons head .nil hrest
  exact hcut.trim.filter_isEmpty

/-! ## Reading ends -/

/-- Takes enclosing parentheses off a text without outer blanks, in so many rounds at most. -/
def unwrapWithin : Nat → Text → Option Text
  | 0, t => if isWrapped t then none else some t
  | rounds + 1, t =>
    if isWrapped t then unwrapWithin rounds (Text.trim (t.drop 1).dropLast) else some t

/-- Reads a text with so many readings inside one another at most, and so many rounds for the
parentheses of each. -/
def readWithin : Nat → Text → Option (List Predicate)
  | 0, _ => none
  | steps + 1, t =>
    (unwrapWithin steps t.trim).bind fun condition =>
      if condition.isEmpty then some []
      else
        match split "or".toList condition with
        | first :: _ :: _ =>
          (unwrapWithin steps first.trim).map fun first =>
            if isDelayedTerm first then [.lateWork] else []
        | _ =>
          if 2 ≤ (split "and".toList condition).length then
            ((split "and".toList condition).mapM fun part => readWithin steps part).map List.flatten
          else some (ofTerm condition)

/-- **The loop over enclosing parentheses ends.** -/
theorem unwrapWithin_eq {rounds : Nat} (h : t.length ≤ rounds) :
    unwrapWithin rounds t = some (unwrapTrimmed t) := by
  induction rounds generalizing t with
  | zero =>
    obtain rfl := List.length_eq_zero_iff.mp (Nat.le_zero.mp h)
    rw [unwrapTrimmed_eq_self rfl]
    rfl
  | succ rounds ih =>
    rw [unwrapWithin, unwrapTrimmed]
    split
    · have hle := length_trim_le (t.drop 1).dropLast
      rw [List.length_dropLast, List.length_drop] at hle
      exact ih (by omega)
    · rfl

theorem unwrapWithin_trim {rounds : Nat} (h : t.length ≤ rounds) :
    unwrapWithin rounds t.trim = some (unwrap t) :=
  unwrapWithin_eq ((length_trim_le t).trans h)

theorem length_le_of_mem_split (h : part ∈ split keyword t) : part.length ≤ t.length := by
  obtain ⟨raw, hraw, rfl⟩ := List.mem_map.mp (List.mem_filter.mp h).1
  have hfits := (length_add_length_cut_le keyword .outside t).2 raw hraw
  have hpos := List.length_pos_of_mem hraw
  have hle := length_trim_le raw
  omega

theorem mapM_eq_some {α β : Type} {f : α → Option β} {g : α → β} {l : List α}
    (h : ∀ a ∈ l, f a = some (g a)) : l.mapM f = some (l.map g) := by
  induction l with
  | nil => rfl
  | cons a l ih =>
    obtain ⟨ha, hl⟩ := List.forall_mem_cons.mp h
    rw [List.mapM_cons, ha, ih hl]
    rfl

/-- **Reading ends**, on every text: a part that is read is shorter than the text. -/
theorem readWithin_eq {steps : Nat} (h : t.length < steps) :
    readWithin steps t = some (read t) := by
  induction steps generalizing t with
  | zero => exact absurd h (Nat.not_lt_zero _)
  | succ steps ih =>
    have hle : t.length ≤ steps := Nat.le_of_lt_succ h
    have hunwrap := (length_unwrap_le t).trans hle
    have hconjunction : (if 2 ≤ (split "and".toList (unwrap t)).length then
          ((split "and".toList (unwrap t)).mapM fun part => readWithin steps part).map List.flatten
        else some (ofTerm (unwrap t))) =
        some (if 2 ≤ (split "and".toList (unwrap t)).length then
          (split "and".toList (unwrap t)).attach.flatMap fun part => read part.1
        else ofTerm (unwrap t)) := by
      split
      · next hmany =>
        have hread : ∀ part ∈ split "and".toList (unwrap t),
            readWithin steps part = some (read part) := fun part hpart =>
          ih ((length_lt_of_mem_split hmany hpart).trans_le hunwrap)
        rw [mapM_eq_some hread, List.flatMap_subtype fun _ _ => rfl, List.unattach_attach]
        rfl
      · rfl
    rw [readWithin, unwrapWithin_trim hle, Option.bind_some, read]
    split
    · rfl
    · cases hor : split "or".toList (unwrap t) with
      | nil => exact hconjunction
      | cons first others =>
        cases others with
        | nil => exact hconjunction
        | cons second others =>
          have hfirst : first ∈ split "or".toList (unwrap t) := by
            rw [hor]
            exact List.mem_cons_self
          dsimp only
          rw [unwrapWithin_trim ((length_le_of_mem_split hfirst).trans hunwrap)]
          rfl

/-- **Splitting is complete and reading ends.**  Whatever the quotes and parentheses of a text are
like: its parts are neither empty nor have they outer blanks, they hold the keyword no more and are
not split again, they are all that there is but blanks and keywords, and several of them are shorter
than the text each.  Its enclosing parentheses come off within as many rounds, and it is read within
as many steps and one more, as it has glyphs. -/
theorem split_complete (hk : IsJoiner keyword) (t : Text) :
    (∀ part ∈ split keyword t, part ≠ [] ∧ part.IsTight ∧ split keyword part = [part] ∧
        ¬HoldsKeyword keyword part) ∧
      IsSplitInto keyword (split keyword t) t ∧
      (2 ≤ (split keyword t).length → ∀ part ∈ split keyword t, part.length < t.length) ∧
      unwrapWithin t.length t.trim = some (unwrap t) ∧
      readWithin (t.length + 1) t = some (read t) := by
  refine ⟨fun part hpart => ?_, isSplitInto_split keyword t,
    fun hmany part hpart => length_lt_of_mem_split hmany hpart, unwrapWithin_trim le_rfl,
    readWithin_eq (Nat.lt_succ_self _)⟩
  obtain ⟨hne, htight⟩ := isTight_of_mem_split hpart
  exact ⟨hne, htight, split_of_mem_split hk hpart,
    (isWhole_of_mem_split hk hpart).not_holdsKeyword hk⟩

/-- A parenthesis that closes nothing, keywords in parentheses, next to one another and in any case,
and a literal without an end. -/
theorem split_complete_unbalanced :
    let t := Text.of ") AND (x AND y) And AND 'open AND z"
    IsJoiner "and".toList ∧ split "and".toList t =
        [Text.of ")", Text.of "(x AND y)", Text.of "AND 'open AND z"] ∧
      (∀ part ∈ split "and".toList t, part.length < t.length ∧
        split "and".toList part = [part] ∧ ¬HoldsKeyword "and".toList part) ∧
      readWithin 36 t = some (read t) := by
  intro t
  have hsplit : split "and".toList t =
      [Text.of ")", Text.of "(x AND y)", Text.of "AND 'open AND z"] := by decide +kernel
  obtain ⟨hparts, -, hshorter, -, hread⟩ := split_complete .and t
  have hmany : 2 ≤ (split "and".toList t).length := by
    rw [hsplit]
    decide
  exact ⟨.and, hsplit, fun part hpart => ⟨hshorter hmany part hpart, (hparts part hpart).2.2⟩, hread⟩

end Condition
end QueryDesk
