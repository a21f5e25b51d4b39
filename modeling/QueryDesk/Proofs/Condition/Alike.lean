import QueryDesk.Proofs.Condition.Parts
import QueryDesk.Proofs.Statement.Alike

/-!
# Taking conditions apart that are alike

Conditions that are alike come apart in the same way.  The reader of conditions and the pieces of a
text agree about literals, so it stands at the same depth in front of the same pieces
(`exists_after_eq`).  Hence enclosing parentheses come off both texts or neither
(`isWrapped_eq_of_alike`, `unwrap_alike`), and both are cut at the same keywords into as many parts,
which are alike again (`cut_alike`, `split_alike`).
-/

set_option autoImplicit false

namespace QueryDesk
namespace Condition

open Place (lastGlyph)

variable {L : Likeness} {before t t' : Text}

/-! ## Depth -/

/-- Outside literals the same letter leads to one depth. -/
theorem exists_after_eq {g g' : Glyph} (hg : Literal.isQuote g = false) (h : g.SameLetter g')
    (d : Nat) : ∃ d', (⟨none, d⟩ : Level).after g = ⟨none, d'⟩ ∧
      (⟨none, d⟩ : Level).after g' = ⟨none, d'⟩ := by
  have hg' : ¬ Literal.isQuote g' = true := by rw [← h.isQuote_eq, hg]; exact Bool.false_ne_true
  have hopen := h.eq_char_iff (c := '(') (by decide)
  have hclose := h.eq_char_iff (c := ')') (by decide)
  unfold Level.after
  dsimp only
  rw [if_neg (by rw [hg]; exact Bool.false_ne_true), if_neg hg']
  by_cases ho : g = .char '('
  · exact ⟨d + 1, if_pos ho, if_pos (hopen.mp ho)⟩
  · rw [if_neg ho, if_neg (mt hopen.mpr ho)]
    by_cases hc : g = .char ')'
    · exact ⟨d - 1, if_pos hc, if_pos (hclose.mp hc)⟩
    · exact ⟨d, if_neg hc, if_neg (mt hclose.mpr hc)⟩

theorem after_quote {q : Glyph} (hq : Literal.isQuote q = true) (d : Nat) :
    (⟨none, d⟩ : Level).after q = ⟨some q, d⟩ := by
  unfold Level.after
  dsimp only
  rw [if_pos hq]

/-! ## Parentheses -/

/-- A parenthesis closes at the end of the content of a literal and the quote that ends it only if
it was closed before. -/
theorem closesAtEnd_content {q : Glyph} {c : Text} (hc : q ∉ c) (d : Nat) (t : Text) :
    closesAtEnd ⟨some q, d⟩ (c ++ q :: t) =
      if d = 0 then t.isEmpty else closesAtEnd ⟨none, d⟩ t := by
  induction c with
  | nil =>
    have hafter : (⟨some q, d⟩ : Level).after q = ⟨none, d⟩ := by
      rw [Level.after, Literal.after, if_pos rfl]
    rw [List.nil_append, closesAtEnd, hafter]
    simp
  | cons g c ih =>
    rw [List.mem_cons, not_or] at hc
    have hafter : (⟨some q, d⟩ : Level).after g = ⟨some q, d⟩ := by
      rw [Level.after, Literal.after, if_neg (Ne.symm hc.1)]
    rw [List.cons_append, closesAtEnd, hafter, ih hc.2]
    simp

theorem closesAtEnd_literal {q : Glyph} {c : Text} (hq : Literal.isQuote q = true) (hc : q ∉ c)
    (d : Nat) (t : Text) : closesAtEnd ⟨none, d⟩ (q :: (c ++ q :: t)) =
      if d = 0 then t.isEmpty else closesAtEnd ⟨none, d⟩ t := by
  rw [closesAtEnd, after_quote hq, closesAtEnd_content hc]
  simp

theorem closesAtEnd_eq_of_alike (h : Alike L before t t') (d : Nat) :
    closesAtEnd ⟨none, d⟩ t = closesAtEnd ⟨none, d⟩ t' := by
  induction h generalizing d with
  | nil => rfl
  | glyph hg hgg ht ih =>
    obtain ⟨d', hafter, hafter'⟩ := exists_after_eq hg (L.sameLetter hgg) d
    rw [closesAtEnd, closesAtEnd, hafter, hafter', ht.isEmpty_eq, ih]
  | literal hq hc hc' hcc ht ih =>
    rw [closesAtEnd_literal hq hc, closesAtEnd_literal hq hc', ht.isEmpty_eq, ih]
  | opened hq hc => rfl

theorem isWrapped_eq_of_alike (h : Alike L [] t t') : isWrapped t = isWrapped t' := by
  have hhead : (t.head? == some (.char '(')) = (t'.head? == some (.char '(')) := by
    cases h with
    | nil => rfl
    | glyph hg hgg ht =>
      rw [List.head?_cons, List.head?_cons, beq_eq_beq, Option.some.injEq, Option.some.injEq]
      exact (L.sameLetter hgg).eq_char_iff (by decide)
    | literal hq hc hc' hcc ht => rfl
    | opened hq hc => rfl
  rw [isWrapped, isWrapped, hhead, show closesAtEnd .outside t = closesAtEnd .outside t' from
    closesAtEnd_eq_of_alike h 0]

/-- The parenthesis that closes at the end comes off both texts. -/
theorem dropLast_alike (h : Alike L before t t') {d : Nat}
    (hclose : closesAtEnd ⟨none, d + 1⟩ t = true) : Alike L before t.dropLast t'.dropLast := by
  induction h generalizing d with
  | nil => exact .nil
  | @glyph before g g' t t' hg hgg ht ih =>
    by_cases hnil : t = []
    · subst hnil
      cases ht
      exact .nil
    · have hnil' : t' ≠ [] := by
        rwa [Ne, ← List.isEmpty_iff, ← ht.isEmpty_eq, List.isEmpty_iff]
      rw [List.dropLast_cons_of_ne_nil hnil, List.dropLast_cons_of_ne_nil hnil']
      obtain ⟨d', hafter, -⟩ := exists_after_eq hg (L.sameLetter hgg) (d + 1)
      rw [closesAtEnd, hafter] at hclose
      cases d' with
      | zero => exact absurd (List.isEmpty_iff.mp hclose) hnil
      | succ d' => exact .glyph hg hgg (ih hclose)
  | @literal before q c c' t t' hq hc hc' hcc ht ih =>
    rw [closesAtEnd_literal hq hc, if_neg (Nat.succ_ne_zero d)] at hclose
    have hnil : t ≠ [] := by
      rintro rfl
      cases hclose
    have hnil' : t' ≠ [] := by
      rwa [Ne, ← List.isEmpty_iff, ← ht.isEmpty_eq, List.isEmpty_iff]
    have hdrop : ∀ {e u : Text}, u ≠ [] →
        (q :: (e ++ q :: u)).dropLast = q :: (e ++ q :: u.dropLast) := by
      intro e u hu
      rw [← List.cons_append, List.dropLast_append_of_ne_nil (List.cons_ne_nil _ _),
        List.dropLast_cons_of_ne_nil hu, List.cons_append]
    rw [hdrop hnil, hdrop hnil']
    exact .literal hq hc hc' hcc (ih hclose)
  | opened hq hc => exact Alike.refl L _ _

/-- Enclosing parentheses come off both texts. -/
theorem inside_alike (h : Alike L [] t t') (hwrapped : isWrapped t = true) :
    Alike L [] (t.drop 1).dropLast (t'.drop 1).dropLast := by
  rw [isWrapped, Bool.and_eq_true, beq_iff_eq] at hwrapped
  obtain ⟨hhead, hclose⟩ := hwrapped
  cases h with
  | nil => cases hhead
  | @glyph _ g g' t t' hg hgg ht =>
    obtain rfl : g = .char '(' := Option.some.inj hhead
    have hinside : closesAtEnd ⟨none, 1⟩ t = true := hclose
    exact (dropLast_alike ht hinside).of_before (by decide)
  | literal hq hc hc' hcc ht => exact absurd hq (by rw [Option.some.inj hhead]; decide)
  | opened hq hc => exact absurd hq (by rw [Option.some.inj hhead]; decide)

theorem unwrapTrimmed_alike (h : Alike L [] t t') :
    Alike L [] (unwrapTrimmed t) (unwrapTrimmed t') := by
  fun_induction unwrapTrimmed t generalizing t' with
  | case1 t hwrapped ih =>
    rw [unwrapTrimmed.eq_def t', dif_pos (isWrapped_eq_of_alike h ▸ hwrapped)]
    exact ih (inside_alike h hwrapped).trim
  | case2 t hwrapped =>
    rw [unwrapTrimmed.eq_def t', dif_neg (isWrapped_eq_of_alike h ▸ hwrapped)]
    exact h

/-- **Conditions that are alike are so without enclosing parentheses.** -/
theorem unwrap_alike (h : Alike L [] t t') : Alike L [] (unwrap t) (unwrap t') :=
  unwrapTrimmed_alike h.trim

/-! ## Cuts -/

/-- Says that two places lie outside literals, with alike text ahead, the one of them in a text that
stands behind another. -/
def Outside (L : Likeness) (before t : Text) (p p' : Place) : Prop :=
  ∃ front, t = front ++ p.rest ∧ Alike L (before ++ front) p.rest p'.rest ∧
    p.before.any Glyph.isWord = (lastGlyph none front).any Glyph.isWord ∧
    p.before.any Glyph.isWord = p'.before.any Glyph.isWord

theorem outside_start (h : Alike L before t t') :
    Outside L before t (.start t) (.start t') :=
  ⟨[], rfl, by rwa [List.append_nil], rfl, rfl⟩

theorem outside_abreast (L : Likeness) (before t : Text) :
    Place.Abreast L.glyph (Outside L before t) where
  sameLetter := L.sameLetter
  inWord := fun ⟨_, _, _, _, h⟩ => h
  inStep := by
    rintro ⟨b, u⟩ ⟨b', u'⟩ ⟨front, hfront, halike, hword, hsame⟩
    dsimp only at hfront halike ⊢
    cases halike with
    | nil => exact .nil
    | @glyph _ g g' u u' hg hgg hu =>
      refine .cons hgg fun _ => ⟨front ++ [g], ?_, ?_, ?_, ?_⟩
      · rw [hfront, List.append_assoc]
        rfl
      · rwa [List.append_assoc] at hu
      · rw [Place.lastGlyph_append, Place.lastGlyph_cons, Place.lastGlyph_nil]
      · exact (L.sameLetter hgg).isWord_eq
    | literal hq hc hc' hcc hu =>
      exact .cons (L.glyph_refl _) fun hnot => absurd hq (by rw [hnot]; exact Bool.false_ne_true)
    | opened hq hc =>
      exact .cons (L.glyph_refl _) fun hnot => absurd hq (by rw [hnot]; exact Bool.false_ne_true)

variable {keyword : List Char}

/-- Behind a keyword of a cut the texts begin anew. -/
theorem behindKeyword?_rel (hk : ∀ c ∈ keyword, Literal.isQuote (.char c) = false)
    (h : Alike L before t t') :
    Option.Rel (Alike L []) (behindKeyword? keyword t) (behindKeyword? keyword t') := by
  have hR := outside_abreast L before t
  refine rel_bind (rel_and_left (hR.blanks1? (outside_start h))
    fun _ => Place.length_lt_of_blanks1?) fun a a' ha => ?_
  refine rel_bind (rel_and_left (hR.word? hk ha.1) fun _ => Place.length_le_of_word?)
    fun b b' hb => ?_
  refine rel_bind (rel_and_left (hR.blanks1? hb.1)
    (P := fun c => c.before.any Glyph.isWord = false ∧ c.rest.length < b.rest.length)
    fun _ hc => ⟨Place.before_of_blanks1? hc, Place.length_lt_of_blanks1? hc⟩) fun c c' hc => ?_
  obtain ⟨⟨front, hfront, halike, hword, -⟩, hblank, hlt⟩ := hc
  have hlength := congrArg List.length hfront
  have ha' : a.rest.length < t.length := ha.2
  rw [List.length_append] at hlength
  have hne : front ≠ [] := by
    rintro rfl
    rw [List.length_nil] at hlength
    have := hb.2
    omega
  refine .some (halike.of_before ?_)
  have hlast : lastGlyph none (before ++ front) = lastGlyph none front := by
    obtain ⟨g, x, rfl⟩ := List.exists_cons_of_ne_nil hne
    rw [Place.lastGlyph_append, Place.lastGlyph_cons, Place.lastGlyph_cons]
  rw [hlast, ← hword, hblank]

theorem cutHere?_rel (hk : ∀ c ∈ keyword, Literal.isQuote (.char c) = false)
    (h : Alike L before t t') (level : Level) :
    Option.Rel (Alike L []) (cutHere? keyword level t) (cutHere? keyword level t') := by
  rw [cutHere?, cutHere?]
  split
  · exact behindKeyword?_rel hk h
  · exact .none

theorem cutHere?_of_isQuote {q : Glyph} (hq : Literal.isQuote q = true) (level : Level)
    (t : Text) : cutHere? keyword level (q :: t) = none := by
  have hblank : q.isBlank = false := by
    rw [← Bool.not_eq_true]
    intro hblank
    rw [Literal.isQuote_of_isBlank hblank] at hq
    cases hq
  rw [cutHere?]
  split
  · exact behindKeyword?_of_not_blank hblank t
  · rfl

/-- A literal goes into the part in which it stands. -/
theorem cut_literal {q : Glyph} {c part : Text} {parts : List Text} {d : Nat}
    (hq : Literal.isQuote q = true) (hc : q ∉ c) (ht : cut keyword ⟨none, d⟩ t = part :: parts) :
    cut keyword ⟨none, d⟩ (q :: (c ++ q :: t)) = (q :: (c ++ q :: part)) :: parts := by
  have hcontent : cut keyword ⟨some q, d⟩ (c ++ q :: t) = (c ++ q :: part) :: parts := by
    refine cut_append (uncut_content hc) ?_
    rw [behind_content hc]
    refine cut_cons_of_none (cutHere?_of_isQuote hq _ _) ?_
    rwa [Level.after, Literal.after, if_pos rfl]
  exact cut_cons_of_none (cutHere?_of_isQuote hq _ _) (by rw [after_quote hq, hcontent])

/-- **Texts that are alike are cut into parts that are alike.** -/
theorem cut_alike (hk : ∀ c ∈ keyword, Literal.isQuote (.char c) = false) (h : Alike L before t t')
    (d : Nat) : ∃ part part' parts parts', cut keyword ⟨none, d⟩ t = part :: parts ∧
      cut keyword ⟨none, d⟩ t' = part' :: parts' ∧ Alike L before part part' ∧
      List.Forall₂ (Alike L []) parts parts' := by
  -- A keyword and a literal are taken in one step, so the induction is on the length.
  induction hlen : t.length using Nat.strongRecOn generalizing before t t' d with
  | _ n ih =>
    subst hlen
    have hhere := cutHere?_rel hk h ⟨none, d⟩
    cases h with
    | nil => exact ⟨[], [], [], [], by rw [cut], by rw [cut], .nil, .nil⟩
    | @glyph _ g g' t t' hg hgg ht =>
      obtain ⟨hcut, hcut'⟩ | ⟨u, u', hcut, hcut', hu⟩ := rel_cases hhere
      · obtain ⟨d', hafter, hafter'⟩ := exists_after_eq hg (L.sameLetter hgg) d
        obtain ⟨part, part', parts, parts', hparts, hparts', hpart, hrest⟩ :=
          ih _ (Nat.lt_succ_self _) ht d' rfl
        rw [← hafter] at hparts
        rw [← hafter'] at hparts'
        exact ⟨_, _, _, _, cut_cons_of_none hcut hparts, cut_cons_of_none hcut' hparts',
          .glyph hg hgg hpart, hrest⟩
      · obtain ⟨part, part', parts, parts', hparts, hparts', hpart, hrest⟩ :=
          ih _ (length_lt_of_cutHere? hcut) hu 0 rfl
        refine ⟨[], [], part :: parts, part' :: parts', ?_, ?_, .nil, .cons hpart hrest⟩
        · rw [cut_cons_of_some hcut, ← hparts]
          rfl
        · rw [cut_cons_of_some hcut', ← hparts']
          rfl
    | @literal _ q c c' t t' hq hc hc' hcc ht =>
      have hlt : t.length < (q :: (c ++ q :: t)).length := by
        simp only [List.length_cons, List.length_append]
        omega
      obtain ⟨part, part', parts, parts', hparts, hparts', hpart, hrest⟩ := ih _ hlt ht d rfl
      exact ⟨_, _, _, _, cut_literal hq hc hparts, cut_literal hq hc' hparts',
        .literal hq hc hc' hcc hpart, hrest⟩
    | @opened _ q c hq hc =>
      have hwhole : cut keyword ⟨none, d⟩ (q :: c) = [q :: c] :=
        cut_eq_singleton
          ⟨fun more => cutHere?_of_isQuote hq _ _, by rw [after_quote hq]; exact uncut_content hc⟩
      exact ⟨_, _, _, _, hwhole, hwhole, .opened hq hc, .nil⟩

theorem split_alike (hk : ∀ c ∈ keyword, Literal.isQuote (.char c) = false)
    (h : Alike L [] t t') : List.Forall₂ (Alike L []) (split keyword t) (split keyword t') := by
  obtain ⟨part, part', parts, parts', hparts, hparts', hpart, hrest⟩ := cut_alike hk h 0
  have hcut : List.Forall₂ (Alike L []) (cut keyword .outside t) (cut keyword .outside t') := by
    rw [show cut keyword .outside t = part :: parts from hparts,
      show cut keyword .outside t' = part' :: parts' from hparts']
    exact .cons hpart hrest
  have htrim := List.rel_map (fun _ _ hu => Alike.trim hu) hcut
  refine List.rel_filter (fun u u' hu => ?_) htrim
  show (!u.isEmpty) = true ↔ (!u'.isEmpty) = true
  rw [Alike.isEmpty_eq hu]

end Condition
end QueryDesk
