import QueryDesk.Proofs.Statement.Clauses

/-!
# The content of a literal bounds no clause

A literal may be filled with other content, longer or shorter, without a change of the clauses of
the statement: none begins or ends inside it, and none loses its place (`clauses_refill`).  The mask
is what keeps them apart.  It has the length of the text, keeps what stands outside literals and the
quotes of literals, and masking it again changes nothing.
-/

set_option autoImplicit false

namespace QueryDesk

namespace Literal

/-- Glyphs outside literals and the quotes of literals stay. -/
theorem getElem?_mask_of_not_content {t : Text} {i : Nat} {g : Glyph} (hg : t[i]? = some g)
    (h : behind none (t.take i) = none ∨ behind none (t.take i) = some g) :
    (mask t)[i]? = some g := by
  obtain ⟨hi, rfl⟩ := List.getElem?_eq_some_iff.mp hg
  have hsplit : t.take i ++ t[i] :: t.drop (i + 1) = t := by
    rw [← List.drop_eq_getElem_cons hi, List.take_append_drop]
  have hmask := getElem?_mask (t.take i) t[i] (t.drop (i + 1))
  rw [hsplit, List.length_take_of_le (Nat.le_of_lt hi)] at hmask
  have hcontent : isContent (behind none (t.take i)) t[i] = false := by
    rcases h with hnone | hclose
    · rw [hnone]
      rfl
    · rw [hclose]
      exact decide_eq_false (not_not.mpr rfl)
  rw [hmask, hcontent, if_neg Bool.false_ne_true]

end Literal

/-- The same glyphs outside literals, and any content. -/
def Likeness.refilling : Likeness where
  glyph := (· = ·)
  content _ _ _ _ := True
  glyph_refl := Eq.refl
  content_refl _ _ _ := trivial
  sameLetter := @Glyph.SameLetter.of_eq
  content_of_append _ _ := trivial

namespace Statement

variable {L : Likeness} {front content content' back : Text} {q : Glyph}

/-- A statement is alike to itself with other content in one of its literals. -/
theorem alike_refill (hfront : Literal.behind none front = none) (hq : Literal.isQuote q = true)
    (hc : q ∉ content) (hc' : q ∉ content') (hcc : L.content front q content content') :
    Alike L [] (front ++ q :: (content ++ q :: back)) (front ++ q :: (content' ++ q :: back)) :=
  (Alike.refl L [] front).append hfront (.literal hq hc hc' hcc (.refl L _ back))

/-- Sort orders with names that are equal are equal. -/
theorem sort?_eq_of_alike {s s' : Text} (hL : L.glyph = (· = ·)) (h : Alike L [] s s') :
    sort? s = sort? s' := by
  have hsorts := sort?_alike h
  generalize sort? s = key at hsorts
  generalize sort? s' = key' at hsorts
  cases hsorts with
  | none => rfl
  | some hsort =>
    cases hsort with
    | mk hname hdirection =>
      rw [hL, List.forall₂_eq_eq_eq] at hname
      rw [hname, hdirection]

/-- **The clauses of a statement do not depend on the content of a literal, nor on its length.** -/
theorem clauses_refill (hfront : Literal.behind none front = none)
    (hq : Literal.isQuote q = true) (hc : q ∉ content) (hc' : q ∉ content') :
    sort? (front ++ q :: (content ++ q :: back)) =
        sort? (front ++ q :: (content' ++ q :: back)) ∧
      LimitsAgree (rowLimit (front ++ q :: (content ++ q :: back)))
        (rowLimit (front ++ q :: (content' ++ q :: back))) ∧
      (whereText? (front ++ q :: (content ++ q :: back)) = none ↔
        whereText? (front ++ q :: (content' ++ q :: back)) = none) ∧
      ∀ t : Text, (Literal.mask t).length = t.length ∧
        (∀ (i : Nat) (g : Glyph), t[i]? = some g →
          Literal.behind none (t.take i) = none ∨ Literal.behind none (t.take i) = some g →
            (Literal.mask t)[i]? = some g) ∧
        Literal.mask (Literal.mask t) = Literal.mask t := by
  have halike : Alike .refilling [] (front ++ q :: (content ++ q :: back))
      (front ++ q :: (content' ++ q :: back)) := alike_refill hfront hq hc hc' trivial
  refine ⟨sort?_eq_of_alike rfl halike, rowLimit_alike halike, ?_, fun t => ⟨?_, ?_, ?_⟩⟩
  · rw [← Option.isNone_iff_eq_none, ← Option.isNone_iff_eq_none, ← Option.not_isSome,
      isSome_eq_of_rel (whereText?_alike halike), Option.not_isSome]
  · exact Literal.length_mask t
  · exact fun i g hg h => Literal.getElem?_mask_of_not_content hg h
  · exact Literal.mask_mask t

/-- A longer literal that looks like the end of the conditions. -/
theorem clauses_region_like_a_limit :
    let front := Text.of "SELECT * FROM work_orders WHERE region = "
    let back := Text.of " ORDER BY due_date LIMIT 2"
    let short := front ++ .char '\'' :: (Text.of "N" ++ .char '\'' :: back)
    let long := front ++ .char '\'' :: (Text.of "N ORDER BY x LIMIT 9" ++ .char '\'' :: back)
    Literal.behind none front = none ∧ sort? short = sort? long ∧
      LimitsAgree (rowLimit short) (rowLimit long) ∧
      (whereText? short = none ↔ whereText? long = none) := by
  intro front back short long
  have hfront : Literal.behind none front = none := by decide
  have hshort : .char '\'' ∉ Text.of "N" := by decide
  have hlong : .char '\'' ∉ Text.of "N ORDER BY x LIMIT 9" := by decide
  obtain ⟨hsort, hlimit, hwhere, -⟩ :=
    @clauses_refill _ _ _ back _ hfront (by decide) hshort hlong
  exact ⟨hfront, hsort, hlimit, hwhere⟩

end Statement
end QueryDesk
