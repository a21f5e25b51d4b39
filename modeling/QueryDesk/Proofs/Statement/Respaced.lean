import QueryDesk.Proofs.Condition.Respaced
import QueryDesk.Proofs.Statement.Clauses

/-!
# Statements with another gap

A gap outside literals is masked as it is, so the conditions of a statement are found as the same
text with any other gap in its place, or as a text with the other gap in it (`whereText?_respaced`).
Hence the conditions that are asked for depend neither on how long a gap is nor on what blanks it is
made of (`predicates_respaced`).
-/

set_option autoImplicit false

namespace QueryDesk

namespace Literal

/-- Outside literals a text without quotes is masked as it is. -/
theorem mask_append_of_forall {t : Text} (ht : ∀ g ∈ t, isQuote g = false) (u : Text) :
    mask (t ++ u) = t ++ mask u := by
  induction t with
  | nil => rfl
  | cons g t ih =>
    obtain ⟨hg, ht⟩ := List.forall_mem_cons.mp ht
    rw [List.cons_append, mask_cons_of_not_isQuote hg, ih ht, List.cons_append]

/-- Where the mask has a blank no literal is open, and the text has that blank. -/
theorem behind_of_blank {t : Text} {g : Glyph} (h : Place.lastGlyph none (mask t) = some g)
    (hg : g.isBlank = true) : behind none t = none ∧ Place.lastGlyph none t = some g := by
  rcases List.eq_nil_or_concat t with rfl | ⟨t, c, rfl⟩
  · cases h
  · rw [List.concat_eq_append] at h ⊢
    have hmask : mask (t ++ [c]) =
        mask t ++ [if isContent (behind none t) c then filler else c] := by
      rw [mask, maskFrom_append]
      rfl
    rw [hmask, Place.lastGlyph_append, Place.lastGlyph_cons, Place.lastGlyph_nil,
      Option.some.injEq] at h
    have hc : isContent (behind none t) c = false := by
      rw [← Bool.not_eq_true]
      intro hcontent
      rw [if_pos hcontent] at h
      exact absurd hg (by rw [← h]; decide)
    rw [hc, if_neg Bool.false_ne_true] at h
    subst h
    refine ⟨?_, by rw [Place.lastGlyph_append, Place.lastGlyph_cons, Place.lastGlyph_nil]⟩
    rw [behind_append]
    show after (behind none t) c = none
    cases hopened : behind none t with
    | none => exact after_of_not_isQuote (isQuote_of_isBlank hg)
    | some q =>
      rw [hopened] at hc
      have hend : c = q := by simpa [isContent] using hc
      rw [after, if_pos hend]

end Literal

namespace Statement

open Literal (mask)
open Condition (Respaced ReadsOn)
open Place (AcrossGap)

variable {r r' a b s s' : Text} {p p' : Place}

/-- What lies between two places, the first of them behind a known text. -/
theorem between_eq_take {front t : Text} {first last : Place}
    (h : first.rest.length = t.length) :
    between (front ++ t) first last = t.take (t.length - last.rest.length) := by
  rw [between, h, List.length_append, Nat.add_sub_cancel, List.drop_left]

/-- Conditions that begin behind the gap are one text. -/
theorem between_behindGap {u : Text} {before before' : Option Glyph} {last last' : Place}
    (hu : u <:+ mask b) (hlast : AcrossGap (mask a) r r' (mask b) last last') :
    between (a ++ (r ++ b)) ⟨before, u⟩ last = between (a ++ (r' ++ b)) ⟨before', u⟩ last' := by
  have hle := hu.length_le
  rw [Literal.length_mask] at hle
  have hrest : u.length - last.rest.length = u.length - last'.rest.length := by
    cases hlast with
    | behind => rfl
    | ahead =>
      simp only [List.length_append, Literal.length_mask]
      omega
  have hlength : u.length = (b.drop (b.length - u.length)).length := by
    rw [List.length_drop]
    omega
  have hsplit : ∀ s : Text, a ++ (s ++ b) =
      (a ++ (s ++ b.take (b.length - u.length))) ++ b.drop (b.length - u.length) := by
    intro s
    rw [List.append_assoc, List.append_assoc, List.take_append_drop]
  rw [hsplit r, hsplit r', between_eq_take hlength, between_eq_take hlength, ← hlength, hrest]

/-- Conditions that begin in front of the gap end there or have it in them. -/
theorem between_aheadOfGap {front a₁ x : Text} {before before' : Option Glyph} {last last' : Place}
    (hx : x.length = a₁.length) (hlast : AcrossGap (mask a) r r' (mask b) last last')
    (ha : Literal.behind none a₁ = none) (hon : ¬ReadsOn a₁) :
    Respaced r r'
      (between (front ++ (a₁ ++ (r ++ b))) ⟨before, x ++ (r ++ mask b)⟩ last)
      (between (front ++ (a₁ ++ (r' ++ b))) ⟨before', x ++ (r' ++ mask b)⟩ last') := by
  have hlength : ∀ s : Text, (x ++ (s ++ mask b)).length = (a₁ ++ (s ++ b)).length := by
    intro s
    simp only [List.length_append, Literal.length_mask, hx]
  rw [between_eq_take (hlength r), between_eq_take (hlength r')]
  cases hlast with
  | @ahead y z hz =>
    have htake : ∀ s : Text, (a₁ ++ (s ++ b)).take
        ((a₁ ++ (s ++ b)).length - (z ++ (s ++ mask b)).length) =
          a₁.take (a₁.length - z.length) := by
      intro s
      rw [List.take_append_of_le_length]
      · congr 1
        simp only [List.length_append, Literal.length_mask]
        omega
      · simp only [List.length_append, Literal.length_mask]
        omega
    rw [htake r, htake r']
    exact .same _
  | @behind b₁ b₂ u hu =>
    have hle := hu.length_le
    rw [Literal.length_mask] at hle
    have htake : ∀ s : Text, (a₁ ++ (s ++ b)).take ((a₁ ++ (s ++ b)).length - u.length) =
        a₁ ++ (s ++ b.take (b.length - u.length)) := by
      intro s
      have hcount : (a₁ ++ (s ++ b)).length - u.length =
          a₁.length + (s.length + (b.length - u.length)) := by
        simp only [List.length_append]
        omega
      rw [hcount, List.take_length_add_append, List.take_length_add_append]
    rw [htake r, htake r']
    exact .gap _ ha hon

/-- A place in front of the gap behind a blank of the mask divides the text, outside literals. -/
theorem between_of_ahead {y x : Text} {before' : Option Glyph} {g : Glyph} {last last' : Place}
    (hyx : mask a = y ++ x) (hbefore : Place.lastGlyph none y = some g) (hg : g.isBlank = true)
    (ha : Literal.behind none a = none) (hon : ¬ReadsOn a)
    (hlast : AcrossGap (mask a) r r' (mask b) last last') :
    Respaced r r'
      (between (a ++ (r ++ b)) ⟨Place.lastGlyph none y, x ++ (r ++ mask b)⟩ last)
      (between (a ++ (r' ++ b)) ⟨before', x ++ (r' ++ mask b)⟩ last') := by
  obtain ⟨a₀, a₁, rfl, hlength⟩ : ∃ a₀ a₁, a = a₀ ++ a₁ ∧ a₀.length = y.length := by
    have hle : y.length ≤ a.length := by
      rw [← Literal.length_mask a, hyx, List.length_append]
      exact Nat.le_add_right _ _
    exact ⟨a.take y.length, a.drop y.length, (List.take_append_drop _ _).symm,
      List.length_take_of_le hle⟩
  rw [mask, Literal.maskFrom_append] at hyx
  obtain ⟨hy, hx⟩ := List.append_inj hyx (by rw [Literal.length_maskFrom, hlength])
  rw [← hy] at hbefore
  obtain ⟨hopened, hword⟩ := Literal.behind_of_blank hbefore hg
  rw [Literal.behind_append, hopened] at ha
  have hquiet := Condition.not_readsOn_of_append hon (by
    rw [hword, Option.any_some, Glyph.isWord_of_isBlank hg])
  rw [List.append_assoc, List.append_assoc]
  exact between_aheadOfGap (by rw [← hx, Literal.length_maskFrom]) hlast ha hquiet

section

variable (hr : IsGap r) (hr' : IsGap r')
include hr hr'

/-- Behind the keyword of the conditions stands a blank. -/
theorem whereStart?_acrossGap (h : AcrossGap a r r' b p p') :
    Option.Rel (fun q q' => AcrossGap a r r' b q q' ∧ ∃ g, q.before = some g ∧ g.isBlank = true)
      (whereStart? p) (whereStart? p') := by
  have hR := Place.agreeing_acrossGap hr hr' a b
  refine rel_bind (hR.edge? h) fun c c' hc => ?_
  refine rel_bind (hR.word? (by decide) hc) fun d d' hd => ?_
  refine rel_bind (rel_and_left (hR.blanks1? hd) fun _ => Place.exists_before_of_blanks1?)
    fun e e' he => ?_
  rw [← hR.isEmpty_eq he.1]
  split
  · exact .none
  · exact .some he

/-- **The text of the conditions is one, or one but for the gap.** -/
theorem whereText?_respaced (h : Respaced r r' s s') :
    Option.Rel (Respaced r r') (whereText? s) (whereText? s') := by
  cases h with
  | same =>
    cases whereText? s with
    | none => exact .none
    | some clause => exact .some (.same clause)
  | @gap a b ha hon =>
    have hR := Place.agreeing_acrossGap hr hr' (mask a) (mask b)
    have hmask : ∀ {s : Text}, IsGap s → mask (a ++ (s ++ b)) = mask a ++ (s ++ mask b) := by
      intro s hs
      rw [Literal.mask_append_of_behind ha, Literal.mask_append_of_forall fun g => hs.isQuote_eq]
    have hstart := Place.acrossGap_start (mask a) r r' (mask b)
    rw [← hmask hr, ← hmask hr'] at hstart
    have hbegin : ∀ (b : Option Glyph) (g : Glyph) (t : Text), g.isBlank = true →
        whereStart? ⟨b, g :: t⟩ = none := Condition.beginsNoGap_keyword (c := 'w') (by decide) _ _
    have hend : ∀ (b : Option Glyph) (g : Glyph) (t : Text), g.isBlank = true →
        whereEnd? ⟨b, g :: t⟩ = none := fun b g t hg =>
      have hletters : ∀ c ∈ ['o', 'l', 't'], (Glyph.char c).isBlank = false := by decide
      whereEnd?_eq_none (fun c hc => Glyph.agrees_of_isBlank (hletters c hc) hg) b t
    have hfirst := Place.firstMatch_rel (R := AcrossGap (mask a) r r' (mask b))
      (fun _ _ hp => hp.onward hr hr' hbegin) (fun _ _ => whereStart?_acrossGap hr hr')
      (.of_rel hstart)
    refine rel_bind hfirst fun first first' hplaces => ?_
    obtain ⟨hplaces, g, hbefore, hblank⟩ := hplaces
    refine rel_bind (hplaces.onward hr hr' hend).next?_rel fun second second' hsecond => ?_
    refine rel_bind (Place.firstMatch_rel (fun _ _ hp => AcrossGap.onward hr hr' hend hp)
      (fun _ _ => whereEnd?_rel hR) hsecond) fun last last' hlast => ?_
    have hbetween : Respaced r r' (between (a ++ (r ++ b)) first last)
        (between (a ++ (r' ++ b)) first' last') := by
      cases hplaces with
      | behind hu =>
        rw [between_behindGap hu hlast]
        exact .same _
      | @ahead y x hyx => exact between_of_ahead hyx hbefore hblank ha hon hlast
    have hsemicolon : ∀ g : Glyph, g.isBlank = true → decide (g = .char ';') = false := by
      rintro g hg
      refine decide_eq_false ?_
      rintro rfl
      exact absurd hg (by decide)
    have hclause := ((hbetween.trim hr hr').dropEndWhile hr hr' (.inr hsemicolon)).trim hr hr'
    dsimp only
    rw [hclause.isEmpty_eq hr hr']
    split
    · exact .none
    · exact .some hclause

/-- **A statement asks for the same conditions with any gap in it.** -/
theorem predicates_respaced (h : Respaced r r' s s') : predicates s = predicates s' := by
  have hclause := whereText?_respaced hr hr' h
  unfold predicates
  generalize whereText? s = clause at hclause ⊢
  generalize whereText? s' = clause' at hclause ⊢
  cases hclause with
  | none => rfl
  | some hclause => exact Condition.read_respaced hr hr' hclause

end

end Statement
end QueryDesk
