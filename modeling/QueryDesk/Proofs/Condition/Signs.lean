import QueryDesk.Proofs.Condition.AlikeTerms
import QueryDesk.Proofs.Condition.Forms

/-!
# Conditions without signs

Every form of a term holds a sign of comparison.  What is cut out of a text lies in the text
(`subset_of_mem_split`), so a text without signs and quotes asks for nothing, however it is cut
(`read_of_plain`).
-/

set_option autoImplicit false

namespace QueryDesk
namespace Condition

/-! ## What is cut out -/

theorem subset_of_trim (t : Text) : t.trim ⊆ t := by
  have hend : ∀ u : Text, u.trimEnd ⊆ u := fun u g hg =>
    List.mem_reverse.mp ((List.dropWhile_sublist _).subset (List.mem_reverse.mp hg))
  exact List.Subset.trans (hend _) (List.dropWhile_sublist _).subset

theorem subset_of_unwrapTrimmed (t : Text) : unwrapTrimmed t ⊆ t := by
  fun_induction unwrapTrimmed t with
  | case1 t _ ih =>
    have hinside : (t.drop 1).dropLast ⊆ t :=
      List.Subset.trans (List.dropLast_subset _) (List.drop_subset 1 t)
    exact List.Subset.trans ih (List.Subset.trans (subset_of_trim _) hinside)
  | case2 => exact List.Subset.refl _

theorem subset_of_unwrap (t : Text) : unwrap t ⊆ t :=
  List.Subset.trans (subset_of_unwrapTrimmed _) (subset_of_trim t)

theorem subset_of_behindKeyword? {keyword : List Char} {t behind : Text}
    (h : behindKeyword? keyword t = some behind) : behind ⊆ t := by
  simp only [behindKeyword?, Option.bind_eq_bind, Option.bind_eq_some_iff, Option.some.injEq] at h
  obtain ⟨p, hp, q, hq, r, hr, rfl⟩ := h
  have hword := (Place.suffix_of_word? hq).trans (Place.suffix_of_blanks1? hp)
  exact ((Place.suffix_of_blanks1? hr).trans hword).subset

theorem subset_of_mem_cut {keyword : List Char} {level : Level} {t part : Text}
    (h : part ∈ cut keyword level t) : part ⊆ t := by
  fun_induction cut keyword level t generalizing part with
  | case1 => rw [List.mem_singleton.mp h]; exact List.nil_subset _
  | case2 level g rest behind hcut ih =>
    rcases List.mem_cons.mp h with rfl | h
    · exact List.nil_subset _
    · rw [cutHere?] at hcut
      split at hcut
      · exact List.Subset.trans (ih h) (subset_of_behindKeyword? hcut)
      · cases hcut
  | case3 level g rest hcut hnil ih =>
    rw [List.mem_singleton.mp h]
    exact List.cons_subset_cons g (List.nil_subset _)
  | case4 level g rest hcut first others hparts ih =>
    rw [hparts] at ih
    rcases List.mem_cons.mp h with rfl | h
    · exact List.cons_subset_cons g (ih List.mem_cons_self)
    · exact List.Subset.trans (ih (List.mem_cons_of_mem _ h)) (List.subset_cons_self g rest)

/-- **What is cut out of a text lies in the text.** -/
theorem subset_of_mem_split {keyword : List Char} {t part : Text}
    (h : part ∈ split keyword t) : part ⊆ t := by
  obtain ⟨raw, hraw, rfl⟩ := List.mem_map.mp (List.mem_filter.mp h).1
  exact List.Subset.trans (subset_of_trim raw) (subset_of_mem_cut hraw)

/-! ## Signs of the forms -/

/-- Says that all glyphs of a text are plain. -/
def Plain (t : Text) : Prop := ∀ g ∈ t, isPlain g = true

theorem Plain.not_mem {t : Text} (h : Plain t) {c : Char} (hc : isPlain (.char c) = false) :
    .char c ∉ t := by
  intro hmem
  rw [h _ hmem] at hc
  cases hc

theorem Plain.mono {t u : Text} (h : Plain t) (hu : u ⊆ t) : Plain u := fun g hg => h g (hu hg)

theorem ofTerm_of_plain {t : Text} (h : Plain t) : ofTerm t = [] := by
  have hequality : (Place.start t).firstMatch equality? = none := by
    refine Place.firstMatch_eq_none_of_needs (fun p f hf => ?_) (h.not_mem (c := '=') rfl)
    rw [equality?_eq, equalityOpening?, Option.bind_assoc, Option.bind_eq_some_iff] at hf
    obtain ⟨⟨name, q⟩, hhead, -⟩ := hf
    exact needs_of_equalityHead? hhead
  have hbefore := Place.firstMatch_eq_none_of_needs (fun _ _ hf => needs_of_beforeNow? hf)
    (h.not_mem (c := '<') rfl)
  have hstock := Place.firstMatch_eq_none_of_needs (fun _ _ hf => needs_of_lowStock? hf)
    (h.not_mem (c := '<') rfl)
  have hquarter := Place.firstMatch_eq_none_of_needs (fun _ _ hf => needs_of_lastQuarter? hf)
    (h.not_mem (c := '>') rfl)
  rw [ofTerm, Place.allMatches_eq_nil hequality, Place.allMatches_eq_nil hbefore, hstock, hquarter]
  rfl

/-- The form for late work orders holds an equals sign. -/
theorem isDelayedTerm_of_plain {t : Text} (h : Plain t) : isDelayedTerm t = false := by
  have hequals : ∀ p, (Place.start t).word? "status".toList = some p →
      p.blanks.sign? ['='] = none := by
    intro p hp
    rw [← Option.not_isSome_iff_eq_none]
    intro hsome
    obtain ⟨q, hq⟩ := Option.isSome_iff_exists.mp hsome
    obtain ⟨g, hg, hsign⟩ := Place.exists_of_sign? hq
    have hmem : g ∈ t := by
      refine ((Place.suffix_of_blanks p).trans (Place.suffix_of_word? hp)).mem ?_
      rw [hg]
      exact List.mem_cons_self
    cases g with
    | lone half => cases hsign
    | char c =>
      rw [List.mem_singleton.mp (List.contains_iff_mem.mp hsign)] at hmem
      exact h.not_mem rfl hmem
  rw [isDelayedTerm]
  cases hword : (Place.start t).word? "status".toList with
  | none => rfl
  | some p =>
    simp only [Option.bind_eq_bind, Option.bind_some, hequals p hword, Option.bind_none,
      Option.any_none]

/-- **A text without signs and quotes asks for nothing.** -/
theorem read_of_plain {t : Text} (h : Plain t) : read t = [] := by
  fun_induction read t with
  | case1 => rfl
  | case2 t condition _ first _ _ hsplit hdelayed =>
    have hfirst : first ∈ split "or".toList condition := by rw [hsplit]; exact List.mem_cons_self
    have hplain := (h.mono (subset_of_unwrap t)).mono (subset_of_mem_split hfirst)
    rw [isDelayedTerm_of_plain (hplain.mono (subset_of_unwrap first))] at hdelayed
    cases hdelayed
  | case3 => rfl
  | case4 t condition _ _ _ ih =>
    rw [List.flatMap_eq_nil_iff]
    exact fun part _ =>
      ih part ((h.mono (subset_of_unwrap t)).mono (subset_of_mem_split part.2))
  | case5 t => exact ofTerm_of_plain (h.mono (subset_of_unwrap t))

end Condition
end QueryDesk
