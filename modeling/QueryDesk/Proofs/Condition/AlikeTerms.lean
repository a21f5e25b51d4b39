import QueryDesk.Proofs.Condition.Asked
import QueryDesk.Proofs.Condition.Reading

/-!
# Reading conditions that are alike

The forms of a term are looked for in two texts at once.  The two searches lie outside literals, or
in a literal with one content (`Scanned`); a literal that has another content in the second text is
idle in both, and a quiet likeness sees to it that no equality reads it.  So they come to the same
forms (`ofTerm_alike`), and conditions that are alike are read as predicates that are alike
(`read_alike`): of one form, for columns with names that are alike, and with values that are alike.

The values need not be equal.  An equality that begins in a literal takes the quote that ends the
literal for the one that begins its value, and then reads on outside.
-/

set_option autoImplicit false

namespace QueryDesk
namespace Condition

open Place (lastGlyph)

variable {L : Likeness} {t t' : Text} {p p' : Place}

/-! ## Places in terms -/

/-- Says that two places lie in a literal, with one content ahead, behind which the texts are
alike. -/
inductive InLiteral (L : Likeness) (t : Text) (p p' : Place) : Prop
  | kept {front w u u' : Text} {q : Glyph} (ht : t = front ++ p.rest) (hrest : p.rest = w ++ q :: u)
      (hrest' : p'.rest = w ++ q :: u') (hq : Literal.isQuote q = true) (hw : q ∉ w)
      (hu : Alike L (front ++ (w ++ [q])) u u')
      (hword : p.before.any Glyph.isWord = p'.before.any Glyph.isWord)
  | opened (hrest : p.rest = p'.rest)
      (hword : p.before.any Glyph.isWord = p'.before.any Glyph.isWord)

/-- Says that two places lie between or in pieces that are alike. -/
def Scanned (L : Likeness) (t : Text) (p p' : Place) : Prop :=
  Outside L [] t p p' ∨ InLiteral L t p p'

/-- Behind a glyph of the literal, or behind the quote that ends it. -/
theorem InLiteral.step {b b' : Option Glyph} {g g' : Glyph} {u u' : Text}
    (h : InLiteral L t ⟨b, g :: u⟩ ⟨b', g' :: u'⟩) : g = g' ∧
      (InLiteral L t ⟨some g, u⟩ ⟨some g', u'⟩ ∨
        (Literal.isQuote g = true ∧ Outside L [] t ⟨some g, u⟩ ⟨some g', u'⟩)) := by
  cases h with
  | @kept front w v v' q ht hrest hrest' hq hw hu hword =>
    cases w with
    | nil =>
      obtain ⟨rfl, rfl⟩ := List.cons.inj hrest
      obtain ⟨rfl, rfl⟩ := List.cons.inj hrest'
      refine ⟨rfl, .inr ⟨hq, front ++ [g'], ?_, hu, ?_, rfl⟩⟩
      · rw [ht, List.append_assoc]
        rfl
      · rw [Place.lastGlyph_append, Place.lastGlyph_cons, Place.lastGlyph_nil]
    | cons a w =>
      obtain ⟨rfl, htail⟩ := List.cons.inj hrest
      obtain ⟨rfl, htail'⟩ := List.cons.inj hrest'
      have hsplit : t = (front ++ [g']) ++ u := by
        rw [ht, List.append_assoc]
        rfl
      refine ⟨rfl, .inl (.kept hsplit htail htail' hq ?_ ?_ rfl)⟩
      · exact fun hmem => hw (List.mem_cons_of_mem _ hmem)
      · rwa [List.append_assoc]
  | opened hrest hword =>
    obtain ⟨rfl, rfl⟩ := List.cons.inj hrest
    exact ⟨rfl, .inl (.opened rfl rfl)⟩

theorem inLiteral_abreast (L : Likeness) (t : Text) :
    Place.Abreast L.glyph (InLiteral L t) where
  sameLetter := L.sameLetter
  inWord h := by
    cases h with
    | kept _ _ _ _ _ _ hword => exact hword
    | opened _ hword => exact hword
  inStep := by
    rintro ⟨b, u⟩ ⟨b', u'⟩ h
    dsimp only
    cases u with
    | nil =>
      cases h with
      | kept _ hrest => exact absurd hrest.symm (by simp)
      | opened hrest => cases hrest; exact .nil
    | cons g u =>
      cases u' with
      | nil =>
        cases h with
        | kept _ _ hrest' => exact absurd hrest'.symm (by simp)
        | opened hrest => cases hrest
      | cons g' u' =>
        obtain ⟨rfl, hstep⟩ := h.step
        refine .cons (L.glyph_refl _) fun hquote => hstep.resolve_right fun hend => ?_
        rw [hend.1] at hquote
        cases hquote

theorem scanned_abreast (L : Likeness) (t : Text) : Place.Abreast L.glyph (Scanned L t) where
  sameLetter := L.sameLetter
  inWord h := h.elim (outside_abreast L [] t).inWord (inLiteral_abreast L t).inWord
  inStep h := by
    rcases h with h | h
    · exact ((outside_abreast L [] t).inStep h).imp fun _ _ => .inl
    · exact ((inLiteral_abreast L t).inStep h).imp fun _ _ => .inr

/-- **A search for a form gets over literals in both texts.** -/
theorem scanned_searchable {α : Type} {recognise : Place → Option α} (hL : L.IsQuiet)
    (hidle : ∀ {q : Glyph} {c : Text}, Idle q c → Place.Avoids recognise (some q) (c ++ [q]))
    (t : Text) : Place.Searchable recognise L.glyph (Scanned L t) where
  toAbreast := scanned_abreast L t
  behindQuote := by
    rintro b b' q q' u u' (⟨front, hfront, halike, -, -⟩ | h) hquote
    · cases halike with
      | glyph hg =>
        rw [hg] at hquote
        cases hquote
      | @literal _ _ c c' v v' hq hc hc' hcc hv =>
        rcases hL hcc with rfl | ⟨hquiet, hquiet', -⟩
        -- A literal with one content is read glyph by glyph, since a form may begin in it.
        · have hsplit : t = (front ++ [q]) ++ (c ++ q :: v) := by
            rw [hfront, List.append_assoc]
            rfl
          exact .of_rel (.inr (.kept hsplit rfl rfl hq hc (by rwa [List.append_assoc]) rfl))
        · have hpasses : ∀ {d w : Text}, Idle q d →
              Place.Passes recognise ⟨some q, d ++ q :: w⟩ ⟨some q, w⟩ := by
            intro d w hd
            refine ⟨d ++ [q], ?_, ?_, hidle hd⟩
            · rw [List.append_assoc]
              rfl
            · rw [Place.lastGlyph_append, Place.lastGlyph_cons, Place.lastGlyph_nil]
          refine ⟨_, _, hpasses hquiet, hpasses hquiet', .inl ?_⟩
          exact ⟨front ++ q :: (c ++ [q]), by rw [hfront]; simp, hv, by simp, rfl⟩
      | opened hq hc => exact .of_rel (.inr (.opened rfl rfl))
    · obtain ⟨rfl, hstep⟩ := h.step
      exact .of_rel (hstep.elim .inr fun hend => .inl hend.2)

/-! ## Quotes -/

/-- Steps over a quote. -/
def quote? (p : Place) : Option Place := p.sign? ['\'', '"']

theorem quote?_cons (b : Option Glyph) (g : Glyph) (u : Text) :
    quote? ⟨b, g :: u⟩ = if Literal.isQuote g then some ⟨some g, u⟩ else none := rfl

/-- A quote that begins a literal which the text in front asks for. -/
theorem Outside.quote?_rel (hL : L.IsQuiet) (h : Outside L [] t p p')
    (hasks : ∀ {front : Text} {q : Glyph} {more : Text}, p.rest = q :: more →
      Literal.isQuote q = true → t = front ++ q :: more → AsksForLiteral front q) :
    Option.Rel (InLiteral L t) (quote? p) (quote? p') := by
  rcases p with ⟨b, u⟩
  rcases p' with ⟨b', u'⟩
  obtain ⟨front, hfront, halike, -, -⟩ := h
  dsimp only at hfront halike hasks
  cases halike with
  | nil => exact .none
  | glyph hg hgg _ =>
    rw [quote?_cons, quote?_cons, ← (L.sameLetter hgg).isQuote_eq, hg]
    exact .none
  | @literal _ q c c' v v' hq hc hc' hcc hv =>
    rw [quote?_cons, quote?_cons, if_pos hq, if_pos hq]
    rcases hL hcc with rfl | ⟨-, -, hnot⟩
    · have hsplit : t = (front ++ [q]) ++ (c ++ q :: v) := by
        rw [hfront, List.append_assoc]
        rfl
      exact .some (.kept hsplit rfl rfl hq hc (by rwa [List.append_assoc]) rfl)
    · exact absurd (hasks rfl hq hfront) hnot
  | opened hq hc =>
    rw [quote?_cons, quote?_cons, if_pos hq]
    exact .some (InLiteral.opened rfl rfl)

theorem InLiteral.quote?_rel (h : InLiteral L t p p') :
    Option.Rel (Scanned L t) (quote? p) (quote? p') := by
  rcases p with ⟨b, u⟩
  rcases p' with ⟨b', u'⟩
  have hstep := (inLiteral_abreast L t).inStep h
  dsimp only at hstep
  cases hstep with
  | nil => exact .none
  | cons hg _ =>
    obtain ⟨rfl, hstep⟩ := h.step
    rw [quote?_cons, quote?_cons]
    split
    · exact .some (hstep.elim .inr fun hend => .inl hend.2)
    · exact .none

/-- Behind the quote that ends a value the search goes on. -/
theorem quote?_reaches {α : Type} {recognise : Place → Option α}
    (hR : Place.Searchable recognise L.glyph (Scanned L t)) (h : Scanned L t p p') :
    Option.Rel (Place.Reaches recognise (Scanned L t)) (quote? p) (quote? p') := by
  rcases p with ⟨b, u⟩
  rcases p' with ⟨b', u'⟩
  have hreaches := @hR.reaches
  have hstep := hR.inStep h
  dsimp only at hstep
  cases hstep with
  | nil => exact .none
  | cons hg _ =>
    rw [quote?_cons, quote?_cons, ← (L.sameLetter hg).isQuote_eq]
    split
    · exact .some (hreaches h)
    · exact .none

/-! ## The forms of terms -/

/-- Recognises the column of an equality up to the quote that begins the value. -/
def equalityOpening? (p : Place) : Option (Text × Place) :=
  (equalityHead? p).bind fun f => (quote? f.2).map fun q => (f.1, q)

theorem equality?_eq (p : Place) : equality? p = (equalityOpening? p).bind fun f =>
    (f.2.span1? fun g => !Literal.isQuote g).bind fun v => (quote? v.2).map fun q =>
      (.equals (Statement.column f.1) (.text v.1), q) := by
  simp only [equality?, equalityOpening?, equalityHead?, quote?, Option.bind_eq_bind,
    Option.bind_assoc, Option.bind_some, Option.map_eq_bind, Function.comp_def]

theorem equalityOpening?_rel (hL : L.IsQuiet) (h : Scanned L t p p') :
    Option.Rel (fun f f' => List.Forall₂ L.glyph f.1 f'.1 ∧ Scanned L t f.2 f'.2)
      (equalityOpening? p) (equalityOpening? p') := by
  rcases h with h | h
  · have hhead := rel_and_left (equalityHead?_rel (outside_abreast L [] t).agreeing h)
      (P := fun f => equalityHead? p = some f) fun _ hf => hf
    refine rel_bind hhead fun f f' hf => ?_
    obtain ⟨⟨hname, hr⟩, hfound⟩ := hf
    obtain ⟨front, hfront, -, hword, -⟩ := h
    refine rel_map (hr.quote?_rel hL fun hrest hq ht => ?_) fun q q' hq => ⟨hname, .inr hq⟩
    exact asksForLiteral_of_equalityHead? hq (ht.symm.trans hfront) hword hfound hrest
  · refine rel_bind (equalityHead?_rel (inLiteral_abreast L t).agreeing h) fun f f' hf => ?_
    exact rel_map hf.2.quote?_rel fun q q' hq => ⟨hf.1, hq⟩

/-- Says that two predicates are of one form, for columns with names that are alike and with values
that are alike. -/
inductive PredicatesAlike (G : Glyph → Glyph → Prop) : Predicate → Predicate → Prop
  | same (predicate : Predicate) : PredicatesAlike G predicate predicate
  | equals {name name' value value' : Text} (hname : List.Forall₂ G name name')
      (hvalue : List.Forall₂ G value value') :
      PredicatesAlike G (.equals (Statement.column name) (.text value))
        (.equals (Statement.column name') (.text value'))
  | beforeNow {name name' : Text} (hname : List.Forall₂ G name name') :
      PredicatesAlike G (.beforeNow (Statement.column name)) (.beforeNow (Statement.column name'))

/-- Predicates for equal columns with equal values are equal. -/
theorem PredicatesAlike.eq {predicate predicate' : Predicate}
    (h : PredicatesAlike (· = ·) predicate predicate') : predicate = predicate' := by
  cases h with
  | same => rfl
  | equals hname hvalue =>
    rw [List.forall₂_eq_eq_eq] at hname hvalue
    rw [hname, hvalue]
  | beforeNow hname =>
    rw [List.forall₂_eq_eq_eq] at hname
    rw [hname]

theorem equality?_rel (hL : L.IsQuiet)
    (hR : Place.Searchable equality? L.glyph (Scanned L t)) (h : Scanned L t p p') :
    Option.Rel (fun f f' => PredicatesAlike L.glyph f.1 f'.1 ∧
      Place.Reaches equality? (Scanned L t) f.2 f'.2) (equality? p) (equality? p') := by
  rw [equality?_eq, equality?_eq]
  refine rel_bind (equalityOpening?_rel hL h) fun f f' hf => ?_
  refine rel_bind (hR.span1? (fun hg => ?_) (fun g hg => ?_) hf.2) fun v v' hv => ?_
  · rw [(L.sameLetter hg).isQuote_eq]
  · rwa [Bool.not_eq_true'] at hg
  · exact rel_map (quote?_reaches hR hv.2) fun q q' hq => ⟨.equals hf.1 hv.1, hq⟩

theorem beforeNow?_rel {G : Glyph → Glyph → Prop} {R : Place → Place → Prop}
    (hR : Place.Agreeing G R) (h : R p p') :
    Option.Rel (fun f f' => PredicatesAlike G f.1 f'.1 ∧ R f.2 f'.2) (beforeNow? p)
      (beforeNow? p') := by
  refine rel_bind (hR.edge? h) fun a a' ha => ?_
  refine rel_bind (hR.oneOf? (by decide) ha) fun f f' hf => ?_
  obtain ⟨name, b⟩ := f
  obtain ⟨name', b'⟩ := f'
  refine rel_bind (hR.sign? (by decide) (hR.blanks hf.2)) fun c c' hc => ?_
  refine rel_bind (hR.oneOf? (by decide) (hR.blanks hc)) fun g g' hg => ?_
  refine rel_bind (hR.edge? hg.2) fun d d' hd => ?_
  exact .some ⟨.beforeNow hf.1, hd⟩

theorem lowStock?_rel {G : Glyph → Glyph → Prop} {R : Place → Place → Prop}
    (hR : Place.Agreeing G R) (h : R p p') : Option.Rel R (lowStock? p) (lowStock? p') := by
  refine rel_bind (hR.edge? h) fun a a' ha => ?_
  refine rel_bind (hR.word? (by decide) ha) fun b b' hb => ?_
  refine rel_bind (hR.word? (by decide) (hR.blanks hb)) fun c c' hc => ?_
  exact rel_bind (hR.word? (by decide) (hR.blanks hc)) fun d d' hd => hR.edge? hd

theorem lastQuarter?_rel {G : Glyph → Glyph → Prop} {R : Place → Place → Prop}
    (hR : Place.Agreeing G R) (h : R p p') : Option.Rel R (lastQuarter? p) (lastQuarter? p') := by
  refine rel_bind (hR.edge? h) fun a a' ha => ?_
  refine rel_bind (hR.word? (by decide) ha) fun b b' hb => ?_
  refine rel_bind (hR.word? (by decide) (hR.blanks hb)) fun c c' hc => ?_
  refine rel_bind (hR.word? (by decide) (hR.blanks hc)) fun d d' hd => ?_
  refine rel_bind (hR.sign? (by decide) (hR.blanks hd)) fun e e' he => ?_
  refine rel_bind (hR.word? (by decide) (hR.blanks he)) fun f f' hf => ?_
  refine rel_bind (hR.sign? (by decide) (hR.blanks hf)) fun g g' hg => ?_
  exact rel_bind (hR.word? (by decide) (hR.blanks hg)) fun k k' hk => hR.edge? hk

theorem length_lt_of_equality? {f : Predicate × Place} (h : equality? p = some f) :
    f.2.rest.length < p.rest.length := by
  rw [equality?_eq] at h
  simp only [equalityOpening?, Option.bind_eq_some_iff, Option.map_eq_some_iff] at h
  obtain ⟨_, ⟨⟨name, a⟩, ha, b, hb, rfl⟩, v, hv, c, hc, rfl⟩ := h
  have hhead := (suffix_of_equalityHead? ha).length_le
  have hopen := Place.length_lt_of_sign? hb
  have hvalue := Place.length_lt_of_span1? hv
  have hclose := Place.length_lt_of_sign? hc
  dsimp only at hopen hvalue ⊢
  omega

/-- **Terms that are alike hold forms that are alike.** -/
theorem ofTerm_alike (hL : L.IsQuiet) (h : Alike L [] t t') :
    List.Forall₂ (PredicatesAlike L.glyph) (ofTerm t) (ofTerm t') := by
  have hR := (scanned_abreast L t).agreeing
  have hstart : Scanned L t (.start t) (.start t') := .inl (outside_start h)
  have hequality := scanned_searchable hL Idle.equality t
  have hequalities := Place.allMatches_rel (fun _ _ => hequality.onward)
    (fun _ _ => equality?_rel hL hequality) (fun _ _ => length_lt_of_equality?) (.of_rel hstart)
  have hdates := Place.allMatches_rel (fun _ _ => (scanned_searchable hL Idle.beforeNow t).onward)
    (fun _ _ hp => rel_mono (beforeNow?_rel hR hp) fun _ _ hf => ⟨hf.1, .of_rel hf.2⟩)
    (fun _ _ => length_lt_of_beforeNow?) (.of_rel hstart)
  have hstock := isSome_eq_of_rel <| Place.firstMatch_rel
    (fun _ _ => (scanned_searchable hL Idle.lowStock t).onward) (fun _ _ => lowStock?_rel hR)
    (.of_rel hstart)
  have hquarter := isSome_eq_of_rel <| Place.firstMatch_rel
    (fun _ _ => (scanned_searchable hL Idle.lastQuarter t).onward) (fun _ _ => lastQuarter?_rel hR)
    (.of_rel hstart)
  have hsame : ∀ ps : List Predicate, List.Forall₂ (PredicatesAlike L.glyph) ps ps :=
    fun ps => List.forall₂_same.mpr fun predicate _ => .same predicate
  unfold ofTerm
  dsimp only
  rw [hstock, hquarter]
  exact List.rel_append (List.rel_append (List.rel_append hequalities hdates) (hsame _)) (hsame _)

/-! ## Late work -/

theorem isWord_of_agrees {g : Glyph} (h : g.agrees 's' = true) : g.isWord = true := by
  cases g with
  | lone half => cases h
  | char d =>
    have hcases : (d.toLower == 's') = true ∨ (d == 'ſ') = true := Bool.or_eq_true _ _ ▸ h
    rcases hcases with hletter | hlong
    · have hsame : (Glyph.char d).SameLetter (.char 's') :=
        congrArg Glyph.char (beq_iff_eq.mp hletter)
      rw [hsame.isWord_eq]
      decide
    · rw [beq_iff_eq.mp hlong]
      decide +kernel

/-- The form for late work orders begins with an equality. -/
theorem equalityHead?_of_status {a b : Place}
    (ha : (Place.start t).word? "status".toList = some a) (hb : a.blanks.sign? ['='] = some b) :
    ∃ name, equalityHead? (.start t) = some (name, b.blanks) := by
  have hword : t.head?.any Glyph.isWord = true := by
    obtain ⟨w, hw, hrest, -⟩ := Place.word?_eq_some_iff.mp ha
    cases hw with
    | @cons g c w _ hg _ =>
      have hstart : t = g :: (w ++ a.rest) := hrest
      rw [hstart, List.head?_cons, Option.any_some]
      exact isWord_of_agrees hg
  have hedge : (Place.start t).edge? = some (.start t) := by
    rw [Place.edge?, if_pos]
    show (false != t.head?.any Glyph.isWord) = true
    rw [hword]
    rfl
  have hcolumn : (Place.start t).oneOf? equalityColumns = some (t.take 6, a) := by
    show (((Place.start t).word? "status".toList).map _).orElse _ = _
    rw [ha]
    rfl
  refine ⟨t.take 6, ?_⟩
  simp only [equalityHead?, Option.bind_eq_bind, hedge, Option.bind_some, hcolumn, hb]

/-- **Of conditions that are alike both begin the form for late work orders, or neither.** -/
theorem isDelayedTerm_eq_of_alike (hL : L.IsQuiet) (h : Alike L [] t t') :
    isDelayedTerm t = isDelayedTerm t' := by
  have hO := outside_abreast L [] t
  have hfound : Option.Rel (Scanned L t)
      (do let p ← (Place.start t).word? "status".toList
          let p ← p.blanks.sign? ['=']
          let p ← p.blanks.sign? ['\'', '"']
          let p ← p.word? "delayed".toList
          p.sign? ['\'', '"'])
      (do let p ← (Place.start t').word? "status".toList
          let p ← p.blanks.sign? ['=']
          let p ← p.blanks.sign? ['\'', '"']
          let p ← p.word? "delayed".toList
          p.sign? ['\'', '"']) := by
    refine rel_bind (rel_and_left (hO.word? (by decide) (outside_start h))
      (P := fun a => (Place.start t).word? "status".toList = some a) fun _ ha => ha)
        fun a a' ha => ?_
    refine rel_bind (rel_and_left (hO.sign? (by decide) (by decide) (hO.blanks ha.1))
      (P := fun b => a.blanks.sign? ['='] = some b) fun _ hb => hb) fun b b' hb => ?_
    obtain ⟨name, hhead⟩ := equalityHead?_of_status ha.2 hb.2
    refine rel_bind (Outside.quote?_rel hL (hO.blanks hb.1) fun hrest hq ht => ?_) fun c c' hc => ?_
    · exact asksForLiteral_of_equalityHead? (x := []) hq ht.symm rfl hhead hrest
    · exact rel_bind ((inLiteral_abreast L t).word? (by decide) hc) fun d d' hd => hd.quote?_rel
  have hend : ∀ {x x' : Option Place}, Option.Rel (Scanned L t) x x' →
      (x.any fun p => p.rest.isEmpty) = x'.any fun p => p.rest.isEmpty := by
    intro x x' hx
    cases hx with
    | none => rfl
    | some hp => exact (scanned_abreast L t).isEmpty_eq hp
  exact hend hfound

/-! ## Reading -/

theorem readsInStep_alike (hL : L.IsQuiet) :
    ReadsInStep (Alike L []) (PredicatesAlike L.glyph) where
  isEmpty_eq h := h.isEmpty_eq
  unwrap h := unwrap_alike h
  split hk h := split_alike (by cases hk <;> decide) h
  isDelayedTerm_eq h := isDelayedTerm_eq_of_alike hL h
  ofTerm h := ofTerm_alike hL h
  lateWork := .same _

/-- **Conditions that are alike are read as predicates that are alike.** -/
theorem read_alike (hL : L.IsQuiet) (h : Alike L [] t t') :
    List.Forall₂ (PredicatesAlike L.glyph) (read t) (read t') :=
  (readsInStep_alike hL).read h

end Condition
end QueryDesk
