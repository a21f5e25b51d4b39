import QueryDesk.Proofs.Text.Recognition
import QueryDesk.Proofs.Text.SameLetter

/-!
# Recognising in two texts at once

Two texts may be told to be alike by a relation between their places that a step over a glyph keeps,
as long as the glyph is no quote (`Place.Abreast`).  Then a recogniser that takes no quote does the
same in both texts, and ends at places that are related again: there is one lemma for each part of
which recognisers are made, and `rel_bind` puts them together as `do` does.

That is one way for recognisers to do the same at places of two texts (`Place.Agreeing`), and larger
recognisers need no more than that.

A search goes on behind quotes too.  It does the same in both texts if behind each glyph it gets to
related places again (`Place.Onward`), possibly past stretches in which nothing is recognised and
which need not be alike (`Place.Reaches`): `firstMatch_rel` and `allMatches_rel`.
-/

set_option autoImplicit false

namespace QueryDesk

/-- Related results stay related when related functions take them further. -/
theorem rel_bind {α β γ δ : Type} {R : α → β → Prop} {S : γ → δ → Prop} {x : Option α}
    {y : Option β} {f : α → Option γ} {f' : β → Option δ} (h : Option.Rel R x y)
    (hf : ∀ a b, R a b → Option.Rel S (f a) (f' b)) : Option.Rel S (x.bind f) (y.bind f') := by
  cases h with
  | none => exact .none
  | some hab => exact hf _ _ hab

theorem rel_mono {α β : Type} {R S : α → β → Prop} {x : Option α} {y : Option β}
    (h : Option.Rel R x y) (hRS : ∀ a b, R a b → S a b) : Option.Rel S x y := by
  cases h with
  | none => exact .none
  | some hab => exact .some (hRS _ _ hab)

theorem rel_map {α β γ δ : Type} {R : α → β → Prop} {S : γ → δ → Prop} {x : Option α}
    {y : Option β} {f : α → γ} {g : β → δ} (h : Option.Rel R x y)
    (hf : ∀ a b, R a b → S (f a) (g b)) : Option.Rel S (x.map f) (y.map g) := by
  cases h with
  | none => exact .none
  | some hab => exact .some (hf _ _ hab)

theorem rel_or {α β : Type} {R : α → β → Prop} {x u : Option α} {y v : Option β}
    (h : Option.Rel R x y) (hu : Option.Rel R u v) : Option.Rel R (x.or u) (y.or v) := by
  cases h with
  | none => exact hu
  | some hab => exact .some hab

theorem rel_and_left {α β : Type} {R : α → β → Prop} {P : α → Prop} {x : Option α} {y : Option β}
    (h : Option.Rel R x y) (hP : ∀ a, x = some a → P a) :
    Option.Rel (fun a b => R a b ∧ P a) x y := by
  cases h with
  | none => exact .none
  | some hab => exact .some ⟨hab, hP _ rfl⟩

theorem rel_filter {α β : Type} {R : α → β → Prop} {x : Option α} {y : Option β} {f : α → Bool}
    {g : β → Bool} (h : Option.Rel R x y) (hfg : ∀ a b, R a b → f a = g b) :
    Option.Rel R (x.filter f) (y.filter g) := by
  cases h with
  | none => exact .none
  | some hab =>
    rw [Option.filter_some, Option.filter_some, hfg _ _ hab]
    split
    · exact .some hab
    · exact .none

/-- Two results that are related are there or missing together. -/
theorem rel_cases {α β : Type} {R : α → β → Prop} {x : Option α} {y : Option β}
    (h : Option.Rel R x y) : (x = none ∧ y = none) ∨ ∃ a b, x = some a ∧ y = some b ∧ R a b := by
  cases h with
  | none => exact .inl ⟨rfl, rfl⟩
  | some hab => exact .inr ⟨_, _, rfl, rfl, hab⟩

theorem isSome_eq_of_rel {α β : Type} {R : α → β → Prop} {x : Option α} {y : Option β}
    (h : Option.Rel R x y) : x.isSome = y.isSome := by
  cases h <;> rfl

namespace Literal

/-- With a character that is no quote no quote agrees. -/
theorem isQuote_of_agrees {g : Glyph} {c : Char} (hc : isQuote (.char c) = false)
    (h : g.agrees c = true) : isQuote g = false := by
  rw [← Bool.not_eq_true]
  intro hg
  obtain ⟨q, rfl, hq⟩ : ∃ q, g = .char q ∧ q ∈ ['\'', '"'] := by
    cases g with
    | lone half => cases hg
    | char q => exact ⟨q, rfl, List.contains_iff_mem.mp hg⟩
  have hself : (Glyph.char q).agrees c = (q == c) := by
    simp only [List.mem_cons, List.not_mem_nil, or_false] at hq
    unfold Glyph.agrees
    have hsingle : '\''.toLower = '\'' := rfl
    have hdouble : '"'.toLower = '"' := rfl
    rcases hq with rfl | rfl <;> dsimp only <;> split <;> simp [hsingle, hdouble]
  rw [hself, beq_iff_eq] at h
  rw [h, hc] at hg
  cases hg

theorem isQuote_of_isBlank {g : Glyph} (h : g.isBlank = true) : isQuote g = false := by
  rw [← Bool.not_eq_true]
  intro hg
  cases g with
  | lone half => cases hg
  | char q =>
    have hq : q ∈ ['\'', '"'] := List.contains_iff_mem.mp hg
    simp only [List.mem_cons, List.not_mem_nil, or_false] at hq
    rcases hq with rfl | rfl <;> exact absurd h (by decide)

end Literal

namespace Place

variable {α : Type} {G : Glyph → Glyph → Prop} {R : Place → Place → Prop} {p p' : Place}

/-! ## Places abreast -/

/-- Texts that begin with related glyphs, behind which places are related, or are both at an end. -/
inductive InStep (G : Glyph → Glyph → Prop) (R : Place → Place → Prop) : Text → Text → Prop
  | nil : InStep G R [] []
  | cons {g g' : Glyph} {t t' : Text} (hg : G g g')
      (hstep : Literal.isQuote g = false → R ⟨some g, t⟩ ⟨some g', t'⟩) :
      InStep G R (g :: t) (g' :: t')

/-- A relation between the places of two texts that a step over the same letter keeps. -/
structure Abreast (G : Glyph → Glyph → Prop) (R : Place → Place → Prop) : Prop where
  sameLetter : ∀ {g g' : Glyph}, G g g' → g.SameLetter g'
  /-- In front of related places a word goes on, or none does. -/
  inWord : ∀ {p p' : Place}, R p p' → p.before.any Glyph.isWord = p'.before.any Glyph.isWord
  /-- Behind a glyph that is no quote the places are related again. -/
  inStep : ∀ {p p' : Place}, R p p' → InStep G R p.rest p'.rest

/-- What holds of a word with its text holds of the word. -/
theorem word?_rel {S : Text × Place → Text × Place → Prop} {word : List Char}
    (h : Option.Rel S ((p.word? word).map fun q => (p.rest.take word.length, q))
      ((p'.word? word).map fun q => (p'.rest.take word.length, q))) :
    Option.Rel (fun q q' => S (p.rest.take word.length, q) (p'.rest.take word.length, q'))
      (p.word? word) (p'.word? word) := by
  generalize p.word? word = x at h ⊢
  generalize p'.word? word = x' at h ⊢
  cases x <;> cases x' <;> cases h
  · exact .none
  · exact .some ‹_›

/-- Of several words the first that is found is the same in both texts. -/
theorem oneOf?_rel {S : Text × Place → Text × Place → Prop} {words : List (List Char)}
    (h : ∀ word ∈ words, Option.Rel S
      ((p.word? word).map fun q => (p.rest.take word.length, q))
      ((p'.word? word).map fun q => (p'.rest.take word.length, q))) :
    Option.Rel S (p.oneOf? words) (p'.oneOf? words) := by
  unfold Place.oneOf?
  induction words with
  | nil => exact .none
  | cons word words ih =>
    obtain ⟨hfirst, hrest⟩ := List.forall_mem_cons.mp h
    rw [List.firstM, List.firstM]
    show Option.Rel _ (Option.orElse _ _) (Option.orElse _ _)
    rw [← Option.or_eq_orElse, ← Option.or_eq_orElse]
    exact rel_or hfirst (ih hrest)

namespace Abreast

variable (hR : Abreast G R)
include hR

theorem atEdge_eq (h : R p p') : p.atEdge = p'.atEdge := by
  have hbefore := hR.inWord h
  rcases p with ⟨before, rest⟩
  rcases p' with ⟨before', rest'⟩
  rw [atEdge, atEdge, hbefore]
  cases hR.inStep h with
  | nil => rfl
  | cons hg _ => rw [List.head?_cons, List.head?_cons, Option.any_some, Option.any_some,
      (hR.sameLetter hg).isWord_eq]

theorem edge? (h : R p p') : Option.Rel R p.edge? p'.edge? := by
  rw [Place.edge?, Place.edge?, hR.atEdge_eq h]
  split
  · exact .some h
  · exact .none

theorem isEmpty_eq (h : R p p') : p.rest.isEmpty = p'.rest.isEmpty := by
  rcases p with ⟨before, rest⟩
  rcases p' with ⟨before', rest'⟩
  cases hR.inStep h <;> rfl

/-- A word is found in both texts, in the same letters. -/
theorem word?_take {word : List Char} (hw : ∀ c ∈ word, Literal.isQuote (.char c) = false)
    (h : R p p') : Option.Rel (fun f f' => List.Forall₂ G f.1 f'.1 ∧ R f.2 f'.2)
      ((p.word? word).map fun q => (p.rest.take word.length, q))
      ((p'.word? word).map fun q => (p'.rest.take word.length, q)) := by
  induction word generalizing p p' with
  | nil => exact .some ⟨.nil, h⟩
  | cons c cs ih =>
    rcases p with ⟨before, rest⟩
    rcases p' with ⟨before', rest'⟩
    cases hR.inStep h with
    | nil => exact .none
    | @cons g g' t t' hg hstep =>
      have hgo : ∀ (b : Option Glyph) (a : Glyph) (u : Text), word? (c :: cs) ⟨b, a :: u⟩ =
          if a.agrees c then word? cs ⟨some a, u⟩ else none := fun _ _ _ => rfl
      rw [hgo, hgo, (hR.sameLetter hg).agrees_eq c]
      split
      · next hagrees =>
        rw [← (hR.sameLetter hg).agrees_eq c] at hagrees
        have hquote := Literal.isQuote_of_agrees (hw c List.mem_cons_self) hagrees
        have hrec := ih (fun d hd => hw d (List.mem_cons_of_mem c hd)) (hstep hquote)
        have hcons := rel_map (f := fun f : Text × Place => (g :: f.1, f.2))
          (g := fun f : Text × Place => (g' :: f.1, f.2))
          (S := fun f f' => List.Forall₂ G f.1 f'.1 ∧ R f.2 f'.2) hrec
          fun a b hab => ⟨.cons hg hab.1, hab.2⟩
        rw [Option.map_map, Option.map_map] at hcons
        exact hcons
      · exact .none

theorem word? {word : List Char} (hw : ∀ c ∈ word, Literal.isQuote (.char c) = false)
    (h : R p p') : Option.Rel R (p.word? word) (p'.word? word) :=
  rel_mono (word?_rel (hR.word?_take hw h)) fun _ _ hab => hab.2

theorem oneOf? {words : List (List Char)}
    (hw : ∀ word ∈ words, ∀ c ∈ word, Literal.isQuote (.char c) = false) (h : R p p') :
    Option.Rel (fun f f' => List.Forall₂ G f.1 f'.1 ∧ R f.2 f'.2) (p.oneOf? words)
      (p'.oneOf? words) :=
  oneOf?_rel fun word hmem => hR.word?_take (hw word hmem) h

/-- A run of glyphs that are no quotes goes equally far in both texts. -/
theorem span {test : Glyph → Bool} (htest : ∀ {g g' : Glyph}, G g g' → test g = test g')
    (hquote : ∀ g, test g = true → Literal.isQuote g = false) (h : R p p') :
    List.Forall₂ G (p.span test).1 (p'.span test).1 ∧ R (p.span test).2 (p'.span test).2 := by
  rcases p with ⟨before, rest⟩
  induction rest generalizing before p' with
  | nil =>
    rcases p' with ⟨before', rest'⟩
    cases hR.inStep h with
    | nil => exact ⟨.nil, h⟩
  | cons g t ih =>
    rcases p' with ⟨before', rest'⟩
    cases hR.inStep h with
    | @cons _ g' _ t' hg hstep =>
      by_cases hpass : test g = true
      · have hpass' : test g' = true := htest hg ▸ hpass
        obtain ⟨hrun, hplace⟩ := ih _ (hstep (hquote g hpass))
        rw [Place.span, Place.span, span.go, span.go, if_pos hpass, if_pos hpass']
        exact ⟨.cons hg hrun, hplace⟩
      · have hpass' : ¬ test g' = true := htest hg ▸ hpass
        rw [Place.span, Place.span, span.go, span.go, if_neg hpass, if_neg hpass']
        exact ⟨.nil, h⟩

theorem span1? {test : Glyph → Bool} (htest : ∀ {g g' : Glyph}, G g g' → test g = test g')
    (hquote : ∀ g, test g = true → Literal.isQuote g = false) (h : R p p') :
    Option.Rel (fun f f' => List.Forall₂ G f.1 f'.1 ∧ R f.2 f'.2) (p.span1? test)
      (p'.span1? test) := by
  obtain ⟨hrun, hplace⟩ := hR.span htest hquote h
  unfold Place.span1?
  generalize p.span test = found at hrun hplace ⊢
  generalize p'.span test = found' at hrun hplace ⊢
  rcases found with ⟨run, q⟩
  rcases found' with ⟨run', q'⟩
  cases hrun with
  | nil => exact .none
  | cons hg hrun => exact .some ⟨.cons hg hrun, hplace⟩

theorem blanks (h : R p p') : R p.blanks p'.blanks :=
  (hR.span (fun hg => (hR.sameLetter hg).isBlank_eq) (fun _ => Literal.isQuote_of_isBlank) h).2

theorem blanks1? (h : R p p') : Option.Rel R p.blanks1? p'.blanks1? :=
  rel_map (hR.span1? (fun hg => (hR.sameLetter hg).isBlank_eq)
    (fun _ => Literal.isQuote_of_isBlank) h) fun _ _ hab => hab.2

/-- A run of word glyphs is a word of the same letters in both texts. -/
theorem spanWord? (h : R p p') :
    Option.Rel (fun f f' => List.Forall₂ G f.1 f'.1 ∧ R f.2 f'.2) (p.span1? Glyph.isWord)
      (p'.span1? Glyph.isWord) := by
  refine hR.span1? (fun hg => (hR.sameLetter hg).isWord_eq) (fun g hg => ?_) h
  rw [← Bool.not_eq_true]
  intro hquote
  cases g with
  | lone half => cases hg
  | char q =>
    have hq : q ∈ ['\'', '"'] := List.contains_iff_mem.mp hquote
    simp only [List.mem_cons, List.not_mem_nil, or_false] at hq
    rcases hq with rfl | rfl <;> exact absurd hg (by decide)

theorem sign? {signs : List Char} (hsigns : ∀ c ∈ signs, c.isAlpha = false)
    (hquote : ∀ c ∈ signs, Literal.isQuote (.char c) = false) (h : R p p') :
    Option.Rel R (p.sign? signs) (p'.sign? signs) := by
  rcases p with ⟨before, rest⟩
  rcases p' with ⟨before', rest'⟩
  cases hR.inStep h with
  | nil => exact .none
  | @cons g g' t t' hg hstep =>
    have hsame := (hR.sameLetter hg).isOneOf_eq hsigns
    unfold Place.sign?
    dsimp only
    rw [← hsame]
    split
    · next hone =>
      refine .some (hstep ?_)
      cases g with
      | lone half => rfl
      | char c => exact hquote c (List.contains_iff_mem.mp hone)
    · exact .none

end Abreast

/-! ## Agreement -/

/-- Tests for a character that is neither a blank nor a quote. -/
def isVisible (c : Char) : Bool := !(Glyph.char c).isBlank && !Literal.isQuote (.char c)

/-- A relation between the places of two texts at which recognisers find the same: it says so of the
parts of which they are made. -/
structure Agreeing (G : Glyph → Glyph → Prop) (R : Place → Place → Prop) : Prop where
  isEmpty_eq : ∀ {p p' : Place}, R p p' → p.rest.isEmpty = p'.rest.isEmpty
  edge? : ∀ {p p' : Place}, R p p' → Option.Rel R p.edge? p'.edge?
  word? : ∀ {p p' : Place} {word : List Char}, (∀ c ∈ word, isVisible c = true) → R p p' →
    Option.Rel R (p.word? word) (p'.word? word)
  oneOf? : ∀ {p p' : Place} {words : List (List Char)},
    (∀ word ∈ words, ∀ c ∈ word, isVisible c = true) → R p p' →
      Option.Rel (fun f f' => List.Forall₂ G f.1 f'.1 ∧ R f.2 f'.2) (p.oneOf? words)
        (p'.oneOf? words)
  sign? : ∀ {p p' : Place} {signs : List Char},
    (∀ c ∈ signs, c.isAlpha = false ∧ isVisible c = true) → R p p' →
      Option.Rel R (p.sign? signs) (p'.sign? signs)
  blanks : ∀ {p p' : Place}, R p p' → R p.blanks p'.blanks
  blanks1? : ∀ {p p' : Place}, R p p' → Option.Rel R p.blanks1? p'.blanks1?

theorem isBlank_of_isVisible {c : Char} (h : isVisible c = true) :
    (Glyph.char c).isBlank = false := by
  rw [isVisible, Bool.and_eq_true, Bool.not_eq_true', Bool.not_eq_true'] at h
  exact h.1

theorem isQuote_of_isVisible {c : Char} (h : isVisible c = true) :
    Literal.isQuote (.char c) = false := by
  rw [isVisible, Bool.and_eq_true, Bool.not_eq_true', Bool.not_eq_true'] at h
  exact h.2

/-- Places abreast agree. -/
theorem Abreast.agreeing (hR : Abreast G R) : Agreeing G R where
  isEmpty_eq := hR.isEmpty_eq
  edge? := hR.edge?
  word? hword := hR.word? fun c hc => isQuote_of_isVisible (hword c hc)
  oneOf? hwords := hR.oneOf? fun word hmem c hc => isQuote_of_isVisible (hwords word hmem c hc)
  sign? hsigns := hR.sign? (fun c hc => (hsigns c hc).1)
    fun c hc => isQuote_of_isVisible (hsigns c hc).2
  blanks := hR.blanks
  blanks1? := hR.blanks1?

/-! ## Searching abreast -/

theorem firstMatch_cons (recognise : Place → Option α) (before : Option Glyph) (g : Glyph)
    (t : Text) : firstMatch recognise ⟨before, g :: t⟩ =
      (recognise ⟨before, g :: t⟩).or (firstMatch recognise ⟨some g, t⟩) := by
  show firstMatch.go recognise before (g :: t) = _
  rw [firstMatch.go]
  cases recognise ⟨before, g :: t⟩ <;> rfl

theorem allMatches_cons {recognise : Place → Option (α × Place)}
    (hshorter : ∀ p f, recognise p = some f → f.2.rest.length < p.rest.length)
    (before : Option Glyph) (g : Glyph) (t : Text) : allMatches recognise ⟨before, g :: t⟩ =
      match recognise ⟨before, g :: t⟩ with
      | none => allMatches recognise ⟨some g, t⟩
      | some f => f.1 :: allMatches recognise f.2 := by
  show allMatches.go recognise before (g :: t) = _
  rw [allMatches.go]
  cases hfound : recognise ⟨before, g :: t⟩ with
  | none => rfl
  | some f =>
    have hlt := hshorter _ f hfound
    dsimp only at hlt ⊢
    rw [if_pos hlt]
    rfl

theorem allMatches_nil {recognise : Place → Option (α × Place)}
    (hshorter : ∀ p f, recognise p = some f → f.2.rest.length < p.rest.length)
    (before : Option Glyph) : allMatches recognise ⟨before, []⟩ = [] := by
  refine allMatches_eq_nil ?_
  show recognise ⟨before, []⟩ = none
  cases hr : recognise ⟨before, []⟩ with
  | none => rfl
  | some f => exact absurd (hshorter _ f hr) (Nat.not_lt_zero _)

theorem Avoids.imp {β : Type} {recognise : Place → Option α} {recognise' : Place → Option β}
    (himp : ∀ p, recognise p = none → recognise' p = none) {before : Option Glyph} {t : Text}
    (h : Avoids recognise before t) : Avoids recognise' before t := by
  induction t generalizing before with
  | nil => exact trivial
  | cons g t ih => exact ⟨fun more => himp _ (h.1 more), ih h.2⟩

/-- A search for all finds passes over a text in which nothing is recognised. -/
theorem allMatches_append {recognise : Place → Option (α × Place)}
    (hshorter : ∀ p f, recognise p = some f → f.2.rest.length < p.rest.length)
    {before : Option Glyph} {t : Text} (h : Avoids recognise before t) (u : Text) :
    allMatches recognise ⟨before, t ++ u⟩ = allMatches recognise ⟨lastGlyph before t, u⟩ := by
  induction t generalizing before with
  | nil => rfl
  | cons g t ih =>
    have hnone := h.1 u
    rw [List.cons_append] at hnone ⊢
    rw [allMatches_cons hshorter, hnone, lastGlyph_cons]
    exact ih h.2

/-- Nothing is recognised between a place and a later one. -/
def Passes (recognise : Place → Option α) (p q : Place) : Prop :=
  ∃ passed : Text, p.rest = passed ++ q.rest ∧ q.before = lastGlyph p.before passed ∧
    Avoids recognise p.before passed

theorem Passes.refl (recognise : Place → Option α) (p : Place) : Passes recognise p p :=
  ⟨[], rfl, rfl, trivial⟩

theorem Passes.length_le {recognise : Place → Option α} {q : Place} (h : Passes recognise p q) :
    q.rest.length ≤ p.rest.length := by
  obtain ⟨passed, hrest, -, -⟩ := h
  rw [hrest, List.length_append]
  exact Nat.le_add_left _ _

theorem Passes.firstMatch_eq {recognise : Place → Option α} {q : Place}
    (h : Passes recognise p q) : p.firstMatch recognise = q.firstMatch recognise := by
  obtain ⟨passed, hrest, hbefore, havoids⟩ := h
  rcases p with ⟨before, rest⟩
  rcases q with ⟨before', rest'⟩
  dsimp only at hrest hbefore havoids
  rw [hrest, hbefore, firstMatch_append havoids]

theorem Passes.allMatches_eq {recognise : Place → Option (α × Place)}
    (hshorter : ∀ p f, recognise p = some f → f.2.rest.length < p.rest.length) {q : Place}
    (h : Passes recognise p q) : p.allMatches recognise = q.allMatches recognise := by
  obtain ⟨passed, hrest, hbefore, havoids⟩ := h
  rcases p with ⟨before, rest⟩
  rcases q with ⟨before', rest'⟩
  dsimp only at hrest hbefore havoids
  rw [hrest, hbefore, allMatches_append hshorter havoids]

/-- Related places lie ahead, and nothing is recognised up to them. -/
def Reaches (recognise : Place → Option α) (R : Place → Place → Prop) (p p' : Place) : Prop :=
  ∃ q q', Passes recognise p q ∧ Passes recognise p' q' ∧ R q q'

theorem Reaches.of_rel {recognise : Place → Option α} (h : R p p') : Reaches recognise R p p' :=
  ⟨p, p', .refl _ _, .refl _ _, h⟩

/-- A relation between places abreast that a search finds again behind a quote. -/
structure Searchable (recognise : Place → Option α) (G : Glyph → Glyph → Prop)
    (R : Place → Place → Prop) : Prop extends Abreast G R where
  behindQuote : ∀ {before before' : Option Glyph} {q q' : Glyph} {t t' : Text},
    R ⟨before, q :: t⟩ ⟨before', q' :: t'⟩ → Literal.isQuote q = true →
      Reaches recognise R ⟨some q, t⟩ ⟨some q', t'⟩

/-- Behind every glyph a search gets to related places. -/
theorem Searchable.reaches {recognise : Place → Option α} (hR : Searchable recognise G R)
    {before before' : Option Glyph} {g g' : Glyph} {t t' : Text}
    (h : R ⟨before, g :: t⟩ ⟨before', g' :: t'⟩) :
    Reaches recognise R ⟨some g, t⟩ ⟨some g', t'⟩ := by
  cases hquote : Literal.isQuote g with
  | true => exact hR.behindQuote h hquote
  | false =>
    cases hR.inStep h with
    | cons _ hstep => exact .of_rel (hstep hquote)

/-- Says that a step over a glyph leads on to related places, or that both texts end. -/
inductive Onward (recognise : Place → Option α) (R : Place → Place → Prop) : Place → Place → Prop
  | ended {b b' : Option Glyph} : Onward recognise R ⟨b, []⟩ ⟨b', []⟩
  | step {b b' : Option Glyph} {g g' : Glyph} {t t' : Text}
      (h : Reaches recognise R ⟨some g, t⟩ ⟨some g', t'⟩) :
      Onward recognise R ⟨b, g :: t⟩ ⟨b', g' :: t'⟩

/-- One glyph on, related places lie ahead again. -/
theorem Onward.next?_rel {recognise : Place → Option α} (h : Onward recognise R p p') :
    Option.Rel (Reaches recognise R) p.next? p'.next? := by
  cases h with
  | ended => exact .none
  | step h => exact .some h

theorem Searchable.onward {recognise : Place → Option α} (hR : Searchable recognise G R)
    (h : R p p') : Onward recognise R p p' := by
  rcases p with ⟨before, rest⟩
  rcases p' with ⟨before', rest'⟩
  have hahead := @hR.reaches
  cases hR.inStep h with
  | nil => exact .ended
  | cons hg _ => exact .step (hahead h)

/-- **A search comes to the same in both texts.** -/
theorem firstMatch_rel {recognise : Place → Option α} {V : α → α → Prop}
    (hR : ∀ p p', R p p' → Onward recognise R p p')
    (hfind : ∀ p p', R p p' → Option.Rel V (recognise p) (recognise p'))
    (h : Reaches recognise R p p') :
    Option.Rel V (p.firstMatch recognise) (p'.firstMatch recognise) := by
  -- Stretches are passed in one step, so the induction is on how much of the first text is left.
  induction hlen : p.rest.length using Nat.strongRecOn generalizing p p' with
  | _ n ih =>
    obtain ⟨q, q', hpass, hpass', hq⟩ := h
    have hle := hpass.length_le
    rw [hpass.firstMatch_eq, hpass'.firstMatch_eq]
    have hfound := hfind _ _ hq
    cases hR _ _ hq with
    | ended => exact hfound
    | @step _ _ g g' t t' hahead =>
      rw [firstMatch_cons, firstMatch_cons]
      have hlt : t.length < n := hlen ▸ hle
      exact rel_or hfound (ih _ hlt hahead rfl)

/-- **A search for all finds comes to related finds in both texts.** -/
theorem allMatches_rel {recognise : Place → Option (α × Place)} {V : α → α → Prop}
    (hR : ∀ p p', R p p' → Onward recognise R p p')
    (hfind : ∀ p p', R p p' →
      Option.Rel (fun f f' => V f.1 f'.1 ∧ Reaches recognise R f.2 f'.2) (recognise p)
        (recognise p'))
    (hshorter : ∀ p f, recognise p = some f → f.2.rest.length < p.rest.length)
    (h : Reaches recognise R p p') :
    List.Forall₂ V (p.allMatches recognise) (p'.allMatches recognise) := by
  induction hlen : p.rest.length using Nat.strongRecOn generalizing p p' with
  | _ n ih =>
    obtain ⟨q, q', hpass, hpass', hq⟩ := h
    have hle := hpass.length_le
    rw [hpass.allMatches_eq hshorter, hpass'.allMatches_eq hshorter]
    have hfound := hfind _ _ hq
    cases hR _ _ hq with
    | ended =>
      rw [allMatches_nil hshorter, allMatches_nil hshorter]
      exact .nil
    | @step _ _ g g' t t' hahead =>
      rw [allMatches_cons hshorter, allMatches_cons hshorter]
      obtain ⟨hr, hr'⟩ | ⟨f, f', hr, hr', hvalue, hbehind⟩ := rel_cases hfound
      · rw [hr, hr']
        have hlt : t.length < n := hlen ▸ hle
        exact ih _ hlt hahead rfl
      · rw [hr, hr']
        have hlt : f.2.rest.length < n := hlen ▸ Nat.lt_of_lt_of_le (hshorter _ f hr) hle
        exact .cons hvalue (ih _ hlt hbehind rfl)

end Place
end QueryDesk
