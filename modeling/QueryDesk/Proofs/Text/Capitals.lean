import Mathlib.Data.List.Infix
import QueryDesk.Proofs.Text.SameLetter

/-!
# Words in capitals

Of the glyphs beyond ASCII few have an upper case that begins with a Latin capital: the dotless I,
the long S and those with an upper case of more than one glyph (`Glyph.withOddUpper`).  So a text
whose upper case begins with a word of capitals spells the word with Latin letters, but for the
places where one of those glyphs fits in (`Text.exists_of_prefix_upper`).

Into `SELECT` only two of them fit: the long S in front and the T with dots at the end.  Neither
has a Latin letter as its lower case, and so a text whose upper case begins with `SELECT` may well
not begin with `select` in lower case (`Text.prefix_lower_select_iff`).
-/

set_option autoImplicit false

namespace QueryDesk

namespace Glyph

/-- The code points beyond ASCII whose upper case is longer than one glyph or a Latin capital, each
with that upper case. -/
def withOddUpper : List (Nat × List Nat) := (305, [73]) :: (383, [83]) :: Text.upperSpecials

theorem code_ofCode_lt {n : Nat} {c : Char} (h : ofCode n = .char c) (hc : c.toNat < 0x80) :
    n < 0x80 := by
  rw [ofCode] at h
  split at h
  · next hvalid =>
    have hn : (Char.ofNat n).toNat = n := by
      rw [Char.ofNat, dif_pos hvalid]
      rfl
    rw [← Glyph.char.inj h, hn] at hc
    exact hc
  · split at h
    · cases h
    · cases h
      exact absurd hc (by decide)

/-- The only runs that reach down to ASCII are that of the dotless I and that of the long S. -/
theorem upperShifts_above_ascii : ∀ s ∈ Text.upperShifts, 0x80 ≤ (s.first : Int) + s.distance ∨
    (s.first = s.last ∧
      (s.first, [((s.first : Int) + s.distance).toNat]) ∈ withOddUpper.take 2) := by
  decide +kernel

/-- **An upper case that begins with an ASCII glyph** is that of an ASCII glyph, or an odd one. -/
theorem upper_cases {g : Glyph} {c : Char} {more : Text} (hc : c.toNat < 0x80)
    (h : g.upper = .char c :: more) :
    (∃ b : Char, g = .char b ∧ b.toNat < 0x80 ∧ b.toUpper = c ∧ more = []) ∨
      ∃ odd ∈ withOddUpper, g.code = odd.1 ∧ g.upper = odd.2.map ofCode := by
  cases g with
  | lone half => cases h
  | char b =>
    by_cases hb : b.toNat < 0x80
    · rw [upper, if_pos hb] at h
      obtain ⟨hupper, hmore⟩ := List.cons.inj h
      exact .inl ⟨b, rfl, hb, Glyph.char.inj hupper, hmore.symm⟩
    · have hupper : (Glyph.char b).upper
          = (mapCode? Text.upperSpecials Text.upperShifts b.toNat).getD [.char b] := by
        rw [upper, if_neg hb]
      rw [hupper] at h ⊢
      refine .inr ?_
      rw [mapCode?] at h ⊢
      split at h
      · next special hfind =>
        have hcode : special.1 = b.toNat := by simpa using List.find?_some hfind
        exact ⟨special, .tail _ (.tail _ (List.mem_of_find?_eq_some hfind)), hcode.symm, rfl⟩
      · rw [shiftCode?, Option.map_map] at h ⊢
        cases hfind : Text.upperShifts.find? fun s => s.covers b.toNat with
        | none =>
          rw [hfind] at h
          exact absurd hc (Glyph.char.inj (List.cons.inj h).1 ▸ hb)
        | some s =>
          rw [hfind] at h
          have hcovers : s.covers b.toNat = true := by simpa using List.find?_some hfind
          simp only [Text.Shift.covers, Bool.and_eq_true, decide_eq_true_eq] at hcovers
          have hlow : ((b.toNat : Int) + s.distance).toNat < 0x80 :=
            code_ofCode_lt (List.cons.inj h).1 hc
          rcases upperShifts_above_ascii s (List.mem_of_find?_eq_some hfind) with hhigh | hodd
          · omega
          · have hfirst : s.first = b.toNat := by omega
            exact ⟨_, List.mem_of_mem_take hodd.2, hfirst.symm, by rw [hfirst]; rfl⟩

theorem withOddUpper_ne_nil : ∀ odd ∈ withOddUpper, odd.2 ≠ [] := by decide +kernel

theorem upper_ne_nil (g : Glyph) : g.upper ≠ [] := by
  cases g with
  | lone half => exact List.cons_ne_nil _ _
  | char b =>
    rw [upper]
    split
    · exact List.cons_ne_nil _ _
    · rw [mapCode?]
      split
      · next special hfind =>
        have hmem := List.mem_of_find?_eq_some hfind
        simpa using withOddUpper_ne_nil special (.tail _ (.tail _ hmem))
      · cases shiftCode? Text.upperShifts b.toNat <;> exact List.cons_ne_nil _ _

/-- Says that a text can stand at the front of a word, with some of the word or of the text left. -/
def Fits (t word : Text) : Prop := t <+: word ∨ word <+: t

instance (t word : Text) : Decidable (Fits t word) := inferInstanceAs (Decidable (_ ∨ _))

end Glyph

namespace Text

open Glyph

/-- A text whose upper case begins with a word of capitals begins with the first letter of the word,
or with an odd glyph whose upper case fits the word. -/
theorem exists_of_prefix_upper {c : Char} {word t : Text} (hc : c.toNat < 0x80)
    (h : .char c :: word <+: t.upper) :
    ∃ g rest, t = g :: rest ∧
      ((∃ b : Char, g = .char b ∧ b.toNat < 0x80 ∧ b.toUpper = c ∧ word <+: upper rest) ∨
        ∃ odd ∈ withOddUpper, g.code = odd.1 ∧ Fits (odd.2.map ofCode) (.char c :: word)) := by
  cases t with
  | nil => exact absurd (List.prefix_nil.mp h) (List.cons_ne_nil _ _)
  | cons g rest =>
    refine ⟨g, rest, rfl, ?_⟩
    rw [upper, List.flatMap_cons] at h
    obtain ⟨a, more, hupper⟩ := List.exists_cons_of_ne_nil g.upper_ne_nil
    rw [hupper, List.cons_append, List.cons_prefix_cons] at h
    obtain ⟨rfl, hword⟩ := h
    rcases upper_cases hc hupper with ⟨b, rfl, hb, hbc, rfl⟩ | ⟨odd, hodd, hcode, hoddUpper⟩
    · exact .inl ⟨b, rfl, hb, hbc, hword⟩
    · refine .inr ⟨odd, hodd, hcode, ?_⟩
      rw [← hoddUpper, hupper]
      rcases List.prefix_or_prefix_of_prefix hword (List.prefix_append more _) with hle | hle
      · exact .inr (List.cons_prefix_cons.mpr ⟨rfl, hle⟩)
      · exact .inl (List.cons_prefix_cons.mpr ⟨rfl, hle⟩)

/-- An ASCII letter has the small letter of its capital as its lower case. -/
theorem lower_cons_of_toUpper {b c : Char} (hb : b.toNat < 0x80) (h : b.toUpper = c) (t : Text) :
    lower (.char b :: t) = .char c.toLower :: lower t := by
  have hlower : b.toLower = c.toLower := by
    rw [← Char.toNat_inj, toNat_toLower, toNat_toLower, ← h, toNat_toUpper]
    split_ifs <;> omega
  rw [lower, List.flatMap_cons, Glyph.lower, if_pos hb, hlower]
  rfl

/-- A letter that no odd glyph stands for can be taken off the word and off the text. -/
theorem exists_behind_letter {c : Char} {word t : Text} (hc : c.toNat < 0x80)
    (hodd : ∀ odd ∈ withOddUpper, ¬Fits (odd.2.map ofCode) (.char c :: word))
    (h : .char c :: word <+: t.upper) :
    ∃ g rest, t = g :: rest ∧ word <+: upper rest ∧
      ∀ small, .char c.toLower :: small <+: t.lower ↔ small <+: lower rest := by
  obtain ⟨g, rest, rfl, ⟨b, rfl, hb, hbc, hword⟩ | ⟨odd, hmem, -, hfits⟩⟩ :=
    exists_of_prefix_upper hc h
  · refine ⟨_, rest, rfl, hword, fun small => ?_⟩
    rw [lower_cons_of_toUpper hb hbc, List.cons_prefix_cons]
    exact and_iff_right rfl
  · exact absurd hfits (hodd odd hmem)

/-- Where one odd glyph fits the word, and is its own lower case, it stands in front or the letter
does. -/
theorem exists_behind_letter_or {c : Char} (d : Char) {word t : Text} (hc : c.toNat < 0x80)
    (hodd : ∀ odd ∈ withOddUpper, Fits (odd.2.map ofCode) (.char c :: word) → odd.1 = d.toNat)
    (hd : 0x80 ≤ d.toNat) (hlower : Glyph.lower d = [.char d])
    (h : .char c :: word <+: t.upper) :
    ∃ g rest, t = g :: rest ∧
      ((g = .char d ∧ ∀ small, ¬.char c.toLower :: small <+: t.lower) ∨
        (g ≠ .char d ∧ word <+: upper rest ∧
          ∀ small, .char c.toLower :: small <+: t.lower ↔ small <+: lower rest)) := by
  obtain ⟨g, rest, rfl, ⟨b, rfl, hb, hbc, hword⟩ | ⟨odd, hmem, hcode, hfits⟩⟩ :=
    exists_of_prefix_upper hc h
  · refine ⟨_, rest, rfl, .inr ⟨?_, hword, fun small => ?_⟩⟩
    · rintro ⟨⟩
      omega
    · rw [lower_cons_of_toUpper hb hbc, List.cons_prefix_cons]
      exact and_iff_right rfl
  · have hg : g = .char d := by
      rw [hodd odd hmem hfits] at hcode
      cases g with
      | char b => rw [Char.toNat_inj.mp hcode]
      | lone half =>
        have hvalid : d.toNat < 0xD800 ∨ 0xDFFF < d.toNat ∧ d.toNat < 0x110000 := d.valid
        have hlone : 0xD800 + half.val = d.toNat := hcode
        omega
    subst hg
    refine ⟨_, rest, rfl, .inl ⟨rfl, fun small => ?_⟩⟩
    rw [lower, List.flatMap_cons, hlower, List.singleton_append, List.cons_prefix_cons]
    rintro ⟨hlow, -⟩
    have hcode := toNat_toLower c
    rw [Glyph.char.inj hlow] at hcode
    split at hcode <;> omega

/-- **A text that begins with `SELECT` in upper case begins with `select` in lower case**, unless it
begins with the long S or its sixth glyph is the T with dots. -/
theorem prefix_lower_select_iff {t : Text} (h : of "SELECT" <+: t.upper) :
    of "select" <+: t.lower ↔
      ¬(t[0]? = some (.char '\u017F') ∨ t[5]? = some (.char '\u1E97')) := by
  have hcapitals : of "SELECT" = ['S', 'E', 'L', 'E', 'C', 'T'].map .char := by decide
  have hsmall : of "select" = ['s', 'e', 'l', 'e', 'c', 't'].map .char := by decide
  rw [hcapitals] at h
  rw [hsmall]
  obtain ⟨s, t, rfl, ⟨rfl, hs⟩ | ⟨hs, h, hsel⟩⟩ := exists_behind_letter_or '\u017F' (by decide)
    (by decide +kernel) (by decide) (by decide +kernel) h
  · exact iff_of_false (hs _) fun hnot => hnot (.inl rfl)
  obtain ⟨e, t, rfl, h, helect⟩ := exists_behind_letter (by decide) (by decide +kernel) h
  obtain ⟨l, t, rfl, h, hlect⟩ := exists_behind_letter (by decide) (by decide +kernel) h
  obtain ⟨e', t, rfl, h, hect⟩ := exists_behind_letter (by decide) (by decide +kernel) h
  obtain ⟨c, t, rfl, h, hct⟩ := exists_behind_letter (by decide) (by decide +kernel) h
  refine ((hsel _).trans <| (helect _).trans <| (hlect _).trans <| (hect _).trans (hct _)).trans ?_
  obtain ⟨g, t, rfl, ⟨rfl, hg⟩ | ⟨hg, -, ht⟩⟩ := exists_behind_letter_or '\u1E97' (by decide)
    (by decide +kernel) (by decide) (by decide +kernel) h
  · exact iff_of_false (hg _) fun hnot => hnot (.inr rfl)
  · refine iff_of_true ((ht _).mpr (List.nil_prefix)) ?_
    rintro (hs' | hg')
    · exact hs (Option.some.inj hs')
    · exact hg (Option.some.inj hg')

end Text
end QueryDesk
