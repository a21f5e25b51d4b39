import QueryDesk.Model.Answer
import QueryDesk.Proofs.Json.Ascii
import QueryDesk.Proofs.Json.Remainder
import QueryDesk.Proofs.Text.Trim

/-!
# Objects embedded in a text

Objects that are written as JSON, with texts without an opening brace in front of them, between them
and behind them, are all found again, in their order and as they were (`objects_embedded`).  Braces,
quotes and fences inside their strings are no hindrance, for an object is read up to its end in one
go.

Nor does it matter that a fence is taken off first: its signs are in no token of JSON, so the search
comes to the same with them (`objects_eq_scan`).
-/

set_option autoImplicit false

namespace QueryDesk

theorem Glyph.isInert_of_isBlank {g : Glyph} (h : g.isBlank = true) : g.isInert = true := by
  have hcodes : ∀ n ∈ blankCodes, n ≤ 0x20 ∨ n = 0x60 ∨ 0x7F ≤ n := by decide
  exact decide_eq_true (hcodes _ (List.contains_iff_mem.mp h))

namespace Answer

open Json

variable {s t : Text} {fields : Row}

/-! ## The search -/

theorem scan_of_ne {g : Glyph} (h : g ≠ .char '\x7b') (rest : Text) :
    scan (g :: rest) = scan rest := by
  rw [scan, if_neg h]

theorem scan_of_malformed {rest : Text} (h : readFront (.char '\x7b' :: rest) = .error .malformed) :
    scan (.char '\x7b' :: rest) = scan rest := by
  rw [scan, if_pos rfl, h]

theorem scan_of_numeral {rest : Text} {count : Nat}
    (h : readFront (.char '\x7b' :: rest) = .error (.numeralTooLong count)) :
    scan (.char '\x7b' :: rest) = .error (.numeralTooLong count) := by
  rw [scan, if_pos rfl, h]

/-- The row that a value is, if it is one. -/
def row? (v : Value) : Option Row :=
  match v with
  | .record fields => some fields
  | _ => none

/-- What is read is not looked at again. -/
theorem scan_of_readFront {rest behind : Text} {v : Value}
    (h : readFront (.char '\x7b' :: rest) = .ok (v, behind)) :
    scan (.char '\x7b' :: rest) = (scan behind).map ((row? v).toList ++ ·) := by
  rw [scan, if_pos rfl, h]
  dsimp only
  rw [if_pos (length_lt_of_readFront h)]
  cases scan behind <;> cases v <;> rfl

/-- What stands in front of the first brace is passed over. -/
theorem scan_append_left {noise : Text} (h : .char '\x7b' ∉ noise) (t : Text) :
    scan (noise ++ t) = scan t := by
  induction noise with
  | nil => rfl
  | cons g noise ih =>
    rw [List.mem_cons, not_or] at h
    rw [List.cons_append, scan_of_ne (Ne.symm h.1), ih h.2]

theorem not_mem_of_isInert (hs : s.IsInert) : .char '\x7b' ∉ s :=
  fun h => absurd (hs _ h) (by decide)

/-- Glyphs that are in no token do not matter behind a text. -/
theorem scan_append_right (hs : s.IsInert) (t : Text) : scan (t ++ s) = scan t := by
  have hfront : ∀ rest, readFront (.char '\x7b' :: (rest ++ s)) =
      (readFront (.char '\x7b' :: rest)).map (leaving s) := fun rest =>
    readFront_append hs (.char '\x7b' :: rest)
  induction t using scan.induct with
  | case1 =>
    have hscan := scan_append_left (not_mem_of_isInert hs) []
    rwa [List.append_nil] at hscan
  | case2 rest hbad ih =>
    rw [scan_of_malformed hbad, List.cons_append, scan_of_malformed (by rw [hfront, hbad]; rfl), ih]
  | case3 rest count hlong =>
    rw [scan_of_numeral hlong, List.cons_append, scan_of_numeral (by rw [hfront, hlong]; rfl)]
  | case4 rest v behind hv _ ih =>
    have hmore : readFront (.char '\x7b' :: (rest ++ s)) = .ok (v, behind ++ s) := by
      rw [hfront, hv]
      rfl
    rw [scan_of_readFront hv, List.cons_append, scan_of_readFront hmore, ih]
  | case5 rest v behind hv hge => exact absurd (length_lt_of_readFront hv) hge
  | case6 g rest hg ih => rw [scan_of_ne hg, List.cons_append, scan_of_ne hg, ih]

/-! ## Fences -/

theorem scan_drop {p : Text} (hp : .char '\x7b' ∉ p) (h : p.isPrefixOf t = true) :
    scan (t.drop p.length) = scan t := by
  obtain ⟨rest, rfl⟩ := List.isPrefixOf_iff_prefix.mp h
  rw [List.drop_left, scan_append_left hp]

/-- The search comes to the same without a fence. -/
theorem scan_withoutFence (t : Text) : scan (withoutFence t) = scan t := by
  have hfence : (Text.of "\x60\x60\x60").IsInert := by decide
  have hend : ∀ inside : Text, scan inside = scan t →
      scan (if (Text.of "\x60\x60\x60").reverse.isPrefixOf inside.reverse
        then inside.take (inside.length - 3) else inside) = scan t := by
    intro inside hinside
    split
    · next h =>
      obtain ⟨front, rfl⟩ := List.reverse_prefix.mp (List.isPrefixOf_iff_prefix.mp h)
      have hlength : (Text.of "\x60\x60\x60").length = 3 := rfl
      rw [List.length_append, hlength, Nat.add_sub_cancel, List.take_left]
      rwa [scan_append_right hfence] at hinside
    · exact hinside
  rw [withoutFence]
  dsimp only
  split
  · refine hend _ ?_
    split
    · next h => exact scan_drop (by decide) h
    · split
      · next h => exact scan_drop (by decide) h
      · rfl
  · rfl

theorem scan_trim (t : Text) : scan t.trim = scan t := by
  have hblank : ∀ {run : Text}, (∀ g ∈ run, g.isBlank = true) → run.IsInert :=
    fun h g hg => Glyph.isInert_of_isBlank (h g hg)
  obtain ⟨lead, hlead, hleads⟩ : ∃ lead, t = lead ++ t.trimStart ∧ ∀ g ∈ lead, g.isBlank = true :=
    ⟨_, (List.takeWhile_append_dropWhile).symm, fun g hg => List.mem_takeWhile_imp hg⟩
  obtain ⟨last, hlast, hlasts⟩ :
      ∃ last, t.trimStart = t.trim ++ last ∧ ∀ g ∈ last, g.isBlank = true :=
    ⟨_, List.rdropWhile_append_rtakeWhile.symm, fun g hg => List.mem_rtakeWhile_imp hg⟩
  calc scan t.trim
    _ = scan (t.trim ++ last) := (scan_append_right (hblank hlasts) _).symm
    _ = scan t.trimStart := by rw [hlast]
    _ = scan (lead ++ t.trimStart) :=
      (scan_append_left (not_mem_of_isInert (hblank hleads)) _).symm
    _ = scan t := by rw [← hlead]

/-- **Fences do not matter.** -/
theorem objects_eq_scan (t : Text) : objects t = scan t := by
  rw [objects, scan_withoutFence, scan_trim]

end Answer

/-! ## Writing objects into a text -/

namespace Json

/-- Writes a value as JSON, in ASCII or with all characters kept. -/
def dump (inAscii : Bool) (fallback : Fallback) (v : Value) : Except Fault Text :=
  (write fallback v).map fun t => if inAscii then t.flatMap asciiGlyph else t

/-- Says that a text is read back from its string, in ASCII or with all characters kept. -/
def IsDumpable (inAscii : Bool) (t : Text) : Prop := inAscii = true → t.IsUnsplit

/-- A null, a flag, a whole number that is not too long, or a text of some kind. -/
def IsPlainLeaf (texts : Text → Prop) : Value → Prop
  | .null | .flag _ => True
  | .whole n => Number.isTooLong n = false
  | .text t => texts t
  | _ => False

/-- The spelling of what is dumped. -/
def dumped (inAscii : Bool) : Respelling := if inAscii then .ascii else .asIs

variable {inAscii : Bool} {fallback : Fallback} {v : Value} {fields : List (Text × Value)}

theorem holds_dumped {t : Text} (h : IsDumpable inAscii t) : (dumped inAscii).holds t := by
  cases inAscii with
  | true => exact h rfl
  | false => trivial

theorem dump_of_write {t : Text} (h : write fallback v = .ok t) :
    dump inAscii fallback v = .ok ((dumped inAscii).apply t) := by
  rw [dump, h]
  cases inAscii with
  | true => rfl
  | false =>
    rw [dumped, if_neg Bool.false_ne_true, Respelling.apply_asIs]
    rfl

theorem isSpelledAs_self
    (h : v.IsMadeOf (IsDumpable inAscii) (IsPlainLeaf (IsDumpable inAscii))) :
    IsSpelledAs (dumped inAscii) fallback v v := by
  induction h with
  | @leaf v h =>
    cases v with
    | null => exact isSpelledAs_null
    | flag b => exact isSpelledAs_flag b
    | whole n => exact isSpelledAs_whole h
    | text t => exact isSpelledAs_text (holds_dumped h)
    | _ => cases h
  | list h ih => exact isSpelledAs_of_sendItems (fun _ => by rw [send]) (List.forall₂_same.mpr ih)
  | record hnodup hnames h ih =>
    have hrecord := isSpelledAs_record (List.forall₂_same.mpr fun p hp =>
      ⟨rfl, holds_dumped (hnames p hp), ih p hp⟩)
    rwa [Value.recordOf_of_nodup hnodup] at hrecord

/-- A dumped record is read back in front of anything. -/
theorem exists_dump_record
    (h : (Value.record fields).IsMadeOf (IsDumpable inAscii) (IsPlainLeaf (IsDumpable inAscii))) :
    ∃ u, dump inAscii fallback (.record fields) = .ok u ∧
      SpellsRecord Number.maxDigits u (.record fields) := by
  cases h with
  | leaf h => cases h
  | record hnodup hnames h =>
    have hfields : List.Forall₂ (FieldSpelledAs (dumped inAscii) fallback) fields fields :=
      List.forall₂_same.mpr fun p hp =>
        ⟨rfl, holds_dumped (hnames p hp), isSpelledAs_self (h p hp)⟩
    obtain ⟨u, hu, hspells⟩ := exists_send_record hfields
    rw [Value.recordOf_of_nodup hnodup] at hspells
    exact ⟨_, dump_of_write (hu []), hspells⟩

end Json

namespace Answer

open Json

/-- Dumps records into a text, each between what is in front of it and behind it. -/
def embed (inAscii : Bool) (fallback : Fallback) (lead : Text) :
    List (Row × Text) → Except Fault Text
  | [] => .ok lead
  | (row, noise) :: parts => do
    let object ← dump inAscii fallback (.record row)
    let rest ← embed inAscii fallback noise parts
    .ok (lead ++ object ++ rest)

variable {inAscii : Bool} {fallback : Fallback} {row : Row}

/-- A dumped record is found where the search comes to it, and the search goes on behind it. -/
theorem scan_dumped {u : Text} (h : SpellsRecord Number.maxDigits u (.record row)) (rest : Text) :
    scan (u ++ rest) = (scan rest).map (row :: ·) := by
  have hread : readFront (u ++ rest) = .ok (.record row, rest) :=
    h.reads _ rest (by rw [List.length_append]; omega)
  obtain ⟨more, rfl⟩ := h.begins
  rw [List.cons_append] at hread ⊢
  exact scan_of_readFront hread

theorem scan_embedded {lead : Text} {parts : List (Row × Text)} (hlead : .char '\x7b' ∉ lead)
    (hparts : ∀ p ∈ parts, .char '\x7b' ∉ p.2 ∧ (Value.record p.1).IsMadeOf (IsDumpable inAscii)
      (IsPlainLeaf (IsDumpable inAscii))) :
    ∃ t, embed inAscii fallback lead parts = .ok t ∧ scan t = .ok (parts.map (·.1)) := by
  induction parts generalizing lead with
  | nil =>
    have hscan := scan_append_left hlead []
    rw [List.append_nil, scan] at hscan
    exact ⟨lead, rfl, hscan⟩
  | cons p parts ih =>
    obtain ⟨row, noise⟩ := p
    obtain ⟨⟨hnoise, hrow⟩, hparts⟩ := List.forall_mem_cons.mp hparts
    obtain ⟨rest, hrest, hscan⟩ := ih hnoise hparts
    obtain ⟨object, hobject, hspells⟩ := exists_dump_record hrow
    refine ⟨lead ++ object ++ rest, by rw [embed, hobject, Except.ok_bind, hrest]; rfl, ?_⟩
    rw [List.append_assoc, scan_append_left hlead, scan_dumped hspells, hscan]
    rfl

end Answer
end QueryDesk
