import Mathlib.Data.List.TakeWhile
import QueryDesk.Journal.Naming
import QueryDesk.Proofs.Journal.Noting
import QueryDesk.Proofs.Json.RoundTrip
import QueryDesk.Proofs.Number.Digits
import QueryDesk.Proofs.Text.Digit
import QueryDesk.Proofs.Text.Paired
import QueryDesk.Proofs.Text.SameLetter
import QueryDesk.Proofs.Text.Trim

/-!
# Plain entries

An id becomes part of a name as plain glyphs, at least one of them, and what has become plain stays
as it is (`plainId_plainId`).

The first dash in the name of a file stands between the time and the id, since a time is named with
digits and a `T` only.  So the name gives back the id as far as a name keeps it (`fileName_inj`).
An id of plain glyphs is kept as it is, except that the empty id becomes `query`, and therefore an
id that is `query` already is the only one that it can share a file with
(`eq_or_of_fileName_eq`).

An entry is plain if its event is known, its id is made of glyphs that a name keeps, and its payload
is made of values that JSON keeps as they are and that can be written as bytes.  The line of a plain
entry can be written, and the fields of the entry are read back from it (`Entry.exists_line`).
-/

set_option autoImplicit false

namespace QueryDesk
namespace Naming

variable {id id' : Text}

/-! ## Plain ids -/

theorem isBlank_of_isPlain {g : Glyph} (h : isPlain g = true) : g.isBlank = false := by
  rw [isPlain, Bool.or_eq_true, Bool.or_eq_true] at h
  rcases h with (h | h) | h
  · exact Glyph.isBlank_of_isAsciiLetter h
  · exact Glyph.isBlank_of_isAsciiDigit h
  · rcases g with c | half
    · rw [Glyph.isOneOf, List.contains_iff_mem] at h
      simp only [List.mem_cons, List.not_mem_nil, or_false] at h
      rcases h with rfl | rfl <;> decide
    · cases h

theorem dashed_of_isPlain (h : ∀ g ∈ id, isPlain g = true) (isOpen : Bool) :
    dashed isOpen id = id := by
  induction id generalizing isOpen with
  | nil => rfl
  | cons g id ih =>
    obtain ⟨hg, hid⟩ := List.forall_mem_cons.mp h
    rw [dashed, if_pos hg, ih hid]

/-- **A plain id is kept**, but the empty one has no name of its own. -/
theorem plainId_of_isPlain (h : ∀ g ∈ id, isPlain g = true) :
    plainId id = if id.isEmpty then Text.of "query" else id := by
  have htight : id.IsTight :=
    ⟨fun g hg => isBlank_of_isPlain (h g (List.mem_of_mem_head? hg)),
      fun g hg => isBlank_of_isPlain (h g (List.mem_of_mem_getLast? hg))⟩
  rw [plainId, Text.trim_eq_self htight, dashed_of_isPlain h]

theorem isPlain_of_mem_dashed {isOpen : Bool} : ∀ g ∈ dashed isOpen id, isPlain g = true := by
  induction id generalizing isOpen with
  | nil => simp [dashed]
  | cons g id ih =>
    rw [dashed]
    split
    · next hg => exact List.forall_mem_cons.mpr ⟨hg, ih⟩
    · split
      · exact ih
      · exact List.forall_mem_cons.mpr ⟨by decide, ih⟩

/-- **An id becomes plain**, whatever it is made of. -/
theorem isPlain_of_mem_plainId (id : Text) : ∀ g ∈ plainId id, isPlain g = true := by
  rw [plainId]
  split
  · decide
  · exact isPlain_of_mem_dashed

theorem plainId_ne_nil (id : Text) : plainId id ≠ [] := by
  rw [plainId]
  split
  · decide
  · next h => exact fun hnil => h (by rw [hnil]; rfl)

theorem plainId_plainId (id : Text) : plainId (plainId id) = plainId id := by
  rw [plainId_of_isPlain (isPlain_of_mem_plainId id),
    if_neg (by simpa using plainId_ne_nil id)]

/-! ## Names -/

theorem isAsciiDigit_or_eq_of_mem_slug {t : Timestamp} {g : Glyph} (h : g ∈ slug t) :
    g.isAsciiDigit = true ∨ g = .char 'T' := by
  have hdigits : ∀ {n}, g ∈ Number.digits n → g.isAsciiDigit = true :=
    fun h => Number.isAsciiDigit_of_mem_digits _ _ h
  have hpadded : ∀ {width n}, g ∈ Number.paddedDigits width n → g.isAsciiDigit = true :=
    fun h => Json.isDigits_paddedDigits _ _ _ h
  simp only [slug, List.mem_append, List.mem_cons] at h
  rcases h with (((((h | h) | h) | h | h) | h) | h) | h
  exacts [.inl (hdigits h), .inl (hpadded h), .inl (hpadded h), .inr h, .inl (hpadded h),
    .inl (hpadded h), .inl (hpadded h), .inl (hpadded h)]

theorem dash_not_mem_slug (t : Timestamp) : Glyph.char '-' ∉ slug t := fun h => by
  rcases isAsciiDigit_or_eq_of_mem_slug h with h | h
  · exact absurd h (by decide)
  · exact absurd h (by decide)

/-- **The name of a file gives back the time and the id**, as far as the name keeps them. -/
theorem fileName_inj {t t' : Timestamp} (h : fileName (slug t) id = fileName (slug t') id') :
    slug t = slug t' ∧ plainId id = plainId id' := by
  -- The time is what stands in front of the first dash.
  have htake : ∀ (t : Timestamp) (rest : Text),
      (slug t ++ Glyph.char '-' :: rest).takeWhile (· != .char '-') = slug t := by
    intro t rest
    have hslug : ∀ g ∈ slug t, (g != Glyph.char '-') = true := by
      intro g hg
      rw [bne_iff_ne]
      rintro rfl
      exact dash_not_mem_slug t hg
    rw [List.takeWhile_append_of_pos hslug, List.takeWhile_cons_of_neg (by simp), List.append_nil]
  rw [fileName, fileName, List.append_assoc, List.append_assoc, List.cons_append,
    List.cons_append] at h
  have hslug := congrArg (List.takeWhile (· != Glyph.char '-')) h
  rw [htake, htake] at hslug
  rw [hslug] at h
  exact ⟨hslug, List.append_cancel_right (List.cons_inj_right _ |>.mp (List.append_cancel_left h))⟩

/-- Files of different plain ids have different names, unless one id is empty and the other is
`query`. -/
theorem eq_or_of_fileName_eq {t t' : Timestamp} (hid : ∀ g ∈ id, isPlain g = true)
    (hid' : ∀ g ∈ id', isPlain g = true) (h : fileName (slug t) id = fileName (slug t') id') :
    id = id' ∨ (id = [] ∧ id' = Text.of "query") ∨ (id = Text.of "query" ∧ id' = []) := by
  have hsame := (fileName_inj h).2
  rw [plainId_of_isPlain hid, plainId_of_isPlain hid'] at hsame
  cases id with
  | nil =>
    cases id' with
    | nil => exact .inl rfl
    | cons g id' => exact .inr (.inl ⟨rfl, hsame.symm⟩)
  | cons g id =>
    cases id' with
    | nil => exact .inr (.inr ⟨hsame, rfl⟩)
    | cons g' id' => exact .inl hsame

end Naming

/-! ## Entries -/

/-- Says that a simple value is kept by JSON and can be written as bytes. -/
def Value.IsPlain : Value → Prop
  | null | flag _ => True
  | whole n => Number.isTooLong n = false
  | text t => t.IsPaired
  | _ => False

/-- Says that an entry can be noted under its own id. -/
structure Entry.IsPlain (e : Entry) : Prop where
  event : e.event ∈ Entry.events
  id : ∀ g ∈ e.queryId, Naming.isPlain g = true
  payload : (Value.record e.payload).IsMadeOf Text.IsPaired Value.IsPlain

theorem Glyph.isLone_of_isPlain {g : Glyph} (h : Naming.isPlain g = true) : g.isLone = false := by
  rcases g with c | half
  · rfl
  · cases h

/-! ## Plain values -/

namespace Value

variable {v : Value}

theorem IsPlain.isKept (h : v.IsPlain) : Json.IsKept Value.written v := by
  cases v with
  | null => exact .null
  | flag b => exact .flag b
  | whole n => exact .whole h
  | text t => exact .text t
  | _ => exact h.elim

theorem IsPlain.readBack_eq (h : v.IsPlain) : Json.readBack Value.written v = v.mapLeaves id := by
  cases v with
  | null | flag | whole | text => rfl
  | _ => exact h.elim

theorem IsPlain.isPaired_of_written {t : Text} (h : v.IsPlain) (ht : v.written = .ok t) :
    t.IsPaired := by
  cases v with
  | null =>
    obtain rfl : Text.of "None" = t := Except.ok.inj ht
    exact Text.isPaired_of _
  | flag b =>
    obtain rfl : Text.of (if b then "True" else "False") = t := Except.ok.inj ht
    exact Text.isPaired_of _
  | whole n =>
    have hshort : writeWhole n = .ok (Number.signedDigits n) :=
      if_neg (Bool.eq_false_iff.mp h)
    obtain rfl : Number.signedDigits n = t := Except.ok.inj (hshort.symm.trans ht)
    exact Text.isPaired_signedDigits n
  | text s =>
    obtain rfl : s = t := Except.ok.inj ht
    exact h
  | _ => exact h.elim

theorem IsPlain.each_send (h : v.IsPlain) (lead : Text) (hlead : ∀ g ∈ lead, g.isLone = false) :
    Json.Output.Each (fun g => g.isLone = false) (Json.send Value.written lead v) := by
  refine Json.each_send_leaf ?_ (fun _ => Glyph.isLone_of_isSign) (fun t ht => ?_) lead hlead
  · cases v with
    | list | tuple | record => exact h.elim
    | _ => rfl
  · rcases ht with rfl | ht
    · exact Text.isPaired_string h
    · exact Text.isPaired_string (h.isPaired_of_written ht)

end Value

namespace Entry

variable {e : Entry} {time : Text}

theorem IsPlain.isMadeOf_fields (h : e.IsPlain) (htime : time.IsPaired) :
    (Value.record (e.fields time)).IsMadeOf Text.IsPaired Value.IsPlain := by
  have hpaired : e.queryId.IsPaired := fun g hg => Glyph.isLone_of_isPlain (h.id g hg)
  have hevent : e.event.IsPaired := by
    have hall : ∀ event ∈ events, ∀ g ∈ event, g.isLone = false := by decide
    exact hall e.event h.event
  have hfirst : ∀ p ∈ Row.of [("event", Value.text e.event), ("query_id", .text e.queryId),
      ("timestamp", .text time)], p.1.IsPaired ∧ p.2.IsMadeOf Text.IsPaired Value.IsPlain := by
    simp only [Row.of, List.map_cons, List.map_nil, List.forall_mem_cons]
    exact ⟨⟨Text.isPaired_of _, .leaf hevent⟩, ⟨Text.isPaired_of _, .leaf hpaired⟩,
      ⟨Text.isPaired_of _, .leaf htime⟩, by simp⟩
  cases h.payload with
  | leaf h => exact h.elim
  | record hnodup hnames hvalues =>
    have hrest : ∀ p ∈ e.payload.filter isKept, p ∈ e.payload :=
      fun p hp => (List.mem_filter.mp hp).1
    refine .record ?_ ?_ ?_
    · have hreserved : (Row.of [("event", Value.text e.event), ("query_id", .text e.queryId),
          ("timestamp", .text time)]).map (·.1) = reserved := by
        simp [Row.of, reserved]
      rw [fields, List.map_append, hreserved, List.nodup_append]
      refine ⟨by decide, hnodup.sublist (List.filter_sublist.map _), ?_⟩
      -- Payload under a name that an entry begins with is left out.
      rintro name hname _ hmem rfl
      obtain ⟨p, hp, rfl⟩ := List.mem_map.mp hmem
      have hkept := (List.mem_filter.mp hp).2
      rw [isKept, List.contains_iff_mem.mpr hname, Bool.not_true, Bool.and_false] at hkept
      cases hkept
    · exact List.forall_mem_append.mpr
        ⟨fun p hp => (hfirst p hp).1, fun p hp => hnames p (hrest p hp)⟩
    · exact List.forall_mem_append.mpr
        ⟨fun p hp => (hfirst p hp).2, fun p hp => hvalues p (hrest p hp)⟩

/-- **The line of a plain entry** can be written, and its fields are read back from it. -/
theorem IsPlain.exists_line (h : e.IsPlain) (htime : time.IsPaired) : ∃ line,
    (Json.send Value.written [] (.record (e.fields time))).line? = some line ∧
      Json.read line = .ok (.record (e.fields time)) := by
  have hfields := h.isMadeOf_fields htime
  obtain ⟨line, hwrite, hread⟩ := Json.exists_write_read (hfields.isKept fun _ h => h.isKept)
  rw [hfields.readBack_eq fun _ h => h.readBack_eq, Value.mapLeaves_id] at hread
  refine ⟨line, ?_, hread⟩
  have hpieces := hfields.each_send (fun _ => Glyph.isLone_of_isSign)
    (fun _ => Text.isPaired_string) (fun _ h => h.each_send) [] (by simp)
  rw [Json.write, Json.Output.toExcept] at hwrite
  rw [Journal.line?_eq_some_iff]
  generalize Json.send Value.written [] (.record (e.fields time)) = output at hwrite hpieces
  cases hfault : output.fault with
  | some fault => simp [hfault] at hwrite
  | none =>
    rw [hfault] at hwrite
    exact ⟨rfl, fun piece hpiece => (FileTree.unwritable?_eq_none_iff piece).mpr
      (hpieces piece hpiece), Except.ok.inj hwrite⟩

end Entry
end QueryDesk
