import QueryDesk.Journal.Journal
import QueryDesk.Proofs.Journal.Files
import QueryDesk.Proofs.Json.Glyphs
import QueryDesk.Proofs.Results

/-!
# Noting an entry in a file

To note an entry its file is opened first, which changes no text, and then its line is written
(`Sink.files_eq`).  A line that can be made, and be written as bytes, is put behind the text of its
file with a line break (`perform_writeLine_of_line`); of any other line the front is put there,
without a line break, and the entry faults (`perform_writeLine_of_none`).
-/

set_option autoImplicit false

namespace QueryDesk

open Step

/-- The fields that an entry has in writing when it is noted at a time. -/
def Entry.fields (e : Entry) (time : Text) : Row :=
  Row.of [("event", .text e.event), ("query_id", .text e.queryId), ("timestamp", .text time)]
    ++ e.payload.filter isKept

/-- The text of an output, if nothing went wrong and all of it can be written as bytes. -/
def Json.Output.line? (o : Output) : Option Text :=
  match o.toExcept with
  | .ok t => if t.any Glyph.isLone then none else some t
  | .error _ => none

namespace Journal

variable {e : Entry} {j : Journal} {folder : Path} {id time : Text}

/-! ## Opening a file -/

/-- The time on the wall in writing. -/
def timeNow (j : Journal) : Text := j.wall.current.toUniversal.writtenToMillisecond

theorem perform_stamped_of_known (h : e.event ∈ Entry.events) : perform (stamped e) j =
    (.ok (j.timeNow, e.fields j.timeNow), { j with wall := j.wall.take.2 }) := by
  have hevent : Entry.events.contains e.event = true := List.contains_iff_mem.mpr h
  have htime : perform timeText j = (.ok j.timeNow, { j with wall := j.wall.take.2 }) := rfl
  rw [stamped, if_pos hevent, perform_bind_of_ok htime, Entry.row, if_pos hevent]
  rfl

theorem perform_stamped_of_unknown (h : e.event ∉ Entry.events) :
    perform (stamped e) j = (.error (.unknownEvent e.event), j) := by
  have hevent : ¬Entry.events.contains e.event = true := fun hc => h (List.contains_iff_mem.mp hc)
  rw [stamped, if_neg hevent, perform_throw]

/-- A slug is that of some time, and naming it changes the clock at most. -/
theorem perform_slug (raw : Text) : ∃ t wall,
    perform (slug raw) j = (.ok (Naming.slug t), { j with wall }) := by
  rw [slug]
  cases Naming.time? raw with
  | some t => exact ⟨t, j.wall, rfl⟩
  | none => exact ⟨_, _, rfl⟩

/-- The file that was named for a query in a folder. -/
def named? (j : Journal) (folder : Path) (id : Text) : Option Path :=
  (j.names.find? (·.1 == (folder, id))).map (·.2)

theorem perform_fileOf_of_named {file : Path} (h : j.named? folder.resolved id = some file) :
    perform (fileOf folder id time) j = (.ok file, j) := by
  rw [named?] at h
  rw [fileOf, perform_bind_of_ok (perform_get j)]
  simp only [h, perform_pure]

theorem perform_fileOf_of_new (time : Text) (h : j.named? folder.resolved id = none) : ∃ t wall,
    perform (fileOf folder id time) j =
      match j.tree.makeFolder folder.resolved with
      | .error fault => (.error fault, { j with wall })
      | .ok tree =>
        (.ok (folder.resolved ++ [Naming.fileName (Naming.slug t) id]),
          { j with
            wall, tree
            names := ((folder.resolved, id),
              folder.resolved ++ [Naming.fileName (Naming.slug t) id]) :: j.names }) := by
  obtain ⟨t, wall, hslug⟩ := perform_slug (j := j) time
  refine ⟨t, wall, ?_⟩
  rw [named?] at h
  rw [fileOf, perform_bind_of_ok (perform_get j)]
  simp only [h]
  rw [perform_bind_of_ok hslug, perform_bind_of_ok (perform_get _), perform_bind, perform_lift]
  cases j.tree.makeFolder folder.resolved <;> rfl

/-- Opens the file of an entry: gives the file, and the fields that are to be written there. -/
def opened (folder : Path) (e : Entry) : Noting (Path × Row) := do
  let (time, fields) ← stamped e
  let folder ← folder.atHome
  let file ← fileOf folder e.queryId time
  return (file, fields)

end Journal

theorem Sink.files_eq (folder : Path) (e : Entry) : Sink.files folder e =
    Journal.opened folder e >>= fun p =>
      Journal.writeLine p.1 (Json.send Value.written [] (.record p.2)) := by
  simp only [Sink.files, Journal.opened, bind_assoc, pure_bind]

namespace Journal

variable {e : Entry} {j : Journal} {folder : Path} {id time : Text}

/-- **Opening a file changes no text.** -/
theorem text?_opened (folder : Path) (e : Entry) (j : Journal) (p : Path) :
    (perform (opened folder e) j).2.tree.text? p = j.tree.text? p := by
  by_cases hevent : e.event ∈ Entry.events
  · rw [opened, perform_bind_of_ok (perform_stamped_of_known hevent), perform_bind, perform_lift]
    cases folder.atHome with
    | error fault => rfl
    | ok home =>
      dsimp only
      rw [perform_bind]
      cases hnamed : j.named? home.resolved e.queryId with
      | some file =>
        rw [perform_fileOf_of_named (j := { j with wall := j.wall.take.2 }) hnamed]
        rfl
      | none =>
        obtain ⟨t, wall, hfile⟩ := perform_fileOf_of_new
          (j := { j with wall := j.wall.take.2 }) j.timeNow hnamed
        rw [hfile]
        dsimp only
        cases hmake : j.tree.makeFolder home.resolved with
        | error fault => rfl
        | ok tree => exact FileTree.text?_of_makeFolder hmake p
  · rw [opened, perform_bind_of_error (perform_stamped_of_unknown hevent)]

/-- The fields that are to be written are those of the entry at the time on the wall. -/
theorem fields_of_opened {file : Path} {fields : Row} {j₁ : Journal}
    (h : perform (opened folder e) j = (.ok (file, fields), j₁)) :
    e.event ∈ Entry.events ∧ fields = e.fields j.timeNow := by
  obtain ⟨⟨time, fields'⟩, j₂, hstamped, h⟩ := perform_bind_eq_ok_iff.mp h
  by_cases hevent : e.event ∈ Entry.events
  · rw [perform_stamped_of_known hevent] at hstamped
    obtain ⟨⟨rfl, rfl⟩, rfl⟩ : (_ = time ∧ _ = fields') ∧ _ = j₂ := by simpa using hstamped
    obtain ⟨home, j₃, -, h⟩ := perform_bind_eq_ok_iff.mp h
    obtain ⟨file', j₄, -, h⟩ := perform_bind_eq_ok_iff.mp h
    obtain ⟨⟨rfl, rfl⟩, rfl⟩ : (file' = file ∧ _ = fields) ∧ j₄ = j₁ := by simpa using h
    exact ⟨hevent, rfl⟩
  · rw [perform_stamped_of_unknown hevent] at hstamped
    cases hstamped

/-! ## Writing a line -/

variable {file : Path} {output : Json.Output}

theorem perform_writeLine (file : Path) (output : Json.Output) (j : Journal) :
    perform (writeLine file output) j =
      match ((j.tree.append file []).appendAll file output.sent).2.or output.fault with
      | some fault =>
        (.error fault, { j with tree := ((j.tree.append file []).appendAll file output.sent).1 })
      | none =>
        (.ok (), { j with
          tree := ((j.tree.append file []).appendAll file output.sent).1.append file
            (Text.of "\n") }) := by
  rw [writeLine, perform_bind_of_ok (perform_get j)]
  rcases (j.tree.append file []).appendAll file output.sent with ⟨tree, _ | fault⟩
  · cases output.fault <;> rfl
  · rfl

/-- What lands of an output behind the text of a file. -/
theorem text?_appendAll_append (tree : FileTree) (file : Path) (pieces : List Text) (p : Path) :
    ((tree.append file []).appendAll file pieces).1.text? p =
      if p = file then some ((tree.text? file).getD [] ++ FileTree.landed pieces)
      else tree.text? p := by
  have hfile : (tree.append file []).isFile file = true := by simp [FileTree.isFile_append]
  rw [FileTree.text?_appendAll _ _ _ _ hfile, FileTree.text?_append, FileTree.text?_append]
  by_cases hp : p = file <;> simp [hp]

theorem line?_eq_some_iff {t : Text} : output.line? = some t ↔ output.fault = none ∧
    (∀ piece ∈ output.sent, FileTree.unwritable? piece = none) ∧ output.sent.flatten = t := by
  have hany : output.sent.flatten.any Glyph.isLone = false ↔
      ∀ piece ∈ output.sent, FileTree.unwritable? piece = none := by
    simp only [List.any_eq_false, List.mem_flatten, FileTree.unwritable?_eq_none_iff,
      Bool.not_eq_true]
    exact ⟨fun h piece hpiece g hg => h g ⟨piece, hpiece, hg⟩,
      fun h g ⟨piece, hpiece, hg⟩ => h piece hpiece g hg⟩
  rw [Json.Output.line?, Json.Output.toExcept]
  cases output.fault with
  | some fault => simp
  | none =>
    dsimp only
    by_cases hlone : output.sent.flatten.any Glyph.isLone = true
    · rw [if_pos hlone]
      refine iff_of_false nofun fun h => ?_
      rw [hany.mpr h.2.1] at hlone
      cases hlone
    · rw [if_neg hlone]
      constructor
      · intro h
        exact ⟨rfl, hany.mp (Bool.eq_false_iff.mpr hlone), Option.some.inj h⟩
      · rintro ⟨-, -, rfl⟩
        rfl

/-- **A whole line is put behind the text of its file**, with a line break. -/
theorem perform_writeLine_of_line {t : Text} (file : Path) (h : output.line? = some t)
    (j : Journal) : ∃ tree, perform (writeLine file output) j = (.ok (), { j with tree }) ∧
      ∀ p, tree.text? p = if p = file then some ((j.tree.text? file).getD [] ++ (t ++ Text.of "\n"))
        else j.tree.text? p := by
  obtain ⟨hfault, hpieces, rfl⟩ := line?_eq_some_iff.mp h
  refine ⟨((j.tree.append file []).appendAll file output.sent).1.append file (Text.of "\n"), ?_, ?_⟩
  · rw [perform_writeLine, FileTree.fault_appendAll, List.findSome?_eq_none_iff.mpr hpieces, hfault]
    rfl
  · intro p
    rw [FileTree.text?_append, text?_appendAll_append, text?_appendAll_append,
      FileTree.landed_of_forall hpieces]
    by_cases hp : p = file <;> simp [hp]

/-- **Of any other line the front is put there**, and the entry faults. -/
theorem perform_writeLine_of_none (file : Path) (h : output.line? = none) (j : Journal) :
    ∃ fault tree, perform (writeLine file output) j = (.error fault, { j with tree }) ∧
      ∀ p, tree.text? p =
        if p = file then some ((j.tree.text? file).getD [] ++ FileTree.landed output.sent)
        else j.tree.text? p := by
  have hfault : ∃ fault, (output.sent.findSome? FileTree.unwritable?).or output.fault =
      some fault := by
    rw [← Option.isSome_iff_exists, ← Option.ne_none_iff_isSome]
    intro hnone
    obtain ⟨hsent, hfault⟩ := Option.or_eq_none_iff.mp hnone
    rw [line?_eq_some_iff.mpr ⟨hfault, List.findSome?_eq_none_iff.mp hsent, rfl⟩] at h
    cases h
  obtain ⟨fault, hfault⟩ := hfault
  refine ⟨fault, ((j.tree.append file []).appendAll file output.sent).1, ?_, ?_⟩
  · rw [perform_writeLine, FileTree.fault_appendAll, hfault]
  · exact text?_appendAll_append j.tree file output.sent

end Journal
end QueryDesk
