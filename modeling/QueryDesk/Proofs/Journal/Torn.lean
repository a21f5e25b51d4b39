import Mathlib.Logic.Function.Basic
import QueryDesk.Proofs.Journal.Noting

/-!
# Lines that are torn

A file of a journal is meant to hold one whole line for each entry.  An entry that is refused before
its file is opened changes no file.  But the line of an entry is written piece by piece, so an entry
that faults while its line is written leaves the front of the line behind (`Note.outcome`), and the
next line of the file goes on from there.  After every run of entries the files consist of whole
lines if and only if no entry of the run was torn in this way (`Journal.whole_lines`).
-/

set_option autoImplicit false

namespace QueryDesk

open Step

/-- An entry that is to be noted in the files of a folder. -/
structure Note where
  folder : Path
  entry : Entry

namespace Note

variable (n : Note) (j : Journal)

/-- What noting gives. -/
def result : Except Fault Unit := (perform (Sink.files n.folder n.entry) j).1

/-- The journal after noting. -/
def after : Journal := (perform (Sink.files n.folder n.entry) j).2

/-- The file that is opened, if the entry is not refused before. -/
def file? : Option Path := (perform (Journal.opened n.folder n.entry) j).1.toOption.map (·.1)

/-- The line that is written, if all of it can be. -/
def line? : Option Text :=
  (Json.send Value.written [] (.record (n.entry.fields j.timeNow))).line?

/-- The line of an entry that is noted without a fault, with its file. -/
def written? : Option (Path × Text) :=
  (n.file? j).bind fun file => (n.line? j).map fun line => (file, line)

/-- Says that the entry faults while its line is written. -/
def Tears : Prop := (n.file? j).isSome ∧ n.line? j = none

/-- What noting gives and what the texts of the files are afterwards: the file has a further line,
or the front of one, or nothing has changed. -/
inductive Outcome : Except Fault Unit → (Path → Option Text) → Prop
  | whole {file : Path} {line : Text} (hfile : n.file? j = some file)
    (hline : n.line? j = some line) (hbreak : Glyph.char '\n' ∉ line) :
    Outcome (.ok ()) (Function.update j.tree.text? file
      (some ((j.tree.text? file).getD [] ++ (line ++ Text.of "\n"))))
  | torn {file : Path} {front : Text} {fault : Fault} (hfile : n.file? j = some file)
    (hline : n.line? j = none) (hfront : front ≠ []) (hbreak : Glyph.char '\n' ∉ front) :
    Outcome (.error fault) (Function.update j.tree.text? file
      (some ((j.tree.text? file).getD [] ++ front)))
  | refused {fault : Fault} (hfile : n.file? j = none) : Outcome (.error fault) j.tree.text?

/-- At least one piece of a record with fields can be written. -/
theorem landed_send_ne_nil {fields : Row} (hne : fields ≠ []) :
    FileTree.landed (Json.send Value.written [] (.record fields)).sent ≠ [] := by
  obtain ⟨pieces, hpieces⟩ : ∃ pieces,
      (Json.send Value.written [] (.record fields)).sent = Text.of "\x7b" :: pieces := by
    rw [Json.send, if_neg (by simpa using hne)]
    exact ⟨_, rfl⟩
  have hbrace : FileTree.unwritable? (Text.of "\x7b") = none := by decide
  rw [hpieces, FileTree.landed, List.takeWhile_cons_of_pos (by rw [hbrace]; rfl), List.flatten_cons]
  exact List.cons_ne_nil _ _

/-- No line has a line break in it, however far it is written. -/
theorem lineBreak_not_mem_sent (v : Value) :
    Glyph.char '\n' ∉ (Json.send Value.written [] v).sent.flatten := by
  intro hmem
  obtain ⟨piece, hpiece, hg⟩ := List.mem_flatten.mp hmem
  have hcode : 0x20 ≤ (Glyph.char '\n').code :=
    Json.each_send v [] (fun g hg => (List.not_mem_nil hg).elim) piece hpiece _ hg
  exact absurd hcode (by decide)

theorem mem_of_mem_landed {pieces : List Text} {g : Glyph} (h : g ∈ FileTree.landed pieces) :
    g ∈ pieces.flatten := by
  obtain ⟨piece, hpiece, hg⟩ := List.mem_flatten.mp h
  exact List.mem_flatten.mpr ⟨piece, List.takeWhile_subset _ hpiece, hg⟩

/-- If only the text of one file has become longer, the texts are updated there. -/
theorem texts_eq_update {before tree : FileTree} {file : Path} {t : Text}
    (h : ∀ p, tree.text? p =
      if p = file then some ((before.text? file).getD [] ++ t) else before.text? p) :
    tree.text? =
      Function.update before.text? file (some ((before.text? file).getD [] ++ t)) := by
  funext p
  rw [h p, Function.update_apply]

/-- **What comes of an entry.** -/
theorem outcome : n.Outcome j (n.result j) (n.after j).tree.text? := by
  have htexts := Journal.text?_opened n.folder n.entry j
  have hbreak := lineBreak_not_mem_sent (.record (n.entry.fields j.timeNow))
  rw [result, after, Sink.files_eq, perform_bind]
  rcases hopened : perform (Journal.opened n.folder n.entry) j with ⟨fault | ⟨file, fields⟩, j₁⟩
  · have hfile : n.file? j = none := by rw [file?, hopened]; rfl
    rw [hopened] at htexts
    rw [funext htexts]
    exact .refused hfile
  · have hfile : n.file? j = some file := by rw [file?, hopened]; rfl
    rw [hopened] at htexts
    obtain ⟨-, rfl⟩ := Journal.fields_of_opened hopened
    have hsame : j₁.tree.text? = j.tree.text? := funext htexts
    dsimp only
    cases hline : n.line? j with
    | some line =>
      obtain ⟨tree, hwrite, htree⟩ := Journal.perform_writeLine_of_line file hline j₁
      rw [(Journal.line?_eq_some_iff.mp hline).2.2] at hbreak
      rw [hwrite, texts_eq_update htree, hsame]
      exact .whole hfile hline hbreak
    | none =>
      obtain ⟨fault, tree, hwrite, htree⟩ :=
        Journal.perform_writeLine_of_none file hline j₁
      rw [hwrite, texts_eq_update htree, hsame]
      exact .torn hfile hline (landed_send_ne_nil (by simp [Entry.fields, Row.of]))
        fun h => hbreak (mem_of_mem_landed h)

end Note

namespace Journal

variable (notes : List Note) (n : Note) (j : Journal) (file : Path)

/-- The journal after a run of entries. -/
def afterAll (notes : List Note) (j : Journal) : Journal := notes.foldl (fun j n => n.after j) j

/-- The lines of the entries of a run that are noted without a fault, each with its file. -/
def lines : List Note → Journal → List (Path × Text)
  | [], _ => []
  | n :: notes, j => (n.written? j).toList ++ lines notes (n.after j)

/-- The lines of a run that go to a file. -/
def linesOf (notes : List Note) (j : Journal) (file : Path) : List Text :=
  ((lines notes j).filter (·.1 == file)).map (·.2)

/-- The text of a file with whole lines behind it. -/
def withLines (text : Option Text) (lines : List Text) : Option Text :=
  if lines.isEmpty then text
  else some (text.getD [] ++ lines.flatMap (· ++ Text.of "\n"))

theorem withLines_append (text : Option Text) (a b : List Text) :
    withLines text (a ++ b) = withLines (withLines text a) b := by
  cases a <;> cases b <;> simp [withLines]

theorem afterAll_concat : afterAll (notes ++ [n]) j = n.after (afterAll notes j) := by
  rw [afterAll, List.foldl_append]
  rfl

theorem lines_append (more : List Note) :
    lines (notes ++ more) j = lines notes j ++ lines more (afterAll notes j) := by
  induction notes generalizing j with
  | nil => rfl
  | cons n notes ih => rw [List.cons_append, lines, ih, lines, List.append_assoc]; rfl

theorem linesOf_append (more : List Note) :
    linesOf (notes ++ more) j file =
      linesOf notes j file ++ linesOf more (afterAll notes j) file := by
  rw [linesOf, lines_append, List.filter_append, List.map_append]
  rfl

/-- **One entry** adds its line, or nothing, if and only if it is not torn. -/
theorem texts_after_iff : (∀ file, (n.after j).tree.text? file =
    withLines (j.tree.text? file) (linesOf [n] j file)) ↔ ¬n.Tears j := by
  have hlines : ∀ file, linesOf [n] j file =
      ((n.written? j).toList.filter (·.1 == file)).map (·.2) := by
    intro file
    simp [linesOf, lines]
  simp only [hlines]
  have houtcome := n.outcome j
  generalize (n.after j).tree.text? = texts, n.result j = result at houtcome
  cases houtcome with
  | @whole file line hfile hline hbreak =>
    have hwritten : n.written? j = some (file, line) := by rw [Note.written?, hfile, hline]; rfl
    refine iff_of_true (fun p => ?_) fun h => by simp [Note.Tears, hline] at h
    by_cases hp : file = p
    · simp [hwritten, hp, withLines]
    · simp [hwritten, hp, Ne.symm hp, withLines]
  | @torn file front fault hfile hline hfront hbreak =>
    have hwritten : n.written? j = none := by rw [Note.written?, hfile, hline]; rfl
    refine iff_of_false (fun h => hfront ?_) fun h => h ⟨by rw [hfile]; rfl, hline⟩
    -- Without a further line the text would have to be the old one.
    have hsame := h file
    rw [hwritten, Function.update_self] at hsame
    cases htext : j.tree.text? file with
    | none => simp [htext, withLines] at hsame
    | some text => simpa [htext, withLines] using hsame
  | refused hfile =>
    have hwritten : n.written? j = none := by rw [Note.written?, hfile]; rfl
    refine iff_of_true (fun p => ?_) fun h => by simp [hfile, Note.Tears] at h
    simp [hwritten, withLines]

/-- After every entry of a run the files hold whole lines if none is torn, and only then. -/
theorem texts_afterAll_iff :
    (∀ count file, (afterAll (notes.take count) j).tree.text? file =
      withLines (j.tree.text? file) (linesOf (notes.take count) j file)) ↔
    ∀ count, ∀ n : Note, notes[count]? = some n → ¬n.Tears (afterAll (notes.take count) j) := by
  have htake : ∀ {count n}, notes[count]? = some n →
      notes.take (count + 1) = notes.take count ++ [n] := by
    intro count n h
    rw [List.take_add_one, h]
    rfl
  constructor
  · intro h count n hn
    rw [← texts_after_iff]
    intro file
    rw [← afterAll_concat, ← htake hn, h, h, htake hn, linesOf_append, withLines_append]
  · -- Induction on the number of entries noted.
    intro h count
    induction count with
    | zero =>
      intro file
      rfl
    | succ count ih =>
      intro file
      cases hn : notes[count]? with
      | none =>
        have hlength := List.getElem?_eq_none_iff.mp hn
        have hsame : notes.take (count + 1) = notes.take count := by
          rw [List.take_of_length_le (by omega), List.take_of_length_le hlength]
        rw [hsame, ih]
      | some n =>
        rw [htake hn, afterAll_concat, (texts_after_iff n _).mpr (h count n hn), ih,
          linesOf_append, withLines_append]

/-- **Files hold whole lines as long as no entry is torn**, and what an entry does is one of three
things: it adds its line, it is refused and changes no text, or it is torn. -/
theorem whole_lines :
    (∀ count, ∀ n : Note, notes[count]? = some n →
      n.Outcome (afterAll (notes.take count) j) (n.result (afterAll (notes.take count) j))
        (n.after (afterAll (notes.take count) j)).tree.text?) ∧
    ((∀ count file, (afterAll (notes.take count) j).tree.text? file =
      withLines (j.tree.text? file) (linesOf (notes.take count) j file)) ↔
    ∀ count, ∀ n : Note, notes[count]? = some n → ¬n.Tears (afterAll (notes.take count) j)) :=
  ⟨fun count n _ => n.outcome (afterAll (notes.take count) j), texts_afterAll_iff notes j⟩

/-- A journal without entries, on a day in June. -/
def inJune : Journal := ⟨⟨.midnight ⟨2024, 6, 15⟩, []⟩, [], [], .empty⟩

/-- A query that fails with half a surrogate pair in its message. -/
def halfPairFailure : Note :=
  ⟨[Text.of "logs"], Text.of "q-1", Text.of "query_failed",
    Row.of [("error", .text [.ofCode 0xD800])]⟩

/-- A question that is received, the failure, and a statement that is run after all. -/
def tornRun : List Note :=
  [⟨[Text.of "logs"], Text.of "q-1", Text.of "question_received", []⟩, halfPairFailure,
    ⟨[Text.of "logs"], Text.of "q-1", Text.of "query_executed", Row.of [("row_count", .whole 1)]⟩]

/-- The files of that run are no whole lines, since the failure is torn. -/
theorem not_whole_lines_tornRun :
    ¬∀ count file, (afterAll (tornRun.take count) inJune).tree.text? file =
      withLines (inJune.tree.text? file) (linesOf (tornRun.take count) inJune file) := by
  rw [(whole_lines tornRun inJune).2]
  intro h
  exact h 1 halfPairFailure rfl ⟨by decide +kernel, by decide +kernel⟩

/-- The failure is a fault, and still it changes a file: the front of its line stays there. -/
theorem exists_texts_ne_of_error :
    halfPairFailure.result inJune = .error (.notEncodable (Json.string [.ofCode 0xD800]) 1 1) ∧
    (halfPairFailure.after inJune).tree.text?
      [Text.of "logs", Text.of "20240615T000000000-q-1.jsonl"] ≠
      inJune.tree.text? [Text.of "logs", Text.of "20240615T000000000-q-1.jsonl"] := by
  decide +kernel

end Journal
end QueryDesk
