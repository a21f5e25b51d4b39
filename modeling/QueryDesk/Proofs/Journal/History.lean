import QueryDesk.Proofs.Journal.Plain
import QueryDesk.Proofs.Journal.Torn

/-!
# The history in the files

Plain entries are noted in a folder that is new to the journal.  Each query then has a file of its
own, which was named when the query was first noted, and the lines of a file are the entries of its
query in the order in which they were noted (`Journal.read_lines`).  There is one exception to the
file of one's own: the empty id is named `query`, and shares the file of the id `query` if the two
were named for the same time.

What carries the proof is that a file, once named, stays the file of its query, and that no file
ever stands in the way of the folder (`Journal.IsOrderly`).
-/

set_option autoImplicit false

namespace QueryDesk

open Step

/-! ## Lines of a text -/

namespace Text

variable {mark : Glyph}

theorem splitAt_append_cons {s : Text} (hs : mark ∉ s) (t : Text) :
    splitAt mark (s ++ mark :: t) = s :: splitAt mark t := by
  induction s with
  | nil => rw [List.nil_append, splitAt, if_pos rfl]
  | cons g s ih =>
    obtain ⟨hg, hs⟩ := List.ne_and_not_mem_of_not_mem_cons hs
    rw [List.cons_append, splitAt, if_neg (Ne.symm hg), ih hs]

theorem splitAt_flatMap {lines : List Text} (h : ∀ line ∈ lines, mark ∉ line) :
    splitAt mark (lines.flatMap (· ++ [mark])) = lines ++ [[]] := by
  induction lines with
  | nil => rfl
  | cons line lines ih =>
    obtain ⟨hline, hlines⟩ := List.forall_mem_cons.mp h
    rw [List.flatMap_cons, List.append_assoc, List.singleton_append, splitAt_append_cons hline,
      ih hlines, List.cons_append]

end Text

/-! ## Places -/

namespace Path

/-- The file that is named for a query at a time, in a folder. -/
def fileAt (place : Path) (t : Timestamp) (id : Text) : Path :=
  place ++ [Naming.fileName (Naming.slug t) id]

theorem length_resolved_le (p : Path) : p.resolved.length ≤ p.length := by
  have hdone : ∀ done : Path, (p.foldl (fun (done : Path) name =>
      if name = Text.of ".." then done.drop 1 else name :: done) done).length ≤
        done.length + p.length := by
    induction p with
    | nil => simp
    | cons name p ih =>
      intro done
      rw [List.foldl_cons, List.length_cons]
      refine (ih _).trans ?_
      split
      · rw [List.length_drop]
        omega
      · rw [List.length_cons]
        omega
  simpa [resolved] using hdone []

/-- No folder around a place, nor the place itself, is one of its files. -/
theorem resolved_ne_fileAt {place front : Path} (h : front ∈ place.fronts) (t : Timestamp)
    (id : Text) : front.resolved ≠ place.fileAt t id := by
  obtain ⟨n, -, rfl⟩ := List.mem_map.mp h
  intro heq
  have hlength := congrArg List.length heq
  have hle := length_resolved_le (place.take n)
  rw [fileAt, List.length_append, List.length_singleton] at hlength
  rw [List.length_take] at hle
  omega

/-- Files of different plain ids are different, unless one of the ids is empty, the other is `query`
and they were named for the same time. -/
theorem fileAt_eq_iff {place : Path} {id id' : Text} {t t' : Timestamp}
    (hid : ∀ g ∈ id, Naming.isPlain g = true) (hid' : ∀ g ∈ id', Naming.isPlain g = true) :
    place.fileAt t id = place.fileAt t' id' ↔ Naming.slug t = Naming.slug t' ∧
      (id = id' ∨ (id = [] ∧ id' = Text.of "query") ∨ (id = Text.of "query" ∧ id' = [])) := by
  constructor
  · intro h
    have hname := List.singleton_inj.mp (List.append_cancel_left h)
    exact ⟨(Naming.fileName_inj hname).1, Naming.eq_or_of_fileName_eq hid hid' hname⟩
  · rintro ⟨hslug, rfl | ⟨rfl, rfl⟩ | ⟨rfl, rfl⟩⟩
    · rw [fileAt, hslug, fileAt]
    · rw [fileAt, hslug, fileAt]
      rfl
    · rw [fileAt, hslug, fileAt]
      rfl

end Path

namespace Journal

variable {folder home place : Path} {e : Entry} {es : List Entry} {j : Journal} {id : Text}
  {file : Path}

/-- Says that the files named in a place have names of the right form and that none of them stands
in the way of the place itself. -/
structure IsOrderly (j : Journal) (place : Path) : Prop where
  usable : ∀ front ∈ place.fronts, j.tree.isFile front.resolved = false
  named : ∀ id file, j.named? place id = some file → ∃ t, file = place.fileAt t id

theorem named?_of_names {j₁ : Journal} {query : Path × Text}
    (h : j₁.names = (query, file) :: j.names) (place' : Path) (id' : Text) :
    j₁.named? place' id' = if (place', id') = query then some file else j.named? place' id' := by
  rw [named?, h, List.find?_cons]
  by_cases hquery : (place', id') = query
  · simp [hquery]
  · have hne : ((query, file).1 == (place', id')) = false := by
      simpa using Ne.symm hquery
    rw [hne, if_neg hquery, named?]

/-- **One entry is opened:** its file is the one that was named before, or is named now. -/
theorem exists_opened (he : e.event ∈ Entry.events) (hhome : folder.atHome = .ok home)
    (hj : j.IsOrderly home.resolved) : ∃ file j₁,
      perform (opened folder e) j = (.ok (file, e.fields j.timeNow), j₁) ∧
      (∃ t, file = home.resolved.fileAt t e.queryId) ∧
      (∀ file', j.named? home.resolved e.queryId = some file' → file' = file) ∧
      ∀ id, j₁.named? home.resolved id =
        if id = e.queryId then some file else j.named? home.resolved id := by
  rw [opened, perform_bind_of_ok (perform_stamped_of_known he), perform_bind, perform_lift, hhome]
  dsimp only
  cases hnamed : j.named? home.resolved e.queryId with
  | some file =>
    have hfile : perform (fileOf home e.queryId j.timeNow) { j with wall := j.wall.take.2 } =
        (.ok file, { j with wall := j.wall.take.2 }) := perform_fileOf_of_named hnamed
    rw [perform_bind_of_ok hfile]
    refine ⟨file, _, rfl, hj.named _ _ hnamed, fun _ h => (Option.some.inj h).symm, fun id => ?_⟩
    split
    · next h => rw [h]; exact hnamed
    · rfl
  | none =>
    obtain ⟨tree, hmake⟩ := (FileTree.exists_makeFolder_iff j.tree home.resolved).mpr hj.usable
    obtain ⟨t, wall, hfile⟩ := perform_fileOf_of_new
      (j := { j with wall := j.wall.take.2 }) j.timeNow hnamed
    dsimp only at hfile
    rw [hmake] at hfile
    rw [perform_bind_of_ok hfile]
    refine ⟨_, _, rfl, ⟨t, rfl⟩, fun _ h => ?_, fun id => ?_⟩
    · cases h
    · rw [named?_of_names rfl]
      simp

/-- The entries of a run, to be noted in one folder. -/
def notesIn (folder : Path) (es : List Entry) : List Note := es.map fun e => ⟨folder, e⟩

/-- The entries of a run as they are noted, each with the time on the wall. -/
def history (folder : Path) : List Entry → Journal → List (Entry × Text)
  | [], _ => []
  | e :: es, j => (e, j.timeNow) :: history folder es (Note.after ⟨folder, e⟩ j)

theorem mem_of_mem_history {c : Entry × Text} (h : c ∈ history folder es j) : c.1 ∈ es := by
  induction es generalizing j with
  | nil => cases h
  | cons e es ih =>
    rcases List.mem_cons.mp h with rfl | h
    · exact List.mem_cons_self
    · exact List.mem_cons_of_mem e (ih h)

/-- What a plain entry does to a journal in order: it adds its line to its file, which is named from
then on. -/
structure IsAdded (n : Note) (place : Path) (j : Journal) (file : Path) (line : Text) : Prop where
  result : n.result j = .ok ()
  opens : n.file? j = some file
  writes : n.line? j = some line
  lineBreak : Glyph.char '\n' ∉ line
  read : Json.read line = .ok (.record (n.entry.fields j.timeNow))
  isOrderly : (n.after j).IsOrderly place
  same : ∀ file', j.named? place n.entry.queryId = some file' → file' = file
  named : ∀ id, (n.after j).named? place id =
    if id = n.entry.queryId then some file else j.named? place id

/-- **One plain entry is added.** -/
theorem exists_isAdded (he : e.IsPlain) (hhome : folder.atHome = .ok home)
    (hj : j.IsOrderly home.resolved) :
    ∃ file line, IsAdded ⟨folder, e⟩ home.resolved j file line := by
  obtain ⟨file, j₁, hopened, ⟨t, rfl⟩, hsame, hnamed⟩ := exists_opened he.event hhome hj
  have htime : j.timeNow.IsPaired := Timestamp.isPaired_writtenToMillisecond _
  obtain ⟨line, hline, hread⟩ := he.exists_line htime
  have htexts := text?_opened folder e j
  obtain ⟨tree, hwrite, htree⟩ :=
    perform_writeLine_of_line (home.resolved.fileAt t e.queryId) hline j₁
  have hall : perform (Sink.files folder e) j = (.ok (), { j₁ with tree }) := by
    rw [Sink.files_eq, perform_bind_of_ok hopened]
    exact hwrite
  have hafter : Note.after ⟨folder, e⟩ j = { j₁ with tree } := by rw [Note.after, hall]
  rw [hopened] at htexts
  refine ⟨home.resolved.fileAt t e.queryId, line, ?_, ?_, hline, ?_, hread, ⟨?_, ?_⟩, hsame, ?_⟩
  · rw [Note.result, hall]
  · rw [Note.file?, hopened]
    rfl
  · rw [← (line?_eq_some_iff.mp hline).2.2]
    exact Note.lineBreak_not_mem_sent _
  · -- The line goes to a file that is not in the way.
    intro front hfront
    rw [hafter, FileTree.isFile_eq, htree, if_neg (Path.resolved_ne_fileAt hfront _ _), htexts,
      ← FileTree.isFile_eq]
    exact hj.usable front hfront
  · intro id file hfile
    rw [hafter] at hfile
    have hfile := (hnamed id).symm.trans hfile
    split at hfile
    · next h =>
      rw [h]
      exact ⟨t, (Option.some.inj hfile).symm⟩
    · exact hj.named id file hfile
  · rw [hafter]
    exact hnamed

/-- Says that a line in a file is that of an entry, noted at some time in the file of its query. -/
structure IsLineOf (named : Text → Option Path) (w : Path × Text) (c : Entry × Text) : Prop where
  named : named c.1.queryId = some w.1
  lineBreak : Glyph.char '\n' ∉ w.2
  read : Json.read w.2 = .ok (.record (c.1.fields c.2))

/-- What a run of plain entries does to a journal in order: files keep their names, and there is one
line for each entry, in the file that was named for its query. -/
structure IsRun (folder place : Path) (es : List Entry) (j : Journal) : Prop where
  isOrderly : (afterAll (notesIn folder es) j).IsOrderly place
  same : ∀ id file, j.named? place id = some file →
    (afterAll (notesIn folder es) j).named? place id = some file
  others : ∀ id, id ∉ es.map (·.queryId) →
    (afterAll (notesIn folder es) j).named? place id = j.named? place id
  lines : List.Forall₂ (IsLineOf ((afterAll (notesIn folder es) j).named? place))
    (lines (notesIn folder es) j) (history folder es j)

/-- **A run of plain entries.** -/
theorem isRun (hes : ∀ e ∈ es, e.IsPlain) (hhome : folder.atHome = .ok home)
    (hj : j.IsOrderly home.resolved) : IsRun folder home.resolved es j := by
  -- Induction on the entries, over all journals in order.
  induction es generalizing j with
  | nil => exact ⟨hj, fun _ _ h => h, fun _ _ => rfl, .nil⟩
  | cons e es ih =>
    obtain ⟨he, hes⟩ := List.forall_mem_cons.mp hes
    obtain ⟨file, line, hadded⟩ := exists_isAdded he hhome hj
    have hrun := ih hes hadded.isOrderly
    have hafter : afterAll (notesIn folder (e :: es)) j =
        afterAll (notesIn folder es) (Note.after ⟨folder, e⟩ j) := rfl
    have hlines : Journal.lines (notesIn folder (e :: es)) j =
        (file, line) :: Journal.lines (notesIn folder es) (Note.after ⟨folder, e⟩ j) := by
      rw [notesIn, List.map_cons, Journal.lines, Note.written?, hadded.opens, hadded.writes]
      rfl
    refine ⟨?_, fun id file' h => ?_, fun id h => ?_, ?_⟩
    · rw [hafter]
      exact hrun.isOrderly
    · rw [hafter]
      refine hrun.same id file' ?_
      rw [hadded.named]
      split
      · next hid => rw [hadded.same file' (hid ▸ h)]
      · exact h
    · obtain ⟨hid, h⟩ := List.ne_and_not_mem_of_not_mem_cons h
      rw [hafter, hrun.others id h, hadded.named, if_neg hid]
    · rw [hlines, history, hafter]
      refine .cons ⟨hrun.same _ _ ?_, hadded.lineBreak, hadded.read⟩ hrun.lines
      rw [hadded.named, if_pos rfl]

theorem exists_isAdded_at (hes : ∀ e ∈ es, e.IsPlain) (hhome : folder.atHome = .ok home)
    (hj : j.IsOrderly home.resolved) {count : Nat} {n : Note}
    (hn : (notesIn folder es)[count]? = some n) : ∃ file line,
      IsAdded n home.resolved (afterAll ((notesIn folder es).take count) j) file line := by
  rw [notesIn, List.getElem?_map, Option.map_eq_some_iff] at hn
  obtain ⟨e, he, rfl⟩ := hn
  have hbefore : IsRun folder home.resolved (es.take count) j :=
    isRun (fun e he => hes e (List.mem_of_mem_take he)) hhome hj
  have htake : (notesIn folder es).take count = notesIn folder (es.take count) := by
    rw [notesIn, notesIn, List.map_take]
  rw [htake]
  exact exists_isAdded (hes e (List.mem_of_getElem? he)) hhome hbefore.isOrderly

/-- After a run of plain entries the files consist of whole lines. -/
theorem texts_afterAll (hes : ∀ e ∈ es, e.IsPlain) (hhome : folder.atHome = .ok home)
    (hj : j.IsOrderly home.resolved) (p : Path) : (afterAll (notesIn folder es) j).tree.text? p =
      withLines (j.tree.text? p) (linesOf (notesIn folder es) j p) := by
  have hwhole := (texts_afterAll_iff (notesIn folder es) j).mpr fun count n hn htears => by
    obtain ⟨file, line, hadded⟩ := exists_isAdded_at hes hhome hj hn
    cases htears.2.symm.trans hadded.writes
  simpa using hwhole (notesIn folder es).length p

section Lines

variable {named : Text → Option Path} {written : List (Path × Text)} {past : List (Entry × Text)}

theorem named_eq_of_forall₂ (h : List.Forall₂ (IsLineOf named) written past) :
    past.map (fun c => named c.1.queryId) = written.map (some ·.1) := by
  induction h with
  | nil => rfl
  | cons hhead _ ih => rw [List.map_cons, List.map_cons, hhead.named, ih]

theorem lineBreak_not_mem_of_forall₂ (h : List.Forall₂ (IsLineOf named) written past) :
    ∀ w ∈ written, Glyph.char '\n' ∉ w.2 := by
  induction h with
  | nil => simp
  | cons hhead _ ih => exact List.forall_mem_cons.mpr ⟨hhead.lineBreak, ih⟩

/-- The lines of a file are read back as the entries that were noted there. -/
theorem map_read_of_forall₂ (h : List.Forall₂ (IsLineOf named) written past) (file : Path) :
    ((written.filter (·.1 == file)).map (·.2)).map Json.read =
      (past.filter fun c => named c.1.queryId == some file).map fun c =>
        .ok (.record (c.1.fields c.2)) := by
  induction h with
  | nil => rfl
  | @cons w c written past hhead _ ih =>
    by_cases hfile : w.1 = file
    · simp [hfile, hhead.named, hhead.read, ← ih]
    · simp [hfile, hhead.named, ← ih]

end Lines

namespace IsRun

variable (hrun : IsRun folder place es j)
include hrun

/-- Each query of the run has a file, the one that was named for it. -/
theorem exists_files : ∃ files : Text → Path, (∀ id, ∃ t, files id = place.fileAt t id) ∧
    ∀ c ∈ history folder es j, (afterAll (notesIn folder es) j).named? place c.1.queryId =
      some (files c.1.queryId) := by
  have hname : ∀ id, ∃ p, (∃ t, p = place.fileAt t id) ∧ ∀ q,
      (afterAll (notesIn folder es) j).named? place id = some q → p = q := by
    intro id
    cases hid : (afterAll (notesIn folder es) j).named? place id with
    | none => exact ⟨_, ⟨j.wall.current, rfl⟩, nofun⟩
    | some q => exact ⟨q, hrun.isOrderly.named id q hid, fun _ h => Option.some.inj h⟩
  choose files hform hfile using hname
  refine ⟨files, hform, fun c hc => ?_⟩
  obtain ⟨w, -, hw⟩ := List.mem_map.mp
    (named_eq_of_forall₂ hrun.lines ▸ List.mem_map_of_mem (f := fun c => _) hc)
  rw [← hw, hfile _ _ hw.symm]

theorem lineBreak_not_mem (p : Path) :
    ∀ line ∈ linesOf (notesIn folder es) j p, Glyph.char '\n' ∉ line := by
  intro line hline
  obtain ⟨w, hw, rfl⟩ := List.mem_map.mp hline
  exact lineBreak_not_mem_of_forall₂ hrun.lines w (List.mem_filter.mp hw).1

variable {files : Text → Path} (hfiles : ∀ c ∈ history folder es j,
  (afterAll (notesIn folder es) j).named? place c.1.queryId = some (files c.1.queryId))
include hfiles

theorem read_linesOf (p : Path) : (linesOf (notesIn folder es) j p).map Json.read =
    ((history folder es j).filter fun c => files c.1.queryId == p).map fun c =>
      .ok (.record (c.1.fields c.2)) := by
  rw [linesOf, map_read_of_forall₂ hrun.lines]
  congr 1
  refine List.filter_congr fun c hc => ?_
  rw [hfiles c hc]
  rfl

theorem linesOf_ne_nil_iff {p : Path} : linesOf (notesIn folder es) j p ≠ [] ↔
    ∃ c ∈ history folder es j, files c.1.queryId = p := by
  rw [Ne, ← List.map_eq_nil_iff (f := Json.read), hrun.read_linesOf hfiles, List.map_eq_nil_iff,
    List.filter_eq_nil_iff]
  simp

end IsRun

/-- Says that nothing was noted in a place, that no file lies there, and that the place can be
made. -/
structure IsNewTo (j : Journal) (place : Path) : Prop where
  unnamed : ∀ id, j.named? place id = none
  empty : ∀ p, place <+: p → j.tree.isFile p = false
  usable : ∀ front ∈ place.fronts, j.tree.isFile front.resolved = false

theorem IsNewTo.isOrderly (hnew : j.IsNewTo place) : j.IsOrderly place where
  usable := hnew.usable
  named id file h := by simp [hnew.unnamed id] at h

/-- In a new place each file consists of the lines that were noted there. -/
theorem IsNewTo.texts_afterAll {p : Path} (hnew : j.IsNewTo home.resolved)
    (hes : ∀ e ∈ es, e.IsPlain) (hhome : folder.atHome = .ok home) (hp : home.resolved <+: p) :
    (afterAll (notesIn folder es) j).tree.text? p =
      withLines none (linesOf (notesIn folder es) j p) := by
  have hempty := hnew.empty p hp
  rw [FileTree.isFile_eq, Option.isSome_eq_false_iff, Option.isNone_iff_eq_none] at hempty
  rw [Journal.texts_afterAll hes hhome hnew.isOrderly, hempty]

/-- Says that the files of a place hold what was noted there: each query has a file, one for itself
but for the empty id and `query`; there are no other files; and the lines of a file are the entries
of its query, each as a record, in the order in which they were noted. -/
structure Holds (place : Path) (files : Text → Path) (past : List (Entry × Text))
    (tree : FileTree) : Prop where
  named : ∀ id, ∃ t, files id = place.fileAt t id
  own : ∀ a ∈ past, ∀ b ∈ past, files a.1.queryId = files b.1.queryId →
    a.1.queryId = b.1.queryId ∨ (a.1.queryId = [] ∧ b.1.queryId = Text.of "query") ∨
      (a.1.queryId = Text.of "query" ∧ b.1.queryId = [])
  isFile_iff : ∀ p, place <+: p → (tree.isFile p = true ↔ ∃ c ∈ past, files c.1.queryId = p)
  lines : ∀ c ∈ past, ∃ text lines, tree.text? (files c.1.queryId) = some text ∧
    Text.splitAt (.char '\n') text = lines ++ [[]] ∧
    lines.map Json.read = (past.filter fun d => files d.1.queryId == files c.1.queryId).map fun d =>
      .ok (.record (d.1.fields d.2))

/-- **The files hold the history.**  Plain entries that are noted in a new place are all noted
without a fault, and the files of the place hold them. -/
theorem read_lines (hhome : folder.atHome = .ok home) (hnew : j.IsNewTo home.resolved)
    (hes : ∀ e ∈ es, e.IsPlain) :
    (∀ count, ∀ n : Note, (notesIn folder es)[count]? = some n →
      n.result (afterAll ((notesIn folder es).take count) j) = .ok ()) ∧
    ∃ files, Holds home.resolved files (history folder es j)
      (afterAll (notesIn folder es) j).tree := by
  have hrun := isRun hes hhome hnew.isOrderly
  have htexts := fun p (hp : home.resolved <+: p) => hnew.texts_afterAll hes hhome hp
  obtain ⟨files, hform, hfiles⟩ := hrun.exists_files
  refine ⟨fun count n h => ?_, files, hform, ?_, ?_, ?_⟩
  · obtain ⟨_, _, hadded⟩ := exists_isAdded_at hes hhome hnew.isOrderly h
    exact hadded.result
  · intro a ha b hb hsame
    obtain ⟨t, ht⟩ := hform a.1.queryId
    obtain ⟨t', ht'⟩ := hform b.1.queryId
    have hida := (hes a.1 (mem_of_mem_history ha)).id
    have hidb := (hes b.1 (mem_of_mem_history hb)).id
    rw [ht, ht', Path.fileAt_eq_iff hida hidb] at hsame
    exact hsame.2
  · intro p hp
    rw [FileTree.isFile_eq, htexts p hp, ← hrun.linesOf_ne_nil_iff hfiles, withLines]
    cases linesOf (notesIn folder es) j p <;> simp
  · intro c hc
    have hplace : home.resolved <+: files c.1.queryId := by
      obtain ⟨t, ht⟩ := hform c.1.queryId
      rw [ht]
      exact List.prefix_append _ _
    have hne := (hrun.linesOf_ne_nil_iff hfiles).mpr ⟨c, hc, rfl⟩
    refine ⟨(linesOf (notesIn folder es) j (files c.1.queryId)).flatMap (· ++ Text.of "\n"),
      linesOf (notesIn folder es) j (files c.1.queryId), ?_, ?_, hrun.read_linesOf hfiles _⟩
    · rw [htexts _ hplace, withLines, if_neg (by simpa using hne), Option.getD_none,
        List.nil_append]
    · exact Text.splitAt_flatMap (hrun.lineBreak_not_mem _)

/-! ## Two runs -/

/-- Entries of two queries, one behind the other.  The last has payload without a value and payload
under a name that it begins with. -/
def interleaved : List Entry :=
  [⟨Text.of "q-1", Text.of "question_received",
      Row.of [("question", .text (Text.of "Show\ninvoices"))]⟩,
    ⟨Text.of "q_2", Text.of "question_received", []⟩,
    ⟨Text.of "q-1", Text.of "query_executed",
      Row.of [("row_count", .whole 1), ("timestamp", .text (Text.of "never")), ("limit", .null),
        ("tables", .list [.text (Text.of "invoices"), .flag true])]⟩]

theorem isNewTo_inJune : inJune.IsNewTo (Path.resolved [Text.of "logs"]) where
  unnamed _ := rfl
  empty _ _ := rfl
  usable _ _ := rfl

theorem isPlain_interleaved : ∀ e ∈ interleaved, e.IsPlain := by
  have htext : ∀ s : String, (Value.text (Text.of s)).IsMadeOf Text.IsPaired Value.IsPlain :=
    fun s => .leaf (Text.isPaired_of s)
  have hone : (Value.whole 1).IsMadeOf Text.IsPaired Value.IsPlain := by
    have hshort : Number.isTooLong 1 = false := by decide +kernel
    exact .leaf hshort
  have htables : (Value.list [.text (Text.of "invoices"), .flag true]).IsMadeOf Text.IsPaired
      Value.IsPlain := by
    refine .list ?_
    simp only [List.forall_mem_cons]
    exact ⟨htext _, .leaf trivial, by simp⟩
  simp only [interleaved, List.forall_mem_cons]
  refine ⟨⟨by decide, by decide, .record (by decide) ?_ ?_⟩,
    ⟨by decide, by decide, .record (by decide) (by simp) (by simp)⟩,
    ⟨by decide, by decide, .record (by decide) ?_ ?_⟩, by simp⟩
  · simp [Row.of]
  · simp [Row.of, htext]
  · simp [Row.of]
  · simp only [Row.of, List.map_cons, List.map_nil, List.forall_mem_cons]
    exact ⟨hone, htext _, .leaf trivial, htables, by simp⟩

/-- Each of the two queries has a file with its entries. -/
theorem read_lines_interleaved :
    Path.atHome [Text.of "logs"] = .ok [Text.of "logs"] ∧
    inJune.IsNewTo (Path.resolved [Text.of "logs"]) ∧ (∀ e ∈ interleaved, e.IsPlain) ∧
    ∃ files, Holds (Path.resolved [Text.of "logs"]) files
      (history [Text.of "logs"] interleaved inJune)
      (afterAll (notesIn [Text.of "logs"] interleaved) inJune).tree := by
  have hhome : Path.atHome [Text.of "logs"] = .ok [Text.of "logs"] := by decide
  exact ⟨hhome, isNewTo_inJune, isPlain_interleaved,
    (read_lines hhome isNewTo_inJune isPlain_interleaved).2⟩

/-- Entries of the query without an id, and of the query that has the name of such a query. -/
def namesakes : List Entry :=
  [⟨[], Text.of "question_received", []⟩, ⟨Text.of "query", Text.of "question_received", []⟩]

/-- The two have one file. -/
theorem files_namesakes : (∀ e ∈ namesakes, e.IsPlain) ∧ [] ≠ Text.of "query" ∧
    (afterAll (notesIn [Text.of "logs"] namesakes) inJune).tree.files.map (·.1) =
      [[Text.of "logs", Text.of "20240615T000000000-query.jsonl"]] := by
  refine ⟨?_, by decide, by decide +kernel⟩
  simp only [namesakes, List.forall_mem_cons]
  exact ⟨⟨by decide, by decide, .record (by decide) (by simp) (by simp)⟩,
    ⟨by decide, by decide, .record (by decide) (by simp) (by simp)⟩, by simp⟩

end Journal
end QueryDesk
