import QueryDesk.Proofs.Journal.History

/-!
# Where files are named

The file of a query is asked for again and again, in any folders, with any times, and whatever has
become of the files and the clock in the meantime.  Each file that is given stands directly in the
folder that was asked for, under a plain name.  A query is given one file in a folder, the same every
time; and queries of different plain ids are given different files
(`Journal.results_confined_and_separate`).

Where a file stands and whose it is can be read off each name by itself, so nothing is needed of the
other names for that.  That a query keeps its file is what the names are remembered for, and needs an
induction on the visits.
-/

set_option autoImplicit false

namespace QueryDesk

open Step

/-- Says that an id is plain, and not empty. -/
structure Naming.IsName (id : Text) : Prop where
  plain : ∀ g ∈ id, isPlain g = true
  ne_nil : id ≠ []

/-! ## Files of a place -/

namespace Path

variable {place place' : Path} {id id' : Text} {t t' : Timestamp}

/-- Says that a file stands directly in a place, under a plain name with its ending. -/
def IsDirectlyIn (file place : Path) : Prop :=
  ∃ stem : Text, (∀ g ∈ stem, Naming.isPlain g = true) ∧ file = place ++ [stem ++ Text.of ".jsonl"]

theorem isDirectlyIn_fileAt (place : Path) (t : Timestamp) (id : Text) :
    (place.fileAt t id).IsDirectlyIn place := by
  refine ⟨Naming.slug t ++ .char '-' :: Naming.plainId id, ?_, rfl⟩
  intro g hg
  rcases List.mem_append.mp hg with hslug | hid
  · rw [Naming.isPlain]
    rcases Naming.isAsciiDigit_or_eq_of_mem_slug hslug with hdigit | rfl
    · simp [hdigit]
    · decide
  · rcases List.mem_cons.mp hid with rfl | hid
    · decide
    · exact Naming.isPlain_of_mem_plainId id g hid

/-- A file is that of one plain id at most, in whatever place and for whatever time. -/
theorem eq_of_fileAt_eq (hid : Naming.IsName id) (hid' : Naming.IsName id')
    (h : place.fileAt t id = place'.fileAt t' id') : id = id' := by
  obtain ⟨-, hname⟩ := List.append_inj' h rfl
  rcases Naming.eq_or_of_fileName_eq hid.plain hid'.plain (List.singleton_inj.mp hname) with
    heq | ⟨hnil, -⟩ | ⟨-, hnil⟩
  · exact heq
  · exact absurd hnil hid.ne_nil
  · exact absurd hnil hid'.ne_nil

end Path

namespace Journal

/-- The file of a query in a folder, which may be named from the home folder on. -/
def fileIn (folder : Path) (id time : Text) : Noting Path := do
  let folder ← folder.atHome
  fileOf folder id time

/-- To note an entry is to write its line in the file that is given for its query. -/
theorem files_eq_fileIn (folder : Path) (e : Entry) : Sink.files folder e = (do
    let (time, fields) ← stamped e
    let file ← fileIn folder e.queryId time
    writeLine file (Json.send Value.written [] (.record fields))) := by
  simp only [Sink.files, fileIn, bind_assoc]

/-! ## One visit -/

/-- The file of a query is asked for, in a folder and for a time.  The files and the clock may have
changed in any way since the last visit. -/
structure Visit where
  folder : Path
  id : Text
  time : Text
  tree : FileTree
  wall : Supply Timestamp

namespace Visit

variable (v : Visit) (j : Journal)

/-- The journal as the visit finds it. -/
def found : Journal := { j with tree := v.tree, wall := v.wall }

/-- What the visit gives. -/
def result : Except Fault Path := (perform (fileIn v.folder v.id v.time) (v.found j)).1

/-- The journal after the visit. -/
def after : Journal := (perform (fileIn v.folder v.id v.time) (v.found j)).2

/-- The place of the folder. -/
def place : Except Fault Path := v.folder.atHome.map Path.resolved

/-- Says that the folder exists or can be made: its home is known, and no file is in the way. -/
def IsUsable : Prop :=
  ∃ place, v.place = .ok place ∧ ∀ front ∈ place.fronts, v.tree.isFile front.resolved = false

end Visit

/-- Says that each file that was named is a file of its place and of its query. -/
def NamesProperly (j : Journal) : Prop :=
  ∀ place id file, j.named? place id = some file → ∃ t, file = place.fileAt t id

/-- What a visit gives and which files are named afterwards: it is refused, or is given the file that
was named before, or a file is named for it. -/
inductive Visit.Outcome (v : Visit) (j : Journal) : Prop
  | refused (fault : Fault) (unusable : ¬v.IsUsable)
      (unnamed : ∀ place, v.place = .ok place → j.named? place v.id = none)
      (result : v.result j = .error fault) (names : (v.after j).names = j.names)
  | again (place file : Path) (placed : v.place = .ok place)
      (named : j.named? place v.id = some file)
      (result : v.result j = .ok file) (names : (v.after j).names = j.names)
  | fresh (place : Path) (t : Timestamp) (placed : v.place = .ok place)
      (unnamed : j.named? place v.id = none)
      (result : v.result j = .ok (place.fileAt t v.id))
      (names : (v.after j).names = ((place, v.id), place.fileAt t v.id) :: j.names)

namespace Visit

variable (v : Visit) (j : Journal)

/-- **One visit.** -/
theorem outcome : v.Outcome j := by
  cases hhome : v.folder.atHome with
  | error fault =>
    have hplace : v.place = .error fault := by rw [place, hhome]; rfl
    have hrun : perform (fileIn v.folder v.id v.time) (v.found j) = (.error fault, v.found j) := by
      rw [fileIn, hhome]
      rfl
    refine .refused fault ?_ ?_ (by rw [result, hrun]) (by rw [after, hrun]; rfl)
    · rintro ⟨place, h, -⟩
      cases hplace.symm.trans h
    · intro place h
      cases hplace.symm.trans h
  | ok home =>
    have hplace : v.place = .ok home.resolved := by rw [place, hhome]; rfl
    have hrun : perform (fileIn v.folder v.id v.time) (v.found j) =
        perform (fileOf home v.id v.time) (v.found j) := by
      rw [fileIn, hhome]
      rfl
    cases hnamed : j.named? home.resolved v.id with
    | some file =>
      have hfile := hrun.trans (perform_fileOf_of_named hnamed)
      exact .again _ file hplace hnamed (by rw [result, hfile]) (by rw [after, hfile]; rfl)
    | none =>
      obtain ⟨t, wall, hfile⟩ := perform_fileOf_of_new (j := v.found j) v.time hnamed
      have hfile := hrun.trans hfile
      cases hmake : (v.found j).tree.makeFolder home.resolved with
      | error fault =>
        rw [hmake] at hfile
        refine .refused fault ?_ ?_ (by rw [result, hfile]) (by rw [after, hfile]; rfl)
        · rintro ⟨place, h, husable⟩
          obtain rfl := Except.ok.inj (hplace.symm.trans h)
          obtain ⟨tree, htree⟩ := (FileTree.exists_makeFolder_iff _ _).mpr husable
          cases hmake.symm.trans htree
        · intro place h
          obtain rfl := Except.ok.inj (hplace.symm.trans h)
          exact hnamed
      | ok tree =>
        rw [hmake] at hfile
        exact .fresh _ t hplace hnamed (by rw [result, hfile]; rfl) (by rw [after, hfile]; rfl)

variable {v j} {place : Path} {id : Text} {file : Path}

theorem exists_result_of_isUsable (h : v.IsUsable) : ∃ file, v.result j = .ok file := by
  cases v.outcome j with
  | refused _ unusable => exact absurd h unusable
  | again _ _ _ _ result => exact ⟨_, result⟩
  | fresh _ _ _ _ result => exact ⟨_, result⟩

/-- A file that is given is a file of its place and of its query. -/
theorem exists_fileAt_of_result (hj : j.NamesProperly) (h : v.result j = .ok file) :
    ∃ place t, v.place = .ok place ∧ file = place.fileAt t v.id := by
  cases v.outcome j with
  | refused _ _ _ result => cases result.symm.trans h
  | again place _ placed named result =>
    obtain rfl := Except.ok.inj (result.symm.trans h)
    obtain ⟨t, hfile⟩ := hj _ _ _ named
    exact ⟨place, t, placed, hfile⟩
  | fresh place t placed _ result =>
    exact ⟨place, t, placed, (Except.ok.inj (result.symm.trans h)).symm⟩

theorem result_of_named (hplace : v.place = .ok place) (h : j.named? place v.id = some file) :
    v.result j = .ok file := by
  cases v.outcome j with
  | refused _ _ unnamed => cases (unnamed _ hplace).symm.trans h
  | again _ _ placed named result =>
    obtain rfl := Except.ok.inj (placed.symm.trans hplace)
    rw [result, ← Option.some.inj (named.symm.trans h)]
  | fresh _ _ placed unnamed =>
    obtain rfl := Except.ok.inj (placed.symm.trans hplace)
    cases unnamed.symm.trans h

theorem named?_after_of_result (hplace : v.place = .ok place) (h : v.result j = .ok file) :
    (v.after j).named? place v.id = some file := by
  cases v.outcome j with
  | refused _ _ _ result => cases result.symm.trans h
  | again _ _ placed named result names =>
    obtain rfl := Except.ok.inj (placed.symm.trans hplace)
    rw [named?, names, ← named?, named, Except.ok.inj (result.symm.trans h)]
  | fresh _ _ placed _ result names =>
    obtain rfl := Except.ok.inj (placed.symm.trans hplace)
    rw [named?_of_names names, if_pos rfl, Except.ok.inj (result.symm.trans h)]

/-- Files stay named. -/
theorem named?_after_of_named (h : j.named? place id = some file) :
    (v.after j).named? place id = some file := by
  cases v.outcome j with
  | refused _ _ _ _ names | again _ _ _ _ _ names => rwa [named?, names]
  | fresh _ _ _ unnamed _ names =>
    rw [named?_of_names names, if_neg, h]
    intro hquery
    obtain ⟨rfl, rfl⟩ := Prod.mk.inj hquery
    cases unnamed.symm.trans h

theorem namesProperly_after (hj : j.NamesProperly) : (v.after j).NamesProperly := by
  intro place id file h
  cases v.outcome j with
  | refused _ _ _ _ names | again _ _ _ _ _ names =>
    rw [named?, names] at h
    exact hj _ _ _ h
  | fresh _ t _ _ _ names =>
    rw [named?_of_names names] at h
    split at h
    · next hquery =>
      obtain ⟨rfl, rfl⟩ := Prod.mk.inj hquery
      exact ⟨t, (Option.some.inj h).symm⟩
    · exact hj _ _ _ h

end Visit

/-! ## Any run of visits -/

/-- The visits of a run, each with what it gives. -/
def results : List Visit → Journal → List (Visit × Except Fault Path)
  | [], _ => []
  | v :: visits, j => (v, v.result j) :: results visits (v.after j)

variable {visits : List Visit} {j : Journal} {place : Path} {id : Text} {file : Path}

/-- **A query keeps its file** through any visits. -/
theorem result_eq_of_named (h : j.named? place id = some file) : ∀ r ∈ results visits j,
    r.1.place = .ok place → r.1.id = id → r.2 = .ok file := by
  induction visits generalizing j with
  | nil => simp [results]
  | cons v visits ih =>
    refine List.forall_mem_cons.mpr ⟨?_, ih (Visit.named?_after_of_named h)⟩
    rintro hplace rfl
    exact Visit.result_of_named hplace h

theorem exists_fileAt_of_mem_results (visits : List Visit) (hj : j.NamesProperly) :
    ∀ r ∈ results visits j, ∀ file, r.2 = .ok file →
      ∃ place t, r.1.place = .ok place ∧ file = place.fileAt t r.1.id := by
  induction visits generalizing j with
  | nil => simp [results]
  | cons v visits ih =>
    exact List.forall_mem_cons.mpr
      ⟨fun _ => Visit.exists_fileAt_of_result hj, ih (Visit.namesProperly_after hj)⟩

theorem exists_result_of_mem_results : ∀ r ∈ results visits j, r.1.IsUsable →
    ∃ file, r.2 = .ok file := by
  induction visits generalizing j with
  | nil => simp [results]
  | cons v visits ih =>
    exact List.forall_mem_cons.mpr ⟨Visit.exists_result_of_isUsable, ih⟩

theorem pairwise_results (hj : j.NamesProperly) : (results visits j).Pairwise fun r s =>
    r.1.place = s.1.place → r.1.id = s.1.id → ∀ file, r.2 = .ok file → s.2 = .ok file := by
  induction visits generalizing j with
  | nil => exact .nil
  | cons v visits ih =>
    refine .cons ?_ (ih (Visit.namesProperly_after hj))
    intro s hs hplace hid file hresult
    obtain ⟨place, -, hv, -⟩ := Visit.exists_fileAt_of_result hj hresult
    exact result_eq_of_named (Visit.named?_after_of_result hv hresult) s hs (hplace ▸ hv) hid.symm

/-- **Files are confined and separate.**  An id becomes part of a name as something, and once for
all.  In any run of visits to a journal without names, a file is given wherever the folder can be
used; each file that is given stands directly in its place, under a plain name; a query that was
given a file in a place is given the same file there later; and queries of different plain ids, none
of them empty, are never given the same file. -/
theorem results_confined_and_separate (visits : List Visit) (hj : j.names = []) :
    (∀ id, Naming.plainId id ≠ [] ∧ Naming.plainId (Naming.plainId id) = Naming.plainId id) ∧
    (∀ r ∈ results visits j, r.1.IsUsable → ∃ file, r.2 = .ok file) ∧
    (∀ r ∈ results visits j, ∀ file, r.2 = .ok file →
      ∃ place, r.1.place = .ok place ∧ file.IsDirectlyIn place) ∧
    ((results visits j).Pairwise fun r s =>
      r.1.place = s.1.place → r.1.id = s.1.id → ∀ file, r.2 = .ok file → s.2 = .ok file) ∧
    ∀ r ∈ results visits j, ∀ s ∈ results visits j, Naming.IsName r.1.id → Naming.IsName s.1.id →
      r.1.id ≠ s.1.id → ∀ file file', r.2 = .ok file → s.2 = .ok file' → file ≠ file' := by
  have hproper : j.NamesProperly := by
    intro place id file h
    rw [named?, hj] at h
    cases h
  have hform := exists_fileAt_of_mem_results visits hproper
  refine ⟨fun id => ⟨Naming.plainId_ne_nil id, Naming.plainId_plainId id⟩,
    exists_result_of_mem_results, ?_, pairwise_results hproper, ?_⟩
  · intro r hr file hfile
    obtain ⟨place, t, hplace, rfl⟩ := hform r hr file hfile
    exact ⟨place, hplace, place.isDirectlyIn_fileAt t _⟩
  · intro r hr s hs hid hid' hids file file' hfile hfile' heq
    obtain ⟨place, t, -, rfl⟩ := hform r hr file hfile
    obtain ⟨place', t', -, rfl⟩ := hform s hs file' hfile'
    exact hids (Path.eq_of_fileAt_eq hid hid' heq)

/-- A query is asked for in a folder, while there are no files at all. -/
def firstVisit : Visit := ⟨[Text.of "logs"], Text.of "q-1", [], .empty, inJune.wall⟩

/-- The same query is asked for by a path that leads out of the folder and back. -/
def secondVisit : Visit :=
  { firstVisit with folder := [Text.of "logs", Text.of "..", Text.of "logs"] }

/-- Another query is asked for. -/
def otherVisit : Visit := { firstVisit with id := Text.of "q_2" }

/-- There are two files. -/
theorem results_confined_and_separate_threeVisits : inJune.names = [] ∧ ∃ file file',
    results [firstVisit, secondVisit, otherVisit] inJune =
      [(firstVisit, .ok file), (secondVisit, .ok file), (otherVisit, .ok file')] ∧
    file.IsDirectlyIn [Text.of "logs"] ∧ file'.IsDirectlyIn [Text.of "logs"] ∧ file ≠ file' := by
  have hfirst : firstVisit.place = .ok [Text.of "logs"] := by decide
  have hsecond : secondVisit.place = .ok [Text.of "logs"] := by decide
  have hother : otherVisit.place = .ok [Text.of "logs"] := by decide
  have hname : Naming.IsName firstVisit.id := ⟨by decide, by decide⟩
  have hname' : Naming.IsName otherVisit.id := ⟨by decide, by decide⟩
  have hne : firstVisit.id ≠ otherVisit.id := by decide
  obtain ⟨-, hgiven, hconfined, hkept, hseparate⟩ :=
    results_confined_and_separate [firstVisit, secondVisit, otherVisit] (j := inJune) rfl
  obtain ⟨x, y, z, hresults⟩ : ∃ x y z, results [firstVisit, secondVisit, otherVisit] inJune =
      [(firstVisit, x), (secondVisit, y), (otherVisit, z)] := ⟨_, _, _, rfl⟩
  rw [hresults] at hgiven hconfined hkept hseparate ⊢
  have hmem : (firstVisit, x) ∈ [(firstVisit, x), (secondVisit, y), (otherVisit, z)] := by simp
  have hmem' : (otherVisit, z) ∈ [(firstVisit, x), (secondVisit, y), (otherVisit, z)] := by simp
  obtain ⟨file, rfl⟩ := hgiven _ hmem ⟨_, hfirst, fun _ _ => rfl⟩
  obtain ⟨file', rfl⟩ := hgiven _ hmem' ⟨_, hother, fun _ _ => rfl⟩
  obtain rfl : y = .ok file :=
    (List.pairwise_cons.mp hkept).1 (secondVisit, y) List.mem_cons_self
      (hfirst.trans hsecond.symm) rfl file rfl
  obtain ⟨_, hplace, hfile⟩ := hconfined _ hmem file rfl
  obtain rfl := Except.ok.inj (hfirst.symm.trans hplace)
  obtain ⟨_, hplace', hfile'⟩ := hconfined _ hmem' file' rfl
  obtain rfl := Except.ok.inj (hother.symm.trans hplace')
  exact ⟨rfl, file, file', rfl, hfile, hfile',
    hseparate _ hmem _ hmem' hname hname' hne file file' rfl rfl⟩

end Journal
end QueryDesk
