import Mathlib.Data.List.TakeWhile
import QueryDesk.Journal.Folder

/-!
# Texts of files

What the operations on files and folders do to the texts of files: putting something behind the text
of one file leaves the others alone (`text?_append`), pieces of text land behind one another up to
the first that cannot be written as bytes (`text?_appendAll`), and making a folder changes no file
at all.
-/

set_option autoImplicit false

namespace QueryDesk
namespace FileTree

variable (tree : FileTree) (p q : Path) (t : Text)

theorem isFile_eq : tree.isFile p = (tree.text? p).isSome := by
  rw [isFile, text?, Option.isSome_map, Bool.eq_iff_iff, List.any_eq_true, List.find?_isSome]

/-- **A text that is put behind that of a file changes this file only.** -/
theorem text?_append : (tree.append p t).text? q =
    if q = p then some ((tree.text? p).getD [] ++ t) else tree.text? q := by
  -- Changing the text of a file leaves all paths as they are.
  have hmap : (tree.files.map fun f => if f.1 = p then (f.1, f.2 ++ t) else f).find? (·.1 == q) =
      (tree.files.find? (·.1 == q)).map fun f => if f.1 = p then (f.1, f.2 ++ t) else f := by
    rw [List.find?_map]
    congr 2
    funext f
    by_cases h : f.1 = p <;> simp [h]
  rw [append, isFile_eq, text?, text?, text?]
  cases hp : tree.files.find? (·.1 == p) with
  | some f =>
    rw [if_pos (by simp), hmap]
    by_cases hq : q = p
    · have hf : f.1 = p := by simpa using List.find?_some hp
      rw [hq, hp]
      simp [hf]
    · cases hg : tree.files.find? (·.1 == q) with
      | none => simp [hq]
      | some g =>
        have hgq : g.1 = q := by simpa using List.find?_some hg
        simp [hgq, hq]
  | none =>
    rw [if_neg (by simp), List.find?_append]
    by_cases hq : q = p
    · rw [hq, hp]
      simp
    · have hne : ((p, t) :: []).find? (·.1 == q) = none := by simp [Ne.symm hq]
      rw [hne, Option.or_none, if_neg hq]

theorem isFile_append : (tree.append p t).isFile q = (q == p || tree.isFile q) := by
  rw [isFile_eq, isFile_eq, text?_append]
  by_cases h : q = p <;> simp [h]

/-! ## Pieces -/

theorem unwritable?_eq_none_iff : unwritable? t = none ↔ ∀ g ∈ t, g.isLone = false := by
  simp [unwritable?]

/-- What is put behind the text of a file when pieces are: those in front of the first that cannot
be written as bytes. -/
def landed (pieces : List Text) : Text :=
  (pieces.takeWhile fun piece => (unwritable? piece).isNone).flatten

theorem fault_appendAll (pieces : List Text) :
    (tree.appendAll p pieces).2 = pieces.findSome? unwritable? := by
  induction pieces generalizing tree with
  | nil => rfl
  | cons piece pieces ih =>
    rw [appendAll, List.findSome?_cons]
    split
    · next fault h => rw [h]
    · next h => rw [h, ih]

/-- **Pieces land up to the first that cannot be written.** -/
theorem text?_appendAll (pieces : List Text) (h : tree.isFile p = true) :
    (tree.appendAll p pieces).1.text? q =
      if q = p then some ((tree.text? p).getD [] ++ landed pieces) else tree.text? q := by
  induction pieces generalizing tree with
  | nil =>
    by_cases hq : q = p
    · subst hq
      rw [isFile_eq] at h
      obtain ⟨text, htext⟩ := Option.isSome_iff_exists.mp h
      simp [appendAll, landed, htext]
    · simp [appendAll, hq]
  | cons piece pieces ih =>
    rw [appendAll, landed, List.takeWhile_cons]
    cases hpiece : unwritable? piece with
    | some fault =>
      by_cases hq : q = p
      · subst hq
        rw [isFile_eq] at h
        obtain ⟨text, htext⟩ := Option.isSome_iff_exists.mp h
        simp [htext]
      · simp [hq]
    | none =>
      have hfile : (tree.append p piece).isFile p = true := by simp [isFile_append]
      dsimp only
      rw [ih _ hfile, text?_append, text?_append, landed]
      by_cases hq : q = p <;> simp [hq]

theorem landed_of_forall {pieces : List Text} (h : ∀ piece ∈ pieces, unwritable? piece = none) :
    landed pieces = pieces.flatten := by
  rw [landed, List.takeWhile_eq_self_iff.mpr fun piece hpiece => by rw [h piece hpiece]; rfl]

/-! ## Folders -/

theorem exists_makeFolder_iff : (∃ tree', tree.makeFolder p = .ok tree') ↔
    ∀ front ∈ p.fronts, tree.isFile front.resolved = false := by
  have hself : p ∈ p.fronts := List.mem_map.mpr ⟨p.length, by simp, List.take_length⟩
  have hany : (p.fronts.map Path.resolved).any tree.isFile = true ↔
      ∃ front ∈ p.fronts, tree.isFile front.resolved = true := by
    rw [List.any_map, List.any_eq_true]
    rfl
  rw [makeFolder]
  constructor
  · rintro ⟨tree', h⟩ front hfront
    by_contra hfile
    rw [Bool.not_eq_false] at hfile
    rw [if_pos (hany.mpr ⟨front, hfront, hfile⟩)] at h
    split at h <;> cases h
  · intro h
    rw [if_neg (by rw [h p hself]; exact Bool.false_ne_true), if_neg]
    · exact ⟨_, rfl⟩
    · rw [hany]
      rintro ⟨front, hfront, hfile⟩
      rw [h front hfront] at hfile
      cases hfile

theorem files_of_makeFolder {tree tree' : FileTree} {p : Path}
    (h : tree.makeFolder p = .ok tree') : tree'.files = tree.files := by
  unfold makeFolder at h
  dsimp only at h
  split at h
  · cases h
  · split at h
    · cases h
    · obtain rfl := Except.ok.inj h
      rfl

theorem text?_of_makeFolder {tree tree' : FileTree} {p : Path}
    (h : tree.makeFolder p = .ok tree') (q : Path) : tree'.text? q = tree.text? q := by
  rw [text?, text?, files_of_makeFolder h]

end FileTree
end QueryDesk
