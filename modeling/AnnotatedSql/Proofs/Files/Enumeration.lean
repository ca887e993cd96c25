import AnnotatedSql.Files.Tree
import AnnotatedSql.Proofs.Dictionary

/-!
# The order in which directories are enumerated

Two trees may hold the same files and enumerate their directories in different
orders.  A tree is read only by what stands at its locations, and from a
directory that stands there only whether it has an entry of a name.  So no
path shows in which order its directories are enumerated, and a file is read
alike in both trees.
-/

namespace AnnotatedSql.FileTree

/-- What stands at a location of two trees that hold the same files: nothing,
the same file, or directories of the same names, each in an order of its
own. -/
inductive StandAlike : Option FileTree → Option FileTree → Prop where
  | nothing : StandAlike none none
  | file (bytes : ByteArray) :
      StandAlike (some (.file bytes)) (some (.file bytes))
  | directory
      {entries entries' : List (Text × FileTree)}
      (names : (entries.map Prod.fst).Perm (entries'.map Prod.fst)) :
      StandAlike (some (.directory entries)) (some (.directory entries'))

/-- Two trees hold the same files at the same locations. -/
def SameFiles (tree tree' : FileTree) : Prop :=
  ∀ location, StandAlike (tree.at? location) (tree'.at? location)

theorem StandAlike.refl (found : Option FileTree) : StandAlike found found := by
  rcases found with _ | ⟨bytes⟩ | ⟨entries⟩
  · exact .nothing
  · exact .file bytes
  · exact .directory (List.Perm.refl _)

theorem SameFiles.refl (tree : FileTree) : SameFiles tree tree :=
  fun location => .refl (tree.at? location)

/-- Directories hold the same files if they have the same names, and under
each name the same files. -/
theorem SameFiles.directory
    {entries entries' : List (Text × FileTree)}
    (distinct : (entries.map Prod.fst).Nodup)
    (names : (entries.map Prod.fst).Perm (entries'.map Prod.fst))
    (inside :
      ∀ name tree tree', (name, tree) ∈ entries → (name, tree') ∈ entries' →
        SameFiles tree tree') :
    SameFiles (.directory entries) (.directory entries') := by
  intro location
  cases location with
  | nil => exact .directory names
  | cons name location =>
      change StandAlike
        ((Dictionary.get? name entries).bind fun tree => tree.at? location)
        ((Dictionary.get? name entries').bind fun tree => tree.at? location)
      by_cases known : name ∈ entries.map Prod.fst
      · rcases List.mem_map.1 known with ⟨⟨_, tree⟩, member, rfl⟩
        rcases List.mem_map.1 (names.mem_iff.1 known) with
          ⟨⟨_, tree'⟩, member', rfl⟩
        rw [(Dictionary.get?_eq_some_iff distinct).2 member,
          (Dictionary.get?_eq_some_iff (names.nodup_iff.1 distinct)).2 member']
        exact inside _ tree tree' member member' location
      · rw [Dictionary.get?_eq_none_iff.2 known,
          Dictionary.get?_eq_none_iff.2 (known ∘ names.mem_iff.2)]
        exact .nothing

theorem SameFiles.directory_of_perm
    {entries entries' : List (Text × FileTree)}
    (distinct : (entries.map Prod.fst).Nodup)
    (rearranged : entries.Perm entries') :
    SameFiles (.directory entries) (.directory entries') := by
  refine .directory distinct (rearranged.map Prod.fst) ?_
  intro name tree tree' member member'
  have found := (Dictionary.get?_eq_some_iff distinct).2 member
  have found' :=
    (Dictionary.get?_eq_some_iff distinct).2 (rearranged.mem_iff.2 member')
  rw [Option.some.inj (found.symm.trans found')]
  exact .refl tree'

/-! ## Following paths and reading files -/

variable
    {tree tree' : FileTree}

/-- A path leads to the same location, or ends with the same fault. -/
theorem SameFiles.follow_eq
    (same : SameFiles tree tree')
    (path : Path)
    (location parts : List Text) :
    tree.follow path location parts = tree'.follow path location parts := by
  induction parts generalizing location with
  | nil => rfl
  | cons part parts induction_hypothesis =>
      have standing := same location
      rw [follow, follow, entriesAt, entriesAt]
      generalize tree.at? location = found at standing ⊢
      generalize tree'.at? location = found' at standing ⊢
      cases standing with
      | nothing => rfl
      | file bytes => rfl
      | @directory entries entries' names =>
          simp only [bind, Except.bind, induction_hypothesis]
          by_cases known : part ∈ entries.map Prod.fst
          · rcases Dictionary.exists_get?_of_mem_names known with
              ⟨entry, found⟩
            rcases Dictionary.exists_get?_of_mem_names
                (names.mem_iff.1 known) with
              ⟨entry', found'⟩
            rw [Dictionary.get?] at found found'
            simp only [found, found']
          · have missing := Dictionary.get?_eq_none_iff.2 known
            have missing' :=
              Dictionary.get?_eq_none_iff.2 (known ∘ names.mem_iff.2)
            rw [Dictionary.get?] at missing missing'
            simp only [missing, missing']

/-- A path leads to nothing in either tree, with the same fault, or to what
stands alike in both. -/
theorem SameFiles.get_cases
    (same : SameFiles tree tree')
    (path : Path) :
    (∃ error, tree.get path = .error error ∧ tree'.get path = .error error) ∨
      ∃ found found',
        tree.get path = .ok found ∧ tree'.get path = .ok found' ∧
          StandAlike (some found) (some found') := by
  rw [get, get, same.follow_eq]
  cases checkParts path with
  | error error => exact .inl ⟨error, rfl, rfl⟩
  | ok _ =>
      cases tree'.follow path [] path.parts with
      | error error => exact .inl ⟨error, rfl, rfl⟩
      | ok location =>
          have standing := same location
          simp only [bind, Except.bind]
          generalize tree.at? location = found at standing ⊢
          generalize tree'.at? location = found' at standing ⊢
          cases standing with
          | nothing => exact .inl ⟨.notFound, rfl, rfl⟩
          | file bytes => exact .inr ⟨_, _, rfl, rfl, .file bytes⟩
          | directory names => exact .inr ⟨_, _, rfl, rfl, .directory names⟩

/-- A file is read alike. -/
theorem SameFiles.readText_eq
    (same : SameFiles tree tree')
    (path : Path) :
    tree.readText path = tree'.readText path := by
  rw [readText, readText]
  rcases same.get_cases path with
    ⟨error, failed, failed'⟩ | ⟨found, found', got, got', standing⟩
  · rw [failed, failed']
  · rw [got, got']
    cases standing <;> rfl

end AnnotatedSql.FileTree
