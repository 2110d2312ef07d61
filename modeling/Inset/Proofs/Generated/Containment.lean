import Inset.Proofs.Generated.Assembly

/-!
# Where the files of a manifest lie

The files of an accepted manifest have relative paths, and yet they need not lie below
the directory of the manifest: a path may begin with `..` after cleaning.  None does
exactly if every written path stays inside the directory it starts from
(`assemble_inside_iff`), and only then do the files lie strictly below it.
-/

namespace Inset

open FileTree
open Location (move)

/-- Whether a location lies strictly below another one. -/
def Location.Encloses (outer inner : Location) : Prop :=
  outer <:+ inner ∧ outer ≠ inner

theorem foldl_move_replicate (climbs : Nat) (directory : Location) :
    (List.replicate climbs "..").foldl move directory = directory.drop climbs := by
  induction climbs generalizing directory with
  | zero => rfl
  | succ climbs ih =>
      have up : directory.move ".." = directory.tail := rfl
      rw [List.replicate_succ, List.foldl_cons, up, ih, List.drop_tail]

namespace Path

/-- A cleaned path with its `..` and its names. -/
structure IsCleanedTo (path cleaned : Path) (climbs : Nat) (names : List String) : Prop where
  relative : cleaned.isRooted = false
  components : cleaned.components = List.replicate climbs .parent ++ names.map .name
  nonempty : cleaned.components ≠ []
  location (root : Path) : (root.join cleaned).location = names.reverse ++ root.location.drop climbs
  inside : climbs = 0 ↔ path.StaysInside

theorem NamesFile.exists_isCleanedTo {path : Path} (named : path.NamesFile) :
    ∃ climbs names, path.IsCleanedTo path.clean climbs names := by
  rcases exists_clean named.relative named.notCurrent with
    ⟨climbs, names, clean, nonempty, isMove, proper, inside⟩
  have relative := isRooted_ofMoves nonempty isMove
  have components : (ofPieces (List.replicate climbs ".." ++ names)).components =
      List.replicate climbs .parent ++ names.map .name := by
    rw [components_ofMoves nonempty isMove, List.map_append, List.map_replicate]
    congr 1
    exact List.map_congr_left fun name member => if_neg (proper name member)
  rw [clean]
  refine ⟨climbs, names, relative, components, ?_, fun root => ?_, inside⟩
  · rw [components_ofMoves nonempty isMove]
    simpa using nonempty
  · rw [location, steps_join root relative, steps_ofMoves nonempty isMove, List.foldl_append,
      List.foldl_append, foldl_move_replicate, foldl_move_names]
    · rfl
    · exact fun name member =>
        ⟨(isMove name (List.mem_append_right _ member)).notCurrent, proper name member⟩

namespace IsCleanedTo

variable {path cleaned : Path} {climbs : Nat} {names : List String}
  (isCleanedTo : path.IsCleanedTo cleaned climbs names)

include isCleanedTo

theorem parent_notMem_iff : .parent ∉ cleaned.components ↔ path.StaysInside := by
  rw [← isCleanedTo.inside, isCleanedTo.components]
  simp

/-- A path without `..` leads strictly below every directory. -/
theorem encloses (noParent : .parent ∉ cleaned.components) (root : Path) :
    root.location.Encloses (root.join cleaned).location := by
  have noClimbs := isCleanedTo.inside.mpr (isCleanedTo.parent_notMem_iff.mp noParent)
  have nonempty := isCleanedTo.nonempty
  rw [isCleanedTo.components, noClimbs] at nonempty
  rw [isCleanedTo.location, noClimbs, List.drop_zero]
  refine ⟨List.suffix_append _ _, ?_⟩
  simpa using nonempty

/-- A path with `..` does not lead below a directory whose name it does not spell. -/
theorem not_encloses (hasParent : .parent ∈ cleaned.components) {root : Path} {name : String}
    {above : Location} (here : root.location = name :: above)
    (unspelled : .name name ∉ cleaned.components) :
    ¬root.location.Encloses (root.join cleaned).location := by
  rintro ⟨⟨front, below⟩, _⟩
  rw [isCleanedTo.location, here] at below
  obtain ⟨climbs, rfl⟩ : ∃ fewer, climbs = fewer + 1 := by
    apply Nat.exists_eq_succ_of_ne_zero
    rintro rfl
    simp [isCleanedTo.components] at hasParent
  rw [List.drop_succ_cons] at below
  -- What is kept of the directory is shorter than it, so its name is among those spelled.
  rcases List.append_eq_append_iff.mp below with ⟨spelled, split, rest⟩ | ⟨spelled, _, rest⟩
  · cases spelled with
    | nil =>
        have length := congrArg List.length rest
        simp at length
        omega
    | cons first spelled =>
        rcases List.cons.inj rest with ⟨rfl, _⟩
        have member : name ∈ names := by
          rw [← List.mem_reverse, split]
          simp
        apply unspelled
        simp [isCleanedTo.components, member]
  · have length := congrArg List.length rest
    simp at length
    omega

end IsCleanedTo

end Path

namespace Manifest

variable {manifest : Manifest}

/-- Every file has the path that a written one is cleaned to. -/
theorem exists_isCleanedTo_of_assemble (accepted : manifest.validate = .ok ())
    {file : GeneratedFile} (member : file ∈ manifest.assemble) :
    ∃ path ∈ manifest.writtenPaths, ∃ climbs names, path.IsCleanedTo file.path climbs names := by
  rcases exists_clean_eq_of_assemble member with ⟨path, written, clean⟩
  exact ⟨path, written, clean ▸ (namesFile_of_validate accepted written).exists_isCleanedTo⟩

theorem exists_file_of_writtenPaths {path : Path} (written : path ∈ manifest.writtenPaths) :
    ∃ file ∈ manifest.assemble, file.path = path.clean := by
  have cleaned : path.clean ∈ manifest.assemble.map GeneratedFile.path := by
    rw [map_path_assemble]
    exact List.mem_map_of_mem written
  exact List.mem_map.mp cleaned

/-- The paths of the files of an accepted manifest are relative and not empty.  None of
them holds `..` exactly if every written path stays inside.  A file without `..` in its
path lies strictly below the directory of the manifest; one with `..` does not, unless
its path spells the name of that directory. -/
theorem assemble_inside_iff (accepted : manifest.validate = .ok ()) :
    (∀ file ∈ manifest.assemble,
      file.path.isRooted = false ∧ file.path.components ≠ []) ∧
    ((∀ file ∈ manifest.assemble, .parent ∉ file.path.components) ↔
      ∀ path ∈ manifest.writtenPaths, path.StaysInside) ∧
    (∀ file ∈ manifest.assemble, .parent ∉ file.path.components →
      ∀ (tree : FileTree) (root : Path) (directory : Location) (slash : Bool), tree.NoLinks →
        tree.resolve .look root = .ok (.found directory .directory slash) →
        ∀ purpose target, tree.resolve purpose (root.join file.path) = .ok target →
          directory.Encloses target.location) ∧
    (∀ file ∈ manifest.assemble, .parent ∈ file.path.components →
      ∀ (root : Path) (name : String) (above : Location), root.location = name :: above →
        .name name ∉ file.path.components →
        ¬root.location.Encloses (root.join file.path).location) := by
  refine ⟨?_, ⟨?_, ?_⟩, ?_, ?_⟩
  · intro file member
    rcases exists_isCleanedTo_of_assemble accepted member with ⟨_, _, _, _, isCleanedTo⟩
    exact ⟨isCleanedTo.relative, isCleanedTo.nonempty⟩
  · intro noParents path written
    rcases (namesFile_of_validate accepted written).exists_isCleanedTo with
      ⟨climbs, names, isCleanedTo⟩
    rcases exists_file_of_writtenPaths written with ⟨file, member, cleaned⟩
    exact isCleanedTo.parent_notMem_iff.mp (cleaned ▸ noParents file member)
  · intro inside file member
    rcases exists_isCleanedTo_of_assemble accepted member with
      ⟨path, written, _, _, isCleanedTo⟩
    exact isCleanedTo.parent_notMem_iff.mpr (inside path written)
  · intro file member noParent tree root directory slash noLinks entered purpose target resolved
    rcases exists_isCleanedTo_of_assemble accepted member with ⟨_, _, _, _, isCleanedTo⟩
    have start : directory = root.location := location_of_resolve noLinks entered
    rw [start, location_of_resolve noLinks resolved]
    exact isCleanedTo.encloses noParent root
  · intro file member hasParent root name above here unspelled
    rcases exists_isCleanedTo_of_assemble accepted member with ⟨_, _, _, _, isCleanedTo⟩
    exact isCleanedTo.not_encloses hasParent here unspelled

/-- A manifest with one grammar and no languages. -/
def ofOutput (output : Path) : Manifest where
  contributes := none
  hosts := [⟨.go, "v", "s", output, none⟩]
  embedded := []

/-- A path may go up on the way and still stay inside. -/
theorem assemble_inside_of_detour :
    (ofOutput ⟨"a/b/../../c//./d"⟩).validate = .ok () ∧
      ∀ file ∈ (ofOutput ⟨"a/b/../../c//./d"⟩).assemble, .parent ∉ file.path.components := by
  have accepted : (ofOutput ⟨"a/b/../../c//./d"⟩).validate = .ok () := by decide
  rcases assemble_inside_iff accepted with ⟨_, inside, _⟩
  exact ⟨accepted, inside.mpr (by decide)⟩

/-- An accepted manifest may have a file above its directory. -/
theorem exists_parent_mem_components :
    (ofOutput ⟨"../x.json"⟩).validate = .ok () ∧
      ∃ file ∈ (ofOutput ⟨"../x.json"⟩).assemble, .parent ∈ file.path.components := by
  have accepted : (ofOutput ⟨"../x.json"⟩).validate = .ok () := by decide
  have written : (⟨"../x.json"⟩ : Path) ∈ (ofOutput ⟨"../x.json"⟩).writtenPaths := by
    simp [ofOutput, writtenPaths]
  have climbs : .parent ∈ (⟨"../x.json"⟩ : Path).clean.components := by decide
  rcases exists_file_of_writtenPaths written with ⟨file, member, cleaned⟩
  exact ⟨accepted, file, member, cleaned ▸ climbs⟩

end Manifest

end Inset
