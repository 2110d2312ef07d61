import Inset.Proofs.Generated.Success

/-!
# Building an accepted manifest

An accepted manifest whose paths hold no `..` has different files, and yet it may ask for
a file below another file.  Nothing else can go wrong with legal names and short enough
paths: into an empty directory the files are written exactly if no path goes on where
another one ends (`Manifest.written_into_empty_iff`).
-/

namespace Inset

open FileTree

variable {tree : FileTree} {root path : Path} {base : Location}

/-! ## Below a directory that a path leads to -/

namespace Path

/-- Seen from a directory, the pieces of a path come after some that hold the steps of the
directory. -/
theorem exists_pieces_join (directory : Path) {path : Path} (relative : path.isRooted = false) :
    ∃ front, (directory.join path).pieces = front ++ path.pieces ∧
      front.filter (· ≠ "") = directory.steps := by
  rw [join, if_neg (by simp [relative])]
  split
  · next adjoins =>
    rcases adjoins with none | slash
    · exact ⟨[], by simp [none, pieces], by simp [steps, pieces, none, splitSlash]⟩
    · obtain ⟨front, text⟩ : ∃ front, directory.text.toList = front ++ ['/'] :=
        List.getLast?_eq_some_iff.mp (by simpa [endsInSlash] using slash)
      refine ⟨(splitSlash front).map String.ofList, ?_, ?_⟩
      · simp [pieces, text, splitSlash_append_slash]
      · simp [steps, pieces, text, splitSlash_append_slash, splitSlash]
  · exact ⟨directory.pieces, pieces_append_slash _ _, rfl⟩

end Path

/-- The name that a component is. -/
def Path.Component.name? : Component → Option String
  | name text => some text
  | _ => none

/-- Whether a text can be the name of a file: it holds no NUL and is not too long. -/
structure IsLegalName (name : String) : Prop where
  noNul : '\x00' ∉ name.toList
  short : name.utf8ByteSize ≤ longestName

instance (name : String) : Decidable (IsLegalName name) :=
  decidable_of_iff ('\x00' ∉ name.toList ∧ name.utf8ByteSize ≤ longestName)
    ⟨fun ⟨noNul, short⟩ => ⟨noNul, short⟩, fun legal => ⟨legal.noNul, legal.short⟩⟩

/-- Whether the names of a path are legal. -/
def Path.HasLegalNames (path : Path) : Prop :=
  ∀ component ∈ path.components, ∀ name ∈ component.name?, IsLegalName name

instance (path : Path) : Decidable path.HasLegalNames :=
  inferInstanceAs (Decidable (∀ component ∈ path.components, ∀ name ∈ component.name?, _))

theorem Path.GoesDown.isLegalName (goesDown : path.GoesDown) (legal : path.HasLegalNames) :
    ∀ name ∈ path.moves, IsLegalName name := by
  intro name member
  refine legal (.name name) ?_ name rfl
  have component : .name name ∈ path.moves.map Component.ofMove :=
    List.mem_map.mpr ⟨name, member, if_neg (goesDown.proper name member)⟩
  rw [← Path.filter_components goesDown.relative] at component
  exact (List.mem_filter.mp component).1

theorem Path.GoesDown.noNul (goesDown : path.GoesDown) (legal : path.HasLegalNames) :
    '\x00' ∉ path.clean.text.toList := by
  rw [mem_toList_text_iff (by decide), goesDown.pieces_clean]
  rintro ⟨name, member, here⟩
  exact (goesDown.isLegalName legal name member).noNul here

namespace FileTree

/-- Whether a path leads to a directory that holds nothing. -/
structure IsEmptyAt (tree : FileTree) (root : Path) (base : Location) : Prop where
  leads : ∃ slash, tree.resolve .look root = .ok (.found base .directory slash)
  empty : ∀ name, tree.get? (name :: base) = none

variable (isEmpty : tree.IsEmptyAt root base)

include isEmpty

theorem IsEmptyAt.isDirectory : tree.get? base = some .directory := by
  rcases isEmpty.leads with ⟨slash, resolved⟩
  exact get?_of_resolve resolved

/-- Nothing is below an empty directory. -/
theorem IsEmptyAt.get?_below {names : List String} (below : names ≠ []) :
    tree.get? (names ++ base) = none := by
  induction names with
  | nil => contradiction
  | cons name rest ih =>
      cases rest with
      | nil => exact isEmpty.empty name
      | cons next rest =>
          by_contra present
          have parent := get?_tail (Option.isSome_iff_ne_none.mpr present)
          change tree.get? (next :: rest ++ base) = _ at parent
          rw [ih (List.cons_ne_nil next rest)] at parent
          cases parent

/-- A path that goes down from an empty directory descends. -/
theorem IsEmptyAt.descends (goesDown : path.GoesDown) (legal : path.HasLegalNames)
    (short : (root.join path.clean).byteCount ≤ longestPath) :
    tree.Descends (root.join path.clean) base path.moves := by
  rcases isEmpty.leads with ⟨slash, resolved⟩
  rcases resolve_eq_ok_iff.mp resolved with ⟨walkable, links, few, route⟩
  have relative := goesDown.isRooted_clean_eq_false
  constructor
  · exact isWalkable_join walkable relative (goesDown.noNul legal) short
  · rcases Path.exists_pieces_join root relative with ⟨front, pieces, steps⟩
    rw [goesDown.pieces_clean] at pieces
    rw [← steps] at route
    exact ⟨front, pieces, links, few, _, slash, route⟩
  · intro name member
    exact ⟨Path.isMove_of_mem_moves member, goesDown.proper name member,
      (goesDown.isLegalName legal name member).short⟩
  · intro front begins goal linked
    by_cases none : front = []
    · simp [none, isEmpty.isDirectory] at linked
    · have vacant := isEmpty.get?_below (List.reverse_ne_nil_iff.mpr none)
      simp [vacant] at linked

/-- Every location below an empty directory takes a file. -/
theorem IsEmptyAt.takesFile {names : List String} (below : names ≠ []) :
    tree.TakesFile (names ++ base) := by
  constructor
  · intro outer encloses bytes file
    rcases List.suffix_or_suffix_of_suffix encloses.1 (List.suffix_append names base) with
      above | ⟨inner, rfl⟩
    · have isDirectory : tree.get? outer = some .directory := by
        by_cases same : outer = base
        · rw [same]
          exact isEmpty.isDirectory
        · exact get?_of_suffix above same (by simp [isEmpty.isDirectory])
      simp [isDirectory] at file
    · by_cases none : inner = []
      · simp [none, isEmpty.isDirectory] at file
      · simp [isEmpty.get?_below none] at file
  · exact .inl (isEmpty.get?_below below)

end FileTree

/-- Of two locations below one directory, one encloses the other if its names begin those
of the other. -/
theorem encloses_below_iff {first second : List String} :
    Location.Encloses (first.reverse ++ base) (second.reverse ++ base) ↔
      first <+: second ∧ first ≠ second := by
  have same : first.reverse ++ base = second.reverse ++ base ↔ first = second := by simp
  rw [Location.Encloses, ne_eq, same, ← List.reverse_suffix]
  refine and_congr_left fun _ => ⟨?_, ?_⟩
  · rintro ⟨more, split⟩
    rw [← List.append_assoc, List.append_cancel_right_eq] at split
    exact ⟨more, split⟩
  · rintro ⟨more, split⟩
    exact ⟨more, by rw [← split, List.append_assoc]⟩

/-! ## Manifests -/

namespace Manifest

variable {manifest : Manifest}

/-- Every file of an accepted manifest whose paths hold no `..` is named by legal names, if
the written paths are. -/
theorem exists_names_of_assemble (accepted : manifest.validate = .ok ())
    (noParents : ∀ path ∈ manifest.writtenPaths, .parent ∉ path.components)
    (legal : ∀ path ∈ manifest.writtenPaths, path.HasLegalNames)
    {file : GeneratedFile} (member : file ∈ manifest.assemble) :
    ∃ path : Path, path.GoesDown ∧ path.HasLegalNames ∧ path.clean = file.path ∧
      path.moves = file.path.steps := by
  rcases exists_goesDown_of_assemble accepted noParents member with
    ⟨path, written, goesDown, clean⟩
  exact ⟨path, goesDown, legal path written, clean, clean ▸ goesDown.steps_clean.symm⟩

/-- Files with the same names are the same. -/
theorem eq_of_steps_eq (accepted : manifest.validate = .ok ())
    (noParents : ∀ path ∈ manifest.writtenPaths, .parent ∉ path.components)
    {first second : GeneratedFile} (inFiles : first ∈ manifest.assemble)
    (inFiles' : second ∈ manifest.assemble) (same : first.path.steps = second.path.steps) :
    first = second := by
  rcases exists_goesDown_of_assemble accepted noParents inFiles with ⟨path, _, goesDown, clean⟩
  rcases exists_goesDown_of_assemble accepted noParents inFiles' with
    ⟨path', _, goesDown', clean'⟩
  apply List.inj_on_of_nodup_map (nodup_map_path_assemble accepted) inFiles inFiles'
  rw [← clean, ← clean', goesDown.steps_clean, goesDown'.steps_clean] at same
  rw [← clean, ← clean', goesDown.clean_eq, goesDown'.clean_eq, same]

/-- Into an empty directory the files of an accepted manifest whose paths hold no `..` and
only legal names are all written exactly if their paths are short enough and none of them
goes on where another one ends. -/
theorem written_into_empty_iff (accepted : manifest.validate = .ok ())
    (noParents : ∀ path ∈ manifest.writtenPaths, .parent ∉ path.components)
    (legal : ∀ path ∈ manifest.writtenPaths, path.HasLegalNames)
    (isEmpty : tree.IsEmptyAt root base) :
    ((writeGenerated root manifest.assemble : StateM FileTree _).run tree).1.failure = none ↔
      (∀ file ∈ manifest.assemble, (root.join file.path).byteCount ≤ longestPath) ∧
        ∀ first ∈ manifest.assemble, ∀ second ∈ manifest.assemble,
          first.path.steps <+: second.path.steps → first = second := by
  have descendsTo
      (short : ∀ file ∈ manifest.assemble, (root.join file.path).byteCount ≤ longestPath)
      (file : GeneratedFile) (member : file ∈ manifest.assemble) :
      tree.DescendsTo (root.join file.path) (file.path.steps.reverse ++ base) := by
    rcases exists_names_of_assemble accepted noParents legal member with
      ⟨path, goesDown, legal, clean, steps⟩
    have descends := isEmpty.descends goesDown legal (clean ▸ short file member)
    rcases List.eq_nil_or_concat path.moves with none | ⟨above, name, split⟩
    · exact absurd none goesDown.nonempty
    · rw [clean, split, List.concat_eq_append] at descends
      exact ⟨base, above, name, descends, by simp [← steps, split]⟩
  constructor
  · intro succeeded
    have short (file : GeneratedFile) (member : file ∈ manifest.assemble) :
        (root.join file.path).byteCount ≤ longestPath := by
      rcases exists_file_of_written rfl succeeded member with ⟨_, _, resolved⟩
      exact (resolve_eq_ok_iff.mp resolved).1.short
    refine ⟨short, ?_⟩
    rcases (failure_writeGenerated_eq_none_iff (descendsTo short)).mp succeeded with ⟨_, apart⟩
    intro first inFiles second inFiles' begins
    by_contra different
    apply apart first inFiles second inFiles'
    rw [encloses_below_iff]
    exact ⟨begins, fun same => different (eq_of_steps_eq accepted noParents inFiles inFiles' same)⟩
  · rintro ⟨short, unnested⟩
    rw [failure_writeGenerated_eq_none_iff (descendsTo short)]
    constructor
    · intro file member
      rcases exists_names_of_assemble accepted noParents legal member with
        ⟨path, goesDown, _, _, steps⟩
      apply isEmpty.takesFile
      rw [List.reverse_ne_nil_iff, ← steps]
      exact goesDown.nonempty
    · intro first inFiles second inFiles' encloses
      rw [encloses_below_iff] at encloses
      apply encloses.2
      rw [unnested first inFiles second inFiles' encloses.1]

/-! ## Manifests with two grammars -/

/-- A manifest with two grammars and no languages. -/
def ofOutputs (first second : Path) : Manifest where
  contributes := none
  hosts := [⟨.go, "v", "s", first, none⟩, ⟨.go, "w", "s", second, none⟩]
  embedded := []

theorem isEmptyAt_root : FileTree.empty.IsEmptyAt ⟨"/"⟩ [] where
  leads := ⟨false, rfl⟩
  empty _ := rfl

/-- Two grammars in one directory are written. -/
theorem written_into_empty_beside :
    ((writeGenerated ⟨"/"⟩ (ofOutputs ⟨"a/b"⟩ ⟨"a/./c"⟩).assemble : StateM FileTree _).run
      FileTree.empty).1.failure = none := by
  obtain ⟨first, second, assembled, path, path'⟩ : ∃ first second,
      (ofOutputs ⟨"a/b"⟩ ⟨"a/./c"⟩).assemble = [first, second] ∧
        first.path = Path.clean ⟨"a/b"⟩ ∧ second.path = Path.clean ⟨"a/./c"⟩ :=
    ⟨_, _, rfl, rfl, rfl⟩
  apply (written_into_empty_iff (by decide) (by decide) (by decide) isEmptyAt_root).mpr
  simp only [assembled, List.forall_mem_cons, List.not_mem_nil, false_implies, implies_true,
    true_and, and_true, path, path']
  have apart : ¬(Path.clean ⟨"a/b"⟩).steps <+: (Path.clean ⟨"a/./c"⟩).steps := by decide
  have apart' : ¬(Path.clean ⟨"a/./c"⟩).steps <+: (Path.clean ⟨"a/b"⟩).steps := by decide
  exact ⟨by decide, fun begins => absurd begins apart, fun begins => absurd begins apart'⟩

/-- A grammar below another grammar is accepted, and yet it cannot be written. -/
theorem not_written_into_empty_nested :
    (ofOutputs ⟨"a"⟩ ⟨"a/b"⟩).validate = .ok () ∧
    (∀ path ∈ (ofOutputs ⟨"a"⟩ ⟨"a/b"⟩).writtenPaths, .parent ∉ path.components) ∧
    (∀ path ∈ (ofOutputs ⟨"a"⟩ ⟨"a/b"⟩).writtenPaths, path.HasLegalNames) ∧
    FileTree.empty.IsEmptyAt ⟨"/"⟩ [] ∧
    ((writeGenerated ⟨"/"⟩ (ofOutputs ⟨"a"⟩ ⟨"a/b"⟩).assemble : StateM FileTree _).run
      FileTree.empty).1.failure ≠ none := by
  refine ⟨by decide, by decide, by decide, isEmptyAt_root, ?_⟩
  intro succeeded
  have here : (Path.join ⟨"/"⟩ (Path.clean ⟨"a"⟩)).location = ["a"] := by decide
  have below : (Path.join ⟨"/"⟩ (Path.clean ⟨"a/b"⟩)).location = ["b", "a"] := by decide
  obtain ⟨first, second, assembled, path, path'⟩ : ∃ first second,
      (ofOutputs ⟨"a"⟩ ⟨"a/b"⟩).assemble = [first, second] ∧
        first.path = Path.clean ⟨"a"⟩ ∧ second.path = Path.clean ⟨"a/b"⟩ :=
    ⟨_, _, rfl, rfl, rfl⟩
  rw [assembled] at succeeded
  rcases exists_file_at_location noLinks_empty rfl succeeded List.mem_cons_self with
    ⟨bytes, outer⟩
  rcases exists_file_at_location noLinks_empty rfl succeeded
    (List.mem_cons_of_mem first (List.mem_singleton_self second)) with ⟨bytes', inner⟩
  rw [path, here] at outer
  rw [path', below] at inner
  have isDirectory := get?_tail (Option.isSome_of_eq_some inner)
  rw [outer] at isDirectory
  cases isDirectory

end Manifest

end Inset
