import Inset.Proofs.Generated.Nesting
import Inset.Proofs.Generated.UpToDate
import Inset.Proofs.Path.NormalForm

/-!
# Writing below a directory of a tree without links

In a tree without links a clean path that is seen from a directory climbs to a directory and
descends from there, so a file has one place, which its path spells by name alone.  What is
in and above these places before anything is written decides whether all files are written
(`written_below_iff`), although the tree changes with every one of them.
-/

namespace Inset

open FileTree
open Location (move)

variable {tree after : FileTree} {root path : Path} {files : List GeneratedFile}
  {file : GeneratedFile}

/-! ## Clean paths -/

namespace Path

/-- Whether a path is relative and cleaning leaves it as it is. -/
structure IsClean (path : Path) : Prop where
  relative : path.isRooted = false
  clean_eq : path.clean = path

instance (path : Path) : Decidable path.IsClean :=
  decidable_of_iff (path.isRooted = false ∧ path.clean = path)
    ⟨fun ⟨relative, same⟩ => ⟨relative, same⟩, fun isClean => ⟨isClean.relative, isClean.clean_eq⟩⟩

/-- A clean path other than the current directory is in normal form. -/
theorem IsClean.isNormalForm (isClean : path.IsClean) (notCurrent : path ≠ ⟨"."⟩) :
    path.IsNormalForm :=
  (clean_eq_self_iff isClean.relative fun current => notCurrent (isClean.clean_eq ▸ current)).mp
    isClean.clean_eq

/-- A name among the components of a relative path is one of its steps. -/
theorem mem_steps_of_name_mem_components (relative : path.isRooted = false) {name : String}
    (member : .name name ∈ path.components) : name ∈ path.steps := by
  have kept : .name name ∈ path.moves.map Component.ofMove := by
    rw [← filter_components relative]
    exact List.mem_filter.mpr ⟨member, by simp⟩
  rcases List.mem_map.mp kept with ⟨step, inMoves, same⟩
  rw [Component.ofMove] at same
  split at same
  · cases same
  · rw [← Component.name.inj same]
    exact (List.mem_filter.mp inMoves).1

theorem hasLegalNames_of_steps (relative : path.isRooted = false)
    (noNul : '\x00' ∉ path.text.toList)
    (short : ∀ step ∈ path.steps, step.utf8ByteSize ≤ longestName) : path.HasLegalNames := by
  intro component member name isName
  obtain rfl : component = .name name := by
    cases component <;> simp_all [Component.name?]
  have step := mem_steps_of_name_mem_components relative member
  refine ⟨fun nul => noNul ?_, short name step⟩
  exact (mem_toList_text_iff (by decide)).mpr ⟨name, (List.mem_filter.mp step).1, nul⟩

namespace IsNormalForm

variable (normal : path.IsNormalForm)

include normal

theorem steps_eq : path.steps = path.pieces := by
  rw [steps, List.filter_eq_self]
  exact fun piece member => by simpa using (normal.isMove member).nonempty

theorem isLegalName (legal : path.HasLegalNames) {piece : String}
    (member : piece ∈ path.pieces) : IsLegalName piece := by
  by_cases climbs : piece = ".."
  · rw [climbs]
    decide
  · refine legal (.name piece) ?_ piece rfl
    have components := components_ofMoves path.pieces_ne_nil fun _ => normal.isMove
    rw [ofPieces_pieces] at components
    rw [components]
    exact List.mem_map.mpr ⟨piece, member, if_neg climbs⟩

theorem noNul (legal : path.HasLegalNames) : '\x00' ∉ path.text.toList := by
  rw [mem_toList_text_iff (by decide)]
  rintro ⟨name, member, here⟩
  exact (normal.isLegalName legal member).noNul here

end IsNormalForm

end Path

/-! ## Places -/

/-- Where a file goes as seen from a directory, by name alone. -/
def GeneratedFile.place (root : Path) (file : GeneratedFile) : Location :=
  (root.join file.path).location

/-- Steps that lead on to a directory are a route to it. -/
theorem FileTree.exists_route_to_directory (noLinks : tree.NoLinks) {steps : List String}
    (leadsOn : tree.LeadsOn [] steps)
    (isDirectory : tree.get? (steps.foldl move []) = some .directory)
    (short : ∀ step ∈ steps, step.utf8ByteSize ≤ longestName) :
    ∃ slash, Route tree .look 0 false [] steps
      (.found (steps.foldl move []) .directory slash) := by
  obtain ⟨target, route⟩ : ∃ target, Route tree .look 0 false [] steps target :=
    exists_route noLinks rfl leadsOn short
  have here := (route.leadsOn noLinks rfl).1
  have fits := (route.fits rfl).entry
  rw [here, isDirectory] at fits
  cases target with
  | vacant => cases fits
  | found location entry slash =>
      obtain rfl : location = _ := here
      obtain rfl : Entry.directory = entry := Option.some.inj fits
      exact ⟨slash, route⟩

section

variable (noLinks : tree.NoLinks) (isDirectory : tree.isDirectory root)

include noLinks isDirectory

/-- A path in normal form climbs to a directory and descends by its names from there. -/
theorem FileTree.exists_descends (normal : path.IsNormalForm) (legal : path.HasLegalNames)
    (short : (root.join path).byteCount ≤ longestPath) :
    ∃ start names, tree.Descends (root.join path) start names ∧
      (root.join path).location = names.reverse ++ start := by
  have entered := isEntered_of_isDirectory noLinks isDirectory
  rcases exists_resolve_of_isDirectory isDirectory with ⟨_, _, resolved⟩
  rcases Path.exists_pieces_join root normal.relative with ⟨front, pieces, frontSteps⟩
  obtain ⟨climbs, names, split, proper⟩ := id normal
  rcases leadsOn_replicate entered.directory climbs with ⟨leadsOn, last⟩
  have start : (root.steps ++ List.replicate climbs "..").foldl move [] =
      (List.replicate climbs "..").foldl move root.location := List.foldl_append
  have shortSteps : ∀ step ∈ root.steps ++ List.replicate climbs "..",
      step.utf8ByteSize ≤ longestName := by
    rw [List.forall_mem_append]
    refine ⟨entered.short, fun step climb => ?_⟩
    rw [List.eq_of_mem_replicate climb]
    decide
  rcases exists_route_to_directory noLinks (leadsOn_append.mpr ⟨entered.leadsOn, leadsOn⟩)
    (start ▸ last) shortSteps with ⟨slash, route⟩
  have climbing : (List.replicate climbs "..").filter (· ≠ "") = List.replicate climbs ".." :=
    List.filter_replicate_of_pos (by decide)
  refine ⟨(root.steps ++ List.replicate climbs "..").foldl move [], names, ⟨?_, ?_, ?_, ?_⟩, ?_⟩
  · exact isWalkable_join (resolve_eq_ok_iff.mp resolved).1 normal.relative
      (normal.noNul legal) short
  · refine ⟨front ++ List.replicate climbs "..", ?_, 0, Nat.zero_le _, false, slash, ?_⟩
    · rw [pieces, split, List.append_assoc]
    · rwa [List.filter_append, frontSteps, climbing]
  · intro name member
    have inPieces : name ∈ path.pieces := split ▸ List.mem_append_right _ member
    exact ⟨normal.isMove inPieces, (proper name member).2.2,
      (normal.isLegalName legal inPieces).short⟩
  · exact fun front _ target => noLinks _ target
  · rw [Path.location, Path.steps_join root normal.relative, normal.steps_eq, split,
      ← List.append_assoc, List.foldl_append, foldl_move_names]
    exact fun name member => (proper name member).2

/-- A clean path with legal names leads to a directory, or it descends to its place. -/
theorem GeneratedFile.directory_or_descendsTo (isClean : file.path.IsClean)
    (legal : file.path.HasLegalNames)
    (short : (root.join file.path).byteCount ≤ longestPath) :
    tree.get? (file.place root) = some .directory ∨
      tree.DescendsTo (root.join file.path) (file.place root) := by
  by_cases current : file.path = ⟨"."⟩
  · left
    have here : (root.join ⟨"."⟩).location = root.location := by
      rw [Path.location, Path.steps_join root (by decide), List.foldl_append]
      rfl
    rw [place, current, here]
    exact (isEntered_of_isDirectory noLinks isDirectory).directory
  · rcases exists_descends noLinks isDirectory (isClean.isNormalForm current) legal short with
      ⟨start, names, descends, here⟩
    rw [place, here]
    rcases List.eq_nil_or_concat names with rfl | ⟨above, name, rfl⟩
    · exact .inl descends.isDirectory_start
    · rw [List.concat_eq_append] at descends ⊢
      exact .inr ⟨start, above, name, descends, by simp⟩

/-! ## Success -/

/-- Whether a file could be written if it were the only one: its path can be spelled, and its
place takes a file. -/
structure GeneratedFile.FitsAlone (tree : FileTree) (root : Path) (file : GeneratedFile) :
    Prop where
  legal : file.path.HasLegalNames
  short : (root.join file.path).byteCount ≤ longestPath
  takesFile : tree.TakesFile (file.place root)

omit noLinks isDirectory in
theorem FileTree.TakesFile.not_directory {target : Location} (takesFile : tree.TakesFile target) :
    tree.get? target ≠ some .directory := by
  rcases takesFile.free with vacant | ⟨text, there⟩
  · simp [vacant]
  · simp [there]

theorem GeneratedFile.FitsAlone.descendsTo (isClean : file.path.IsClean)
    (fits : file.FitsAlone tree root) : tree.DescendsTo (root.join file.path) (file.place root) :=
  (directory_or_descendsTo noLinks isDirectory isClean fits.legal fits.short).resolve_left
    fits.takesFile.not_directory

omit isDirectory in
/-- The path of a file that has been written can be spelled. -/
theorem legal_of_written {report : WriteReport} (isClean : file.path.IsClean)
    (ran : (writeGenerated root files : StateM FileTree _).run tree = (report, after))
    (succeeded : report.failure = none) (member : file ∈ files) :
    file.path.HasLegalNames ∧ (root.join file.path).byteCount ≤ longestPath := by
  rcases exists_file_of_written ran succeeded member with ⟨location, bytes, resolved⟩
  have walkable := (resolve_eq_ok_iff.mp resolved).1
  have short := short_of_resolve (noLinks_of_written noLinks ran succeeded) resolved
  rw [Path.steps_join root isClean.relative] at short
  refine ⟨Path.hasLegalNames_of_steps isClean.relative (fun nul => walkable.noNul ?_)
    fun step member => short step (List.mem_append_right _ member), walkable.short⟩
  exact (Path.mem_toList_join_iff (by decide) isClean.relative).mpr (.inr nul)

omit isDirectory in
/-- No directory was where a file has been written. -/
theorem not_directory_of_written {report : WriteReport}
    (ran : (writeGenerated root files : StateM FileTree _).run tree = (report, after))
    (succeeded : report.failure = none) (member : file ∈ files) :
    tree.get? (file.place root) ≠ some .directory := by
  intro isDirectory
  have kept := (grows_of_writeGenerated ran succeeded).directory isDirectory
  rcases exists_file_at_location noLinks ran succeeded member with ⟨bytes, written⟩
  rw [GeneratedFile.place, written] at kept
  cases kept

/-- Files with clean paths are all written exactly if each of them could be written if it were
the only one, and none goes below another. -/
theorem failure_writeGenerated_eq_none_iff_fitsAlone
    (isClean : ∀ file ∈ files, file.path.IsClean) :
    ((writeGenerated root files : StateM FileTree _).run tree).1.failure = none ↔
      (∀ file ∈ files, file.FitsAlone tree root) ∧
        ∀ first ∈ files, ∀ second ∈ files,
          ¬(first.place root).Encloses (second.place root) := by
  constructor
  · intro succeeded
    have descendsTo (file : GeneratedFile) (member : file ∈ files) :
        tree.DescendsTo (root.join file.path) (file.place root) := by
      rcases legal_of_written noLinks (isClean file member) rfl succeeded member with
        ⟨legal, short⟩
      exact (GeneratedFile.directory_or_descendsTo noLinks isDirectory (isClean file member) legal
        short).resolve_left (not_directory_of_written noLinks rfl succeeded member)
    rcases (failure_writeGenerated_eq_none_iff descendsTo).mp succeeded with ⟨takesFile, apart⟩
    refine ⟨fun file member => ?_, apart⟩
    rcases legal_of_written noLinks (isClean file member) rfl succeeded member with ⟨legal, short⟩
    exact ⟨legal, short, takesFile file member⟩
  · rintro ⟨fits, apart⟩
    refine (failure_writeGenerated_eq_none_iff fun file member =>
      (fits file member).descendsTo noLinks isDirectory (isClean file member)).mpr ⟨?_, apart⟩
    exact fun file member => (fits file member).takesFile

end

/-- In a tree without links, a file can be put where neither a directory nor bytes that are
no text are, if no file is above. -/
theorem FileTree.takesFile_iff (noLinks : tree.NoLinks) {target : Location} :
    tree.TakesFile target ↔
      (∀ outer : Location, outer.Encloses target → ∀ bytes, tree.get? outer ≠ some (.file bytes)) ∧
      tree.get? target ≠ some .directory ∧
      ∀ bytes, tree.get? target = some (.file bytes) → bytes.IsValidUTF8 := by
  constructor
  · intro takesFile
    refine ⟨takesFile.clear, takesFile.not_directory, fun bytes there => ?_⟩
    rcases takesFile.free with vacant | ⟨text, isText⟩
    · simp [vacant] at there
    · rw [isText, Option.some.injEq, Entry.file.injEq] at there
      exact isValidUTF8_iff.mpr ⟨text, there.symm⟩
  · rintro ⟨clear, notDirectory, isText⟩
    refine ⟨clear, ?_⟩
    cases there : tree.get? target with
    | none => exact .inl rfl
    | some entry =>
        cases entry with
        | directory => exact absurd there notDirectory
        | link goal => exact absurd there (noLinks target goal)
        | file bytes =>
            rcases isValidUTF8_iff.mp (isText bytes there) with ⟨text, rfl⟩
            exact .inr ⟨text, rfl⟩

/-- Below a directory of a tree without links, files with clean paths and legal names are
written exactly if, before that, no file is above the place of one of them, no directory and
no bytes other than a text are in its place, and none goes below another. -/
theorem written_below_iff (noLinks : tree.NoLinks) (isDirectory : tree.isDirectory root)
    (isClean : ∀ file ∈ files, file.path.IsClean)
    (legal : ∀ file ∈ files, file.path.HasLegalNames)
    (short : ∀ file ∈ files, (root.join file.path).byteCount ≤ longestPath) :
    (∃ summary,
      ((writeGenerated root files : StateM FileTree _).run tree).1.outcome = .ok summary) ↔
      (∀ file ∈ files,
        (∀ outer : Location, outer.Encloses (file.place root) →
          ∀ bytes, tree.get? outer ≠ some (.file bytes)) ∧
        tree.get? (file.place root) ≠ some .directory ∧
        ∀ bytes, tree.get? (file.place root) = some (.file bytes) → bytes.IsValidUTF8) ∧
      ∀ first ∈ files, ∀ second ∈ files, ¬(first.place root).Encloses (second.place root) := by
  rw [WriteReport.exists_outcome_eq_ok_iff,
    failure_writeGenerated_eq_none_iff_fitsAlone noLinks isDirectory isClean]
  refine and_congr_left fun _ => forall₂_congr fun file member => ?_
  rw [← takesFile_iff noLinks]
  exact ⟨fun fits => fits.takesFile, fun takesFile =>
    ⟨legal file member, short file member, takesFile⟩⟩

/-- A directory with two texts and with a file that holds no text. -/
def shelfTree : FileTree :=
  (((FileTree.empty.put [] "s" .directory).put ["s"] "old" (.file "1".toUTF8)).put ["s"] "kept"
    (.file "2".toUTF8)).put ["s"] "raw" (.file ⟨#[255]⟩)

theorem noLinks_shelfTree : shelfTree.NoLinks :=
  (((noLinks_empty.put (by simp) [] "s").put (by simp) ["s"] "old").put (by simp) ["s"]
    "kept").put (by simp) ["s"] "raw"

/-- A file beside the directory and a text in it are written, but bytes that are no text are
not written over. -/
theorem written_below_shelf :
    (∃ summary, ((writeGenerated ⟨"/s"⟩ [⟨⟨"../t/x"⟩, "2"⟩, ⟨⟨"old"⟩, "3"⟩] :
      StateM FileTree _).run shelfTree).1.outcome = .ok summary) ∧
    ¬∃ summary, ((writeGenerated ⟨"/s"⟩ [⟨⟨"raw"⟩, "2"⟩] :
      StateM FileTree _).run shelfTree).1.outcome = .ok summary := by
  have isDirectory : shelfTree.isDirectory ⟨"/s"⟩ := by decide
  constructor
  · rw [written_below_iff noLinks_shelfTree isDirectory (by decide) (by decide) (by decide)]
    have beside : (⟨⟨"../t/x"⟩, "2"⟩ : GeneratedFile).place ⟨"/s"⟩ = ["x", "t"] := by decide
    have below : (⟨⟨"old"⟩, "3"⟩ : GeneratedFile).place ⟨"/s"⟩ = ["old", "s"] := by decide
    have vacant : shelfTree.get? ["x", "t"] = none := by decide
    have none : shelfTree.get? ["t"] = none := by decide
    have there : shelfTree.get? ["old", "s"] = some (.file "1".toUTF8) := by decide
    have above : shelfTree.get? ["s"] = some .directory := by decide
    simpa [beside, below, vacant, none, there, above, Location.Encloses, List.suffix_cons_iff]
      using "1".isValidUTF8
  · rw [written_below_iff noLinks_shelfTree isDirectory (by decide) (by decide) (by decide)]
    rintro ⟨each, _⟩
    have isText := (each _ List.mem_cons_self).2.2 ⟨#[255]⟩ (by decide)
    have noText : ¬(⟨#[255]⟩ : ByteArray).IsValidUTF8 :=
      ByteArray.validateUTF8_eq_false_iff.mp (by cbv)
    exact noText isText

end Inset
