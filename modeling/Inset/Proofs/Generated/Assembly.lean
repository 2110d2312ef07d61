import Inset.Generated
import Inset.Proofs.Generated.Plain
import Inset.Proofs.Manifest.Validation
import Inset.Proofs.Path.Downward
import Mathlib.Data.List.Nodup

/-!
# The files of an accepted manifest

Every file of a manifest goes where one of the written paths leads, after cleaning,
and holds a JSON object.  The files of an accepted manifest have different paths, and if
the written paths hold no `..`, they go to different locations
(`Manifest.eq_of_location_eq`).
-/

namespace Inset

/-- The content of an object begins with a brace. -/
theorem Json.head?_text_object (members : List (String × Json.Value)) :
    (Json.Value.object members).text.toList.head? = some '\x7b' := by
  rw [Value.text, String.toList_ofList]
  cases members <;> rfl

theorem head?_append_of_head? {front back : String} {c : Char}
    (begins : front.toList.head? = some c) : (front ++ back).toList.head? = some c := by
  simp [begins]

/-- The paths of the files are the written ones, cleaned. -/
theorem Manifest.map_path_assemble (manifest : Manifest) :
    manifest.assemble.map GeneratedFile.path = manifest.writtenPaths.map Path.clean := by
  cases given : manifest.contributes <;>
    simp [assemble, writtenPaths, hostFile, given, Function.comp_def]

/-- Every file has the path that a written one is cleaned to. -/
theorem Manifest.exists_clean_eq_of_assemble {manifest : Manifest} {file : GeneratedFile}
    (member : file ∈ manifest.assemble) :
    ∃ path ∈ manifest.writtenPaths, path.clean = file.path := by
  have cleaned : file.path ∈ manifest.assemble.map GeneratedFile.path := List.mem_map_of_mem member
  rw [map_path_assemble] at cleaned
  exact List.mem_map.mp cleaned

/-- Every file holds an object. -/
theorem Manifest.head?_content_assemble {manifest : Manifest} {file : GeneratedFile}
    (member : file ∈ manifest.assemble) : file.content.toList.head? = some '\x7b' := by
  rcases List.mem_append.mp member with host | fragment
  · rcases List.mem_map.mp host with ⟨entry, _, rfl⟩
    exact head?_append_of_head? (Json.head?_text_object _)
  · rcases Option.map_eq_some_iff.mp (Option.mem_toList.mp fragment) with ⟨path, _, rfl⟩
    exact head?_append_of_head? (Json.head?_text_object _)

/-- The cleaned path of a file climbs first and goes down by names then. -/
theorem Path.NamesFile.isNormal {path : Path} (named : path.NamesFile) :
    path.clean.IsNormal := by
  rcases exists_clean named.relative named.notCurrent with
    ⟨climbs, names, clean, nonempty, isMove, proper, _⟩
  rw [clean]
  exact ⟨isRooted_ofMoves nonempty isMove, climbs, names, steps_ofMoves nonempty isMove,
    fun name member => ⟨(isMove name (List.mem_append_right _ member)).notCurrent,
      proper name member⟩⟩

theorem Manifest.isNormal_of_assemble {manifest : Manifest}
    (accepted : manifest.validate = .ok ()) {file : GeneratedFile}
    (member : file ∈ manifest.assemble) : file.path.IsNormal := by
  rcases exists_clean_eq_of_assemble member with ⟨path, written, clean⟩
  rw [← clean]
  exact (namesFile_of_validate accepted written).isNormal

/-! ## Different files -/

namespace Manifest

variable {manifest : Manifest}

/-- The files of an accepted manifest have different paths. -/
theorem nodup_map_path_assemble (accepted : manifest.validate = .ok ()) :
    (manifest.assemble.map GeneratedFile.path).Nodup := by
  have acceptable := validate_eq_ok_iff.mp accepted
  rw [map_path_assemble, writtenPaths, List.map_append, List.map_map, List.nodup_append]
  constructor
  · exact List.pairwise_map.mpr acceptable.outputs
  · cases given : manifest.contributes with
    | none => simp
    | some path =>
        have apart := (acceptable.contributes path given).2
        constructor
        · simp
        · intro output inOutputs fragment inFragment
          rcases List.mem_map.mp inOutputs with ⟨entry, inHosts, rfl⟩
          rw [Option.toList_some, List.map_singleton, List.mem_singleton] at inFragment
          rw [inFragment]
          exact apart entry inHosts

/-- Where no written path holds `..`, every file has the cleaned form of one that goes
down. -/
theorem exists_goesDown_of_assemble (accepted : manifest.validate = .ok ())
    (noParents : ∀ path ∈ manifest.writtenPaths, .parent ∉ path.components)
    {file : GeneratedFile} (member : file ∈ manifest.assemble) :
    ∃ path ∈ manifest.writtenPaths, path.GoesDown ∧ path.clean = file.path := by
  rcases exists_clean_eq_of_assemble member with ⟨path, written, clean⟩
  have named := namesFile_of_validate accepted written
  exact ⟨path, written,
    Path.goesDown_of_components named.relative named.notCurrent (noParents path written), clean⟩

/-- Where no written path holds `..`, no two files go to one location. -/
theorem eq_of_location_eq (accepted : manifest.validate = .ok ())
    (noParents : ∀ path ∈ manifest.writtenPaths, .parent ∉ path.components)
    {first second : GeneratedFile} (inFiles : first ∈ manifest.assemble)
    (inFiles' : second ∈ manifest.assemble) {root : Path}
    (same : (root.join first.path).location = (root.join second.path).location) :
    first = second := by
  rcases exists_goesDown_of_assemble accepted noParents inFiles with ⟨path, _, goesDown, clean⟩
  rcases exists_goesDown_of_assemble accepted noParents inFiles' with
    ⟨path', _, goesDown', clean'⟩
  rw [← clean, ← clean'] at same
  apply List.inj_on_of_nodup_map (nodup_map_path_assemble accepted) inFiles inFiles'
  rw [← clean, ← clean', goesDown.clean_inj goesDown' root same]

end Manifest

end Inset
