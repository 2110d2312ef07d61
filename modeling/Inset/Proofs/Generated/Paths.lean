import Inset.Proofs.Generated.Assembly
import Inset.Proofs.Generated.Reading
import Inset.Proofs.Path.NormalForm

/-!
# The paths of the files of a manifest

An accepted manifest has one file for each host, in their order, and after them the
fragment if there is one.  Their paths differ from one another and are in normal form, so
that cleaning them again changes nothing (`assemble_paths_normal`).
-/

namespace Inset.Manifest

variable {manifest : Manifest}

/-- Whether files are those of a manifest: one for each host, with its grammar, and then
one for the fragment if there is one. -/
def AreFiles (manifest : Manifest) (files : List GeneratedFile) : Prop :=
  ∃ grammars fragment, files = grammars ++ fragment ∧
    List.Forall₂ (fun entry file => file.path = entry.output.clean ∧
      Grammar.Document.ofText file.content = .ok (manifest.document entry))
      manifest.hosts grammars ∧
    List.Forall₂ (fun path file => file.path = path.clean ∧
      Contributes.ofText file.content = .ok manifest.contribution)
      manifest.contributes.toList fragment

theorem areFiles_assemble (manifest : Manifest) : manifest.AreFiles manifest.assemble := by
  refine ⟨manifest.hosts.map manifest.hostFile, _, rfl, ?_, ?_⟩
  · rw [List.forall₂_map_right_iff, List.forall₂_same]
    exact fun entry _ => ⟨rfl, (manifest.document entry).ofText_text⟩
  · cases manifest.contributes with
    | none => exact .nil
    | some path =>
        exact .cons ⟨rfl, (Contributes.ofText_json_text manifest.contribution).2⟩ .nil

theorem isNormalForm_of_assemble (accepted : manifest.validate = .ok ())
    {file : GeneratedFile} (member : file ∈ manifest.assemble) : file.path.IsNormalForm := by
  rcases exists_clean_eq_of_assemble member with ⟨path, written, clean⟩
  have named := namesFile_of_validate accepted written
  exact clean ▸ Path.isNormalForm_clean named.relative named.notCurrent

/-- The files of an accepted manifest are one for each host and the fragment.  No two of
them have one path, and every path is relative, neither empty nor `.`, without a slash at
its end and in normal form, and clean. -/
theorem assemble_paths_normal (accepted : manifest.validate = .ok ()) :
    manifest.AreFiles manifest.assemble ∧
    (manifest.assemble.map GeneratedFile.path).Nodup ∧
    ∀ file ∈ manifest.assemble,
      file.path.isRooted = false ∧ file.path.text ≠ "" ∧ file.path ≠ ⟨"."⟩ ∧
      file.path.endsInSlash = false ∧ file.path.IsNormalForm ∧ file.path.clean = file.path := by
  refine ⟨manifest.areFiles_assemble, nodup_map_path_assemble accepted, fun file member => ?_⟩
  have normal := isNormalForm_of_assemble accepted member
  exact ⟨normal.relative, normal.nonempty, normal.notCurrent, normal.endsInSlash_eq_false, normal,
    normal.clean_eq_self⟩

/-- A manifest with detours, climbs and needless slashes in its paths. -/
def spelledOut : Manifest where
  contributes := some ⟨"./c.json//"⟩
  hosts := [⟨.go, "v", "s", ⟨"x/../..//y/./g.json"⟩, none⟩, ⟨.go, "w", "s", ⟨"a/b/../../.."⟩, none⟩]
  embedded := []

theorem assemble_paths_normal_spelledOut :
    spelledOut.validate = .ok () ∧
      spelledOut.assemble.map GeneratedFile.path = [⟨"../y/g.json"⟩, ⟨".."⟩, ⟨"c.json"⟩] ∧
      spelledOut.AreFiles spelledOut.assemble ∧
      ∀ file ∈ spelledOut.assemble, file.path.IsNormalForm ∧ file.path.clean = file.path := by
  have accepted : spelledOut.validate = .ok () := by decide
  have paths : spelledOut.assemble.map GeneratedFile.path =
      [⟨"../y/g.json"⟩, ⟨".."⟩, ⟨"c.json"⟩] := by
    rw [map_path_assemble]
    decide
  rcases assemble_paths_normal accepted with ⟨files, _, each⟩
  exact ⟨accepted, paths, files, fun file member => (each file member).2.2.2.2⟩

end Inset.Manifest
