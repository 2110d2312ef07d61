import Inset.Manifest.Reading
import Inset.Manifest.Validation
import Inset.Toml.Report
import Inset.Toml.Tree

/-!
# Manifests in TOML

A manifest file is read in three steps, each with errors of its own: the text
has to be TOML, its data has to be a manifest, and the manifest has to be
accepted.
-/

namespace Inset

/-- Why a text is not an accepted manifest. -/
inductive ManifestError
  /-- The text is not TOML; this is the report. -/
  | notToml (report : String)
  /-- The text is TOML, but its data is not a manifest; this is the report. -/
  | data (report : String)
  /-- The manifest is not accepted. -/
  | configuration (error : ConfigurationError)
  deriving DecidableEq

/-- The wording of an error in a manifest. -/
def ManifestError.message : ManifestError → String
  | notToml report => "invalid manifest: " ++ report
  | data report => "invalid manifest: " ++ report
  | configuration error => "invalid manifest configuration: " ++ error.message

/-- The accepted manifest that a text holds. -/
def Manifest.ofToml (text : String) : Except ManifestError Manifest :=
  let chars := text.toList
  match Toml.readNode chars with
  | .error fault => .error (.notToml (Toml.faultReport chars fault))
  | .ok node =>
      match Manifest.read .toml node with
      | .error misfit => .error (.data (Toml.misfitReport chars misfit))
      | .ok manifest =>
          match manifest.validate with
          | .error error => .error (.configuration error)
          | .ok () => .ok manifest

end Inset
