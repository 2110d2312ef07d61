import Inset.Files
import Inset.Text.Quoted

/-!
# Finding the manifest

A manifest that is named is looked for where it is named, seen from the working
directory.  Otherwise the working directory and the directories above it are
searched, and the nearest manifest is taken.  A file that cannot be read ends
the search.
-/

namespace Inset.Command

/-- The name of manifest files. -/
def manifestFileName : Path := ⟨"inlang.toml"⟩

/-- A manifest file and its text. -/
structure FoundManifest where
  path : Path
  directory : Path
  text : String
  deriving DecidableEq

/-- Why no manifest is found. -/
inductive DiscoveryError
  | unreadable (error : IoError)
  | noDirectory (path : Path)
  | missing (path : Path)
  | nowhere (directory : Path)
  deriving DecidableEq

/-- The wording of a failed search. -/
def DiscoveryError.message : DiscoveryError → String
  | unreadable error => "Failed to read manifest file: " ++ error.message
  | noDirectory path =>
      "Manifest path " ++ Text.quoted path.text ++ " does not have a parent directory"
  | missing path => "Manifest file " ++ Text.quoted path.text ++ " does not exist"
  | nowhere directory =>
      "No manifest file `" ++ manifestFileName.text ++
        "` found in any parent directory of the current working directory " ++
        Text.quoted directory.text

/-- Where a manifest is looked for. -/
def candidates (directory : Path) : Option Path → List Path
  | some path => [(directory.join path).clean]
  | none => directory.ancestors.map (·.join manifestFileName)

variable {m : Type → Type} [Monad m] [Files m]

/-- The first of the candidates that is there. -/
def firstFound : List Path → m (Except DiscoveryError (Option FoundManifest))
  | [] => return .ok none
  | path :: rest => do
      match ← Files.readIfExists path with
      | .error error => return .error (.unreadable error)
      | .ok none => firstFound rest
      | .ok (some text) =>
          match path.parent? with
          | none => return .error (.noDirectory path)
          | some directory => return .ok (some ⟨path, directory, text⟩)

/-- Find the manifest that is named, or the nearest one. -/
def findManifest (directory : Path) (named : Option Path) :
    m (Except DiscoveryError FoundManifest) := do
  match ← firstFound (candidates directory named) with
  | .error error => return .error error
  | .ok (some found) => return .ok found
  | .ok none =>
      match named with
      | some path => return .error (.missing path)
      | none => return .error (.nowhere directory)

end Inset.Command
