import Inset.Contribution.Basic
import Inset.Files
import Inset.Grammar.Injection

/-!
# Generated files

A manifest determines a list of files: the grammar of every host in order, then
the contribution fragment if there is one.  The files are written below the
directory of the manifest, or compared with what is there.
-/

namespace Inset

/-- A file made from a manifest. -/
structure GeneratedFile where
  /-- The path relative to the directory of the manifest. -/
  path : Path
  content : String
  deriving DecidableEq, Inhabited

/-- The grammar of a host of a manifest. -/
def Manifest.document (manifest : Manifest) (entry : HostEntry) : Grammar.Document :=
  Grammar.injection entry.kind entry.host manifest.embedded

/-- The file that holds the grammar of a host. -/
def Manifest.hostFile (manifest : Manifest) (entry : HostEntry) : GeneratedFile :=
  ⟨entry.output.clean, (manifest.document entry).text⟩

/-- The files of a manifest. -/
def Manifest.assemble (manifest : Manifest) : List GeneratedFile :=
  manifest.hosts.map manifest.hostFile ++
    (manifest.contributes.map fun path => ⟨path.clean, manifest.contributionText⟩).toList

/-! ## Writing -/

/-- What became of a file. -/
inductive Change
  | written
  | unchanged
  deriving DecidableEq

/-- What became of the files up to the first failure, and that failure. -/
structure WriteReport where
  changes : List (Path × Change)
  failure : Option IoError
  deriving DecidableEq

/-- How many files were written, and how many had been up to date. -/
structure WriteSummary where
  written : Nat
  unchanged : Nat
  deriving DecidableEq

namespace WriteReport

/-- Put what became of one more file in front. -/
def after (path : Path) (change : Change) (report : WriteReport) : WriteReport :=
  { report with changes := (path, change) :: report.changes }

/-- The number of files with the given fate. -/
def count (report : WriteReport) (change : Change) : Nat :=
  report.changes.countP (·.2 = change)

/-- The counts, or the failure. -/
def outcome (report : WriteReport) : Except IoError WriteSummary :=
  match report.failure with
  | some error => .error error
  | none => .ok ⟨report.count .written, report.count .unchanged⟩

end WriteReport

section

variable {m : Type → Type} [Monad m] [Files m]

/-- Write one file unless it is up to date. -/
def GeneratedFile.write (root : Path) (file : GeneratedFile) : m (Except IoError Change) := do
  let path := root.join file.path
  match ← Files.readIfExists path with
  | .error error => return .error error
  | .ok existing =>
      if existing = some file.content then return .ok .unchanged
      else
        match ← Files.writeCreating path file.content with
        | .error error => return .error error
        | .ok () => return .ok .written

/-- Write files below a directory, except those that are up to date, up to the
first failure. -/
def writeGenerated (root : Path) : List GeneratedFile → m WriteReport
  | [] => return ⟨[], none⟩
  | file :: rest => do
      match ← file.write root with
      | .error error => return ⟨[], some error⟩
      | .ok change =>
          let report ← writeGenerated root rest
          return report.after (root.join file.path) change

/-! ## Checking -/

/-- How a file differs from what would be generated. -/
inductive Difference
  | missing
  | stale
  deriving DecidableEq

/-- How one file differs, if it does. -/
def GeneratedFile.check (root : Path) (file : GeneratedFile) :
    m (Except IoError (Option Difference)) := do
  match ← Files.readIfExists (root.join file.path) with
  | .error error => return .error error
  | .ok none => return .ok (some .missing)
  | .ok (some existing) =>
      return .ok (if existing = file.content then none else some .stale)

/-- The files that differ from what is below a directory, in order. -/
def checkGenerated (root : Path) :
    List GeneratedFile → m (Except IoError (List (Path × Difference)))
  | [] => return .ok []
  | file :: rest => do
      match ← file.check root with
      | .error error => return .error error
      | .ok difference =>
          match ← checkGenerated root rest with
          | .error error => return .error error
          | .ok others =>
              return .ok ((difference.map fun kind => (file.path, kind)).toList ++ others)

end

end Inset
