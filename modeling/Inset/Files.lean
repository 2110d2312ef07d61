import Inset.Path.Basic

/-!
# File stores

What the program needs of a file store is small: read a text, make one
directory, ask whether there is a directory, write a text.  Everything else is
built on that, so that the same definitions run on a disk and on a file tree.
-/

namespace Inset

/-- Why a file store refuses. -/
inductive StoreError
  | noEntry
  | notDirectory
  | isDirectory
  | exists
  | nameTooLong
  | tooManyLinks
  /-- The bytes of a file are not a text. -/
  | notText
  /-- A path holds a character that no path can hold. -/
  | nulInPath
  /-- Any other reason, in the words of the store. -/
  | other (message : String)
  deriving DecidableEq

/-- The wording of the reason of a file store. -/
def StoreError.message : StoreError → String
  | noEntry => "No such file or directory (os error 2)"
  | notDirectory => "Not a directory (os error 20)"
  | isDirectory => "Is a directory (os error 21)"
  | .exists => "File exists (os error 17)"
  | nameTooLong => "File name too long (os error 36)"
  | tooManyLinks => "Too many levels of symbolic links (os error 40)"
  | notText => "stream did not contain valid UTF-8"
  | nulInPath => "file name contained an unexpected NUL byte"
  | other message => message

/-- The reason of a file store, with the path it is about. -/
structure IoError where
  path : Path
  cause : StoreError
  deriving DecidableEq

/-- The wording of an error of a file store. -/
def IoError.message (error : IoError) : String :=
  error.path.text ++ ": " ++ error.cause.message

/-- A monad with a file store. -/
class Files (m : Type → Type) where
  /-- The text of a file. -/
  readText : Path → m (Except StoreError String)
  /-- Make a directory in one that exists. -/
  makeDirectory : Path → m (Except StoreError Unit)
  /-- Whether a path leads to a directory. -/
  isDirectory : Path → m Bool
  /-- Write a file in a directory that exists. -/
  writeText : Path → String → m (Except StoreError Unit)

namespace Files

variable {m : Type → Type} [Monad m] [Files m]

/-- The text of a file, or nothing if there is no such file. -/
def readIfExists (path : Path) : m (Except IoError (Option String)) := do
  match ← readText path with
  | .ok text => return .ok (some text)
  | .error .noEntry => return .ok none
  | .error cause => return .error ⟨path, cause⟩

/-- The outcome of making a directory: it is no failure if the directory is
there already. -/
def acceptExisting (path : Path) (cause : StoreError) : m (Except StoreError Unit) := do
  if ← isDirectory path then return .ok () else return .error cause

/-- Make a directory and the directories above it, of which at most as many as
given are missing. -/
def makeDirectoriesWithin : Nat → Path → m (Except StoreError Unit)
  | 0, _ => return .ok ()
  | count + 1, path => do
      match path.parent? with
      | none => return .ok ()
      | some parent =>
          match ← makeDirectory path with
          | .ok () => return .ok ()
          | .error .noEntry =>
              match ← makeDirectoriesWithin count parent with
              | .error cause => return .error cause
              | .ok () =>
                  match ← makeDirectory path with
                  | .ok () => return .ok ()
                  | .error cause => acceptExisting path cause
          | .error cause => acceptExisting path cause

/-- Make a directory and the directories above it that are missing. -/
def makeDirectories (path : Path) : m (Except StoreError Unit) :=
  makeDirectoriesWithin path.pieces.length path

/-- Write a file, making the directories above it that are missing. -/
def writeCreating (path : Path) (text : String) : m (Except IoError Unit) := do
  let parent := path.parent?.getD ⟨""⟩
  let made ← if parent.text = "" then pure (.ok ()) else makeDirectories parent
  match made with
  | .error cause => return .error ⟨parent, cause⟩
  | .ok () =>
      match ← writeText path text with
      | .error cause => return .error ⟨path, cause⟩
      | .ok () => return .ok ()

end Files

end Inset
