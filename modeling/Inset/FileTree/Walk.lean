import Inset.Files
import Inset.FileTree.Basic

/-!
# Where a path leads

A path is walked name by name from the root.  Every name but the last has to
lead to a directory; links are followed on the way, at most forty of them.
What happens at the last name depends on what the path is wanted for: a link
there is followed to read or write a file, and not to make a new entry.
-/

namespace Inset

namespace Path

/-- The names, `.` and `..` that a walk along the path takes in turn. -/
def steps (path : Path) : List String :=
  path.pieces.filter (· ≠ "")

/-- The length of a path in bytes. -/
def byteCount (path : Path) : Nat :=
  path.text.utf8ByteSize

end Path

namespace FileTree

/-- What a path is wanted for. -/
inductive Purpose
  /-- To look at what is there. -/
  | look
  /-- To write a file, which need not be there yet. -/
  | write
  /-- To make an entry that is not there yet. -/
  | make
  deriving DecidableEq

/-- Where a path leads. -/
inductive Target
  /-- To an entry; the path may say by a final slash that it is a directory. -/
  | found (location : Location) (entry : Entry) (slash : Bool)
  /-- To a name that a directory does not hold. -/
  | vacant (directory : Location) (name : String) (slash : Bool)

/-- The number of bytes that a name may have. -/
def longestName : Nat := 255

/-- The number of bytes that a path may have. -/
def longestPath : Nat := 4095

/-- The number of links that a walk may follow. -/
def mostLinks : Nat := 40

/-- Walk from a directory, given how to go on after a link. -/
def walk (tree : FileTree) (purpose : Purpose)
    (follow : Bool → Location → List String → Except StoreError Target) (slash : Bool)
    (directory : Location) : List String → Except StoreError Target
  | [] => .ok (.found directory .directory false)
  | step :: rest =>
      if step = "." then walk tree purpose follow slash directory rest
      else if step = ".." then walk tree purpose follow slash directory.tail rest
      else if rest = [] ∧ slash ∧ purpose = .write then .error .isDirectory
      else if longestName < step.utf8ByteSize then .error .nameTooLong
      else
        match tree.get? (step :: directory) with
        | none => if rest = [] then .ok (.vacant directory step slash) else .error .noEntry
        | some .directory => walk tree purpose follow slash (step :: directory) rest
        | some (.file bytes) =>
            if rest = [] then .ok (.found (step :: directory) (.file bytes) slash)
            else .error .notDirectory
        | some (.link target) =>
            if rest = [] ∧ purpose = .make then
              .ok (.found (step :: directory) (.link target) slash)
            else
              follow (slash || (rest.isEmpty && target.endsInSlash))
                (if target.isRooted then [] else directory) (target.steps ++ rest)

/-- Walk from a directory, following at most the given number of links. -/
def walkWithin (tree : FileTree) (purpose : Purpose) :
    Nat → Bool → Location → List String → Except StoreError Target
  | 0 => tree.walk purpose fun _ _ _ => .error .tooManyLinks
  | links + 1 => tree.walk purpose (tree.walkWithin purpose links)

/-- Where a path leads from the root. -/
def resolve (tree : FileTree) (purpose : Purpose) (path : Path) : Except StoreError Target :=
  if '\x00' ∈ path.text.toList then .error .nulInPath
  else if path.text = "" then .error .noEntry
  else if longestPath < path.byteCount then .error .nameTooLong
  else tree.walkWithin purpose mostLinks path.endsInSlash [] path.steps

end FileTree

end Inset
