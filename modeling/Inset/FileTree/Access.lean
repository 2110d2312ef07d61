import Inset.FileTree.Walk

/-!
# Reading and writing file trees

A file tree is a file store: a computation on it takes the tree before and
gives the tree after.  Only making a directory and writing a file change it.
-/

namespace Inset

namespace FileTree

/-- The bytes of the file that a path leads to. -/
def readBytes (tree : FileTree) (path : Path) : Except StoreError ByteArray :=
  match tree.resolve .look path with
  | .error cause => .error cause
  | .ok (.found _ (.file bytes) slash) => if slash then .error .notDirectory else .ok bytes
  | .ok (.found _ .directory _) => .error .isDirectory
  | .ok (.found _ (.link _) _) => .error .tooManyLinks
  | .ok (.vacant _ _ _) => .error .noEntry

/-- The text of the file that a path leads to. -/
def readText (tree : FileTree) (path : Path) : Except StoreError String :=
  match tree.readBytes path with
  | .error cause => .error cause
  | .ok bytes =>
      match String.fromUTF8? bytes with
      | some text => .ok text
      | none => .error .notText

/-- Whether a path leads to a directory. -/
def isDirectory (tree : FileTree) (path : Path) : Bool :=
  match tree.resolve .look path with
  | .ok (.found _ .directory _) => true
  | _ => false

/-- Make a directory in one that exists. -/
def makeDirectory (tree : FileTree) (path : Path) : Except StoreError FileTree :=
  match tree.resolve .make path with
  | .error cause => .error cause
  | .ok (.found _ _ _) => .error .exists
  | .ok (.vacant directory name _) => .ok (tree.put directory name .directory)

/-- Write a file in a directory that exists. -/
def writeBytes (tree : FileTree) (path : Path) (bytes : ByteArray) :
    Except StoreError FileTree :=
  match tree.resolve .write path with
  | .error cause => .error cause
  | .ok (.found (name :: directory) (.file _) _) => .ok (tree.put directory name (.file bytes))
  | .ok (.found _ _ _) => .error .isDirectory
  | .ok (.vacant directory name _) => .ok (tree.put directory name (.file bytes))

/-- Make a link in a directory that exists. -/
def makeLink (tree : FileTree) (path target : Path) : Except StoreError FileTree :=
  if target.text = "" then .error .noEntry
  else
    match tree.resolve .make path with
    | .error cause => .error cause
    | .ok (.found _ _ _) => .error .exists
    | .ok (.vacant directory name slash) =>
        if slash then .error .noEntry else .ok (tree.put directory name (.link target))

/-- Go on with the changed tree, or stay at the tree and report why not. -/
def commit (tree : FileTree) : Except StoreError FileTree → Except StoreError Unit × FileTree
  | .ok changed => (.ok (), changed)
  | .error cause => (.error cause, tree)

/-- Whether a path ends in the name of the directory that it leads to.  A path that
ends in a link or in dots does not. -/
def namesDirectory (tree : FileTree) (path : Path) : Bool :=
  match path.steps.getLast? with
  | none => false
  | some step =>
      step ≠ "." && step ≠ ".." &&
        match tree.resolve .make path with
        | .ok (.found _ .directory _) => true
        | _ => false

/-- Remove an entry and everything below it.  A link is removed itself, unless the
path says by a final slash that it is a directory.  A directory under another
name than its own is emptied, but it stays. -/
def remove (tree : FileTree) (path : Path) : Except StoreError Unit × FileTree :=
  match tree.resolve (if path.endsInSlash then .look else .make) path with
  | .error cause => (.error cause, tree)
  | .ok (.vacant _ _ _) => (.error .noEntry, tree)
  | .ok (.found location .directory _) =>
      let emptied := tree.erase location
      if tree.namesDirectory path then (.ok (), emptied)
      else
        let kept := match location with
          | [] => emptied
          | name :: directory => emptied.put directory name .directory
        (.error (.other "Invalid argument (os error 22)"), kept)
  | .ok (.found location _ slash) =>
      if slash then (.error .notDirectory, tree) else (.ok (), tree.erase location)

instance : Files (StateM FileTree) where
  readText path := fun tree => (tree.readText path, tree)
  makeDirectory path := fun tree => tree.commit (tree.makeDirectory path)
  isDirectory path := fun tree => (tree.isDirectory path, tree)
  writeText path text := fun tree => tree.commit (tree.writeBytes path text.toUTF8)

end FileTree

end Inset
