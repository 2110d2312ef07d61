import Inset.Path.Basic

/-!
# File trees

A file tree assigns entries to locations.  A location lists the names on the
way from the root, the innermost one first, and the root itself is always a
directory.  Every entry lies in a directory.  What putting an entry into a tree
does is said by `get?_put`.

Names are texts, as paths are, so that an entry whose name is not UTF-8 cannot be
told of here; contents are bytes.  Entries are files, directories and links only.
Permissions, times, entries with several names and the room on a device are left
out.
-/

namespace Inset

/-- The names that lead to an entry, the innermost first. -/
abbrev Location := List String

/-- Contents are compared byte by byte. -/
local instance decidableEqBytes : DecidableEq ByteArray :=
  ByteArray.instDecidableEq

/-- What a location holds. -/
inductive Entry
  | file (bytes : ByteArray)
  | directory
  | link (target : Path)
  deriving DecidableEq

namespace FileTree

/-- The first entry listed for a location. -/
def find? : List (Location × Entry) → Location → Option Entry
  | [], _ => none
  | (listed, entry) :: rest, location =>
      if listed = location then some entry else find? rest location

/-- The entry at a location, given what is listed below the root. -/
def entryIn (entries : List (Location × Entry)) : Location → Option Entry
  | [] => some .directory
  | name :: directory => find? entries (name :: directory)

theorem find?_filter (entries : List (Location × Entry)) (keep : Location → Bool)
    (location : Location) :
    find? (entries.filter (keep ·.1)) location =
      if keep location then find? entries location else none := by
  induction entries with
  | nil => simp [find?]
  | cons entry rest ih =>
      rcases entry with ⟨listed, entry⟩
      by_cases kept : keep listed <;> by_cases same : listed = location <;>
        simp_all [find?]

/-- Listing a new entry in place of the old one changes what is at that location
and nowhere else. -/
theorem entryIn_replace (entries : List (Location × Entry)) (name : String)
    (directory : Location) (entry : Entry) (location : Location) :
    entryIn ((name :: directory, entry) ::
        entries.filter fun listed => listed.1 ≠ name :: directory) location =
      if location = name :: directory then some entry else entryIn entries location := by
  cases location with
  | nil => simp [entryIn]
  | cons last rest =>
      simp only [entryIn, find?]
      rw [find?_filter entries fun listed => listed ≠ name :: directory]
      by_cases same : last :: rest = name :: directory
      · rw [if_pos same.symm, if_pos same]
      · rw [if_neg (Ne.symm same), if_neg same, if_pos (decide_eq_true same)]

/-- Leaving out a location and everything below it changes nothing elsewhere. -/
theorem entryIn_prune (entries : List (Location × Entry)) {location : Location}
    (inner : location ≠ []) (other : Location) :
    entryIn (entries.filter fun listed => !location.isSuffixOf listed.1) other =
      if location <:+ other then none else entryIn entries other := by
  cases other with
  | nil => simp [entryIn, inner]
  | cons last rest =>
      simp only [entryIn]
      rw [find?_filter entries fun listed => !location.isSuffixOf listed]
      by_cases below : location <:+ last :: rest
      · rw [if_pos below, if_neg (by simpa using below)]
      · rw [if_neg below, if_pos (by simpa [← List.isSuffixOf_iff_suffix] using below)]

end FileTree

/-- Entries at locations, each of them in a directory. -/
structure FileTree where
  entries : List (Location × Entry)
  inDirectory : ∀ name directory,
    (FileTree.entryIn entries (name :: directory)).isSome →
      FileTree.entryIn entries directory = some .directory

namespace FileTree

/-- The tree that holds nothing but its root. -/
def empty : FileTree where
  entries := []
  inDirectory := by simp [entryIn, find?]

instance : Inhabited FileTree :=
  ⟨empty⟩

/-- The entry at a location. -/
def get? (tree : FileTree) (location : Location) : Option Entry :=
  entryIn tree.entries location

@[simp]
theorem get?_nil (tree : FileTree) : tree.get? [] = some .directory :=
  rfl

/-- An entry lies in a directory. -/
theorem get?_tail {tree : FileTree} {name : String} {directory : Location}
    (present : (tree.get? (name :: directory)).isSome) :
    tree.get? directory = some .directory :=
  tree.inDirectory name directory present

/-- Whether an entry may be put under a name into a directory: the directory is
there, and the name does not stand for a directory yet. -/
def Admits (tree : FileTree) (directory : Location) (name : String) : Prop :=
  tree.get? directory = some .directory ∧ tree.get? (name :: directory) ≠ some .directory

instance (tree : FileTree) (directory : Location) (name : String) :
    Decidable (tree.Admits directory name) :=
  inferInstanceAs (Decidable (_ ∧ _))

/-- Put an entry that is not there yet, or a new one in place of a file or
link, into a directory. -/
def put (tree : FileTree) (directory : Location) (name : String) (entry : Entry) : FileTree :=
  if admits : tree.Admits directory name then
    { entries :=
        (name :: directory, entry) ::
          tree.entries.filter fun listed => listed.1 ≠ name :: directory
      inDirectory := by
        intro last rest present
        rw [entryIn_replace] at present ⊢
        by_cases new : last :: rest = name :: directory
        · rcases List.cons.inj new with ⟨rfl, rfl⟩
          rw [if_neg (List.cons_ne_self _ _).symm]
          exact admits.1
        · rw [if_neg new] at present
          have parent := tree.inDirectory last rest present
          have other : rest ≠ name :: directory := by
            rintro rfl
            exact admits.2 parent
          rw [if_neg other]
          exact parent }
  else tree

/-- Putting an entry changes what is at its location and nowhere else. -/
theorem get?_put {tree : FileTree} {directory : Location} {name : String}
    (admits : tree.Admits directory name) (entry : Entry) (location : Location) :
    (tree.put directory name entry).get? location =
      if location = name :: directory then some entry else tree.get? location := by
  rw [put, dif_pos admits]
  exact entryIn_replace tree.entries name directory entry location

/-- Leave out the entry at a location and everything below it. -/
def erase (tree : FileTree) (location : Location) : FileTree :=
  if outermost : location = [] then tree
  else
    { entries := tree.entries.filter fun listed => !location.isSuffixOf listed.1
      inDirectory := by
        intro name directory present
        rw [entryIn_prune tree.entries outermost] at present ⊢
        split at present
        · simp at present
        · next outside =>
          have parent := tree.inDirectory name directory present
          rw [if_neg fun below => outside (below.trans (List.suffix_cons name directory))]
          exact parent }

/-- The entries below a location, with the names that lead from there to them,
the outermost first. -/
def below (tree : FileTree) (location : Location) : List (List String × Entry) :=
  tree.entries.filterMap fun (listed, entry) =>
    if location.isSuffixOf listed ∧ listed ≠ location then
      some ((listed.take (listed.length - location.length)).reverse, entry)
    else none

end FileTree

end Inset
