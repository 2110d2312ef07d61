import Inset.Proofs.FileTree.Route

/-!
# How file trees grow

The program never removes an entry.  It makes directories where nothing was, and
it writes files where nothing or another file was.  A tree that has grown in this
way still leads every path that led somewhere to the same location
(`resolve_of_grows`), however links and `..` take part in it.
-/

namespace Inset.FileTree

/-- How what a location holds may develop, given whether a file may be written
and whether a directory may be made there. -/
inductive Development (written made : Prop) : Option Entry → Option Entry → Prop
  | kept (occupant? : Option Entry) : Development written made occupant? occupant?
  | directoryMade (allowed : made) : Development written made none (some .directory)
  | fileMade (allowed : written) (bytes : ByteArray) :
      Development written made none (some (.file bytes))
  | fileReplaced (allowed : written) (old bytes : ByteArray) :
      Development written made (some (.file old)) (some (.file bytes))

namespace Development

variable {written made written' made' : Prop} {first middle last : Option Entry}

theorem mono (development : Development written made first last)
    (writtenMono : written → written') (madeMono : made → made') :
    Development written' made' first last := by
  cases development with
  | kept => exact .kept _
  | directoryMade allowed => exact .directoryMade (madeMono allowed)
  | fileMade allowed bytes => exact .fileMade (writtenMono allowed) bytes
  | fileReplaced allowed old bytes => exact .fileReplaced (writtenMono allowed) old bytes

theorem trans (before : Development written made first middle)
    (after : Development written made middle last) : Development written made first last := by
  cases before with
  | kept => exact after
  | directoryMade allowed =>
      cases after with
      | kept => exact .directoryMade allowed
  | fileMade allowed bytes =>
      cases after with
      | kept => exact .fileMade allowed bytes
      | fileReplaced _ _ bytes => exact .fileMade allowed bytes
  | fileReplaced allowed old bytes =>
      cases after with
      | kept => exact .fileReplaced allowed old bytes
      | fileReplaced _ _ bytes => exact .fileReplaced allowed old bytes

/-- Where nothing may be written, what is there stays. -/
theorem eq_of_ne_none (development : Development written made first last)
    (unwritten : ¬written) (present : first ≠ none) : last = first := by
  cases development with
  | kept => rfl
  | directoryMade => contradiction
  | fileMade allowed => contradiction
  | fileReplaced allowed => contradiction

/-- Where nothing may be written or made, nothing changes. -/
theorem eq_of_neither (development : Development written made first last)
    (unwritten : ¬written) (unmade : ¬made) : last = first := by
  cases development with
  | kept => rfl
  | directoryMade => contradiction
  | fileMade => contradiction
  | fileReplaced => contradiction

end Development

/-- Between two trees files are written at locations in `written`, directories are
made at locations in `made`, and nothing else happens. -/
def Grows (before after : FileTree) (written made : Location → Prop) : Prop :=
  ∀ location,
    Development (written location) (made location) (before.get? location) (after.get? location)

namespace Grows

variable {first middle last before after : FileTree}
  {written made written' made' : Location → Prop}

theorem refl (tree : FileTree) : Grows tree tree written made :=
  fun _ => .kept _

theorem mono (grows : Grows before after written made)
    (writtenMono : ∀ location, written location → written' location)
    (madeMono : ∀ location, made location → made' location) :
    Grows before after written' made' :=
  fun location => (grows location).mono (writtenMono location) (madeMono location)

theorem trans (before : Grows first middle written made)
    (after : Grows middle last written made) : Grows first last written made :=
  fun location => (before location).trans (after location)

theorem directory (grows : Grows before after written made) {location : Location}
    (entry : before.get? location = some .directory) :
    after.get? location = some .directory := by
  have development := grows location
  rw [entry] at development
  generalize after.get? location = occupant? at development ⊢
  cases development with
  | kept => rfl

theorem link (grows : Grows before after written made) {location : Location} {path : Path} :
    after.get? location = some (.link path) ↔ before.get? location = some (.link path) := by
  have development := grows location
  generalize before.get? location = old at development ⊢
  generalize after.get? location = new at development ⊢
  cases development <;> simp

theorem file (grows : Grows before after written made) {location : Location}
    {bytes : ByteArray} (entry : before.get? location = some (.file bytes)) :
    ∃ bytes', after.get? location = some (.file bytes') := by
  have development := grows location
  rw [entry] at development
  generalize after.get? location = occupant? at development ⊢
  cases development with
  | kept => exact ⟨bytes, rfl⟩
  | fileReplaced _ _ bytes' => exact ⟨bytes', rfl⟩

end Grows

/-! ## What one change does -/

variable {tree before after : FileTree} {written made : Location → Prop} {purpose : Purpose}

/-- Making a directory where nothing was. -/
theorem grows_put_directory {directory : Location} {name : String}
    (parent : tree.get? directory = some .directory)
    (vacant : tree.get? (name :: directory) = none) :
    Grows tree (tree.put directory name .directory) written (· = name :: directory) := by
  intro location
  rw [get?_put ⟨parent, by simp [vacant]⟩]
  split
  · next here =>
    rw [here, vacant]
    exact .directoryMade rfl
  · exact .kept _

/-- A file may be put where nothing or another file was. -/
theorem admits_file {directory : Location} {name : String}
    (parent : tree.get? directory = some .directory)
    (writable : tree.get? (name :: directory) = none ∨
      ∃ old, tree.get? (name :: directory) = some (.file old)) :
    tree.Admits directory name := by
  refine ⟨parent, ?_⟩
  rcases writable with vacant | ⟨old, file⟩ <;> simp [*]

/-- Writing a file where nothing or another file was. -/
theorem grows_put_file {directory : Location} {name : String} {bytes : ByteArray}
    (parent : tree.get? directory = some .directory)
    (writable : tree.get? (name :: directory) = none ∨
      ∃ old, tree.get? (name :: directory) = some (.file old)) :
    Grows tree (tree.put directory name (.file bytes)) (· = name :: directory) made := by
  intro location
  rw [get?_put (admits_file parent writable)]
  split
  · next here =>
    rw [here]
    rcases writable with vacant | ⟨old, file⟩
    · rw [vacant]
      exact .fileMade rfl bytes
    · rw [file]
      exact .fileReplaced rfl old bytes
  · exact .kept _

/-! ## Routes through a tree that has grown -/

/-- A route leads to the same location after a tree has grown.  Only a name that
has become a directory no longer carries the slash behind it. -/
theorem Route.of_grows (grows : Grows before after written made) {links : Nat} {slash : Bool}
    {directory : Location} {steps : List String} {target : Target}
    (route : Route before purpose links slash directory steps target) :
    ∃ target', Route after purpose links slash directory steps target' ∧
      target'.location = target.location ∧
      (target'.slash = target.slash ∨ after.get? target.location = some .directory) := by
  induction route with
  | done slash directory => exact ⟨_, .done slash directory, rfl, .inl rfl⟩
  | current later ih =>
      rcases ih with ⟨target', route, same⟩
      exact ⟨target', .current route, same⟩
  | parent later ih =>
      rcases ih with ⟨target', route, same⟩
      exact ⟨target', .parent route, same⟩
  | enter isName entry later ih =>
      rcases ih with ⟨target', route, same⟩
      exact ⟨target', .enter isName (grows.directory entry) route, same⟩
  | @vacant slash directory name isName entry =>
      cases entry' : after.get? (name :: directory) with
      | none => exact ⟨_, .vacant isName entry', rfl, .inl rfl⟩
      | some found =>
          cases found with
          | directory => exact ⟨_, .enter isName entry' (.done _ _), rfl, .inr entry'⟩
          | file bytes => exact ⟨_, .file isName entry', rfl, .inl rfl⟩
          | link path =>
              rw [grows.link, entry] at entry'
              contradiction
  | file isName entry =>
      rcases grows.file entry with ⟨bytes', entry'⟩
      exact ⟨_, .file isName entry', rfl, .inl rfl⟩
  | link isName making entry =>
      exact ⟨_, .link isName making (grows.link.mpr entry), rfl, .inl rfl⟩
  | follow isName goesOn entry later ih =>
      rcases ih with ⟨target', route, same⟩
      exact ⟨target', .follow isName goesOn (grows.link.mpr entry) route, same⟩

/-- A path leads to the same location after a tree has grown. -/
theorem resolve_of_grows (grows : Grows before after written made) {path : Path}
    {target : Target} (resolved : before.resolve purpose path = .ok target) :
    ∃ target', after.resolve purpose path = .ok target' ∧
      target'.location = target.location ∧
      (target'.slash = target.slash ∨ after.get? target.location = some .directory) := by
  rcases resolve_eq_ok_iff.mp resolved with ⟨walkable, links, few, route⟩
  rcases route.of_grows grows with ⟨target', route', same⟩
  exact ⟨target', resolve_eq_ok_iff.mpr ⟨walkable, links, few, route'⟩, same⟩

/-- A path that led to a location leads to the file that is there after the tree has
grown. -/
theorem resolve_file_of_grows (grows : Grows before after written made) {path : Path}
    {target : Target} (resolved : before.resolve purpose path = .ok target)
    (noSlash : target.slash = false) {bytes : ByteArray}
    (entry : after.get? target.location = some (.file bytes)) :
    after.resolve purpose path = .ok (.found target.location (.file bytes) false) := by
  rcases resolve_of_grows grows resolved with ⟨target', resolved', same, slash⟩
  have fits := (resolve_fits resolved').entry
  rw [same, entry] at fits
  rw [entry, noSlash] at slash
  cases target' with
  | vacant => contradiction
  | found location found slash' =>
      obtain rfl : location = target.location := same
      obtain rfl : Entry.file bytes = found := Option.some.inj fits
      obtain rfl : slash' = false := slash.resolve_right (by simp)
      exact resolved'

end Inset.FileTree
