import Inset.Proofs.FileTree.Growth

/-!
# What the operations of a file store do to a tree

Reading a text says which file a path leads to.  Making directories and writing
a file let the tree grow: directories come only where the path and the
directories above it lead, and the one file written is then found under its path.
-/

namespace Inset.FileTree

/-! ## Locations of paths -/

/-- The location that a path leads to, whether or not there is an entry. -/
def location? (tree : FileTree) (path : Path) : Option Location :=
  match tree.resolve .look path with
  | .ok target => some target.location
  | .error _ => none

variable {tree before after : FileTree} {written made : Location → Prop} {purpose : Purpose}

theorem location?_eq_some {path : Path} {target : Target}
    (resolved : tree.resolve .look path = .ok target) :
    tree.location? path = some target.location := by
  rw [location?, resolved]

theorem location?_eq_some_iff {path : Path} {location : Location} :
    tree.location? path = some location ↔
      ∃ target, tree.resolve .look path = .ok target ∧ target.location = location := by
  rw [location?]
  cases tree.resolve .look path <;> simp

/-- A path leads to the same location after a tree has grown. -/
theorem location?_of_grows (grows : Grows before after written made) {path : Path}
    {location : Location} (leads : before.location? path = some location) :
    after.location? path = some location := by
  rcases location?_eq_some_iff.mp leads with ⟨target, resolved, rfl⟩
  rcases resolve_of_grows grows resolved with ⟨target', resolved', same, _⟩
  rw [location?_eq_some resolved', same]

/-! ## Reading -/

theorem readBytes_eq_ok_iff {path : Path} {bytes : ByteArray} :
    tree.readBytes path = .ok bytes ↔
      ∃ location, tree.resolve .look path = .ok (.found location (.file bytes) false) := by
  rw [readBytes]
  cases tree.resolve .look path with
  | error cause => simp
  | ok target =>
      cases target with
      | vacant directory name slash => simp
      | found location entry slash =>
          cases entry with
          | file found => cases slash <;> simp
          | directory => simp
          | link path => simp

/-- The bytes of a text are those and no others. -/
theorem fromUTF8?_eq_some_iff {bytes : ByteArray} {text : String} :
    String.fromUTF8? bytes = some text ↔ bytes = text.toUTF8 := by
  rw [String.fromUTF8?, String.toUTF8_eq_toByteArray]
  constructor
  · intro decoded
    split at decoded
    · rw [← Option.some.inj decoded]
      rfl
    · contradiction
  · rintro rfl
    rw [dif_pos text.isValidUTF8]
    rfl

theorem isValidUTF8_iff {bytes : ByteArray} :
    bytes.IsValidUTF8 ↔ ∃ text : String, bytes = text.toUTF8 :=
  ⟨fun valid => ⟨⟨bytes, valid⟩, rfl⟩, fun ⟨text, same⟩ => same ▸ text.isValidUTF8⟩

theorem readText_eq_ok_iff {path : Path} {text : String} :
    tree.readText path = .ok text ↔ tree.readBytes path = .ok text.toUTF8 := by
  rw [readText]
  cases tree.readBytes path with
  | error cause => simp
  | ok bytes =>
      rw [Except.ok.injEq, ← fromUTF8?_eq_some_iff]
      cases decoded : String.fromUTF8? bytes <;> simp [decoded]

/-- A file that a path leads to is read as the text that it holds. -/
theorem readText_of_resolve {path : Path} {location : Location} {text : String}
    (resolved : tree.resolve .look path = .ok (.found location (.file text.toUTF8) false)) :
    tree.readText path = .ok text :=
  readText_eq_ok_iff.mpr (readBytes_eq_ok_iff.mpr ⟨location, resolved⟩)

/-- The text of a file, nothing if there is no such file, or an error with the path. -/
def textAt (tree : FileTree) (path : Path) : Except IoError (Option String) :=
  match tree.readText path with
  | .ok text => .ok (some text)
  | .error .noEntry => .ok none
  | .error cause => .error ⟨path, cause⟩

theorem textAt_eq_some_iff {path : Path} {text : String} :
    tree.textAt path = .ok (some text) ↔ tree.readText path = .ok text := by
  rw [textAt]
  split <;> simp [*]

theorem textAt_of_noEntry {path : Path} (missing : tree.readText path = .error .noEntry) :
    tree.textAt path = .ok none := by
  rw [textAt, missing]

theorem textAt_of_error {path : Path} {cause : StoreError} (there : cause ≠ .noEntry)
    (refused : tree.readText path = .error cause) :
    tree.textAt path = .error ⟨path, cause⟩ := by
  rw [textAt, refused]
  split
  · contradiction
  · next missing => exact absurd (Except.error.inj missing) there
  · next same => rw [Except.error.inj same]

/-- A text is read exactly where a path leads to a file that holds it. -/
theorem textAt_eq_some_iff_resolve {path : Path} {text : String} :
    tree.textAt path = .ok (some text) ↔
      ∃ location, tree.resolve .look path =
        .ok (.found location (.file text.toUTF8) false) := by
  rw [textAt_eq_some_iff, readText_eq_ok_iff, readBytes_eq_ok_iff]

/-- Nothing is read where a path leads exactly if nothing is there. -/
theorem textAt_eq_none_iff {path : Path} {location : Location}
    (leads : tree.location? path = some location) :
    tree.textAt path = .ok none ↔ tree.get? location = none := by
  rcases location?_eq_some_iff.mp leads with ⟨target, resolved, rfl⟩
  rw [(resolve_fits resolved).entry, textAt, readText, readBytes, resolved]
  cases target with
  | vacant directory name slash => simp [Target.occupant?]
  | found location entry slash =>
      cases entry with
      | file bytes =>
          cases slash with
          | true => simp [Target.occupant?]
          | false => cases decoded : String.fromUTF8? bytes <;> simp [decoded, Target.occupant?]
      | directory => simp [Target.occupant?]
      | link path => simp [Target.occupant?]

/-- If nothing is read under a path, a walk can at least begin with it. -/
theorem isWalkable_of_textAt_eq_none {path : Path} (nonempty : path.text ≠ "")
    (nothing : tree.textAt path = .ok none) : IsWalkable path := by
  have noFault {cause : StoreError} (refused : tree.resolve .look path = .error cause) :
      cause = .noEntry := by
    rw [textAt, readText, readBytes, refused] at nothing
    cases cause <;> simp_all
  have noNul : '\x00' ∉ path.text.toList := by
    intro nul
    have refused : tree.resolve .look path = .error .nulInPath := by rw [resolve, if_pos nul]
    simpa using noFault refused
  refine ⟨noNul, nonempty, Nat.le_of_not_lt fun long => ?_⟩
  have refused : tree.resolve .look path = .error .nameTooLong := by
    rw [resolve, if_neg noNul, if_neg nonempty, if_pos long]
  simpa using noFault refused

theorem exists_resolve_of_isDirectory {path : Path} (isDirectory : tree.isDirectory path) :
    ∃ location slash, tree.resolve .look path = .ok (.found location .directory slash) := by
  rw [FileTree.isDirectory] at isDirectory
  split at isDirectory
  · next location slash resolved => exact ⟨location, slash, resolved⟩
  · contradiction

/-! ## Running operations -/

/-- What runs after an operation begins with its result and the tree it leaves. -/
theorem run_bind {α β : Type} {operation : StateM FileTree α} {next : α → StateM FileTree β}
    {result : α} (ran : operation.run before = (result, after)) :
    (operation >>= next).run before = (next result).run after := by
  rw [StateT.run_bind, ran]
  rfl

theorem run_readText (tree : FileTree) (path : Path) :
    (Files.readText path : StateM FileTree _).run tree = (tree.readText path, tree) :=
  rfl

theorem run_isDirectory (tree : FileTree) (path : Path) :
    (Files.isDirectory path : StateM FileTree _).run tree = (tree.isDirectory path, tree) :=
  rfl

theorem run_makeDirectory (tree : FileTree) (path : Path) :
    (Files.makeDirectory path : StateM FileTree _).run tree =
      tree.commit (tree.makeDirectory path) :=
  rfl

theorem run_writeText (tree : FileTree) (path : Path) (text : String) :
    (Files.writeText path text : StateM FileTree _).run tree =
      tree.commit (tree.writeBytes path text.toUTF8) :=
  rfl

theorem run_readIfExists (tree : FileTree) (path : Path) :
    (Files.readIfExists path : StateM FileTree _).run tree = (tree.textAt path, tree) := by
  rw [Files.readIfExists, run_bind (run_readText tree path), textAt]
  cases tree.readText path with
  | ok text => rfl
  | error cause => cases cause <;> rfl

theorem run_acceptExisting (tree : FileTree) (path : Path) (cause : StoreError) :
    (Files.acceptExisting path cause : StateM FileTree _).run tree =
      (if tree.isDirectory path then .ok () else .error cause, tree) := by
  rw [Files.acceptExisting, run_bind (run_isDirectory tree path)]
  split <;> rfl

/-- Making a directory and those above it: one step of the recursion. -/
theorem run_makeDirectoriesWithin_succ (count : Nat) (path : Path) (tree : FileTree) :
    (Files.makeDirectoriesWithin (count + 1) path : StateM FileTree _).run tree =
      match path.parent? with
      | none => (.ok (), tree)
      | some parent =>
          match tree.makeDirectory path with
          | .ok after => (.ok (), after)
          | .error .noEntry =>
              match (Files.makeDirectoriesWithin count parent : StateM FileTree _).run tree with
              | (.error cause, after) => (.error cause, after)
              | (.ok (), after) =>
                  match after.makeDirectory path with
                  | .ok made => (.ok (), made)
                  | .error cause =>
                      (if after.isDirectory path then .ok () else .error cause, after)
          | .error cause => (if tree.isDirectory path then .ok () else .error cause, tree) := by
  rw [Files.makeDirectoriesWithin]
  cases path.parent? with
  | none => rfl
  | some parent =>
      simp only
      rw [run_bind (run_makeDirectory tree path)]
      cases tree.makeDirectory path with
      | ok after => rfl
      | error cause =>
          cases cause with
          | noEntry =>
              rcases ran :
                (Files.makeDirectoriesWithin count parent : StateM FileTree _).run tree
                with ⟨result, after⟩
              simp only
              rw [run_bind ran]
              cases result with
              | error cause => rfl
              | ok =>
                  simp only
                  rw [run_bind (run_makeDirectory after path)]
                  cases after.makeDirectory path with
                  | ok made => rfl
                  | error cause => exact run_acceptExisting after path cause
          | _ => exact run_acceptExisting tree path _

/-! ## Making directories -/

/-- A directory that is made is new, and its path leads to it. -/
theorem grows_of_makeDirectory {path : Path} (making : tree.makeDirectory path = .ok after) :
    ∃ location, Grows tree after written (· = location) ∧
      after.location? path = some location := by
  rw [makeDirectory] at making
  split at making
  · contradiction
  · contradiction
  · next directory name slash resolved =>
    cases making
    have fits := resolve_fits resolved
    have grows : Grows tree (tree.put directory name .directory) written
        (· = name :: directory) := grows_put_directory fits.parent fits.entry
    have leads : tree.location? path = some (name :: directory) :=
      location?_eq_some (resolve_look resolved (by simp [Target.occupant?]))
    exact ⟨name :: directory, grows, location?_of_grows grows leads⟩

/-- Whether one of some paths leads to a location. -/
def IsReached (tree : FileTree) (paths : List Path) (location : Location) : Prop :=
  ∃ path ∈ paths, tree.location? path = some location

theorem IsReached.of_grows (grows : Grows before after written made) {paths : List Path}
    {location : Location} (reached : before.IsReached paths location) :
    after.IsReached paths location := by
  rcases reached with ⟨path, member, leads⟩
  exact ⟨path, member, location?_of_grows grows leads⟩

/-- Directories that were made where paths led are still where they lead. -/
theorem Grows.trans_isReached {first middle last : FileTree} {paths : List Path}
    (earlier : Grows first middle written (middle.IsReached paths))
    (later : Grows middle last written (last.IsReached paths)) :
    Grows first last written (last.IsReached paths) :=
  (earlier.mono (fun _ allowed => allowed) fun _ reached => reached.of_grows later).trans later

/-- Whatever comes of it, making directories makes directories only where the path
and those above it lead. -/
theorem grows_of_makeDirectoriesWithin {count : Nat} {path : Path}
    {result : Except StoreError Unit}
    (ran : (Files.makeDirectoriesWithin count path : StateM FileTree _).run tree =
      (result, after)) :
    Grows tree after written (after.IsReached (path.ancestorsWithin count)) := by
  induction count generalizing path tree after result with
  | zero =>
      cases ran
      exact .refl tree
  | succ count ih =>
      have self : path ∈ path.ancestorsWithin (count + 1) := by
        rw [Path.ancestorsWithin]
        exact List.mem_cons_self
      have made {tree after : FileTree} (making : tree.makeDirectory path = .ok after) :
          Grows tree after written (after.IsReached (path.ancestorsWithin (count + 1))) := by
        rcases grows_of_makeDirectory making with ⟨location, grows, leads⟩
        refine grows.mono (fun _ allowed => allowed) ?_
        rintro _ rfl
        exact ⟨path, self, leads⟩
      rw [run_makeDirectoriesWithin_succ] at ran
      cases above : path.parent? with
      | none =>
          rw [above] at ran
          cases ran
          exact .refl tree
      | some parent =>
          have inner {middle : FileTree} {result : Except StoreError Unit}
              (ran : (Files.makeDirectoriesWithin count parent : StateM FileTree _).run tree =
                (result, middle)) :
              Grows tree middle written (middle.IsReached (path.ancestorsWithin (count + 1))) := by
            refine (ih ran).mono (fun _ allowed => allowed) ?_
            rintro location ⟨directory, member, leads⟩
            refine ⟨directory, ?_, leads⟩
            rw [Path.ancestorsWithin, above]
            exact List.mem_cons_of_mem path member
          rw [above] at ran
          simp only at ran
          split at ran
          · next making =>
            cases ran
            exact made making
          · split at ran
            · next innerRan =>
              cases ran
              exact inner innerRan
            · next middle innerRan =>
              split at ran
              · next making =>
                cases ran
                exact (inner innerRan).trans_isReached (made making)
              · cases ran
                exact inner innerRan
          · cases ran
            exact .refl tree

/-! ## Writing files -/

/-- A file put where a path for writing leads is found under that path. -/
theorem grows_of_put_file {path : Path} {target : Target} {directory : Location}
    {name : String} (bytes : ByteArray) (resolved : tree.resolve .write path = .ok target)
    (here : target.location = name :: directory)
    (writable : target.occupant? = none ∨ ∃ old, target.occupant? = some (.file old)) :
    ∃ location, (tree.put directory name (.file bytes)).resolve .look path =
        .ok (.found location (.file bytes) false) ∧
      Grows tree (tree.put directory name (.file bytes)) (· = location) made := by
  rcases resolve_write resolved with ⟨looked, noSlash⟩
  rcases resolve_fits resolved with ⟨entry, parent⟩
  rw [here] at entry
  rw [here, List.tail_cons] at parent
  rw [← entry] at writable
  have grows : Grows tree (tree.put directory name (.file bytes)) (· = name :: directory)
      made := grows_put_file parent writable
  have written : (tree.put directory name (.file bytes)).get? (name :: directory) =
      some (.file bytes) := by
    rw [get?_put (admits_file parent writable), if_pos rfl]
  rw [← here] at written grows
  exact ⟨target.location, resolve_file_of_grows grows looked noSlash written, grows⟩

/-- A file that is written is found under its path, and nothing else changes. -/
theorem grows_of_writeBytes {path : Path} {bytes : ByteArray}
    (writing : tree.writeBytes path bytes = .ok after) :
    ∃ location, after.resolve .look path = .ok (.found location (.file bytes) false) ∧
      Grows tree after (· = location) made := by
  rw [writeBytes] at writing
  split at writing
  · contradiction
  · next name directory old slash resolved =>
    cases writing
    exact grows_of_put_file bytes resolved rfl (.inr ⟨old, rfl⟩)
  · contradiction
  · next directory name slash resolved =>
    cases writing
    exact grows_of_put_file bytes resolved rfl (.inl rfl)

/-- The directory whose path is made before a file is written: the path without its
last component, and the empty path if there is none. -/
def parentPath (path : Path) : Path :=
  path.parent?.getD ⟨""⟩

/-- Writing a file with its path in the error. -/
theorem run_writeText_reporting (path : Path) (text : String) (tree : FileTree) :
    (do match ← Files.writeText path text with
        | .error cause => return .error ⟨path, cause⟩
        | .ok () => return .ok () : StateM FileTree (Except IoError Unit)).run tree =
      match tree.writeBytes path text.toUTF8 with
      | .error cause => (.error ⟨path, cause⟩, tree)
      | .ok after => (.ok (), after) := by
  rw [run_bind (run_writeText tree path text)]
  cases tree.writeBytes path text.toUTF8 <;> rfl

/-- Writing a file and the directories above it, in steps. -/
theorem run_writeCreating (path : Path) (text : String) (tree : FileTree) :
    (Files.writeCreating path text : StateM FileTree _).run tree =
      match
        if (parentPath path).text = "" then (.ok (), tree)
        else (Files.makeDirectories (parentPath path) : StateM FileTree _).run tree
      with
      | (.error cause, middle) => (.error ⟨parentPath path, cause⟩, middle)
      | (.ok (), middle) =>
          match middle.writeBytes path text.toUTF8 with
          | .error cause => (.error ⟨path, cause⟩, middle)
          | .ok after => (.ok (), after) := by
  rw [Files.writeCreating]
  change (do
    let made ← if (parentPath path).text = "" then pure (.ok ())
      else Files.makeDirectories (parentPath path)
    _ : StateM FileTree (Except IoError Unit)).run tree = _
  split
  · exact run_writeText_reporting path text tree
  · rcases ran : (Files.makeDirectories (parentPath path) : StateM FileTree _).run tree
      with ⟨made, middle⟩
    rw [run_bind ran]
    cases made with
    | error cause => rfl
    | ok => exact run_writeText_reporting path text middle

/-- The directories above a file are made only where they are due. -/
theorem grows_of_makeParents {path : Path} {made : Except StoreError Unit}
    (ran :
      (if (parentPath path).text = "" then (.ok (), tree)
        else (Files.makeDirectories (parentPath path) : StateM FileTree _).run tree) =
      (made, after)) :
    Grows tree after written (after.IsReached (parentPath path).ancestors) := by
  split at ran
  · cases ran
    exact .refl tree
  · exact grows_of_makeDirectoriesWithin ran

/-- Writing that fails leaves at most new directories behind. -/
theorem grows_of_writeCreating_error {path : Path} {text : String} {error : IoError}
    (ran : (Files.writeCreating path text : StateM FileTree _).run tree =
      (.error error, after)) :
    Grows tree after written (after.IsReached (parentPath path).ancestors) := by
  rw [run_writeCreating] at ran
  split at ran
  · next madeParents =>
    cases ran
    exact grows_of_makeParents madeParents
  · next madeParents =>
    split at ran
    · cases ran
      exact grows_of_makeParents madeParents
    · cases ran

/-- Writing that succeeds leaves the file under its path. -/
theorem grows_of_writeCreating_ok {path : Path} {text : String}
    (ran : (Files.writeCreating path text : StateM FileTree _).run tree = (.ok (), after)) :
    ∃ location, after.resolve .look path = .ok (.found location (.file text.toUTF8) false) ∧
      Grows tree after (· = location) (after.IsReached (parentPath path).ancestors) := by
  rw [run_writeCreating] at ran
  split at ran
  · cases ran
  · next middle madeParents =>
    split at ran
    · cases ran
    · next writing =>
      cases ran
      rcases grows_of_writeBytes writing with ⟨location, found, last⟩
      exact ⟨location, found, (grows_of_makeParents madeParents).trans_isReached last⟩

end Inset.FileTree
