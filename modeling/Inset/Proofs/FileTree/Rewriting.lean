import Inset.Proofs.FileTree.Store
import Inset.Proofs.Path.Steps

/-!
# Writing a file that is there

Where a path leads to a file, its parent leads to a directory, however links and `..`
take part in it (`isDirectory_of_parent`).  So making the directories above the file
again changes nothing, and the file can be written again in its place
(`exists_writeCreating_of_resolve`).
-/

namespace Inset.FileTree

variable {tree : FileTree} {purpose : Purpose} {links : Nat} {slash : Bool}
  {directory location : Location} {bytes : ByteArray}

/-! ## Routes -/

/-- The steps before the end of a route lead to a directory. -/
theorem Route.before {steps front back : List String} {target : Target}
    (route : Route tree purpose links slash directory steps target)
    (split : steps = front ++ back) (goesOn : back ≠ []) :
    ∃ earlier ≤ links, ∃ location, ∀ slash,
      Route tree .look earlier slash directory front (.found location .directory false) := by
  have lookedUp {slash slash' : Bool} {name : String} {rest rest' : List String}
      (isName : IsName purpose slash name rest) : IsName .look slash' name rest' :=
    ⟨isName.notCurrent, isName.notParent, by simp, isName.short⟩
  have start {front : List String} (links : Nat) (directory : Location)
      (none : front = []) : ∃ earlier ≤ links, ∃ location, ∀ slash,
        Route tree .look earlier slash directory front (.found location .directory false) :=
    ⟨0, Nat.zero_le _, directory, fun slash => none ▸ .done slash directory⟩
  have alone {name : String} {front : List String} (split : [name] = front ++ back) :
      front = [] := by
    cases front with
    | nil => rfl
    | cons step front =>
        exact absurd (List.append_eq_nil_iff.mp (List.cons.inj split).2.symm).2 goesOn
  induction route generalizing front with
  | done slash directory => exact absurd (List.append_eq_nil_iff.mp split.symm).2 goesOn
  | current later ih =>
      cases front with
      | nil => exact start _ _ rfl
      | cons step front =>
          obtain ⟨rfl, rest_eq⟩ := List.cons.inj split
          rcases ih rest_eq with ⟨earlier, few, location, route⟩
          exact ⟨earlier, few, location, fun slash => .current (route slash)⟩
  | parent later ih =>
      cases front with
      | nil => exact start _ _ rfl
      | cons step front =>
          obtain ⟨rfl, rest_eq⟩ := List.cons.inj split
          rcases ih rest_eq with ⟨earlier, few, location, route⟩
          exact ⟨earlier, few, location, fun slash => .parent (route slash)⟩
  | enter isName entry later ih =>
      cases front with
      | nil => exact start _ _ rfl
      | cons step front =>
          obtain ⟨rfl, rest_eq⟩ := List.cons.inj split
          rcases ih rest_eq with ⟨earlier, few, location, route⟩
          exact ⟨earlier, few, location, fun slash =>
            .enter (lookedUp isName) entry (route slash)⟩
  | vacant => exact start _ _ (alone split)
  | file => exact start _ _ (alone split)
  | link => exact start _ _ (alone split)
  | @follow links _ directory _ rest path _ isName _ entry later ih =>
      cases front with
      | nil => exact start _ _ rfl
      | cons step front =>
          -- The steps of the link come before those that are left of the front.
          obtain ⟨rfl, rest_eq⟩ := List.cons.inj split
          have longer : path.steps ++ rest = (path.steps ++ front) ++ back := by
            rw [List.append_assoc]
            exact congrArg (path.steps ++ ·) rest_eq
          rcases ih longer with ⟨earlier, few, location, route⟩
          exact ⟨earlier + 1, Nat.succ_le_succ few, location, fun slash =>
            .follow (lookedUp isName) (by simp) entry (route _)⟩

/-- A name that leads somewhere is taken when a new entry is to be made. -/
theorem Route.make {steps : List String} {target : Target}
    (route : Route tree .look links slash directory steps target)
    (present : target.occupant? ≠ none) :
    ∃ fewer ≤ links, ∃ location entry slash',
      Route tree .make fewer slash directory steps (.found location entry slash') := by
  have lookedUp {slash : Bool} {name : String} {rest : List String}
      (isName : IsName .look slash name rest) : IsName .make slash name rest :=
    { isName with writable := by simp }
  induction route with
  | done slash directory => exact ⟨0, Nat.le_refl 0, _, _, _, .done slash directory⟩
  | current later ih =>
      rcases ih present with ⟨fewer, few, location, entry, slash', route⟩
      exact ⟨fewer, few, location, entry, slash', .current route⟩
  | parent later ih =>
      rcases ih present with ⟨fewer, few, location, entry, slash', route⟩
      exact ⟨fewer, few, location, entry, slash', .parent route⟩
  | enter isName entered later ih =>
      rcases ih present with ⟨fewer, few, location, entry, slash', route⟩
      exact ⟨fewer, few, location, entry, slash', .enter (lookedUp isName) entered route⟩
  | vacant isName entry => exact absurd rfl present
  | file isName entry => exact ⟨0, Nat.le_refl 0, _, _, _, .file (lookedUp isName) entry⟩
  | link isName making entry => contradiction
  | @follow links _ _ _ rest path _ isName _ linked later ih =>
      by_cases last : rest = []
      · -- The link itself is in the way.
        subst last
        exact ⟨0, Nat.zero_le _, _, _, _, .link (lookedUp isName) rfl linked⟩
      · rcases ih present with ⟨fewer, few, location, entry, slash', route⟩
        exact ⟨fewer + 1, Nat.succ_le_succ few, location, entry, slash',
          .follow (lookedUp isName) (fun making => last making.1) linked route⟩

/-- A route that insists on a directory on the way still does so at a file. -/
theorem Route.slash_of_file {steps : List String} {slash' : Bool}
    (route : Route tree purpose links slash directory steps
      (.found location (.file bytes) slash')) (insists : slash = true) : slash' = true := by
  generalize arrived : Target.found location (.file bytes) slash' = target at route
  induction route with
  | done => cases arrived
  | current later ih => exact ih insists arrived
  | parent later ih => exact ih insists arrived
  | enter isName entry later ih => exact ih insists arrived
  | vacant => cases arrived
  | file isName entry =>
      cases arrived
      exact insists
  | link => cases arrived
  | follow isName goesOn entry later ih => exact ih (by simp [insists]) arrived

/-- A route to a file, if it does not say that it leads to a directory, is one for
writing. -/
theorem Route.write {steps : List String}
    (route : Route tree .look links slash directory steps
      (.found location (.file bytes) false)) :
    Route tree .write links slash directory steps (.found location (.file bytes) false) := by
  have writable {slash : Bool} {name : String} {rest : List String}
      (isName : IsName .look slash name rest) (silent : slash = false ∨ rest ≠ []) :
      IsName .write slash name rest :=
    { isName with writable := by rcases silent with rfl | more <;> simp_all }
  generalize arrived : Target.found location (.file bytes) false = target at route
  induction route with
  | done => cases arrived
  | current later ih => exact .current (ih arrived)
  | parent later ih => exact .parent (ih arrived)
  | enter isName entry later ih =>
      refine .enter (writable isName (.inr ?_)) entry (ih arrived)
      rintro rfl
      cases later
      cases arrived
  | vacant => cases arrived
  | file isName entry =>
      cases arrived
      exact .file (writable isName (.inl rfl)) entry
  | link => cases arrived
  | @follow _ slash _ _ rest _ _ isName goesOn entry later ih =>
      subst arrived
      have silent : slash = false := by
        by_contra loud
        have insists : slash = true := by simpa using loud
        simpa using later.slash_of_file (by simp [insists])
      exact .follow (writable isName (.inl silent)) (by simp) entry (ih rfl)

/-! ## Paths -/

/-- A path that leads to a file leads there for writing, too. -/
theorem resolve_write_of_file {path : Path}
    (resolved : tree.resolve .look path = .ok (.found location (.file bytes) false)) :
    tree.resolve .write path = .ok (.found location (.file bytes) false) := by
  rw [resolve_eq_ok_iff] at resolved ⊢
  rcases resolved with ⟨walkable, links, few, route⟩
  exact ⟨walkable, links, few, route.write⟩

/-- The parent of a path that leads somewhere leads to a directory. -/
theorem isDirectory_of_parent {path parent : Path} {target : Target}
    (resolved : tree.resolve purpose path = .ok target) (above : path.parent? = some parent)
    (nonempty : parent.text ≠ "") : tree.isDirectory parent := by
  rcases resolve_eq_ok_iff.mp resolved with ⟨walkable, links, few, route⟩
  rcases Path.steps_of_parent above with ⟨step, rest, split⟩
  rcases route.before split (List.cons_ne_nil step rest) with
    ⟨earlier, fewer, location, earlierRoute⟩
  have begins := Path.isPrefix_of_parent above
  have parentWalkable : IsWalkable parent :=
    { noNul := fun nul => walkable.noNul (begins.subset nul)
      nonempty := nonempty
      short := (Path.byteCount_le_of_isPrefix begins).trans walkable.short }
  have found : tree.resolve .look parent = .ok (.found location .directory false) :=
    resolve_eq_ok_iff.mpr ⟨parentWalkable, earlier, fewer.trans few, earlierRoute _⟩
  rw [isDirectory, found]

/-! ## Making and writing again -/

/-- A directory that is there cannot be made. -/
theorem makeDirectory_of_isDirectory {path : Path} (isDirectory : tree.isDirectory path) :
    tree.makeDirectory path = .error .exists := by
  rcases exists_resolve_of_isDirectory isDirectory with ⟨_, _, resolved⟩
  rcases resolve_eq_ok_iff.mp resolved with ⟨walkable, links, few, route⟩
  rcases route.make (by simp [Target.occupant?]) with
    ⟨fewer, less, location, entry, slash, made⟩
  have taken : tree.resolve .make path = .ok (.found location entry slash) :=
    resolve_eq_ok_iff.mpr ⟨walkable, fewer, less.trans few, made⟩
  rw [makeDirectory, taken]

/-- Making a directory that is there, with those above it, changes nothing. -/
theorem run_makeDirectories_of_isDirectory {path : Path}
    (isDirectory : tree.isDirectory path) :
    (Files.makeDirectories path : StateM FileTree _).run tree = (.ok (), tree) := by
  obtain ⟨count, pieces⟩ : ∃ count, path.pieces.length = count + 1 :=
    Nat.exists_eq_add_one.mpr (List.length_pos_of_ne_nil path.pieces_ne_nil)
  rw [Files.makeDirectories, pieces, run_makeDirectoriesWithin_succ]
  cases path.parent? with
  | none => rfl
  | some parent => simp [makeDirectory_of_isDirectory isDirectory, isDirectory]

/-- A file that is there can be written again: it gets the new text in its place, and
nothing else happens. -/
theorem exists_writeCreating_of_resolve {path : Path} (text : String)
    (resolved : tree.resolve .look path = .ok (.found location (.file bytes) false)) :
    ∃ after,
      (Files.writeCreating path text : StateM FileTree _).run tree = (.ok (), after) ∧
      after.get? location = some (.file text.toUTF8) ∧
      Grows tree after (· = location) fun _ => False := by
  have made : (if (parentPath path).text = "" then (.ok (), tree)
      else (Files.makeDirectories (parentPath path) : StateM FileTree _).run tree) =
      (.ok (), tree) := by
    split
    · rfl
    · next nonempty =>
      apply run_makeDirectories_of_isDirectory
      rw [parentPath] at nonempty ⊢
      cases above : path.parent? with
      | none => simp [above] at nonempty
      | some parent =>
          rw [above] at nonempty
          exact isDirectory_of_parent resolved above nonempty
  obtain ⟨name, directory, rfl⟩ : ∃ name directory, location = name :: directory := by
    apply List.exists_cons_of_ne_nil
    rintro rfl
    simpa using get?_of_resolve resolved
  have writing : tree.writeBytes path text.toUTF8 =
      .ok (tree.put directory name (.file text.toUTF8)) := by
    rw [writeBytes, resolve_write_of_file resolved]
  rcases grows_of_writeBytes writing with ⟨location, found, grows⟩
  have same : location = name :: directory := by
    have leads := location?_of_grows grows (location?_eq_some resolved)
    rw [location?_eq_some found] at leads
    exact Option.some.inj leads
  refine ⟨_, ?_, same ▸ get?_of_resolve found, same ▸ grows⟩
  rw [run_writeCreating, made]
  simp only [writing]

end Inset.FileTree
