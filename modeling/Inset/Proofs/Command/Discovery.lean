import Inset.Command.Discovery
import Inset.Proofs.FileTree.Store
import Inset.Proofs.Path.Absolute

/-!
# Where a manifest is found

A search finds the first of its candidates that is there, and leaves the tree alone.
The candidates before it lead to nothing (`findManifest_eq_ok_iff`).
-/

namespace Inset.Command

open FileTree

variable {tree : FileTree} {directory : Path} {named : Option Path} {found : FoundManifest}

theorem isMove_manifestFileName : Path.IsMove "inlang.toml" :=
  ⟨by decide, by decide, by decide⟩

/-- Whether a manifest is found in a list of paths, after those in `nearer`. -/
structure IsFirst (tree : FileTree) (paths nearer : List Path) (found : FoundManifest) :
    Prop where
  split : ∃ farther, paths = nearer ++ found.path :: farther
  vacant : ∀ path ∈ nearer, tree.textAt path = .ok none
  text : tree.textAt found.path = .ok (some found.text)
  above : found.path.parent? = some found.directory

/-- Searching a list, one step of the recursion. -/
theorem run_firstFound_cons (path : Path) (rest : List Path) (tree : FileTree) :
    (firstFound (path :: rest) : StateM FileTree _).run tree =
      match tree.textAt path with
      | .error error => (.error (.unreadable error), tree)
      | .ok none => (firstFound rest : StateM FileTree _).run tree
      | .ok (some text) =>
          match path.parent? with
          | none => (.error (.noDirectory path), tree)
          | some directory => (.ok (some ⟨path, directory, text⟩), tree) := by
  rw [firstFound, run_bind (run_readIfExists tree path)]
  cases tree.textAt path with
  | error error => rfl
  | ok text =>
      cases text with
      | none => rfl
      | some text => cases path.parent? <;> rfl

/-- A search leaves the tree alone. -/
theorem exists_run_firstFound (paths : List Path) (tree : FileTree) :
    ∃ result, (firstFound paths : StateM FileTree _).run tree = (result, tree) := by
  induction paths with
  | nil => exact ⟨_, rfl⟩
  | cons path rest ih =>
      rw [run_firstFound_cons]
      split
      · exact ⟨_, rfl⟩
      · exact ih
      · split <;> exact ⟨_, rfl⟩

theorem run_firstFound_eq_some_iff {paths : List Path} :
    (firstFound paths : StateM FileTree _).run tree = (.ok (some found), tree) ↔
      ∃ nearer, IsFirst tree paths nearer found := by
  induction paths with
  | nil =>
      constructor
      · intro ran
        cases ran
      · rintro ⟨nearer, ⟨farther, split⟩, _⟩
        simp at split
  | cons path rest ih =>
      rw [run_firstFound_cons]
      constructor
      · intro ran
        split at ran
        · cases ran
        · next vacant =>
          rcases ih.mp ran with ⟨nearer, ⟨farther, split⟩, vacantNearer, text, above⟩
          refine ⟨path :: nearer, ⟨farther, by rw [split, List.cons_append]⟩, ?_, text, above⟩
          exact List.forall_mem_cons.mpr ⟨vacant, vacantNearer⟩
        · next text read =>
          split at ran
          · cases ran
          · next parent above =>
            cases ran
            exact ⟨[], ⟨rest, rfl⟩, by simp, read, above⟩
      · rintro ⟨nearer, ⟨farther, split⟩, vacant, text, above⟩
        cases nearer with
        | nil =>
            rcases List.cons.inj split with ⟨rfl, rfl⟩
            rw [text]
            simp only [above]
        | cons first nearer =>
            rcases List.cons.inj split with ⟨rfl, restSplit⟩
            rw [List.forall_mem_cons] at vacant
            rw [vacant.1]
            exact ih.mpr ⟨nearer, ⟨farther, restSplit⟩, vacant.2, text, above⟩

/-- Candidates that lead to nothing are passed over. -/
theorem run_firstFound_append {nearer : List Path}
    (vacant : ∀ path ∈ nearer, tree.textAt path = .ok none) (farther : List Path) :
    (firstFound (nearer ++ farther) : StateM FileTree _).run tree =
      (firstFound farther : StateM FileTree _).run tree := by
  induction nearer with
  | nil => rfl
  | cons path rest ih =>
      rw [List.forall_mem_cons] at vacant
      rw [List.cons_append, run_firstFound_cons, vacant.1]
      exact ih vacant.2

/-- What a search comes to, from what is found among its candidates. -/
def conclude (directory : Path) (named : Option Path) :
    Except DiscoveryError (Option FoundManifest) → Except DiscoveryError FoundManifest
  | .error error => .error error
  | .ok (some found) => .ok found
  | .ok none =>
      match named with
      | some path => .error (.missing path)
      | none => .error (.nowhere directory)

/-- On every file store, a search looks through its candidates and concludes from that. -/
theorem findManifest_eq_map {m : Type → Type} [Monad m] [LawfulMonad m] [Files m]
    (directory : Path) (named : Option Path) :
    (findManifest directory named : m _) =
      conclude directory named <$> firstFound (candidates directory named) := by
  unfold findManifest
  rw [map_eq_pure_bind]
  apply bind_congr
  rintro (error | _ | found)
  · rfl
  · cases named <;> rfl
  · rfl

/-- Looking for a manifest leaves the tree alone. -/
theorem run_findManifest (directory : Path) (named : Option Path) (tree : FileTree) :
    (findManifest directory named : StateM FileTree _).run tree =
      (conclude directory named
        ((firstFound (candidates directory named) : StateM FileTree _).run tree).1, tree) := by
  rcases exists_run_firstFound (candidates directory named) tree with ⟨result, ran⟩
  rw [findManifest_eq_map, StateT.run_map, ran]
  rfl

/-- A manifest is found exactly if it is the first of the candidates that is there. -/
theorem findManifest_eq_ok_iff :
    (findManifest directory named : StateM FileTree _).run tree = (.ok found, tree) ↔
      ∃ nearer, IsFirst tree (candidates directory named) nearer found := by
  rw [← run_firstFound_eq_some_iff, run_findManifest]
  rcases exists_run_firstFound (candidates directory named) tree with ⟨result, ran⟩
  rw [ran]
  cases result with
  | error error => constructor <;> intro same <;> cases same
  | ok result =>
      cases result with
      | none => cases named <;> constructor <;> intro same <;> cases same
      | some result => constructor <;> intro same <;> cases same <;> rfl

end Inset.Command
