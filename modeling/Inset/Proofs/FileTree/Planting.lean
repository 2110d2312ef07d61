import Inset.Proofs.FileTree.Descent
import Inset.Proofs.FileTree.Rewriting

/-!
# Planting an entry

Making a directory with those above it that are missing, or writing a file below such
directories, *plants* an entry: it is there then, everything above it is a directory, and
nothing else has changed.  Along a path that descends this succeeds unless a file stands
in the way (`Descends.exists_writeCreating`).
-/

namespace Inset.FileTree

variable {tree before middle after : FileTree} {start directory target above : Location}
  {entry : Entry} {name : String}

/-- Whether an entry is put at a location, with the directories above it, and nothing else
is changed. -/
def Planted (before after : FileTree) (target : Location) (entry : Entry) : Prop :=
  ∀ location, after.get? location =
    if location = target then some entry
    else if location <:+ target then some .directory
    else before.get? location

theorem Planted.get?_target (planted : Planted before after target entry) :
    after.get? target = some entry := by
  rw [planted, if_pos rfl]

/-- A name in a directory is not above the directory. -/
theorem not_cons_suffix (name : String) (directory : Location) :
    ¬name :: directory <:+ directory := by
  intro higher
  have length := higher.length_le
  rw [List.length_cons] at length
  omega

/-- What is neither the target nor above it stays. -/
theorem Planted.get?_of_not_suffix (planted : Planted before after target entry)
    {location : Location} (apart : ¬location <:+ target) :
    after.get? location = before.get? location := by
  rw [planted, if_neg, if_neg apart]
  rintro rfl
  exact apart List.suffix_rfl

/-- An entry that is there need not be planted. -/
theorem planted_self (there : tree.get? target = some entry) :
    Planted tree tree target entry := by
  intro location
  split
  · next here => rw [here, there]
  · next other =>
    split
    · next above => exact get?_of_suffix above other (by simp [there])
    · rfl

/-- An entry is planted by putting it into a directory. -/
theorem planted_put (parent : tree.get? directory = some .directory)
    (free : tree.get? (name :: directory) ≠ some .directory) (entry : Entry) :
    Planted tree (tree.put directory name entry) (name :: directory) entry := by
  intro location
  rw [get?_put ⟨parent, free⟩]
  split
  · rfl
  · next other =>
    split
    · next above =>
      rcases List.suffix_cons_iff.mp above with here | higher
      · exact absurd here other
      · by_cases same : location = directory
        · rw [same, parent]
        · exact get?_of_suffix higher same (by simp [parent])
    · rfl

/-- What is planted into a directory that was planted before is planted. -/
theorem Planted.trans (first : Planted before middle above .directory)
    (second : Planted middle after (name :: above) entry) :
    Planted before after (name :: above) entry := by
  intro location
  rw [second]
  split
  · rfl
  · split
    · rfl
    · next apart =>
      exact first.get?_of_not_suffix fun higher => apart (higher.trans (List.suffix_cons _ _))

/-! ## Making directories -/

namespace Descends

variable {path : Path} {names steps : List String}

/-- In a directory the last name of a path can be made a directory, or is one. -/
theorem exists_makeDirectory (descends : tree.Descends path start (steps ++ [name]))
    (parent : tree.get? (steps.reverse ++ start) = some .directory)
    (noFile : ∀ bytes, tree.get? (name :: (steps.reverse ++ start)) ≠ some (.file bytes)) :
    ∃ after, Planted tree after (name :: (steps.reverse ++ start)) .directory ∧
      (tree.makeDirectory path = .ok after ∨
        tree.makeDirectory path = .error .exists ∧ tree.isDirectory path ∧ after = tree) := by
  have resolved := descends.resolve_eq_ok parent
  cases there : tree.get? (name :: (steps.reverse ++ start)) with
  | none =>
      rw [there] at resolved
      exact ⟨_, planted_put parent (by simp [there]) .directory, .inl (by
        rw [makeDirectory, resolved]; rfl)⟩
  | some found =>
      rw [there] at resolved
      cases found with
      | directory =>
          refine ⟨tree, planted_self there, .inr ⟨?_, ?_, rfl⟩⟩
          · rw [makeDirectory, resolved]
            rfl
          · rw [isDirectory, resolved]
            rfl
      | file bytes => exact absurd there (noFile bytes)
      | link goal =>
          have unlinked := descends.unlinked _ List.prefix_rfl goal
          simp [there] at unlinked

/-- Along a path that descends past no file, all directories can be made. -/
theorem exists_makeDirectoriesWithin {count : Nat} (descends : tree.Descends path start names)
    (more : names ≠ []) (clear : ¬tree.IsBlocked start names) (enough : names.length ≤ count) :
    ∃ after,
      (Files.makeDirectoriesWithin count path : StateM FileTree _).run tree = (.ok (), after) ∧
      Planted tree after (names.reverse ++ start) .directory := by
  induction names using List.reverseRecOn generalizing path count with
  | nil => contradiction
  | append_singleton steps name ih =>
      rw [List.length_append, List.length_singleton] at enough
      obtain ⟨fewer, rfl⟩ : ∃ fewer, count = fewer + 1 :=
        Nat.exists_eq_add_one.mpr (by omega)
      have clearAbove : ¬tree.IsBlocked start steps := fun ⟨front, begins, file⟩ =>
        clear ⟨front, begins.trans (List.prefix_append _ _), file⟩
      have noFile (bytes : ByteArray) :
          tree.get? (name :: (steps.reverse ++ start)) ≠ some (.file bytes) := fun file =>
        clear ⟨steps ++ [name], List.prefix_rfl, bytes, by simpa using file⟩
      rw [List.reverse_append, List.reverse_singleton, List.singleton_append, List.cons_append]
      rcases descends.exists_parent? with ⟨parent, parentEq⟩
      rw [run_makeDirectoriesWithin_succ, parentEq]
      simp only
      rcases descends.parent_cases clearAbove with there | missing
      · rcases descends.exists_makeDirectory there noFile with
          ⟨after, planted, made | ⟨taken, isDirectory, rfl⟩⟩
        · rw [made]
          exact ⟨after, rfl, planted⟩
        · rw [taken]
          simp only [isDirectory, if_true]
          exact ⟨_, rfl, planted⟩
      · -- The directories above are made first.
        have further : steps ≠ [] := by
          rintro rfl
          have present := descends.isDirectory_start
          simp_all
        rcases descends.exists_parent further with ⟨parent', parentEq', parentDescends⟩
        obtain rfl : parent = parent' := Option.some.inj (parentEq.symm.trans parentEq')
        have refused : tree.makeDirectory path = .error .noEntry := by
          rw [makeDirectory, descends.resolve_of_none clearAbove missing]
        rcases ih parentDescends further clearAbove (Nat.le_of_succ_le_succ enough) with
          ⟨middle, ran, planted⟩
        have grows : Grows tree middle (fun _ => False) _ := grows_of_makeDirectoriesWithin ran
        have vacant : middle.get? (name :: (steps.reverse ++ start)) = none := by
          rw [planted.get?_of_not_suffix (not_cons_suffix _ _)]
          by_contra present
          have parentThere := get?_tail (Option.isSome_iff_ne_none.mpr present)
          simp [missing] at parentThere
        rw [refused]
        simp only [ran]
        rcases (descends.of_grows grows).exists_makeDirectory planted.get?_target
          (by simp [vacant]) with ⟨after, last, made | ⟨taken, isDirectory, rfl⟩⟩
        · rw [made]
          exact ⟨after, rfl, planted.trans last⟩
        · rw [taken]
          simp only [isDirectory, if_true]
          exact ⟨_, rfl, planted.trans last⟩

/-- The directories above a file can be made if no file stands in the way. -/
theorem exists_makeParents (descends : tree.Descends path start (steps ++ [name]))
    (clear : ¬tree.IsBlocked start steps) :
    ∃ middle,
      (if (parentPath path).text = "" then (.ok (), tree)
        else (Files.makeDirectories (parentPath path) : StateM FileTree _).run tree) =
          (.ok (), middle) ∧
      Planted tree middle (steps.reverse ++ start) .directory := by
  by_cases more : steps = []
  · subst more
    have isDirectory := descends.isDirectory_start
    refine ⟨tree, ?_, planted_self isDirectory⟩
    rcases descends.exists_parent? with ⟨parent, parentEq⟩
    have same : parentPath path = parent := by rw [parentPath, parentEq, Option.getD_some]
    rw [same]
    split
    · rfl
    · next nonempty =>
      exact run_makeDirectories_of_isDirectory
        (isDirectory_of_parent (descends.resolve_eq_ok isDirectory .look) parentEq nonempty)
  · rcases descends.exists_parent more with ⟨parent, parentEq, parentDescends⟩
    have same : parentPath path = parent := by rw [parentPath, parentEq, Option.getD_some]
    rw [same, if_neg parentDescends.walkable.nonempty, Files.makeDirectories]
    apply parentDescends.exists_makeDirectoriesWithin more clear
    rcases parentDescends.reaches with ⟨front, pieces, _⟩
    simp [pieces]

/-! ## Writing -/

/-- A file can be written along a path that descends if no file stands above it, and
nothing or a file in its place. -/
theorem exists_writeCreating (descends : tree.Descends path start (steps ++ [name]))
    (clear : ¬tree.IsBlocked start steps)
    (writable : tree.get? (name :: (steps.reverse ++ start)) = none ∨
      ∃ bytes, tree.get? (name :: (steps.reverse ++ start)) = some (.file bytes))
    (text : String) :
    ∃ after,
      (Files.writeCreating path text : StateM FileTree _).run tree = (.ok (), after) ∧
      Planted tree after (name :: (steps.reverse ++ start)) (.file text.toUTF8) := by
  rcases descends.exists_makeParents clear with ⟨middle, made, planted⟩
  have grows : Grows tree middle (fun _ => False) _ := grows_of_makeParents made
  have same : middle.get? (name :: (steps.reverse ++ start)) =
      tree.get? (name :: (steps.reverse ++ start)) :=
    planted.get?_of_not_suffix (not_cons_suffix _ _)
  have resolved := (descends.of_grows grows).resolve_eq_ok planted.get?_target .write
  rw [← same] at writable
  have free : middle.get? (name :: (steps.reverse ++ start)) ≠ some .directory := by
    rcases writable with vacant | ⟨bytes, file⟩
    · simp [vacant]
    · simp [file]
  have writing : middle.writeBytes path text.toUTF8 =
      .ok (middle.put (steps.reverse ++ start) name (.file text.toUTF8)) := by
    rw [writeBytes, resolved]
    rcases writable with vacant | ⟨bytes, file⟩
    · rw [vacant]
      rfl
    · rw [file]
      rfl
  refine ⟨_, ?_, planted.trans (planted_put planted.get?_target free _)⟩
  rw [run_writeCreating, made]
  simp only [writing]

end Descends

end Inset.FileTree
