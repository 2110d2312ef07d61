import Inset.Proofs.FileTree.Store
import Inset.Proofs.Path.Steps

/-!
# Trees without links

In a tree without links a path leads where its steps lead by name
(`location_of_resolve`), and it leads somewhere as soon as all but its last step
lead from directory to directory (`exists_route`).  Every location above an entry
is a directory.
-/

namespace Inset.FileTree

open Location (move)

/-- Whether no entry is a link. -/
def NoLinks (tree : FileTree) : Prop :=
  ∀ location path, tree.get? location ≠ some (.link path)

variable {tree before after : FileTree} {written made : Location → Prop} {purpose : Purpose}

theorem noLinks_empty : FileTree.empty.NoLinks := by
  rintro (_ | ⟨name, directory⟩) path linked
  · cases linked
  · cases linked

/-- Putting anything but a link leaves a tree without links. -/
theorem NoLinks.put (noLinks : tree.NoLinks) {entry : Entry}
    (unlinked : ∀ path, entry ≠ .link path) (directory : Location) (name : String) :
    (tree.put directory name entry).NoLinks := by
  intro location path
  by_cases admits : tree.Admits directory name
  · rw [get?_put admits]
    split
    · simpa using unlinked path
    · exact noLinks location path
  · rw [FileTree.put, dif_neg admits]
    exact noLinks location path

theorem Grows.noLinks (grows : Grows before after written made) (noLinks : before.NoLinks) :
    after.NoLinks :=
  fun location path linked => noLinks location path (grows.link.mp linked)

/-! ## Above an entry -/

/-- Every location above an entry is a directory. -/
theorem get?_of_suffix {location inner : Location} (above : location <:+ inner)
    (strict : location ≠ inner) (present : (tree.get? inner).isSome) :
    tree.get? location = some .directory := by
  induction inner with
  | nil => exact absurd (List.suffix_nil.mp above) strict
  | cons name directory ih =>
      have parent := get?_tail present
      rcases List.suffix_cons_iff.mp above with here | farther
      · exact absurd here strict
      · by_cases same : location = directory
        · rw [same, parent]
        · exact ih farther same (by simp [parent])

/-! ## Routes without links -/

/-- Whether all steps but the last one lead by name from directory to directory. -/
def LeadsOn (tree : FileTree) (directory : Location) (steps : List String) : Prop :=
  ∀ front step back, steps = front ++ step :: back →
    tree.get? (front.foldl move directory) = some .directory

theorem leadsOn_nil (directory : Location) : tree.LeadsOn directory [] := by
  intro front step back split
  simp at split

theorem leadsOn_cons {directory : Location} {step : String} {rest : List String} :
    tree.LeadsOn directory (step :: rest) ↔
      tree.get? directory = some .directory ∧ tree.LeadsOn (directory.move step) rest := by
  constructor
  · intro leadsOn
    refine ⟨leadsOn [] step rest rfl, fun front next back split => ?_⟩
    exact leadsOn (step :: front) next back (by rw [split, List.cons_append])
  · rintro ⟨start, later⟩ front next back split
    cases front with
    | nil => exact start
    | cons first front =>
        rcases List.cons.inj split with ⟨rfl, rest_eq⟩
        exact later front next back rest_eq

theorem leadsOn_append {directory : Location} {front back : List String} :
    tree.LeadsOn directory (front ++ back) ↔
      tree.LeadsOn directory front ∧ tree.LeadsOn (front.foldl move directory) back := by
  induction front generalizing directory with
  | nil => simp [leadsOn_nil]
  | cons step rest ih => simp [leadsOn_cons, ih, and_assoc]

theorem leadsOn_singleton {directory : Location} {step : String} :
    tree.LeadsOn directory [step] ↔ tree.get? directory = some .directory := by
  simp [leadsOn_cons, leadsOn_nil]

/-- Every beginning of steps that lead on to a directory leads to a directory. -/
theorem LeadsOn.directory {directory : Location} {front steps : List String}
    (leadsOn : tree.LeadsOn directory steps)
    (last : tree.get? (steps.foldl move directory) = some .directory)
    (begins : front <+: steps) : tree.get? (front.foldl move directory) = some .directory := by
  rcases begins with ⟨back, rfl⟩
  cases back with
  | nil => simpa using last
  | cons step back => exact leadsOn front step back rfl

/-- From a directory, `..` leads on to directories. -/
theorem leadsOn_replicate {directory : Location}
    (start : tree.get? directory = some .directory) (climbs : Nat) :
    tree.LeadsOn directory (List.replicate climbs "..") ∧
      tree.get? ((List.replicate climbs "..").foldl move directory) = some .directory := by
  induction climbs generalizing directory with
  | zero => exact ⟨leadsOn_nil directory, start⟩
  | succ climbs ih =>
      rcases ih (get?_tail_of_directory start) with ⟨later, last⟩
      exact ⟨leadsOn_cons.mpr ⟨start, later⟩, last⟩

theorem move_name {directory : Location} {name : String} (notCurrent : name ≠ ".")
    (notParent : name ≠ "..") : directory.move name = name :: directory := by
  rw [move, if_neg notCurrent, if_neg notParent]

/-- Names lead down. -/
theorem foldl_move_names {names : List String}
    (proper : ∀ name ∈ names, name ≠ "." ∧ name ≠ "..") (directory : Location) :
    names.foldl move directory = names.reverse ++ directory := by
  induction names generalizing directory with
  | nil => rfl
  | cons name rest ih =>
      rw [List.forall_mem_cons] at proper
      rw [List.foldl_cons, move_name proper.1.1 proper.1.2, ih proper.2]
      simp

/-- A route without links leads where its steps lead by name, from directory to
directory, and its steps are short enough for names. -/
theorem Route.leadsOn (noLinks : tree.NoLinks) {links : Nat} {slash : Bool}
    {directory : Location} {steps : List String} {target : Target}
    (route : Route tree purpose links slash directory steps target)
    (start : tree.get? directory = some .directory) :
    target.location = steps.foldl move directory ∧ tree.LeadsOn directory steps ∧
      ∀ step ∈ steps, step.utf8ByteSize ≤ longestName := by
  induction route with
  | done slash directory => exact ⟨rfl, leadsOn_nil directory, by simp⟩
  | current later ih =>
      rcases ih start with ⟨same, leadsOn, short⟩
      exact ⟨same, leadsOn_cons.mpr ⟨start, leadsOn⟩,
        List.forall_mem_cons.mpr ⟨by decide, short⟩⟩
  | parent later ih =>
      rcases ih (get?_tail_of_directory start) with ⟨same, leadsOn, short⟩
      exact ⟨same, leadsOn_cons.mpr ⟨start, leadsOn⟩,
        List.forall_mem_cons.mpr ⟨by decide, short⟩⟩
  | @enter _ _ directory _ _ _ isName entry later ih =>
      rcases ih entry with ⟨same, leadsOn, short⟩
      have moved := @move_name directory _ isName.notCurrent isName.notParent
      refine ⟨?_, leadsOn_cons.mpr ⟨start, ?_⟩,
        List.forall_mem_cons.mpr ⟨isName.short, short⟩⟩
      · rw [List.foldl_cons, moved, same]
      · rw [moved]
        exact leadsOn
  | vacant isName entry =>
      refine ⟨?_, leadsOn_singleton.mpr start, by simpa using isName.short⟩
      exact (move_name isName.notCurrent isName.notParent).symm
  | file isName entry =>
      refine ⟨?_, leadsOn_singleton.mpr start, by simpa using isName.short⟩
      exact (move_name isName.notCurrent isName.notParent).symm
  | link isName making entry => exact absurd entry (noLinks _ _)
  | follow isName goesOn entry later ih => exact absurd entry (noLinks _ _)

/-- In a tree without links there is a route for looking along all steps that lead on. -/
theorem exists_route (noLinks : tree.NoLinks) {slash : Bool} {directory : Location}
    {steps : List String} (start : tree.get? directory = some .directory)
    (leadsOn : tree.LeadsOn directory steps)
    (short : ∀ step ∈ steps, step.utf8ByteSize ≤ longestName) :
    ∃ target, Route tree .look 0 slash directory steps target := by
  induction steps generalizing directory with
  | nil => exact ⟨_, .done slash directory⟩
  | cons step rest ih =>
      rcases leadsOn_cons.mp leadsOn with ⟨_, later⟩
      rw [List.forall_mem_cons] at short
      by_cases current : step = "."
      · subst current
        rcases ih start later short.2 with ⟨target, route⟩
        exact ⟨target, .current route⟩
      by_cases parent : step = ".."
      · subst parent
        rcases ih (get?_tail_of_directory start) later short.2 with ⟨target, route⟩
        exact ⟨target, .parent route⟩
      have isName : IsName .look slash step rest := ⟨current, parent, by simp, short.1⟩
      rw [move_name current parent] at later
      cases entry : tree.get? (step :: directory) with
      | some found =>
          cases found with
          | directory =>
              rcases ih entry later short.2 with ⟨target, route⟩
              exact ⟨target, .enter isName entry route⟩
          | file bytes =>
              cases rest with
              | nil => exact ⟨_, .file isName entry⟩
              | cons next rest => simp [(leadsOn_cons.mp later).1] at entry
          | link path => exact absurd entry (noLinks _ _)
      | none =>
          cases rest with
          | nil => exact ⟨_, .vacant isName entry⟩
          | cons next rest => simp [(leadsOn_cons.mp later).1] at entry

/-! ## Paths -/

/-- In a tree without links a path leads where its steps lead by name. -/
theorem location_of_resolve (noLinks : tree.NoLinks) {path : Path} {target : Target}
    (resolved : tree.resolve purpose path = .ok target) : target.location = path.location := by
  rcases resolve_eq_ok_iff.mp resolved with ⟨_, _, _, route⟩
  exact (route.leadsOn noLinks rfl).1

/-- The steps of a path that leads somewhere lead on. -/
theorem leadsOn_of_resolve (noLinks : tree.NoLinks) {path : Path} {target : Target}
    (resolved : tree.resolve purpose path = .ok target) : tree.LeadsOn [] path.steps := by
  rcases resolve_eq_ok_iff.mp resolved with ⟨_, _, _, route⟩
  exact (route.leadsOn noLinks rfl).2.1

/-- The steps of a path that leads somewhere are short enough for names. -/
theorem short_of_resolve (noLinks : tree.NoLinks) {path : Path} {target : Target}
    (resolved : tree.resolve purpose path = .ok target) :
    ∀ step ∈ path.steps, step.utf8ByteSize ≤ longestName := by
  rcases resolve_eq_ok_iff.mp resolved with ⟨_, _, _, route⟩
  exact (route.leadsOn noLinks rfl).2.2

theorem eq_location_of_location? (noLinks : tree.NoLinks) {path : Path} {location : Location}
    (leads : tree.location? path = some location) : location = path.location := by
  rcases location?_eq_some_iff.mp leads with ⟨target, resolved, rfl⟩
  exact location_of_resolve noLinks resolved

/-- A path that can be walked along leads somewhere if its steps lead on. -/
theorem exists_resolve (noLinks : tree.NoLinks) {path : Path} (walkable : IsWalkable path)
    (leadsOn : tree.LeadsOn [] path.steps)
    (short : ∀ step ∈ path.steps, step.utf8ByteSize ≤ longestName) :
    ∃ target, tree.resolve .look path = .ok target := by
  rcases exists_route noLinks rfl leadsOn short with ⟨target, route⟩
  exact ⟨target, resolve_eq_ok_iff.mpr ⟨walkable, 0, Nat.zero_le _, route⟩⟩

section

variable {root path : Path} (walkable : IsWalkable root) (relative : path.isRooted = false)
  (noNul : '\x00' ∉ path.text.toList)

include walkable relative noNul

theorem noNul_join : '\x00' ∉ (root.join path).text.toList := by
  rw [Path.mem_toList_join_iff (by decide) relative, not_or]
  exact ⟨walkable.noNul, noNul⟩

/-- A walk can begin with a path seen from a directory. -/
theorem isWalkable_join (short : (root.join path).byteCount ≤ longestPath) :
    IsWalkable (root.join path) where
  noNul := noNul_join walkable relative noNul
  nonempty := Path.text_join_ne_empty walkable.nonempty relative
  short := short

/-- A path that is too long when seen from a directory leads nowhere. -/
theorem resolve_join_of_long (long : longestPath < (root.join path).byteCount)
    (purpose : Purpose) : tree.resolve purpose (root.join path) = .error .nameTooLong := by
  rw [resolve, if_neg (noNul_join walkable relative noNul),
    if_neg (Path.text_join_ne_empty walkable.nonempty relative), if_pos long]

end

/-! ## Directories -/

/-- Whether a path leads to a directory, from directory to directory. -/
structure IsEntered (tree : FileTree) (path : Path) : Prop where
  leadsOn : tree.LeadsOn [] path.steps
  directory : tree.get? path.location = some .directory
  short : ∀ step ∈ path.steps, step.utf8ByteSize ≤ longestName

theorem isEntered_of_isDirectory (noLinks : tree.NoLinks) {path : Path}
    (isDirectory : tree.isDirectory path) : tree.IsEntered path := by
  rcases exists_resolve_of_isDirectory isDirectory with ⟨location, slash, resolved⟩
  refine ⟨leadsOn_of_resolve noLinks resolved, ?_, short_of_resolve noLinks resolved⟩
  rw [← location_of_resolve noLinks resolved]
  exact get?_of_resolve resolved

/-- What is above a directory by its steps is a directory. -/
theorem IsEntered.of_above {path above : Path} (entered : tree.IsEntered path)
    (begins : above.steps <+: path.steps) : tree.IsEntered above := by
  refine ⟨?_, entered.leadsOn.directory entered.directory begins,
    fun step member => entered.short step (begins.subset member)⟩
  rcases begins with ⟨back, split⟩
  exact (leadsOn_append.mp (split ▸ entered.leadsOn)).1

end Inset.FileTree
