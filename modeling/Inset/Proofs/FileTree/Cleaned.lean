import Inset.Proofs.FileTree.Plain
import Inset.Proofs.Path.Kept

/-!
# Where cleaned paths lead in a tree without links

A path leads from directory to directory, and every location above an entry is a directory.
So a cleaned path, which takes fewer steps to the same location, leads to the entry that the
path as written leads to: if it is cleaned as a whole (`leadsTo_clean`), and if it is cleaned
before it is seen from a directory (`resolve_join_clean_iff`).
-/

namespace Inset.FileTree

open Location (move)

variable {tree : FileTree} {directory path : Path} {start location : Location} {entry : Entry}
  {slash : Bool} {links : Nat} {steps : List String} {target : Target}

/-- Whether a path leads to an entry, whatever it is wanted for. -/
def LeadsTo (tree : FileTree) (path : Path) (location : Location) (entry : Entry) : Prop :=
  ∀ purpose, tree.resolve purpose path = .ok (.found location entry false)

/-! ## Routes without a slash at the end -/

/-- Without links, a route that does not ask for a directory at its end is a route for every
purpose. -/
theorem Route.silent (noLinks : tree.NoLinks)
    (route : Route tree .look links slash start steps target) (silent : slash = false) :
    target.slash = false ∧ ∀ purpose, Route tree purpose links slash start steps target := by
  have lookedUp {name : String} {rest : List String} (isName : IsName .look slash name rest)
      (purpose : Purpose) : IsName purpose slash name rest :=
    { isName with writable := by simp [silent] }
  induction route with
  | done slash directory => exact ⟨rfl, fun _ => .done slash directory⟩
  | current later ih =>
      exact (ih silent lookedUp).imp_right fun routes purpose => .current (routes purpose)
  | parent later ih =>
      exact (ih silent lookedUp).imp_right fun routes purpose => .parent (routes purpose)
  | enter isName entry later ih =>
      exact (ih silent lookedUp).imp_right fun routes purpose =>
        .enter (lookedUp isName purpose) entry (routes purpose)
  | vacant isName entry => exact ⟨silent, fun purpose => .vacant (lookedUp isName purpose) entry⟩
  | file isName entry => exact ⟨silent, fun purpose => .file (lookedUp isName purpose) entry⟩
  | link isName making entry => contradiction
  | follow isName goesOn entry later ih => exact absurd entry (noLinks _ _)

/-- A path that does not end in a slash and whose steps lead on to an entry leads there. -/
theorem leadsTo_of_leadsOn (noLinks : tree.NoLinks) (walkable : IsWalkable path)
    (leadsOn : tree.LeadsOn [] path.steps)
    (short : ∀ step ∈ path.steps, step.utf8ByteSize ≤ longestName)
    (silent : path.endsInSlash = false) (there : tree.get? path.location = some entry) :
    tree.LeadsTo path path.location entry := by
  intro purpose
  obtain ⟨target, route⟩ : ∃ target, Route tree .look 0 false [] path.steps target :=
    exists_route noLinks rfl leadsOn short
  rcases route.silent noLinks rfl with ⟨noSlash, everyRoute⟩
  have here : target.location = path.location := (route.leadsOn noLinks rfl).1
  have fits := (route.fits rfl).entry
  rw [here, there] at fits
  cases target with
  | vacant => cases fits
  | found location occupant slash =>
      obtain rfl : location = path.location := here
      obtain rfl : entry = occupant := Option.some.inj fits
      obtain rfl : slash = false := noSlash
      exact resolve_eq_ok_iff.mpr
        ⟨walkable, 0, Nat.zero_le _, silent ▸ everyRoute purpose⟩

/-! ## Cleaned paths -/

/-- Names lead on to an entry below a directory. -/
theorem leadsOn_names {names : List String} (proper : ∀ name ∈ names, name ≠ "." ∧ name ≠ "..")
    (there : (tree.get? (names.reverse ++ start)).isSome) : tree.LeadsOn start names := by
  rintro front step back rfl
  rw [foldl_move_names fun name member => proper name (List.mem_append_left _ member)]
  apply get?_of_suffix _ _ there
  · rw [List.reverse_append, List.append_assoc]
    exact List.suffix_append _ _
  · intro same
    have length := congrArg List.length same
    simp at length
    omega

theorem IsWalkable.clean (walkable : IsWalkable path) : IsWalkable path.clean where
  noNul nul := walkable.noNul (Path.mem_of_mem_clean (by decide) (by decide) nul)
  nonempty := path.text_clean_ne_empty
  short := (Path.byteCount_clean_le walkable.nonempty).trans walkable.short

/-- A cleaned path takes no step that is too long for a name. -/
theorem short_clean (short : ∀ step ∈ path.steps, step.utf8ByteSize ≤ longestName) :
    ∀ step ∈ path.clean.steps, step.utf8ByteSize ≤ longestName := by
  intro step member
  by_cases current : step = "."
  · rw [current]
    decide
  · have inMoves := Path.mem_moves_of_mem_steps_clean member current
    exact short step (List.mem_filter.mp inMoves).1

/-- A rooted path that leads to an entry leads there after cleaning. -/
theorem leadsTo_clean (noLinks : tree.NoLinks) (rooted : path.isRooted)
    (resolved : tree.resolve .look path = .ok (.found location entry slash)) :
    tree.LeadsTo path.clean location entry := by
  obtain rfl : location = path.location := location_of_resolve noLinks resolved
  have there := get?_of_resolve resolved
  have walkable := (resolve_eq_ok_iff.mp resolved).1.clean
  have isMove {name : String} (member : name ∈ path.location.reverse) : Path.IsMove name :=
    Path.isMove_of_mem_location rooted member
  have proper (name : String) (member : name ∈ path.location.reverse) :=
    Path.proper_of_mem_location (List.mem_reverse.mp member)
  have clean := Path.clean_of_isRooted rooted
  have steps : path.clean.steps = path.location.reverse := by
    rw [clean, Path.steps_fromRoot fun _ => isMove]
  have same : path.clean.location = path.location := by
    rw [Path.location, steps, foldl_move_names proper, List.reverse_reverse, List.append_nil]
  by_cases top : path.location = []
  · -- The root is the only cleaned path that ends in a slash, and no step is left of it.
    have here : entry = .directory := by
      rw [top, get?_nil] at there
      exact (Option.some.inj there).symm
    refine fun purpose => resolve_eq_ok_iff.mpr ⟨walkable, 0, Nat.zero_le _, ?_⟩
    rw [steps, top, here]
    exact .done _ _
  · have silent : path.clean.endsInSlash = false := by
      rw [clean]
      exact Path.endsInSlash_fromRoot (by simpa using top) fun _ => isMove
    have leadsOn : tree.LeadsOn [] path.clean.steps := by
      rw [steps]
      apply leadsOn_names proper
      simp [there]
    rw [← same] at there ⊢
    exact leadsTo_of_leadsOn noLinks walkable leadsOn
      (short_clean (short_of_resolve noLinks resolved)) silent there

/-! ## Cleaned paths seen from a directory -/

/-- A relative path and its cleaned form lead on to one entry. -/
theorem leadsOn_clean (relative : path.isRooted = false)
    (isDirectory : tree.get? start = some .directory)
    (there : (tree.get? (path.steps.foldl move start)).isSome) :
    tree.LeadsOn start path.clean.steps := by
  by_cases here : path.clean.moves = []
  · have steps : Path.steps ⟨"."⟩ = ["."] := by decide
    rw [Path.clean_of_moves_eq_nil relative here, steps]
    exact leadsOn_singleton.mpr isDirectory
  · have steps : path.clean.steps = path.clean.moves := by
      rw [Path.clean_of_moves_ne_nil relative here,
        Path.steps_ofMoves here fun _ => Path.isMove_of_mem_moves,
        ← Path.clean_of_moves_ne_nil relative here]
    rcases Path.exists_moves_clean relative with ⟨climbs, names, moves, proper, _⟩
    have proper' (name : String) (member : name ∈ names) : name ≠ "." ∧ name ≠ ".." :=
      ⟨(proper name member).1.notCurrent, (proper name member).2⟩
    rw [← Path.foldl_move_clean relative, steps, moves, List.foldl_append,
      foldl_move_names proper'] at there
    rw [steps, moves]
    exact leadsOn_append.mpr ⟨(leadsOn_replicate isDirectory climbs).1, leadsOn_names proper' there⟩

/-- Seen from a directory, a relative path that leads to an entry leads there after cleaning, if
there is room for it. -/
theorem leadsTo_join_clean (noLinks : tree.NoLinks) (isDirectory : tree.isDirectory directory)
    (relative : path.isRooted = false)
    (resolved : tree.resolve .look (directory.join path) = .ok (.found location entry slash))
    (room : (directory.join path.clean).byteCount ≤ longestPath) :
    tree.LeadsTo (directory.join path.clean) location entry := by
  obtain rfl : location = (directory.join path).location := location_of_resolve noLinks resolved
  have relative' : path.clean.isRooted = false := by rw [Path.isRooted_clean, relative]
  have steps := Path.steps_join directory relative
  have steps' := Path.steps_join directory relative'
  have there := get?_of_resolve resolved
  have entered := isEntered_of_isDirectory noLinks isDirectory
  rcases exists_resolve_of_isDirectory isDirectory with ⟨_, _, directoryResolved⟩
  have walkable : IsWalkable (directory.join path.clean) := by
    apply isWalkable_join (resolve_eq_ok_iff.mp directoryResolved).1 relative' _ room
    intro nul
    apply (resolve_eq_ok_iff.mp resolved).1.noNul
    rw [Path.mem_toList_join_iff (by decide) relative]
    exact .inr (Path.mem_of_mem_clean (by decide) (by decide) nul)
  have leadsOn : tree.LeadsOn [] (directory.join path.clean).steps := by
    rw [steps', leadsOn_append]
    refine ⟨entered.leadsOn, leadsOn_clean relative entered.directory ?_⟩
    rw [Path.location, steps, List.foldl_append] at there
    exact Option.isSome_of_eq_some there
  have short : ∀ step ∈ (directory.join path.clean).steps, step.utf8ByteSize ≤ longestName := by
    have pathShort := short_of_resolve noLinks resolved
    rw [steps, List.forall_mem_append] at pathShort
    rw [steps', List.forall_mem_append]
    exact ⟨entered.short, short_clean pathShort.2⟩
  have silent : (directory.join path.clean).endsInSlash = false := by
    rw [Path.endsInSlash_join directory relative' path.text_clean_ne_empty,
      Path.endsInSlash_clean relative]
  rw [← Path.location_join_clean directory relative] at there ⊢
  exact leadsTo_of_leadsOn noLinks walkable leadsOn short silent there

/-- Seen from a directory, a path that leads to an entry leads there after cleaning, unless it
is the empty path and there is no room for the `.` that it is cleaned to. -/
theorem leadsTo_join_clean_iff (noLinks : tree.NoLinks) (isDirectory : tree.isDirectory directory)
    (resolved : tree.resolve .look (directory.join path) = .ok (.found location entry slash)) :
    tree.LeadsTo (directory.join path.clean) location entry ↔
      (path.text = "" → (directory.join ⟨"."⟩).byteCount ≤ longestPath) := by
  cases rooted : path.isRooted with
  | true =>
      have nonempty : path.text ≠ "" := by
        intro empty
        simp [Path.isRooted, empty] at rooted
      have whole : directory.join path = path := by rw [Path.join, if_pos rooted]
      have whole' : directory.join path.clean = path.clean := by
        rw [Path.join, if_pos (by rw [Path.isRooted_clean, rooted])]
      rw [whole] at resolved
      simp [whole', nonempty, leadsTo_clean noLinks rooted resolved]
  | false =>
      have short := (resolve_eq_ok_iff.mp resolved).1.short
      rw [← Path.byteCount_join_clean_le_iff directory rooted short]
      constructor
      · exact fun leads => (resolve_eq_ok_iff.mp (leads .look)).1.short
      · exact leadsTo_join_clean noLinks isDirectory rooted resolved

end Inset.FileTree
