import Inset.Proofs.FileTree.Growth
import Inset.Proofs.FileTree.Plain
import Inset.Proofs.Path.Absolute

/-!
# Paths that descend from a directory

A path may reach a directory in any way, through links and `..`, and then go down from
there by names that are no links.  What stands along those names decides where the path
leads: to the last name if all before it are directories (`Descends.resolve_eq_ok`), and
nowhere if one is missing or a file.
-/

namespace Inset.FileTree

variable {tree before after : FileTree} {written made : Location → Prop} {purpose : Purpose}
  {links bound : Nat} {slash slash' : Bool} {directory start location : Location}

/-! ## Walks that go on after a directory -/

theorem walkWithin_current (rest : List String) :
    tree.walkWithin purpose bound slash directory ("." :: rest) =
      tree.walkWithin purpose bound slash directory rest := by
  cases bound <;> simp [walkWithin, walk]

theorem walkWithin_parent (rest : List String) :
    tree.walkWithin purpose bound slash directory (".." :: rest) =
      tree.walkWithin purpose bound slash directory.tail rest := by
  cases bound <;> simp [walkWithin, walk]

theorem walkWithin_directory {name : String} {rest : List String}
    (isName : IsName purpose slash name rest)
    (entry : tree.get? (name :: directory) = some .directory) :
    tree.walkWithin purpose bound slash directory (name :: rest) =
      tree.walkWithin purpose bound slash (name :: directory) rest := by
  cases bound <;> simp [walkWithin, walk_cons isName, entry]

/-- A name before other steps may be looked up for any purpose. -/
theorem IsName.append {name : String} {rest back : List String}
    (isName : IsName .look slash name rest) (goesOn : back ≠ []) :
    IsName purpose slash' name (rest ++ back) where
  notCurrent := isName.notCurrent
  notParent := isName.notParent
  writable := by simp [goesOn]
  short := isName.short

/-- A walk that has come to a directory goes on from there, with the links that are left. -/
theorem walkWithin_append {front back : List String}
    (route : Route tree .look links slash directory front (.found location .directory slash'))
    (goesOn : back ≠ []) (few : links ≤ bound) (loud : Bool) :
    tree.walkWithin purpose bound loud directory (front ++ back) =
      tree.walkWithin purpose (bound - links) loud location back := by
  generalize arrived : Target.found location .directory slash' = target at route
  induction route generalizing bound loud with
  | done slash directory =>
      cases arrived
      rfl
  | current later ih =>
      rw [List.cons_append, walkWithin_current]
      exact ih few loud arrived
  | parent later ih =>
      rw [List.cons_append, walkWithin_parent]
      exact ih few loud arrived
  | enter isName entry later ih =>
      rw [List.cons_append, walkWithin_directory (isName.append goesOn) entry]
      exact ih few loud arrived
  | vacant isName entry => cases arrived
  | file isName entry => cases arrived
  | link isName making entry => contradiction
  | @follow links _ directory name rest path _ isName _ linked later ih =>
      obtain ⟨fewer, rfl⟩ : ∃ fewer, bound = fewer + 1 :=
        Nat.exists_eq_add_one.mpr (Nat.zero_lt_of_lt few)
      have notLast : rest ++ back ≠ [] := by simp [goesOn]
      rw [List.cons_append, walkWithin, walk_cons (isName.append goesOn), linked]
      simp only [notLast, false_and, if_false, List.isEmpty_eq_false_iff.mpr notLast,
        Bool.false_and, Bool.or_false]
      rw [← List.append_assoc, ih (Nat.le_of_succ_le_succ few) loud arrived,
        Nat.add_sub_add_right]

/-! ## Walks along names -/

/-- Whether a name can be that of an entry. -/
structure IsEntryName (name : String) : Prop where
  isMove : Path.IsMove name
  notParent : name ≠ ".."
  short : name.utf8ByteSize ≤ longestName

theorem IsEntryName.isName {name : String} (isEntryName : IsEntryName name)
    (rest : List String) : IsName purpose false name rest where
  notCurrent := isEntryName.isMove.notCurrent
  notParent := isEntryName.notParent
  writable := by simp
  short := isEntryName.short

/-- Whether no name on the way down from a directory is a link. -/
def IsUnlinked (tree : FileTree) (start : Location) (names : List String) : Prop :=
  ∀ front, front <+: names → ∀ target, tree.get? (front.reverse ++ start) ≠ some (.link target)

/-- Whether a name on the way down from a directory is a file. -/
def IsBlocked (tree : FileTree) (start : Location) (names : List String) : Prop :=
  ∃ front, front <+: names ∧ ∃ bytes, tree.get? (front.reverse ++ start) = some (.file bytes)

theorem IsUnlinked.of_cons {name : String} {rest : List String}
    (unlinked : tree.IsUnlinked start (name :: rest)) :
    tree.IsUnlinked (name :: start) rest := by
  intro front begins target linked
  apply unlinked (name :: front) (List.cons_prefix_cons.mpr ⟨rfl, begins⟩) target
  simpa using linked

theorem isBlocked_cons {name : String} {rest : List String}
    (isDirectory : tree.get? start = some .directory) :
    tree.IsBlocked start (name :: rest) ↔ tree.IsBlocked (name :: start) rest := by
  constructor
  · rintro ⟨front, begins, bytes, file⟩
    rcases List.prefix_cons_iff.mp begins with rfl | ⟨later, rfl, laterBegins⟩
    · simp [isDirectory] at file
    · exact ⟨later, laterBegins, bytes, by simpa using file⟩
  · rintro ⟨front, begins, bytes, file⟩
    exact ⟨name :: front, List.cons_prefix_cons.mpr ⟨rfl, begins⟩, bytes, by simpa using file⟩

/-- A walk down to a directory goes on from there. -/
theorem walkWithin_names {names : List String}
    (legal : ∀ name ∈ names, IsEntryName name)
    (isDirectory : tree.get? (names.reverse ++ start) = some .directory) (back : List String) :
    tree.walkWithin purpose bound false start (names ++ back) =
      tree.walkWithin purpose bound false (names.reverse ++ start) back := by
  induction names generalizing start with
  | nil => rfl
  | cons name rest ih =>
      rw [List.forall_mem_cons] at legal
      rw [List.reverse_cons, List.append_assoc, List.singleton_append] at isDirectory ⊢
      have entry : tree.get? (name :: start) = some .directory := by
        by_cases last : rest = []
        · simpa [last] using isDirectory
        · have above : name :: start <:+ rest.reverse ++ name :: start := List.suffix_append _ _
          exact get?_of_suffix above (by simpa using last) (by simp [isDirectory])
      rw [List.cons_append, walkWithin_directory (legal.1.isName _) entry,
        ih legal.2 isDirectory]

/-- A walk down past a file does not go on. -/
theorem walkWithin_of_isBlocked {names : List String} {last : String}
    (legal : ∀ name ∈ names, IsEntryName name) (unlinked : tree.IsUnlinked start names)
    (isDirectory : tree.get? start = some .directory) (blocked : tree.IsBlocked start names) :
    tree.walkWithin purpose bound false start (names ++ [last]) = .error .notDirectory := by
  induction names generalizing start with
  | nil =>
      rcases blocked with ⟨front, begins, bytes, file⟩
      rw [List.prefix_nil.mp begins] at file
      simp [isDirectory] at file
  | cons name rest ih =>
      rw [List.forall_mem_cons] at legal
      have further := (isBlocked_cons isDirectory).mp blocked
      cases entry : tree.get? (name :: start) with
      | none =>
          rcases further with ⟨front, _, bytes, file⟩
          have above : name :: start <:+ front.reverse ++ name :: start := List.suffix_append _ _
          by_cases here : name :: start = front.reverse ++ name :: start
          · rw [← here, entry] at file
            cases file
          · have present : (tree.get? (front.reverse ++ name :: start)).isSome := by simp [file]
            simpa [entry] using get?_of_suffix above here present
      | some found =>
          cases found with
          | directory =>
              rw [List.cons_append, walkWithin_directory (legal.1.isName _) entry]
              exact ih legal.2 unlinked.of_cons entry further
          | file bytes =>
              cases bound <;> simp [walkWithin, walk_cons (legal.1.isName _), entry]
          | link target =>
              exact absurd entry (unlinked [name] (List.prefix_append [name] rest) target)

/-- A walk down past a name that is missing does not go on. -/
theorem walkWithin_of_none {names : List String} {last : String}
    (legal : ∀ name ∈ names, IsEntryName name) (unlinked : tree.IsUnlinked start names)
    (isDirectory : tree.get? start = some .directory) (clear : ¬tree.IsBlocked start names)
    (missing : tree.get? (names.reverse ++ start) = none) :
    tree.walkWithin purpose bound false start (names ++ [last]) = .error .noEntry := by
  induction names generalizing start with
  | nil => simp [isDirectory] at missing
  | cons name rest ih =>
      rw [List.forall_mem_cons] at legal
      cases entry : tree.get? (name :: start) with
      | none => cases bound <;> simp [walkWithin, walk_cons (legal.1.isName _), entry]
      | some found =>
          cases found with
          | directory =>
              rw [List.cons_append, walkWithin_directory (legal.1.isName _) entry]
              apply ih legal.2 unlinked.of_cons entry
              · exact fun blocked => clear ((isBlocked_cons isDirectory).mpr blocked)
              · simpa using missing
          | file bytes =>
              exact absurd ⟨[name], List.prefix_append [name] rest, bytes, entry⟩ clear
          | link target =>
              exact absurd entry (unlinked [name] (List.prefix_append [name] rest) target)

/-! ## Paths that descend -/

/-- What a name in a directory stands for, given what is there. -/
def Target.ofEntry? (directory : Location) (name : String) : Option Entry → Target
  | none => .vacant directory name false
  | some entry => .found (name :: directory) entry false

/-- Whether a path leads to a directory, and goes down from there by names that are no
links. -/
structure Descends (tree : FileTree) (path : Path) (start : Location) (names : List String) :
    Prop where
  walkable : IsWalkable path
  reaches : ∃ front, path.pieces = front ++ names ∧ ∃ links ≤ mostLinks, ∃ slash slash',
    Route tree .look links slash [] (front.filter (· ≠ "")) (.found start .directory slash')
  legal : ∀ name ∈ names, IsEntryName name
  unlinked : tree.IsUnlinked start names

namespace Descends

variable {path : Path} {names above : List String} {name : String}

/-- The names start in a directory. -/
theorem isDirectory_start (descends : tree.Descends path start names) :
    tree.get? start = some .directory := by
  rcases descends.reaches with ⟨_, _, _, _, _, _, route⟩
  exact (route.fits rfl).entry

/-- A path that descends does not end in a slash. -/
theorem endsInSlash_eq_false (descends : tree.Descends path start (above ++ [name])) :
    path.endsInSlash = false := by
  rcases descends.reaches with ⟨front, pieces, _⟩
  rw [Bool.eq_false_iff]
  intro slash
  have filler := Path.getLast?_pieces_of_endsInSlash slash
  rw [pieces, ← List.append_assoc, List.getLast?_concat] at filler
  exact (descends.legal name (by simp)).isMove.nonempty (Option.some.inj filler)

/-- What comes of a path that descends is decided along its names. -/
theorem exists_resolve_eq (descends : tree.Descends path start (above ++ [name])) :
    ∃ bound, ∀ purpose,
      tree.resolve purpose path = tree.walkWithin purpose bound false start (above ++ [name]) := by
  rcases descends.reaches with ⟨front, pieces, links, few, slash, slash', route⟩
  have steps : path.steps = front.filter (· ≠ "") ++ (above ++ [name]) := by
    have kept : (above ++ [name]).filter (· ≠ "") = above ++ [name] := by
      rw [List.filter_eq_self]
      exact fun step member => by simpa using (descends.legal step member).isMove.nonempty
    rw [Path.steps, pieces, List.filter_append, kept]
  refine ⟨mostLinks - links, fun purpose => ?_⟩
  rw [descends.walkable.resolve_eq, descends.endsInSlash_eq_false, steps]
  exact walkWithin_append route (by simp) few false

/-- Below a directory the path leads to what is there under its last name. -/
theorem resolve_eq_ok (descends : tree.Descends path start (above ++ [name]))
    (parent : tree.get? (above.reverse ++ start) = some .directory) (purpose : Purpose) :
    tree.resolve purpose path = .ok (Target.ofEntry? (above.reverse ++ start) name
      (tree.get? (name :: (above.reverse ++ start)))) := by
  rcases descends.exists_resolve_eq with ⟨bound, same⟩
  have legal := descends.legal
  rw [List.forall_mem_append, List.forall_mem_singleton] at legal
  rw [same, walkWithin_names legal.1 parent]
  have isName : IsName purpose false name [] := legal.2.isName []
  cases entry : tree.get? (name :: (above.reverse ++ start)) with
  | none => cases bound <;> simp [walkWithin, walk_cons isName, entry, Target.ofEntry?]
  | some found =>
      cases found with
      | directory =>
          rw [walkWithin_directory isName entry]
          cases bound <;> rfl
      | file bytes => cases bound <;> simp [walkWithin, walk_cons isName, entry, Target.ofEntry?]
      | link target =>
          have unlinked := descends.unlinked _ List.prefix_rfl target
          simp [entry] at unlinked

theorem resolve_of_isBlocked (descends : tree.Descends path start (above ++ [name]))
    (blocked : tree.IsBlocked start above) (purpose : Purpose) :
    tree.resolve purpose path = .error .notDirectory := by
  rcases descends.exists_resolve_eq with ⟨bound, same⟩
  rw [same]
  exact walkWithin_of_isBlocked
    (fun step member => descends.legal step (List.mem_append_left _ member))
    (fun front begins => descends.unlinked front (begins.trans (List.prefix_append _ _)))
    descends.isDirectory_start blocked

theorem resolve_of_none (descends : tree.Descends path start (above ++ [name]))
    (clear : ¬tree.IsBlocked start above) (missing : tree.get? (above.reverse ++ start) = none)
    (purpose : Purpose) : tree.resolve purpose path = .error .noEntry := by
  rcases descends.exists_resolve_eq with ⟨bound, same⟩
  rw [same]
  exact walkWithin_of_none
    (fun step member => descends.legal step (List.mem_append_left _ member))
    (fun front begins => descends.unlinked front (begins.trans (List.prefix_append _ _)))
    descends.isDirectory_start clear missing

/-- Where no name above the last one is a file, the directory of the last one is there or
missing. -/
theorem parent_cases (descends : tree.Descends path start (above ++ [name]))
    (clear : ¬tree.IsBlocked start above) :
    tree.get? (above.reverse ++ start) = some .directory ∨
      tree.get? (above.reverse ++ start) = none := by
  cases entry : tree.get? (above.reverse ++ start) with
  | none => exact .inr rfl
  | some found =>
      cases found with
      | directory => exact .inl rfl
      | file bytes => exact absurd ⟨above, List.prefix_rfl, bytes, entry⟩ clear
      | link target => exact absurd entry (descends.unlinked above (List.prefix_append _ _) target)

theorem exists_parent? (descends : tree.Descends path start (above ++ [name])) :
    ∃ parent, path.parent? = some parent := by
  rcases descends.reaches with ⟨front, pieces, _⟩
  have last := (descends.legal name (by simp)).isMove
  rw [← List.append_assoc] at pieces
  exact Path.exists_parent?_of_pieces pieces last.nonempty last.notCurrent

/-- The parent of a path that descends by several names descends by all but the last. -/
theorem exists_parent (descends : tree.Descends path start (above ++ [name]))
    (more : above ≠ []) :
    ∃ parent, path.parent? = some parent ∧ tree.Descends parent start above := by
  rcases List.eq_nil_or_concat above with rfl | ⟨further, next, rfl⟩
  · contradiction
  rw [List.concat_eq_append] at descends ⊢
  rcases descends.reaches with ⟨front, pieces, reaches⟩
  have nextName := (descends.legal next (by simp)).isMove
  have lastName := (descends.legal name (by simp)).isMove
  have split : path.pieces = front ++ further ++ [next] ++ [name] := by
    rw [pieces]
    simp
  have parent := Path.parent?_of_pieces split nextName.nonempty nextName.notCurrent
    lastName.nonempty lastName.notCurrent
  have kept : (Path.ofPieces (front ++ further ++ [next])).pieces =
      front ++ (further ++ [next]) := by
    rw [Path.pieces_ofPieces (by simp), List.append_assoc]
    intro piece member
    apply Path.slash_notMem_of_mem_pieces
    rw [split]
    exact List.mem_append_left _ member
  have begins := Path.isPrefix_of_parent parent
  refine ⟨_, parent, ?_, ⟨front, kept, reaches⟩, ?_, ?_⟩
  · refine ⟨fun nul => descends.walkable.noNul (begins.subset nul), ?_,
      (Path.byteCount_le_of_isPrefix begins).trans descends.walkable.short⟩
    intro empty
    have none : (Path.ofPieces (front ++ further ++ [next])).pieces = [""] := by
      rw [Path.pieces, empty]
      rfl
    rw [kept] at none
    have member : next ∈ [""] := none ▸ (by simp : next ∈ front ++ (further ++ [next]))
    exact nextName.nonempty (List.mem_singleton.mp member)
  · exact fun step member => descends.legal step (List.mem_append_left _ member)
  · exact fun shorter begins => descends.unlinked shorter (begins.trans (List.prefix_append _ _))

/-- A path still descends after a tree has grown. -/
theorem of_grows (descends : before.Descends path start names)
    (grows : Grows before after written made) : after.Descends path start names where
  walkable := descends.walkable
  reaches := by
    rcases descends.reaches with ⟨front, pieces, links, few, slash, slash', route⟩
    rcases route.of_grows grows with ⟨target, route', same, _⟩
    have fits := (route'.fits rfl).entry
    rw [same] at fits
    change after.get? start = _ at fits
    rw [grows.directory descends.isDirectory_start] at fits
    cases target with
    | vacant => contradiction
    | found location entry slash'' =>
        obtain rfl : location = start := same
        obtain rfl : Entry.directory = entry := Option.some.inj fits
        exact ⟨front, pieces, links, few, slash, slash'', route'⟩
  legal := descends.legal
  unlinked front begins target linked :=
    descends.unlinked front begins target (grows.link.mp linked)

end Descends

end Inset.FileTree
