import Inset.FileTree.Access

/-!
# Routes through a file tree

A walk is a recursion over names inside a recursion over links.  A *route* says
in one relation how a path leads somewhere: name by name, and through links as
they come.  By `walkWithin_eq_ok_iff` the walks that end are the routes that
follow few enough links, so that what holds of every route is proved by one
induction.  The first such fact is that a route ends at what the tree holds
there (`resolve_fits`).
-/

namespace Inset.FileTree

/-! ## Targets -/

namespace Target

/-- The location that a path leads to, whether or not there is an entry. -/
def location : Target → Location
  | found location _ _ => location
  | vacant directory name _ => name :: directory

/-- Whether the path says that it leads to a directory. -/
def slash : Target → Bool
  | found _ _ slash => slash
  | vacant _ _ slash => slash

/-- The entry that a path leads to. -/
def occupant? : Target → Option Entry
  | found _ entry _ => some entry
  | vacant _ _ _ => none

end Target

/-- A target says what the tree holds, and a vacant name belongs to a directory. -/
structure Fits (tree : FileTree) (target : Target) : Prop where
  entry : tree.get? target.location = target.occupant?
  parent : tree.get? target.location.tail = some .directory

/-! ## Routes -/

/-- Whether a step is a name that a walk may look up before the steps in `rest`. -/
structure IsName (purpose : Purpose) (slash : Bool) (step : String) (rest : List String) :
    Prop where
  notCurrent : step ≠ "."
  notParent : step ≠ ".."
  writable : ¬(rest = [] ∧ slash ∧ purpose = .write)
  short : step.utf8ByteSize ≤ longestName

/-- How steps lead from a directory to a target, following the given number of
links. -/
inductive Route (tree : FileTree) (purpose : Purpose) :
    Nat → Bool → Location → List String → Target → Prop
  | done (slash : Bool) (directory : Location) :
      Route tree purpose 0 slash directory [] (.found directory .directory false)
  | current {links : Nat} {slash : Bool} {directory : Location} {rest : List String}
      {target : Target} (later : Route tree purpose links slash directory rest target) :
      Route tree purpose links slash directory ("." :: rest) target
  | parent {links : Nat} {slash : Bool} {directory : Location} {rest : List String}
      {target : Target} (later : Route tree purpose links slash directory.tail rest target) :
      Route tree purpose links slash directory (".." :: rest) target
  | enter {links : Nat} {slash : Bool} {directory : Location} {name : String}
      {rest : List String} {target : Target} (isName : IsName purpose slash name rest)
      (entry : tree.get? (name :: directory) = some .directory)
      (later : Route tree purpose links slash (name :: directory) rest target) :
      Route tree purpose links slash directory (name :: rest) target
  | vacant {slash : Bool} {directory : Location} {name : String}
      (isName : IsName purpose slash name [])
      (entry : tree.get? (name :: directory) = none) :
      Route tree purpose 0 slash directory [name] (.vacant directory name slash)
  | file {slash : Bool} {directory : Location} {name : String} {bytes : ByteArray}
      (isName : IsName purpose slash name [])
      (entry : tree.get? (name :: directory) = some (.file bytes)) :
      Route tree purpose 0 slash directory [name]
        (.found (name :: directory) (.file bytes) slash)
  | link {slash : Bool} {directory : Location} {name : String} {path : Path}
      (isName : IsName purpose slash name []) (making : purpose = .make)
      (entry : tree.get? (name :: directory) = some (.link path)) :
      Route tree purpose 0 slash directory [name]
        (.found (name :: directory) (.link path) slash)
  | follow {links : Nat} {slash : Bool} {directory : Location} {name : String}
      {rest : List String} {path : Path} {target : Target}
      (isName : IsName purpose slash name rest) (goesOn : ¬(rest = [] ∧ purpose = .make))
      (entry : tree.get? (name :: directory) = some (.link path))
      (later : Route tree purpose links (slash || (rest.isEmpty && path.endsInSlash))
        (if path.isRooted then [] else directory) (path.steps ++ rest) target) :
      Route tree purpose (links + 1) slash directory (name :: rest) target

variable {tree : FileTree} {purpose : Purpose}

/-- A walk over a name looks the name up. -/
theorem walk_cons {slash : Bool} {name : String} {rest : List String}
    (isName : IsName purpose slash name rest)
    (follow : Bool → Location → List String → Except StoreError Target)
    (directory : Location) :
    tree.walk purpose follow slash directory (name :: rest) =
      match tree.get? (name :: directory) with
      | none => if rest = [] then .ok (.vacant directory name slash) else .error .noEntry
      | some .directory => tree.walk purpose follow slash (name :: directory) rest
      | some (.file bytes) =>
          if rest = [] then .ok (.found (name :: directory) (.file bytes) slash)
          else .error .notDirectory
      | some (.link target) =>
          if rest = [] ∧ purpose = .make then
            .ok (.found (name :: directory) (.link target) slash)
          else
            follow (slash || (rest.isEmpty && target.endsInSlash))
              (if target.isRooted then [] else directory) (target.steps ++ rest) := by
  rw [walk, if_neg isName.notCurrent, if_neg isName.notParent, if_neg isName.writable]
  exact if_neg (Nat.not_lt.mpr isName.short)

/-- What a walk over a name that ends has found there. -/
theorem isName_of_walk_eq_ok
    {follow : Bool → Location → List String → Except StoreError Target} {slash : Bool}
    {directory : Location} {step : String} {rest : List String} {target : Target}
    (notCurrent : step ≠ ".") (notParent : step ≠ "..")
    (walked : tree.walk purpose follow slash directory (step :: rest) = .ok target) :
    IsName purpose slash step rest := by
  rw [walk, if_neg notCurrent, if_neg notParent] at walked
  split at walked
  · contradiction
  · next writable =>
    split at walked
    · contradiction
    · next short => exact ⟨notCurrent, notParent, writable, Nat.not_lt.mp short⟩

/-- A walk that ends has taken a route, if going on after a link gives routes. -/
theorem exists_route_of_walk {bound : Nat}
    {follow : Bool → Location → List String → Except StoreError Target}
    (followed : ∀ slash directory steps target, follow slash directory steps = .ok target →
      ∃ links < bound, Route tree purpose links slash directory steps target)
    {slash : Bool} {directory : Location} {steps : List String} {target : Target}
    (walked : tree.walk purpose follow slash directory steps = .ok target) :
    ∃ links ≤ bound, Route tree purpose links slash directory steps target := by
  induction steps generalizing directory with
  | nil =>
      obtain rfl : Target.found directory .directory false = target := by
        simpa [walk] using walked
      exact ⟨0, Nat.zero_le bound, .done slash directory⟩
  | cons step rest ih =>
      by_cases current : step = "."
      · subst current
        have further : tree.walk purpose follow slash directory rest = .ok target := by
          simpa [walk] using walked
        rcases ih further with ⟨links, few, later⟩
        exact ⟨links, few, .current later⟩
      by_cases parent : step = ".."
      · subst parent
        have further : tree.walk purpose follow slash directory.tail rest = .ok target := by
          simpa [walk] using walked
        rcases ih further with ⟨links, few, later⟩
        exact ⟨links, few, .parent later⟩
      have isName := isName_of_walk_eq_ok current parent walked
      rw [walk_cons isName] at walked
      cases entry : tree.get? (step :: directory) with
      | none =>
          simp only [entry] at walked
          split at walked
          · next last =>
            subst last
            cases walked
            exact ⟨0, Nat.zero_le bound, .vacant isName entry⟩
          · contradiction
      | some found =>
          cases found with
          | directory =>
              simp only [entry] at walked
              rcases ih walked with ⟨links, few, later⟩
              exact ⟨links, few, .enter isName entry later⟩
          | file bytes =>
              simp only [entry] at walked
              split at walked
              · next last =>
                subst last
                cases walked
                exact ⟨0, Nat.zero_le bound, .file isName entry⟩
              · contradiction
          | link path =>
              simp only [entry] at walked
              split at walked
              · next making =>
                rcases making with ⟨rfl, making⟩
                cases walked
                exact ⟨0, Nat.zero_le bound, .link isName making entry⟩
              · next goesOn =>
                rcases followed _ _ _ _ walked with ⟨links, few, later⟩
                exact ⟨links + 1, few, .follow isName goesOn entry later⟩

/-- The walks that end are the routes that follow few enough links. -/
theorem walkWithin_eq_ok_iff {bound : Nat} {slash : Bool} {directory : Location}
    {steps : List String} {target : Target} :
    tree.walkWithin purpose bound slash directory steps = .ok target ↔
      ∃ links ≤ bound, Route tree purpose links slash directory steps target := by
  constructor
  · intro walked
    induction bound generalizing slash directory steps target with
    | zero => exact exists_route_of_walk (by simp) walked
    | succ bound ih =>
        apply exists_route_of_walk _ walked
        intro slash directory steps target walked
        rcases ih walked with ⟨links, few, route⟩
        exact ⟨links, Nat.lt_succ_of_le few, route⟩
  · rintro ⟨links, few, route⟩
    induction route generalizing bound with
    | done slash directory => cases bound <;> rfl
    | current later ih => cases bound <;> simpa [walkWithin, walk] using ih few
    | parent later ih => cases bound <;> simpa [walkWithin, walk] using ih few
    | enter isName entry later ih =>
        cases bound <;> simpa [walkWithin, walk_cons isName, entry] using ih few
    | vacant isName entry => cases bound <;> simp [walkWithin, walk_cons isName, entry]
    | file isName entry => cases bound <;> simp [walkWithin, walk_cons isName, entry]
    | link isName making entry =>
        cases bound <;> rw [walkWithin, walk_cons isName] <;> simp [entry, making]
    | follow isName goesOn entry later ih =>
        cases bound with
        | zero => contradiction
        | succ bound =>
            simp only [walkWithin, walk_cons isName, entry, if_neg goesOn]
            exact ih (Nat.le_of_succ_le_succ few)

/-! ## What routes lead to -/

/-- The directory above a directory is a directory; the root stays where it is. -/
theorem get?_tail_of_directory {directory : Location}
    (isDirectory : tree.get? directory = some .directory) :
    tree.get? directory.tail = some .directory := by
  cases directory with
  | nil => rfl
  | cons name directory =>
      have present : (tree.get? (name :: directory)).isSome := by simp [isDirectory]
      exact get?_tail present

/-- A route from a directory ends at what the tree holds there. -/
theorem Route.fits {links : Nat} {slash : Bool} {directory : Location} {steps : List String}
    {target : Target} (route : Route tree purpose links slash directory steps target)
    (start : tree.get? directory = some .directory) : tree.Fits target := by
  induction route with
  | done slash directory => exact ⟨start, get?_tail_of_directory start⟩
  | current later ih => exact ih start
  | parent later ih => exact ih (get?_tail_of_directory start)
  | enter isName entry later ih => exact ih entry
  | vacant isName entry => exact ⟨entry, start⟩
  | file isName entry => exact ⟨entry, start⟩
  | link isName making entry => exact ⟨entry, start⟩
  | follow isName goesOn entry later ih =>
      apply ih
      split
      · rfl
      · exact start

/-- A route that may end at a link ends where looking does, unless it ends at one. -/
theorem Route.look {links : Nat} {slash : Bool} {directory : Location} {steps : List String}
    {target : Target} (route : Route tree purpose links slash directory steps target)
    (noLink : purpose = .make → ∀ path, target.occupant? ≠ some (.link path)) :
    Route tree .look links slash directory steps target := by
  have lookedUp {slash : Bool} {name : String} {rest : List String}
      (isName : IsName purpose slash name rest) : IsName .look slash name rest :=
    { isName with writable := by simp }
  induction route with
  | done slash directory => exact .done slash directory
  | current later ih => exact .current (ih noLink)
  | parent later ih => exact .parent (ih noLink)
  | enter isName entry later ih => exact .enter (lookedUp isName) entry (ih noLink)
  | vacant isName entry => exact .vacant (lookedUp isName) entry
  | file isName entry => exact .file (lookedUp isName) entry
  | link isName making entry => exact absurd rfl (noLink making _)
  | follow isName goesOn entry later ih =>
      exact .follow (lookedUp isName) (by simp) entry (ih noLink)

/-- A path for writing never says that it leads to a directory. -/
theorem Route.slash_eq_false {links : Nat} {slash : Bool} {directory : Location}
    {steps : List String} {target : Target}
    (route : Route tree .write links slash directory steps target) : target.slash = false := by
  induction route with
  | done => rfl
  | current later ih => exact ih
  | parent later ih => exact ih
  | enter isName entry later ih => exact ih
  | vacant isName entry => simpa [Target.slash] using isName.writable
  | file isName entry => simpa [Target.slash] using isName.writable
  | link isName making entry => contradiction
  | follow isName goesOn entry later ih => exact ih

/-! ## Paths -/

/-- A path that a walk can begin with. -/
structure IsWalkable (path : Path) : Prop where
  noNul : '\x00' ∉ path.text.toList
  nonempty : path.text ≠ ""
  short : path.byteCount ≤ longestPath

/-- A path that a walk can begin with leads where the walk along its steps does. -/
theorem IsWalkable.resolve_eq {path : Path} (walkable : IsWalkable path) (purpose : Purpose) :
    tree.resolve purpose path =
      tree.walkWithin purpose mostLinks path.endsInSlash [] path.steps := by
  rw [resolve, if_neg walkable.noNul, if_neg walkable.nonempty,
    if_neg (Nat.not_lt.mpr walkable.short)]

/-- Where a path leads from the root is where its route ends. -/
theorem resolve_eq_ok_iff {path : Path} {target : Target} :
    tree.resolve purpose path = .ok target ↔
      IsWalkable path ∧
        ∃ links ≤ mostLinks, Route tree purpose links path.endsInSlash [] path.steps target := by
  rw [← walkWithin_eq_ok_iff]
  constructor
  · intro resolved
    rw [resolve] at resolved
    split at resolved
    · contradiction
    · next noNul =>
      split at resolved
      · contradiction
      · next nonempty =>
        split at resolved
        · contradiction
        · next short => exact ⟨⟨noNul, nonempty, Nat.not_lt.mp short⟩, resolved⟩
  · rintro ⟨walkable, walked⟩
    rw [walkable.resolve_eq, walked]

/-- A path leads to what the tree holds. -/
theorem resolve_fits {path : Path} {target : Target}
    (resolved : tree.resolve purpose path = .ok target) : tree.Fits target := by
  rcases resolve_eq_ok_iff.mp resolved with ⟨_, _, _, route⟩
  exact route.fits rfl

/-- An entry that a path leads to is in the tree. -/
theorem get?_of_resolve {path : Path} {location : Location} {entry : Entry} {slash : Bool}
    (resolved : tree.resolve purpose path = .ok (.found location entry slash)) :
    tree.get? location = some entry :=
  (resolve_fits resolved).entry

/-- What a path for a new entry leads to is seen by looking, unless it is a link. -/
theorem resolve_look {path : Path} {target : Target}
    (resolved : tree.resolve purpose path = .ok target)
    (noLink : purpose = .make → ∀ path, target.occupant? ≠ some (.link path)) :
    tree.resolve .look path = .ok target := by
  rw [resolve_eq_ok_iff] at resolved ⊢
  rcases resolved with ⟨walkable, links, few, route⟩
  exact ⟨walkable, links, few, route.look noLink⟩

/-- A path for writing leads where looking does, and does not end in a slash. -/
theorem resolve_write {path : Path} {target : Target}
    (resolved : tree.resolve .write path = .ok target) :
    tree.resolve .look path = .ok target ∧ target.slash = false := by
  refine ⟨resolve_look resolved (by simp), ?_⟩
  rcases resolve_eq_ok_iff.mp resolved with ⟨_, _, _, route⟩
  exact route.slash_eq_false

end Inset.FileTree
