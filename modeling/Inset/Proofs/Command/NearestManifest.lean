import Inset.Proofs.Command.Discovery
import Inset.Proofs.Path.Ancestors

/-!
# The nearest manifest

A search asks for its candidates one after the other and ends at the first one that is there,
whether or not it can be read.  To say which paths it asks for, it is run on a file store that
keeps a note of them; the notes change nothing about what is found (`run_noted_findManifest`).
-/

namespace Inset

/-! ## Notes of what is asked -/

namespace Files

variable {m : Type → Type} [Monad m]

/-- Note the path that an operation is asked about. -/
def noting {α : Type} (path : Path) (operation : m α) : StateT (List Path) m α :=
  fun asked => do return (← operation, asked ++ [path])

/-- A file store that keeps a note of the paths that it is asked about, in their order. -/
instance noted [Files m] : Files (StateT (List Path) m) where
  readText path := noting path (readText path)
  makeDirectory path := noting path (makeDirectory path)
  isDirectory path := noting path (isDirectory path)
  writeText path text := noting path (writeText path text)

end Files

/-- Operations on a file tree, with notes of the paths that it is asked about. -/
abbrev Noted := StateT (List Path) (StateM FileTree)

namespace Command

open FileTree

variable {tree before after : FileTree} {asked asked' : List Path} {directory : Path}
  {named : Option Path}

theorem run_noted_bind {α β : Type} {operation : Noted α} {next : α → Noted β} {result : α}
    (ran : (operation.run asked).run before = ((result, asked'), after)) :
    ((operation >>= next).run asked).run before = ((next result).run asked').run after := by
  rw [StateT.run_bind, StateT.run_bind, ran]
  rfl

theorem run_noted_readIfExists (path : Path) (asked : List Path) (tree : FileTree) :
    ((Files.readIfExists path : Noted _).run asked).run tree =
      ((tree.textAt path, asked ++ [path]), tree) := by
  have read : ((Files.readText path : Noted _).run asked).run tree =
      ((tree.readText path, asked ++ [path]), tree) := rfl
  rw [Files.readIfExists, run_noted_bind read, textAt]
  cases tree.readText path with
  | ok text => rfl
  | error cause => cases cause <;> rfl

/-- The candidates that a search asks for: all up to the first one that is there. -/
def consulted (tree : FileTree) : List Path → List Path
  | [] => []
  | path :: rest =>
      path :: match tree.textAt path with
        | .ok none => consulted tree rest
        | _ => []

/-- With notes a search finds the same, and it asks for the candidates up to the first one that
is there. -/
theorem run_noted_firstFound (paths asked : List Path) (tree : FileTree) :
    ((firstFound paths : Noted _).run asked).run tree =
      ((((firstFound paths : StateM FileTree _).run tree).1, asked ++ consulted tree paths),
        tree) := by
  induction paths generalizing asked with
  | nil => rw [consulted, List.append_nil]; rfl
  | cons path rest ih =>
      rw [firstFound, run_noted_bind (run_noted_readIfExists path asked tree), consulted,
        run_firstFound_cons]
      cases tree.textAt path with
      | error error => rfl
      | ok text =>
          cases text with
          | none =>
              simp only [ih, List.append_assoc, List.singleton_append]
          | some text => cases path.parent? <;> rfl

theorem consulted_append {nearer : List Path}
    (vacant : ∀ path ∈ nearer, tree.textAt path = .ok none) (farther : List Path) :
    consulted tree (nearer ++ farther) = nearer ++ consulted tree farther := by
  induction nearer with
  | nil => rfl
  | cons path rest ih =>
      rw [List.forall_mem_cons] at vacant
      rw [List.cons_append, consulted, vacant.1, List.cons_append]
      exact congrArg (path :: ·) (ih vacant.2)

theorem run_noted_findManifest (directory : Path) (named : Option Path) (tree : FileTree) :
    ((findManifest directory named : Noted _).run []).run tree =
      ((((findManifest directory named : StateM FileTree _).run tree).1,
        consulted tree (candidates directory named)), tree) := by
  rw [run_findManifest, findManifest_eq_map, StateT.run_map, StateT.run_map,
    run_noted_firstFound, List.nil_append]
  rfl

/-! ## How a search ends -/

/-- Whether a search on a tree comes to a result and asks for the given paths, in their order,
and for no others. -/
structure Searches (tree : FileTree) (directory : Path) (named : Option Path)
    (result : Except DiscoveryError FoundManifest) (asked : List Path) : Prop where
  comesTo : (findManifest directory named : StateM FileTree _).run tree = (result, tree)
  asksFor : ((findManifest directory named : Noted _).run []).run tree = ((result, asked), tree)

theorem searches_of_run {result : Except DiscoveryError FoundManifest}
    (concludes : conclude directory named
      ((firstFound (candidates directory named) : StateM FileTree _).run tree).1 = result)
    (asks : consulted tree (candidates directory named) = asked) :
    Searches tree directory named result asked := by
  have ran := run_findManifest directory named tree
  rw [concludes] at ran
  refine ⟨ran, ?_⟩
  rw [run_noted_findManifest, ran, asks]

/-- A search without success asks for all candidates. -/
theorem searches_of_vacant
    (vacant : ∀ path ∈ candidates directory named, tree.textAt path = .ok none) :
    Searches tree directory named (conclude directory named (.ok none))
      (candidates directory named) := by
  have ran := run_firstFound_append vacant []
  have asks := consulted_append vacant []
  rw [List.append_nil] at ran asks
  apply searches_of_run
  · rw [ran]
    rfl
  · rw [asks, consulted, List.append_nil]

/-- A named manifest is the only candidate. -/
theorem candidates_named (directory path : Path) :
    candidates directory (some path) = [] ++ (directory.join path).clean :: [] :=
  rfl

section

variable {nearer farther : List Path} {path parent : Path} {cause : StoreError} {text : String}
  (split : candidates directory named = nearer ++ path :: farther)
  (vacant : ∀ closer ∈ nearer, tree.readText closer = .error .noEntry)

include split vacant

/-- A search ends with an error at the first candidate that is there if it cannot be read. -/
theorem searches_unreadable (refused : tree.readText path = .error cause)
    (there : cause ≠ .noEntry) :
    Searches tree directory named (.error (.unreadable ⟨path, cause⟩)) (nearer ++ [path]) := by
  have vacant' (closer : Path) (member : closer ∈ nearer) :=
    textAt_of_noEntry (vacant closer member)
  have read := textAt_of_error there refused
  apply searches_of_run
  · rw [split, run_firstFound_append vacant', run_firstFound_cons, read]
    rfl
  · rw [split, consulted_append vacant', consulted, read]

/-- A search ends with the first candidate that is there if it can be read. -/
theorem searches_found (read : tree.readText path = .ok text)
    (above : path.parent? = some parent) :
    Searches tree directory named (.ok ⟨path, parent, text⟩) (nearer ++ [path]) := by
  have vacant' (closer : Path) (member : closer ∈ nearer) :=
    textAt_of_noEntry (vacant closer member)
  have read' := textAt_eq_some_iff.mpr read
  apply searches_of_run
  · rw [split, run_firstFound_append vacant', run_firstFound_cons, read', above]
    rfl
  · rw [split, consulted_append vacant', consulted, read']

end

/-! ## Parents -/

/-- The root is a directory. -/
theorem readText_root (tree : FileTree) :
    tree.readText (Path.fromRoot []) = .error .isDirectory := by
  have resolved : tree.resolve .look (Path.fromRoot []) = .ok (.found [] .directory false) := rfl
  rw [readText, readBytes, resolved]

/-- A candidate that can be read has a parent. -/
theorem exists_parent_of_candidate (rooted : directory.isRooted) {path : Path} {text : String}
    (member : path ∈ candidates directory named) (read : tree.readText path = .ok text) :
    ∃ parent, path.parent? = some parent := by
  cases named with
  | none =>
      rcases List.mem_map.mp member with ⟨ancestor, above, rfl⟩
      rcases Path.exists_parent_of_join (Path.isRooted_of_ancestor rooted above)
        isMove_manifestFileName with ⟨parent, parent_eq, _⟩
      exact ⟨parent, parent_eq⟩
  | some name =>
      obtain rfl := List.mem_singleton.mp member
      have joined := Path.isRooted_join rooted name
      by_cases top : (directory.join name).location = []
      · rw [Path.clean_of_isRooted joined, top, List.reverse_nil, readText_root] at read
        contradiction
      · exact ⟨_, Path.parent?_clean joined top⟩

/-- If every candidate that can be read has a parent, no search misses one. -/
theorem firstFound_ne_noDirectory {paths : List Path}
    (parents : ∀ path ∈ paths, ∀ text, tree.readText path = .ok text →
      ∃ parent, path.parent? = some parent) (path : Path) :
    ((firstFound paths : StateM FileTree _).run tree).1 ≠ .error (.noDirectory path) := by
  induction paths with
  | nil => simp [firstFound]
  | cons first rest ih =>
      rw [List.forall_mem_cons] at parents
      rw [run_firstFound_cons]
      split
      · simp
      · exact ih parents.2
      · next text read =>
        rcases parents.1 text (textAt_eq_some_iff.mp read) with ⟨parent, above⟩
        simp [above]

/-- Seen from a rooted directory, no manifest is without a directory. -/
theorem findManifest_ne_noDirectory (rooted : directory.isRooted) (named : Option Path)
    (tree : FileTree) (path : Path) :
    ((findManifest directory named : StateM FileTree _).run tree).1 ≠
      .error (.noDirectory path) := by
  have parents : ∀ path ∈ candidates directory named, ∀ text, tree.readText path = .ok text →
      ∃ parent, path.parent? = some parent :=
    fun path member text read => exists_parent_of_candidate rooted member read
  have first := firstFound_ne_noDirectory parents path
  rw [run_findManifest]
  revert first
  cases ((firstFound (candidates directory named) : StateM FileTree _).run tree).1 with
  | error error => simp [conclude]
  | ok result =>
      cases result with
      | none => cases named <;> simp [conclude]
      | some found => simp [conclude]

/-! ## The nearest manifest -/

/-- From a rooted directory, the manifest that is searched for is the nearest one among those
beside the directory and the directories above it.  If there is none at all, the search fails
after asking for every one of them.  If the nearest one cannot be read, it fails with an error
that names it, and otherwise it gives its path, its directory and its text; in both cases it
asks for none that is farther away.  If a manifest is named, its cleaned path is all that is
asked for.  No manifest is without a directory. -/
theorem findManifest_nearest (rooted : directory.isRooted) (tree : FileTree) :
    directory.ancestors.map Path.components = directory.components.inits.tail.reverse ∧
    ((∀ ancestor ∈ directory.ancestors,
        tree.readText (ancestor.join manifestFileName) = .error .noEntry) →
      Searches tree directory none (.error (.nowhere directory))
        (directory.ancestors.map (·.join manifestFileName))) ∧
    (∀ nearer ancestor farther, directory.ancestors = nearer ++ ancestor :: farther →
      (∀ closer ∈ nearer, tree.readText (closer.join manifestFileName) = .error .noEntry) →
      (∀ cause, cause ≠ .noEntry →
        tree.readText (ancestor.join manifestFileName) = .error cause →
        Searches tree directory none
          (.error (.unreadable ⟨ancestor.join manifestFileName, cause⟩))
          ((nearer ++ [ancestor]).map (·.join manifestFileName))) ∧
      ∀ text, tree.readText (ancestor.join manifestFileName) = .ok text →
        ∃ parent, parent.components = ancestor.components ∧
          (ancestor.clean = ancestor → parent = ancestor) ∧
          Searches tree directory none (.ok ⟨ancestor.join manifestFileName, parent, text⟩)
            ((nearer ++ [ancestor]).map (·.join manifestFileName))) ∧
    (∀ path,
      (tree.readText (directory.join path).clean = .error .noEntry →
        Searches tree directory (some path) (.error (.missing path))
          [(directory.join path).clean]) ∧
      (∀ cause, cause ≠ .noEntry → tree.readText (directory.join path).clean = .error cause →
        Searches tree directory (some path)
          (.error (.unreadable ⟨(directory.join path).clean, cause⟩))
          [(directory.join path).clean]) ∧
      ∀ text, tree.readText (directory.join path).clean = .ok text →
        ∃ parent, (directory.join path).clean.parent? = some parent ∧
          Searches tree directory (some path) (.ok ⟨(directory.join path).clean, parent, text⟩)
            [(directory.join path).clean]) ∧
    ∀ named path, ((findManifest directory named : StateM FileTree _).run tree).1 ≠
      .error (.noDirectory path) := by
  refine ⟨Path.map_components_ancestors rooted, fun vacant => ?_, ?_, fun path => ⟨?_, ?_, ?_⟩,
    fun named => findManifest_ne_noDirectory rooted named tree⟩
  · have vacant' : ∀ path ∈ candidates directory none, tree.textAt path = .ok none := by
      intro path member
      rcases List.mem_map.mp member with ⟨ancestor, above, rfl⟩
      exact textAt_of_noEntry (vacant ancestor above)
    exact searches_of_vacant vacant'
  · intro nearer ancestor farther split vacant
    have above : ancestor.isRooted := Path.isRooted_of_ancestor rooted (by simp [split])
    have split' : candidates directory none = nearer.map (·.join manifestFileName) ++
        ancestor.join manifestFileName :: farther.map (·.join manifestFileName) := by
      rw [candidates, split, List.map_append, List.map_cons]
    have vacant' : ∀ path ∈ nearer.map (·.join manifestFileName),
        tree.readText path = .error .noEntry := by
      simpa using vacant
    rw [List.map_append]
    constructor
    · exact fun cause there refused => searches_unreadable split' vacant' refused there
    · intro text read
      rcases Path.exists_parent_of_join above isMove_manifestFileName with
        ⟨parent, parent_eq, same, clean⟩
      exact ⟨parent, same, clean, searches_found split' vacant' read parent_eq⟩
  · intro vacant
    have vacant' : ∀ path' ∈ candidates directory (some path), tree.textAt path' = .ok none := by
      simpa [candidates] using textAt_of_noEntry vacant
    exact searches_of_vacant vacant'
  · intro cause there refused
    exact searches_unreadable (candidates_named directory path) (by simp) refused there
  · intro text read
    have only := candidates_named directory path
    rcases exists_parent_of_candidate rooted (by rw [only]; simp) read with ⟨parent, above⟩
    exact ⟨parent, above, searches_found only (by simp) read above⟩

/-- A manifest in the directory `/p`, and in `/p/a` a directory in the place of one. -/
def blockedTree (bytes : ByteArray) : FileTree :=
  ((((FileTree.empty.put [] "p" .directory).put ["p"] "inlang.toml" (.file bytes)).put
    ["p"] "a" .directory).put ["a", "p"] "inlang.toml" .directory).put ["a", "p"] "b" .directory

/-- A search does not go past a directory in the place of a manifest, but the manifest behind it
can be named. -/
theorem findManifest_blocked :
    Searches (blockedTree "x".toUTF8) ⟨"/p/a/b"⟩ none
        (.error (.unreadable ⟨⟨"/p/a/inlang.toml"⟩, .isDirectory⟩))
        [⟨"/p/a/b/inlang.toml"⟩, ⟨"/p/a/inlang.toml"⟩] ∧
      ∃ parent, Searches (blockedTree "x".toUTF8) ⟨"/p/a/b"⟩ (some ⟨".././../inlang.toml"⟩)
        (.ok ⟨⟨"/p/inlang.toml"⟩, parent, "x"⟩) [⟨"/p/inlang.toml"⟩] := by
  have rooted : (⟨"/p/a/b"⟩ : Path).isRooted := by decide
  rcases findManifest_nearest rooted (blockedTree "x".toUTF8) with ⟨_, _, nearest, explicit, _⟩
  constructor
  · have ancestors : (⟨"/p/a/b"⟩ : Path).ancestors =
        [⟨"/p/a/b"⟩] ++ ⟨"/p/a"⟩ :: [⟨"/p"⟩, ⟨"/"⟩] := by decide +kernel
    have closer : (⟨"/p/a/b"⟩ : Path).join manifestFileName = ⟨"/p/a/b/inlang.toml"⟩ := by
      decide +kernel
    have here : (⟨"/p/a"⟩ : Path).join manifestFileName = ⟨"/p/a/inlang.toml"⟩ := by
      decide +kernel
    have vacant (bytes : ByteArray) :
        (blockedTree bytes).readText ⟨"/p/a/b/inlang.toml"⟩ = .error .noEntry := rfl
    have blocked (bytes : ByteArray) :
        (blockedTree bytes).readText ⟨"/p/a/inlang.toml"⟩ = .error .isDirectory := rfl
    have ends := (nearest _ _ _ ancestors (by simpa [closer] using vacant _)).1 .isDirectory
      (by decide) (by simpa [here] using blocked _)
    simpa [closer, here] using ends
  · have clean : ((⟨"/p/a/b"⟩ : Path).join ⟨".././../inlang.toml"⟩).clean =
        ⟨"/p/inlang.toml"⟩ := by decide +kernel
    have resolved (bytes : ByteArray) : (blockedTree bytes).resolve .look ⟨"/p/inlang.toml"⟩ =
        .ok (.found ["inlang.toml", "p"] (.file bytes) false) := rfl
    have found := (explicit ⟨".././../inlang.toml"⟩).2.2 "x"
    rw [clean] at found
    rcases found (readText_of_resolve (resolved _)) with ⟨parent, _, searches⟩
    exact ⟨parent, searches⟩

end Command

end Inset
