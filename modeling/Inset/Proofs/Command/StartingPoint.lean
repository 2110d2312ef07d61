import Inset.Proofs.Command.Running
import Inset.Proofs.FileTree.Plain

/-!
# Where a command is started

A command depends on its working directory through the manifest that it finds, and through
nothing else (`runCommand_eq_of_found`).  The directory of a manifest, the directories below
it that have none on the way, and every directory from which the manifest is named all lead
to the same candidate.  So a command does the same from each of them
(`runCommand_from_anywhere`).
-/

namespace Inset.Command

open FileTree
open Inset.Path (fromRoot IsMove)

variable {tree : FileTree} {directory start : Path} {named : Option Path}
  {found : FoundManifest}

/-! ## The same manifest -/

/-- A command that has found a manifest does what it does with that manifest, wherever it
was started. -/
theorem run_eq_of_found {directory' : Path} {named' : Option Path} (verbose : Bool)
    (action : Action)
    (searched : (findManifest directory named : StateM FileTree _).run tree = (.ok found, tree))
    (searched' : (findManifest directory' named' : StateM FileTree _).run tree =
      (.ok found, tree)) :
    (Invocation.run ⟨named, verbose, action⟩ directory : StateM FileTree _).run tree =
      (Invocation.run ⟨named', verbose, action⟩ directory' : StateM FileTree _).run tree := by
  rw [Invocation.run, Invocation.run, run_bind searched, run_bind searched']

theorem runCommand_eq_of_found {directory' : Path} {named' : Option Path} {verbose : Bool}
    {action : Action} {arguments arguments' : List String}
    (asks : Request.ofArguments arguments = .run ⟨named, verbose, action⟩)
    (asks' : Request.ofArguments arguments' = .run ⟨named', verbose, action⟩)
    (searched : (findManifest directory named : StateM FileTree _).run tree = (.ok found, tree))
    (searched' : (findManifest directory' named' : StateM FileTree _).run tree =
      (.ok found, tree)) (filterText : Option String) :
    (runCommand arguments filterText directory : StateM FileTree _).run tree =
      (runCommand arguments' filterText directory' : StateM FileTree _).run tree := by
  have same := run_eq_of_found verbose action searched searched'
  rw [runCommand, runCommand, asks, asks']
  simp only
  cases Filter.choose? filterText verbose with
  | none => rfl
  | some filter =>
      rcases ran : (Invocation.run ⟨named', verbose, action⟩ directory' :
        StateM FileTree _).run tree with ⟨report, after⟩
      rw [ran] at same
      simp only
      rw [run_bind ran, run_bind same]

/-! ## Candidates -/

variable {names below : List String}

/-- Below a directory, the directories between are searched before it. -/
theorem exists_candidates_fromRoot (isMove : ∀ name ∈ names ++ below, IsMove name) :
    ∃ nearer farther,
      candidates (fromRoot (names ++ below)) none =
        nearer ++ (fromRoot names).join manifestFileName :: farther ∧
      ∀ path ∈ nearer, ∃ front, front <+: below ∧ front ≠ [] ∧
        path = (fromRoot (names ++ front)).join manifestFileName := by
  obtain ⟨farther, above⟩ : ∃ farther,
      names.inits.reverse.map fromRoot = fromRoot names :: farther := by
    rw [← Path.ancestors_fromRoot fun name member =>
      isMove name (List.mem_append_left below member)]
    exact ⟨_, Path.ancestors_eq _⟩
  refine ⟨((below.inits.tail.map (names ++ ·)).reverse.map fromRoot).map
    (·.join manifestFileName), farther.map (·.join manifestFileName), ?_, ?_⟩
  · rw [candidates, Path.ancestors_fromRoot isMove, List.inits_append, List.reverse_append,
      List.map_append, above, List.map_append, List.map_cons]
  · intro path member
    simp only [List.mem_map, List.mem_reverse] at member
    rcases member with ⟨_, ⟨_, ⟨front, inTail, rfl⟩, rfl⟩, rfl⟩
    refine ⟨front, (List.mem_inits front below).mp (List.mem_of_mem_tail inTail), ?_, rfl⟩
    rintro rfl
    cases below <;> simp at inTail

theorem parent?_join_manifestFileName (isMove : ∀ name ∈ names, IsMove name) :
    ((fromRoot names).join manifestFileName).parent? = some (fromRoot names) :=
  Path.parent?_join_fromRoot isMove isMove_manifestFileName

/-- The manifest in a directory is found from every directory below it that has no other
one on the way. -/
theorem findManifest_below (isMove : ∀ name ∈ names ++ below, IsMove name) {text : String}
    (readable : tree.textAt ((fromRoot names).join manifestFileName) = .ok (some text))
    (vacant : ∀ front, front <+: below → front ≠ [] →
      tree.textAt ((fromRoot (names ++ front)).join manifestFileName) = .ok none) :
    (findManifest (fromRoot (names ++ below)) none : StateM FileTree _).run tree =
      (.ok ⟨(fromRoot names).join manifestFileName, fromRoot names, text⟩, tree) := by
  rcases exists_candidates_fromRoot isMove with ⟨nearer, farther, split, between⟩
  apply findManifest_eq_ok_iff.mpr
  refine ⟨nearer, ⟨farther, split⟩, ?_, readable, parent?_join_manifestFileName fun name member =>
    isMove name (List.mem_append_left below member)⟩
  intro path member
  rcases between path member with ⟨front, begins, nonempty, rfl⟩
  exact vacant front begins nonempty

/-- The manifest is found wherever it is named. -/
theorem findManifest_named (isMove : ∀ name ∈ names, IsMove name) {text : String}
    (readable : tree.textAt ((fromRoot names).join manifestFileName) = .ok (some text))
    {path : Path} (leads : (start.join path).clean = (fromRoot names).join manifestFileName) :
    (findManifest start (some path) : StateM FileTree _).run tree =
      (.ok ⟨(fromRoot names).join manifestFileName, fromRoot names, text⟩, tree) := by
  apply findManifest_eq_ok_iff.mpr
  exact ⟨[], ⟨[], by simp [candidates, leads]⟩, by simp, readable,
    parent?_join_manifestFileName isMove⟩

/-! ## The same outcome -/

/-- The directory of a manifest, every directory below it with no other manifest on the
way, and every directory from which the manifest is named: from all of them a command gives
the same outcome and the same tree. -/
theorem runCommand_from_anywhere (isMove : ∀ name ∈ names ++ below, IsMove name) {text : String}
    (readable : tree.textAt ((fromRoot names).join manifestFileName) = .ok (some text))
    (vacant : ∀ front, front <+: below → front ≠ [] →
      tree.textAt ((fromRoot (names ++ front)).join manifestFileName) = .ok none)
    {path : Path} (leads : (start.join path).clean = (fromRoot names).join manifestFileName)
    {verbose : Bool} {action : Action} {searching naming : List String}
    (searches : Request.ofArguments searching = .run ⟨none, verbose, action⟩)
    (namesManifest : Request.ofArguments naming = .run ⟨some path, verbose, action⟩)
    (filterText : Option String) :
    (runCommand searching filterText (fromRoot (names ++ below)) : StateM FileTree _).run tree =
      (runCommand searching filterText (fromRoot names) : StateM FileTree _).run tree ∧
    (runCommand naming filterText start : StateM FileTree _).run tree =
      (runCommand searching filterText (fromRoot names) : StateM FileTree _).run tree := by
  have isMoveAbove (name : String) (member : name ∈ names) : IsMove name :=
    isMove name (List.mem_append_left below member)
  have here : (findManifest (fromRoot names) none : StateM FileTree _).run tree =
      (.ok ⟨(fromRoot names).join manifestFileName, fromRoot names, text⟩, tree) := by
    have isMove' : ∀ name ∈ names ++ [], IsMove name := by rwa [List.append_nil]
    have nothingBelow := findManifest_below isMove' readable (by simp)
    rwa [List.append_nil] at nothingBelow
  exact ⟨runCommand_eq_of_found searches searches (findManifest_below isMove readable vacant)
      here filterText,
    runCommand_eq_of_found namesManifest searches
      (findManifest_named isMoveAbove readable leads) here filterText⟩

/-- A manifest in the directory `/p`, with the directories `/p/a` and `/p/a/b` below it. -/
def nestedTree (bytes : ByteArray) : FileTree :=
  (((FileTree.empty.put [] "p" .directory).put ["p"] "inlang.toml" (.file bytes)).put
    ["p"] "a" .directory).put ["a", "p"] "b" .directory

/-- Printing from two directories below the manifest, beside it, or from one directory below
it along a path that wanders. -/
theorem print_from_below :
    let tree := nestedTree "host=[[\"go\",\"v\",\"s\",\"g\"]]".toUTF8
    let print := ["print", "--host", "v", "-v"]
    (runCommand print none (fromRoot ["p", "a", "b"]) : StateM FileTree _).run tree =
      (runCommand print none (fromRoot ["p"]) : StateM FileTree _).run tree ∧
    (runCommand ["--manifest", "b/../.././inlang.toml", "-v", "print", "--host=v"] none
        ⟨"/p/a"⟩ : StateM FileTree _).run tree =
      (runCommand print none (fromRoot ["p"]) : StateM FileTree _).run tree := by
  have readable (text : String) : (nestedTree text.toUTF8).textAt
      ((fromRoot ["p"]).join manifestFileName) = .ok (some text) := by
    have path : (fromRoot ["p"]).join manifestFileName = ⟨"/p/inlang.toml"⟩ := by decide +kernel
    have resolved (bytes : ByteArray) : (nestedTree bytes).resolve .look ⟨"/p/inlang.toml"⟩ =
        .ok (.found ["inlang.toml", "p"] (.file bytes) false) := rfl
    rw [path]
    exact textAt_eq_some_iff_resolve.mpr ⟨_, resolved _⟩
  have vacant (bytes : ByteArray) (front : List String) (begins : front <+: ["a", "b"])
      (nonempty : front ≠ []) : (nestedTree bytes).textAt
        ((fromRoot (["p"] ++ front)).join manifestFileName) = .ok none := by
    have inA : (nestedTree bytes).resolve .look ⟨"/p/a/inlang.toml"⟩ =
        .ok (.vacant ["a", "p"] "inlang.toml" false) := rfl
    have inB : (nestedTree bytes).resolve .look ⟨"/p/a/b/inlang.toml"⟩ =
        .ok (.vacant ["b", "a", "p"] "inlang.toml" false) := rfl
    have either : front = ["a"] ∨ front = ["a", "b"] := by
      have among := (List.mem_inits front ["a", "b"]).mpr begins
      simpa [nonempty] using among
    rcases either with rfl | rfl
    · have path : (fromRoot ["p", "a"]).join manifestFileName = ⟨"/p/a/inlang.toml"⟩ := by
        decide +kernel
      rw [List.singleton_append, path, textAt, readText, readBytes, inA]
    · have path : (fromRoot ["p", "a", "b"]).join manifestFileName =
          ⟨"/p/a/b/inlang.toml"⟩ := by decide +kernel
      rw [List.singleton_append, path, textAt, readText, readBytes, inB]
  have isMove : ∀ name ∈ ["p"] ++ ["a", "b"], IsMove name := by
    simpa using ⟨⟨by decide, by decide, by decide⟩, ⟨by decide, by decide, by decide⟩,
      ⟨by decide, by decide, by decide⟩⟩
  have leads : ((⟨"/p/a"⟩ : Path).join ⟨"b/../.././inlang.toml"⟩).clean =
      (fromRoot ["p"]).join manifestFileName := by decide +kernel
  have searches : Request.ofArguments ["print", "--host", "v", "-v"] =
      .run ⟨none, true, .print (some "v")⟩ := by decide +kernel
  have namesManifest :
      Request.ofArguments ["--manifest", "b/../.././inlang.toml", "-v", "print", "--host=v"] =
        .run ⟨some ⟨"b/../.././inlang.toml"⟩, true, .print (some "v")⟩ := by decide +kernel
  exact runCommand_from_anywhere isMove (readable _) (vacant _) leads searches namesManifest none

end Inset.Command
