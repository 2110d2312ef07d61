import Inset.Proofs.Command.Running
import Inset.Proofs.Generated.Assembly
import Inset.Proofs.Generated.Checking
import Inset.Proofs.Manifest.Toml

/-!
# Checking after building

A check after a build reads the manifest again, and it does not have to find the one
that was built from: a file may have been written over it, or a nearer candidate may
have come to be.  In a tree without links, `check_after_build_iff` says that the
check succeeds and the manifest is still the same exactly if the files spare the
candidates and agree with each other.
-/

namespace Inset.Command

open FileTree

variable {tree after : FileTree} {directory root : Path} {named : Option Path}
  {found : FoundManifest} {nearer : List Path} {files : List GeneratedFile}

/-! ## Where candidates lead -/

/-- The directory of a manifest that is found is there. -/
theorem isEntered_of_isFirst {paths : List Path} (noLinks : tree.NoLinks)
    (first : IsFirst tree paths nearer found) : tree.IsEntered found.directory := by
  rcases Path.steps_of_parent first.above with ⟨step, rest, split⟩
  rcases textAt_eq_some_iff_resolve.mp first.text with ⟨location, resolved⟩
  have leadsOn := leadsOn_of_resolve noLinks resolved
  have short := short_of_resolve noLinks resolved
  rw [split] at leadsOn short
  rcases leadsOn_append.mp leadsOn with ⟨start, later⟩
  exact ⟨start, (leadsOn_cons.mp later).1, fun step member => short step (by simp [member])⟩

/-- Only candidates in the directories above the working directory have others nearer. -/
theorem exists_ancestor_of_nearer {farther : List Path}
    (split : candidates directory named = nearer ++ found.path :: farther) {path : Path}
    (member : path ∈ nearer) :
    ∃ above ∈ directory.ancestors, path = above.join manifestFileName := by
  cases named with
  | some given =>
      have alone := congrArg List.length split
      have nonempty := List.length_pos_of_mem member
      simp [candidates] at alone
      omega
  | none =>
      have candidate : path ∈ directory.ancestors.map (·.join manifestFileName) := by
        rw [← candidates, split]
        exact List.mem_append_left _ member
      rcases List.mem_map.mp candidate with ⟨above, inAncestors, rfl⟩
      exact ⟨above, inAncestors, rfl⟩

/-- A nearer candidate leads where its steps lead by name, though nothing is there. -/
theorem location?_of_nearer (noLinks : tree.NoLinks) (isDirectory : tree.isDirectory directory)
    (first : IsFirst tree (candidates directory named) nearer found) {path : Path}
    (member : path ∈ nearer) : tree.location? path = some path.location := by
  rcases first.split with ⟨farther, split⟩
  rcases exists_ancestor_of_nearer split member with ⟨above, inAncestors, rfl⟩
  have begins := Path.steps_of_ancestor inAncestors
  have entered := (isEntered_of_isDirectory noLinks isDirectory).of_above begins
  have steps : (above.join manifestFileName).steps = above.steps ++ ["inlang.toml"] := by
    rw [Path.steps_join above (by decide)]
    rfl
  have nonempty : (above.join manifestFileName).text ≠ "" := by
    intro empty
    have none : (above.join manifestFileName).steps = [] := by
      rw [Path.steps, Path.pieces, empty]
      rfl
    simp [steps] at none
  have walkable := isWalkable_of_textAt_eq_none nonempty (first.vacant _ member)
  have leadsOn : tree.LeadsOn [] (above.join manifestFileName).steps := by
    rw [steps, leadsOn_append, leadsOn_singleton]
    exact ⟨entered.leadsOn, entered.directory⟩
  have short : ∀ step ∈ (above.join manifestFileName).steps,
      step.utf8ByteSize ≤ longestName := by
    rw [steps, List.forall_mem_append]
    exact ⟨entered.short, by decide⟩
  rcases exists_resolve noLinks walkable leadsOn short with ⟨target, resolved⟩
  rw [location?_eq_some resolved, location_of_resolve noLinks resolved]

/-! ## What the files do to the candidates -/

/-- Whether no file goes where one of some paths leads, or below it. -/
def Spares (root : Path) (files : List GeneratedFile) (paths : List Path) : Prop :=
  ∀ file ∈ files, ∀ path ∈ paths, ¬path.location <:+ (root.join file.path).location

/-- Whether files that go to one location have the same content. -/
def Agree (root : Path) (files : List GeneratedFile) : Prop :=
  ∀ first ∈ files, ∀ second ∈ files,
    (root.join first.path).location = (root.join second.path).location →
      first.content = second.content

/-- A build in a tree without links that has found a manifest after the candidates in
`nearer` and has written every file. -/
structure Built (tree after : FileTree) (directory : Path) (named : Option Path)
    (nearer : List Path) (found : FoundManifest) (manifest : Manifest)
    (written : WriteReport) : Prop where
  noLinks : tree.NoLinks
  isDirectory : tree.isDirectory directory
  first : IsFirst tree (candidates directory named) nearer found
  read : Manifest.ofToml found.text = .ok manifest
  ran : (writeGenerated found.directory manifest.assemble : StateM FileTree _).run tree =
    (written, after)
  succeeded : written.failure = none

namespace Built

variable {manifest : Manifest} {written : WriteReport}
  (built : Built tree after directory named nearer found manifest written)

include built

theorem entered : tree.IsEntered found.directory :=
  isEntered_of_isFirst built.noLinks built.first

theorem normal : ∀ file ∈ manifest.assemble, file.path.IsNormal :=
  fun _ member => Manifest.isNormal_of_assemble (Manifest.validate_of_ofToml built.read) member

/-- A nearer candidate still leads to nothing exactly if no file goes there or below. -/
theorem textAt_nearer_iff {path : Path} (member : path ∈ nearer) :
    after.textAt path = .ok none ↔
      ∀ file ∈ manifest.assemble,
        ¬path.location <:+ (found.directory.join file.path).location := by
  have leads := location?_of_nearer built.noLinks built.isDirectory built.first member
  have vacant := (textAt_eq_none_iff leads).mp (built.first.vacant path member)
  have present := isSome_get?_of_written built.noLinks built.ran built.succeeded built.entered
    built.normal vacant
  rw [textAt_eq_none_iff (location?_of_grows
    (grows_of_writeGenerated built.ran built.succeeded) leads), ← Option.not_isSome_iff_eq_none,
    present]
  simp

/-- What can be read under a nearer candidate now is no manifest. -/
theorem ofToml_nearer_ne_ok {path : Path} (member : path ∈ nearer) {text : String}
    (now : after.textAt path = .ok (some text)) (manifest' : Manifest) :
    Manifest.ofToml text ≠ .ok manifest' := by
  have leads := location?_of_nearer built.noLinks built.isDirectory built.first member
  have vacant := (textAt_eq_none_iff leads).mp (built.first.vacant path member)
  rcases textAt_eq_some_iff_resolve.mp now with ⟨location, resolved⟩
  have same : location = path.location := location_of_resolve
    (noLinks_of_written built.noLinks built.ran built.succeeded) resolved
  rcases exists_content_of_new built.noLinks built.ran
    built.succeeded built.entered built.normal vacant (same ▸ get?_of_resolve resolved) with
    ⟨file, inFiles, content⟩
  rw [String.toByteArray_inj.mp content]
  exact Manifest.ofToml_ne_ok_of_brace (Manifest.head?_content_assemble inFiles) manifest'

/-- The manifest is a file where its steps lead by name. -/
theorem resolve_found : tree.resolve .look found.path =
    .ok (.found found.path.location (.file found.text.toUTF8) false) := by
  rcases textAt_eq_some_iff_resolve.mp built.first.text with ⟨location, resolved⟩
  rw [← location_of_resolve built.noLinks resolved]
  exact resolved

/-- The manifest is still the same exactly if no file goes there or below. -/
theorem readBytes_found_iff :
    after.readBytes found.path = tree.readBytes found.path ↔
      ∀ file ∈ manifest.assemble,
        ¬found.path.location <:+ (found.directory.join file.path).location := by
  have resolved := built.resolve_found
  have entry := get?_of_resolve resolved
  have grows := grows_of_writeGenerated built.ran built.succeeded
  rw [readBytes_eq_ok_iff.mpr ⟨_, resolved⟩]
  constructor
  · intro same file member above
    rcases readBytes_eq_ok_iff.mp same with ⟨location, resolved'⟩
    have here : location = found.path.location := location_of_resolve
      (noLinks_of_written built.noLinks built.ran built.succeeded) resolved'
    have entry' := get?_of_resolve resolved'
    rw [here] at entry'
    rcases exists_file_at_location built.noLinks built.ran built.succeeded member with
      ⟨content, inner⟩
    by_cases strict : found.path.location = (found.directory.join file.path).location
    · -- The file has been written over the manifest, which is no object.
      rcases exists_content_of_written built.noLinks built.ran
        built.succeeded ⟨file, member, strict.symm⟩ with ⟨last, lastMember, entry''⟩
      rw [entry', Option.some.injEq, Entry.file.injEq, String.toUTF8_eq_toByteArray,
        String.toUTF8_eq_toByteArray, String.toByteArray_inj] at entry''
      refine Manifest.ofToml_ne_ok_of_brace ?_ manifest built.read
      rw [entry'']
      exact Manifest.head?_content_assemble lastMember
    · have present : (after.get? (found.directory.join file.path).location).isSome := by
        simp [inner]
      have isDirectory := get?_of_suffix above strict present
      simp [entry'] at isDirectory
  · intro spared
    have kept : after.get? found.path.location = tree.get? found.path.location := by
      refine get?_of_written_elsewhere built.noLinks built.ran built.succeeded (by simp [entry]) ?_
      intro file member here
      exact spared file member (here ▸ List.suffix_rfl)
    rw [entry] at kept
    exact readBytes_eq_ok_iff.mpr ⟨_, resolve_file_of_grows grows resolved rfl kept⟩

/-- The same manifest is found again if the candidates are spared. -/
theorem first_again
    (spares : Spares found.directory manifest.assemble (nearer ++ [found.path])) :
    IsFirst after (candidates directory named) nearer found where
  split := built.first.split
  vacant path member := (built.textAt_nearer_iff member).mpr fun file inFiles =>
    spares file inFiles path (List.mem_append_left _ member)
  text := by
    have same := built.readBytes_found_iff.mpr fun file member =>
      spares file member found.path (by simp)
    rw [readBytes_eq_ok_iff.mpr ⟨_, built.resolve_found⟩] at same
    exact textAt_eq_some_iff.mpr (readText_eq_ok_iff.mpr same)
  above := built.first.above

/-- If the manifest has stayed the same, no other one is found and accepted. -/
theorem eq_of_first_again {nearer' : List Path} {found' : FoundManifest} {manifest' : Manifest}
    (same : after.readBytes found.path = tree.readBytes found.path)
    (again : IsFirst after (candidates directory named) nearer' found')
    (read' : Manifest.ofToml found'.text = .ok manifest') :
    nearer' = nearer ∧ found' = found := by
  rw [readBytes_eq_ok_iff.mpr ⟨_, built.resolve_found⟩] at same
  have now : after.textAt found.path = .ok (some found.text) :=
    textAt_eq_some_iff.mpr (readText_eq_ok_iff.mpr same)
  have whole (samePath : found'.path = found.path) : found' = found := by
    have sameText := again.text
    have sameDirectory := again.above
    rw [samePath, now] at sameText
    rw [samePath, built.first.above] at sameDirectory
    cases found
    cases found'
    simp_all
  rcases built.first.split with ⟨farther, split⟩
  rcases again.split with ⟨farther', split'⟩
  rcases List.append_eq_append_iff.mp (split.symm.trans split') with
    ⟨between, later, rest⟩ | ⟨between, earlier, rest⟩
  · cases between with
    | nil =>
        rcases List.cons.inj rest with ⟨samePath, _⟩
        exact ⟨by simpa using later, whole samePath.symm⟩
    | cons passed between =>
        -- The manifest itself would have been passed over.
        rcases List.cons.inj rest with ⟨rfl, _⟩
        have vacant := again.vacant found.path (by simp [later])
        simp [now] at vacant
  · cases between with
    | nil =>
        rcases List.cons.inj rest with ⟨samePath, _⟩
        exact ⟨by simpa using earlier.symm, whole samePath⟩
    | cons nearest between =>
        -- A nearer candidate would have been read.
        rcases List.cons.inj rest with ⟨rfl, _⟩
        have member : found'.path ∈ nearer := by simp [earlier]
        exact absurd read' (built.ofToml_nearer_ne_ok member again.text manifest')

/-- No file differs from what has been written exactly if the files agree. -/
theorem differences_eq_nil_iff {differences : Except IoError (List (Path × Difference))}
    {last : FileTree}
    (checked : (checkGenerated found.directory manifest.assemble : StateM FileTree _).run after =
      (differences, last)) :
    differences = .ok [] ↔ Agree found.directory manifest.assemble := by
  rw [run_checkGenerated_of_written built.ran built.succeeded] at checked
  cases checked
  rw [Except.ok.injEq, List.map_eq_nil_iff,
    filter_isWrittenOver_eq_nil_iff built.ran built.succeeded]
  apply forall₂_congr
  intro first firstMember
  apply forall₂_congr
  intro second secondMember
  rw [location?_of_written built.noLinks built.ran built.succeeded firstMember,
    location?_of_written built.noLinks built.ran built.succeeded secondMember,
    Option.some.injEq]

/-- The check succeeds with the manifest still the same exactly if the files spare the
candidates and agree with each other. -/
theorem check_iff (verbose : Bool) :
    (after.readBytes found.path = tree.readBytes found.path ∧
        ((Invocation.run ⟨named, verbose, .check⟩ directory : StateM FileTree _).run
          after).1.exit = 0) ↔
      Spares found.directory manifest.assemble (nearer ++ [found.path]) ∧
        Agree found.directory manifest.assemble := by
  constructor
  · rintro ⟨same, succeeded⟩
    rcases ran : (Invocation.run ⟨named, verbose, .check⟩ directory : StateM FileTree _).run after
      with ⟨report, last⟩
    rw [ran] at succeeded
    rcases exists_of_run ran succeeded with
      ⟨found', manifest', performed, searched, read', acted, exit⟩
    rcases findManifest_eq_ok_iff.mp searched with ⟨nearer', again⟩
    rcases built.eq_of_first_again same again read' with ⟨rfl, rfl⟩
    obtain rfl : manifest' = manifest := Except.ok.inj (read'.symm.trans built.read)
    have spared := built.readBytes_found_iff.mp same
    constructor
    · intro file member path candidate
      rcases List.mem_append.mp candidate with inNearer | here
      · exact (built.textAt_nearer_iff inNearer).mp (again.vacant path inNearer) file member
      · rw [List.mem_singleton.mp here]
        exact spared file member
    · rcases checked : (checkGenerated found'.directory manifest'.assemble :
        StateM FileTree _).run after with ⟨differences, unchanged⟩
      rw [run_check checked] at acted
      cases acted
      exact (built.differences_eq_nil_iff checked).mp (exit_checkReport_eq_zero_iff.mp exit)
  · rintro ⟨spares, agree⟩
    have searched := findManifest_eq_ok_iff.mpr ⟨nearer, built.first_again spares⟩
    rcases checked : (checkGenerated found.directory manifest.assemble :
      StateM FileTree _).run after with ⟨differences, unchanged⟩
    constructor
    · apply built.readBytes_found_iff.mpr
      intro file member
      exact spares file member found.path (by simp)
    · rw [exit_run searched built.read (run_check checked)]
      exact exit_checkReport_eq_zero_iff.mpr ((built.differences_eq_nil_iff checked).mpr agree)

end Built

/-- A build that succeeds has found a manifest and has written its files. -/
theorem exists_built {verbose : Bool} {report : Report} (noLinks : tree.NoLinks)
    (isDirectory : tree.isDirectory directory)
    (ran : (Invocation.run ⟨named, verbose, .build⟩ directory : StateM FileTree _).run tree =
      (report, after))
    (succeeded : report.exit = 0) :
    ∃ nearer found manifest written,
      Built tree after directory named nearer found manifest written := by
  rcases exists_of_run ran succeeded with
    ⟨found, manifest, performed, searched, read, acted, exit⟩
  rcases findManifest_eq_ok_iff.mp searched with ⟨nearer, first⟩
  rcases wrote : (writeGenerated found.directory manifest.assemble : StateM FileTree _).run tree
    with ⟨written, last⟩
  rw [run_build wrote] at acted
  cases acted
  exact ⟨nearer, found, manifest, written, noLinks, isDirectory, first, read, wrote,
    exit_buildReport_eq_zero_iff.mp exit⟩

/-- After a build that succeeds in a tree without links, the manifest file holds the same
bytes and a check succeeds, exactly if the generated files spare the manifest and the
nearer candidates, and those that go to one location have the same content. -/
theorem check_after_build_iff {verbose : Bool} {report : Report} (noLinks : tree.NoLinks)
    (isDirectory : tree.isDirectory directory)
    (ran : (Invocation.run ⟨named, verbose, .build⟩ directory : StateM FileTree _).run tree =
      (report, after))
    (succeeded : report.exit = 0) :
    ∃ nearer found manifest, IsFirst tree (candidates directory named) nearer found ∧
      Manifest.ofToml found.text = .ok manifest ∧
      ((after.readBytes found.path = tree.readBytes found.path ∧
          ((Invocation.run ⟨named, verbose, .check⟩ directory : StateM FileTree _).run
            after).1.exit = 0) ↔
        Spares found.directory manifest.assemble (nearer ++ [found.path]) ∧
          Agree found.directory manifest.assemble) := by
  rcases exists_built noLinks isDirectory ran succeeded with
    ⟨nearer, found, manifest, written, built⟩
  exact ⟨nearer, found, manifest, built.first, built.read, built.check_iff verbose⟩

/-! ## A manifest whose grammar is named like a manifest -/

/-- A build succeeds if its files are written. -/
theorem exit_build_of_written {path : Path} {text : String} {manifest : Manifest}
    (verbose : Bool)
    (first : IsFirst tree (candidates directory named) nearer ⟨path, root, text⟩)
    (read : Manifest.ofToml text = .ok manifest)
    (succeeded : ((writeGenerated root manifest.assemble : StateM FileTree _).run
      tree).1.failure = none) :
    ((Invocation.run ⟨named, verbose, .build⟩ directory : StateM FileTree _).run
      tree).1.exit = 0 := by
  rcases ran : (writeGenerated root manifest.assemble : StateM FileTree _).run tree
    with ⟨written, last⟩
  rw [ran] at succeeded
  have exit : ((Invocation.run ⟨named, verbose, .build⟩ directory : StateM FileTree _).run
      tree).1.exit = _ :=
    exit_run (findManifest_eq_ok_iff.mpr ⟨nearer, first⟩) read (run_build ran)
  exact exit.trans (exit_buildReport_eq_zero_iff.mpr succeeded)

/-- A tree with a manifest under a name and an empty directory beside it. -/
def manifestTree (name text : String) : FileTree :=
  (FileTree.empty.put [] name (.file text.toUTF8)).put [] "w" .directory

/-- A manifest whose grammar goes to a file with the name of manifest files. -/
def selfNamed : Manifest where
  contributes := none
  hosts := [⟨.go, "v", "s", ⟨"inlang.toml"⟩, none⟩]
  embedded := []

/-- The text of that manifest. -/
def selfNamedText : String :=
  "host=[[\"go\",\"v\",\"s\",\"inlang.toml\"]]"

theorem ofToml_selfNamedText : Manifest.ofToml selfNamedText = .ok selfNamed := by
  decide +kernel

theorem noLinks_manifestTree (name text : String) : (manifestTree name text).NoLinks :=
  (noLinks_empty.put (by simp) [] name).put (by simp) [] "w"

theorem assemble_selfNamed :
    ∃ content, selfNamed.assemble = [⟨⟨"inlang.toml"⟩, content⟩] := by
  have clean : (⟨"inlang.toml"⟩ : Path).clean = ⟨"inlang.toml"⟩ := by decide
  refine ⟨(selfNamed.document ⟨.go, "v", "s", ⟨"inlang.toml"⟩, none⟩).text, ?_⟩
  simp [Manifest.assemble, Manifest.hostFile, selfNamed, clean]

/-- The grammar is written at the root if something can be. -/
theorem failure_writeGenerated_selfNamed {existing : Option String}
    (read : tree.textAt ⟨"/inlang.toml"⟩ = .ok existing)
    (writable : ∀ bytes, ∃ after, tree.writeBytes ⟨"/inlang.toml"⟩ bytes = .ok after) :
    ((writeGenerated ⟨"/"⟩ selfNamed.assemble : StateM FileTree _).run tree).1.failure =
      none := by
  rcases assemble_selfNamed with ⟨content, assembled⟩
  rcases writable content.toUTF8 with ⟨after, writing⟩
  have joined : (⟨"/"⟩ : Path).join ⟨"inlang.toml"⟩ = ⟨"/inlang.toml"⟩ := by decide
  have above : parentPath ⟨"/inlang.toml"⟩ = ⟨"/"⟩ := by decide
  have made : (if (parentPath ⟨"/inlang.toml"⟩).text = "" then (.ok (), tree)
      else (Files.makeDirectories (parentPath ⟨"/inlang.toml"⟩) : StateM FileTree _).run tree) =
      (.ok (), tree) := by
    rw [above, if_neg (by decide)]
    rfl
  rw [← joined] at read made writing
  obtain ⟨change, last, ran⟩ : ∃ change last,
      (GeneratedFile.write ⟨"/"⟩ ⟨⟨"inlang.toml"⟩, content⟩ : StateM FileTree _).run tree =
        (.ok change, last) := GeneratedFile.exists_run_write read made writing
  rw [assembled, run_writeGenerated_cons, ran]
  rfl

/-- The manifest that is found is the only one. -/
theorem IsFirst.eq {nearer' : List Path} {found' : FoundManifest}
    (first : IsFirst tree (candidates directory named) nearer found)
    (first' : IsFirst tree (candidates directory named) nearer' found') : found' = found := by
  have ran := findManifest_eq_ok_iff.mpr ⟨nearer, first⟩
  rw [findManifest_eq_ok_iff.mpr ⟨nearer', first'⟩] at ran
  cases ran
  rfl

/-- A manifest under another name is found where it is named. -/
theorem isFirst_beside :
    IsFirst (manifestTree "m.toml" selfNamedText) (candidates ⟨"/w"⟩ (some ⟨"../m.toml"⟩)) []
      ⟨⟨"/m.toml"⟩, ⟨"/"⟩, selfNamedText⟩ where
  split := ⟨[], by decide⟩
  vacant := by simp
  text := by
    have resolved : (manifestTree "m.toml" selfNamedText).resolve .look ⟨"/m.toml"⟩ =
        .ok (.found ["m.toml"] (.file selfNamedText.toUTF8) false) := by
      generalize selfNamedText = text
      cbv
    exact textAt_eq_some_iff_resolve.mpr ⟨_, resolved⟩
  above := by decide

/-- A build beside a manifest of another name is followed by a check that succeeds. -/
theorem check_after_build_beside :
    ((Invocation.run ⟨some ⟨"../m.toml"⟩, false, .build⟩ ⟨"/w"⟩ : StateM FileTree _).run
        (manifestTree "m.toml" selfNamedText)).1.exit = 0 ∧
      ((Invocation.run ⟨some ⟨"../m.toml"⟩, false, .check⟩ ⟨"/w"⟩ : StateM FileTree _).run
        ((Invocation.run ⟨some ⟨"../m.toml"⟩, false, .build⟩ ⟨"/w"⟩ : StateM FileTree _).run
          (manifestTree "m.toml" selfNamedText)).2).1.exit = 0 := by
  have vacant (purpose : Purpose) :
      (manifestTree "m.toml" selfNamedText).resolve purpose ⟨"/inlang.toml"⟩ =
        .ok (.vacant [] "inlang.toml" false) := by
    generalize selfNamedText = text
    cases purpose <;> cbv
  have nothing : (manifestTree "m.toml" selfNamedText).textAt ⟨"/inlang.toml"⟩ = .ok none :=
    (textAt_eq_none_iff (location?_eq_some (vacant .look))).mpr
      (resolve_fits (vacant .look)).entry
  have succeeded := exit_build_of_written false isFirst_beside ofToml_selfNamedText
    (failure_writeGenerated_selfNamed nothing fun bytes =>
      ⟨_, by rw [writeBytes, vacant .write]⟩)
  have isDirectory : (manifestTree "m.toml" selfNamedText).isDirectory ⟨"/w"⟩ := by
    generalize selfNamedText = text
    cbv
  refine ⟨succeeded, ?_⟩
  rcases ran : (Invocation.run ⟨some ⟨"../m.toml"⟩, false, .build⟩ ⟨"/w"⟩ :
    StateM FileTree _).run (manifestTree "m.toml" selfNamedText) with ⟨report, after⟩
  rw [ran] at succeeded
  rcases check_after_build_iff (noLinks_manifestTree _ _) isDirectory ran succeeded with
    ⟨nearer, found, manifest, first, read, iff⟩
  obtain rfl := isFirst_beside.eq first
  obtain rfl : manifest = selfNamed := Except.ok.inj (read.symm.trans ofToml_selfNamedText)
  rcases assemble_selfNamed with ⟨content, assembled⟩
  refine (iff.mpr ⟨?_, ?_⟩).2
  · rcases first.split with ⟨farther, split⟩
    have alone : nearer = [] := by
      have length : 1 = nearer.length + (farther.length + 1) := by
        simpa [candidates] using congrArg List.length split
      exact List.length_eq_zero_iff.mp (by omega)
    rw [assembled, alone]
    intro file member path candidate
    rw [List.mem_singleton.mp member, List.mem_singleton.mp candidate]
    have apart : ¬(⟨"/m.toml"⟩ : Path).location <:+
        ((⟨"/"⟩ : Path).join ⟨"inlang.toml"⟩).location := by decide
    exact apart
  · rw [assembled]
    intro first firstMember second secondMember _
    rw [List.mem_singleton.mp firstMember, List.mem_singleton.mp secondMember]

/-- The same manifest under the name of manifest files is found where a search begins. -/
theorem isFirst_self :
    IsFirst (manifestTree "inlang.toml" selfNamedText) (candidates ⟨"/"⟩ none) []
      ⟨⟨"/inlang.toml"⟩, ⟨"/"⟩, selfNamedText⟩ where
  split := ⟨[], by decide⟩
  vacant := by simp
  text := by
    have resolved : (manifestTree "inlang.toml" selfNamedText).resolve .look ⟨"/inlang.toml"⟩ =
        .ok (.found ["inlang.toml"] (.file selfNamedText.toUTF8) false) := by
      generalize selfNamedText = text
      cbv
    exact textAt_eq_some_iff_resolve.mpr ⟨_, resolved⟩
  above := by decide

/-- A build that succeeds may write over its own manifest: no check that succeeds with the
same manifest follows then. -/
theorem no_check_after_build_over_manifest :
    ((Invocation.run ⟨none, false, .build⟩ ⟨"/"⟩ : StateM FileTree _).run
        (manifestTree "inlang.toml" selfNamedText)).1.exit = 0 ∧
      ¬(((Invocation.run ⟨none, false, .build⟩ ⟨"/"⟩ : StateM FileTree _).run
            (manifestTree "inlang.toml" selfNamedText)).2.readBytes ⟨"/inlang.toml"⟩ =
          (manifestTree "inlang.toml" selfNamedText).readBytes ⟨"/inlang.toml"⟩ ∧
        ((Invocation.run ⟨none, false, .check⟩ ⟨"/"⟩ : StateM FileTree _).run
          ((Invocation.run ⟨none, false, .build⟩ ⟨"/"⟩ : StateM FileTree _).run
            (manifestTree "inlang.toml" selfNamedText)).2).1.exit = 0) := by
  have resolved : (manifestTree "inlang.toml" selfNamedText).resolve .write ⟨"/inlang.toml"⟩ =
      .ok (.found ["inlang.toml"] (.file selfNamedText.toUTF8) false) := by
    generalize selfNamedText = text
    cbv
  have succeeded := exit_build_of_written false isFirst_self ofToml_selfNamedText
    (failure_writeGenerated_selfNamed isFirst_self.text fun bytes =>
      ⟨_, by rw [writeBytes, resolved]⟩)
  have isDirectory : (manifestTree "inlang.toml" selfNamedText).isDirectory ⟨"/"⟩ := by
    generalize selfNamedText = text
    cbv
  refine ⟨succeeded, ?_⟩
  rcases ran : (Invocation.run ⟨none, false, .build⟩ ⟨"/"⟩ : StateM FileTree _).run
    (manifestTree "inlang.toml" selfNamedText) with ⟨report, after⟩
  rw [ran] at succeeded
  rcases exists_built (noLinks_manifestTree _ _) isDirectory ran succeeded with
    ⟨nearer, found, manifest, written, built⟩
  obtain rfl := isFirst_self.eq built.first
  obtain rfl : manifest = selfNamed := Except.ok.inj (built.read.symm.trans ofToml_selfNamedText)
  rcases assemble_selfNamed with ⟨content, assembled⟩
  intro checked
  rcases (built.check_iff false).mp checked with ⟨spares, _⟩
  rw [assembled] at spares
  have here : (⟨"/inlang.toml"⟩ : Path).location <:+
      ((⟨"/"⟩ : Path).join ⟨"inlang.toml"⟩).location := by decide
  exact spares ⟨⟨"inlang.toml"⟩, content⟩ (by simp) ⟨"/inlang.toml"⟩ (by simp) here

end Inset.Command
