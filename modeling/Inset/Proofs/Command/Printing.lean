import Inset.Proofs.Command.BuildThenCheck
import Inset.Proofs.FileTree.Rewriting
import Inset.Proofs.Generated.Containment

/-!
# What is printed

Printing puts out the grammars of an accepted manifest: all of them with an empty line
between, or the one of the host that is named.  In a tree without links a build leaves
the same grammars in its files.  Printing after it still shows them exactly if the files
spare the nearer candidates, since otherwise another file is taken for the manifest
(`print_shows_build`).
-/

namespace Inset.Command

open FileTree

variable {tree after : FileTree} {directory root : Path} {named : Option Path}
  {found : FoundManifest} {nearer : List Path} {manifest : Manifest}

/-- Whether printing ends with an exit code and an output, and leaves the tree alone. -/
def Prints (tree : FileTree) (directory : Path) (named : Option Path) (id : Option String)
    (exit : Nat) (stdout : String) : Prop :=
  ∀ verbose, ∃ events,
    (Invocation.run ⟨named, verbose, .print id⟩ directory : StateM FileTree _).run tree =
      (⟨exit, stdout, events⟩, tree)

/-! ## Reports -/

/-- The hosts with the identifier of one that is listed are that one alone. -/
theorem printedHosts_id {entry : HostEntry}
    (ids : manifest.hosts.Pairwise fun first second => first.id ≠ second.id)
    (member : entry ∈ manifest.hosts) : printedHosts manifest (some entry.id) = [entry] := by
  rcases List.append_of_mem member with ⟨before, later, split⟩
  rw [split, List.pairwise_append, List.pairwise_cons] at ids
  rcases ids with ⟨_, ⟨apartLater, _⟩, apartBefore⟩
  have noneBefore : before.filter (·.id = entry.id) = [] := by
    simpa using fun other inBefore => apartBefore other inBefore entry List.mem_cons_self
  have noneLater : later.filter (·.id = entry.id) = [] := by
    simpa using fun other inLater => (apartLater other inLater).symm
  rw [printedHosts, split, List.filter_append, List.filter_cons_of_pos (by simp), noneBefore,
    noneLater, List.nil_append]

theorem printedHosts_eq_nil {id : String} (unlisted : id ∉ manifest.hosts.map HostEntry.id) :
    printedHosts manifest (some id) = [] := by
  simpa [printedHosts] using unlisted

/-- The report for hosts that there are holds their grammars. -/
theorem exists_printReport {id : Option String} (listed : printedHosts manifest id ≠ []) :
    ∃ events, printReport manifest id =
      ⟨0, "\n".intercalate ((printedHosts manifest id).map fun entry =>
        (manifest.hostFile entry).content), events⟩ := by
  rcases List.exists_cons_of_ne_nil listed with ⟨entry, rest, hosts⟩
  rw [printReport, hosts]
  exact ⟨_, rfl⟩

theorem exists_printReport_of_none {id : Option String} (none : printedHosts manifest id = []) :
    ∃ events, printReport manifest id = ⟨1, "", events⟩ := by
  rw [printReport, none]
  exact ⟨_, rfl⟩

/-! ## Files and hosts -/

/-- The first files of a manifest are those of its hosts. -/
theorem take_assemble (manifest : Manifest) :
    manifest.assemble.take manifest.hosts.length = manifest.hosts.map manifest.hostFile := by
  rw [Manifest.assemble]
  exact List.take_left' (List.length_map _)

/-- The file with the index of a host is the one of that host. -/
theorem getElem?_assemble {index : Nat} {entry : HostEntry}
    (listed : manifest.hosts[index]? = some entry) :
    manifest.assemble[index]? = some (manifest.hostFile entry) := by
  have before : index < manifest.hosts.length := (List.getElem?_eq_some_iff.mp listed).1
  rw [← List.getElem?_take_of_lt before, take_assemble, List.getElem?_map, listed]
  rfl

/-! ## Printing from an accepted manifest -/

/-- What is reported for an accepted manifest is printed. -/
theorem prints_of_report (first : IsFirst tree (candidates directory named) nearer found)
    (read : Manifest.ofToml found.text = .ok manifest) {id : Option String} {exit : Nat}
    {stdout : String} (reported : ∃ events, printReport manifest id = ⟨exit, stdout, events⟩) :
    Prints tree directory named id exit stdout := by
  rcases reported with ⟨events, reported⟩
  intro verbose
  have searched := findManifest_eq_ok_iff.mpr ⟨nearer, first⟩
  have acted : ((Action.print id).perform found.directory manifest : StateM FileTree _).run
      tree = (⟨exit, stdout, events⟩, tree) := by
    rw [Action.perform, ← reported]
    rfl
  have ran : (Invocation.run ⟨named, verbose, .print id⟩ directory : StateM FileTree _).run
      tree = _ := run_of_accepted searched read acted
  exact ⟨_, ran⟩

theorem prints_all (first : IsFirst tree (candidates directory named) nearer found)
    (read : Manifest.ofToml found.text = .ok manifest) :
    Prints tree directory named none 0 ("\n".intercalate
      ((manifest.assemble.take manifest.hosts.length).map GeneratedFile.content)) := by
  have acceptable := Manifest.validate_eq_ok_iff.mp (Manifest.validate_of_ofToml read)
  rw [take_assemble, List.map_map]
  exact prints_of_report first read (exists_printReport acceptable.nonempty)

theorem prints_host (first : IsFirst tree (candidates directory named) nearer found)
    (read : Manifest.ofToml found.text = .ok manifest) {entry : HostEntry}
    (member : entry ∈ manifest.hosts) :
    Prints tree directory named (some entry.id) 0 (manifest.hostFile entry).content := by
  have acceptable := Manifest.validate_eq_ok_iff.mp (Manifest.validate_of_ofToml read)
  have alone := printedHosts_id acceptable.ids member
  have reported := exists_printReport (alone ▸ List.cons_ne_nil entry [])
  rw [alone] at reported
  exact prints_of_report first read (by simpa using reported)

/-! ## Printing after building -/

/-- Whether the written paths hold no `..` and none of them leads to the manifest. -/
structure WritesBeside (found : FoundManifest) (manifest : Manifest) : Prop where
  noParents : ∀ path ∈ manifest.writtenPaths, .parent ∉ path.components
  beside : ∀ path ∈ manifest.writtenPaths,
    (found.directory.join path.clean).location ≠ found.path.location

namespace Built

variable {written : WriteReport}
  (built : Built tree after directory named nearer found manifest written)
  (writesBeside : WritesBeside found manifest)

include built writesBeside

/-- Every file holds its content in the end. -/
theorem readBytes_file {file : GeneratedFile} (member : file ∈ manifest.assemble) :
    after.readBytes (found.directory.join file.path) = .ok file.content.toUTF8 := by
  have accepted := Manifest.validate_of_ofToml built.read
  rcases exists_last_of_written built.ran built.succeeded member with
    ⟨location, last, isLast, resolved⟩
  rcases mem_filesAt.mp (List.mem_of_getLast? isLast) with ⟨lastMember, here⟩
  have stillNoLinks := noLinks_of_written built.noLinks built.ran built.succeeded
  have same : (found.directory.join file.path).location =
      (found.directory.join last.path).location :=
    (location_of_resolve stillNoLinks resolved).symm.trans
      (eq_location_of_location? stillNoLinks here)
  rw [Manifest.eq_of_location_eq accepted writesBeside.noParents member lastMember same]
    at resolved ⊢
  exact readBytes_eq_ok_iff.mpr ⟨location, resolved⟩

/-- No file goes to the manifest, nor below it. -/
theorem spares_manifest {file : GeneratedFile} (member : file ∈ manifest.assemble) :
    ¬found.path.location <:+ (found.directory.join file.path).location := by
  have elsewhere (other : GeneratedFile) (inFiles : other ∈ manifest.assemble) :
      (found.directory.join other.path).location ≠ found.path.location := by
    rcases Manifest.exists_goesDown_of_assemble (Manifest.validate_of_ofToml built.read)
      writesBeside.noParents inFiles with ⟨path, inPaths, _, clean⟩
    rw [← clean]
    exact writesBeside.beside path inPaths
  intro above
  have entry := get?_of_resolve built.resolve_found
  have kept := get?_of_written_elsewhere built.noLinks built.ran built.succeeded
    (by simp [entry]) elsewhere
  rcases exists_file_at_location built.noLinks built.ran built.succeeded member with
    ⟨content, inner⟩
  have present : (after.get? (found.directory.join file.path).location).isSome := by
    simp [inner]
  have isDirectory := get?_of_suffix above (elsewhere file member).symm present
  rw [kept, entry] at isDirectory
  cases isDirectory

/-- Printing shows the grammar of a host again exactly if the nearer candidates are
spared. -/
theorem prints_again_iff {entry : HostEntry} (member : entry ∈ manifest.hosts) :
    Prints after directory named (some entry.id) 0 (manifest.hostFile entry).content ↔
      Spares found.directory manifest.assemble nearer := by
  constructor
  · intro prints
    rcases prints false with ⟨events, ran⟩
    rcases exists_of_run ran rfl with ⟨found', manifest', _, searched, read', _, _⟩
    rcases findManifest_eq_ok_iff.mp searched with ⟨nearer', again⟩
    have same := built.readBytes_found_iff.mpr fun _ => built.spares_manifest writesBeside
    rcases built.eq_of_first_again same again read' with ⟨rfl, rfl⟩
    intro file inFiles path candidate
    exact (built.textAt_nearer_iff candidate).mp (again.vacant path candidate) file inFiles
  · intro spares
    apply prints_host (built.first_again _) built.read member
    intro file inFiles path candidate
    rcases List.mem_append.mp candidate with inNearer | here
    · exact spares file inFiles path inNearer
    · rw [List.mem_singleton.mp here]
      exact built.spares_manifest writesBeside inFiles

end Built

/-- A build that succeeds has written the files of the manifest that is found. -/
theorem exists_built_of_first (first : IsFirst tree (candidates directory named) nearer found)
    (read : Manifest.ofToml found.text = .ok manifest) {verbose : Bool} {report : Report}
    (noLinks : tree.NoLinks) (isDirectory : tree.isDirectory directory)
    (ran : (Invocation.run ⟨named, verbose, .build⟩ directory : StateM FileTree _).run tree =
      (report, after))
    (succeeded : report.exit = 0) :
    ∃ written, Built tree after directory named nearer found manifest written := by
  rcases wrote : (writeGenerated found.directory manifest.assemble : StateM FileTree _).run tree
    with ⟨written, last⟩
  have searched := findManifest_eq_ok_iff.mpr ⟨nearer, first⟩
  have acted : (Invocation.run ⟨named, verbose, .build⟩ directory : StateM FileTree _).run tree =
      _ := run_of_accepted searched read (run_build wrote)
  rw [ran] at acted
  cases acted
  exact ⟨written, noLinks, isDirectory, first, read, wrote,
    exit_buildReport_eq_zero_iff.mp succeeded⟩

/-- Printing from an accepted manifest puts out the content of the files of its hosts, in
order and with an empty line between, or the content of the one file of the host that is
named, and fails without output if there is no such host.  After a build in a tree
without links whose paths hold no `..` and do not lead to the manifest, every such file
holds its content, and printing still puts it out exactly if no file goes to a nearer
candidate or below it. -/
theorem print_shows_build (first : IsFirst tree (candidates directory named) nearer found)
    (read : Manifest.ofToml found.text = .ok manifest) :
    Prints tree directory named none 0 ("\n".intercalate
      ((manifest.assemble.take manifest.hosts.length).map GeneratedFile.content)) ∧
    (manifest.hosts.map HostEntry.id).Nodup ∧
    (∀ id, id ∉ manifest.hosts.map HostEntry.id → Prints tree directory named (some id) 1 "") ∧
    ∀ (index : Nat) (entry : HostEntry), manifest.hosts[index]? = some entry →
      ∃ file, manifest.assemble[index]? = some file ∧
        Prints tree directory named (some entry.id) 0 file.content ∧
        ∀ (verbose : Bool) (report : Report) (after : FileTree),
          (Invocation.run ⟨named, verbose, .build⟩ directory : StateM FileTree _).run tree =
            (report, after) →
          report.exit = 0 → tree.NoLinks → tree.isDirectory directory →
          WritesBeside found manifest →
          after.readBytes (found.directory.join file.path) = .ok file.content.toUTF8 ∧
          (Prints after directory named (some entry.id) 0 file.content ↔
            Spares found.directory manifest.assemble nearer) := by
  have acceptable := Manifest.validate_eq_ok_iff.mp (Manifest.validate_of_ofToml read)
  refine ⟨prints_all first read, List.pairwise_map.mpr acceptable.ids, ?_, ?_⟩
  · intro id unlisted
    exact prints_of_report first read (exists_printReport_of_none (printedHosts_eq_nil unlisted))
  · intro index entry listed
    have member := List.mem_of_getElem? listed
    have inFiles := List.mem_of_getElem? (getElem?_assemble listed)
    refine ⟨_, getElem?_assemble listed, prints_host first read member, ?_⟩
    intro verbose report after ran succeeded noLinks isDirectory writesBeside
    rcases exists_built_of_first first read noLinks isDirectory ran succeeded with
      ⟨written, built⟩
    exact ⟨built.readBytes_file writesBeside inFiles, built.prints_again_iff writesBeside member⟩

/-! ## Manifests with one grammar -/

/-- A build that has one grammar to write succeeds if it can be written. -/
theorem exit_build_of_alone {path output goal : Path} {text : String} {existing : Option String}
    (first : IsFirst tree (candidates directory named) nearer ⟨path, root, text⟩)
    (read : Manifest.ofToml text = .ok (Manifest.ofOutput output))
    (joined : root.join output.clean = goal) (there : tree.textAt goal = .ok existing)
    (above : tree.isDirectory (parentPath goal))
    (writable : ∀ bytes, ∃ after, tree.writeBytes goal bytes = .ok after) :
    ((Invocation.run ⟨named, false, .build⟩ directory : StateM FileTree _).run
      tree).1.exit = 0 := by
  subst joined
  let file := (Manifest.ofOutput output).hostFile ⟨.go, "v", "s", output, none⟩
  have made : (if (parentPath (root.join file.path)).text = "" then (.ok (), tree)
      else (Files.makeDirectories (parentPath (root.join file.path)) :
        StateM FileTree _).run tree) = (.ok (), tree) := by
    split
    · rfl
    · exact run_makeDirectories_of_isDirectory above
  rcases writable file.content.toUTF8 with ⟨after, writing⟩
  obtain ⟨change, last, ran⟩ : ∃ change last,
      (file.write root : StateM FileTree _).run tree = (.ok change, last) :=
    GeneratedFile.exists_run_write there made writing
  have alone : (Manifest.ofOutput output).assemble = [file] := rfl
  apply exit_build_of_written false first read
  rw [alone, run_writeGenerated_cons, ran]
  rfl

/-- The grammar of a manifest beside the working directory is built, and it is printed
before and after. -/
theorem print_shows_build_beside :
    ∃ content,
      Prints (manifestTree "m.toml" selfNamedText) ⟨"/w"⟩ (some ⟨"../m.toml"⟩) (some "v") 0
        content ∧
      ((Invocation.run ⟨some ⟨"../m.toml"⟩, false, .build⟩ ⟨"/w"⟩ : StateM FileTree _).run
        (manifestTree "m.toml" selfNamedText)).2.readBytes ⟨"/inlang.toml"⟩ =
          .ok content.toUTF8 ∧
      Prints ((Invocation.run ⟨some ⟨"../m.toml"⟩, false, .build⟩ ⟨"/w"⟩ :
          StateM FileTree _).run (manifestTree "m.toml" selfNamedText)).2
        ⟨"/w"⟩ (some ⟨"../m.toml"⟩) (some "v") 0 content := by
  have vacant (purpose : Purpose) :
      (manifestTree "m.toml" selfNamedText).resolve purpose ⟨"/inlang.toml"⟩ =
        .ok (.vacant [] "inlang.toml" false) := by
    generalize selfNamedText = text
    cases purpose <;> cbv
  have nothing : (manifestTree "m.toml" selfNamedText).textAt ⟨"/inlang.toml"⟩ = .ok none :=
    (textAt_eq_none_iff (location?_eq_some (vacant .look))).mpr (resolve_fits (vacant .look)).entry
  have succeeded := exit_build_of_alone isFirst_beside ofToml_selfNamedText
    (show Path.join ⟨"/"⟩ (Path.clean ⟨"inlang.toml"⟩) = ⟨"/inlang.toml"⟩ by decide) nothing rfl
    fun bytes => ⟨_, by rw [writeBytes, vacant .write]⟩
  have isDirectory : (manifestTree "m.toml" selfNamedText).isDirectory ⟨"/w"⟩ := by
    generalize selfNamedText = text
    cbv
  have writesBeside : WritesBeside ⟨⟨"/m.toml"⟩, ⟨"/"⟩, selfNamedText⟩ selfNamed := by
    constructor <;> decide
  rcases ran : (Invocation.run ⟨some ⟨"../m.toml"⟩, false, .build⟩ ⟨"/w"⟩ :
    StateM FileTree _).run (manifestTree "m.toml" selfNamedText) with ⟨report, after⟩
  rw [ran] at succeeded
  rcases print_shows_build isFirst_beside ofToml_selfNamedText with ⟨_, _, _, each⟩
  rcases each 0 _ rfl with ⟨file, listed, prints, afterwards⟩
  rcases afterwards false report after ran succeeded (noLinks_manifestTree _ _) isDirectory
    writesBeside with ⟨stored, again⟩
  rcases assemble_selfNamed with ⟨content, assembled⟩
  rw [assembled, List.getElem?_cons_zero] at listed
  cases listed
  have joined : (⟨"/"⟩ : Path).join ⟨"inlang.toml"⟩ = ⟨"/inlang.toml"⟩ := by decide
  exact ⟨content, prints, joined ▸ stored, again.mpr (by simp [Spares])⟩

/-- The text of a manifest whose grammar goes to a nearer candidate. -/
def nearerText : String :=
  "host=[[\"go\",\"v\",\"s\",\"w/inlang.toml\"]]"

/-- The manifest with that text. -/
def nearerManifest : Manifest :=
  .ofOutput ⟨"w/inlang.toml"⟩

theorem ofToml_nearerText : Manifest.ofToml nearerText = .ok nearerManifest := by
  decide +kernel

theorem writesBeside_nearerManifest :
    WritesBeside ⟨⟨"/inlang.toml"⟩, ⟨"/"⟩, nearerText⟩ nearerManifest := by
  constructor <;> decide

theorem resolve_nearer (purpose : Purpose) (text : String) :
    (manifestTree "inlang.toml" text).resolve purpose ⟨"/w/inlang.toml"⟩ =
      .ok (.vacant ["w"] "inlang.toml" false) := by
  cases purpose <;> cbv

theorem textAt_nearer (text : String) :
    (manifestTree "inlang.toml" text).textAt ⟨"/w/inlang.toml"⟩ = .ok none := by
  rw [textAt, readText, readBytes, resolve_nearer]

/-- The manifest above the working directory is found. -/
theorem isFirst_above :
    IsFirst (manifestTree "inlang.toml" nearerText) (candidates ⟨"/w"⟩ none)
      [⟨"/w/inlang.toml"⟩] ⟨⟨"/inlang.toml"⟩, ⟨"/"⟩, nearerText⟩ where
  split := ⟨[], by decide⟩
  vacant := by simpa using textAt_nearer nearerText
  text := by
    have resolved (text : String) : (manifestTree "inlang.toml" text).resolve .look
        ⟨"/inlang.toml"⟩ = .ok (.found ["inlang.toml"] (.file text.toUTF8) false) := by cbv
    exact textAt_eq_some_iff_resolve.mpr ⟨_, resolved nearerText⟩
  above := by decide

/-- A build that succeeds may write a grammar where a nearer manifest is looked for: what
its file holds is not printed then. -/
theorem no_print_after_build_nearer :
    (manifestTree "inlang.toml" nearerText).NoLinks ∧
    (∃ nearer, IsFirst (manifestTree "inlang.toml" nearerText) (candidates ⟨"/w"⟩ none) nearer
      ⟨⟨"/inlang.toml"⟩, ⟨"/"⟩, nearerText⟩) ∧
    Manifest.ofToml nearerText = .ok nearerManifest ∧
    WritesBeside ⟨⟨"/inlang.toml"⟩, ⟨"/"⟩, nearerText⟩ nearerManifest ∧
    ((Invocation.run ⟨none, false, .build⟩ ⟨"/w"⟩ : StateM FileTree _).run
      (manifestTree "inlang.toml" nearerText)).1.exit = 0 ∧
    ∃ content,
      ((Invocation.run ⟨none, false, .build⟩ ⟨"/w"⟩ : StateM FileTree _).run
        (manifestTree "inlang.toml" nearerText)).2.readBytes ⟨"/w/inlang.toml"⟩ =
          .ok content.toUTF8 ∧
      ¬Prints ((Invocation.run ⟨none, false, .build⟩ ⟨"/w"⟩ : StateM FileTree _).run
          (manifestTree "inlang.toml" nearerText)).2 ⟨"/w"⟩ none (some "v") 0 content := by
  have isDirectory (text : String) : (manifestTree "inlang.toml" text).isDirectory ⟨"/w"⟩ := by
    cbv
  have joined : (⟨"/"⟩ : Path).join (Path.clean ⟨"w/inlang.toml"⟩) = ⟨"/w/inlang.toml"⟩ := by
    decide
  have succeeded := exit_build_of_alone isFirst_above ofToml_nearerText joined
    (textAt_nearer nearerText) (isDirectory nearerText)
    fun bytes => ⟨_, by rw [writeBytes, resolve_nearer]⟩
  rcases ran : (Invocation.run ⟨none, false, .build⟩ ⟨"/w"⟩ : StateM FileTree _).run
    (manifestTree "inlang.toml" nearerText) with ⟨report, after⟩
  rw [ran] at succeeded
  have noLinks := noLinks_manifestTree "inlang.toml" nearerText
  rcases exists_built_of_first isFirst_above ofToml_nearerText noLinks (isDirectory nearerText)
    ran succeeded with ⟨written, built⟩
  obtain ⟨entry, listed, id, path, member⟩ : ∃ entry ∈ nearerManifest.hosts, entry.id = "v" ∧
      (nearerManifest.hostFile entry).path = Path.clean ⟨"w/inlang.toml"⟩ ∧
        nearerManifest.hostFile entry ∈ nearerManifest.assemble :=
    ⟨_, List.mem_singleton_self _, rfl, rfl, List.mem_singleton_self _⟩
  have stored := built.readBytes_file writesBeside_nearerManifest member
  simp only [path, joined] at stored
  refine ⟨noLinks, ⟨_, isFirst_above⟩, ofToml_nearerText, writesBeside_nearerManifest, succeeded,
    _, stored, ?_⟩
  intro prints
  rw [← id] at prints
  have spares := (built.prints_again_iff writesBeside_nearerManifest listed).mp prints
  have spared := spares _ member ⟨"/w/inlang.toml"⟩ (List.mem_singleton_self _)
  simp only [path, joined] at spared
  exact spared List.suffix_rfl

end Inset.Command
