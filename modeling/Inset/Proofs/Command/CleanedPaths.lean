import Inset.Proofs.Command.NearestManifest
import Inset.Proofs.FileTree.Cleaned
import Inset.Proofs.Generated.Assembly

/-!
# Cleaned paths and what they name

Paths are cleaned by their texts alone: the path of a named manifest after it is joined to the
working directory, and the paths of outputs before they are joined to the directory of the
manifest.  In a tree without links both lead where the path leads as it is written
(`cleaned_paths_lead`), so that the file that is read and the files that are written are those
that were named.
-/

namespace Inset.Command

open FileTree

variable {tree : FileTree} {directory path : Path} {text : String}

/-- A manifest is read from the file that its path names, however it is written. -/
theorem findManifest_of_readText (noLinks : tree.NoLinks) (rooted : directory.isRooted)
    (read : tree.readText (directory.join path) = .ok text) :
    ∃ found, (findManifest directory (some path) : StateM FileTree _).run tree =
        (.ok found, tree) ∧
      found.path = (directory.join path).clean ∧ found.text = text := by
  have joined := Path.isRooted_join rooted path
  rcases readBytes_eq_ok_iff.mp (readText_eq_ok_iff.mp read) with ⟨location, resolved⟩
  have cleaned : tree.readText (directory.join path).clean = .ok text :=
    readText_of_resolve (leadsTo_clean noLinks joined resolved .look)
  have only := candidates_named directory path
  rcases exists_parent_of_candidate rooted (by rw [only]; simp) cleaned with ⟨parent, above⟩
  exact ⟨_, (searches_found only (by simp) cleaned above).comesTo, rfl, rfl⟩

/-- The files of a manifest are those that its paths name, however they are written. -/
theorem forall₂_assemble_leadsTo (noLinks : tree.NoLinks) (isDirectory : tree.isDirectory directory)
    {manifest : Manifest} (accepted : manifest.validate = .ok ()) :
    List.Forall₂ (fun written file => ∀ location entry slash,
        tree.resolve .look (directory.join written) = .ok (.found location entry slash) →
        tree.LeadsTo (directory.join file.path) location entry)
      manifest.writtenPaths manifest.assemble := by
  have cleaned : List.Forall₂ (fun written path => ∀ location entry slash,
      tree.resolve .look (directory.join written) = .ok (.found location entry slash) →
      tree.LeadsTo (directory.join path) location entry)
      manifest.writtenPaths (manifest.assemble.map GeneratedFile.path) := by
    rw [manifest.map_path_assemble, List.forall₂_map_right_iff, List.forall₂_same]
    intro written member location entry slash resolved
    have named := manifest.namesFile_of_validate accepted member
    refine (leadsTo_join_clean_iff noLinks isDirectory resolved).mpr fun empty => ?_
    exact absurd (Path.clean_of_text_eq_empty empty) named.notCurrent
  exact List.forall₂_map_right_iff.mp cleaned

/-- Seen from a directory of a tree without links, every path that leads to an entry leads there
after cleaning: if it is cleaned after it is joined to the directory, and also if it is cleaned
before.  Only for the empty path, which is cleaned to `.`, the latter needs the path to the
directory to have room for that.  So a named manifest is read from the file that is named, and
the files of a manifest are those that its paths name as they are written. -/
theorem cleaned_paths_lead (noLinks : tree.NoLinks) (rooted : directory.isRooted)
    (isDirectory : tree.isDirectory directory) :
    (∀ path location entry slash,
      tree.resolve .look (directory.join path) = .ok (.found location entry slash) →
      tree.LeadsTo (directory.join path).clean location entry ∧
      (tree.LeadsTo (directory.join path.clean) location entry ↔
        (path.text = "" → (directory.join ⟨"."⟩).byteCount ≤ longestPath))) ∧
    (∀ path text, tree.readText (directory.join path) = .ok text →
      ∃ found, (findManifest directory (some path) : StateM FileTree _).run tree =
          (.ok found, tree) ∧
        found.path = (directory.join path).clean ∧ found.text = text) ∧
    ∀ manifest : Manifest, manifest.validate = .ok () →
      List.Forall₂ (fun written file => ∀ location entry slash,
          tree.resolve .look (directory.join written) = .ok (.found location entry slash) →
          tree.LeadsTo (directory.join file.path) location entry)
        manifest.writtenPaths manifest.assemble := by
  refine ⟨fun path location entry slash resolved => ⟨?_, ?_⟩, fun path text => ?_,
    fun manifest accepted => ?_⟩
  · exact leadsTo_clean noLinks (Path.isRooted_join rooted path) resolved
  · exact leadsTo_join_clean_iff noLinks isDirectory resolved
  · exact findManifest_of_readText noLinks rooted
  · exact forall₂_assemble_leadsTo noLinks isDirectory accepted

theorem noLinks_blockedTree (bytes : ByteArray) : (blockedTree bytes).NoLinks :=
  ((((noLinks_empty.put (by simp) [] "p").put (by simp) ["p"] "inlang.toml").put (by simp) ["p"]
    "a").put (by simp) ["a", "p"] "inlang.toml").put (by simp) ["a", "p"] "b"

/-- A manifest is named along a path that wanders, and a file under its cleaned path. -/
theorem cleaned_paths_lead_wandering :
    (∃ found, (findManifest ⟨"/p/a"⟩ (some ⟨"b//../.././a/../inlang.toml"⟩) :
        StateM FileTree _).run (blockedTree "x".toUTF8) = (.ok found, blockedTree "x".toUTF8) ∧
      found.path = ⟨"/p/inlang.toml"⟩ ∧ found.text = "x") ∧
    (blockedTree "x".toUTF8).LeadsTo ⟨"/p/a/../inlang.toml"⟩ ["inlang.toml", "p"]
      (.file "x".toUTF8) := by
  have isDirectory (bytes : ByteArray) : (blockedTree bytes).isDirectory ⟨"/p/a"⟩ = true := rfl
  have joined : (⟨"/p/a"⟩ : Path).join ⟨"b//../.././a/../inlang.toml"⟩ =
      ⟨"/p/a/b//../.././a/../inlang.toml"⟩ := by decide +kernel
  have clean : (⟨"/p/a/b//../.././a/../inlang.toml"⟩ : Path).clean = ⟨"/p/inlang.toml"⟩ := by
    decide +kernel
  have joined' : (⟨"/p/a"⟩ : Path).join (⟨"b//../.././a/../inlang.toml"⟩ : Path).clean =
      ⟨"/p/a/../inlang.toml"⟩ := by decide +kernel
  have resolved (bytes : ByteArray) :
      (blockedTree bytes).resolve .look ⟨"/p/a/b//../.././a/../inlang.toml"⟩ =
        .ok (.found ["inlang.toml", "p"] (.file bytes) false) := rfl
  have rooted : (⟨"/p/a"⟩ : Path).isRooted := by decide
  rcases cleaned_paths_lead (noLinks_blockedTree "x".toUTF8) rooted (isDirectory _) with
    ⟨leads, found, _⟩
  have leads' := leads ⟨"b//../.././a/../inlang.toml"⟩ _ _ _ (by rw [joined]; exact resolved _)
  have found' := found ⟨"b//../.././a/../inlang.toml"⟩ "x"
    (by rw [joined]; exact readText_of_resolve (resolved _))
  rw [joined, clean] at found'
  rw [joined'] at leads'
  exact ⟨found', leads'.2.mpr (by simp)⟩

/-! ## No room for a dot -/

/-- The root, called by any number of slashes. -/
def slashes (count : Nat) : Path :=
  ⟨String.ofList (List.replicate count '/')⟩

theorem pieces_slashes (count : Nat) : (slashes count).pieces = List.replicate (count + 1) "" := by
  have split : Path.splitSlash (List.replicate count '/') = List.replicate (count + 1) [] := by
    induction count with
    | zero => rfl
    | succ count ih => rw [List.replicate_succ, Path.splitSlash, if_pos rfl, ih]; rfl
  simp [slashes, Path.pieces, split]

theorem byteCount_slashes (count : Nat) : (slashes count).byteCount = count := by
  have whole := (slashes count).byteCount_eq
  have weight (count : Nat) : Path.weight (List.replicate count "") = count := by
    induction count with
    | zero => rfl
    | succ count ih =>
        rw [List.replicate_succ, Path.weight, ih, String.utf8ByteSize_empty]
        omega
  rw [pieces_slashes, weight] at whole
  exact Nat.succ.inj whole

theorem isWalkable_slashes {count : Nat} (short : count + 1 ≤ longestPath) :
    IsWalkable (slashes (count + 1)) where
  noNul := by simp [slashes, List.mem_replicate]
  nonempty := by simp [slashes, List.replicate_succ]
  short := by rwa [byteCount_slashes]

theorem isRooted_slashes (count : Nat) : (slashes (count + 1)).isRooted := by
  simp [slashes, Path.isRooted, List.replicate_succ]

theorem resolve_slashes {count : Nat} (short : count + 1 ≤ longestPath) (purpose : Purpose) :
    tree.resolve purpose (slashes (count + 1)) = .ok (.found [] .directory false) := by
  have steps : (slashes (count + 1)).steps = [] := by simp [Path.steps, pieces_slashes]
  refine resolve_eq_ok_iff.mpr ⟨isWalkable_slashes short, 0, Nat.zero_le _, ?_⟩
  rw [steps]
  exact .done _ _

theorem join_slashes (count : Nat) {path : Path} (relative : path.isRooted = false) :
    (slashes (count + 1)).join path = ⟨(slashes (count + 1)).text ++ path.text⟩ := by
  have slash : (slashes (count + 1)).endsInSlash := by
    simp [slashes, Path.endsInSlash, List.replicate_succ']
  rw [Path.join, if_neg (by simp [relative]), if_pos (.inr slash)]

/-- The longest path of slashes leads to the root, and no more after a dot is added. -/
theorem no_room_for_dot :
    FileTree.empty.NoLinks ∧ (slashes 4095).isRooted ∧ FileTree.empty.isDirectory (slashes 4095) ∧
      FileTree.empty.resolve .look ((slashes 4095).join ⟨""⟩) = .ok (.found [] .directory false) ∧
      FileTree.empty.resolve .look ((slashes 4095).join (⟨""⟩ : Path).clean) =
        .error .nameTooLong := by
  have leads : FileTree.empty.resolve .look (slashes 4095) = .ok (.found [] .directory false) :=
    resolve_slashes (by decide) .look
  have same : (slashes 4095).join ⟨""⟩ = slashes 4095 := by
    rw [join_slashes 4094 (by decide), String.append_empty]
  have clean : (⟨""⟩ : Path).clean = ⟨"."⟩ := by decide
  have long : longestPath < ((slashes 4095).join ⟨"."⟩).byteCount := by
    have dot : ".".utf8ByteSize = 1 := by decide
    have whole := byteCount_slashes 4095
    rw [Path.byteCount] at whole
    rw [join_slashes 4094 (by decide), Path.byteCount, String.utf8ByteSize_append, whole, dot]
    decide
  refine ⟨noLinks_empty, isRooted_slashes 4094, ?_, by rw [same, leads], ?_⟩
  · rw [isDirectory, leads]
  · rw [clean]
    exact resolve_join_of_long (isWalkable_slashes (by decide)) (by decide) (by decide) long .look

end Inset.Command
