import Inset.Proofs.Path.Kept

/-!
# The directories above a rooted path

The parent of a rooted path leaves out its last move (`moves_of_parent`), however many needless
slashes and dots the path is written with.  So the directories above it have the beginnings of
its components (`map_components_ancestors`), and the directory of a name seen from a directory
has the components of that directory (`exists_parent_of_join`).
-/

namespace Inset.Path

variable {path parent directory : Path} {name : String}

/-! ## Parents -/

/-- Only pieces that lead nowhere else are dropped. -/
theorem filter_dropFillers (pieces : List String) :
    ((dropFillers pieces).filter (· ≠ "")).filter (· ≠ ".") =
      (pieces.filter (· ≠ "")).filter (· ≠ ".") := by
  induction pieces using List.reverseRecOn with
  | nil => rfl
  | append_singleton front last ih =>
      by_cases filler : last = "" ∨ last = "."
      · have dropped : dropFillers (front ++ [last]) = dropFillers front :=
          List.rdropWhile_concat_pos _ _ _ (by simpa using filler)
        rw [dropped, ih]
        rcases filler with rfl | rfl <;> simp
      · rw [not_or] at filler
        rw [dropFillers_concat filler.1 filler.2]

/-- A rooted path without a parent leads nowhere but to the root. -/
theorem moves_eq_nil_of_parent (rooted : path.isRooted) (top : path.parent? = none) :
    path.moves = [] := by
  rcases exists_pieces_of_isRooted rooted with ⟨rest, split⟩
  rw [parent?, split] at top
  simp only [if_true] at top
  split at top
  · next fillers =>
    rw [moves, steps, split, List.filter_cons_of_neg (by simp), ← filter_dropFillers, fillers]
    rfl
  · split at top <;> contradiction

/-- The parent of a rooted path leaves out its last move. -/
theorem moves_of_parent (rooted : path.isRooted) (above : path.parent? = some parent) :
    parent.isRooted ∧ ∃ last, path.moves = parent.moves ++ [last] := by
  rcases exists_pieces_of_isRooted rooted with ⟨rest, split⟩
  have moves : path.moves = (rest.filter (· ≠ "")).filter (· ≠ ".") := by
    rw [Path.moves, steps, split, List.filter_cons_of_neg (by simp)]
  rw [parent?, split] at above
  simp only [if_true] at above
  split at above
  · contradiction
  · next shown =>
    rcases exists_dropFillers shown with ⟨front, last, fillers, ⟨isStep, leads⟩, rfl, shown_eq⟩
    have kept : path.moves = (front.filter (· ≠ "")).filter (· ≠ ".") ++ [last] := by
      rw [moves, ← filter_dropFillers, shown_eq]
      simp [isStep, leads]
    rw [shown_eq, List.dropLast_concat] at above
    split at above
    · next top =>
      obtain rfl := Option.some.inj above
      refine ⟨by decide, last, ?_⟩
      rw [kept, ← filter_dropFillers, top]
      rfl
    · next some =>
      obtain rfl := Option.some.inj above
      have pieces : (ofPieces ("" :: dropFillers front)).pieces = "" :: dropFillers front := by
        apply pieces_ofPieces (List.cons_ne_nil _ _)
        intro piece member
        have inPath : piece ∈ path.pieces := by
          rw [split]
          rcases List.mem_cons.mp member with rfl | inFront
          · exact List.mem_cons_self
          · have later := (dropFillers_isPrefix front).subset inFront
            simp [later]
        exact slash_notMem_of_mem_pieces inPath
      refine ⟨?_, last, ?_⟩
      · rcases List.exists_cons_of_ne_nil some with ⟨first, others, cons⟩
        simp [isRooted, ofPieces, cons, joinSlash]
      · rw [kept, Path.moves, steps, pieces, List.filter_cons_of_neg (by simp),
          filter_dropFillers]

/-! ## Ancestors -/

/-- The moves of the directories above a rooted path are the beginnings of its moves, the
longest first. -/
theorem map_moves_ancestors (rooted : path.isRooted) :
    path.ancestors.map moves = path.moves.inits.reverse := by
  generalize taken : path.moves = all
  induction all using List.reverseRecOn generalizing path with
  | nil =>
      have top : path.parent? = none := by
        rw [Option.eq_none_iff_forall_ne_some]
        intro parent above
        rcases moves_of_parent rooted above with ⟨_, last, split⟩
        simp [taken] at split
      rw [ancestors_eq, top]
      simp [taken]
  | append_singleton front last ih =>
      cases above : path.parent? with
      | none => simp [moves_eq_nil_of_parent rooted above] at taken
      | some parent =>
          rcases moves_of_parent rooted above with ⟨parentRooted, last', split⟩
          rw [taken] at split
          have same := (List.append_inj' split rfl).1
          rw [ancestors_eq, above]
          simp [ih parentRooted same.symm, taken, List.inits_append]

/-- The directories above a rooted path are rooted. -/
theorem isRooted_of_ancestor (rooted : path.isRooted) (member : directory ∈ path.ancestors) :
    directory.isRooted := by
  have within {count : Nat} {path : Path} (rooted : path.isRooted)
      (member : directory ∈ path.ancestorsWithin count) : directory.isRooted := by
    induction count generalizing path with
    | zero => rwa [List.mem_singleton.mp member]
    | succ count ih =>
        rcases List.mem_cons.mp member with rfl | farther
        · exact rooted
        · split at farther
          · next parent above => exact ih (moves_of_parent rooted above).1 farther
          · contradiction
  exact within rooted member

/-- The components of the directories above a rooted path are the beginnings of its components,
the longest first and the root last. -/
theorem map_components_ancestors (rooted : path.isRooted) :
    path.ancestors.map components = path.components.inits.tail.reverse := by
  have each : path.ancestors.map components =
      (path.ancestors.map moves).map fun moves => .root :: moves.map Component.ofMove := by
    rw [List.map_map]
    exact List.map_congr_left fun directory member =>
      components_of_isRooted (isRooted_of_ancestor rooted member)
  rw [each, map_moves_ancestors rooted, components_of_isRooted rooted, List.inits_cons,
    List.tail_cons, List.map_inits, List.map_reverse, List.map_map]
  rfl

/-! ## Names in a directory -/

theorem isRooted_join (rooted : directory.isRooted) (path : Path) :
    (directory.join path).isRooted := by
  rw [join]
  split
  · assumption
  · obtain ⟨rest, text⟩ : ∃ rest, directory.text.toList = '/' :: rest :=
      List.head?_eq_some_iff.mp (by simpa [isRooted] using rooted)
    split <;> simp [isRooted, text]

/-- A name seen from a rooted directory has a parent with the components of the directory.  If
the directory is clean, it is the parent. -/
theorem exists_parent_of_join (rooted : directory.isRooted) (isMove : IsMove name) :
    ∃ parent, (directory.join ⟨name⟩).parent? = some parent ∧
      parent.components = directory.components ∧
      (directory.clean = directory → parent = directory) := by
  have pieces : Path.pieces ⟨name⟩ = [name] := pieces_of_plain isMove.noSlash
  have relative : Path.isRooted ⟨name⟩ = false := isRooted_of_plain isMove
  have moves : (directory.join ⟨name⟩).moves = directory.moves ++ [name] := by
    rw [Path.moves, Path.moves, steps_join directory relative, List.filter_append]
    simp [steps, pieces, isMove.nonempty, isMove.notCurrent]
  have joined := isRooted_join rooted ⟨name⟩
  cases above : (directory.join ⟨name⟩).parent? with
  | none => simp [moves_eq_nil_of_parent joined above] at moves
  | some parent =>
      rcases moves_of_parent joined above with ⟨parentRooted, last, split⟩
      rw [moves] at split
      refine ⟨parent, rfl, ?_, fun clean => ?_⟩
      · rw [components_of_isRooted rooted, components_of_isRooted parentRooted,
          (List.append_inj' split rfl).1]
      · have names : fromRoot directory.location.reverse = directory := by
          rw [← clean_of_isRooted rooted, clean]
        have above' := parent?_join_fromRoot (fun _ => isMove_of_mem_location rooted) isMove
        rw [names, above] at above'
        exact Option.some.inj above'

/-- A cleaned path that leads elsewhere than to the root has a parent. -/
theorem parent?_clean (rooted : path.isRooted) (inner : path.location ≠ []) :
    path.clean.parent? = some (fromRoot path.location.tail.reverse) := by
  have isMove {name : String} (member : name ∈ path.location.reverse) : IsMove name :=
    isMove_of_mem_location rooted member
  rw [clean_of_isRooted rooted]
  obtain ⟨name, directory, split⟩ := List.exists_cons_of_ne_nil inner
  rw [split, List.reverse_cons, List.tail_cons]
  apply parent?_fromRoot
  rw [← List.reverse_cons, ← split]
  exact fun _ => isMove

end Inset.Path
