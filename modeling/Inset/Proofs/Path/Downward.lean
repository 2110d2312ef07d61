import Inset.Proofs.FileTree.Plain
import Inset.Proofs.Path.Cleaning

/-!
# Paths that only go down

A relative path without `..` goes down by names.  Cleaning it leaves those names
(`GoesDown.clean_eq`), so that where it leads from a directory tells which cleaned path
it is (`GoesDown.clean_inj`).
-/

namespace Inset.Path

/-- Whether a path goes down from the directory it starts in, by names alone. -/
structure GoesDown (path : Path) : Prop where
  relative : path.isRooted = false
  nonempty : path.moves ≠ []
  proper : ∀ step ∈ path.moves, step ≠ ".."

/-- A relative path without `..` that is more than the current directory goes down. -/
theorem goesDown_of_components {path : Path} (relative : path.isRooted = false)
    (named : path.clean ≠ ⟨"."⟩) (noParent : .parent ∉ path.components) : path.GoesDown where
  relative := relative
  nonempty := moves_ne_nil relative named
  proper := by
    rintro step member rfl
    apply noParent
    have climbs : .parent ∈ path.moves.map Component.ofMove :=
      List.mem_map.mpr ⟨"..", member, rfl⟩
    rw [← filter_components relative] at climbs
    exact (List.mem_filter.mp climbs).1

namespace GoesDown

variable {path other : Path} (goesDown : path.GoesDown)

include goesDown

/-- The names are not those that stand for directories relative to others. -/
theorem isName : ∀ name ∈ path.moves, name ≠ "." ∧ name ≠ ".." :=
  fun name member => ⟨(isMove_of_mem_moves member).notCurrent, goesDown.proper name member⟩

/-- A path that goes down is cleaned to its names. -/
theorem clean_eq : path.clean = ofPieces path.moves := by
  have taken : (path.moves.map Component.ofMove).foldl cleanStep [] =
      cleaned path.moves.reverse 0 := foldl_cleanStep_names goesDown.proper 0
  have clean := clean_of_taken goesDown.relative taken (by simpa using goesDown.nonempty)
  rwa [List.reverse_reverse] at clean

theorem isRooted_clean_eq_false : path.clean.isRooted = false := by
  rw [isRooted_clean, goesDown.relative]

theorem pieces_clean : path.clean.pieces = path.moves := by
  rw [goesDown.clean_eq, pieces_ofMoves goesDown.nonempty fun _ => isMove_of_mem_moves]

theorem steps_clean : path.clean.steps = path.moves := by
  rw [goesDown.clean_eq, steps_ofMoves goesDown.nonempty fun _ => isMove_of_mem_moves]

/-- Seen from a directory, the path leads down from there. -/
theorem location_join_clean (directory : Path) :
    (directory.join path.clean).location = path.moves.reverse ++ directory.location := by
  rw [location, steps_join directory goesDown.isRooted_clean_eq_false, goesDown.steps_clean,
    List.foldl_append, FileTree.foldl_move_names goesDown.isName]
  rfl

/-- Paths that lead to one location are cleaned to one path. -/
theorem clean_inj (goesDown' : other.GoesDown) (directory : Path)
    (same : (directory.join path.clean).location = (directory.join other.clean).location) :
    path.clean = other.clean := by
  rw [goesDown.location_join_clean, goesDown'.location_join_clean, List.append_cancel_right_eq,
    List.reverse_inj] at same
  rw [goesDown.clean_eq, goesDown'.clean_eq, same]

end GoesDown

end Inset.Path
