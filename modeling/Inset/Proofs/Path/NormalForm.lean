import Inset.Proofs.Path.Absolute

/-!
# Paths in normal form

A path in normal form climbs by `..` first and then goes down by names, with nothing else
between its slashes.  Cleaning a relative path gives a path in normal form
(`isNormalForm_clean`), and it leaves just these paths as they are (`clean_eq_self_iff`).
-/

namespace Inset.Path

/-- Whether the pieces of a path are some `..` and then names, none of which is empty, `.`
or `..`. -/
def IsNormalForm (path : Path) : Prop :=
  ∃ climbs names, path.pieces = List.replicate climbs ".." ++ names ∧
    ∀ name ∈ names, name ≠ "" ∧ name ≠ "." ∧ name ≠ ".."

/-- What a relative path other than the current directory is cleaned to is in normal
form. -/
theorem isNormalForm_clean {path : Path} (relative : path.isRooted = false)
    (named : path.clean ≠ ⟨"."⟩) : path.clean.IsNormalForm := by
  rcases exists_clean relative named with ⟨climbs, names, clean, nonempty, isMove, proper, _⟩
  refine ⟨climbs, names, ?_, fun name member => ?_⟩
  · rw [clean, pieces_ofMoves nonempty isMove]
  · have nameIsMove := isMove name (List.mem_append_right _ member)
    exact ⟨nameIsMove.nonempty, nameIsMove.notCurrent, proper name member⟩

namespace IsNormalForm

variable {path : Path} (normal : path.IsNormalForm)

include normal

theorem isMove {piece : String} (member : piece ∈ path.pieces) : IsMove piece := by
  have noSlash := slash_notMem_of_mem_pieces member
  rcases normal with ⟨climbs, names, split, proper⟩
  rcases List.mem_append.mp (split ▸ member) with climb | name
  · rw [List.eq_of_mem_replicate climb]
    exact ⟨by decide, by decide, by decide⟩
  · exact ⟨(proper piece name).1, (proper piece name).2.1, noSlash⟩

theorem relative : path.isRooted = false := by
  rw [Bool.eq_false_iff]
  intro rooted
  rcases exists_pieces_of_isRooted rooted with ⟨rest, split⟩
  exact (normal.isMove (split ▸ List.mem_cons_self)).nonempty rfl

theorem nonempty : path.text ≠ "" := by
  intro empty
  have piece : "" ∈ path.pieces := by simp [pieces, empty, splitSlash]
  exact (normal.isMove piece).nonempty rfl

theorem notCurrent : path ≠ ⟨"."⟩ := by
  rintro rfl
  have piece : "." ∈ (⟨"."⟩ : Path).pieces := by decide
  exact (normal.isMove piece).notCurrent rfl

theorem endsInSlash_eq_false : path.endsInSlash = false := by
  rw [Bool.eq_false_iff]
  intro slash
  have last := List.mem_of_getLast? (getLast?_pieces_of_endsInSlash slash)
  exact (normal.isMove last).nonempty rfl

/-- A path in normal form is clean. -/
theorem clean_eq_self : path.clean = path := by
  have moves : path.moves = path.pieces := by
    rw [Path.moves, steps, List.filter_filter, List.filter_eq_self]
    intro piece member
    simp [(normal.isMove member).nonempty, (normal.isMove member).notCurrent]
  have again := path.ofPieces_pieces
  have nonempty := path.pieces_ne_nil
  have relative := normal.relative
  rcases normal with ⟨climbs, names, split, proper⟩
  have taken : (path.moves.map Component.ofMove).foldl cleanStep [] =
      cleaned names.reverse climbs := by
    rw [moves, split, List.map_append, List.foldl_append, foldl_cleanStep_replicate]
    exact foldl_cleanStep_names (fun name member => (proper name member).2.2) climbs
  have clean := clean_of_taken relative taken
  rw [List.reverse_reverse, ← split, again] at clean
  exact clean nonempty

end IsNormalForm

/-- Cleaning leaves a relative path as it is exactly if the path is in normal form, the
current directory apart. -/
theorem clean_eq_self_iff {path : Path} (relative : path.isRooted = false)
    (named : path.clean ≠ ⟨"."⟩) : path.clean = path ↔ path.IsNormalForm := by
  constructor
  · intro same
    exact same ▸ isNormalForm_clean relative named
  · exact IsNormalForm.clean_eq_self

end Inset.Path
