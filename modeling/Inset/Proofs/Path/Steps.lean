import Inset.FileTree.Walk
import Mathlib.Data.List.DropRight

/-!
# The steps of paths

What a walk along a path does depends on the steps of the path only.  A path seen
from a directory takes the steps of the directory first (`steps_join`), and the
steps of a parent begin those of the path (`steps_of_parent`).  The *location* of
a path is where its steps lead by name alone, whatever a tree holds.
-/

namespace Inset

/-- Take one step by name. -/
def Location.move (directory : Location) (step : String) : Location :=
  if step = "." then directory else if step = ".." then directory.tail else step :: directory

namespace Path

/-- Where the steps of a path lead by name. -/
def location (path : Path) : Location :=
  path.steps.foldl Location.move []

/-! ## Pieces -/

theorem splitSlash_append_slash (first second : List Char) :
    splitSlash (first ++ '/' :: second) = splitSlash first ++ splitSlash second := by
  induction first with
  | nil => simp [splitSlash]
  | cons c rest ih =>
      by_cases slash : c = '/'
      · simp [splitSlash, slash, ih]
      · rcases splitSlash_cons_of_ne slash rest with ⟨piece, pieces, split, split'⟩
        rw [split', List.cons_append, splitSlash, if_neg slash, ih, split]
        rfl

theorem pieces_append_slash (first second : String) :
    pieces ⟨first ++ "/" ++ second⟩ = pieces ⟨first⟩ ++ pieces ⟨second⟩ := by
  simp [pieces, splitSlash_append_slash]

theorem slash_notMem_of_mem_pieces {path : Path} {piece : String}
    (member : piece ∈ path.pieces) : '/' ∉ piece.toList := by
  rcases List.mem_map.mp member with ⟨chars, inSplit, rfl⟩
  simpa using slash_notMem_of_mem_splitSlash inSplit

/-- Pieces without slashes are found again in the path made of them. -/
theorem pieces_ofPieces {pieces : List String} (nonempty : pieces ≠ [])
    (ordinary : ∀ piece ∈ pieces, '/' ∉ piece.toList) :
    (ofPieces pieces).pieces = pieces := by
  have split : splitSlash (joinSlash (pieces.map String.toList)) = pieces.map String.toList := by
    apply splitSlash_joinSlash
    · simpa using nonempty
    · simpa using ordinary
  simp [ofPieces, Path.pieces, split]

/-! ## Joining -/

/-- A path seen from a directory takes the steps of the directory first. -/
theorem steps_join (directory : Path) {path : Path} (relative : path.isRooted = false) :
    (directory.join path).steps = directory.steps ++ path.steps := by
  rw [join, if_neg (by simp [relative])]
  split
  · next adjoins =>
    rcases adjoins with none | slash
    · simp [steps, pieces, none, splitSlash]
    · obtain ⟨front, text⟩ : ∃ front, directory.text.toList = front ++ ['/'] :=
        List.getLast?_eq_some_iff.mp (by simpa [endsInSlash] using slash)
      simp [steps, pieces, text, splitSlash_append_slash, splitSlash]
  · simp [steps, pieces_append_slash]

/-! ## Parents -/

theorem dropFillers_isPrefix (pieces : List String) : dropFillers pieces <+: pieces :=
  List.rdropWhile_prefix _ pieces

/-- What is left after fillers are dropped ends in a step that leads elsewhere. -/
theorem exists_dropFillers {pieces : List String} (shown : dropFillers pieces ≠ []) :
    ∃ front last fillers, (last ≠ "" ∧ last ≠ ".") ∧ pieces = front ++ last :: fillers ∧
      dropFillers pieces = front ++ [last] := by
  rcases dropFillers_isPrefix pieces with ⟨fillers, split⟩
  have last := List.rdropWhile_last_not (fun piece => piece = "" || piece = ".") pieces shown
  have front := List.dropLast_append_getLast shown
  refine ⟨(dropFillers pieces).dropLast, (dropFillers pieces).getLast shown, fillers, ?_, ?_,
    front.symm⟩
  · rw [Bool.or_eq_true, decide_eq_true_iff, decide_eq_true_iff, not_or] at last
    exact last
  · rw [List.append_cons, front, split]

theorem pieces_of_plain {piece : String} (ordinary : '/' ∉ piece.toList) :
    pieces ⟨piece⟩ = [piece] := by
  simp [pieces, splitSlash_eq_singleton ordinary]

/-- The steps of a parent are those at the beginning of the pieces, and some step
comes after them. -/
theorem exists_pieces_of_parent {path parent : Path} (above : path.parent? = some parent) :
    ∃ front back, path.pieces = front ++ back ∧ (∃ step ∈ back, step ≠ "") ∧
      parent.steps = front.filter (· ≠ "") := by
  rcases List.exists_cons_of_ne_nil path.pieces_ne_nil with ⟨first, rest, split⟩
  have ordinary (piece : String) (member : piece ∈ first :: rest) : '/' ∉ piece.toList :=
    slash_notMem_of_mem_pieces (split ▸ member)
  rw [parent?, split] at above
  simp only at above
  split at above
  · split at above
    · contradiction
    · next shown =>
      -- The first piece is the only step.
      obtain rfl := Option.some.inj above
      exact ⟨[], first :: rest, split, ⟨first, by simp, shown⟩, by simp [steps, pieces, splitSlash]⟩
  · next shown =>
    rcases exists_dropFillers shown with ⟨front, last, fillers, ⟨isStep, _⟩, rfl, shown_eq⟩
    rw [shown_eq, List.dropLast_concat] at above
    split at above
    · -- The first piece alone is above the last step.
      refine ⟨[first], front ++ last :: fillers, split, ⟨last, by simp, isStep⟩, ?_⟩
      obtain rfl := Option.some.inj above
      split
      · next root => simp [root, steps, pieces, splitSlash]
      · rw [steps, pieces_of_plain (ordinary first (by simp))]
    · rcases dropFillers_isPrefix front with ⟨skipped, front_eq⟩
      obtain rfl := Option.some.inj above
      refine ⟨first :: dropFillers front, skipped ++ last :: fillers, ?_,
        ⟨last, by simp, isStep⟩, ?_⟩
      · rw [split, List.cons_append, ← List.append_assoc, front_eq]
      · rw [steps, pieces_ofPieces (by simp)]
        intro piece member
        apply ordinary piece
        rcases List.mem_cons.mp member with rfl | kept
        · exact List.mem_cons_self
        · have inFront : piece ∈ front := (dropFillers_isPrefix front).subset kept
          simp [inFront]

/-- The steps of a path begin with those of its parent, and there are more of them. -/
theorem steps_of_parent {path parent : Path} (above : path.parent? = some parent) :
    ∃ step rest, path.steps = parent.steps ++ step :: rest := by
  rcases exists_pieces_of_parent above with
    ⟨front, back, split, ⟨step, member, isStep⟩, parent_eq⟩
  have later : back.filter (· ≠ "") ≠ [] :=
    List.ne_nil_of_mem (List.mem_filter.mpr ⟨member, by simpa using isStep⟩)
  rcases List.exists_cons_of_ne_nil later with ⟨step, rest, later_eq⟩
  exact ⟨step, rest, by rw [steps, split, List.filter_append, later_eq, parent_eq]⟩

theorem length_steps_of_parent {path parent : Path} (above : path.parent? = some parent) :
    parent.steps.length < path.steps.length := by
  rcases steps_of_parent above with ⟨step, rest, split⟩
  rw [split, List.length_append, List.length_cons]
  omega

/-- Fewer parts joined begin more parts joined. -/
theorem joinSlash_isPrefix (first : List Char) (front back : List (List Char)) :
    joinSlash (first :: front) <+: joinSlash (first :: (front ++ back)) := by
  induction front generalizing first with
  | nil =>
      cases back with
      | nil => exact List.prefix_rfl
      | cons next back => exact List.prefix_append first _
  | cons next front ih =>
      simp only [List.cons_append, joinSlash, List.prefix_append_right_inj, List.prefix_cons_inj]
      exact ih next

theorem toList_text (path : Path) :
    path.text.toList = joinSlash (path.pieces.map String.toList) := by
  simp [pieces, Function.comp_def]

theorem mem_joinSlash_iff {pieces : List (List Char)} {c : Char} (other : c ≠ '/') :
    c ∈ joinSlash pieces ↔ ∃ piece ∈ pieces, c ∈ piece := by
  fun_induction joinSlash pieces with
  | case1 => simp
  | case2 piece => simp
  | case3 piece rest more ih => simp [ih, other]

/-- A character other than a slash stands in a path if it stands in one of its pieces. -/
theorem mem_toList_text_iff {path : Path} {c : Char} (other : c ≠ '/') :
    c ∈ path.text.toList ↔ ∃ piece ∈ path.pieces, c ∈ piece.toList := by
  rw [toList_text, mem_joinSlash_iff other]
  simp only [List.mem_map, exists_exists_and_eq_and]

/-- A character other than a slash stands in a path seen from a directory if it stands in the
one or in the other. -/
theorem mem_toList_join_iff {directory path : Path} {c : Char} (other : c ≠ '/')
    (relative : path.isRooted = false) :
    c ∈ (directory.join path).text.toList ↔
      c ∈ directory.text.toList ∨ c ∈ path.text.toList := by
  rw [join, if_neg (by simp [relative])]
  split <;> simp [other]

theorem text_join_ne_empty {directory path : Path} (nonempty : directory.text ≠ "")
    (relative : path.isRooted = false) : (directory.join path).text ≠ "" := by
  rw [join, if_neg (by simp [relative])]
  split <;> simp [nonempty]

/-- The text of a parent begins the text of the path. -/
theorem isPrefix_of_parent {path parent : Path} (above : path.parent? = some parent) :
    parent.text.toList <+: path.text.toList := by
  rcases List.exists_cons_of_ne_nil path.pieces_ne_nil with ⟨first, rest, split⟩
  have text : path.text.toList = joinSlash (first.toList :: rest.map String.toList) := by
    rw [← List.map_cons, ← split, toList_text]
  rw [parent?, split] at above
  rw [text]
  simp only at above
  split at above
  · split at above
    · contradiction
    · obtain rfl := Option.some.inj above
      exact List.nil_prefix
  · next shown =>
    rcases exists_dropFillers shown with ⟨front, last, fillers, _, rfl, shown_eq⟩
    rw [shown_eq, List.dropLast_concat] at above
    split at above
    · obtain rfl := Option.some.inj above
      split
      · next root =>
        -- What comes after the empty first piece begins with a slash.
        rw [root]
        cases front <;> exact ⟨_, rfl⟩
      · exact joinSlash_isPrefix first.toList [] _
    · obtain rfl := Option.some.inj above
      rcases dropFillers_isPrefix front with ⟨skipped, front_eq⟩
      rw [← front_eq, List.append_assoc, List.map_append]
      simpa [ofPieces, front_eq] using joinSlash_isPrefix first.toList _ _

/-- A parent is no longer than the path. -/
theorem byteCount_le_of_isPrefix {first second : Path}
    (begins : first.text.toList <+: second.text.toList) :
    first.byteCount ≤ second.byteCount := by
  rcases begins with ⟨rest, split⟩
  have whole : second.text = first.text ++ String.ofList rest := by
    rw [← String.toList_inj, String.toList_append, String.toList_ofList, split]
  rw [byteCount, byteCount, whole, String.utf8ByteSize_append]
  exact Nat.le_add_right _ _

/-! ## Ancestors -/

/-- A bound beyond the number of steps cuts off none of the directories above a path. -/
theorem ancestorsWithin_eq {first second : Nat} {path : Path}
    (enough : path.steps.length ≤ first) (alsoEnough : path.steps.length ≤ second) :
    path.ancestorsWithin first = path.ancestorsWithin second := by
  induction first generalizing path second with
  | zero =>
      have top : path.parent? = none := by
        rw [Option.eq_none_iff_forall_ne_some]
        intro parent above
        exact absurd (length_steps_of_parent above) (by omega)
      cases second <;> simp [ancestorsWithin, top]
  | succ first ih =>
      cases above : path.parent? with
      | none => cases second <;> simp [ancestorsWithin, above]
      | some parent =>
          have fewer := length_steps_of_parent above
          obtain ⟨second, rfl⟩ : ∃ less, second = less + 1 :=
            Nat.exists_eq_add_one.mpr (by omega)
          have below : parent.steps.length ≤ first := by omega
          have alsoBelow : parent.steps.length ≤ second := by omega
          rw [ancestorsWithin, ancestorsWithin, above]
          exact congrArg (path :: ·) (ih below alsoBelow)

theorem length_steps_le (path : Path) : path.steps.length ≤ path.pieces.length :=
  List.length_filter_le _ _

/-- Above a path there are its parent and what is above its parent. -/
theorem ancestors_eq (path : Path) :
    path.ancestors = path :: match path.parent? with
      | some parent => parent.ancestors
      | none => [] := by
  have enough := length_steps_le path
  rw [ancestors, ancestorsWithin_eq enough (Nat.le_succ_of_le enough), ancestorsWithin]
  cases above : path.parent? with
  | none => rfl
  | some parent =>
      have fewer := length_steps_of_parent above
      exact congrArg (path :: ·) (ancestorsWithin_eq (by omega) (length_steps_le parent))

/-- The steps of the directories above a path begin those of the path. -/
theorem steps_of_ancestor {path directory : Path} (member : directory ∈ path.ancestors) :
    directory.steps <+: path.steps := by
  have within {count : Nat} {path : Path} (member : directory ∈ path.ancestorsWithin count) :
      directory.steps <+: path.steps := by
    induction count generalizing path with
    | zero =>
        obtain rfl := List.mem_singleton.mp member
        exact List.prefix_rfl
    | succ count ih =>
        rcases List.mem_cons.mp member with rfl | farther
        · exact List.prefix_rfl
        · split at farther
          · next parent above =>
            rcases steps_of_parent above with ⟨step, rest, split⟩
            exact (ih farther).trans ⟨step :: rest, split.symm⟩
          · contradiction
  exact within member

end Path

end Inset
