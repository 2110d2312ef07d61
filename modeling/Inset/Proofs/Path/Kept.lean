import Inset.Proofs.Path.Absolute

/-!
# What cleaning keeps

Cleaning cancels names and `..` against each other, and yet a cleaned path leads by name where
the path as written does: from every directory if it is relative (`foldl_move_clean`), and
otherwise from the root (`clean_of_isRooted`).  It holds some of the components, in their
order (`cleanComponents_sublist`), and so it is no longer than the path, unless that is empty
(`byteCount_clean_le`).
-/

namespace Inset.Path

variable {path : Path}

/-! ## Where components lead -/

/-- Take one component by name. -/
def Component.move (directory : Location) : Component → Location
  | root => []
  | current => directory
  | parent => directory.tail
  | name text => text :: directory

/-- Taking one more component into a cleaned path is going on by this component. -/
theorem foldl_move_cleanStep (taken : List Component) (component : Component)
    (directory : Location) :
    (cleanStep taken component).reverse.foldl Component.move directory =
      Component.move (taken.reverse.foldl Component.move directory) component := by
  cases component with
  | current => rfl
  | root => simp [cleanStep]
  | name text => simp [cleanStep]
  | parent =>
      cases taken with
      | nil => rfl
      | cons last taken => cases last <;> simp [cleanStep, Component.move]

/-- Cleaning changes nothing about where components lead. -/
theorem foldl_move_foldl_cleanStep (components taken : List Component) (directory : Location) :
    (components.foldl cleanStep taken).reverse.foldl Component.move directory =
      components.foldl Component.move (taken.reverse.foldl Component.move directory) := by
  induction components generalizing taken with
  | nil => rfl
  | cons component rest ih => rw [List.foldl_cons, ih, foldl_move_cleanStep, List.foldl_cons]

/-- What is left of components after cleaning are some of them, in their order. -/
theorem foldl_cleanStep_sublist (components taken : List Component) :
    (components.foldl cleanStep taken).reverse.Sublist (taken.reverse ++ components) := by
  have step (taken : List Component) (component : Component) :
      (cleanStep taken component).reverse.Sublist (taken.reverse ++ [component]) := by
    cases component with
    | current => exact List.sublist_append_left _ _
    | root => simp [cleanStep]
    | name text => simp [cleanStep]
    | parent =>
        cases taken with
        | nil => simp [cleanStep]
        | cons last taken => cases last <;> simp [cleanStep]
  induction components generalizing taken with
  | nil => simp
  | cons component rest ih =>
      have later := (step taken component).append_right rest
      rw [List.append_assoc, List.singleton_append] at later
      exact (ih (cleanStep taken component)).trans later

theorem cleanComponents_sublist (path : Path) : path.cleanComponents.Sublist path.components := by
  have kept := foldl_cleanStep_sublist path.components []
  rwa [List.reverse_nil, List.nil_append] at kept

/-! ## Where moves lead -/

/-- Steps that stay where they are may be left out. -/
theorem foldl_move_moves (path : Path) (directory : Location) :
    path.moves.foldl Location.move directory = path.steps.foldl Location.move directory := by
  rw [moves, List.foldl_filter]
  apply List.foldl_ext
  intro location step _
  by_cases current : step = "."
  · simp [current, Location.move]
  · simp [current]

theorem foldl_move_ofMove {steps : List String} (isMove : ∀ step ∈ steps, IsMove step)
    (directory : Location) :
    (steps.map Component.ofMove).foldl Component.move directory =
      steps.foldl Location.move directory := by
  rw [List.foldl_map]
  apply List.foldl_ext
  intro location step member
  rw [Component.ofMove, Location.move, if_neg (isMove step member).notCurrent]
  split <;> rfl

/-- Components `.` lead nowhere else. -/
theorem foldl_move_filter (components : List Component) (directory : Location) :
    (components.filter (· ≠ .current)).foldl Component.move directory =
      components.foldl Component.move directory := by
  rw [List.foldl_filter]
  apply List.foldl_ext
  intro location component _
  by_cases current : component = .current
  · simp [current, Component.move]
  · simp [current]

/-! ## Relative paths -/

section

variable (relative : path.isRooted = false)

include relative

/-- The components of a relative path lead where its steps do. -/
theorem foldl_move_components (directory : Location) :
    path.components.foldl Component.move directory =
      path.steps.foldl Location.move directory := by
  rw [← foldl_move_filter, filter_components relative,
    foldl_move_ofMove fun _ => isMove_of_mem_moves, foldl_move_moves]

/-- The moves of a cleaned path are some `..` and then names, as its components are. -/
theorem exists_moves_clean :
    ∃ climbs names, path.clean.moves = List.replicate climbs ".." ++ names ∧
      (∀ name ∈ names, IsMove name ∧ name ≠ "..") ∧
      path.cleanComponents = path.clean.moves.map Component.ofMove := by
  rcases exists_foldl_cleanStep path.moves with ⟨names, climbs, taken, proper, _⟩
  have components := cleanComponents_of_taken relative taken
  refine ⟨climbs, names.reverse, ?_⟩
  have moves : path.clean.moves = List.replicate climbs ".." ++ names.reverse := by
    by_cases none : List.replicate climbs ".." ++ names.reverse = []
    · rw [none]
      rw [List.append_eq_nil_iff, List.replicate_eq_nil_iff, List.reverse_eq_nil_iff] at none
      rw [none.1, none.2] at components
      rw [clean, components]
      rfl
    · have isMove := isMove_of_left (fun name member => (proper name member).1) climbs
      rw [clean_of_taken relative taken none, Path.moves, steps_ofMoves none isMove,
        List.filter_eq_self]
      exact fun step member => by simpa using (isMove step member).notCurrent
  refine ⟨moves, fun name member => ?_, ?_⟩
  · have inMoves := proper name (List.mem_reverse.mp member)
    exact ⟨isMove_of_mem_moves inMoves.1, inMoves.2⟩
  · have climb : Component.ofMove ".." = .parent := if_pos rfl
    have down : names.reverse.map Component.ofMove = names.reverse.map .name :=
      List.map_congr_left fun name member => if_neg (proper name (List.mem_reverse.mp member)).2
    rw [moves, components, List.map_append, List.map_replicate, climb, down]

theorem moves_clean : path.clean.moves.map Component.ofMove = path.cleanComponents := by
  rcases exists_moves_clean relative with ⟨_, _, _, _, components⟩
  exact components.symm

theorem clean_of_moves_eq_nil (none : path.clean.moves = []) : path.clean = ⟨"."⟩ := by
  have components := moves_clean relative
  rw [none, List.map_nil] at components
  rw [clean, ← components]

/-- A cleaned path that leads elsewhere is made of its moves. -/
theorem clean_of_moves_ne_nil (some : path.clean.moves ≠ []) :
    path.clean = ofPieces path.clean.moves := by
  have components := moves_clean relative
  rcases List.exists_cons_of_ne_nil some with ⟨first, rest, split⟩
  have noRoot : Component.ofMove first ≠ .root := by
    rw [Component.ofMove]
    split <;> simp
  rw [split] at components ⊢
  rw [List.map_cons] at components
  rw [clean, ← components]
  simp only
  rw [ofComponents_of_ne_root noRoot, ← List.map_cons, Component.map_text_ofMove]

/-- A cleaned path leads by name where the path does. -/
theorem foldl_move_clean (directory : Location) :
    path.clean.steps.foldl Location.move directory =
      path.steps.foldl Location.move directory := by
  have cleaned := foldl_move_foldl_cleanStep path.components [] directory
  rw [← foldl_move_moves, ← foldl_move_ofMove fun _ => isMove_of_mem_moves, moves_clean relative,
    ← foldl_move_components relative]
  exact cleaned

theorem moves_clean_sublist_of_relative : path.clean.moves.Sublist path.moves := by
  have kept := path.cleanComponents_sublist.filter (· ≠ .current)
  have all : path.cleanComponents.filter (· ≠ .current) = path.cleanComponents := by
    rw [← moves_clean relative]
    simp [List.filter_eq_self, Component.ofMove_ne_current]
  rw [all, filter_components relative, ← moves_clean relative] at kept
  have texts := kept.map Component.text
  rwa [Component.map_text_ofMove, Component.map_text_ofMove] at texts

end

/-! ## Rooted paths -/

section

variable (rooted : path.isRooted)

include rooted

theorem components_of_isRooted : path.components = .root :: path.moves.map Component.ofMove := by
  rcases exists_pieces_of_isRooted rooted with ⟨rest, split⟩
  rw [components, moves, steps, split]
  simp only [rooted, if_true]
  rw [filter_filterMap_ofPiece?, List.filter_cons_of_neg (by simp)]

omit rooted in
/-- The names taken in after the root are those of the location. -/
theorem foldl_cleanStep_root {moves : List String} (isMove : ∀ move ∈ moves, IsMove move)
    (names : Location) :
    (moves.map Component.ofMove).foldl cleanStep (names.map .name ++ [.root]) =
      (moves.foldl Location.move names).map .name ++ [.root] := by
  induction moves generalizing names with
  | nil => rfl
  | cons move rest ih =>
      rw [List.forall_mem_cons] at isMove
      have step : cleanStep (names.map .name ++ [.root]) (.ofMove move) =
          (Location.move names move).map .name ++ [.root] := by
        rw [Component.ofMove, Location.move, if_neg isMove.1.notCurrent]
        split
        · cases names <;> rfl
        · rfl
      rw [List.map_cons, List.foldl_cons, step, ih isMove.2, List.foldl_cons]

theorem cleanComponents_of_isRooted :
    path.cleanComponents = .root :: path.location.reverse.map .name := by
  have isMove : ∀ move ∈ path.moves, IsMove move := fun _ => isMove_of_mem_moves
  have taken := foldl_cleanStep_root isMove []
  have start : cleanStep [] .root = [].map .name ++ [.root] := rfl
  rw [cleanComponents, components_of_isRooted rooted, List.foldl_cons, start, taken,
    foldl_move_moves]
  simp [location]

/-- A rooted path is cleaned to the path from the root along the names of its location. -/
theorem clean_of_isRooted : path.clean = fromRoot path.location.reverse := by
  rw [clean, cleanComponents_of_isRooted rooted]
  rfl

theorem location_reverse_sublist : path.location.reverse.Sublist path.moves := by
  have kept := path.cleanComponents_sublist
  rw [cleanComponents_of_isRooted rooted, components_of_isRooted rooted,
    List.cons_sublist_cons] at kept
  have texts := kept.map Component.text
  have names : Component.text ∘ Component.name = id := rfl
  rwa [Component.map_text_ofMove, List.map_map, names, List.map_id] at texts

theorem isMove_of_mem_location {name : String} (member : name ∈ path.location.reverse) :
    IsMove name :=
  isMove_of_mem_moves ((location_reverse_sublist rooted).subset member)

end

/-! ## What is left -/

/-- A location lists names. -/
theorem proper_of_mem_location {name : String} (member : name ∈ path.location) :
    name ≠ "." ∧ name ≠ ".." := by
  have step (location : Location) (proper : ∀ name ∈ location, name ≠ "." ∧ name ≠ "..")
      (step : String) : ∀ name ∈ location.move step, name ≠ "." ∧ name ≠ ".." := by
    rw [Location.move]
    split
    · exact proper
    · next notCurrent =>
      split
      · exact fun name member => proper name (List.mem_of_mem_tail member)
      · next notParent => exact List.forall_mem_cons.mpr ⟨⟨notCurrent, notParent⟩, proper⟩
  exact List.foldlRecOn path.steps Location.move (by simp)
    (fun location proper next _ => step location proper next) name member

/-- The steps of a path along names are those names. -/
theorem steps_fromRoot {names : List String} (isMove : ∀ name ∈ names, IsMove name) :
    (fromRoot names).steps = names := by
  by_cases top : names = []
  · subst top
    decide
  · rw [steps, pieces_fromRoot top isMove, List.filter_cons_of_neg (by simp), List.filter_eq_self]
    exact fun name member => by simpa using (isMove name member).nonempty

theorem moves_sublist (path : Path) : path.moves.Sublist path.pieces :=
  List.filter_sublist.trans List.filter_sublist

/-- The moves of a cleaned path are some of those of the path, in their order. -/
theorem moves_clean_sublist (path : Path) : path.clean.moves.Sublist path.moves := by
  cases rooted : path.isRooted with
  | false => exact moves_clean_sublist_of_relative rooted
  | true =>
      rw [clean_of_isRooted rooted, moves, steps_fromRoot fun _ => isMove_of_mem_location rooted]
      exact List.filter_sublist.trans (location_reverse_sublist rooted)

/-- The steps of a cleaned path are moves of the path, apart from `.`. -/
theorem mem_moves_of_mem_steps_clean {step : String} (member : step ∈ path.clean.steps)
    (notCurrent : step ≠ ".") : step ∈ path.moves :=
  path.moves_clean_sublist.subset (List.mem_filter.mpr ⟨member, by simpa using notCurrent⟩)

/-- Cleaning brings in no character but slashes and dots. -/
theorem mem_of_mem_clean {c : Char} (notSlash : c ≠ '/') (notDot : c ≠ '.')
    (member : c ∈ path.clean.text.toList) : c ∈ path.text.toList := by
  rw [mem_toList_text_iff notSlash] at member ⊢
  rcases member with ⟨piece, inPieces, here⟩
  have nonempty : piece ≠ "" := by
    rintro rfl
    simp at here
  have isStep : piece ∈ path.clean.steps :=
    List.mem_filter.mpr ⟨inPieces, by simpa using nonempty⟩
  have notCurrent : piece ≠ "." := by
    rintro rfl
    simp [notDot] at here
  have inMoves := mem_moves_of_mem_steps_clean isStep notCurrent
  exact ⟨piece, path.moves_sublist.subset inMoves, here⟩

/-- Cleaning leaves no path empty. -/
theorem text_clean_ne_empty (path : Path) : path.clean.text ≠ "" := by
  cases rooted : path.isRooted with
  | true =>
      rw [clean_of_isRooted rooted, text_fromRoot]
      simp
  | false =>
      by_cases here : path.clean.moves = []
      · simp [clean_of_moves_eq_nil rooted here]
      · intro empty
        have none : path.clean.moves = [] := by simp [moves, steps, pieces, empty, splitSlash]
        exact here none

/-- A cleaned path that is relative does not end in a slash. -/
theorem endsInSlash_clean (relative : path.isRooted = false) : path.clean.endsInSlash = false := by
  by_cases here : path.clean.moves = []
  · rw [clean_of_moves_eq_nil relative here]
    decide
  · rw [Bool.eq_false_iff]
    intro slash
    have filler := getLast?_pieces_of_endsInSlash slash
    rw [clean_of_moves_ne_nil relative here, pieces_ofMoves here fun _ => isMove_of_mem_moves]
      at filler
    exact (isMove_of_mem_moves (List.mem_of_getLast? filler)).nonempty rfl

/-- Seen from a directory, a path ends as it does by itself. -/
theorem endsInSlash_join (directory : Path) (relative : path.isRooted = false)
    (nonempty : path.text ≠ "") : (directory.join path).endsInSlash = path.endsInSlash := by
  have last (front : List Char) :
      (front ++ path.text.toList).getLast? = path.text.toList.getLast? :=
    List.getLast?_append_of_ne_nil front (by simpa using nonempty)
  rw [join, if_neg (by simp [relative])]
  split
  · simp [endsInSlash, last]
  · simp only [endsInSlash, String.toList_append, last]

/-! ## Lengths -/

/-- The number of bytes of pieces, each with a slash after it. -/
def weight : List String → Nat
  | [] => 0
  | piece :: rest => piece.utf8ByteSize + 1 + weight rest

theorem byteCount_ofPieces {pieces : List String} (nonempty : pieces ≠ []) :
    (ofPieces pieces).byteCount + 1 = weight pieces := by
  induction pieces with
  | nil => contradiction
  | cons piece rest ih =>
      cases rest with
      | nil => simp [ofPieces, joinSlash, byteCount, weight]
      | cons next rest =>
          have text : (ofPieces (piece :: next :: rest)).text =
              piece ++ "/" ++ (ofPieces (next :: rest)).text := by
            rw [← String.toList_inj]
            simp [ofPieces, joinSlash]
          have shorter := ih (List.cons_ne_nil next rest)
          have slash : "/".utf8ByteSize = 1 := by decide
          rw [byteCount] at shorter
          rw [byteCount, text, String.utf8ByteSize_append, String.utf8ByteSize_append, slash,
            weight]
          omega

theorem byteCount_eq (path : Path) : path.byteCount + 1 = weight path.pieces := by
  rw [← byteCount_ofPieces path.pieces_ne_nil, ofPieces_pieces]

theorem weight_mono {first second : List String} (sublist : first.Sublist second) :
    weight first ≤ weight second := by
  induction sublist with
  | slnil => exact Nat.le_refl _
  | cons piece later ih => exact ih.trans (Nat.le_add_left _ _)
  | cons_cons piece later ih => exact Nat.add_le_add_left ih _

/-- The first piece of a rooted path is none of its moves. -/
theorem weight_moves_lt (rooted : path.isRooted) : weight path.moves < weight path.pieces := by
  rcases exists_pieces_of_isRooted rooted with ⟨rest, split⟩
  have later : path.moves.Sublist rest := by
    rw [moves, steps, split, List.filter_cons_of_neg (by simp)]
    exact List.filter_sublist.trans List.filter_sublist
  have lighter := weight_mono later
  rw [split, weight]
  omega

theorem byteCount_pos (nonempty : path.text ≠ "") : 0 < path.byteCount := by
  rw [byteCount, Nat.pos_iff_ne_zero, Ne, String.utf8ByteSize_eq_zero_iff]
  exact nonempty

/-- Cleaning makes no path longer, unless the path is empty. -/
theorem byteCount_clean_le (nonempty : path.text ≠ "") :
    path.clean.byteCount ≤ path.byteCount := by
  have positive := byteCount_pos nonempty
  have whole := path.byteCount_eq
  cases rooted : path.isRooted with
  | true =>
      have fewer := weight_mono (location_reverse_sublist rooted)
      have lighter := weight_moves_lt rooted
      rw [clean_of_isRooted rooted]
      by_cases top : path.location.reverse = []
      · have slash : (fromRoot []).byteCount = 1 := by decide
        rw [top, slash]
        exact positive
      · have cleaned := (fromRoot path.location.reverse).byteCount_eq
        rw [pieces_fromRoot top fun _ => isMove_of_mem_location rooted, weight,
          String.utf8ByteSize_empty] at cleaned
        omega
  | false =>
      have fewer := weight_mono (path.moves_clean_sublist.trans path.moves_sublist)
      by_cases here : path.clean.moves = []
      · have dot : byteCount ⟨"."⟩ = 1 := by decide
        rw [clean_of_moves_eq_nil rooted here, dot]
        exact positive
      · have cleaned := byteCount_ofPieces here
        rw [← clean_of_moves_ne_nil rooted here] at cleaned
        omega

/-- Seen from a directory, a longer path is longer. -/
theorem byteCount_join_le (directory : Path) {first second : Path}
    (relative : first.isRooted = false) (relative' : second.isRooted = false)
    (shorter : first.byteCount ≤ second.byteCount) :
    (directory.join first).byteCount ≤ (directory.join second).byteCount := by
  simp only [join, relative, relative', Bool.false_eq_true, if_false]
  rw [byteCount, byteCount] at shorter
  split <;> simp only [byteCount, String.utf8ByteSize_append] <;> omega

/-! ## Cleaned paths seen from a directory -/

theorem clean_of_text_eq_empty (empty : path.text = "") : path.clean = ⟨"."⟩ := by
  rcases path with ⟨text⟩
  obtain rfl : text = "" := empty
  decide

/-- Seen from a directory, a relative path leads by name where its cleaned form does. -/
theorem location_join_clean (directory : Path) (relative : path.isRooted = false) :
    (directory.join path.clean).location = (directory.join path).location := by
  have relative' : path.clean.isRooted = false := by rw [isRooted_clean, relative]
  rw [location, location, steps_join directory relative, steps_join directory relative',
    List.foldl_append, List.foldl_append, foldl_move_clean relative]

/-- Where there is room for a relative path seen from a directory, there is room for its cleaned
form, unless the path is empty and there is none for a dot. -/
theorem byteCount_join_clean_le_iff {bound : Nat} (directory : Path)
    (relative : path.isRooted = false) (short : (directory.join path).byteCount ≤ bound) :
    (directory.join path.clean).byteCount ≤ bound ↔
      (path.text = "" → (directory.join ⟨"."⟩).byteCount ≤ bound) := by
  have relative' : path.clean.isRooted = false := by rw [isRooted_clean, relative]
  by_cases empty : path.text = ""
  · simp [clean_of_text_eq_empty empty, empty]
  · have fits := byteCount_join_le directory relative' relative (byteCount_clean_le empty)
    simp [empty, fits.trans short]

end Inset.Path
