import Inset.Proofs.Path.Steps
import Mathlib.Data.List.Induction
import Mathlib.Data.List.Infix

/-!
# Cleaned paths

Cleaning a relative path leaves some `..` and then names, none of which is `.` or
`..` (`exists_clean`).  No `..` is left exactly if the path stays inside the
directory it starts from: no part of it at its beginning has more `..` than names.
-/

namespace Inset.Path

/-! ## Moves -/

/-- The steps of a path that lead elsewhere. -/
def moves (path : Path) : List String :=
  path.steps.filter (· ≠ ".")

/-- Whether a text can stand between slashes as a step that leads elsewhere. -/
structure IsMove (text : String) : Prop where
  nonempty : text ≠ ""
  notCurrent : text ≠ "."
  noSlash : '/' ∉ text.toList

theorem isMove_of_mem_moves {path : Path} {step : String} (member : step ∈ path.moves) :
    IsMove step := by
  rcases List.mem_filter.mp member with ⟨isStep, notCurrent⟩
  rcases List.mem_filter.mp isStep with ⟨isPiece, nonempty⟩
  exact ⟨by simpa using nonempty, by simpa using notCurrent,
    slash_notMem_of_mem_pieces isPiece⟩

/-- Whether a path stays inside the directory it starts from: no part of it at its
beginning has more `..` than names. -/
def StaysInside (path : Path) : Prop :=
  ∀ front, front <+: path.moves → front.count ".." ≤ front.countP (· ≠ "..")

instance (path : Path) : Decidable path.StaysInside :=
  decidable_of_iff (∀ front ∈ path.moves.inits, front.count ".." ≤ front.countP (· ≠ ".."))
    (by simp only [List.mem_inits, StaysInside])

/-! ## Components of moves -/

/-- The component of a step that leads elsewhere. -/
def Component.ofMove (step : String) : Component :=
  if step = ".." then parent else name step

theorem Component.ofPiece?_of_isMove {step : String} (isMove : IsMove step) :
    ofPiece? step = some (ofMove step) := by
  rw [ofPiece?, if_neg isMove.nonempty, if_neg isMove.notCurrent, ofMove]
  split <;> rfl

theorem Component.ofMove_ne_current (step : String) : ofMove step ≠ current := by
  rw [ofMove]
  split <;> simp

theorem Component.text_ofMove (step : String) : (ofMove step).text = step := by
  rw [ofMove]
  split
  · next climb => rw [climb, text]
  · rfl

theorem Component.map_text_ofMove (moves : List String) :
    (moves.map ofMove).map text = moves := by
  rw [List.map_map]
  exact List.map_id'' text_ofMove moves

/-- The components other than `.` that pieces stand for are those of their moves. -/
theorem filter_filterMap_ofPiece? (pieces : List String) :
    (pieces.filterMap Component.ofPiece?).filter (· ≠ .current) =
      ((pieces.filter (· ≠ "")).filter (· ≠ ".")).map Component.ofMove := by
  induction pieces with
  | nil => rfl
  | cons piece rest ih =>
      by_cases empty : piece = ""
      · simp_all [Component.ofPiece?]
      by_cases current : piece = "."
      · simp_all [Component.ofPiece?]
      have found : Component.ofPiece? piece = some (Component.ofMove piece) := by
        rw [Component.ofPiece?, if_neg empty, if_neg current, Component.ofMove]
        split <;> rfl
      simp_all [Component.ofMove_ne_current]

/-- The components of a relative path other than `.` are those of its moves. -/
theorem filter_components {path : Path} (relative : path.isRooted = false) :
    path.components.filter (· ≠ .current) = path.moves.map Component.ofMove := by
  rcases List.exists_cons_of_ne_nil path.pieces_ne_nil with ⟨first, rest, split⟩
  rw [moves, steps, split, ← filter_filterMap_ofPiece?, components, split]
  simp only [relative, Bool.false_eq_true, if_false, List.filter_append, List.filter_filter,
    Bool.and_self, List.filterMap_cons]
  cases Component.ofPiece? first with
  | none => simp
  | some component => by_cases current : component = .current <;> simp [current]

/-! ## Cleaning -/

/-- Components `.` change nothing. -/
theorem foldl_cleanStep_filter (components cleaned : List Component) :
    (components.filter (· ≠ .current)).foldl cleanStep cleaned =
      components.foldl cleanStep cleaned := by
  induction components generalizing cleaned with
  | nil => rfl
  | cons component rest ih =>
      by_cases current : component = .current
      · rw [List.filter_cons_of_neg (by simpa using current), ih, List.foldl_cons, current,
          cleanStep]
      · rw [List.filter_cons_of_pos (by simpa using current), List.foldl_cons, List.foldl_cons,
          ih]

theorem cleanComponents_of_relative {path : Path} (relative : path.isRooted = false) :
    path.cleanComponents = ((path.moves.map Component.ofMove).foldl cleanStep []).reverse := by
  rw [cleanComponents, ← filter_components relative, foldl_cleanStep_filter]

theorem clean_eq_of_moves {first second : Path} (firstRelative : first.isRooted = false)
    (secondRelative : second.isRooted = false) (same : first.moves = second.moves) :
    first.clean = second.clean := by
  rw [clean, clean, cleanComponents_of_relative firstRelative,
    cleanComponents_of_relative secondRelative, same]

theorem moves_ne_nil {path : Path} (relative : path.isRooted = false)
    (named : path.clean ≠ ⟨"."⟩) : path.moves ≠ [] := by
  intro none
  apply named
  rw [clean, cleanComponents_of_relative relative, none]
  rfl

/-- The components of moves taken in so far, the last one first: names, and below them
as many `..` as lead above the start. -/
def cleaned (names : List String) (climbs : Nat) : List Component :=
  names.map .name ++ List.replicate climbs .parent

theorem cleanStep_name {name : String} (proper : name ≠ "..") (names : List String)
    (climbs : Nat) :
    cleanStep (cleaned names climbs) (.ofMove name) = cleaned (name :: names) climbs := by
  rw [Component.ofMove, if_neg proper]
  rfl

theorem cleanStep_parent_nil (climbs : Nat) :
    cleanStep (cleaned [] climbs) .parent = cleaned [] (climbs + 1) := by
  cases climbs <;> rfl

theorem cleanStep_parent_cons (name : String) (names : List String) (climbs : Nat) :
    cleanStep (cleaned (name :: names) climbs) .parent = cleaned names climbs :=
  rfl

theorem foldl_cleanStep_replicate (climbs : Nat) :
    ((List.replicate climbs "..").map Component.ofMove).foldl cleanStep [] = cleaned [] climbs := by
  induction climbs with
  | zero => rfl
  | succ climbs ih =>
      rw [List.replicate_succ', List.map_append, List.foldl_append, ih]
      exact cleanStep_parent_nil climbs

/-- Taking in names keeps all of them. -/
theorem foldl_cleanStep_names {names : List String} (proper : ∀ name ∈ names, name ≠ "..")
    (climbs : Nat) :
    (names.map Component.ofMove).foldl cleanStep (cleaned [] climbs) =
      cleaned names.reverse climbs := by
  induction names using List.reverseRecOn with
  | nil => rfl
  | append_singleton names name ih =>
      rw [List.forall_mem_append] at proper
      rw [List.map_append, List.foldl_append, ih proper.1, List.reverse_append]
      exact cleanStep_name (proper.2 name List.mem_cons_self) names.reverse climbs

/-- Taking in moves leaves names and some `..`: none exactly if no part at the beginning
has more `..` than names. -/
theorem exists_foldl_cleanStep (moves : List String) :
    ∃ names climbs, (moves.map Component.ofMove).foldl cleanStep [] = cleaned names climbs ∧
      (∀ name ∈ names, name ∈ moves ∧ name ≠ "..") ∧
      names.length + moves.count ".." = climbs + moves.countP (· ≠ "..") ∧
      (climbs = 0 ↔
        ∀ front, front <+: moves → front.count ".." ≤ front.countP (· ≠ "..")) := by
  induction moves using List.reverseRecOn with
  | nil => exact ⟨[], 0, rfl, by simp, rfl, by simp⟩
  | append_singleton moves step ih =>
      rcases ih with ⟨names, climbs, taken, proper, balance, inside⟩
      rw [List.map_append, List.foldl_append, taken]
      simp only [List.prefix_concat_iff, forall_eq_or_imp, ← inside, List.count_append,
        List.countP_append, List.map_cons, List.map_nil, List.foldl_cons, List.foldl_nil]
      have proper' (name : String) (member : name ∈ names) :
          name ∈ moves ++ [step] ∧ name ≠ ".." :=
        ⟨List.mem_append_left [step] (proper name member).1, (proper name member).2⟩
      by_cases climbing : step = ".."
      · subst climbing
        rw [Component.ofMove, if_pos rfl]
        cases names with
        | nil =>
            refine ⟨[], climbs + 1, cleanStep_parent_nil climbs, by simp, ?_, ?_⟩
            · simp at balance ⊢
              omega
            · simp at balance ⊢
              omega
        | cons name names =>
            refine ⟨names, climbs, cleanStep_parent_cons name names climbs, ?_, ?_, ?_⟩
            · exact fun name member => proper' name (List.mem_cons_of_mem _ member)
            · simp at balance ⊢
              omega
            · simp at balance ⊢
              omega
      · refine ⟨step :: names, climbs, cleanStep_name climbing names climbs, ?_, ?_, ?_⟩
        · rintro name (_ | ⟨_, member⟩)
          · simp [climbing]
          · exact proper' name member
        · simp [climbing] at balance ⊢
          omega
        · simp [climbing] at balance ⊢
          omega

/-! ## Paths made of moves -/

theorem exists_pieces_of_isRooted {path : Path} (rooted : path.isRooted) :
    ∃ rest, path.pieces = "" :: rest := by
  obtain ⟨rest, text⟩ : ∃ rest, path.text.toList = '/' :: rest :=
    List.head?_eq_some_iff.mp (by simpa [isRooted] using rooted)
  exact ⟨(splitSlash rest).map String.ofList, by simp [pieces, text, splitSlash]⟩

variable {steps : List String}

theorem pieces_ofMoves (nonempty : steps ≠ []) (isMove : ∀ step ∈ steps, IsMove step) :
    (ofPieces steps).pieces = steps :=
  pieces_ofPieces nonempty fun step member => (isMove step member).noSlash

theorem isRooted_ofMoves (nonempty : steps ≠ []) (isMove : ∀ step ∈ steps, IsMove step) :
    (ofPieces steps).isRooted = false := by
  rw [Bool.eq_false_iff]
  intro rooted
  rcases exists_pieces_of_isRooted rooted with ⟨rest, split⟩
  rw [pieces_ofMoves nonempty isMove] at split
  exact (isMove "" (by simp [split])).nonempty rfl

/-- The steps of a path made of moves are those moves. -/
theorem steps_ofMoves (nonempty : steps ≠ []) (isMove : ∀ step ∈ steps, IsMove step) :
    (ofPieces steps).steps = steps := by
  rw [Path.steps, pieces_ofMoves nonempty isMove, List.filter_eq_self]
  exact fun step member => by simpa using (isMove step member).nonempty

/-- The components of a path made of moves are those of the moves. -/
theorem components_ofMoves (nonempty : steps ≠ []) (isMove : ∀ step ∈ steps, IsMove step) :
    (ofPieces steps).components = steps.map Component.ofMove := by
  rcases List.exists_cons_of_ne_nil nonempty with ⟨first, rest, rfl⟩
  have later : rest.filterMap Component.ofPiece? = rest.map Component.ofMove := by
    rw [← List.filterMap_eq_map]
    exact List.filterMap_congr fun step member =>
      Component.ofPiece?_of_isMove (isMove step (List.mem_cons_of_mem first member))
  have kept : (rest.map Component.ofMove).filter (· ≠ .current) = rest.map Component.ofMove := by
    simp [List.filter_eq_self, Component.ofMove_ne_current]
  rw [components, pieces_ofMoves nonempty isMove]
  simp only [isRooted_ofMoves nonempty isMove, Bool.false_eq_true, if_false, later, kept,
    Component.ofPiece?_of_isMove (isMove first List.mem_cons_self)]
  rfl

theorem ofComponents_of_ne_root {first : Component} (relative : first ≠ .root)
    (rest : List Component) :
    ofComponents (first :: rest) = ofPieces ((first :: rest).map Component.text) := by
  cases first with
  | root => contradiction
  | _ => simp [ofComponents, ofPieces, Function.comp_def]

section

variable {path : Path} (relative : path.isRooted = false) {names : List String} {climbs : Nat}
  (taken : (path.moves.map Component.ofMove).foldl cleanStep [] = cleaned names climbs)

include relative taken

theorem cleanComponents_of_taken :
    path.cleanComponents = List.replicate climbs .parent ++ names.reverse.map .name := by
  rw [cleanComponents_of_relative relative, taken, cleaned]
  simp

/-- A path is cleaned to the `..` and the names that are left of its moves. -/
theorem clean_of_taken (nonempty : List.replicate climbs ".." ++ names.reverse ≠ []) :
    path.clean = ofPieces (List.replicate climbs ".." ++ names.reverse) := by
  have components := cleanComponents_of_taken relative taken
  have texts : path.cleanComponents.map Component.text =
      List.replicate climbs ".." ++ names.reverse := by
    simp [components, Component.text, Function.comp_def]
  obtain ⟨first, rest, kept⟩ : ∃ first rest, path.cleanComponents = first :: rest := by
    apply List.exists_cons_of_ne_nil
    intro none
    rw [none, List.map_nil] at texts
    exact nonempty texts.symm
  have noRoot : first ≠ .root := by
    rintro rfl
    have member : Component.root ∈ path.cleanComponents := by simp [kept]
    simp [components] at member
  rw [← texts, clean, kept]
  exact ofComponents_of_ne_root noRoot rest

end

/-- What is left of moves are moves. -/
theorem isMove_of_left {path : Path} {names : List String}
    (member : ∀ name ∈ names, name ∈ path.moves) (climbs : Nat) :
    ∀ step ∈ List.replicate climbs ".." ++ names.reverse, IsMove step := by
  intro step inLeft
  rcases List.mem_append.mp inLeft with climb | name
  · rw [List.eq_of_mem_replicate climb]
    exact ⟨by decide, by decide, by decide⟩
  · exact isMove_of_mem_moves (member step (List.mem_reverse.mp name))

/-- A relative path that is more than the current directory is cleaned to some `..` and
then names.  No `..` is left exactly if the path stays inside. -/
theorem exists_clean {path : Path} (relative : path.isRooted = false)
    (named : path.clean ≠ ⟨"."⟩) :
    ∃ climbs names, path.clean = ofPieces (List.replicate climbs ".." ++ names) ∧
      List.replicate climbs ".." ++ names ≠ [] ∧
      (∀ step ∈ List.replicate climbs ".." ++ names, IsMove step) ∧
      (∀ name ∈ names, name ≠ "..") ∧ (climbs = 0 ↔ path.StaysInside) := by
  rcases exists_foldl_cleanStep path.moves with ⟨names, climbs, taken, proper, _, inside⟩
  have isMove := isMove_of_left (fun name member => (proper name member).1) climbs
  have nonempty : List.replicate climbs ".." ++ names.reverse ≠ [] := by
    intro none
    rw [List.append_eq_nil_iff, List.replicate_eq_nil_iff, List.reverse_eq_nil_iff] at none
    have components := cleanComponents_of_taken relative taken
    rw [none.1, none.2] at components
    exact named (by rw [clean, components]; rfl)
  exact ⟨climbs, names.reverse, clean_of_taken relative taken nonempty, nonempty, isMove,
    fun name member => (proper name (List.mem_reverse.mp member)).2, inside⟩

/-! ## Rooted paths -/

/-- A root that has been taken in stays the first component. -/
theorem exists_cleanStep_root (taken : List Component) (component : Component) :
    ∃ taken', cleanStep (taken ++ [.root]) component = taken' ++ [.root] := by
  cases component with
  | current => exact ⟨taken, rfl⟩
  | root => exact ⟨.root :: taken, rfl⟩
  | name text => exact ⟨.name text :: taken, rfl⟩
  | parent =>
      cases taken with
      | nil => exact ⟨[], rfl⟩
      | cons last taken =>
          cases last with
          | name => exact ⟨taken, rfl⟩
          | root => exact ⟨.root :: taken, rfl⟩
          | current => exact ⟨.parent :: .current :: taken, rfl⟩
          | parent => exact ⟨.parent :: .parent :: taken, rfl⟩

theorem exists_foldl_cleanStep_root (components taken : List Component) :
    ∃ taken', components.foldl cleanStep (taken ++ [.root]) = taken' ++ [.root] := by
  induction components generalizing taken with
  | nil => exact ⟨taken, rfl⟩
  | cons component rest ih =>
      rcases exists_cleanStep_root taken component with ⟨taken', step⟩
      rw [List.foldl_cons, step]
      exact ih taken'

/-- Cleaning neither adds nor drops the root. -/
theorem isRooted_clean (path : Path) : path.clean.isRooted = path.isRooted := by
  cases rooted : path.isRooted with
  | false =>
      by_cases current : path.clean = ⟨"."⟩
      · rw [current]
        decide
      · rcases exists_clean rooted current with ⟨climbs, names, clean, nonempty, isMove, _⟩
        rw [clean, isRooted_ofMoves nonempty isMove]
  | true =>
      rcases exists_pieces_of_isRooted rooted with ⟨rest, split⟩
      obtain ⟨inner, components⟩ : ∃ inner, path.components = .root :: inner :=
        ⟨_, by rw [Path.components, split]; simp only [rooted, if_true]; rfl⟩
      rcases exists_foldl_cleanStep_root inner [] with ⟨taken, cleaned⟩
      have first : path.cleanComponents = .root :: taken.reverse := by
        rw [cleanComponents, components]
        change (inner.foldl cleanStep [.root]).reverse = _
        rw [← List.nil_append [Component.root], cleaned, List.reverse_append]
        rfl
      rw [clean, first]
      simp [ofComponents, isRooted]

end Inset.Path
