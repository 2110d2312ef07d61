/-!
# Paths

A path is kept as it was written.  Its *pieces* are what stands between
slashes; its *components* leave out empty pieces and every piece `.` that does
not begin the path.  Cleaning is lexical: it drops `.`, lets `..` cancel the
name before it, and never looks at a file tree.

A text and its parts between slashes determine each other, by
`joinSlash_splitSlash` and `splitSlash_joinSlash`.

A path is a text.  A system also takes paths whose bytes are not UTF-8: a working
directory, an entry of a directory or a manifest named on the command line may have
one.  Such paths are left out.
-/

namespace Inset

/-- A path as written. -/
structure Path where
  text : String
  deriving DecidableEq, Inhabited

namespace Path

/-! ## Pieces -/

/-- The parts of a text between slashes; there is always at least one. -/
def splitSlash : List Char → List (List Char)
  | [] => [[]]
  | c :: rest =>
      if c = '/' then [] :: splitSlash rest
      else
        match splitSlash rest with
        | [] => [[c]]
        | piece :: pieces => (c :: piece) :: pieces

/-- Put slashes between parts. -/
def joinSlash : List (List Char) → List Char
  | [] => []
  | [piece] => piece
  | piece :: pieces => piece ++ '/' :: joinSlash pieces

theorem splitSlash_ne_nil (text : List Char) : splitSlash text ≠ [] := by
  fun_cases splitSlash text <;> simp

theorem splitSlash_cons_of_ne {c : Char} (ordinary : c ≠ '/') (text : List Char) :
    ∃ piece pieces, splitSlash text = piece :: pieces ∧
      splitSlash (c :: text) = (c :: piece) :: pieces := by
  rcases List.exists_cons_of_ne_nil (splitSlash_ne_nil text) with ⟨piece, pieces, split⟩
  exact ⟨piece, pieces, split, by simp [splitSlash, ordinary, split]⟩

/-- No piece holds a slash. -/
theorem slash_notMem_of_mem_splitSlash {text piece : List Char}
    (member : piece ∈ splitSlash text) : '/' ∉ piece := by
  induction text generalizing piece with
  | nil => simp_all [splitSlash]
  | cons c rest ih =>
      by_cases slash : c = '/'
      · rw [splitSlash, if_pos slash] at member
        rcases List.mem_cons.mp member with rfl | later
        · simp
        · exact ih later
      · rcases splitSlash_cons_of_ne slash rest with ⟨first, others, split, split'⟩
        rw [split'] at member
        rcases List.mem_cons.mp member with rfl | later
        · have plain : '/' ∉ first := ih (by simp [split])
          simpa [Ne.symm slash] using plain
        · exact ih (by simp [split, later])

@[simp]
theorem joinSlash_splitSlash (text : List Char) : joinSlash (splitSlash text) = text := by
  induction text with
  | nil => rfl
  | cons c rest ih =>
      by_cases slash : c = '/'
      · rcases List.exists_cons_of_ne_nil (splitSlash_ne_nil rest) with
          ⟨first, others, split⟩
        rw [splitSlash, if_pos slash, split, joinSlash, ← split, ih, slash]
        · rfl
        · simp
      · rcases splitSlash_cons_of_ne slash rest with ⟨first, others, split, split'⟩
        rw [split] at ih
        rw [split']
        cases others <;> simpa [joinSlash] using ih

theorem splitSlash_append {piece : List Char} (ordinary : '/' ∉ piece) (rest : List Char) :
    splitSlash (piece ++ '/' :: rest) = piece :: splitSlash rest := by
  induction piece with
  | nil => simp [splitSlash]
  | cons c piece ih =>
      simp only [List.mem_cons, not_or] at ordinary
      simp [splitSlash, Ne.symm ordinary.1, ih ordinary.2]

theorem splitSlash_eq_singleton {piece : List Char} (ordinary : '/' ∉ piece) :
    splitSlash piece = [piece] := by
  induction piece with
  | nil => rfl
  | cons c piece ih =>
      simp only [List.mem_cons, not_or] at ordinary
      simp [splitSlash, Ne.symm ordinary.1, ih ordinary.2]

/-- Parts without slashes are found again after they have been joined. -/
theorem splitSlash_joinSlash {pieces : List (List Char)} (nonempty : pieces ≠ [])
    (ordinary : ∀ piece ∈ pieces, '/' ∉ piece) :
    splitSlash (joinSlash pieces) = pieces := by
  fun_induction joinSlash pieces with
  | case1 => exact absurd rfl nonempty
  | case2 piece => exact splitSlash_eq_singleton (ordinary piece (by simp))
  | case3 piece pieces inner ih =>
      rw [splitSlash_append (ordinary piece (by simp)),
        ih (fun none => inner none) fun piece member => ordinary piece (by simp [member])]

/-- The pieces of a path. -/
def pieces (path : Path) : List String :=
  (splitSlash path.text.toList).map String.ofList

/-- The path with the given pieces. -/
def ofPieces (pieces : List String) : Path :=
  ⟨String.ofList (joinSlash (pieces.map String.toList))⟩

theorem pieces_ne_nil (path : Path) : path.pieces ≠ [] := by
  simp [pieces, splitSlash_ne_nil]

@[simp]
theorem ofPieces_pieces (path : Path) : ofPieces path.pieces = path := by
  simp [ofPieces, pieces, Function.comp_def]

/-- Whether a path begins at the root. -/
def isRooted (path : Path) : Bool :=
  path.text.toList.head? = some '/'

/-- Whether a path ends in a slash. -/
def endsInSlash (path : Path) : Bool :=
  path.text.toList.getLast? = some '/'

/-! ## Components -/

/-- A component of a path. -/
inductive Component
  | root
  | current
  | parent
  | name (text : String)
  deriving DecidableEq, Inhabited

namespace Component

/-- The component that a piece stands for; an empty piece stands for none. -/
def ofPiece? (piece : String) : Option Component :=
  if piece = "" then none
  else if piece = "." then some current
  else if piece = ".." then some parent
  else some (name piece)

/-- The text of a component. -/
def text : Component → String
  | root => "/"
  | current => "."
  | parent => ".."
  | name text => text

end Component

/-- The components of a path. -/
def components (path : Path) : List Component :=
  match path.pieces with
  | [] => []
  | first :: rest =>
      let inner := (rest.filterMap Component.ofPiece?).filter (· ≠ .current)
      if path.isRooted then .root :: inner
      else (Component.ofPiece? first).toList ++ inner

/-! ## Cleaning -/

/-- Take one more component into a cleaned path, which is held with its last
component first. -/
def cleanStep (cleaned : List Component) (component : Component) : List Component :=
  match component with
  | .current => cleaned
  | .parent =>
      match cleaned with
      | .root :: _ => cleaned
      | .name _ :: rest => rest
      | _ => .parent :: cleaned
  | _ => component :: cleaned

/-- The components of the cleaned path; there are none if it is the current
directory. -/
def cleanComponents (path : Path) : List Component :=
  (path.components.foldl cleanStep []).reverse

/-- The path made of components, the root first if it is there. -/
def ofComponents : List Component → Path
  | .root :: rest => ⟨String.ofList ('/' :: joinSlash (rest.map fun c => c.text.toList))⟩
  | components => ⟨String.ofList (joinSlash (components.map fun c => c.text.toList))⟩

/-- The path without `.`, without empty pieces and without a name before `..`. -/
def clean (path : Path) : Path :=
  match path.cleanComponents with
  | [] => ⟨"."⟩
  | components => ofComponents components

/-! ## Joining and taking apart -/

/-- A path seen from a directory.  A path that begins at the root stays as it
is. -/
def join (directory path : Path) : Path :=
  if path.isRooted then path
  else if directory.text = "" ∨ directory.endsInSlash then ⟨directory.text ++ path.text⟩
  else ⟨directory.text ++ "/" ++ path.text⟩

/-- Drop the pieces at the end that stand for no component. -/
def dropFillers (pieces : List String) : List String :=
  (pieces.reverse.dropWhile fun piece => piece = "" || piece = ".").reverse

/-- The path without its last component; the root and the empty path have no
parent. -/
def parent? (path : Path) : Option Path :=
  match path.pieces with
  | [] => none
  | first :: rest =>
      match dropFillers rest with
      | [] => if first = "" then none else some ⟨""⟩
      | shown =>
          match dropFillers shown.dropLast with
          | [] => some (if first = "" then ⟨"/"⟩ else ⟨first⟩)
          | kept => some (ofPieces (first :: kept))

/-- The path and the directories above it, nearest first, at most as many as
given. -/
def ancestorsWithin : Nat → Path → List Path
  | 0, path => [path]
  | count + 1, path =>
      path :: match path.parent? with
        | some parent => ancestorsWithin count parent
        | none => []

/-- The path and the directories above it, nearest first. -/
def ancestors (path : Path) : List Path :=
  ancestorsWithin path.pieces.length path

end Path

end Inset
