import Inset.Proofs.Path.Cleaning

/-!
# Paths from the root

The path from the root along some names is what a working directory is called by.  Its
parent leaves out the last name (`parent?_fromRoot`), so that the directories above it
are the paths along the beginnings of its names (`ancestors_fromRoot`).
-/

namespace Inset.Path

/-! ## Last pieces -/

theorem dropFillers_concat {piece : String} (nonempty : piece ≠ "") (notCurrent : piece ≠ ".")
    (front : List String) : dropFillers (front ++ [piece]) = front ++ [piece] :=
  List.rdropWhile_concat_neg _ _ _ (by simp [nonempty, notCurrent])

/-- A path that ends in a name has a parent. -/
theorem exists_parent?_of_pieces {path : Path} {front : List String} {last : String}
    (pieces : path.pieces = front ++ [last]) (nonempty : last ≠ "") (notCurrent : last ≠ ".") :
    ∃ parent, path.parent? = some parent := by
  cases front with
  | nil =>
      have none : dropFillers [] = [] := rfl
      rw [parent?, pieces]
      simp only [List.nil_append, none, if_neg nonempty]
      exact ⟨_, rfl⟩
  | cons first front =>
      obtain ⟨head, tail, shown⟩ : ∃ head tail, front ++ [last] = head :: tail :=
        List.exists_cons_of_ne_nil (by simp)
      rw [parent?, pieces]
      simp only [List.cons_append, dropFillers_concat nonempty notCurrent front]
      rw [shown]
      simp only
      split <;> exact ⟨_, rfl⟩

/-- The parent of a path that ends in two names keeps the first of them. -/
theorem parent?_of_pieces {path : Path} {front : List String} {name last : String}
    (pieces : path.pieces = front ++ [name] ++ [last]) (nameNonempty : name ≠ "")
    (nameNotCurrent : name ≠ ".") (lastNonempty : last ≠ "") (lastNotCurrent : last ≠ ".") :
    path.parent? = some (ofPieces (front ++ [name])) := by
  cases front with
  | nil =>
      have kept : dropFillers [last] = [last] :=
        dropFillers_concat lastNonempty lastNotCurrent []
      have none : dropFillers [] = [] := rfl
      rw [parent?, pieces]
      simp only [List.nil_append, List.cons_append, kept, List.dropLast_singleton, none,
        if_neg nameNonempty]
      simp [ofPieces, joinSlash]
  | cons first front =>
      have shown : dropFillers (front ++ [name] ++ [last]) = front ++ [name] ++ [last] :=
        dropFillers_concat lastNonempty lastNotCurrent _
      have kept : dropFillers (front ++ [name]) = front ++ [name] :=
        dropFillers_concat nameNonempty nameNotCurrent _
      obtain ⟨head, tail, more⟩ : ∃ head tail, front ++ [name] = head :: tail :=
        List.exists_cons_of_ne_nil (by simp)
      obtain ⟨head', tail', longer⟩ : ∃ head tail, front ++ [name] ++ [last] = head :: tail :=
        List.exists_cons_of_ne_nil (by simp)
      rw [parent?, pieces]
      simp only [List.cons_append]
      rw [shown, longer]
      simp only
      rw [← longer, List.dropLast_concat, kept, more]

/-- A path that ends in a slash ends in an empty piece. -/
theorem getLast?_pieces_of_endsInSlash {path : Path} (slash : path.endsInSlash) :
    path.pieces.getLast? = some "" := by
  obtain ⟨front, text⟩ : ∃ front, path.text.toList = front ++ ['/'] :=
    List.getLast?_eq_some_iff.mp (by simpa [endsInSlash] using slash)
  simp [pieces, text, splitSlash_append_slash, splitSlash]

/-- Below a directory that is named without a final slash, the pieces of a path come after
those of the directory. -/
theorem pieces_join {directory path : Path} (relative : path.isRooted = false)
    (nonempty : directory.text ≠ "") (noSlash : directory.endsInSlash = false) :
    (directory.join path).pieces = directory.pieces ++ path.pieces := by
  rw [join, if_neg (by simp [relative]), if_neg (by simp [nonempty, noSlash]),
    pieces_append_slash]

/-- A name is a relative path. -/
theorem isRooted_of_plain {name : String} (isMove : IsMove name) :
    isRooted ⟨name⟩ = false := by
  rw [Bool.eq_false_iff]
  intro rooted
  rcases exists_pieces_of_isRooted rooted with ⟨rest, split⟩
  rw [pieces_of_plain isMove.noSlash] at split
  exact isMove.nonempty (List.cons.inj split).1

/-! ## Paths along names -/

/-- The path from the root along names. -/
def fromRoot (names : List String) : Path :=
  ofComponents (.root :: names.map .name)

theorem text_fromRoot (names : List String) :
    (fromRoot names).text = String.ofList ('/' :: joinSlash (names.map String.toList)) := by
  simp [fromRoot, ofComponents, Component.text, Function.comp_def]

variable {names : List String}

theorem pieces_fromRoot (nonempty : names ≠ []) (isMove : ∀ name ∈ names, IsMove name) :
    (fromRoot names).pieces = "" :: names := by
  have split : splitSlash (joinSlash (names.map String.toList)) = names.map String.toList := by
    apply splitSlash_joinSlash
    · simpa using nonempty
    · simpa using fun name member => (isMove name member).noSlash
  simp [pieces, text_fromRoot, splitSlash, split]

/-- Only the root ends in a slash. -/
theorem endsInSlash_fromRoot (nonempty : names ≠ []) (isMove : ∀ name ∈ names, IsMove name) :
    (fromRoot names).endsInSlash = false := by
  rw [Bool.eq_false_iff]
  intro slash
  have filler := getLast?_pieces_of_endsInSlash slash
  rw [pieces_fromRoot nonempty isMove, List.getLast?_cons_of_ne_nil nonempty] at filler
  exact (isMove "" (List.mem_of_getLast? filler)).nonempty rfl

/-- A path that has the pieces of a path along names is that path. -/
theorem eq_fromRoot_of_pieces {path : Path} (pieces : path.pieces = "" :: names)
    (nonempty : names ≠ []) (isMove : ∀ name ∈ names, IsMove name) : path = fromRoot names := by
  rw [← ofPieces_pieces path, pieces, ← pieces_fromRoot nonempty isMove, ofPieces_pieces]

/-- A name seen from a directory is the next name of the path. -/
theorem join_fromRoot {name : String} (isMove : ∀ step ∈ names ++ [name], IsMove step) :
    (fromRoot names).join ⟨name⟩ = fromRoot (names ++ [name]) := by
  have last : IsMove name := isMove name (by simp)
  have pieces : Path.pieces ⟨name⟩ = [name] := pieces_of_plain last.noSlash
  have relative := isRooted_of_plain last
  apply eq_fromRoot_of_pieces _ (by simp) isMove
  by_cases top : names = []
  · subst top
    simp [join, relative, text_fromRoot, joinSlash, endsInSlash, Path.pieces, splitSlash,
      splitSlash_eq_singleton last.noSlash]
  · have above := pieces_fromRoot top fun step member =>
      isMove step (List.mem_append_left [name] member)
    have nonempty : (fromRoot names).text ≠ "" := by simp [text_fromRoot]
    have noSlash := endsInSlash_fromRoot top fun step member =>
      isMove step (List.mem_append_left [name] member)
    rw [pieces_join relative nonempty noSlash, above, pieces, List.cons_append]

/-- The parent of a path along names leaves out the last of them. -/
theorem parent?_fromRoot {name : String} (isMove : ∀ step ∈ names ++ [name], IsMove step) :
    (fromRoot (names ++ [name])).parent? = some (fromRoot names) := by
  have last : IsMove name := isMove name (by simp)
  have pieces : (fromRoot (names ++ [name])).pieces = "" :: (names ++ [name]) :=
    pieces_fromRoot (by simp) isMove
  rcases List.eq_nil_or_concat names with rfl | ⟨front, deepest, rfl⟩
  · have shown : dropFillers [name] = [name] :=
      dropFillers_concat last.nonempty last.notCurrent []
    have none : dropFillers [] = [] := rfl
    rw [parent?, pieces]
    simp [shown, none, fromRoot, ofComponents, joinSlash]
  · rw [List.concat_eq_append] at isMove pieces ⊢
    have next : IsMove deepest := isMove deepest (by simp)
    have pieces' : (fromRoot (front ++ [deepest] ++ [name])).pieces =
        ("" :: front) ++ [deepest] ++ [name] := pieces
    have above : ("" :: front) ++ [deepest] = "" :: (front ++ [deepest]) := rfl
    rw [parent?_of_pieces pieces' next.nonempty next.notCurrent last.nonempty last.notCurrent,
      above, ← pieces_fromRoot, ofPieces_pieces]
    · simp
    · exact fun step member => isMove step (List.mem_append_left [name] member)

theorem parent?_join_fromRoot {name : String} (isMove : ∀ step ∈ names, IsMove step)
    (last : IsMove name) : ((fromRoot names).join ⟨name⟩).parent? = some (fromRoot names) := by
  have isMove' : ∀ step ∈ names ++ [name], IsMove step :=
    List.forall_mem_append.mpr ⟨isMove, List.forall_mem_singleton.mpr last⟩
  rw [join_fromRoot isMove', parent?_fromRoot isMove']

/-- The directories above a path along names are the paths along the beginnings of the
names, the longest first. -/
theorem ancestors_fromRoot (isMove : ∀ name ∈ names, IsMove name) :
    (fromRoot names).ancestors = names.inits.reverse.map fromRoot := by
  induction names using List.reverseRecOn with
  | nil => decide
  | append_singleton names name ih =>
      have above := ih fun step member => isMove step (List.mem_append_left [name] member)
      rw [ancestors_eq, parent?_fromRoot isMove]
      simp only [above, List.inits_append]
      simp

end Inset.Path
