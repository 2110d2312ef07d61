import Inset.Pattern.Reader
import Mathlib.Data.List.Basic

/-!
# Patterns read piece by piece

A pattern is read from left to right, and each of its pieces is read by a rule of its own,
whatever follows.  The rules leave out the bound on the number of parts, for which the
length of the text is enough (`ReadsAs`).  Words with bars between them are read as a
choice among the words (`ReadsAs.words`).
-/

namespace Inset.Pattern

/-- Whether the rest of a group is read as a pattern, after the branches and parts so far,
with more fuel than it has characters. -/
structure ReadsAs (spaced : Bool) (branches parts : List Pattern) (text : List Char)
    (pattern : Pattern) (left : List Char) : Prop where
  shorter : left.length ≤ text.length
  reads : ∀ fuel, text.length < fuel →
    parts? fuel spaced branches parts text = some (pattern, left)

/-- The pattern of a whole text. -/
theorem read?_of_readsAs {text : List Char} {pattern : Pattern}
    (read : ReadsAs false [] [] text pattern []) : read? text = some pattern := by
  rw [read?, read.reads _ (Nat.lt_succ_self _)]

/-! ## Rules -/

/-- Whether a character stands for itself in a pattern, also in extended mode. -/
def IsPlainChar (c : Char) : Prop :=
  Text.isBlankChar c = false ∧
    c ∉ ['#', ')', '|', '(', '?', '*', '+', '[', '\\', '\x7b', '.', '^', '$']

instance (c : Char) : Decidable (IsPlainChar c) :=
  inferInstanceAs (Decidable (_ ∧ _))

/-- A visible character is not left out. -/
theorem skip_cons {c : Char} (visible : Text.isBlankChar c = false) (noMark : c ≠ '#')
    (spaced : Bool) (rest : List Char) : skip spaced (c :: rest) = c :: rest := by
  cases spaced <;> simp [skip, dropSpace, visible, noMark]

namespace ReadsAs

variable {spaced : Bool} {branches parts : List Pattern} {rest left : List Char}
  {pattern : Pattern}

/-- A rule that reads some characters and goes on with what follows them. -/
theorem of_step {spaced' : Bool} {branches' parts' : List Pattern} {text : List Char}
    (fewer : rest.length < text.length)
    (step : ∀ fuel, parts? (fuel + 1) spaced branches parts text =
      parts? fuel spaced' branches' parts' rest)
    (next : ReadsAs spaced' branches' parts' rest pattern left) :
    ReadsAs spaced branches parts text pattern left where
  shorter := Nat.le_trans next.shorter (Nat.le_of_lt fewer)
  reads fuel enough := by
    obtain ⟨fuel, rfl⟩ : ∃ less, fuel = less + 1 := Nat.exists_eq_add_one.mpr (by omega)
    rw [step, next.reads fuel (by omega)]

/-- A group ends before its closing parenthesis. -/
theorem close (spaced : Bool) (branches parts : List Pattern) (rest : List Char) :
    ReadsAs spaced branches parts (')' :: rest) (assembled branches parts) (')' :: rest) where
  shorter := Nat.le_refl _
  reads fuel enough := by
    obtain ⟨fuel, rfl⟩ : ∃ less, fuel = less + 1 := Nat.exists_eq_add_one.mpr (by omega)
    rw [parts?, skip_cons (by decide) (by decide)]
    rfl

/-- A pattern ends with its text. -/
theorem finish (spaced : Bool) (branches parts : List Pattern) :
    ReadsAs spaced branches parts [] (assembled branches parts) [] where
  shorter := Nat.le_refl _
  reads fuel enough := by
    obtain ⟨fuel, rfl⟩ : ∃ less, fuel = less + 1 := Nat.exists_eq_add_one.mpr enough
    cases spaced <;> rfl

/-- White space is left out in extended mode. -/
theorem blank {c : Char} (isBlank : Text.isBlankChar c = true)
    (next : ReadsAs true branches parts rest pattern left) :
    ReadsAs true branches parts (c :: rest) pattern left where
  shorter := Nat.le_succ_of_le next.shorter
  reads fuel enough := by
    rw [List.length_cons] at enough
    obtain ⟨fuel, rfl⟩ : ∃ less, fuel = less + 1 := Nat.exists_eq_add_one.mpr (by omega)
    rw [← next.reads (fuel + 1) (by omega), parts?, parts?]
    simp [skip, dropSpace, isBlank]

/-- A bar begins another branch. -/
theorem bar (next : ReadsAs spaced (ofParts parts.reverse :: branches) [] rest pattern left) :
    ReadsAs spaced branches parts ('|' :: rest) pattern left := by
  refine of_step (Nat.lt_succ_self _) (fun fuel => ?_) next
  rw [parts?, skip_cons (by decide) (by decide)]
  rfl

/-- A plain character stands for itself. -/
theorem character {c : Char} (plain : IsPlainChar c)
    (next : ReadsAs spaced branches (.character c false :: parts) rest pattern left) :
    ReadsAs spaced branches parts (c :: rest) pattern left := by
  refine of_step (Nat.lt_succ_self _) (fun fuel => ?_) next
  rcases plain with ⟨visible, others⟩
  simp only [List.mem_cons, List.not_mem_nil, or_false, not_or] at others
  rw [parts?, skip_cons visible others.1]
  simp [others, Times.ofMark?, part?]

/-- An escape of one character stands for what it means. -/
theorem escape {c : Char} {part : Pattern}
    (means : escape? spaced (c :: rest) = some (part, rest))
    (next : ReadsAs spaced branches (part :: parts) rest pattern left) :
    ReadsAs spaced branches parts ('\\' :: c :: rest) pattern left := by
  refine of_step (by simp only [List.length_cons]; omega) (fun fuel => ?_) next
  rw [parts?, skip_cons (by decide) (by decide)]
  simp [Times.ofMark?, part?, means]

/-- A star repeats the latest part. -/
theorem star {part : Pattern}
    (repeated : repeat? .anyTimes (part :: parts) rest =
      some (.repetition .anyTimes part :: parts, rest))
    (next : ReadsAs spaced branches (.repetition .anyTimes part :: parts) rest pattern left) :
    ReadsAs spaced branches (part :: parts) ('*' :: rest) pattern left := by
  refine of_step (Nat.lt_succ_self _) (fun fuel => ?_) next
  rw [parts?, skip_cons (by decide) (by decide)]
  simp [Times.ofMark?, repeated]

/-- Flags govern what is left of the group. -/
theorem flags {settings : Settings} {inner : List Char}
    (opens : opening? (skip spaced rest) = some (.flags settings, inner))
    (fewer : inner.length ≤ rest.length)
    (next : ReadsAs (spacedAfter spaced settings) branches (.flags settings :: parts) inner
      pattern left) :
    ReadsAs spaced branches parts ('(' :: rest) pattern left := by
  refine of_step (Nat.lt_succ_of_le fewer) (fun fuel => ?_) next
  rw [parts?, skip_cons (by decide) (by decide)]
  simp [opens]

/-- A group is a part, with what is read up to its closing parenthesis for its body. -/
theorem group {kind : GroupKind} {body : Pattern} {inner after : List Char}
    (opens : opening? (skip spaced rest) = some (.group kind, inner))
    (fewer : inner.length ≤ rest.length)
    (inside : ReadsAs (spacedAfter spaced kind.settings) [] [] inner body (')' :: after))
    (next : ReadsAs spaced branches (.group kind body :: parts) after pattern left) :
    ReadsAs spaced branches parts ('(' :: rest) pattern left := by
  have closed := inside.shorter
  have beyond := next.shorter
  rw [List.length_cons] at closed
  refine ⟨by rw [List.length_cons]; omega, fun fuel enough => ?_⟩
  rw [List.length_cons] at enough
  obtain ⟨fuel, rfl⟩ : ∃ less, fuel = less + 1 := Nat.exists_eq_add_one.mpr (by omega)
  rw [parts?, skip_cons (by decide) (by decide)]
  simp [opens, inside.reads fuel (by omega), next.reads fuel (by omega)]

end ReadsAs

/-! ## Space and words -/

/-- Any amount of white space. -/
def spaces : Pattern :=
  .repetition .anyTimes (.lettered .space false)

/-- The pattern of a word. -/
def ofWord (word : List Char) : Pattern :=
  ofParts (word.map fun c => .character c false)

namespace ReadsAs

variable {spaced : Bool} {branches parts : List Pattern} {rest left : List Char}
  {pattern : Pattern}

/-- The characters of a word stand for themselves. -/
theorem word {word : List Char} (plain : ∀ c ∈ word, IsPlainChar c)
    (next : ReadsAs spaced branches ((word.map fun c => .character c false).reverse ++ parts)
      rest pattern left) :
    ReadsAs spaced branches parts (word ++ rest) pattern left := by
  induction word generalizing parts with
  | nil => exact next
  | cons c word ih =>
      rw [List.forall_mem_cons] at plain
      refine character plain.1 (ih plain.2 ?_)
      simpa using next

/-- Words with bars between them are a choice among the words. -/
theorem words {word : List Char} {others : List (List Char)}
    (plain : ∀ item ∈ word :: others, ∀ c ∈ item, IsPlainChar c) (spaced : Bool)
    (branches : List Pattern) (rest : List Char) :
    ReadsAs spaced branches [] (['|'].intercalate (word :: others) ++ ')' :: rest)
      (ofBranches (branches.reverse ++ (word :: others).map ofWord)) (')' :: rest) := by
  induction others generalizing word branches with
  | nil =>
      rw [List.intercalate_singleton]
      refine ReadsAs.word (plain word List.mem_cons_self) ?_
      have ends := close spaced branches (word.map fun c => .character c false).reverse rest
      simpa [assembled, ofWord] using ends
  | cons next others ih =>
      rw [List.forall_mem_cons] at plain
      rw [List.intercalate_cons_cons, List.append_assoc, List.append_assoc]
      refine ReadsAs.word plain.1 (bar ?_)
      simpa [ofWord] using ih plain.2 (ofWord word :: branches)

end ReadsAs

end Inset.Pattern
