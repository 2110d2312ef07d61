import Inset.Proofs.Json.Strings
import Mathlib.Data.List.TakeWhile

/-!
# Values read back

Numbers apart, the reader of values undoes the writer (`Value.readsBack_of_isNumberless`):
at every depth, before every rest, and with more fuel than there are characters.  So
a written text is read as the draft of the value that was written
(`read_lines_append`).
-/

namespace Inset.Json

open Reader

/-! ## White space -/

theorem skipBlanks_newline (depth : Nat) (text : List Char) :
    skipBlanks (newline depth ++ text) = skipBlanks text := by
  have blank : ∀ c ∈ newline depth, isBlank c = true := by
    intro c member
    rcases List.mem_cons.mp member with rfl | margin
    · rfl
    · rw [List.eq_of_mem_replicate margin]
      rfl
  exact List.dropWhile_append_of_pos blank

theorem skipBlanks_cons {c : Char} (solid : isBlank c = false) (text : List Char) :
    skipBlanks (c :: text) = c :: text := by
  simp [skipBlanks, solid]

/-- A value is read from the first character that is not white space. -/
theorem value_eq_of_skipBlanks {text other : List Char}
    (same : skipBlanks text = skipBlanks other) (fuel : Nat) :
    Reader.value fuel text = Reader.value fuel other := by
  cases fuel with
  | zero => simp [Reader.value]
  | succ fuel => simp only [Reader.value, same]

theorem value_newline (depth fuel : Nat) (text : List Char) :
    Reader.value fuel (newline depth ++ text) = Reader.value fuel text :=
  value_eq_of_skipBlanks (skipBlanks_newline depth text) fuel

theorem value_space (fuel : Nat) (text : List Char) :
    Reader.value fuel (' ' :: text) = Reader.value fuel text := by
  have same : skipBlanks (' ' :: text) = skipBlanks text := rfl
  exact value_eq_of_skipBlanks same fuel

/-! ## Values without numbers -/

/-- Values in which no number stands. -/
inductive Value.IsNumberless : Value → Prop
  | null : IsNumberless .null
  | boolean (value : Bool) : IsNumberless (.boolean value)
  | string (text : String) : IsNumberless (.string text)
  | array {items : List Value} (each : ∀ item ∈ items, IsNumberless item) :
      IsNumberless (.array items)
  | object {members : List (String × Value)}
      (each : ∀ member ∈ members, IsNumberless member.2) : IsNumberless (.object members)

/-- A written value begins with a character that is neither white space nor a closing
bracket. -/
theorem Value.IsNumberless.exists_lines {value : Value} (numberless : value.IsNumberless)
    (depth : Nat) :
    ∃ c rest, value.lines depth = c :: rest ∧ isBlank c = false ∧ c ≠ ']' := by
  cases numberless with
  | null => exact ⟨_, _, rfl, rfl, by decide⟩
  | boolean value => cases value <;> exact ⟨_, _, rfl, rfl, by decide⟩
  | string text => exact ⟨_, _, rfl, rfl, by decide⟩
  | @array items each => cases items <;> exact ⟨_, _, rfl, rfl, by decide⟩
  | @object members each => cases members <;> exact ⟨_, _, rfl, rfl, by decide⟩

/-- Whether a value is found again wherever it is written, if there is more fuel than it
has characters. -/
def Value.ReadsBack (value : Value) : Prop :=
  ∀ (depth fuel : Nat) (rest : List Char), (value.lines depth).length < fuel →
    Reader.value fuel (value.lines depth ++ rest) = (value.draft, some rest)

/-- One unit of fuel goes into opening the value. -/
theorem Value.readsBack_of_succ {value : Value}
    (back : ∀ (depth fuel : Nat) (rest : List Char), (value.lines depth).length ≤ fuel →
      Reader.value (fuel + 1) (value.lines depth ++ rest) = (value.draft, some rest)) :
    value.ReadsBack := by
  intro depth fuel rest enough
  obtain ⟨fuel, rfl⟩ : ∃ less, fuel = less + 1 := Nat.exists_eq_add_one.mpr (by omega)
  exact back depth fuel rest (Nat.le_of_lt_succ enough)

theorem Value.readsBack_string (text : String) : (Value.string text).ReadsBack := by
  apply Value.readsBack_of_succ
  intro depth fuel rest _
  have opens := skipBlanks_cons (c := '"') rfl
  have body := stringBody_flatMap_escape text.toList rest
  simp [Value.lines, quote_append, Reader.value, opens, body, Reading.ofExcept,
    Value.draft]

/-! ## Arrays -/

theorem items_last {fuel : Nat} {text rest after : List Char} {draft : Draft}
    (first : Reader.value fuel text = (draft, some rest))
    (closes : skipBlanks rest = ']' :: after) :
    Reader.items (fuel + 1) text = ([draft], none, some after) := by
  simp only [Reader.items, first, closes]

theorem items_next {fuel : Nat} {text rest others after : List Char} {draft : Draft}
    {drafts : List Draft} (first : Reader.value fuel text = (draft, some rest))
    (goesOn : skipBlanks rest = ',' :: others)
    (more : Reader.items fuel others = (drafts, none, some after)) :
    Reader.items (fuel + 1) text = (draft :: drafts, none, some after) := by
  simp only [Reader.items, first, goesOn, more]

theorem opens_item {item : Value} (numberless : item.IsNumberless) (depth : Nat)
    (rest : List Char) :
    ∃ c more, skipBlanks (newline depth ++ (item.lines depth ++ rest)) = c :: more ∧
      c ≠ ']' := by
  rcases numberless.exists_lines depth with ⟨c, line, begins, solid, notEmpty⟩
  refine ⟨c, line ++ rest, ?_, notEmpty⟩
  rw [skipBlanks_newline, begins]
  exact skipBlanks_cons solid (line ++ rest)

theorem value_array {fuel : Nat} {text after : List Char} {drafts : List Draft}
    (opens : ∃ c more, skipBlanks text = c :: more ∧ c ≠ ']')
    (elements : Reader.items fuel text = (drafts, none, some after)) :
    Reader.value (fuel + 1) ('[' :: text) = (.array drafts none, some after) := by
  rcases opens with ⟨c, more, opens, notEmpty⟩
  have bracket := skipBlanks_cons (c := '[') rfl
  simp [Reader.value, bracket, opens, elements]

/-- The items of an array are read back when each of them is. -/
theorem items_lines {item : Value} {items : List Value}
    (each : ∀ value ∈ item :: items, value.ReadsBack) (inner outer : Nat) {fuel : Nat}
    (rest : List Char) (enough : (item.lines inner ++ itemLines inner items).length < fuel) :
    Reader.items (fuel + 1) (newline inner ++ (item.lines inner ++
        (itemLines inner items ++ (newline outer ++ ']' :: rest)))) =
      (draftItems (item :: items), none, some rest) := by
  induction items generalizing item fuel with
  | nil =>
      rw [List.length_append] at enough
      have first := each item (by simp) inner fuel
        (newline outer ++ ']' :: rest) (by omega)
      exact items_last ((value_newline inner fuel _).trans first)
        (skipBlanks_newline outer _)
  | cons next items ih =>
      simp only [itemLines, List.length_append, List.length_cons] at enough
      obtain ⟨fuel, rfl⟩ : ∃ less, fuel = less + 1 := Nat.exists_eq_add_one.mpr (by omega)
      have first := each item (by simp) inner (fuel + 1)
        (',' :: (newline inner ++ (next.lines inner ++
          (itemLines inner items ++ (newline outer ++ ']' :: rest))))) (by omega)
      simp only [itemLines, List.cons_append, List.append_assoc]
      apply items_next ((value_newline inner (fuel + 1) _).trans first) rfl
      apply ih
      · intro value member
        exact each value (List.mem_cons_of_mem item member)
      · rw [List.length_append]
        omega

theorem Value.readsBack_array {items : List Value}
    (numberless : ∀ item ∈ items, item.IsNumberless)
    (each : ∀ item ∈ items, item.ReadsBack) : (Value.array items).ReadsBack := by
  apply Value.readsBack_of_succ
  intro depth fuel rest enough
  cases items with
  | nil => rfl
  | cons item items =>
      simp only [Value.lines, List.length_cons, List.length_append] at enough
      obtain ⟨fuel, rfl⟩ : ∃ less, fuel = less + 1 := Nat.exists_eq_add_one.mpr (by omega)
      have short : (item.lines (depth + 1) ++
          itemLines (depth + 1) items).length < fuel := by
        rw [List.length_append]
        omega
      have opens := opens_item (numberless item List.mem_cons_self) (depth + 1)
      have elements := items_lines each (depth + 1) depth rest short
      have array := value_array (opens _) elements
      simpa [Value.lines, Value.draft] using array

/-! ## Objects -/

section

variable {fuel : Nat} {key : String} {text rest : List Char} {draft : Draft}
  (first : Reader.value fuel text = (draft, some rest)) (depth : Nat)

include first

theorem members_last {after : List Char} (closes : skipBlanks rest = '\x7d' :: after) :
    Reader.members (fuel + 1) (newline depth ++ (quote key ++ ':' :: ' ' :: text)) =
      ([(key, draft)], none, some after) := by
  have opens := skipBlanks_cons (c := '"') rfl
  have colon := skipBlanks_cons (c := ':') rfl
  simp only [Reader.members, skipBlanks_newline, quote_append, opens,
    stringBody_flatMap_escape, colon, value_space, first, closes, String.ofList_toList]

theorem members_next {others after : List Char} {drafts : List (String × Draft)}
    (goesOn : skipBlanks rest = ',' :: others)
    (more : Reader.members fuel others = (drafts, none, some after)) :
    Reader.members (fuel + 1) (newline depth ++ (quote key ++ ':' :: ' ' :: text)) =
      ((key, draft) :: drafts, none, some after) := by
  have opens := skipBlanks_cons (c := '"') rfl
  have colon := skipBlanks_cons (c := ':') rfl
  simp only [Reader.members, skipBlanks_newline, quote_append, opens,
    stringBody_flatMap_escape, colon, value_space, first, goesOn, more, String.ofList_toList]

end

theorem opens_key (key : String) (depth : Nat) (rest : List Char) :
    ∃ more, skipBlanks (newline depth ++ (quote key ++ rest)) = '"' :: more := by
  rw [skipBlanks_newline, quote_append]
  exact ⟨_, skipBlanks_cons rfl _⟩

theorem value_object {fuel : Nat} {text after : List Char}
    {drafts : List (String × Draft)} (opens : ∃ more, skipBlanks text = '"' :: more)
    (entries : Reader.members fuel text = (drafts, none, some after)) :
    Reader.value (fuel + 1) ('\x7b' :: text) = (.object drafts none, some after) := by
  rcases opens with ⟨more, opens⟩
  have brace := skipBlanks_cons (c := '\x7b') rfl
  simp [Reader.value, brace, opens, entries]

/-- The members of an object are read back when the value of each is. -/
theorem members_lines {key : String} {value : Value} {members : List (String × Value)}
    (each : ∀ member ∈ (key, value) :: members, member.2.ReadsBack) (inner outer : Nat)
    {fuel : Nat} (rest : List Char)
    (enough : (value.lines inner ++ memberLines inner members).length < fuel) :
    Reader.members (fuel + 1) (newline inner ++ (quote key ++ ':' :: ' ' ::
        (value.lines inner ++ (memberLines inner members ++
          (newline outer ++ '\x7d' :: rest))))) =
      (draftMembers ((key, value) :: members), none, some rest) := by
  have back : value.ReadsBack := each (key, value) (by simp)
  induction members generalizing key value fuel with
  | nil =>
      rw [List.length_append] at enough
      have first := back inner fuel (newline outer ++ '\x7d' :: rest) (by omega)
      exact members_last first inner (skipBlanks_newline outer _)
  | cons next members ih =>
      rcases next with ⟨nextKey, nextValue⟩
      simp only [memberLines, List.length_append, List.length_cons] at enough
      obtain ⟨fuel, rfl⟩ : ∃ less, fuel = less + 1 := Nat.exists_eq_add_one.mpr (by omega)
      have first := back inner (fuel + 1)
        (',' :: (newline inner ++ (quote nextKey ++ ':' :: ' ' :: (nextValue.lines inner ++
          (memberLines inner members ++ (newline outer ++ '\x7d' :: rest)))))) (by omega)
      simp only [memberLines, List.cons_append, List.append_assoc, List.nil_append]
      apply members_next first inner rfl
      apply ih
      · intro member listed
        exact each member (List.mem_cons_of_mem (key, value) listed)
      · rw [List.length_append]
        omega
      · exact each (nextKey, nextValue) (by simp)

theorem Value.readsBack_object {members : List (String × Value)}
    (each : ∀ member ∈ members, member.2.ReadsBack) : (Value.object members).ReadsBack := by
  apply Value.readsBack_of_succ
  intro depth fuel rest enough
  cases members with
  | nil => rfl
  | cons member members =>
      rcases member with ⟨key, value⟩
      simp only [Value.lines, List.length_cons, List.length_append] at enough
      obtain ⟨fuel, rfl⟩ : ∃ less, fuel = less + 1 := Nat.exists_eq_add_one.mpr (by omega)
      have short : (value.lines (depth + 1) ++
          memberLines (depth + 1) members).length < fuel := by
        rw [List.length_append]
        omega
      have entries := members_lines each (depth + 1) depth rest short
      have object := value_object (opens_key key (depth + 1) _) entries
      simpa [Value.lines, Value.draft] using object

/-! ## Values -/

/-- Numbers apart, every value is read back. -/
theorem Value.readsBack_of_isNumberless {value : Value} (numberless : value.IsNumberless) :
    value.ReadsBack := by
  induction numberless with
  | null => exact Value.readsBack_of_succ fun _ _ _ _ => rfl
  | boolean value =>
      apply Value.readsBack_of_succ
      intro depth fuel rest _
      cases value <;> rfl
  | string text => exact Value.readsBack_string text
  | array each ih => exact Value.readsBack_array each ih
  | object _ ih => exact Value.readsBack_object ih

/-- A written value is read back as a whole text, also when blanks come after it. -/
theorem read_lines_append {value : Value} (numberless : value.IsNumberless)
    {blanks : List Char} (blank : ∀ c ∈ blanks, isBlank c = true) :
    read (value.lines 0 ++ blanks) = (value.draft, none) := by
  have back : Reader.value (2 * (value.lines 0 ++ blanks).length + 2)
      (value.lines 0 ++ blanks) = (value.draft, some blanks) := by
    apply Value.readsBack_of_isNumberless numberless
    rw [List.length_append]
    omega
  have nothing : skipBlanks blanks = [] := List.dropWhile_eq_nil_iff.mpr blank
  simp only [read, back, nothing]

end Inset.Json
