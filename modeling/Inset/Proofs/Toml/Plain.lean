import Inset.Proofs.Toml.Keys
import Inset.Proofs.Toml.Strings

/-!
# Plain documents written and read back

A plain document assigns texts and lists of texts to names without quotation marks, and
lists tables of such assignments under headers.  It is written one line after the other,
and each line is read as the assignment or the header that it was written for
(`PlainDocument.exists_ofText`).
-/

namespace Inset.Toml

open Data (Label Node SameData)

/-! ## Plain documents -/

/-- Whether a name can be a key without quotation marks. -/
def IsBare (name : String) : Prop :=
  name.toList ≠ [] ∧ name.toList.all isKeyChar = true

instance (name : String) : Decidable (IsBare name) :=
  inferInstanceAs (Decidable (_ ∧ _))

/-- A value without tables. -/
inductive Plain
  | text (value : String)
  | texts (values : List String)

/-- Values under different names. -/
structure Table where
  fields : List (String × Plain)
  bare : ∀ field ∈ fields, IsBare field.1
  nodup : (fields.map Prod.fst).Nodup

/-- Values and arrays of tables, all under different names. -/
structure PlainDocument where
  table : Table
  arrays : List (String × List Table)
  bare : ∀ array ∈ arrays, IsBare array.1
  nodup : (table.fields.map Prod.fst ++ arrays.map Prod.fst).Nodup

/-- A value as it is written. -/
def Plain.chars : Plain → List Char
  | text value => quote value
  | texts values => '[' :: ([',', ' '].intercalate (values.map quote) ++ [']'])

/-- The line that assigns a value. -/
def line (field : String × Plain) : List Char :=
  field.1.toList ++ [' ', '=', ' '] ++ field.2.chars ++ ['\n']

/-- The lines of a table. -/
def Table.lines (table : Table) : List Char :=
  table.fields.flatMap line

/-- The lines of an element of an array of tables, with the header first. -/
def elementLines (element : String × Table) : List Char :=
  ['[', '['] ++ element.1.toList ++ [']', ']', '\n'] ++ element.2.lines

/-- The elements of the arrays of tables, one after the other. -/
def PlainDocument.elements (document : PlainDocument) : List (String × Table) :=
  document.arrays.flatMap fun array => array.2.map fun table => (array.1, table)

/-- The text of a document. -/
def PlainDocument.chars (document : PlainDocument) : List Char :=
  document.table.lines ++ document.elements.flatMap elementLines

/-! ## Values -/

/-- Whether what is read for a value is the data of a node. -/
def Value.Holds (value : Value) (node : Node) : Prop :=
  ∃ item, itemOf value = some item ∧ SameData item.node node

/-- The data of a text. -/
def textNode (value : String) : Node :=
  .scalar (.text value) none

/-- The data of a value. -/
def Plain.node : Plain → Node
  | text value => textNode value
  | texts values => .list (values.map textNode) none

theorem holds_text (value : String) (place : Data.Span) :
    (Value.scalar (.text value) place).Holds (textNode value) :=
  ⟨.scalar (.text value) place, by rw [itemOf], by rw [Item.node]; exact .scalar _ _ _⟩

theorem holds_array {values : List Value} {nodes : List Node}
    (each : List.Forall₂ Value.Holds values nodes) (place : Data.Span) :
    (Value.array values place).Holds (.list nodes none) := by
  have items : ∃ items, itemsOf values = some items ∧
      List.Forall₂ SameData (nodesOf items) nodes := by
    induction each with
    | nil => exact ⟨[], by rw [itemsOf], by rw [nodesOf]; exact .nil⟩
    | cons first _ ih =>
        rcases first with ⟨item, made, same⟩
        rcases ih with ⟨items, others, all⟩
        exact ⟨item :: items, by rw [itemsOf, made, others], by rw [nodesOf]; exact .cons same all⟩
  rcases items with ⟨items, made, all⟩
  exact ⟨.array items place, by rw [itemOf, made]; rfl, by rw [Item.node]; exact .list all _ _⟩

theorem exists_textValue (text : String) (rest : List Char) (ends : rest.head? ≠ some '"') :
    ∃ place, textValue (quote text ++ rest) = .ok (.scalar (.text text) place, rest) := by
  rw [textValue, anyString_quote text ends]
  exact ⟨_, by simp only [orStray, Except.map, String.ofList_toList]; rfl⟩

theorem exists_value_quote (text : String) (rest : List Char) (ends : rest.head? ≠ some '"')
    (fuel : Nat) :
    ∃ place, value (fuel + 1) (quote text ++ rest) = .ok (.scalar (.text text) place, rest) := by
  rcases exists_textValue text rest ends with ⟨place, read⟩
  refine ⟨place, ?_⟩
  rw [quote_append] at read ⊢
  simpa [value] using read

section

variable {fuel : Nat} {chars rest : List Char} {item : Value}

theorem arrayItems_last (read : value fuel ('"' :: chars) = .ok (item, ']' :: rest)) :
    arrayItems (fuel + 1) ('"' :: chars) = .ok ([item], rest) := by
  simp [arrayItems, read, skipBlanks, isSpace]

theorem arrayItems_next {more : List Char} {items : List Value}
    (read : value fuel ('"' :: chars) = .ok (item, ',' :: ' ' :: '"' :: more))
    (others : arrayItems fuel ('"' :: more) = .ok (items, rest)) :
    arrayItems (fuel + 1) ('"' :: chars) = .ok (item :: items, rest) := by
  simp [arrayItems, read, others, skipBlanks, isSpace, Except.map]

end

/-- The items of a list that is not empty begin with a quotation mark. -/
theorem exists_intercalate_quote (text : String) (texts : List String) :
    ∃ more, [',', ' '].intercalate ((text :: texts).map quote) = '"' :: more := by
  cases texts with
  | nil => exact ⟨_, by rw [List.map_singleton, List.intercalate_singleton, quote]⟩
  | cons next texts =>
      rw [List.map_cons, List.map_cons, List.intercalate_cons_cons, List.append_assoc,
        quote_append]
      exact ⟨_, rfl⟩

/-- A list has no fewer characters than items. -/
theorem length_le_length_intercalate (texts : List String) :
    texts.length ≤ ([',', ' '].intercalate (texts.map quote)).length := by
  induction texts with
  | nil => exact Nat.zero_le _
  | cons text texts ih =>
      cases texts with
      | nil => simp [quote]
      | cons next texts =>
          rw [List.map_cons, List.map_cons, List.intercalate_cons_cons, ← List.map_cons]
          simp only [List.length_append, List.length_cons] at ih ⊢
          omega

/-- The items of a written list are read one by one, with more fuel than there are items. -/
theorem exists_arrayItems (texts : List String) (rest : List Char) (fuel : Nat)
    (enough : texts.length < fuel) :
    ∃ values,
      arrayItems (fuel + 1) ([',', ' '].intercalate (texts.map quote) ++ ']' :: rest) =
        .ok (values, rest) ∧
      List.Forall₂ Value.Holds values (texts.map textNode) := by
  induction texts generalizing fuel with
  | nil => exact ⟨[], by simp [arrayItems], .nil⟩
  | cons text texts ih =>
      rw [List.length_cons] at enough
      obtain ⟨fuel, rfl⟩ : ∃ less, fuel = less + 1 := Nat.exists_eq_add_one.mpr (by omega)
      cases texts with
      | nil =>
          rcases exists_value_quote text (']' :: rest) (by simp) fuel with ⟨place, read⟩
          refine ⟨_, ?_, .cons (holds_text text place) .nil⟩
          rw [List.map_singleton, List.intercalate_singleton]
          rw [quote_append] at read ⊢
          exact arrayItems_last read
      | cons next texts =>
          rcases ih fuel (Nat.lt_of_succ_lt_succ enough) with ⟨values, others, each⟩
          rcases exists_intercalate_quote next texts with ⟨more, begins⟩
          rcases exists_value_quote text (',' :: ' ' :: '"' :: (more ++ ']' :: rest))
            (by simp) fuel with ⟨place, read⟩
          refine ⟨_, ?_, .cons (holds_text text place) each⟩
          rw [begins] at others
          rw [List.map_cons, List.map_cons, List.intercalate_cons_cons, ← List.map_cons, begins]
          rw [quote_append] at read
          simp only [List.append_assoc, List.cons_append, List.nil_append, quote_append]
          exact arrayItems_next read others

/-- A written value is read, with more fuel than it has characters. -/
theorem exists_value (plain : Plain) (rest : List Char) (ends : rest.head? ≠ some '"')
    (fuel : Nat) (enough : plain.chars.length < fuel) :
    ∃ read, value fuel (plain.chars ++ rest) = .ok (read, rest) ∧ read.Holds plain.node := by
  obtain ⟨fuel, rfl⟩ : ∃ less, fuel = less + 1 := Nat.exists_eq_add_one.mpr (by omega)
  cases plain with
  | text text =>
      rcases exists_value_quote text rest ends fuel with ⟨place, read⟩
      exact ⟨_, read, holds_text text place⟩
  | texts texts =>
      have short := length_le_length_intercalate texts
      simp only [Plain.chars, List.length_cons, List.length_append] at enough
      obtain ⟨fuel, rfl⟩ : ∃ less, fuel = less + 1 := Nat.exists_eq_add_one.mpr (by omega)
      rcases exists_arrayItems texts rest fuel (by omega) with ⟨values, items, each⟩
      have blanks : skipBlanks false ([',', ' '].intercalate (texts.map quote) ++ ']' :: rest) =
          [',', ' '].intercalate (texts.map quote) ++ ']' :: rest := by
        cases texts with
        | nil => simp [skipBlanks, isSpace]
        | cons text texts =>
            rcases exists_intercalate_quote text texts with ⟨more, begins⟩
            rw [begins]
            simp [skipBlanks, isSpace]
      exact ⟨.array values (between ((Plain.texts texts).chars ++ rest) rest),
        by simp [Plain.chars, value, blanks, items, Except.map], holds_array each _⟩

/-! ## Assignments -/

/-- Whether an assignment is the one of a field. -/
def HoldsField (made : Assignment) (field : String × Plain) : Prop :=
  (∃ place, made.1 = [⟨field.1, place⟩]) ∧ made.2.Holds field.2.node

/-- Whether a section is the one of an element of an array of tables. -/
structure HoldsElement (part : Section) (element : String × Table) : Prop where
  isElement : part.header.isElement = true
  path : ∃ place, part.header.path = [⟨element.1, place⟩]
  fields : List.Forall₂ HoldsField part.assignments element.2.fields

theorem skipSpace_cons {c : Char} (other : isSpace c = false) (rest : List Char) :
    skipSpace (c :: rest) = c :: rest := by
  simp [skipSpace, other]

/-- No value begins with space. -/
theorem skipSpace_chars (plain : Plain) (rest : List Char) :
    skipSpace (plain.chars ++ rest) = plain.chars ++ rest := by
  cases plain with
  | text text =>
      rw [Plain.chars, quote_append]
      exact skipSpace_cons (by decide) _
  | texts texts => exact skipSpace_cons (by decide) _

section

variable {name : String} (bare : IsBare name)

include bare

/-- A name up to a character that cannot belong to it is read as a key. -/
theorem exists_keyPath {c : Char} (other : isKeyChar c = false) (rest : List Char)
    (ends : (skipSpace (c :: rest)).head? ≠ some '.') (fuel : Nat) (enough : 0 < fuel) :
    ∃ place, keyPath fuel (name.toList ++ c :: rest) = .ok ([⟨name, place⟩], c :: rest) := by
  obtain ⟨fuel, rfl⟩ : ∃ less, fuel = less + 1 := Nat.exists_eq_add_one.mpr enough
  have isKey := List.all_eq_true.mp bare.2
  have taken : (name.toList ++ c :: rest).takeWhile isKeyChar = name.toList := by
    rw [List.takeWhile_append_of_pos isKey]
    simp [other]
  have left : (name.toList ++ c :: rest).dropWhile isKeyChar = c :: rest := by
    rw [List.dropWhile_append_of_pos isKey]
    simp [other]
  have read : key (name.toList ++ c :: rest) =
      .ok (⟨name, ⟨(name.toList ++ c :: rest).length, (c :: rest).length⟩⟩, c :: rest) := by
    simp [key, taken, left, bare.1]
  refine ⟨⟨(name.toList ++ c :: rest).length, (c :: rest).length⟩, ?_⟩
  rw [keyPath, read]
  simp only
  split
  · next more dot => simp [dot] at ends
  · rfl

/-- A name begins with a character of keys, and so with no other one. -/
theorem exists_bare :
    ∃ c rest, name.toList = c :: rest ∧ ∀ d, isKeyChar d = false → c ≠ d := by
  cases chars : name.toList with
  | nil => exact absurd chars bare.1
  | cons c rest =>
      have isKey : isKeyChar c = true :=
        List.all_eq_true.mp bare.2 c (chars ▸ List.mem_cons_self)
      refine ⟨c, rest, rfl, fun d other same => ?_⟩
      rw [same, other] at isKey
      contradiction

/-- A name does not begin with space. -/
theorem skipSpace_bare (rest : List Char) :
    skipSpace (name.toList ++ rest) = name.toList ++ rest := by
  rcases exists_bare bare with ⟨c, more, chars, other⟩
  rw [chars]
  exact skipSpace_cons (by simp [isSpace, other ' ' (by decide), other '\t' (by decide)]) _

/-- A line that begins with a name does not begin with what is passed over. -/
theorem skipBlanks_bare (rest : List Char) :
    skipBlanks false (name.toList ++ rest) = name.toList ++ rest := by
  rcases exists_bare bare with ⟨c, more, chars, other⟩
  rw [chars, List.cons_append, skipBlanks]
  simp [other '\n' (by decide), other '\r' (by decide), other '#' (by decide), isSpace,
    other ' ' (by decide), other '\t' (by decide)]

end

/-- The assignment of a field is read, with more fuel than its value has characters. -/
theorem exists_assignment {field : String × Plain} (bare : IsBare field.1) (rest : List Char)
    (ends : rest.head? ≠ some '"') (fuel : Nat) (enough : field.2.chars.length < fuel) :
    ∃ made, HoldsField made field ∧
      assignment (fuel + 1) skipSpace
        (field.1.toList ++ ' ' :: '=' :: ' ' :: (field.2.chars ++ rest)) = .ok (made, rest) := by
  rcases exists_bare bare with ⟨first, more, name, _⟩
  rcases exists_keyPath bare (c := ' ') (by decide) ('=' :: ' ' :: (field.2.chars ++ rest))
    (by simp [skipSpace, isSpace])
    (field.1.toList ++ ' ' :: '=' :: ' ' :: (field.2.chars ++ rest)).length (by simp [name])
    with ⟨place, path⟩
  rcases exists_value field.2 rest ends fuel enough with ⟨read, value, holds⟩
  refine ⟨([⟨field.1, place⟩], read), ⟨⟨place, rfl⟩, holds⟩, ?_⟩
  have equals : skipSpace (' ' :: '=' :: ' ' :: (field.2.chars ++ rest)) =
      '=' :: ' ' :: (field.2.chars ++ rest) := by
    simp [skipSpace, isSpace]
  have space : skipSpace (' ' :: (field.2.chars ++ rest)) = field.2.chars ++ rest :=
    skipSpace_chars field.2 rest
  rw [assignment, path]
  simp only [equals, space, value, Except.map]

/-- The header of an element of an array of tables is read. -/
theorem exists_header {name : String} (bare : IsBare name) (rest : List Char) :
    ∃ path place, (∃ keyPlace, path = [⟨name, keyPlace⟩]) ∧
      header ('[' :: '[' :: (name.toList ++ ']' :: ']' :: rest)) =
        .ok (⟨true, path, place⟩, rest) := by
  have inside : 0 < (name.toList ++ ']' :: ']' :: rest).length := by
    simp only [List.length_append, List.length_cons]
    omega
  rcases exists_keyPath bare (c := ']') (by decide) (']' :: rest) (by simp [skipSpace, isSpace])
    _ inside with ⟨keyPlace, read⟩
  refine ⟨_, between ('[' :: '[' :: (name.toList ++ ']' :: ']' :: rest)) rest,
    ⟨keyPlace, rfl⟩, ?_⟩
  simp only [header, skipSpace_bare bare, read]
  rw [skipSpace_cons (by decide)]
  rfl

/-! ## Lines -/

theorem endLine_newline (rest : List Char) : endLine ('\n' :: rest) = .ok rest := by
  simp [endLine, skipSpace_cons, isSpace, skipComment, lineBreak?, orStray]

/-- Whether a text is read as a document, with more fuel than it has characters. -/
def ReadsAs (text : List Char) (document : Document) : Prop :=
  ∀ fuel, text.length < fuel → lines fuel text = .ok document

theorem readsAs_nil : ReadsAs [] ⟨[], []⟩ := by
  intro fuel enough
  obtain ⟨fuel, rfl⟩ : ∃ less, fuel = less + 1 := Nat.exists_eq_add_one.mpr enough
  rw [lines, skipBlanks]

section

variable {rest : List Char} {document : Document} (after : ReadsAs rest document)

include after

/-- The line of a field is read as its assignment. -/
theorem ReadsAs.field {field : String × Plain} (bare : IsBare field.1) :
    ∃ made, HoldsField made field ∧
      ReadsAs (line field ++ rest) ⟨made :: document.preamble, document.sections⟩ := by
  have chars : line field ++ rest =
      field.1.toList ++ ' ' :: '=' :: ' ' :: (field.2.chars ++ '\n' :: rest) := by
    simp [line]
  rw [chars]
  rcases exists_assignment bare ('\n' :: rest) (by simp)
    (2 * (field.1.toList ++ ' ' :: '=' :: ' ' :: (field.2.chars ++ '\n' :: rest)).length + 1)
    (by simp; omega) with ⟨made, holds, read⟩
  refine ⟨made, holds, fun fuel enough => ?_⟩
  obtain ⟨fuel, rfl⟩ : ∃ less, fuel = less + 1 := Nat.exists_eq_add_one.mpr (by omega)
  have others : lines fuel rest = .ok document := after fuel (by simp at enough; omega)
  rw [lines, skipBlanks_bare bare]
  rcases exists_bare bare with ⟨first, more, name, other⟩
  rw [name] at read ⊢
  simp only [List.cons_append] at read ⊢
  split
  · next none => simp at none
  · next header => exact absurd (List.cons.inj header).1 (other '[' (by decide))
  · rw [read]
    simp only [endLine_newline, others, Except.map]

/-- The lines of fields are read as their assignments. -/
theorem ReadsAs.fields {fields : List (String × Plain)}
    (bare : ∀ field ∈ fields, IsBare field.1) :
    ∃ made, List.Forall₂ HoldsField made fields ∧
      ReadsAs (fields.flatMap line ++ rest)
        ⟨made ++ document.preamble, document.sections⟩ := by
  induction fields with
  | nil => exact ⟨[], .nil, after⟩
  | cons field fields ih =>
      rcases ih (fun other listed => bare other (List.mem_cons_of_mem _ listed))
        with ⟨made, each, read⟩
      rcases read.field (bare field List.mem_cons_self) with ⟨first, holds, read⟩
      rw [List.flatMap_cons, List.append_assoc]
      exact ⟨first :: made, .cons holds each, read⟩

/-- The lines of an element of an array of tables are read as its section. -/
theorem ReadsAs.element {element : String × Table} (bare : IsBare element.1)
    (top : document.preamble = []) :
    ∃ part, HoldsElement part element ∧
      ReadsAs (elementLines element ++ rest) ⟨[], part :: document.sections⟩ := by
  rcases after.fields element.2.bare with ⟨made, each, read⟩
  rw [top, List.append_nil] at read
  have chars : elementLines element ++ rest = '[' :: '[' ::
      (element.1.toList ++ ']' :: ']' :: '\n' :: (element.2.lines ++ rest)) := by
    simp [elementLines]
  rw [chars]
  rcases exists_header bare ('\n' :: (element.2.lines ++ rest)) with ⟨path, place, isPath, head⟩
  refine ⟨⟨⟨true, path, place⟩, made⟩, ⟨rfl, isPath, each⟩, fun fuel enough => ?_⟩
  obtain ⟨fuel, rfl⟩ : ∃ less, fuel = less + 1 := Nat.exists_eq_add_one.mpr (by omega)
  have others : lines fuel (element.2.lines ++ rest) = .ok ⟨made, document.sections⟩ :=
    read fuel (by simp [Table.lines] at enough ⊢; omega)
  have blanks : skipBlanks false ('[' :: '[' ::
      (element.1.toList ++ ']' :: ']' :: '\n' :: (element.2.lines ++ rest))) = '[' :: '[' ::
      (element.1.toList ++ ']' :: ']' :: '\n' :: (element.2.lines ++ rest)) := by
    simp [skipBlanks, isSpace]
  rw [lines, blanks]
  simp only [head, endLine_newline, others, Except.map]

end

/-- The lines of elements of arrays of tables are read as their sections. -/
theorem exists_readsAs_elements {elements : List (String × Table)}
    (bare : ∀ element ∈ elements, IsBare element.1) :
    ∃ parts, List.Forall₂ HoldsElement parts elements ∧
      ReadsAs (elements.flatMap elementLines) ⟨[], parts⟩ := by
  induction elements with
  | nil => exact ⟨[], .nil, readsAs_nil⟩
  | cons element elements ih =>
      rcases ih (fun other listed => bare other (List.mem_cons_of_mem _ listed))
        with ⟨parts, each, read⟩
      rcases read.element (bare element List.mem_cons_self) rfl with ⟨part, holds, read⟩
      exact ⟨part :: parts, .cons holds each, read⟩

/-! ## Documents -/

namespace PlainDocument

variable (document : PlainDocument)

theorem bare_elements : ∀ element ∈ document.elements, IsBare element.1 := by
  intro element listed
  rcases List.mem_flatMap.mp listed with ⟨array, member, inside⟩
  rcases List.mem_map.mp inside with ⟨_, _, rfl⟩
  exact document.bare array member

/-- A written document begins with a name or a header, and so with no byte order mark. -/
theorem dropMark_chars : dropMark document.chars = document.chars := by
  have keep {first : Char} (rest : List Char) (other : first ≠ '\ufeff') :
      dropMark (first :: rest) = first :: rest := by
    simp [dropMark, other]
  rw [chars, Table.lines]
  cases fields : document.table.fields with
  | nil =>
      cases document.elements with
      | nil => rfl
      | cons => exact keep _ (by decide)
  | cons field fields' =>
      rcases exists_bare (document.table.bare field (fields ▸ List.mem_cons_self))
        with ⟨first, more, name, other⟩
      simp only [List.flatMap_cons, line, name, List.cons_append]
      exact keep _ (other '\ufeff' (by decide))

/-- A written document is read as its assignments and sections. -/
theorem exists_ofText : ∃ read, Document.ofText document.chars = .ok read ∧
    List.Forall₂ HoldsField read.preamble document.table.fields ∧
    List.Forall₂ HoldsElement read.sections document.elements := by
  rcases exists_readsAs_elements document.bare_elements with ⟨parts, held, sections⟩
  rcases sections.fields document.table.bare with ⟨made, each, all⟩
  rw [List.append_nil] at all
  refine ⟨⟨made, parts⟩, ?_, each, held⟩
  rw [Document.ofText, dropMark_chars]
  exact all _ (Nat.lt_succ_self _)

end PlainDocument

end Inset.Toml
