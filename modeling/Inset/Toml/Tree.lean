import Inset.Toml.Reader

/-!
# The tables of a TOML document

Assignments and headers say where in a tree of tables a value or a table goes.
A key is given a value only once, and a table is written down only once: under
a header, in braces, or by dotted keys.  A table that has only been passed
through by a longer header may still get a header of its own.
-/

namespace Inset.Toml

open Data (Label Node Scalar Span)

/-- How a table came to be. -/
inductive Origin
  /-- It has a header, or it is the document itself. -/
  | header
  /-- A longer header passes through it. -/
  | passed
  /-- A dotted key passes through it. -/
  | dotted
  /-- It is written in braces. -/
  | inlined
  deriving DecidableEq

/-- A value in the tree of a document. -/
inductive Item
  | scalar (value : Scalar) (place : Span)
  | array (items : List Item) (place : Span)
  | table (origin : Origin) (entries : List (Key × Item)) (place : Span)
  /-- An array of tables: the elements before the last one in reverse order,
  then the entries and the place of the last one. -/
  | tables (before : List Item) (last : List (Key × Item)) (lastPlace : Span) (place : Span)

/-- The entries of a table in the order in which they came. -/
abbrev Entries := List (Key × Item)

/-- The item under a name. -/
def find? (name : String) (entries : Entries) : Option Item :=
  (entries.find? (·.1.name = name)).map Prod.snd

/-- Replace the item under a name that is there, or add the entry at the end. -/
def put (key : Key) (item : Item) : Entries → Entries
  | [] => [(key, item)]
  | entry :: rest =>
      if entry.1.name = key.name then (entry.1, item) :: rest
      else entry :: put key item rest

/-- Leave out the entry under a name. -/
def remove (name : String) (entries : Entries) : Entries :=
  entries.filter (·.1.name ≠ name)

/-- Change the table that a path leads to.  Tables on the way are made where
there are none, and the way goes into the last element of an array of tables.
It does not go through values and tables in braces, and the way of a dotted key
does not go through tables with a header. -/
def within (isDotted : Bool) (change : Origin → Entries → Option Entries) :
    List Key → Origin → Entries → Option Entries
  | [], origin, entries => change origin entries
  | key :: path, _, entries =>
      match find? key.name entries with
      | none =>
          let origin := if isDotted then .dotted else .passed
          (within isDotted change path origin []).map fun inner =>
            put key (.table origin inner key.place) entries
      | some (.table origin inner place) =>
          if origin = .inlined ∨ (isDotted ∧ origin = .header) then none
          else
            (within isDotted change path origin inner).map fun inner =>
              put key (.table origin inner place) entries
      | some (.tables before last lastPlace place) =>
          (within isDotted change path .header last).map fun last =>
            put key (.tables before last lastPlace place) entries
      | some _ => none

/-- Give a key a value.  A dotted key ends in a table that dotted keys made, a
plain key in one that they did not. -/
def assign (key : Key) (item : Item) (isDotted : Bool) (origin : Origin) (entries : Entries) :
    Option Entries :=
  if (find? key.name entries).isSome ∨ isDotted ≠ (origin = .dotted : Bool) then none
  else some (entries ++ [(key, item)])

/-- Give a dotted key a value within a table of the given origin. -/
def assignPath (origin : Origin) (path : List Key) (item : Item) (entries : Entries) :
    Option Entries :=
  match path.getLast? with
  | none => none
  | some key =>
      let way := path.dropLast
      within true (assign key item (!way.isEmpty)) way origin entries

mutual

/-- The item of a value. -/
def itemOf : Value → Option Item
  | .scalar value place => some (.scalar value place)
  | .array items place => (itemsOf items).map (.array · place)
  | .inlineTable assignments place =>
      (assignAll .inlined assignments []).map (.table .inlined · place)

/-- The items of the values of an array. -/
def itemsOf : List Value → Option (List Item)
  | [] => some []
  | value :: values =>
      match itemOf value, itemsOf values with
      | some item, some items => some (item :: items)
      | _, _ => none

/-- Make assignments one after the other within a table of the given origin. -/
def assignAll (origin : Origin) : List (List Key × Value) → Entries → Option Entries
  | [], entries => some entries
  | (path, value) :: rest, entries =>
      match itemOf value with
      | none => none
      | some item =>
          match assignPath origin path item entries with
          | none => none
          | some entries => assignAll origin rest entries

end

/-- Put the table of a section under the last key of its header. -/
def place (header : Header) (assignments : List Assignment) (key : Key) (entries : Entries) :
    Option Entries :=
  if header.isElement then
    match find? key.name entries with
    | none =>
        (assignAll .header assignments []).map fun inner =>
          put key (.tables [] inner header.place header.place) entries
    | some (.tables before last lastPlace place) =>
        (assignAll .header assignments []).map fun inner =>
          put key (.tables (.table .header last lastPlace :: before) inner header.place place)
            entries
    | some _ => none
  else
    match find? key.name entries with
    | none =>
        (assignAll .header assignments []).map fun inner =>
          put key (.table .header inner header.place) entries
    | some (.table .passed inner _) =>
        (assignAll .header assignments inner).map fun inner =>
          remove key.name entries ++ [(key, .table .header inner header.place)]
    | some _ => none

/-- Put a section into the tree of a document. -/
def placeSection (part : Section) (entries : Entries) : Option Entries :=
  match part.header.path.getLast? with
  | none => none
  | some key =>
      within false (fun _ => place part.header part.assignments key)
        part.header.path.dropLast .header entries

/-- Put sections into the tree of a document, one after the other. -/
def placeAll : List Section → Entries → Option Entries
  | [], entries => some entries
  | part :: rest, entries =>
      match placeSection part entries with
      | none => none
      | some entries => placeAll rest entries

/-- The tree of a document, if its assignments and headers fit together. -/
def Document.entries? (document : Document) : Option Entries :=
  match assignAll .header document.preamble [] with
  | none => none
  | some entries => placeAll document.sections entries

/-! ## Trees of data -/

/-- The label of a key. -/
def Key.label (key : Key) : Label :=
  ⟨key.name, some key.place⟩

mutual

/-- The node of an item. -/
def Item.node : Item → Node
  | .scalar value place => .scalar value (some place)
  | .array items place => .list (nodesOf items) (some place)
  | .table _ entries place => .table (labelled entries) (some place)
  | .tables before last lastPlace place =>
      .list ((nodesOf before).reverse ++ [.table (labelled last) (some lastPlace)]) (some place)

/-- The nodes of the items of an array. -/
def nodesOf : List Item → List Node
  | [] => []
  | item :: items => item.node :: nodesOf items

/-- The entries of a table with the labels of their keys. -/
def labelled : List (Key × Item) → List (Label × Node)
  | [] => []
  | (key, item) :: entries => (key.label, item.node) :: labelled entries

end

/-- The tree of data that a text holds.  Keys and headers that do not fit together
are a fault of the text as a whole. -/
def readNode (text : List Char) : Except Fault Node :=
  match Document.ofText text with
  | .error fault => .error fault
  | .ok document =>
      match document.entries? with
      | none => .error (Fault.atHead .conflict text)
      | some entries => .ok (.table (labelled entries) (some ⟨text.length, 0⟩))

end Inset.Toml
