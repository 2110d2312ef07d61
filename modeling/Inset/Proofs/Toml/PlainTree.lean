import Inset.Proofs.Toml.Keys
import Inset.Proofs.Toml.Plain

/-!
# The data of plain documents

The assignments and sections of a plain document fit together, and every array of tables
is put together from its elements.  So what is read from a written document is its data
(`PlainDocument.exists_readNode`).
-/

namespace Inset.Toml

open Data (Label Node SameData)

/-! ## The data -/

/-- A table of nodes by their names. -/
def tableNode (entries : List (String × Node)) : Node :=
  .table (entries.map fun entry => (⟨entry.1, none⟩, entry.2)) none

/-- The nodes of a table. -/
def Table.entries (table : Table) : List (String × Node) :=
  table.fields.map fun field => (field.1, field.2.node)

/-- The data of a table. -/
def Table.node (table : Table) : Node :=
  tableNode table.entries

/-- The data of the arrays that have elements.  An array without any is not written. -/
def arrayEntries (arrays : List (String × List Table)) : List (String × Node) :=
  (arrays.filter fun array => !array.2.isEmpty).map fun array =>
    (array.1, .list (array.2.map Table.node) none)

/-- The nodes of a document. -/
def PlainDocument.entries (document : PlainDocument) : List (String × Node) :=
  document.table.entries ++ arrayEntries document.arrays

/-- The data of a document. -/
def PlainDocument.node (document : PlainDocument) : Node :=
  tableNode document.entries

/-- Whether an entry holds a node under a name. -/
def HoldsEntry (entry : Key × Item) (held : String × Node) : Prop :=
  entry.1.name = held.1 ∧ SameData entry.2.node held.2

theorem map_name_of_holds {entries : Entries} {held : List (String × Node)}
    (each : List.Forall₂ HoldsEntry entries held) :
    entries.map (·.1.name) = held.map Prod.fst := by
  rw [← List.forall₂_eq_eq_eq, List.forall₂_map_left_iff, List.forall₂_map_right_iff]
  exact each.imp fun _ _ both => both.1

theorem sameData_tableNode {entries : Entries} {held : List (String × Node)}
    (each : List.Forall₂ HoldsEntry entries held) (place : Option Data.Span) :
    SameData (.table (labelled entries) place) (tableNode held) := by
  refine .table (.refl _) ?_ ?_ _ _
  · rw [map_name_labelled, map_name_of_holds each, List.map_map]
    rfl
  · rw [labelled_eq_map, List.map_map, List.map_map, List.forall₂_map_left_iff,
      List.forall₂_map_right_iff]
    exact each.imp fun _ _ both => both.2

/-! ## Different keys -/

theorem hasDistinctKeys_tableNode {held : List (String × Node)}
    (nodup : (held.map Prod.fst).Nodup) (each : ∀ entry ∈ held, entry.2.HasDistinctKeys) :
    (tableNode held).HasDistinctKeys := by
  refine .table ?_ (List.forall_mem_map.mpr each) _
  rw [List.map_map]
  exact nodup

theorem Plain.hasDistinctKeys_node (plain : Plain) : plain.node.HasDistinctKeys := by
  cases plain with
  | text value => exact .scalar _ _
  | texts values => exact .list (List.forall_mem_map.mpr fun _ _ => .scalar _ _) _

theorem Table.map_fst_entries (table : Table) :
    table.entries.map Prod.fst = table.fields.map Prod.fst := by
  rw [Table.entries, List.map_map]
  rfl

theorem Table.nodup_entries (table : Table) : (table.entries.map Prod.fst).Nodup := by
  rw [table.map_fst_entries]
  exact table.nodup

theorem Table.hasDistinctKeys_entries (table : Table) :
    ∀ entry ∈ table.entries, entry.2.HasDistinctKeys :=
  List.forall_mem_map.mpr fun field _ => field.2.hasDistinctKeys_node

theorem Table.hasDistinctKeys_node (table : Table) : table.node.HasDistinctKeys :=
  hasDistinctKeys_tableNode table.nodup_entries table.hasDistinctKeys_entries

namespace PlainDocument

variable (document : PlainDocument)

theorem map_fst_entries_sublist : (document.entries.map Prod.fst).Sublist
    (document.table.fields.map Prod.fst ++ document.arrays.map Prod.fst) := by
  have keys : (arrayEntries document.arrays).map Prod.fst =
      (document.arrays.filter fun array => !array.2.isEmpty).map Prod.fst := by
    rw [arrayEntries, List.map_map]
    rfl
  rw [entries, List.map_append, document.table.map_fst_entries, keys]
  exact List.Sublist.append_left (List.filter_sublist.map _) _

theorem nodup_entries : (document.entries.map Prod.fst).Nodup :=
  document.nodup.sublist document.map_fst_entries_sublist

/-- No table in the data of a plain document has a key twice. -/
theorem hasDistinctKeys_node : document.node.HasDistinctKeys := by
  apply hasDistinctKeys_tableNode document.nodup_entries
  refine List.forall_mem_append.mpr ⟨document.table.hasDistinctKeys_entries, ?_⟩
  refine List.forall_mem_map.mpr fun array _ => .list (List.forall_mem_map.mpr ?_) _
  exact fun table _ => table.hasDistinctKeys_node

end PlainDocument

/-! ## Assignments -/

section

variable {name : String} {key : Key} {item item' : Item} {entries : Entries}
  (absent : key.name ∉ entries.map (·.1.name))

include absent

theorem put_of_notMem : put key item entries = entries ++ [(key, item)] := by
  induction entries with
  | nil => rfl
  | cons entry rest ih =>
      rw [List.map_cons, List.mem_cons, not_or] at absent
      rw [put, if_neg (Ne.symm absent.1), ih absent.2, List.cons_append]

theorem find?_append_of_notMem : find? key.name (entries ++ [(key, item)]) = some item := by
  have first := find?_eq_none_iff.mpr absent
  rw [find?, Option.map_eq_none_iff] at first
  simp [find?, List.find?_append, first]

theorem put_append_of_notMem {again : Key} (same : again.name = key.name) :
    put again item' (entries ++ [(key, item)]) = entries ++ [(key, item')] := by
  induction entries with
  | nil => simp [put, same]
  | cons entry rest ih =>
      rw [List.map_cons, List.mem_cons, not_or] at absent
      rw [List.cons_append, put, same, if_neg (Ne.symm absent.1), ih absent.2, List.cons_append]

end

/-- An assignment to a name that is new adds its entry. -/
theorem exists_assignPath {made : Assignment} {field : String × Plain}
    (held : HoldsField made field) {entries : Entries}
    (absent : field.1 ∉ entries.map (·.1.name)) :
    ∃ entry, HoldsEntry entry (field.1, field.2.node) ∧ ∀ rest,
      assignAll .header (made :: rest) entries = assignAll .header rest (entries ++ [entry]) := by
  rcases made with ⟨path, value⟩
  rcases held with ⟨⟨place, rfl⟩, item, made, same⟩
  refine ⟨(⟨field.1, place⟩, item), ⟨rfl, same⟩, fun rest => ?_⟩
  have missing : find? field.1 entries = none := find?_eq_none_iff.mpr absent
  rw [assignAll, made]
  simp [assignPath, within, assign, missing]

/-- Assignments to names that are new and different add their entries. -/
theorem exists_assignAll {made : List Assignment} {fields : List (String × Plain)}
    (each : List.Forall₂ HoldsField made fields) {entries : Entries}
    (nodup : (entries.map (·.1.name) ++ fields.map Prod.fst).Nodup) :
    ∃ added, assignAll .header made entries = some (entries ++ added) ∧
      List.Forall₂ HoldsEntry added (fields.map fun field => (field.1, field.2.node)) := by
  induction each generalizing entries with
  | nil => exact ⟨[], by rw [assignAll, List.append_nil], .nil⟩
  | @cons first field made fields held _ ih =>
      have absent : field.1 ∉ entries.map (·.1.name) := fun listed =>
        (List.nodup_append.mp nodup).2.2 _ listed _ List.mem_cons_self rfl
      rcases exists_assignPath held absent with ⟨entry, holds, step⟩
      have nodup' : ((entries ++ [entry]).map (·.1.name) ++ fields.map Prod.fst).Nodup := by
        simpa [holds.1] using nodup
      rcases ih nodup' with ⟨added, all, others⟩
      exact ⟨entry :: added, by rw [step, all, List.append_assoc]; rfl, .cons holds others⟩

/-- The assignments of a table make its data. -/
theorem exists_assignAll_table {made : List Assignment} {table : Table}
    (each : List.Forall₂ HoldsField made table.fields) :
    ∃ entries, assignAll .header made [] = some entries ∧
      List.Forall₂ HoldsEntry entries table.entries :=
  exists_assignAll each table.nodup

/-! ## Arrays of tables -/

/-- Whether an item is an array of tables with the data of some nodes. -/
def HoldsTables (item : Item) (nodes : List Node) : Prop :=
  ∃ before last lastPlace place, item = .tables before last lastPlace place ∧
    List.Forall₂ SameData
      ((nodesOf before).reverse ++ [.table (labelled last) (some lastPlace)]) nodes

theorem placeSection_eq_place {part : Section} {key : Key} (path : part.header.path = [key]) :
    placeSection part = place part.header part.assignments key := by
  funext entries
  simp [placeSection, path, within]

section

variable {part : Section} {name : String} {table : Table}
  (held : HoldsElement part (name, table)) {entries : Entries}
  (absent : name ∉ entries.map (·.1.name))

include held absent

/-- The first element of an array of tables adds an entry. -/
theorem exists_placeSection_first : ∃ entry : Key × Item,
    placeSection part entries = some (entries ++ [entry]) ∧ entry.1.name = name ∧
      HoldsTables entry.2 [table.node] := by
  rcases held.path with ⟨keyPlace, path⟩
  rcases exists_assignAll_table held.fields with ⟨inner, made, same⟩
  refine ⟨(⟨name, keyPlace⟩, .tables [] inner part.header.place part.header.place), ?_, rfl,
    _, _, _, _, rfl, .cons (sameData_tableNode same _) .nil⟩
  have missing : find? name entries = none := find?_eq_none_iff.mpr absent
  rw [placeSection_eq_place path]
  simp [place, held.isElement, missing, made, put_of_notMem, absent]

/-- A further element of an array of tables goes to the end of its entry. -/
theorem exists_placeSection_next {key : Key} (same : key.name = name) {item : Item}
    {nodes : List Node} (holds : HoldsTables item nodes) : ∃ item',
    placeSection part (entries ++ [(key, item)]) = some (entries ++ [(key, item')]) ∧
      HoldsTables item' (nodes ++ [table.node]) := by
  rcases held.path with ⟨keyPlace, path⟩
  rcases exists_assignAll_table held.fields with ⟨inner, made, sameInner⟩
  rcases holds with ⟨before, last, lastPlace, itemPlace, rfl, each⟩
  subst same
  refine ⟨.tables (.table .header last lastPlace :: before) inner part.header.place itemPlace,
    ?_, _, _, _, _, rfl, ?_⟩
  · rw [placeSection_eq_place path]
    simp [place, held.isElement, find?_append_of_notMem, put_append_of_notMem, made, absent]
  · rw [nodesOf, List.reverse_cons, Item.node]
    exact List.rel_append each (.cons (sameData_tableNode sameInner _) .nil)

end

theorem placeAll_append (parts parts' : List Section) (entries : Entries) :
    placeAll (parts ++ parts') entries = (placeAll parts entries).bind (placeAll parts') := by
  induction parts generalizing entries with
  | nil => rfl
  | cons part parts ih =>
      rw [List.cons_append, placeAll, placeAll]
      cases placeSection part entries with
      | none => rfl
      | some entries' => exact ih entries'

/-- The further elements of an array of tables go to the end of its entry. -/
theorem exists_placeAll_next {parts : List Section} {key : Key} {tables : List Table}
    (each : List.Forall₂ HoldsElement parts (tables.map fun table => (key.name, table)))
    {entries : Entries} (absent : key.name ∉ entries.map (·.1.name)) {item : Item}
    {nodes : List Node} (holds : HoldsTables item nodes) : ∃ item',
    placeAll parts (entries ++ [(key, item)]) = some (entries ++ [(key, item')]) ∧
      HoldsTables item' (nodes ++ tables.map Table.node) := by
  induction tables generalizing parts item nodes with
  | nil =>
      rw [List.map_nil, List.forall₂_nil_right_iff] at each
      subst each
      exact ⟨item, by rw [placeAll], by rwa [List.map_nil, List.append_nil]⟩
  | cons table tables ih =>
      rcases List.forall₂_cons_right_iff.mp each with ⟨part, parts, held, others, rfl⟩
      rcases exists_placeSection_next held absent rfl holds with ⟨item', placed, holds'⟩
      rcases ih others holds' with ⟨last, all, holdsAll⟩
      refine ⟨last, by rw [placeAll, placed]; exact all, ?_⟩
      rwa [List.append_assoc, List.singleton_append, ← List.map_cons] at holdsAll

/-- The elements of an array of tables with a new name make its data. -/
theorem exists_placeAll_array {parts : List Section} {name : String} {table : Table}
    {tables : List Table}
    (each : List.Forall₂ HoldsElement parts ((table :: tables).map fun table => (name, table)))
    {entries : Entries} (absent : name ∉ entries.map (·.1.name)) : ∃ entry,
    placeAll parts entries = some (entries ++ [entry]) ∧
      HoldsEntry entry (name, .list ((table :: tables).map Table.node) none) := by
  rcases List.forall₂_cons_right_iff.mp each with ⟨part, parts, held, others, rfl⟩
  rcases exists_placeSection_first held absent with ⟨⟨key, first⟩, placed, rfl, holds⟩
  rcases exists_placeAll_next others absent holds with ⟨item, all, holdsAll⟩
  refine ⟨(key, item), by rw [placeAll, placed]; exact all, rfl, ?_⟩
  rcases holdsAll with ⟨before, last, lastPlace, place, rfl, same⟩
  rw [Item.node]
  exact .list same _ _

/-- The elements of arrays of tables with new and different names make their data. -/
theorem exists_placeAll {arrays : List (String × List Table)} {parts : List Section}
    (each : List.Forall₂ HoldsElement parts
      (arrays.flatMap fun array => array.2.map fun table => (array.1, table)))
    {entries : Entries}
    (nodup : (entries.map (·.1.name) ++ arrays.map Prod.fst).Nodup) : ∃ added,
    placeAll parts entries = some (entries ++ added) ∧
      List.Forall₂ HoldsEntry added (arrayEntries arrays) := by
  induction arrays generalizing parts entries with
  | nil =>
      rw [List.flatMap_nil, List.forall₂_nil_right_iff] at each
      subst each
      exact ⟨[], by rw [placeAll, List.append_nil], .nil⟩
  | cons array arrays ih =>
      rcases array with ⟨name, tables⟩
      rw [List.flatMap_cons] at each
      have first := List.forall₂_take_append _ _ _ each
      have others := List.forall₂_drop_append _ _ _ each
      rw [← List.take_append_drop (tables.map fun table => (name, table)).length parts,
        placeAll_append]
      cases tables with
      | nil =>
          have nodup' := nodup.sublist
            (List.Sublist.append_left (List.sublist_cons_self name _) _)
          exact ih others nodup'
      | cons table tables =>
          have absent : name ∉ entries.map (·.1.name) := fun listed =>
            (List.nodup_append.mp nodup).2.2 _ listed _ List.mem_cons_self rfl
          rcases exists_placeAll_array first absent with ⟨entry, placed, holds⟩
          have nodup' : ((entries ++ [entry]).map (·.1.name) ++ arrays.map Prod.fst).Nodup := by
            simpa [holds.1] using nodup
          rcases ih others nodup' with ⟨added, all, rest⟩
          refine ⟨entry :: added, ?_, .cons holds rest⟩
          rw [placed, Option.bind_some, all, List.append_assoc]
          rfl

/-! ## Documents -/

namespace PlainDocument

variable (document : PlainDocument)

/-- What is read from a written document is its data. -/
theorem exists_readNode :
    ∃ node, readNode document.chars = .ok node ∧ SameData node document.node := by
  rcases document.exists_ofText with ⟨read, ofText, preamble, sections⟩
  rcases exists_assignAll_table preamble with ⟨top, assigned, topHolds⟩
  have names : top.map (·.1.name) = document.table.fields.map Prod.fst :=
    (map_name_of_holds topHolds).trans document.table.map_fst_entries
  rcases exists_placeAll sections (names ▸ document.nodup) with ⟨added, placed, addedHolds⟩
  refine ⟨.table (labelled (top ++ added)) (some ⟨document.chars.length, 0⟩), ?_, ?_⟩
  · rw [readNode, ofText]
    simp only [Document.entries?, assigned, placed]
  · exact sameData_tableNode (List.rel_append topHolds addedHolds) _

end PlainDocument

end Inset.Toml
