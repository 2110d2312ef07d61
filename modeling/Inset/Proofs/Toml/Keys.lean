import Inset.Proofs.Data.Layout
import Inset.Toml.Tree
import Mathlib.Data.List.Nodup

/-!
# Different keys in the tables of a document

Every step that puts an assignment or a header into the tree of a document keeps the keys
of its tables different from one another.  So no table that a text holds has a key twice
(`hasDistinctKeys_of_readNode`).
-/

namespace Inset.Toml

open Data (Label Node)

/-- Whether no table in an item has a key twice. -/
inductive Item.HasDistinctKeys : Item → Prop
  | scalar (value : Data.Scalar) (place : Data.Span) : HasDistinctKeys (.scalar value place)
  | array {items : List Item} (each : ∀ item ∈ items, HasDistinctKeys item)
      (place : Data.Span) : HasDistinctKeys (.array items place)
  | table (origin : Origin) {entries : Entries} (keys : (entries.map (·.1.name)).Nodup)
      (each : ∀ entry ∈ entries, HasDistinctKeys entry.2) (place : Data.Span) :
      HasDistinctKeys (.table origin entries place)
  | tables {before : List Item} {last : Entries}
      (earlier : ∀ item ∈ before, HasDistinctKeys item) (keys : (last.map (·.1.name)).Nodup)
      (each : ∀ entry ∈ last, HasDistinctKeys entry.2) (lastPlace place : Data.Span) :
      HasDistinctKeys (.tables before last lastPlace place)

/-- Whether neither these entries nor a table in them have a key twice. -/
structure Distinct (entries : Entries) : Prop where
  keys : (entries.map (·.1.name)).Nodup
  each : ∀ entry ∈ entries, entry.2.HasDistinctKeys

/-- Whether a change of entries leaves no key twice. -/
def Keeps (change : Entries → Option Entries) : Prop :=
  ∀ ⦃entries entries' : Entries⦄, change entries = some entries' → Distinct entries →
    Distinct entries'

/-! ## Single entries -/

section Entries

variable {name : String} {key : Key} {item : Item} {entries : Entries}

theorem find?_eq_none_iff : find? name entries = none ↔ name ∉ entries.map (·.1.name) := by
  simp [find?]

theorem map_name_put : (put key item entries).map (·.1.name) =
    if key.name ∈ entries.map (·.1.name) then entries.map (·.1.name)
    else entries.map (·.1.name) ++ [key.name] := by
  induction entries with
  | nil => rfl
  | cons entry rest ih =>
      rw [put]
      by_cases same : entry.1.name = key.name
      · simp [same]
      · simp only [same, if_false, List.map_cons, ih, List.mem_cons, Ne.symm same, false_or]
        split <;> rfl

theorem mem_or_eq_of_mem_put {entry : Key × Item} (listed : entry ∈ put key item entries) :
    entry ∈ entries ∨ entry.2 = item := by
  induction entries with
  | nil => exact .inr (List.mem_singleton.mp listed ▸ rfl)
  | cons first rest ih =>
      rw [put] at listed
      split at listed
      · rcases List.mem_cons.mp listed with rfl | later
        · exact .inr rfl
        · exact .inl (List.mem_cons_of_mem first later)
      · rcases List.mem_cons.mp listed with rfl | later
        · exact .inl List.mem_cons_self
        · exact (ih later).imp_left (List.mem_cons_of_mem first)

theorem notMem_remove : name ∉ (remove name entries).map (·.1.name) := by
  intro member
  rcases List.mem_map.mp member with ⟨entry, kept, rfl⟩
  simp [remove] at kept

namespace Distinct

theorem nil : Distinct [] :=
  ⟨List.nodup_nil, nofun⟩

theorem table (distinct : Distinct entries) (origin : Origin) (place : Data.Span) :
    (Item.table origin entries place).HasDistinctKeys :=
  .table origin distinct.keys distinct.each place

theorem of_find? (distinct : Distinct entries) (found : find? name entries = some item) :
    item.HasDistinctKeys := by
  rcases Option.map_eq_some_iff.mp found with ⟨entry, first, rfl⟩
  exact distinct.each entry (List.mem_of_find?_eq_some first)

theorem append (distinct : Distinct entries) (absent : key.name ∉ entries.map (·.1.name))
    (inner : item.HasDistinctKeys) : Distinct (entries ++ [(key, item)]) where
  keys := by
    rw [List.map_append, List.map_singleton, ← List.concat_eq_append]
    exact List.Nodup.concat absent distinct.keys
  each entry listed := by
    rcases List.mem_append.mp listed with earlier | last
    · exact distinct.each entry earlier
    · rw [List.mem_singleton.mp last]
      exact inner

theorem put (distinct : Distinct entries) (inner : item.HasDistinctKeys) :
    Distinct (put key item entries) where
  keys := by
    rw [map_name_put]
    split
    · exact distinct.keys
    · next absent =>
      rw [← List.concat_eq_append]
      exact List.Nodup.concat absent distinct.keys
  each entry listed := by
    rcases mem_or_eq_of_mem_put listed with old | new
    · exact distinct.each entry old
    · rw [new]
      exact inner

theorem remove (distinct : Distinct entries) : Distinct (remove name entries) where
  keys := distinct.keys.sublist (List.filter_sublist.map _)
  each entry listed := distinct.each entry (List.mem_of_mem_filter listed)

end Distinct

end Entries

/-! ## Assignments -/

/-- A change within a table keeps the keys different if the change itself does. -/
theorem keeps_within {isDotted : Bool} {change : Origin → Entries → Option Entries}
    (keeps : ∀ origin, Keeps (change origin)) (path : List Key) (origin : Origin) :
    Keeps (within isDotted change path origin) := by
  induction path generalizing origin with
  | nil => exact keeps origin
  | cons key path ih =>
      intro entries entries' changed distinct
      rw [within] at changed
      split at changed
      · rcases Option.map_eq_some_iff.mp changed with ⟨inner, new, rfl⟩
        exact distinct.put ((ih _ new .nil).table _ _)
      · next place found =>
        split at changed
        · contradiction
        · rcases Option.map_eq_some_iff.mp changed with ⟨inner, new, rfl⟩
          cases distinct.of_find? found with
          | table _ keys each => exact distinct.put ((ih _ new ⟨keys, each⟩).table _ _)
      · next found =>
        rcases Option.map_eq_some_iff.mp changed with ⟨last, new, rfl⟩
        cases distinct.of_find? found with
        | tables earlier keys each =>
            have inner := ih _ new ⟨keys, each⟩
            exact distinct.put (.tables earlier inner.keys inner.each _ _)
      · contradiction

theorem keeps_assign {item : Item} (inner : item.HasDistinctKeys) (key : Key)
    (isDotted : Bool) (origin : Origin) : Keeps (assign key item isDotted origin) := by
  intro entries entries' changed distinct
  rw [assign] at changed
  split at changed
  · contradiction
  · next allowed =>
    rw [not_or, Bool.not_eq_true, Option.isSome_eq_false_iff, Option.isNone_iff_eq_none]
      at allowed
    cases changed
    exact distinct.append (find?_eq_none_iff.mp allowed.1) inner

theorem keeps_assignPath {item : Item} (inner : item.HasDistinctKeys) (origin : Origin)
    (path : List Key) : Keeps (assignPath origin path item) := by
  intro entries entries' changed distinct
  rw [assignPath] at changed
  split at changed
  · contradiction
  · exact keeps_within (keeps_assign inner _ _) _ _ changed distinct

mutual

theorem hasDistinctKeys_of_itemOf : ∀ {value : Value} {item : Item},
    itemOf value = some item → item.HasDistinctKeys
  | .scalar _ _, _, made => by
      rw [itemOf] at made
      cases made
      exact .scalar _ _
  | .array items _, _, made => by
      rw [itemOf] at made
      rcases Option.map_eq_some_iff.mp made with ⟨inner, each, rfl⟩
      exact .array (hasDistinctKeys_of_itemsOf each) _
  | .inlineTable assignments _, _, made => by
      rw [itemOf] at made
      rcases Option.map_eq_some_iff.mp made with ⟨inner, new, rfl⟩
      exact (keeps_assignAll .inlined assignments new .nil).table _ _

theorem hasDistinctKeys_of_itemsOf : ∀ {values : List Value} {items : List Item},
    itemsOf values = some items → ∀ item ∈ items, item.HasDistinctKeys
  | [], _, made => by
      rw [itemsOf] at made
      cases made
      exact nofun
  | value :: values, _, made => by
      rw [itemsOf] at made
      split at made
      · next first rest =>
        cases made
        exact List.forall_mem_cons.mpr
          ⟨hasDistinctKeys_of_itemOf first, hasDistinctKeys_of_itemsOf rest⟩
      · contradiction

theorem keeps_assignAll (origin : Origin) : ∀ assignments : List (List Key × Value),
    Keeps (assignAll origin assignments)
  | [], _, _, made, distinct => by
      rw [assignAll] at made
      cases made
      exact distinct
  | (path, value) :: rest, _, _, made, distinct => by
      rw [assignAll] at made
      split at made
      · contradiction
      · next new =>
        split at made
        · contradiction
        · next changed =>
          exact keeps_assignAll origin rest made
            (keeps_assignPath (hasDistinctKeys_of_itemOf new) origin path changed distinct)

end

/-! ## Sections -/

theorem keeps_place (header : Header) (assignments : List Assignment) (key : Key) :
    Keeps (place header assignments key) := by
  intro entries entries' changed distinct
  have keeps := keeps_assignAll .header assignments
  rw [place] at changed
  split at changed
  · split at changed
    · rcases Option.map_eq_some_iff.mp changed with ⟨inner, new, rfl⟩
      have inner := keeps new .nil
      exact distinct.put (.tables (List.forall_mem_nil _) inner.keys inner.each _ _)
    · next found =>
      rcases Option.map_eq_some_iff.mp changed with ⟨inner, new, rfl⟩
      have inner := keeps new .nil
      cases distinct.of_find? found with
      | tables earlier keys each =>
          refine distinct.put (.tables ?_ inner.keys inner.each _ _)
          exact List.forall_mem_cons.mpr ⟨.table _ keys each _, earlier⟩
    · contradiction
  · split at changed
    · rcases Option.map_eq_some_iff.mp changed with ⟨inner, new, rfl⟩
      exact distinct.put ((keeps new .nil).table _ _)
    · next found =>
      rcases Option.map_eq_some_iff.mp changed with ⟨inner, new, rfl⟩
      cases distinct.of_find? found with
      | table _ keys each =>
          exact distinct.remove.append notMem_remove
            ((keeps new ⟨keys, each⟩).table _ _)
    · contradiction

theorem keeps_placeSection (part : Section) : Keeps (placeSection part) := by
  intro entries entries' changed distinct
  rw [placeSection] at changed
  split at changed
  · contradiction
  · exact keeps_within (fun _ => keeps_place _ _ _) _ _ changed distinct

theorem keeps_placeAll (parts : List Section) : Keeps (placeAll parts) := by
  induction parts with
  | nil =>
      intro entries entries' changed distinct
      cases changed
      exact distinct
  | cons part rest ih =>
      intro entries entries' changed distinct
      rw [placeAll] at changed
      split at changed
      · contradiction
      · next first => exact ih changed (keeps_placeSection part first distinct)

theorem distinct_of_entries? {document : Document} {entries : Entries}
    (made : document.entries? = some entries) : Distinct entries := by
  rw [Document.entries?] at made
  split at made
  · contradiction
  · next preamble => exact keeps_placeAll _ made (keeps_assignAll _ _ preamble .nil)

/-! ## Nodes -/

theorem nodesOf_eq_map (items : List Item) : nodesOf items = items.map Item.node := by
  induction items with
  | nil => rw [nodesOf, List.map_nil]
  | cons item items ih => rw [nodesOf, ih, List.map_cons]

theorem labelled_eq_map (entries : Entries) :
    labelled entries = entries.map fun entry => (entry.1.label, entry.2.node) := by
  induction entries with
  | nil => rw [labelled, List.map_nil]
  | cons entry entries ih => rw [labelled, ih, List.map_cons]

theorem map_name_labelled (entries : Entries) :
    (labelled entries).map (·.1.name) = entries.map (·.1.name) := by
  rw [labelled_eq_map, List.map_map]
  rfl

theorem forall_labelled {entries : Entries} {P : Node → Prop}
    (each : ∀ entry ∈ entries, P entry.2.node) : ∀ entry ∈ labelled entries, P entry.2 := by
  rw [labelled_eq_map]
  exact List.forall_mem_map.mpr each

/-- The node of an item has no key twice if the item has none. -/
theorem Item.HasDistinctKeys.node {item : Item} (distinct : item.HasDistinctKeys) :
    item.node.HasDistinctKeys := by
  induction distinct with
  | scalar =>
      rw [Item.node]
      exact .scalar _ _
  | array _ _ ih =>
      rw [Item.node, nodesOf_eq_map]
      exact .list (List.forall_mem_map.mpr ih) _
  | table _ keys _ _ ih =>
      rw [Item.node]
      exact .table (map_name_labelled _ ▸ keys) (forall_labelled ih) _
  | tables _ keys _ _ _ before ih =>
      rw [Item.node, nodesOf_eq_map]
      refine .list (List.forall_mem_append.mpr ⟨?_, ?_⟩) _
      · exact fun node listed => List.forall_mem_map.mpr before node (List.mem_reverse.mp listed)
      · rw [List.forall_mem_singleton]
        exact .table (map_name_labelled _ ▸ keys) (forall_labelled ih) _

/-- No table that a text holds has a key twice. -/
theorem hasDistinctKeys_of_readNode {text : List Char} {node : Node}
    (read : readNode text = .ok node) : node.HasDistinctKeys := by
  rw [readNode] at read
  split at read
  · contradiction
  · split at read
    · contradiction
    · next made =>
      cases read
      have distinct := distinct_of_entries? made
      exact .table (map_name_labelled _ ▸ distinct.keys)
        (forall_labelled fun entry listed => (distinct.each entry listed).node) _

end Inset.Toml
