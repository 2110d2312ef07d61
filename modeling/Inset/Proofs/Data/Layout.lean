import Inset.Manifest.Reading
import Inset.Proofs.Data.Entries
import Mathlib.Data.List.Perm.Basic

/-!
# Data in another layout

Nodes with the same data may differ in their places and in the order of the entries of
their tables.  A reader *ignores layout* if it gives the same result for such nodes, or
fails on both, which says nothing about the errors: a record is read in the order in which
it is written, so another entry may be the first that does not fit.  Lists and records of
what ignores layout do so, too (`IgnoresLayout.record`), where no key comes twice.  A
record has no keys but those of its fields (`keys_subset_of_readRecord`).
-/

namespace Inset.Data

variable {α β : Type}

/-! ## The same data -/

/-- Whether two nodes hold the same data.  The entries of tables may come in another order,
and places make no difference. -/
inductive SameData : Node → Node → Prop
  | scalar (value : Scalar) (place place' : Option Span) :
      SameData (.scalar value place) (.scalar value place')
  | list {items items' : List Node} (each : List.Forall₂ SameData items items')
      (place place' : Option Span) : SameData (.list items place) (.list items' place')
  | table {entries reordered entries' : List (Label × Node)} (order : reordered.Perm entries')
      (names : entries.map (·.1.name) = reordered.map (·.1.name))
      (each : List.Forall₂ SameData (entries.map Prod.snd) (reordered.map Prod.snd))
      (place place' : Option Span) : SameData (.table entries place) (.table entries' place')

/-- Whether no table in a node has a key twice. -/
inductive Node.HasDistinctKeys : Node → Prop
  | scalar (value : Scalar) (place : Option Span) : HasDistinctKeys (.scalar value place)
  | list {items : List Node} (each : ∀ item ∈ items, HasDistinctKeys item)
      (place : Option Span) : HasDistinctKeys (.list items place)
  | table {entries : List (Label × Node)} (keys : (entries.map (·.1.name)).Nodup)
      (each : ∀ entry ∈ entries, HasDistinctKeys entry.2) (place : Option Span) :
      HasDistinctKeys (.table entries place)

/-- Whether two nodes without repeated keys hold the same data. -/
structure Matches (node node' : Node) : Prop where
  same : SameData node node'
  distinct : node.HasDistinctKeys
  distinct' : node'.HasDistinctKeys

theorem Matches.items {items items' : List Node} {place place' : Option Span}
    (both : Matches (.list items place) (.list items' place')) :
    List.Forall₂ Matches items items' := by
  rcases both with ⟨_ | ⟨each⟩, _ | ⟨distinct⟩, _ | ⟨distinct'⟩⟩
  rw [List.forall₂_iff_zip] at each ⊢
  refine ⟨each.1, fun {item item'} listed => ?_⟩
  rcases List.of_mem_zip listed with ⟨member, member'⟩
  exact ⟨each.2 listed, distinct item member, distinct' item' member'⟩

/-- The entries of a table by the names of their keys. -/
def named (entries : List (Label × Node)) : List (String × Node) :=
  entries.map fun entry => (entry.1.name, entry.2)

theorem map_fst_named (entries : List (Label × Node)) :
    (named entries).map Prod.fst = entries.map (·.1.name) := by
  simp [named, Function.comp_def]

theorem Matches.entries {entries entries' : List (Label × Node)} {place place' : Option Span}
    (both : Matches (.table entries place) (.table entries' place')) :
    ((named entries').map Prod.fst).Nodup ∧ ∃ reordered, reordered.Perm (named entries') ∧
      List.Forall₂ (fun x y => x.1 = y.1 ∧ Matches x.2 y.2) (named entries) reordered := by
  rcases both with ⟨same, distinct, distinct'⟩
  cases same with | @table _ reordered _ order names each =>
  cases distinct with | table _ distinct =>
  cases distinct' with | table keys distinct' =>
  refine ⟨map_fst_named entries' ▸ keys, named reordered, order.map _, ?_⟩
  rw [named, named, List.forall₂_map_left_iff, List.forall₂_map_right_iff]
  rw [← List.forall₂_eq_eq_eq, List.forall₂_map_left_iff, List.forall₂_map_right_iff] at names
  rw [List.forall₂_map_left_iff, List.forall₂_map_right_iff] at each
  rw [List.forall₂_iff_zip] at names each ⊢
  refine ⟨names.1, fun {entry entry'} listed => ⟨names.2 listed, each.2 listed, ?_, ?_⟩⟩
  · exact distinct entry (List.of_mem_zip listed).1
  · exact distinct' entry' (order.subset (List.of_mem_zip listed).2)

theorem Matches.length_eq {entries entries' : List (Label × Node)}
    {place place' : Option Span}
    (both : Matches (.table entries place) (.table entries' place')) :
    entries.length = entries'.length := by
  rcases both.entries with ⟨_, reordered, order, related⟩
  have lengths := related.length_eq.trans order.length_eq
  rwa [named, List.length_map, named, List.length_map] at lengths

theorem Matches.entry {label label' : Label} {node node' : Node}
    {place place' : Option Span}
    (both : Matches (.table [(label, node)] place) (.table [(label', node')] place')) :
    label.name = label'.name ∧ Matches node node' := by
  rcases both.entries with ⟨_, reordered, order, related⟩
  obtain rfl : reordered = [(label'.name, node')] := List.perm_singleton.mp order
  cases related with
  | cons here _ => exact here

/-! ## Finding out whether data is the same -/

/-- Whether two scalars are found to be the same.  Doubles are not compared. -/
def Scalar.agrees : Scalar → Scalar → Bool
  | .text value, .text value' => value = value'
  | .boolean value, .boolean value' => value = value'
  | .integer value, .integer value' => value = value'
  | .null, .null => true
  | .date, .date => true
  | .hugeInteger, .hugeInteger => true
  | .hugeReal, .hugeReal => true
  | _, _ => false

mutual

/-- Whether two nodes are found to hold the same data. -/
def Node.agrees : Node → Node → Bool
  | .scalar value _, .scalar value' _ => value.agrees value'
  | .list items _, .list items' _ => itemsAgree items items'
  | .table entries _, .table entries' _ => entriesAgree entries entries'
  | _, _ => false

/-- Whether the items of two lists are found to hold the same data. -/
def itemsAgree : List Node → List Node → Bool
  | [], [] => true
  | item :: items, item' :: items' => item.agrees item' && itemsAgree items items'
  | _, _ => false

/-- Whether the entries of two tables are found to hold the same data. -/
def entriesAgree : List (Label × Node) → List (Label × Node) → Bool
  | [], entries' => entries'.isEmpty
  | (label, node) :: entries, entries' =>
      match entries'.find? (·.1.name = label.name) with
      | none => false
      | some (_, node') =>
          node.agrees node' && entriesAgree entries (entries'.eraseP (·.1.name = label.name))

end

theorem Scalar.eq_of_agrees {value value' : Scalar} (agrees : value.agrees value' = true) :
    value = value' := by
  cases value <;> cases value' <;> simp_all [Scalar.agrees]

theorem perm_cons_eraseP {p : α → Bool} {items : List α} {first : α}
    (found : items.find? p = some first) : (first :: items.eraseP p).Perm items := by
  rcases List.find?_eq_some_iff_append.mp found with ⟨has, front, back, rfl, others⟩
  have absent : ∀ item ∈ front, ¬ p item := fun item listed => by simpa using others item listed
  rw [List.eraseP_append_right _ absent, List.eraseP_cons_of_pos has]
  exact List.perm_middle.symm

mutual

theorem SameData.of_agrees : ∀ {node node' : Node}, node.agrees node' = true →
    SameData node node'
  | .scalar _ _, .scalar _ _, agrees => by
      rw [Node.agrees] at agrees
      obtain rfl := Scalar.eq_of_agrees agrees
      exact .scalar _ _ _
  | .list items _, .list items' _, agrees => by
      rw [Node.agrees] at agrees
      exact .list (SameData.of_itemsAgree agrees) _ _
  | .table entries _, .table entries' _, agrees => by
      rw [Node.agrees] at agrees
      rcases SameData.of_entriesAgree agrees with ⟨reordered, order, names, each⟩
      exact .table order names each _ _
  | .scalar _ _, .list _ _, agrees | .scalar _ _, .table _ _, agrees
  | .list _ _, .scalar _ _, agrees | .list _ _, .table _ _, agrees
  | .table _ _, .scalar _ _, agrees | .table _ _, .list _ _, agrees => by
      simp [Node.agrees] at agrees

theorem SameData.of_itemsAgree : ∀ {items items' : List Node},
    itemsAgree items items' = true → List.Forall₂ SameData items items'
  | [], [], _ => .nil
  | item :: items, item' :: items', agree => by
      rw [itemsAgree, Bool.and_eq_true] at agree
      exact .cons (SameData.of_agrees agree.1) (SameData.of_itemsAgree agree.2)
  | [], _ :: _, agree | _ :: _, [], agree => by
      simp [itemsAgree] at agree

theorem SameData.of_entriesAgree : ∀ {entries entries' : List (Label × Node)},
    entriesAgree entries entries' = true → ∃ reordered, List.Perm reordered entries' ∧
      entries.map (·.1.name) = reordered.map (·.1.name) ∧
      List.Forall₂ SameData (entries.map Prod.snd) (reordered.map Prod.snd)
  | [], entries', agree => by
      rw [entriesAgree, List.isEmpty_iff] at agree
      exact ⟨[], agree ▸ .nil, rfl, .nil⟩
  | (label, node) :: entries, entries', agree => by
      rw [entriesAgree] at agree
      split at agree
      · contradiction
      · next label' node' found =>
        rw [Bool.and_eq_true] at agree
        have same := List.find?_some found
        rcases SameData.of_entriesAgree agree.2 with ⟨reordered, order, names, each⟩
        have rearranged := (order.cons (label', node')).trans (perm_cons_eraseP found)
        refine ⟨(label', node') :: reordered, rearranged, ?_, ?_⟩
        · rw [List.map_cons, List.map_cons, names, of_decide_eq_true same]
        · exact .cons (SameData.of_agrees agree.1) each

end

/-! ## Readers -/

/-- Whether a reader gives the same result for nodes with the same data, or fails on both. -/
def IgnoresLayout (read : NodeReader α) : Prop :=
  ∀ ⦃node node' : Node⦄, Matches node node' → (read node).toOption = (read node').toOption

theorem toOption_eq_some_iff {ε : Type} {result : Except ε α} {value : α} :
    result.toOption = some value ↔ result = .ok value := by
  cases result <;> simp [Except.toOption]

theorem toOption_bind {ε : Type} (first : Except ε α) (next : α → Except ε β) :
    (first >>= next).toOption = first.toOption.bind fun value => (next value).toOption := by
  cases first <;> rfl

theorem toOption_map {ε : Type} (result : Except ε α) (function : α → β) :
    (result.map function).toOption = result.toOption.map function := by
  cases result <;> rfl

theorem IgnoresLayout.text (format : Format) : IgnoresLayout (Node.readText format) := by
  rintro _ _ ⟨value | _ | _, _, _⟩
  · cases value <;> rfl
  · rfl
  · rfl

theorem IgnoresLayout.path (format : Format) : IgnoresLayout (Node.readPath format) := by
  rintro _ _ ⟨value | _ | _, _, _⟩
  · cases value <;> rfl
  · rfl
  · rfl

theorem IgnoresLayout.mapM {read : NodeReader α} (ignores : IgnoresLayout read)
    {items items' : List Node} (each : List.Forall₂ Matches items items') :
    (items.mapM read).toOption = (items'.mapM read).toOption := by
  induction each with
  | nil => rfl
  | cons here _ ih =>
      simp only [List.mapM_cons, toOption_bind, ignores here, ih]

/-- A list of what ignores layout ignores it. -/
theorem IgnoresLayout.list {read : NodeReader α} (ignores : IgnoresLayout read)
    (format : Format) : IgnoresLayout (Node.readList format read) := by
  rintro node node' both
  cases both.same with
  | scalar => rfl
  | list => exact ignores.mapM both.items
  | table => rfl

theorem IgnoresLayout.option {read : NodeReader α} (ignores : IgnoresLayout read) :
    IgnoresLayout (Node.readOption read) := by
  intro node node' both
  have present : ((read node).map some).toOption = ((read node').map some).toOption := by
    rw [toOption_map, toOption_map, ignores both]
  cases both.same with
  | scalar value => cases value <;> first | rfl | exact present
  | list => exact present
  | table => exact present

/-! ## Records -/

/-- Whether the fields of a schema ignore layout, and so the record that is put together
from them. -/
structure SchemaIgnoresLayout (schema : Schema Node Misfit α) : Prop where
  checks : ∀ field ∈ schema.fields, IgnoresLayout field.2
  fill : ∀ {tree? tree?' : String → Option Node} {missing missing' : String → Misfit},
    (∀ name, Option.Rel Matches (tree? name) (tree?' name)) →
    (schema.fill tree? missing).toOption = (schema.fill tree?' missing').toOption

namespace SchemaIgnoresLayout

theorem passes {read : NodeReader α} (ignores : IgnoresLayout read) :
    IgnoresLayout (Schema.passes read) := by
  intro node node' both
  rw [Schema.passes, Schema.passes, toOption_map, toOption_map, ignores both]

theorem required {read : NodeReader α} (ignores : IgnoresLayout read) (name : String) :
    SchemaIgnoresLayout (.required name read) where
  checks field listed := by
    rw [List.mem_singleton.mp listed]
    exact passes ignores
  fill {tree? tree?' _ _} found := by
    have here := found name
    simp only [Schema.required]
    generalize tree? name = node? at here ⊢
    generalize tree?' name = node?' at here ⊢
    cases here with
    | some both => exact ignores both
    | none => rfl

theorem optional {read : NodeReader α} (ignores : IgnoresLayout read) (name : String)
    (default : α) : SchemaIgnoresLayout (.optional name default read) where
  checks field listed := by
    rw [List.mem_singleton.mp listed]
    exact passes ignores
  fill {tree? tree?' _ _} found := by
    have here := found name
    simp only [Schema.optional]
    generalize tree? name = node? at here ⊢
    generalize tree?' name = node?' at here ⊢
    cases here with
    | some both => exact ignores both
    | none => rfl

theorem constant (value : α) :
    SchemaIgnoresLayout (pure value : Schema Node Misfit α) where
  checks _ listed := absurd listed List.not_mem_nil
  fill _ := rfl

theorem apply {functions : Schema Node Misfit (α → β)} {arguments : Schema Node Misfit α}
    (first : SchemaIgnoresLayout functions) (second : SchemaIgnoresLayout arguments) :
    SchemaIgnoresLayout (functions <*> arguments) where
  checks field listed :=
    (List.mem_append.mp listed).elim (first.checks field) (second.checks field)
  fill {tree? tree?' missing missing'} found := by
    change ((Schema.apply functions arguments).fill tree? missing).toOption =
      ((Schema.apply functions arguments).fill tree?' missing').toOption
    simp only [Schema.apply, toOption_bind]
    rw [first.fill found, second.fill found]

theorem map {schema : Schema Node Misfit α} (ignores : SchemaIgnoresLayout schema)
    (function : α → β) : SchemaIgnoresLayout (function <$> schema) :=
  (constant function).apply ignores

end SchemaIgnoresLayout

/-- Entries are accepted exactly if every one is of a field and passes. -/
theorem checkEntries_eq_ok_iff {schema : Schema Node Misfit α}
    {entries : List (Label × Node)} :
    Node.checkEntries schema entries = .ok () ↔ ∀ entry ∈ named entries, ∃ check,
      schema.check? entry.1 = some check ∧ check entry.2 = .ok () := by
  induction entries with
  | nil => simp [Node.checkEntries, named]
  | cons entry rest ih =>
      rcases entry with ⟨label, node⟩
      have split : named ((label, node) :: rest) = (label.name, node) :: named rest := rfl
      rw [split, List.forall_mem_cons, ← ih, Node.checkEntries]
      cases known : schema.check? label.name with
      | none => simp
      | some check => cases passed : check node <;> simp [passed]

theorem forall_mem_iff_of_forall₂ {R : α → β → Prop} {front : List α} {back : List β}
    (related : List.Forall₂ R front back) {P : α → Prop} {Q : β → Prop}
    (same : ∀ {x y}, R x y → (P x ↔ Q y)) : (∀ x ∈ front, P x) ↔ ∀ y ∈ back, Q y := by
  induction related with
  | nil => simp
  | cons here _ ih => rw [List.forall_mem_cons, List.forall_mem_cons, same here, ih]

/-- Entries with different keys are found in any order. -/
theorem lookup_of_perm {front back : List (String × α)} (order : front.Perm back)
    (nodup : (back.map Prod.fst).Nodup) (key : String) : front.lookup key = back.lookup key := by
  apply Option.ext
  intro value
  constructor
  · intro found
    exact lookup_of_mem nodup (order.subset (Dictionary.mem_of_lookup found))
  · intro found
    have nodup' : (front.map Prod.fst).Nodup := (order.map Prod.fst).nodup_iff.mpr nodup
    exact lookup_of_mem nodup' (order.symm.subset (Dictionary.mem_of_lookup found))

theorem forall₂_zip_names {names : List String} {items items' : List Node}
    (each : List.Forall₂ Matches items items') :
    List.Forall₂ (fun x y => x.1 = y.1 ∧ Matches x.2 y.2) (names.zip items)
      (names.zip items') := by
  induction each generalizing names with
  | nil => simp
  | cons here _ ih =>
      cases names with
      | nil => exact .nil
      | cons name names => exact .cons ⟨rfl, here⟩ ih

section Record

variable {schema : Schema Node Misfit α} (ignores : SchemaIgnoresLayout schema)

include ignores

theorem SchemaIgnoresLayout.check {name : String} {check : Node → Except Misfit Unit}
    (known : schema.check? name = some check) : IgnoresLayout check :=
  ignores.checks (name, check) (Dictionary.mem_of_lookup known)

theorem SchemaIgnoresLayout.checkEntries {entries entries' : List (Label × Node)}
    {place place' : Option Span}
    (both : Matches (.table entries place) (.table entries' place')) :
    Node.checkEntries schema entries = .ok () ↔ Node.checkEntries schema entries' = .ok () := by
  rcases both.entries with ⟨_, reordered, order, related⟩
  have rearranged : (∀ entry ∈ reordered, ∃ check,
        schema.check? entry.1 = some check ∧ check entry.2 = .ok ()) ↔
      ∀ entry ∈ named entries', ∃ check,
        schema.check? entry.1 = some check ∧ check entry.2 = .ok () :=
    forall_congr' fun entry => imp_congr_left order.mem_iff
  rw [checkEntries_eq_ok_iff, checkEntries_eq_ok_iff, ← rearranged]
  apply forall_mem_iff_of_forall₂ related
  rintro ⟨name, node⟩ ⟨_, node'⟩ ⟨rfl, same⟩
  refine exists_congr fun check => and_congr_right fun known => ?_
  rw [← toOption_eq_some_iff, ignores.check known same, toOption_eq_some_iff]

/-- A record of fields that ignore layout ignores it. -/
theorem IgnoresLayout.record (format : Format) (name : String) :
    IgnoresLayout (Node.readRecord format name schema) := by
  intro node node' both
  cases both.same with
  | scalar value => cases value <;> rfl
  | @list items items' each place place' =>
      have found : ∀ field, Option.Rel Matches ((schema.names.zip items).lookup field)
          ((schema.names.zip items').lookup field) :=
        fun field => rel_lookup (R := fun _ => Matches) (forall₂_zip_names both.items) field
      simp only [Node.readRecord, Schema.fillOrdered, Schema.fillNamed, toOption_bind]
      rw [ignores.fill found, each.length_eq]
      refine congrArg _ (funext fun record => ?_)
      split <;> rfl
  | @table entries _ entries' _ _ _ place place' =>
      rcases both.entries with ⟨nodup, reordered, order, related⟩
      have found : ∀ field,
          Option.Rel Matches ((named entries).lookup field) ((named entries').lookup field) :=
        fun field => lookup_of_perm order nodup field ▸
          rel_lookup (R := fun _ => Matches) related field
      have checked : (Node.checkEntries schema entries).toOption =
          (Node.checkEntries schema entries').toOption :=
        Option.ext fun _ => by
          rw [toOption_eq_some_iff, toOption_eq_some_iff]
          exact ignores.checkEntries both
      simp only [Node.readRecord, Schema.fillNamed, toOption_bind]
      rw [checked]
      exact congrArg _ (funext fun _ => ignores.fill found)

end Record

/-! ## The keys of records -/

/-- The keys of a table. -/
def Node.keys : Node → List String
  | .table entries _ => entries.map (·.1.name)
  | _ => []

/-- The items of the list under a key of a table. -/
def Node.itemsUnder (name : String) : Node → List Node
  | .table entries _ =>
      match (named entries).lookup name with
      | some (.list items _) => items
      | _ => []
  | _ => []

theorem exists_of_passes {read : NodeReader α} {node : Node}
    (passed : Schema.passes read node = .ok ()) : ∃ value, read node = .ok value := by
  cases read' : read node with
  | error misfit => simp [Schema.passes, read', Except.map] at passed
  | ok value => exact ⟨value, rfl⟩

section Record

variable {format : Format} {record : String} {schema : Schema Node Misfit α}
  {node : Node} {value : α}
  (read : Node.readRecord format record schema node = .ok value)

include read

theorem keys_subset_of_readRecord : node.keys ⊆ schema.names := by
  cases node with
  | scalar => exact List.nil_subset _
  | list => exact List.nil_subset _
  | table entries place =>
      rcases bind_eq_ok_iff.mp read with ⟨_, checked, _⟩
      intro name listed
      rw [Node.keys, ← map_fst_named] at listed
      rcases List.mem_map.mp listed with ⟨entry, member, rfl⟩
      rcases checkEntries_eq_ok_iff.mp checked entry member with ⟨_, known, _⟩
      exact List.mem_map.mpr ⟨_, Dictionary.mem_of_lookup known, rfl⟩

/-- The items of a list in a record have been read one by one. -/
theorem exists_of_mem_itemsUnder {name : String} {inner : NodeReader β}
    (known : schema.check? name = some (Schema.passes (Node.readList format inner)))
    {item : Node} (listed : item ∈ node.itemsUnder name) : ∃ part, inner item = .ok part := by
  cases node with
  | scalar => cases listed
  | list => cases listed
  | table entries place =>
      rcases bind_eq_ok_iff.mp read with ⟨_, checked, _⟩
      rw [Node.itemsUnder] at listed
      split at listed
      · next items _ found =>
        rcases checkEntries_eq_ok_iff.mp checked _ (Dictionary.mem_of_lookup found)
          with ⟨_, same, passed⟩
        obtain rfl := Option.some.inj (known.symm.trans same)
        rcases exists_of_passes passed with ⟨parts, made⟩
        exact exists_forall₂_iff.mp ⟨parts, mapM_eq_ok_iff.mp made⟩ item listed
      · cases listed

end Record

end Inset.Data
