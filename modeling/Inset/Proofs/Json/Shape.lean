import Inset.Proofs.Json.Record
import Mathlib.Data.List.Forall2
import Mathlib.Data.List.Perm.Basic

/-!
# Shapes of values

A shape says which JSON values a reader takes.  A reader accepts a shape when it reads
exactly the values of that shape, and what is written for the result restates the value:
only the order of the members of records and the places of repeated keys are lost
(`Accepts`).  Lists and dictionaries inherit this from what they hold, and a record from
its fields, which are compared one by one with the schema that reads them (`Fills`).

A record may also be written as an array.  Shapes leave that out.
-/

namespace Inset.Json

open Data (Schema bind_eq_ok_iff exists_forall₂_iff exists_rel_of_lookup keys_eq_of_forall₂
  lookup_map lookup_of_mem rel_of_lookup)

/-- What is asked of a value. -/
inductive Shape
  | text
  | list (item : Shape)
  | dictionary (value : Shape)
  | record (fields : List (String × Shape))

/-- Whether a value has a shape.  A record has each of its fields once, in any order, and
nothing else; a dictionary has any keys, and may have them more than once. -/
inductive HasShape : Shape → Value → Prop
  | text (text : String) : HasShape .text (.string text)
  | list {item : Shape} {items : List Value} (each : ∀ value ∈ items, HasShape item value) :
      HasShape (.list item) (.array items)
  | dictionary {shape : Shape} {members : List (String × Value)}
      (each : ∀ member ∈ members, HasShape shape member.2) :
      HasShape (.dictionary shape) (.object members)
  | record {fields : List (String × Shape)} {members : List (String × Value)}
      (keys : (members.map Prod.fst).Perm (fields.map Prod.fst))
      (each : ∀ member ∈ members, ∀ field ∈ fields, member.1 = field.1 →
        HasShape field.2 member.2) :
      HasShape (.record fields) (.object members)

/-- Whether no array stands in a value where its shape wants a record. -/
inductive RecordsAsObjects : Shape → Value → Prop
  | text (value : Value) : RecordsAsObjects .text value
  | list {item : Shape} {value : Value}
      (each : ∀ items, value = .array items → ∀ inner ∈ items, RecordsAsObjects item inner) :
      RecordsAsObjects (.list item) value
  | dictionary {shape : Shape} {value : Value}
      (each : ∀ members, value = .object members →
        ∀ member ∈ members, RecordsAsObjects shape member.2) :
      RecordsAsObjects (.dictionary shape) value
  | record {fields : List (String × Shape)} {value : Value}
      (noArray : ∀ items, value ≠ .array items)
      (each : ∀ members, value = .object members → ∀ member ∈ members, ∀ field ∈ fields,
        member.1 = field.1 → RecordsAsObjects field.2 member.2) :
      RecordsAsObjects (.record fields) value

/-- Whether one value of a shape says the same as another that stands for it afterwards.
The members of a record come into the order of its fields.  Of a key that comes again in a
dictionary, the first place and the last value stay. -/
inductive Restates : Shape → Value → Value → Prop
  | text (text : String) : Restates .text (.string text) (.string text)
  | list {item : Shape} {before after : List Value} (length : after.length = before.length)
      (each : ∀ pair ∈ before.zip after, Restates item pair.1 pair.2) :
      Restates (.list item) (.array before) (.array after)
  | dictionary {shape : Shape} {before after : List (String × Value)}
      (keys : after.map Prod.fst = (before.map Prod.fst).eraseDups)
      (each : ∀ key old new, before.reverse.lookup key = some old →
        after.lookup key = some new → Restates shape old new) :
      Restates (.dictionary shape) (.object before) (.object after)
  | record {fields : List (String × Shape)} {before after : List (String × Value)}
      (keys : (before.map Prod.fst).Perm (fields.map Prod.fst))
      (order : after.map Prod.fst = fields.map Prod.fst)
      (each : ∀ field ∈ fields, ∀ old new, (field.1, old) ∈ before → (field.1, new) ∈ after →
        Restates field.2 old new) :
      Restates (.record fields) (.object before) (.object after)

/-- The records of a value of a shape are objects. -/
theorem HasShape.recordsAsObjects {shape : Shape} {value : Value} (has : HasShape shape value) :
    RecordsAsObjects shape value := by
  induction has with
  | text text => exact .text _
  | list _ ih => exact .list fun items same => Value.array.inj same ▸ ih
  | dictionary _ ih => exact .dictionary fun members same => Value.object.inj same ▸ ih
  | record _ _ ih => exact .record nofun fun members same => Value.object.inj same ▸ ih

variable {α β : Type}

/-- Whether a reader reads exactly the values of a shape, if their records are objects, and
the form of the result restates the value. -/
structure Accepts (reader : DraftReader α) (form : α → Value) (shape : Shape) : Prop where
  reads : ∀ {value : Value}, HasShape shape value →
    ∃ result, reader value.draft = .ok result ∧ Restates shape value (form result)
  hasShape : ∀ {value : Value} {result : α}, RecordsAsObjects shape value →
    reader value.draft = .ok result → HasShape shape value

/-! ## Texts, lists and dictionaries -/

theorem Accepts.text : Accepts Draft.readText .string .text where
  reads := by
    rintro _ ⟨text⟩
    exact ⟨text, rfl, .text text⟩
  hasShape {value result} _ read := by
    cases value with
    | string text => exact .text text
    | null | boolean | number | array | object => contradiction

variable {reader : DraftReader α} {form : α → Value} {shape : Shape}

theorem readList_eq_ok {value : Value} {results : List α}
    (read : Draft.readList reader value.draft = .ok results) :
    ∃ items, value = .array items ∧
      List.Forall₂ (fun item result => reader item.draft = .ok result) items results := by
  cases value with
  | array items =>
      simp only [Value.draft, Draft.readList, bind_eq_ok_iff, mapM_draftItems_eq_ok_iff] at read
      rcases read with ⟨_, related, _, _, same⟩
      cases same
      exact ⟨items, rfl, related⟩
  | null | boolean | number | string | object => contradiction

/-- A list of what is accepted is accepted. -/
theorem Accepts.list (accepts : Accepts reader form shape) :
    Accepts (Draft.readList reader) (fun results => .array (results.map form)) (.list shape) where
  reads {value} has := by
    cases has with
    | @list _ items each =>
      rcases exists_forall₂_iff.mpr fun value member => accepts.reads (each value member) with
        ⟨results, related⟩
      have read := mapM_draftItems_eq_ok_iff.mpr (related.imp fun _ _ both => both.1)
      have restated := List.forall₂_map_right_iff.mpr (related.imp fun _ _ both => both.2)
      rw [List.forall₂_iff_zip] at restated
      refine ⟨results, ?_, .list restated.1.symm fun pair listed => restated.2 listed⟩
      simp only [Value.draft, Draft.readList, read]
      rfl
  hasShape {value results} objects read := by
    rcases readList_eq_ok read with ⟨items, rfl, related⟩
    cases objects with
    | list inner =>
      refine .list fun value member => ?_
      rcases exists_forall₂_iff.mp ⟨results, related⟩ value member with ⟨result, here⟩
      exact accepts.hasShape (inner items rfl value member) here

theorem readDictionary_eq_ok {value : Value} {dictionary : Dictionary α}
    (read : Draft.readDictionary reader value.draft = .ok dictionary) :
    ∃ members entries, value = .object members ∧ dictionary = .ofList entries ∧
      List.Forall₂ (fun member entry => member.1 = entry.1 ∧ reader member.2.draft = .ok entry.2)
        members entries := by
  cases value with
  | object members =>
      simp only [Value.draft, Draft.readDictionary, bind_eq_ok_iff,
        readMembers_draftMembers_eq_ok_iff] at read
      rcases read with ⟨entries, related, _, _, same⟩
      cases same
      exact ⟨members, entries, rfl, rfl, related⟩
  | null | boolean | number | string | array => contradiction

/-- A dictionary of what is accepted is accepted. -/
theorem Accepts.dictionary (accepts : Accepts reader form shape) :
    Accepts (Draft.readDictionary reader)
      (fun dictionary =>
        .object (dictionary.entries.map fun entry => (entry.1, form entry.2)))
      (.dictionary shape) where
  reads {value} has := by
    cases has with
    | @dictionary _ members each =>
      obtain ⟨entries, related⟩ : ∃ entries : List (String × α),
          List.Forall₂ (fun member entry => member.1 = entry.1 ∧
            reader member.2.draft = .ok entry.2 ∧ Restates shape member.2 (form entry.2))
            members entries := by
        refine exists_forall₂_iff.mpr fun member listed => ?_
        rcases accepts.reads (each member listed) with ⟨result, read, restates⟩
        exact ⟨(member.1, result), rfl, read, restates⟩
      have read := readMembers_draftMembers_eq_ok_iff.mpr
        (related.imp fun _ _ all => ⟨all.1, all.2.1⟩)
      refine ⟨.ofList entries, ?_, .dictionary ?_ ?_⟩
      · simp only [Value.draft, Draft.readDictionary, read]
        rfl
      · rw [List.map_map, keys_eq_of_forall₂ (R := fun _ member entry =>
          reader member.draft = .ok entry ∧ Restates shape member (form entry)) related]
        exact Dictionary.keys_ofList entries
      · intro key old new found again
        rw [lookup_map] at again
        rcases Option.map_eq_some_iff.mp again with ⟨result, listed, rfl⟩
        have last : entries.reverse.lookup key = some result := by
          rw [← Dictionary.get?_ofList]
          exact listed
        have reversed := List.forall₂_reverse_iff.mpr
          (related.imp fun _ _ all => And.intro all.1 all.2.2)
        exact rel_of_lookup (R := fun _ old entry => Restates shape old (form entry))
          reversed found last
  hasShape {value results} objects read := by
    rcases readDictionary_eq_ok read with ⟨members, entries, rfl, rfl, related⟩
    cases objects with
    | dictionary inner =>
      refine .dictionary fun member listed => ?_
      rcases exists_forall₂_iff.mp ⟨entries, related⟩ member listed with ⟨entry, -, here⟩
      exact accepts.hasShape (inner members rfl member listed) here

/-! ## Records -/

/-- Whether a check passes exactly the values of a shape, if their records are objects. -/
structure Checks (check : Draft → Except ReadError Unit) (shape : Shape) : Prop where
  passes : ∀ {value : Value}, HasShape shape value → check value.draft = .ok ()
  hasShape : ∀ {value : Value}, RecordsAsObjects shape value → check value.draft = .ok () →
    HasShape shape value

theorem Accepts.checks (accepts : Accepts reader form shape) :
    Checks (Schema.passes reader) shape where
  passes {value} has := by
    rcases accepts.reads has with ⟨result, read, _⟩
    rw [Schema.passes, read]
    rfl
  hasShape {value} objects passed := by
    cases read : reader value.draft with
    | ok result => exact accepts.hasShape objects read
    | error error =>
        rw [Schema.passes, read] at passed
        contradiction

/-- What a schema makes, and how that is spelled: something holds of every record and the
members that are written for it. -/
abbrev Spelling (α : Type) := (α → List (String × Value) → Prop) → Prop

/-- Whether a value restates the tree under a name, if that is the draft of a value. -/
def RestatesTree (tree? : String → Option Draft) (name : String) (shape : Shape)
    (new : Value) : Prop :=
  ∀ old : Value, tree? name = some old.draft → Restates shape old new

/-- Whether a schema makes records of given fields: it checks each by its shape, wants each,
and if every tree has the shape of its field, it makes a record, whose members restate the
trees one by one. -/
structure Fills (schema : Schema Draft ReadError α) (fields : List (String × Shape))
    (spelling : Spelling α) : Prop where
  checks : List.Forall₂ (fun checked field => checked.1 = field.1 ∧ Checks checked.2 field.2)
    schema.fields fields
  wants : ∀ {tree? : String → Option Draft} {missing : String → ReadError} {record : α},
    schema.fill tree? missing = .ok record → ∀ field ∈ fields, (tree? field.1).isSome
  fills : ∀ (tree? : String → Option Draft) (missing : String → ReadError),
    (∀ field ∈ fields, ∃ value : Value,
      tree? field.1 = some value.draft ∧ HasShape field.2 value) →
    ∃ record members, schema.fill tree? missing = .ok record ∧
      (∀ holds, spelling holds → holds record members) ∧
      List.Forall₂ (fun field member => field.1 = member.1 ∧
        RestatesTree tree? field.1 field.2 member.2) fields members

theorem draft_inj {first second : Value} : first.draft = second.draft ↔ first = second :=
  ⟨fun same => Option.some.inj (by rw [← value?_draft first, same, value?_draft]),
    congrArg Value.draft⟩

theorem Fills.required (accepts : Accepts reader form shape) (name : String) :
    Fills (.required name reader) [(name, shape)]
      fun holds => ∀ value, holds value [(name, form value)] where
  checks := .cons ⟨rfl, accepts.checks⟩ .nil
  wants {tree? missing record} filled field listed := by
    rw [List.mem_singleton.mp listed]
    cases found : tree? name with
    | some tree => rfl
    | none =>
        simp only [Schema.required, found] at filled
        contradiction
  fills tree? missing present := by
    rcases present (name, shape) (List.mem_singleton_self _) with ⟨value, found, has⟩
    rcases accepts.reads has with ⟨result, read, restates⟩
    refine ⟨result, [(name, form result)], ?_, fun holds all => all result, ?_⟩
    · simp only [Schema.required, found, read]
    · refine .cons ⟨rfl, fun other again => ?_⟩ .nil
      rw [found, Option.some.injEq, draft_inj] at again
      exact again ▸ restates

theorem Fills.constant (value : α) :
    Fills (pure value : Schema Draft ReadError α) [] fun holds => holds value [] where
  checks := .nil
  wants _ _ listed := absurd listed List.not_mem_nil
  fills _ _ _ := ⟨value, [], rfl, fun _ all => all, .nil⟩

/-- The fields of one record before those of another. -/
theorem Fills.apply {functions : Schema Draft ReadError (α → β)}
    {arguments : Schema Draft ReadError α} {front back : List (String × Shape)}
    {first : Spelling (α → β)} {second : Spelling α} (before : Fills functions front first)
    (after : Fills arguments back second) :
    Fills (functions <*> arguments) (front ++ back) fun holds =>
      first fun function begun => second fun argument rest =>
        holds (function argument) (begun ++ rest) where
  checks := List.rel_append before.checks after.checks
  wants {tree? missing record} filled field listed := by
    change (Schema.apply functions arguments).fill tree? missing = _ at filled
    simp only [Schema.apply, bind_eq_ok_iff] at filled
    rcases filled with ⟨function, begun, argument, rest, _⟩
    rcases List.mem_append.mp listed with left | right
    · exact before.wants begun field left
    · exact after.wants rest field right
  fills tree? missing present := by
    rcases before.fills tree? missing fun field left =>
      present field (List.mem_append_left back left) with ⟨function, begun, made, spelled, restated⟩
    rcases after.fills tree? missing fun field right =>
      present field (List.mem_append_right front right) with
      ⟨argument, rest, alsoMade, alsoSpelled, alsoRestated⟩
    refine ⟨function argument, begun ++ rest, ?_, ?_, List.rel_append restated alsoRestated⟩
    · change (Schema.apply functions arguments).fill tree? missing = _
      simp only [Schema.apply, made, alsoMade]
      rfl
    · exact fun holds all => alsoSpelled _ (spelled _ all)

theorem Fills.map {schema : Schema Draft ReadError α} {fields : List (String × Shape)}
    {spelling : Spelling α} (fills : Fills schema fields spelling) (function : α → β) :
    Fills (function <$> schema) fields fun holds =>
      spelling fun record members => holds (function record) members :=
  (Fills.constant function).apply fills

theorem lookup_draftMembers {members : List (String × Value)}
    (nodup : (members.map Prod.fst).Nodup) {key : String} {value : Value}
    (listed : (key, value) ∈ members) :
    (draftMembers members).lookup key = some value.draft := by
  rw [draftMembers_eq_map, lookup_map, lookup_of_mem nodup listed]
  rfl

section Record

variable {schema : Schema Draft ReadError α} {fields : List (String × Shape)}
  {spelling : Spelling α} (fills : Fills schema fields spelling)

include fills

theorem Fills.names_eq : schema.names = fields.map Prod.fst :=
  keys_eq_of_forall₂ (R := fun _ => Checks) fills.checks

variable (nodup : (fields.map Prod.fst).Nodup)

include nodup

theorem Fills.exists_check {field : String × Shape} (listed : field ∈ fields) :
    ∃ check, schema.check? field.1 = some check ∧ Checks check field.2 :=
  exists_rel_of_lookup (R := fun _ => Checks) fills.checks (lookup_of_mem nodup listed)

/-- The members of a record of the right shape are made into a record, which restates
them. -/
theorem Fills.exists_read {members : List (String × Value)} (name : String)
    (has : HasShape (.record fields) (.object members)) :
    ∃ record written, Draft.readRecord name schema (Value.object members).draft = .ok record ∧
      (∀ holds, spelling holds → holds record written) ∧
      Restates (.record fields) (.object members) (.object written) := by
  rcases has with _ | _ | _ | ⟨keys, each⟩
  have distinct : (members.map Prod.fst).Nodup := keys.nodup_iff.mpr nodup
  have checked : Draft.checkMembers schema [] (draftMembers members) = .ok () := by
    refine (checkMembers_eq_ok_iff List.nodup_nil).mpr ⟨distinct, fun member listed => ?_⟩
    rcases List.mem_map.mp (keys.subset (List.mem_map_of_mem listed)) with
      ⟨field, declared, same⟩
    rcases fills.exists_check nodup declared with ⟨check, known, checks⟩
    exact ⟨check, same ▸ known, checks.passes (each member listed field declared same.symm)⟩
  have present : ∀ field ∈ fields, ∃ value : Value,
      (draftMembers members).lookup field.1 = some value.draft ∧ HasShape field.2 value := by
    intro field declared
    rcases List.mem_map.mp (keys.symm.subset (List.mem_map_of_mem declared)) with
      ⟨⟨key, value⟩, listed, rfl⟩
    exact ⟨value, lookup_draftMembers distinct listed, each _ listed field declared rfl⟩
  rcases fills.fills (fun name => (draftMembers members).lookup name)
    (fun field => .data (.missingField field)) present with
    ⟨record, written, made, holds, restated⟩
  have order : written.map Prod.fst = fields.map Prod.fst :=
    (keys_eq_of_forall₂ restated).symm
  refine ⟨record, written, ?_, holds, .record keys order ?_⟩
  · simp only [Value.draft, Draft.readRecord, checked, Schema.fillNamed, made]
    rfl
  · intro field declared old new before after
    exact rel_of_lookup restated (lookup_of_mem nodup declared)
      (lookup_of_mem (order ▸ nodup) after) old (lookup_draftMembers distinct before)

/-- The members that are made into a record have each of its fields once and nothing
else. -/
theorem Fills.keys_perm {members : List (String × Value)} {missing : String → ReadError}
    {record : α} (checked : Draft.checkMembers schema [] (draftMembers members) = .ok ())
    (filled : schema.fillNamed (draftMembers members) missing = .ok record) :
    (members.map Prod.fst).Perm (fields.map Prod.fst) := by
  rcases (checkMembers_eq_ok_iff List.nodup_nil).mp checked with ⟨distinct, passes⟩
  rw [List.nil_append] at distinct
  rw [List.perm_ext_iff_of_nodup distinct nodup]
  intro key
  constructor
  · intro present
    rcases List.mem_map.mp present with ⟨member, listed, rfl⟩
    rcases passes member listed with ⟨check, known, _⟩
    rw [← fills.names_eq]
    exact List.mem_map_of_mem (Dictionary.mem_of_lookup known)
  · intro wanted
    rcases List.mem_map.mp wanted with ⟨field, declared, rfl⟩
    rcases Option.isSome_iff_exists.mp (fills.wants filled field declared) with ⟨tree, found⟩
    have listed := Dictionary.mem_of_lookup found
    rw [draftMembers_eq_map] at listed
    rcases List.mem_map.mp listed with ⟨member, given, same⟩
    rw [← (Prod.mk.inj same).1]
    exact List.mem_map_of_mem given

/-- A record whose fields have different names is accepted when its schema makes it of
fields whose shapes are accepted, and the members that restate them are those of its form. -/
theorem Accepts.record {members : α → List (String × Value)}
    (spelled : spelling fun record written => written = members record) (name : String) :
    Accepts (Draft.readRecord name schema) (fun record => .object (members record))
      (.record fields) where
  reads {value} has := by
    cases has with
    | record keys each =>
      rcases fills.exists_read nodup name (.record keys each) with
        ⟨record, written, read, holds, restates⟩
      obtain rfl : written = members record := holds _ spelled
      exact ⟨record, read, restates⟩
  hasShape {value record} objects read := by
    cases objects with
    | record noArray inner =>
      cases value with
      | object given =>
          simp only [Value.draft, Draft.readRecord, bind_eq_ok_iff] at read
          rcases read with ⟨_, checked, _, _, filled⟩
          refine .record (fills.keys_perm nodup checked filled) ?_
          intro member listed field declared same
          rcases ((checkMembers_eq_ok_iff List.nodup_nil).mp checked).2 member listed with
            ⟨check, known, passed⟩
          rcases fills.exists_check nodup declared with ⟨other, again, checks⟩
          rw [same, again] at known
          cases known
          exact checks.hasShape (inner given rfl member listed field declared same) passed
      | array items => exact absurd rfl (noArray items)
      | null | boolean | number | string => contradiction

end Record

end Inset.Json
