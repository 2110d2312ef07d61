import Inset.Json.Record
import Inset.Proofs.Data.Entries
import Inset.Proofs.Json.RoundTrip

/-!
# Records read back

A reader undoes a form when it finds everything again that the form writes down.
Lists and dictionaries inherit this from what they hold (`Undoes.list`,
`Undoes.dictionary`), and a record from its fields (`Undoes.record`), which are
compared one by one with the schema that reads them (`Spells`).
-/

namespace Inset.Json

open Data (Schema bind_eq_ok_iff lookup_of_mem mapM_eq_ok_iff)

variable {α β : Type}

/-- Whether a reader finds everything again that a form writes down. -/
structure Undoes (reader : DraftReader α) (form : α → Value) : Prop where
  numberless : ∀ value, (form value).IsNumberless
  reads : ∀ value, reader (form value).draft = .ok value

/-! ## Readers one after the other -/

theorem draftItems_eq_map (items : List Value) : draftItems items = items.map Value.draft := by
  induction items with
  | nil => rfl
  | cons item items ih => rw [draftItems, ih, List.map_cons]

theorem mapM_draftItems_eq_ok_iff {reader : DraftReader α} {items : List Value}
    {results : List α} :
    (draftItems items).mapM reader = .ok results ↔
      List.Forall₂ (fun item result => reader item.draft = .ok result) items results := by
  rw [draftItems_eq_map, mapM_eq_ok_iff, List.forall₂_map_left_iff]

theorem readMembers_draftMembers_eq_ok_iff {reader : DraftReader α}
    {members : List (String × Value)} {entries : List (String × α)} :
    Draft.readMembers reader (draftMembers members) = .ok entries ↔
      List.Forall₂ (fun member entry => member.1 = entry.1 ∧ reader member.2.draft = .ok entry.2)
        members entries := by
  induction members generalizing entries with
  | nil =>
      rw [List.forall₂_nil_left_iff]
      exact ⟨fun same => (Except.ok.inj same).symm, fun same => congrArg Except.ok same.symm⟩
  | cons member members ih =>
      simp only [List.forall₂_cons_left_iff, draftMembers, Draft.readMembers, bind_eq_ok_iff, ih]
      constructor
      · rintro ⟨result, first, others, rest, same⟩
        exact ⟨(member.1, result), others, ⟨rfl, first⟩, rest, (Except.ok.inj same).symm⟩
      · rintro ⟨⟨_, result⟩, others, ⟨rfl, first⟩, rest, rfl⟩
        exact ⟨result, first, others, rest, rfl⟩

/-! ## Texts, lists and dictionaries -/

theorem Undoes.text : Undoes Draft.readText .string where
  numberless text := .string text
  reads _ := rfl

theorem mapM_draftItems {reader : DraftReader α} {form : α → Value}
    (undoes : Undoes reader form) (values : List α) :
    (draftItems (values.map form)).mapM reader = .ok values := by
  rw [mapM_draftItems_eq_ok_iff, List.forall₂_map_left_iff, List.forall₂_same]
  exact fun value _ => undoes.reads value

/-- A list is read back when its items are. -/
theorem Undoes.list {reader : DraftReader α} {form : α → Value}
    (undoes : Undoes reader form) :
    Undoes (Draft.readList reader) fun values => .array (values.map form) where
  numberless values := by
    apply Value.IsNumberless.array
    intro item member
    rcases List.mem_map.mp member with ⟨value, _, rfl⟩
    exact undoes.numberless value
  reads values := by
    simp only [Value.draft, Draft.readList, mapM_draftItems undoes values]
    rfl

theorem readMembers_draftMembers {reader : DraftReader α} {form : α → Value}
    (undoes : Undoes reader form) (entries : List (String × α)) :
    Draft.readMembers reader
      (draftMembers (entries.map fun entry => (entry.1, form entry.2))) = .ok entries := by
  rw [readMembers_draftMembers_eq_ok_iff, List.forall₂_map_left_iff, List.forall₂_same]
  exact fun entry _ => ⟨rfl, undoes.reads entry.2⟩

/-- A dictionary is read back, in its order, when its values are. -/
theorem Undoes.dictionary {reader : DraftReader α} {form : α → Value}
    (undoes : Undoes reader form) :
    Undoes (Draft.readDictionary reader) fun dictionary =>
      .object (dictionary.entries.map fun entry => (entry.1, form entry.2)) where
  numberless dictionary := by
    apply Value.IsNumberless.object
    intro member listed
    rcases List.mem_map.mp listed with ⟨entry, _, rfl⟩
    exact undoes.numberless entry.2
  reads dictionary := by
    simp only [Value.draft, Draft.readDictionary,
      readMembers_draftMembers undoes dictionary.entries]
    exact congrArg Except.ok (Dictionary.ofList_entries dictionary)

/-! ## Records -/

/-- Whether the members of an object spell a record of a schema: they are its fields in
their order, each passes, and together they give the record. -/
structure Spells (members : List (String × Value)) (schema : Schema Draft ReadError α)
    (record : α) : Prop where
  numberless : ∀ member ∈ members, member.2.IsNumberless
  keys : members.map Prod.fst = schema.names
  passes : ∀ member ∈ members, ∃ check,
    (member.1, check) ∈ schema.fields ∧ check member.2.draft = .ok ()
  fills : ∀ (tree? : String → Option Draft) (missing : String → ReadError),
    (∀ member ∈ members, tree? member.1 = some member.2.draft) →
      schema.fill tree? missing = .ok record

theorem Spells.required {reader : DraftReader α} {form : α → Value}
    (undoes : Undoes reader form) (name : String) (value : α) :
    Spells [(name, form value)] (.required name reader) value where
  numberless := by simp [undoes.numberless]
  keys := rfl
  passes member listed := by
    rw [List.mem_singleton.mp listed]
    refine ⟨Schema.passes reader, List.mem_singleton.mpr rfl, ?_⟩
    simp only [Schema.passes, undoes.reads]
    rfl
  fills tree? missing found := by
    have here := found (name, form value) (List.mem_singleton.mpr rfl)
    simp only [Schema.required, here, undoes.reads]

/-- The members of one record before those of another. -/
theorem Spells.apply {front back : List (String × Value)}
    {functions : Schema Draft ReadError (α → β)} {arguments : Schema Draft ReadError α}
    {function : α → β} {argument : α} (first : Spells front functions function)
    (second : Spells back arguments argument) :
    Spells (front ++ back) (functions <*> arguments) (function argument) where
  numberless member listed := by
    rcases List.mem_append.mp listed with before | after
    · exact first.numberless member before
    · exact second.numberless member after
  keys := by
    rw [List.map_append, first.keys, second.keys]
    exact (List.map_append).symm
  passes member listed := by
    rcases List.mem_append.mp listed with before | after
    · rcases first.passes member before with ⟨check, field, passed⟩
      exact ⟨check, List.mem_append_left arguments.fields field, passed⟩
    · rcases second.passes member after with ⟨check, field, passed⟩
      exact ⟨check, List.mem_append_right functions.fields field, passed⟩
  fills tree? missing found := by
    have left := first.fills tree? missing fun member before =>
      found member (List.mem_append_left back before)
    have right := second.fills tree? missing fun member after =>
      found member (List.mem_append_right front after)
    change (Schema.apply functions arguments).fill tree? missing = _
    simp only [Schema.apply, left, right]
    rfl

theorem Spells.constant (value : α) :
    Spells [] (pure value : Schema Draft ReadError α) value where
  numberless _ listed := absurd listed List.not_mem_nil
  keys := rfl
  passes _ listed := absurd listed List.not_mem_nil
  fills _ _ _ := rfl

theorem Spells.map {members : List (String × Value)} {schema : Schema Draft ReadError α}
    {record : α} (spells : Spells members schema record) (function : α → β) :
    Spells members (function <$> schema) (function record) :=
  (Spells.constant function).apply spells

theorem draftMembers_eq_map (members : List (String × Value)) :
    draftMembers members = members.map fun member => (member.1, member.2.draft) := by
  induction members with
  | nil => rfl
  | cons member members ih => simp [draftMembers, ih]

/-- Members are accepted exactly if they are different fields and each passes. -/
theorem checkMembers_eq_ok_iff {schema : Schema Draft ReadError α}
    {members : List (String × Value)} {seen : List String} (distinct : seen.Nodup) :
    Draft.checkMembers schema seen (draftMembers members) = .ok () ↔
      (seen ++ members.map Prod.fst).Nodup ∧ ∀ member ∈ members, ∃ check,
        schema.check? member.1 = some check ∧ check member.2.draft = .ok () := by
  induction members generalizing seen with
  | nil => simp [draftMembers, Draft.checkMembers, distinct]
  | cons member members ih =>
      rcases member with ⟨key, value⟩
      rw [draftMembers, Draft.checkMembers, List.forall_mem_cons, List.map_cons,
        List.perm_middle.nodup_iff]
      cases known : schema.check? key with
      | none => simp
      | some check =>
          by_cases before : key ∈ seen
          · simp [before]
          · have others := ih (List.nodup_cons.mpr ⟨before, distinct⟩)
            rw [List.cons_append] at others
            cases passed : check value.draft with
            | error error => simp [before, passed]
            | ok => simp [before, passed, others]

/-- A record whose fields have different names is read back when it is spelled. -/
theorem Undoes.record {schema : Schema Draft ReadError α}
    {members : α → List (String × Value)} (nodup : schema.names.Nodup)
    (spells : ∀ record, Spells (members record) schema record) (name : String) :
    Undoes (Draft.readRecord name schema) fun record => .object (members record) where
  numberless record := .object (spells record).numberless
  reads record := by
    have distinct : ((members record).map Prod.fst).Nodup := by
      rw [(spells record).keys]
      exact nodup
    have checked : Draft.checkMembers schema [] (draftMembers (members record)) = .ok () := by
      refine (checkMembers_eq_ok_iff List.nodup_nil).mpr ⟨distinct, ?_⟩
      intro member listed
      rcases (spells record).passes member listed with ⟨check, field, passed⟩
      exact ⟨check, lookup_of_mem nodup field, passed⟩
    have filled : schema.fillNamed (draftMembers (members record))
        (fun field => .data (.missingField field)) = .ok record := by
      apply (spells record).fills
      intro member listed
      apply lookup_of_mem
      · rw [draftMembers_eq_map, List.map_map]
        exact distinct
      · rw [draftMembers_eq_map]
        exact List.mem_map.mpr ⟨member, listed, rfl⟩
    simp only [Value.draft, Draft.readRecord, checked, filled]
    rfl

/-! ## Whole texts -/

/-- A text that holds one value and nothing else is read as the value is. -/
theorem readWhole_of_read {reader : DraftReader α} {text : String} {value : Value}
    (written : read text.toList = (value.draft, none)) :
    readWhole reader text = reader value.draft := by
  simp only [readWhole, written]
  cases reader value.draft <;> rfl

/-- What a form writes down is the text of one value, also when blanks come after it. -/
theorem Undoes.read_text {reader : DraftReader α} {form : α → Value}
    (undoes : Undoes reader form) (value : α) {blanks : String}
    (blank : ∀ c ∈ blanks.toList, Reader.isBlank c = true) :
    read ((form value).text ++ blanks).toList = ((form value).draft, none) := by
  rw [String.toList_append, Value.text, String.toList_ofList]
  exact read_lines_append (undoes.numberless value) blank

/-- What a form writes down is read back as a whole text, also when blanks come after
it. -/
theorem Undoes.readWhole {reader : DraftReader α} {form : α → Value}
    (undoes : Undoes reader form) (value : α) {blanks : String}
    (blank : ∀ c ∈ blanks.toList, Reader.isBlank c = true) :
    readWhole reader ((form value).text ++ blanks) = .ok value := by
  rw [readWhole_of_read (undoes.read_text value blank), undoes.reads]

end Inset.Json
