import Inset.Proofs.Manifest.Layout
import Inset.Proofs.Toml.PlainTree

/-!
# Manifests written down

A manifest is written as a plain document: the fragment if there is one, then a table for
each host and for each embedded language, in their order.  An accepted manifest is read
back from its text (`Manifest.ofToml_toml`).
-/

namespace Inset

open Data (Node)
open Toml (tableNode textNode)

/-! ## The canonical text -/

/-- The table of a host. -/
def HostEntry.table (entry : HostEntry) : Toml.Table where
  fields :=
    [("kind", .text entry.kind.name), ("vsname", .text entry.id),
      ("embedded_scope", .text entry.scope), ("output", .text entry.output.text)] ++
    (entry.injectTo.map fun scopes => ("inject_to", .texts scopes)).toList
  bare := by
    cases entry.injectTo <;> simp <;> decide
  nodup := by
    cases entry.injectTo <;> simp

/-- The table of an embedded language. -/
def Embedded.table (language : Embedded) : Toml.Table where
  fields :=
    [("name", .text language.name), ("id_choice_re", .text language.tags),
      ("vsname", .text language.id), ("root_scope", .text language.rootScope)]
  bare := by simp; decide
  nodup := by simp

/-- The document of a manifest. -/
def Manifest.plainDocument (manifest : Manifest) : Toml.PlainDocument where
  table :=
    { fields := (manifest.contributes.map fun path => ("contributes", .text path.text)).toList
      bare := by cases manifest.contributes <;> simp; decide
      nodup := by cases manifest.contributes <;> simp }
  arrays :=
    [("host", manifest.hosts.map HostEntry.table),
      ("embedded", manifest.embedded.map Embedded.table)]
  bare := by simp; decide
  nodup := by cases manifest.contributes <;> simp

/-- The canonical text of a manifest. -/
def Manifest.toml (manifest : Manifest) : String :=
  String.ofList manifest.plainDocument.chars

/-! ## Records read back -/

section Records

open Data (Misfit NodeReader Schema)

variable {α β : Type} {tree? : String → Option Node} {read : NodeReader α}

/-- Whether what is found under the names of fields tells a record of a schema: every field
that is there passes, and together they give the record. -/
structure Tells (tree? : String → Option Node) (schema : Schema Node Misfit α) (record : α) :
    Prop where
  passes : ∀ field ∈ schema.fields, ∀ node, tree? field.1 = some node → field.2 node = .ok ()
  fills : ∀ missing, schema.fill tree? missing = .ok record

/-- A field that is read back passes. -/
theorem passes_of_found {name : String} {node : Node} (found : tree? name = some node)
    {value : α} (undone : read node = .ok value) :
    ∀ field ∈ [(name, Schema.passes read)], ∀ node', tree? field.1 = some node' →
      field.2 node' = .ok () := by
  intro field listed node' found'
  obtain rfl := List.mem_singleton.mp listed
  obtain rfl := Option.some.inj (found.symm.trans found')
  simp only [Schema.passes, undone]
  rfl

namespace Tells

theorem required {name : String} {node : Node} (found : tree? name = some node) {value : α}
    (undone : read node = .ok value) : Tells tree? (.required name read) value where
  passes := passes_of_found found undone
  fills missing := by simp only [Schema.required, found, undone]

theorem present {name : String} {node : Node} (found : tree? name = some node) {value : α}
    (undone : read node = .ok value) (default : α) :
    Tells tree? (.optional name default read) value where
  passes := passes_of_found found undone
  fills missing := by simp only [Schema.optional, found, undone]

theorem absent {name : String} (found : tree? name = none) (default : α) :
    Tells tree? (.optional name default read) default where
  passes field listed node' found' := by
    obtain rfl := List.mem_singleton.mp listed
    rw [found] at found'
    contradiction
  fills missing := by simp only [Schema.optional, found]

theorem apply {functions : Schema Node Misfit (α → β)} {arguments : Schema Node Misfit α}
    {function : α → β} {argument : α} (first : Tells tree? functions function)
    (second : Tells tree? arguments argument) :
    Tells tree? (functions <*> arguments) (function argument) where
  passes field listed :=
    (List.mem_append.mp listed).elim (first.passes field) (second.passes field)
  fills missing := by
    change (Schema.apply functions arguments).fill tree? missing = _
    simp only [Schema.apply, first.fills, second.fills]
    rfl

theorem map {schema : Schema Node Misfit α} {record : α} (tells : Tells tree? schema record)
    (function : α → β) : Tells tree? (function <$> schema) (function record) :=
  have constant : Tells tree? (pure function : Schema Node Misfit (α → β)) function :=
    ⟨fun _ listed => absurd listed List.not_mem_nil, fun _ => rfl⟩
  constant.apply tells

/-- A record whose entries are fields under different names is read. -/
theorem readRecord {schema : Schema Node Misfit α} {entries : List (String × Node)} {record : α}
    (tells : Tells (fun name => entries.lookup name) schema record)
    (known : entries.map Prod.fst ⊆ schema.names) (nodup : (entries.map Prod.fst).Nodup)
    (format : Data.Format) (name : String) :
    Node.readRecord format name schema (tableNode entries) = .ok record := by
  have same : Data.named (entries.map fun entry => (⟨entry.1, none⟩, entry.2)) = entries := by
    rw [Data.named, List.map_map]
    exact List.map_id _
  refine Data.bind_eq_ok_iff.mpr ⟨(), Data.checkEntries_eq_ok_iff.mpr ?_, ?_⟩
  · rw [same]
    rintro ⟨key, node⟩ listed
    rcases List.mem_map.mp (known (List.mem_map_of_mem listed)) with ⟨field, isField, same⟩
    have found : (schema.fields.lookup key).isSome :=
      List.lookup_isSome_iff.mpr ⟨field, isField, beq_iff_eq.mpr same.symm⟩
    rcases Option.isSome_iff_exists.mp found with ⟨check, found⟩
    exact ⟨check, found, tells.passes (key, check) (Dictionary.mem_of_lookup found) node
      (Data.lookup_of_mem nodup listed)⟩
  · rw [Data.named] at same
    simp only [same, Schema.fillNamed, tells.fills]

end Tells

end Records

section Lists

variable {α : Type} {read : Data.NodeReader α} {form : α → Node}
  (undone : ∀ value, read (form value) = .ok value)

include undone

/-- A list of what is read back is read back. -/
theorem readList_map (format : Data.Format) (values : List α) :
    Node.readList format read (.list (values.map form) none) = .ok values := by
  apply Data.mapM_eq_ok_iff.mpr
  rw [List.forall₂_map_left_iff]
  exact List.forall₂_same.mpr fun value _ => undone value

theorem readOption_readList_map (format : Data.Format) (values : List α) :
    Node.readOption (Node.readList format read) (.list (values.map form) none) =
      .ok (some values) := by
  rw [Node.readOption, readList_map undone]
  · rfl
  · simp

end Lists

/-- The tables of what is read back are read back. -/
theorem readList_map_table {α : Type} {read : Data.NodeReader α} {form : α → Toml.Table}
    (undone : ∀ value, read (form value).node = .ok value) (format : Data.Format)
    (values : List α) : Node.readList format read
      (.list ((values.map form).map Toml.Table.node) none) = .ok values := by
  rw [List.map_map]
  exact readList_map undone format values

theorem readText_textNode (format : Data.Format) (value : String) :
    Node.readText format (textNode value) = .ok value :=
  rfl

theorem HostKind.read_textNode (format : Data.Format) (kind : HostKind) :
    HostKind.read format (textNode kind.name) = .ok kind := by
  simp only [HostKind.read, textNode, HostKind.choose, HostKind.ofName?_name]

theorem Embedded.read_table (language : Embedded) :
    Embedded.read .toml language.table.node = .ok language := by
  have text := readText_textNode .toml
  refine Tells.readRecord ?_ (List.Subset.refl _) language.table.nodup_entries _ _
  exact .apply (.apply (.apply (.map (.required rfl (text _)) _) (.required rfl (text _)))
    (.required rfl (text _))) (.required rfl (text _))

theorem HostEntry.read_table (entry : HostEntry) :
    HostEntry.read .toml entry.table.node = .ok entry := by
  rcases entry with ⟨kind, id, scope, output, injectTo⟩
  have text := readText_textNode .toml
  refine Tells.readRecord ?_ ?_ (HostEntry.table _).nodup_entries _ _
  · refine .apply (.apply (.apply (.apply (.map (.required rfl ?_) _)
      (.required rfl (text _))) (.required rfl (text _))) (.required rfl rfl)) ?_
    · exact HostKind.read_textNode .toml kind
    · cases injectTo with
      | none => exact .absent rfl _
      | some scopes => exact .present rfl (readOption_readList_map text _ scopes) _
  · rw [Toml.Table.map_fst_entries]
    cases injectTo with
    | none => exact List.subset_append_left _ ["inject_to"]
    | some scopes => exact List.Subset.refl _

theorem Manifest.read_plainDocument (manifest : Manifest) :
    Manifest.read .toml manifest.plainDocument.node = .ok manifest := by
  rcases manifest with ⟨contributes, hosts, embedded⟩
  refine Tells.readRecord ?_ ?_ (Manifest.plainDocument _).nodup_entries _ _
  · refine .apply (.apply (.map ?_ _) ?_) ?_
    · cases contributes with
      | none => cases hosts <;> cases embedded <;> exact .absent rfl _
      | some path =>
          have undone : Node.readOption (Node.readPath .toml) (textNode path.text) =
            .ok (some path) := rfl
          exact .present rfl undone _
    · cases hosts with
      | nil => cases contributes <;> cases embedded <;> exact .absent rfl _
      | cons host hosts =>
          have all := readList_map_table HostEntry.read_table .toml (host :: hosts)
          cases contributes <;> exact .present rfl all _
    · cases embedded with
      | nil => cases contributes <;> cases hosts <;> exact .absent rfl _
      | cons language embedded =>
          have all := readList_map_table Embedded.read_table .toml (language :: embedded)
          cases contributes <;> cases hosts <;> exact .present rfl all _
  · apply List.Subset.trans (Manifest.plainDocument _).map_fst_entries_sublist.subset
    cases contributes with
    | none => exact List.subset_cons_self _ _
    | some path => exact List.Subset.refl _

/-! ## Texts read back -/

/-- What is written for a manifest is read as the manifest, and then accepted or not. -/
theorem Manifest.exists_readNode_toml (manifest : Manifest) : ∃ node,
    Toml.readNode manifest.toml.toList = .ok node ∧
      Manifest.read .toml node = .ok manifest := by
  rcases manifest.plainDocument.exists_readNode with ⟨node, read, same⟩
  have both : Data.Matches node manifest.plainDocument.node :=
    ⟨same, Toml.hasDistinctKeys_of_readNode read, manifest.plainDocument.hasDistinctKeys_node⟩
  refine ⟨node, by rw [toml, String.toList_ofList, read], ?_⟩
  rw [← Data.toOption_eq_some_iff, Manifest.read_ignoresLayout both, manifest.read_plainDocument]
  rfl

/-- An accepted manifest is read back from its canonical text. -/
theorem Manifest.ofToml_toml {manifest : Manifest} (accepted : manifest.validate = .ok ()) :
    Manifest.ofToml manifest.toml = .ok manifest := by
  rcases manifest.exists_readNode_toml with ⟨node, read, made⟩
  simp only [Manifest.ofToml, read, made, accepted]

/-- A manifest with quotation marks, backslashes and control characters, with no scopes for
one host and none given for the other. -/
def spikyManifest : Manifest where
  contributes := some ⟨"\x7f"⟩
  hosts := [⟨.go, "\"", "\\u0041", ⟨"a\nb"⟩, some []⟩, ⟨.go, "#'é", "]", ⟨"="⟩, none⟩]
  embedded := [⟨"\x00", "a|b", "\"\"\"", "\\"⟩]

theorem Manifest.ofToml_toml_spiky : spikyManifest.validate = .ok () ∧
    Manifest.ofToml spikyManifest.toml = .ok spikyManifest :=
  have accepted : spikyManifest.validate = .ok () := by decide +kernel
  ⟨accepted, Manifest.ofToml_toml accepted⟩

example : (⟨some ⟨"c"⟩, [⟨.go, "\"", "\\", ⟨"\n"⟩, some ["x", "y"]⟩],
    [⟨"n", "t", "v", "r"⟩]⟩ : Manifest).toml =
      "contributes = \"c\"\n" ++
      "[[host]]\nkind = \"go\"\nvsname = \"\\\"\"\nembedded_scope = \"\\\\\"\n" ++
      "output = \"\\u000a\"\ninject_to = [\"x\", \"y\"]\n" ++
      "[[embedded]]\nname = \"n\"\nid_choice_re = \"t\"\nvsname = \"v\"\nroot_scope = \"r\"\n" := by
  decide +kernel

end Inset
