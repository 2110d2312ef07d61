import Inset.Manifest.Toml
import Inset.Proofs.Toml.Keys

/-!
# The layout of manifests

How the data of a manifest is laid out does not matter: two texts with the same data give the
same manifest, or the same configuration error, or are both refused as data
(`Manifest.ofToml_ignores_layout`).  And no key of an accepted manifest is passed over.
-/

namespace Inset

open Data

/-! ## Kinds -/

theorem HostKind.toOption_choose (name : String) (place place' : Option Span) :
    (HostKind.choose name place).toOption = (HostKind.choose name place').toOption := by
  rw [HostKind.choose, HostKind.choose]
  cases HostKind.ofName? name <;> rfl

theorem HostKind.checkPayload_ignoresLayout :
    IgnoresLayout (HostKind.checkPayload .toml) := by
  intro node node' both
  cases both.same with
  | scalar => rfl
  | list each => cases each <;> rfl
  | @table entries _ entries' =>
      have lengths := both.length_eq
      cases entries <;> cases entries' <;> first | rfl | contradiction

theorem HostKind.read_ignoresLayout : IgnoresLayout (HostKind.read .toml) := by
  intro node node' both
  cases both.same with
  | scalar value place place' =>
      cases value with
      | text name => exact HostKind.toOption_choose name place place'
      | _ => rfl
  | list => rfl
  | @table entries _ entries' _ _ _ place place' =>
      have lengths := both.length_eq
      match entries, entries', lengths with
      | [], [], _ => rfl
      | [(label, payload)], [(label', payload')], _ =>
          rcases both.entry with ⟨same, inner⟩
          simp only [HostKind.read, toOption_bind]
          rw [same, HostKind.toOption_choose _ label.place label'.place,
            HostKind.checkPayload_ignoresLayout inner]
      | _ :: _ :: _, _ :: _ :: _, _ => rfl

/-! ## Records -/

theorem Embedded.read_ignoresLayout : IgnoresLayout (Embedded.read .toml) := by
  apply IgnoresLayout.record
  exact (SchemaIgnoresLayout.required (.text .toml) "name").map Embedded.mk
    |>.apply (.required (.text .toml) "id_choice_re")
    |>.apply (.required (.text .toml) "vsname")
    |>.apply (.required (.text .toml) "root_scope")

theorem HostEntry.read_ignoresLayout : IgnoresLayout (HostEntry.read .toml) := by
  have scopes := ((IgnoresLayout.text .toml).list .toml).option
  apply IgnoresLayout.record
  exact (SchemaIgnoresLayout.required HostKind.read_ignoresLayout "kind").map HostEntry.mk
    |>.apply (.required (.text .toml) "vsname")
    |>.apply (.required (.text .toml) "embedded_scope")
    |>.apply (.required (.path .toml) "output")
    |>.apply (.optional scopes "inject_to" none)

theorem Manifest.read_ignoresLayout : IgnoresLayout (Manifest.read .toml) := by
  apply IgnoresLayout.record
  exact (SchemaIgnoresLayout.optional (IgnoresLayout.path .toml).option "contributes" none).map
      Manifest.mk
    |>.apply (.optional (HostEntry.read_ignoresLayout.list .toml) "host" [])
    |>.apply (.optional (Embedded.read_ignoresLayout.list .toml) "embedded" [])

/-! ## Keys -/

/-- Whether the keys of a manifest, of its hosts and of its languages are all declared. -/
structure Data.Node.HasDeclaredKeys (node : Node) : Prop where
  manifest : node.keys ⊆ ["contributes", "host", "embedded"]
  hosts : ∀ host ∈ node.itemsUnder "host",
    host.keys ⊆ ["kind", "vsname", "embedded_scope", "output", "inject_to"]
  embedded : ∀ language ∈ node.itemsUnder "embedded",
    language.keys ⊆ ["name", "id_choice_re", "vsname", "root_scope"]

theorem Manifest.hasDeclaredKeys_of_read {node : Node} {manifest : Manifest}
    (read : Manifest.read .toml node = .ok manifest) : node.HasDeclaredKeys where
  manifest := keys_subset_of_readRecord read
  hosts host listed := by
    rcases exists_of_mem_itemsUnder read rfl listed with ⟨entry, part⟩
    exact keys_subset_of_readRecord part
  embedded language listed := by
    rcases exists_of_mem_itemsUnder read rfl listed with ⟨entry, part⟩
    exact keys_subset_of_readRecord part

/-! ## Texts -/

/-- Whether two results are the same but for the report on data that is no manifest. -/
inductive SameOutcome : Except ManifestError Manifest → Except ManifestError Manifest → Prop
  | ok (manifest : Manifest) : SameOutcome (.ok manifest) (.ok manifest)
  | configuration (error : ConfigurationError) :
      SameOutcome (.error (.configuration error)) (.error (.configuration error))
  | data (report report' : String) :
      SameOutcome (.error (.data report)) (.error (.data report'))

/-- Texts with the same data have the same outcome, and an accepted manifest has no key that
is not declared. -/
theorem Manifest.ofToml_ignores_layout {text : String} {node : Node}
    (read : Toml.readNode text.toList = .ok node) :
    (∀ (text' : String) (node' : Node), Toml.readNode text'.toList = .ok node' →
      SameData node node' → SameOutcome (Manifest.ofToml text) (Manifest.ofToml text')) ∧
    ∀ manifest, Manifest.ofToml text = .ok manifest → node.HasDeclaredKeys := by
  constructor
  · intro text' node' read' same
    have both : Matches node node' := ⟨same, Toml.hasDistinctKeys_of_readNode read,
      Toml.hasDistinctKeys_of_readNode read'⟩
    have agree := Manifest.read_ignoresLayout both
    simp only [Manifest.ofToml, read, read']
    cases first : Manifest.read .toml node with
    | error misfit =>
        cases second : Manifest.read .toml node' with
        | error misfit' => exact .data _ _
        | ok manifest =>
            rw [first, second] at agree
            contradiction
    | ok manifest =>
        rw [first] at agree
        rw [toOption_eq_some_iff.mp agree.symm]
        cases accepted : manifest.validate with
        | error error =>
            simp only [accepted]
            exact .configuration error
        | ok _ =>
            simp only [accepted]
            exact .ok manifest
  · intro manifest accepted
    simp only [Manifest.ofToml, read] at accepted
    split at accepted
    · contradiction
    · next made => exact Manifest.hasDeclaredKeys_of_read made

/-- A manifest with headers for its host and for the kind of the host. -/
def headedText : String :=
  "contributes='c'\n[[host]]\nvsname='v'\nembedded_scope='s'\noutput=\"o\"\n[host.kind.go]"

/-- The same manifest in braces and with a dotted key, in another order. -/
def bracedText : String :=
  "host=[\x7boutput='o', kind.go=\x7b\x7d, embedded_scope='s', vsname='v'\x7d] # one\n" ++
    "contributes = \"c\""

theorem exists_nodes_of_agrees (text text' : String)
    (agrees : ((Toml.readNode text.toList).toOption.any fun node =>
      (Toml.readNode text'.toList).toOption.any node.agrees) = true) :
    ∃ node node', Toml.readNode text.toList = .ok node ∧
      Toml.readNode text'.toList = .ok node' ∧ SameData node node' := by
  rcases (Option.any_eq_true _ _).mp agrees with ⟨node, read, inner⟩
  rcases (Option.any_eq_true _ _).mp inner with ⟨node', read', same⟩
  exact ⟨node, node', toOption_eq_some_iff.mp read, toOption_eq_some_iff.mp read',
    .of_agrees same⟩

theorem ofToml_ignores_layout_braced : ∃ node node',
    Toml.readNode headedText.toList = .ok node ∧
      Toml.readNode bracedText.toList = .ok node' ∧ SameData node node' ∧
      SameOutcome (Manifest.ofToml headedText) (Manifest.ofToml bracedText) ∧
      Manifest.ofToml headedText =
        .ok ⟨some ⟨"c"⟩, [⟨.go, "v", "s", ⟨"o"⟩, none⟩], []⟩ ∧
      node.HasDeclaredKeys := by
  have accepted : Manifest.ofToml headedText =
      .ok ⟨some ⟨"c"⟩, [⟨.go, "v", "s", ⟨"o"⟩, none⟩], []⟩ := by decide +kernel
  rcases exists_nodes_of_agrees headedText bracedText (by decide +kernel)
    with ⟨node, node', read, read', same⟩
  rcases Manifest.ofToml_ignores_layout read with ⟨outcome, declared⟩
  exact ⟨node, node', read, read', same, outcome _ node' read' same, accepted,
    declared _ accepted⟩

end Inset
