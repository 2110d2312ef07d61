import Inset.Data.Node
import Inset.Data.Schema
import Inset.Manifest.Basic

/-!
# Reading manifests from data

A manifest is read from a tree of data of either format.  Records are written
as tables, or as lists of their fields in declaration order.  The entries of a
table are read in the order in which they are written, and only then are the
missing fields looked for, in declaration order.
-/

namespace Inset.Data

/-- Readers of nodes. -/
abbrev NodeReader (α : Type) := Node → Except Misfit α

namespace Node

variable {α : Type}

/-- Read a text. -/
def readText (format : Format) : NodeReader String
  | .scalar (.text value) _ => .ok value
  | node => node.refuse format .text

/-- Read a path. -/
def readPath (format : Format) : NodeReader Path
  | .scalar (.text value) _ => .ok ⟨value⟩
  | node => node.refuse format .path

/-- Read the items of a list. -/
def readList (format : Format) (read : NodeReader α) : NodeReader (List α)
  | .list items _ => items.mapM read
  | node => node.refuse format .list

/-- Read what may be null. -/
def readOption (read : NodeReader α) : NodeReader (Option α)
  | .scalar .null _ => .ok none
  | node => (read node).map some

/-- Check the entries of a record in the order in which they are written. -/
def checkEntries (schema : Schema Node Misfit α) : List (Label × Node) → Except Misfit Unit
  | [] => .ok ()
  | (label, node) :: rest =>
      match schema.check? label.name with
      | none => .error ⟨.unknownField label.name schema.names, label.place⟩
      | some check =>
          match check node with
          | .error misfit => .error misfit
          | .ok () => checkEntries schema rest

/-- The name under which a date stands when it is taken for a table. -/
def dateField : String := "$__toml_private_datetime"

/-- Read a record. -/
def readRecord (format : Format) (name : String) (schema : Schema Node Misfit α) : NodeReader α
  | .table entries place => do
      checkEntries schema entries
      schema.fillNamed (entries.map fun entry => (entry.1.name, entry.2))
        fun field => ⟨.missingField field, place⟩
  | .list items place => do
      let record ← schema.fillOrdered items
        ⟨.wrongLength items.length name schema.names.length, place⟩
      if format = .json ∧ schema.names.length < items.length then
        .error ⟨.surplusItems items.length, place⟩
      else .ok record
  | .scalar .date place => .error ⟨.unknownField dateField schema.names, place⟩
  | node => node.refuse format (.record name)

end Node

/-- The word for a scalar in a choice that wants a table. -/
def Scalar.word : Scalar → String
  | .null => "null"
  | .boolean _ => "boolean"
  | .integer _ | .hugeInteger => "integer"
  | .real _ | .hugeReal => "float"
  | .text _ => "string"
  | .date => "datetime"

end Inset.Data

namespace Inset

open Data

/-- The kind that a name chooses. -/
def HostKind.choose (name : String) (place : Option Span) : Except Misfit HostKind :=
  match HostKind.ofName? name with
  | some kind => .ok kind
  | none => .error ⟨.unknownVariant name (HostKind.all.map HostKind.name), place⟩

/-- Check what stands beside a chosen kind: in TOML an empty table or list, in
JSON null. -/
def HostKind.checkPayload : Format → NodeReader Unit
  | .toml, .list [] _ => .ok ()
  | .toml, .table [] _ => .ok ()
  | .toml, .list _ place => .error ⟨.emptyListWanted, place⟩
  | .toml, .table _ place => .error ⟨.emptyTableWanted, place⟩
  | .toml, .scalar value place => .error ⟨.tableWanted value.word, place⟩
  | .json, .scalar .null _ => .ok ()
  | .json, node => node.refuse .json .nothing

/-- Read a kind: its name, or a table with the name as its only key. -/
def HostKind.read : Format → NodeReader HostKind
  | _, .scalar (.text name) place => HostKind.choose name place
  | format, .table [(label, payload)] _ => do
      let kind ← HostKind.choose label.name label.place
      HostKind.checkPayload format payload
      return kind
  | .toml, .table [] place => .error ⟨.noAlternative, place⟩
  | .toml, .table _ place => .error ⟨.manyAlternatives, place⟩
  | .toml, node => .error ⟨.choiceWanted, node.place⟩
  | .json, .table _ place => .error ⟨.notSingleKey, place⟩
  | .json, node => node.refuse .json .choice

/-- The fields of an embedded language. -/
def Embedded.schema (format : Format) : Schema Node Misfit Embedded :=
  Embedded.mk <$> .required "name" (Node.readText format)
    <*> .required "id_choice_re" (Node.readText format)
    <*> .required "vsname" (Node.readText format)
    <*> .required "root_scope" (Node.readText format)

/-- Read an embedded language. -/
def Embedded.read (format : Format) : NodeReader Embedded :=
  Node.readRecord format "EmbeddedSpec" (Embedded.schema format)

/-- The fields of a host. -/
def HostEntry.schema (format : Format) : Schema Node Misfit HostEntry :=
  HostEntry.mk <$> .required "kind" (HostKind.read format)
    <*> .required "vsname" (Node.readText format)
    <*> .required "embedded_scope" (Node.readText format)
    <*> .required "output" (Node.readPath format)
    <*> .optional "inject_to" none
      (Node.readOption (Node.readList format (Node.readText format)))

/-- Read a host. -/
def HostEntry.read (format : Format) : NodeReader HostEntry :=
  Node.readRecord format "ManifestHost" (HostEntry.schema format)

/-- The fields of a manifest. -/
def Manifest.schema (format : Format) : Schema Node Misfit Manifest :=
  Manifest.mk <$> .optional "contributes" none (Node.readOption (Node.readPath format))
    <*> .optional "host" [] (Node.readList format (HostEntry.read format))
    <*> .optional "embedded" [] (Node.readList format (Embedded.read format))

/-- Read a manifest. -/
def Manifest.read (format : Format) : NodeReader Manifest :=
  Node.readRecord format "Manifest" (Manifest.schema format)

end Inset
