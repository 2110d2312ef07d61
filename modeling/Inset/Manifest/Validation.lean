import Inset.Manifest.Basic
import Inset.Text.Blank
import Inset.Text.Quoted

/-!
# Accepted manifests

Validation refuses manifests that would silently produce broken grammars, and
reports the first fault in a fixed order: no hosts at all, then host by host,
then the contribution fragment, then language by language.
-/

namespace Inset

/-- The part of a manifest in which a fault lies. -/
inductive Place
  | manifest
  | host (index : Nat)
  | embedded (index : Nat)
  deriving DecidableEq

/-- Why a manifest is refused. -/
inductive ConfigurationError
  | noHosts
  | empty (place : Place) (field : String)
  | notRelative (place : Place) (field : String) (path : Path)
  | notFile (place : Place) (field : String) (path : Path)
  | duplicateId (id : String)
  | duplicateOutput (path : Path)
  | contributesIsOutput (path : Path)
  deriving DecidableEq

/-- The wording of a place. -/
def Place.message : Place → String
  | manifest => "manifest"
  | host index => "host " ++ toString index
  | embedded index => "embedded language " ++ toString index

/-- The wording of a configuration error. -/
def ConfigurationError.message : ConfigurationError → String
  | noHosts => "at least one `[[host]]` entry is required"
  | empty place field => place.message ++ ": field `" ++ field ++ "` must not be empty"
  | notRelative place field path =>
      place.message ++ ": field `" ++ field ++ "` must be relative to the manifest, got " ++
        Text.quoted path.text
  | notFile place field path =>
      place.message ++ ": field `" ++ field ++ "` must name a file, got " ++
        Text.quoted path.text
  | duplicateId id => "duplicate host vsname `" ++ id ++ "`"
  | duplicateOutput path => "duplicate host output " ++ Text.quoted path.text
  | contributesIsOutput path =>
      "contributes path " ++ Text.quoted path.text ++ " is also used as a grammar output"

/-- The result of a check. -/
abbrev Check := Except ConfigurationError Unit

/-- A text field has to hold more than white space. -/
def checkText (place : Place) (field text : String) : Check :=
  if Text.isBlank text then .error (.empty place field) else .ok ()

/-- A path field has to name a file below the directory of the manifest. -/
def checkPath (place : Place) (field : String) (path : Path) : Check :=
  if path.text = "" then .error (.empty place field)
  else if path.isRooted then .error (.notRelative place field path)
  else if path.clean = ⟨"."⟩ then .error (.notFile place field path)
  else .ok ()

/-- The fields of a host on their own. -/
def HostEntry.check (index : Nat) (entry : HostEntry) : Check := do
  checkText (.host index) "vsname" entry.id
  checkText (.host index) "embedded_scope" entry.scope
  checkPath (.host index) "output" entry.output
  if entry.injectTo.any (·.contains "") then .error (.empty (.host index) "inject_to")

/-- The hosts from an index on, given the hosts before them. -/
def checkHosts (before : List HostEntry) (index : Nat) : List HostEntry → Check
  | [] => .ok ()
  | entry :: rest => do
      entry.check index
      if before.any (·.id = entry.id) then .error (.duplicateId entry.id)
      if before.any (·.output.clean = entry.output.clean) then
        .error (.duplicateOutput entry.output)
      checkHosts (entry :: before) (index + 1) rest

/-- The fragment has a file of its own. -/
def checkContributes (hosts : List HostEntry) (path : Path) : Check := do
  checkPath .manifest "contributes" path
  if hosts.any (·.output.clean = path.clean) then .error (.contributesIsOutput path)

/-- The fields of an embedded language. -/
def Embedded.check (index : Nat) (language : Embedded) : Check := do
  checkText (.embedded index) "name" language.name
  checkText (.embedded index) "id_choice_re" language.tags
  checkText (.embedded index) "vsname" language.id
  checkText (.embedded index) "root_scope" language.rootScope

/-- The embedded languages from an index on. -/
def checkEmbedded (index : Nat) : List Embedded → Check
  | [] => .ok ()
  | language :: rest => do
      language.check index
      checkEmbedded (index + 1) rest

/-- Accept a manifest, or report its first fault. -/
def Manifest.validate (manifest : Manifest) : Check := do
  if manifest.hosts.isEmpty then .error .noHosts
  checkHosts [] 0 manifest.hosts
  match manifest.contributes with
  | some path => checkContributes manifest.hosts path
  | none => .ok ()
  checkEmbedded 0 manifest.embedded

end Inset
