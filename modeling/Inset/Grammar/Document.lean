import Inset.Dictionary
import Inset.Json.Text

/-!
# Grammar documents

A grammar document is an injection grammar as an editor reads it.  Its JSON
form lists the fields of every record in the order in which they are declared
here, and ends with a line break.
-/

namespace Inset.Grammar

/-- A reference to rules that stand elsewhere. -/
structure Include where
  target : String
  deriving DecidableEq, Inhabited

/-- The scope given to a captured piece of text. -/
structure Capture where
  name : String
  deriving DecidableEq, Inhabited

/-- A rule that opens a region at one pattern and closes it at another. -/
structure Region where
  comment : String
  begins : String
  /-- The captures of the opening pattern by group number. -/
  beginCaptures : Dictionary Capture
  contentName : String
  patterns : List Include
  ends : String
  /-- The one capture of the closing pattern, which has no group number. -/
  endCapture : Capture
  deriving DecidableEq, Inhabited

/-- A named entry of the repository: a list of regions. -/
structure RuleSet where
  comment : String
  regions : List Region
  deriving DecidableEq, Inhabited

/-- An injection grammar. -/
structure Document where
  schema : String
  injectionSelector : String
  scopeName : String
  comment : String
  patterns : List Include
  repository : Dictionary RuleSet
  deriving DecidableEq, Inhabited

/-- The name under which the repository holds the raw string rules. -/
def rawStringsKey : String := "raw_strings"

/-- The raw string rules of a document. -/
def Document.rawStrings? (document : Document) : Option RuleSet :=
  document.repository.get? rawStringsKey

/-! ## The JSON form -/

open Json (Value)

/-- The JSON form of a dictionary. -/
def dictionaryJson {α : Type} (form : α → Value) (dictionary : Dictionary α) : Value :=
  .object (dictionary.entries.map fun entry => (entry.1, form entry.2))

/-- The JSON form of an include. -/
def Include.json (reference : Include) : Value :=
  .object [("include", .string reference.target)]

/-- The JSON form of a capture. -/
def Capture.json (capture : Capture) : Value :=
  .object [("name", .string capture.name)]

/-- The JSON form of a region. -/
def Region.json (region : Region) : Value :=
  .object [
    ("comment", .string region.comment),
    ("begin", .string region.begins),
    ("beginCaptures", dictionaryJson Capture.json region.beginCaptures),
    ("contentName", .string region.contentName),
    ("patterns", .array (region.patterns.map Include.json)),
    ("end", .string region.ends),
    ("endCaptures", region.endCapture.json)]

/-- The JSON form of a rule set. -/
def RuleSet.json (rules : RuleSet) : Value :=
  .object [
    ("comment", .string rules.comment),
    ("patterns", .array (rules.regions.map Region.json))]

/-- The JSON form of a document. -/
def Document.json (document : Document) : Value :=
  .object [
    ("$schema", .string document.schema),
    ("injectionSelector", .string document.injectionSelector),
    ("scopeName", .string document.scopeName),
    ("comment", .string document.comment),
    ("patterns", .array (document.patterns.map Include.json)),
    ("repository", dictionaryJson RuleSet.json document.repository)]

/-- The text of a document as it is written to a file. -/
def Document.text (document : Document) : String :=
  document.json.text ++ "\n"

end Inset.Grammar
