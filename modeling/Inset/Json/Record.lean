import Inset.Data.Mismatch
import Inset.Data.Schema
import Inset.Decimal.Style
import Inset.Dictionary
import Inset.Json.Reader

/-!
# Reading records from JSON text

Records are read from drafts, so that what comes first in the text is what is
reported: a mistake in the data that stands before the place where the text
stops being JSON, or that place.  A key that is not a field is reported before
its value is read, and so is a field that comes again.
-/

namespace Inset.Json

open Data (Found Mismatch Schema Wanted)

/-- Why a record cannot be read from a text. -/
inductive ReadError
  /-- The text is JSON up to here, and its data does not fit. -/
  | data (mismatch : Mismatch)
  /-- The text is not JSON. -/
  | text (fault : Fault)
  deriving DecidableEq

/-- Readers of drafts. -/
abbrev DraftReader (α : Type) := Draft → Except ReadError α

/-- What a number is found to be. -/
def Number.found : Number → Found
  | integer value => .integer value
  | real value => .real (Decimal.Style.json.text value)

/-- The fault that ends an array or object, if there is one. -/
def ReadError.ofFault? : Option Fault → Except ReadError Unit
  | none => .ok ()
  | some fault => .error (.text fault)

namespace Draft

variable {α : Type}

/-- Refuse a draft that is not what was wanted. -/
def refuse (wanted : Wanted) : DraftReader α
  | null => .error (.data (.wrongType .null wanted))
  | boolean value => .error (.data (.wrongType (.boolean value) wanted))
  | number value => .error (.data (.wrongType value.found wanted))
  | string text => .error (.data (.wrongType (.text text) wanted))
  | array _ _ => .error (.data (.wrongType .list wanted))
  | object _ _ => .error (.data (.wrongType .table wanted))
  | broken fault => .error (.text fault)

/-- Read a text. -/
def readText : DraftReader String
  | string text => .ok text
  | draft => draft.refuse .text

/-- Read the items of a list. -/
def readList (read : DraftReader α) : DraftReader (List α)
  | array items fault => do
      let values ← items.mapM read
      ReadError.ofFault? fault
      return values
  | draft => draft.refuse .list

/-- Read the values of the members of an object. -/
def readMembers (read : DraftReader α) :
    List (String × Draft) → Except ReadError (List (String × α))
  | [] => .ok []
  | (key, draft) :: rest => do
      let value ← read draft
      let values ← readMembers read rest
      return (key, value) :: values

/-- Read a dictionary: of a key that comes again, the first place and the last
value stay. -/
def readDictionary (read : DraftReader α) : DraftReader (Dictionary α)
  | object members fault => do
      let entries ← readMembers read members
      ReadError.ofFault? fault
      return .ofList entries
  | draft => draft.refuse .table

/-- Check the members of a record in the order in which they are written, given
the keys that were there before. -/
def checkMembers (schema : Schema Draft ReadError α) (seen : List String) :
    List (String × Draft) → Except ReadError Unit
  | [] => .ok ()
  | (key, draft) :: rest =>
      match schema.check? key with
      | none => .error (.data (.unknownField key schema.names))
      | some check =>
          if key ∈ seen then .error (.data (.duplicateField key))
          else
            match check draft with
            | .error error => .error error
            | .ok () => checkMembers schema (key :: seen) rest

/-- The error for a field that a record written as an array lacks. -/
def shortArray (name : String) (fields length : Nat) : Option Fault → ReadError
  | some fault => .text fault
  | none => .data (.wrongLength length name fields)

/-- Read a record. -/
def readRecord (name : String) (schema : Schema Draft ReadError α) : DraftReader α
  | object members fault => do
      checkMembers schema [] members
      ReadError.ofFault? fault
      schema.fillNamed members fun field => .data (.missingField field)
  | array items fault => do
      let record ← schema.fillOrdered items
        (shortArray name schema.names.length items.length fault)
      if schema.names.length < items.length then .error (.text .malformed)
      ReadError.ofFault? fault
      return record
  | draft => draft.refuse (.record name)

end Draft

/-- Read a text that holds one value and nothing else. -/
def readWhole {α : Type} (reader : DraftReader α) (text : String) : Except ReadError α := do
  let (draft, trailing) := read text.toList
  let value ← reader draft
  ReadError.ofFault? trailing
  return value

end Inset.Json
