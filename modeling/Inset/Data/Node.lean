import Inset.Data.Mismatch
import Inset.Decimal.Style
import Inset.Dictionary
import Inset.Json.Value

/-!
# Trees of data

A node is a piece of data together with the place in the text where it is
written, if there is one.  Two formats are read into nodes, TOML and JSON.
They differ in how a double is shown, in what a list may hold beyond the
fields of a record, and in how a choice is written.
-/

namespace Inset.Data

/-- The formats that nodes come from. -/
inductive Format
  | toml
  | json
  deriving DecidableEq

/-- A piece of a text.  Its ends are given by the number of characters from
there to the end of the text. -/
structure Span where
  start : Nat
  stop : Nat
  deriving DecidableEq, Inhabited

/-- A node that holds no other nodes. -/
inductive Scalar
  | null
  | boolean (value : Bool)
  | integer (value : Int)
  | real (value : Float)
  | text (value : String)
  | date
  /-- What should be an integer, but is none that some type holds. -/
  | hugeInteger
  /-- Digits beyond the largest double. -/
  | hugeReal
  deriving Inhabited

/-- The key of an entry and its place. -/
structure Label where
  name : String
  place : Option Span
  deriving DecidableEq, Inhabited

/-- A tree of data with places. -/
inductive Node
  | scalar (value : Scalar) (place : Option Span)
  | list (items : List Node) (place : Option Span)
  | table (entries : List (Label × Node)) (place : Option Span)
  deriving Inhabited

/-- The place of a node. -/
def Node.place : Node → Option Span
  | scalar _ place => place
  | list _ place => place
  | table _ place => place

/-- A mismatch and the place it is reported at. -/
structure Misfit where
  mismatch : Mismatch
  place : Option Span
  deriving DecidableEq

/-- How a format shows a double. -/
def Format.style : Format → Decimal.Style
  | toml => .plain
  | json => .json

/-- What a scalar is found to be.  A date counts as a table; digits that do not
fit are a mismatch of their own. -/
def Scalar.mismatch (format : Format) (wanted : Wanted) : Scalar → Mismatch
  | null => .wrongType .null wanted
  | boolean value => .wrongType (.boolean value) wanted
  | integer value => .wrongType (.integer value) wanted
  | real value => .wrongType (.real (format.style.text value)) wanted
  | text value => .wrongType (.text value) wanted
  | date => .wrongType .table wanted
  | hugeInteger => .integerOverflow
  | hugeReal => .realOverflow

/-- The mismatch of a node that is not what was wanted. -/
def Node.mismatch (format : Format) (wanted : Wanted) : Node → Mismatch
  | scalar value _ => value.mismatch format wanted
  | list _ _ => .wrongType .list wanted
  | table _ _ => .wrongType .table wanted

/-- Refuse a node that is not what was wanted. -/
def Node.refuse {α : Type} (format : Format) (wanted : Wanted) (node : Node) :
    Except Misfit α :=
  .error ⟨node.mismatch format wanted, node.place⟩

mutual

/-- The node of a JSON value, which has no place.  Of a key that comes again, the
first place in the object and the last value stay. -/
def Node.ofJson : Json.Value → Node
  | .null => .scalar .null none
  | .boolean value => .scalar (.boolean value) none
  | .number (.integer value) => .scalar (.integer value) none
  | .number (.real value) => .scalar (.real value) none
  | .string text => .scalar (.text text) none
  | .array items => .list (nodesOfJson items) none
  | .object members =>
      .table ((Dictionary.ofList (entriesOfJson members)).entries.map
        fun entry => (⟨entry.1, none⟩, entry.2)) none

/-- The nodes of the items of a JSON array. -/
def nodesOfJson : List Json.Value → List Node
  | [] => []
  | item :: items => .ofJson item :: nodesOfJson items

/-- The nodes of the members of a JSON object. -/
def entriesOfJson : List (String × Json.Value) → List (String × Node)
  | [] => []
  | (key, value) :: members => (key, .ofJson value) :: entriesOfJson members

end

end Inset.Data
