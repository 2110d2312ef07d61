import Inset.Text.Quoted

/-!
# Why data does not fit

Manifests and grammar documents are read from trees of data, whatever text
those were written in.  A mismatch says what a tree lacks or has too much of,
and `Mismatch.message` is its wording.
-/

namespace Inset.Data

/-- What was found where something else was wanted. -/
inductive Found
  | null
  | boolean (value : Bool)
  | integer (value : Int)
  /-- A double by its text. -/
  | real (text : String)
  | text (value : String)
  | list
  | table
  deriving DecidableEq

/-- What was wanted. -/
inductive Wanted
  | text
  | path
  | list
  | table
  /-- No value at all. -/
  | nothing
  /-- The name of an alternative, or a table that holds it. -/
  | choice
  /-- A record by its name. -/
  | record (name : String)
  deriving DecidableEq

/-- Why data does not fit. -/
inductive Mismatch
  | wrongType (found : Found) (wanted : Wanted)
  | unknownField (name : String) (known : List String)
  | missingField (name : String)
  | duplicateField (name : String)
  | unknownVariant (name : String) (known : List String)
  /-- A record written as a list that is too short. -/
  | wrongLength (length : Nat) (record : String) (fields : Nat)
  /-- A record written as a list that is too long. -/
  | surplusItems (length : Nat)
  /-- A choice written as a table without or with several alternatives. -/
  | notSingleKey
  | integerOverflow
  | realOverflow
  /-- A choice that is neither a name nor a table. -/
  | choiceWanted
  /-- A choice written as a table without an alternative. -/
  | noAlternative
  /-- A choice written as a table with several alternatives. -/
  | manyAlternatives
  | emptyListWanted
  | emptyTableWanted
  /-- A scalar where an alternative should hold an empty table. -/
  | tableWanted (found : String)
  deriving DecidableEq

/-- An integer is shown with its type when 64 bits do not hold it. -/
def integerText (value : Int) : String :=
  let shown := "integer `" ++ toString value ++ "`"
  if -Int.pow 2 63 ≤ value ∧ value < Int.pow 2 64 then shown
  else if -Int.pow 2 127 ≤ value ∧ value < Int.pow 2 127 then shown ++ " as i128"
  else shown ++ " as u128"

/-- The wording of what was found. -/
def Found.message : Found → String
  | null => "null"
  | boolean value => "boolean `" ++ toString value ++ "`"
  | integer value => integerText value
  | real shown => "floating point `" ++ shown ++ "`"
  | text value => "string " ++ Text.quoted value
  | list => "sequence"
  | table => "map"

/-- The wording of what was wanted. -/
def Wanted.message : Wanted → String
  | text => "a string"
  | path => "path string"
  | list => "a sequence"
  | table => "a map"
  | nothing => "unit"
  | choice => "string or map"
  | record name => "struct " ++ name

/-- The wording of a choice among names. -/
def expectedOneOf : List String → String
  | [] => "there are no fields"
  | [only] => "expected `" ++ only ++ "`"
  | [first, second] => "expected `" ++ first ++ "` or `" ++ second ++ "`"
  | names => "expected one of " ++ ", ".intercalate (names.map fun name => "`" ++ name ++ "`")

/-- The wording of a mismatch. -/
def Mismatch.message : Mismatch → String
  | wrongType found wanted =>
      "invalid type: " ++ found.message ++ ", expected " ++ wanted.message
  | unknownField name known => "unknown field `" ++ name ++ "`, " ++ expectedOneOf known
  | missingField name => "missing field `" ++ name ++ "`"
  | duplicateField name => "duplicate field `" ++ name ++ "`"
  | unknownVariant name known => "unknown variant `" ++ name ++ "`, " ++ expectedOneOf known
  | wrongLength length record fields =>
      "invalid length " ++ toString length ++ ", expected struct " ++ record ++ " with " ++
        toString fields ++ (if fields = 1 then " element" else " elements")
  | surplusItems length =>
      "invalid length " ++ toString length ++ ", expected fewer elements in array"
  | notSingleKey => "invalid value: map, expected map with a single key"
  | integerOverflow => "integer number overflowed"
  | realOverflow => "floating-point number overflowed"
  | choiceWanted => "wanted string or table"
  | noAlternative => "wanted exactly 1 element, found 0 elements"
  | manyAlternatives => "wanted exactly 1 element, more than 1 element"
  | emptyListWanted => "expected empty array"
  | emptyTableWanted => "expected empty table"
  | tableWanted found => "expected table, found " ++ found

end Inset.Data
