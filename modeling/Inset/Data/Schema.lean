/-!
# Record schemas

A schema lists the fields of a record in declaration order, each with its
reader, and says how the record is put together from the fields found in some
tree of data.  The trees (`ν`) and the errors (`ε`) are left open, so that one
schema serves every way of writing the record down.
-/

namespace Inset.Data

/-- The fields of a record of type `α`, read from trees in `ν` with errors
in `ε`. -/
structure Schema (ν ε α : Type) where
  /-- The fields by name, each with what its value must pass. -/
  fields : List (String × (ν → Except ε Unit))
  /-- The record, given the tree of every field that is there and the error for
  a field that has to be there and is not. -/
  fill : (String → Option ν) → (String → ε) → Except ε α

namespace Schema

variable {ν ε α β : Type}

/-- The names of the fields. -/
def names (schema : Schema ν ε α) : List String :=
  schema.fields.map Prod.fst

/-- Forget the result of a reader. -/
def passes (read : ν → Except ε α) (tree : ν) : Except ε Unit :=
  (read tree).map fun _ => ()

/-- A record with one field that has to be there. -/
def required (name : String) (read : ν → Except ε α) : Schema ν ε α where
  fields := [(name, passes read)]
  fill tree? missing :=
    match tree? name with
    | some tree => read tree
    | none => .error (missing name)

/-- A record with one field that may be left out. -/
def optional (name : String) (default : α) (read : ν → Except ε α) : Schema ν ε α where
  fields := [(name, passes read)]
  fill tree? _ :=
    match tree? name with
    | some tree => read tree
    | none => .ok default

/-- A record without fields. -/
def constant (value : α) : Schema ν ε α where
  fields := []
  fill _ _ := .ok value

/-- The fields of one record before those of another. -/
def apply (functions : Schema ν ε (α → β)) (arguments : Schema ν ε α) : Schema ν ε β where
  fields := functions.fields ++ arguments.fields
  fill tree? missing := do
    let function ← functions.fill tree? missing
    let argument ← arguments.fill tree? missing
    return function argument

instance : Applicative (Schema ν ε) where
  pure := constant
  seq functions arguments := apply functions (arguments ())

/-- What the value of a field must pass, if the record has that field. -/
def check? (schema : Schema ν ε α) (name : String) : Option (ν → Except ε Unit) :=
  schema.fields.lookup name

/-- The record whose fields are listed by name. -/
def fillNamed (schema : Schema ν ε α) (entries : List (String × ν)) (missing : String → ε) :
    Except ε α :=
  schema.fill (fun name => entries.lookup name) missing

/-- The record whose fields are listed in declaration order. -/
def fillOrdered (schema : Schema ν ε α) (trees : List ν) (missing : ε) : Except ε α :=
  schema.fillNamed (schema.names.zip trees) fun _ => missing

end Schema

end Inset.Data
