/-!
# Host languages and the languages embedded in them

A *host* is a language whose raw strings can hold text in another language.
An *embedded* language is one that such a raw string can be marked to hold.
-/

namespace Inset

/-- The host languages for which a grammar can be built. -/
inductive HostKind
  | go
  deriving DecidableEq, Inhabited

namespace HostKind

/-- The name by which a kind is chosen. -/
def name : HostKind → String
  | go => "go"

/-- All kinds, by the names that choose them. -/
def all : List HostKind :=
  [go]

/-- The kind that a name chooses. -/
def ofName? (name : String) : Option HostKind :=
  all.find? fun kind => kind.name = name

/-- The scope of the grammar that highlights the host language itself. -/
def sourceScope : HostKind → String
  | go => "source.go"

@[simp]
theorem ofName?_name (kind : HostKind) : ofName? kind.name = some kind := by
  cases kind; rfl

end HostKind

/-- A host as the grammar builder sees it. -/
structure Host where
  /-- The identifier that ends every scope made for this host. -/
  id : String
  /-- The scope of the injected grammar itself. -/
  scope : String
  deriving DecidableEq, Inhabited

/-- A language that a raw string of a host can hold. -/
structure Embedded where
  /-- The name that readers see, used in comments only. -/
  name : String
  /-- The alternatives accepted as a tag in the marker comment, as a pattern. -/
  tags : String
  /-- The identifier of the language. -/
  id : String
  /-- The scope of the grammar that highlights the language. -/
  rootScope : String
  deriving DecidableEq, Inhabited

/-- The scope of the content of a raw string of the host that holds the
embedded language, without the root scope that follows it. -/
def Host.blockScope (host : Host) (language : Embedded) : String :=
  "meta.embedded.block." ++ language.id ++ "." ++ host.id

/-- For one host, the scope determines the identifier of the language. -/
theorem Host.blockScope_eq_iff {host : Host} {first second : Embedded} :
    host.blockScope first = host.blockScope second ↔ first.id = second.id := by
  unfold Host.blockScope
  constructor
  · intro same
    simp only [String.append_left_inj, String.append_right_inj] at same
    exact same
  · intro same
    rw [same]

end Inset
