import Inset.Language
import Inset.Path.Basic

/-!
# Manifests

A manifest lists the hosts for which grammars are generated, each with the file
its grammar goes to, and the languages embedded in them.  Every host gets a
region for every embedded language, in the order listed here.
-/

namespace Inset

/-- A host and where its grammar goes. -/
structure HostEntry where
  kind : HostKind
  id : String
  scope : String
  /-- The grammar file, relative to the manifest, as written. -/
  output : Path
  /-- The scopes into which the grammar is injected, if they are given. -/
  injectTo : Option (List String)
  deriving DecidableEq, Inhabited

/-- What is generated, and where it goes. -/
structure Manifest where
  /-- The file of the contribution fragment, relative to the manifest. -/
  contributes : Option Path
  hosts : List HostEntry
  embedded : List Embedded
  deriving DecidableEq, Inhabited

namespace HostEntry

/-- The host as the grammar builder sees it. -/
def host (entry : HostEntry) : Host :=
  ⟨entry.id, entry.scope⟩

/-- The scopes into which the grammar is injected: the source scope of the kind
unless others are given. -/
def injectionScopes (entry : HostEntry) : List String :=
  entry.injectTo.getD [entry.kind.sourceScope]

end HostEntry

end Inset
