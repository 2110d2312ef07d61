import Inset.Dictionary
import Inset.Json.Text
import Inset.Manifest.Basic

/-!
# Contribution fragments

The fragment tells an editor which grammars there are, where they lie, what
they are injected into, and which language each of their content scopes holds.
-/

namespace Inset

/-- What an editor has to know about one grammar. -/
structure GrammarContribution where
  scopeName : String
  /-- The grammar file, relative to the directory of the manifest. -/
  path : String
  injectTo : List String
  /-- The language of every content scope. -/
  embeddedLanguages : Dictionary String
  deriving DecidableEq, Inhabited

/-- The contribution fragment. -/
structure Contributes where
  grammars : List GrammarContribution
  deriving DecidableEq, Inhabited

/-- The path of a file in a fragment: `./` and the components of the path
without `.`, with slashes between them. -/
def Path.fromExtension (path : Path) : String :=
  "./" ++ "/".intercalate
    ((path.components.filter (· ≠ .current)).map Path.Component.text)

/-- The contribution of one host. -/
def HostEntry.contribution (languages : List Embedded) (entry : HostEntry) :
    GrammarContribution where
  scopeName := entry.scope
  path := entry.output.fromExtension
  injectTo := entry.injectionScopes
  embeddedLanguages :=
    .ofList (languages.map fun language => (entry.host.blockScope language, language.id))

/-- The contribution fragment of a manifest. -/
def Manifest.contribution (manifest : Manifest) : Contributes :=
  ⟨manifest.hosts.map (HostEntry.contribution manifest.embedded)⟩

/-! ## The JSON form -/

open Json (Value)

/-- The JSON form of the contribution of a grammar. -/
def GrammarContribution.json (grammar : GrammarContribution) : Value :=
  .object [
    ("scopeName", .string grammar.scopeName),
    ("path", .string grammar.path),
    ("injectTo", .array (grammar.injectTo.map .string)),
    ("embeddedLanguages",
      .object (grammar.embeddedLanguages.entries.map fun entry => (entry.1, .string entry.2)))]

/-- The JSON form of a fragment. -/
def Contributes.json (fragment : Contributes) : Value :=
  .object [("grammars", .array (fragment.grammars.map GrammarContribution.json))]

/-- The text of the fragment of a manifest as it is written to a file. -/
def Manifest.contributionText (manifest : Manifest) : String :=
  manifest.contribution.json.text ++ "\n"

end Inset
