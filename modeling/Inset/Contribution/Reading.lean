import Inset.Contribution.Basic
import Inset.Json.Record

/-!
# Reading contribution fragments

A fragment is read from JSON text.  Every record has exactly the fields that
it is written with.
-/

namespace Inset

open Data (Schema)
open Json (Draft DraftReader ReadError)

/-- The fields of the contribution of a grammar. -/
def GrammarContribution.schema : Schema Draft ReadError GrammarContribution :=
  GrammarContribution.mk <$> .required "scopeName" Draft.readText
    <*> .required "path" Draft.readText
    <*> .required "injectTo" (Draft.readList Draft.readText)
    <*> .required "embeddedLanguages" (Draft.readDictionary Draft.readText)

/-- Read the contribution of a grammar. -/
def GrammarContribution.read : DraftReader GrammarContribution :=
  Draft.readRecord "GrammarContribution" GrammarContribution.schema

/-- The fields of a fragment. -/
def Contributes.schema : Schema Draft ReadError Contributes :=
  Contributes.mk <$> .required "grammars" (Draft.readList GrammarContribution.read)

/-- Read a fragment. -/
def Contributes.read : DraftReader Contributes :=
  Draft.readRecord "Contributes" Contributes.schema

/-- The fragment that a text holds. -/
def Contributes.ofText (text : String) : Except ReadError Contributes :=
  Json.readWhole Contributes.read text

end Inset
