import Inset.Grammar.Document
import Inset.Json.Record

/-!
# Reading grammar documents

A grammar document is read from JSON text.  Every record has exactly the
fields that it is written with.
-/

namespace Inset.Grammar

open Data (Schema)
open Json (Draft DraftReader ReadError)

/-- The fields of an include. -/
def Include.schema : Schema Draft ReadError Include :=
  Include.mk <$> .required "include" Draft.readText

/-- Read an include. -/
def Include.read : DraftReader Include :=
  Draft.readRecord "Include" Include.schema

/-- The fields of a capture. -/
def Capture.schema : Schema Draft ReadError Capture :=
  Capture.mk <$> .required "name" Draft.readText

/-- Read a capture. -/
def Capture.read : DraftReader Capture :=
  Draft.readRecord "Capture" Capture.schema

/-- The fields of a region. -/
def Region.schema : Schema Draft ReadError Region :=
  Region.mk <$> .required "comment" Draft.readText
    <*> .required "begin" Draft.readText
    <*> .required "beginCaptures" (Draft.readDictionary Capture.read)
    <*> .required "contentName" Draft.readText
    <*> .required "patterns" (Draft.readList Include.read)
    <*> .required "end" Draft.readText
    <*> .required "endCaptures" Capture.read

/-- Read a region. -/
def Region.read : DraftReader Region :=
  Draft.readRecord "BeginEndRule" Region.schema

/-- The fields of a rule set. -/
def RuleSet.schema : Schema Draft ReadError RuleSet :=
  RuleSet.mk <$> .required "comment" Draft.readText
    <*> .required "patterns" (Draft.readList Region.read)

/-- Read a rule set. -/
def RuleSet.read : DraftReader RuleSet :=
  Draft.readRecord "RepositoryRule" RuleSet.schema

/-- The fields of a document. -/
def Document.dataSchema : Schema Draft ReadError Document :=
  Document.mk <$> .required "$schema" Draft.readText
    <*> .required "injectionSelector" Draft.readText
    <*> .required "scopeName" Draft.readText
    <*> .required "comment" Draft.readText
    <*> .required "patterns" (Draft.readList Include.read)
    <*> .required "repository" (Draft.readDictionary RuleSet.read)

/-- Read a document. -/
def Document.read : DraftReader Document :=
  Draft.readRecord "GrammarDocument" Document.dataSchema

/-- The document that a text holds. -/
def Document.ofText (text : String) : Except ReadError Document :=
  Json.readWhole Document.read text

end Inset.Grammar
