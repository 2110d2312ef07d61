import Inset.Grammar.Document
import Inset.Language

/-!
# The injection grammar of a host

The grammar of a host has one region for every embedded language, in the order
in which the languages are given: the first region that matches wins.  A region
opens at a marker comment that names the language and the backtick after it,
as in `/*sql*/`, and closes at the next backtick.  Nothing is checked here:
whatever the names hold ends up in the grammar.
-/

namespace Inset.Grammar

/-- The schema that every grammar document refers to. -/
def schemaAddress : String :=
  "https://raw.githubusercontent.com/martinring/tmlanguage/master/tmlanguage.json"

/-- The comment at the top of every grammar document. -/
def generatedComment : String :=
  "This file has been automatically generated by syntax_assembler.js\n" ++
    "DO NOT HAND EDIT IT - changes will be lost."

/-- The comment of the raw string rules. -/
def rawStringsComment : String :=
  "These patterns all match Go raw strings and select one language. " ++
    "The syntax is injected into https://github.com/microsoft/vscode/blob/main/" ++
    "extensions/go/syntaxes/go.tmLanguage.json"

/-- A scope of the host language: the base name with the language's suffix. -/
def hostScope (base : String) : String :=
  base ++ ".go"

/-- The pattern that opens a region, in extended mode: a marker comment with
one of the tags, white space, and a backtick.  Its groups are the comment, its
two delimiters and the backtick, in the order of their opening brackets. -/
def beginPattern (tags : String) : String :=
  "(?x)\n" ++
  "( (/\\*) \\s*\n" ++
  "(?i:" ++ tags ++ ")\n" ++
  "\\s* (\\*/) )\n" ++
  "\\s* (\\`)\n"

/-- The scopes of the groups of the opening pattern. -/
def beginCaptures : Dictionary Capture where
  entries := [
    ("1", ⟨hostScope "comment.block"⟩),
    ("2", ⟨hostScope "punctuation.definition.comment"⟩),
    ("3", ⟨hostScope "punctuation.definition.comment"⟩),
    ("4", ⟨hostScope "punctuation.definition.string.begin"⟩)]

/-- The region of an embedded language. -/
def region (host : Host) (language : Embedded) : Region where
  comment := language.name ++ "-formatted raw strings"
  begins := beginPattern language.tags
  beginCaptures := beginCaptures
  contentName := host.blockScope language ++ " " ++ language.rootScope
  patterns := [⟨language.rootScope⟩]
  ends := "`"
  endCapture := ⟨hostScope "punctuation.definition.string.end"⟩

/-- The injection grammar of a host with the given embedded languages. -/
def injection (kind : HostKind) (host : Host) (languages : List Embedded) : Document where
  schema := schemaAddress
  injectionSelector := "L:" ++ kind.sourceScope ++ " -comment -string"
  scopeName := host.scope
  comment := generatedComment
  patterns := [⟨"#" ++ rawStringsKey⟩]
  repository := {
    entries := [(rawStringsKey, ⟨rawStringsComment, languages.map (region host)⟩)]
    nodup := by simp }

end Inset.Grammar
