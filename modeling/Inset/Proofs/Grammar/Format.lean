import Inset.Proofs.Generated.Reading
import Inset.Proofs.Json.Shape

/-!
# The format of grammar documents

The JSON values that are read as grammar documents are those of one shape, as far as their
records are objects, and the text that is written for the document restates the value
(`Document.read_accepts_exactly`).
-/

namespace Inset.Grammar

open Json (Accepts Fills HasShape RecordsAsObjects Restates Shape Value)

/-! ## The shapes of the records -/

/-- The shape of an include. -/
def Include.shape : Shape :=
  .record [("include", .text)]

/-- The shape of a capture. -/
def Capture.shape : Shape :=
  .record [("name", .text)]

/-- The shape of a region. -/
def Region.shape : Shape :=
  .record [
    ("comment", .text),
    ("begin", .text),
    ("beginCaptures", .dictionary Capture.shape),
    ("contentName", .text),
    ("patterns", .list Include.shape),
    ("end", .text),
    ("endCaptures", Capture.shape)]

/-- The shape of a rule set. -/
def RuleSet.shape : Shape :=
  .record [
    ("comment", .text),
    ("patterns", .list Region.shape)]

/-- The shape of a document. -/
def Document.shape : Shape :=
  .record [
    ("$schema", .text),
    ("injectionSelector", .text),
    ("scopeName", .text),
    ("comment", .text),
    ("patterns", .list Include.shape),
    ("repository", .dictionary RuleSet.shape)]

/-! ## The records are accepted -/

theorem Include.accepts : Accepts Include.read Include.json Include.shape :=
  Accepts.record ((Fills.required .text "include").map Include.mk) (by decide)
    (fun _ => rfl) "Include"

theorem Capture.accepts : Accepts Capture.read Capture.json Capture.shape :=
  Accepts.record ((Fills.required .text "name").map Capture.mk) (by decide)
    (fun _ => rfl) "Capture"

theorem Region.accepts : Accepts Region.read Region.json Region.shape := by
  have fills := (Fills.required .text "comment").map Region.mk
    |>.apply (.required .text "begin")
    |>.apply (.required Capture.accepts.dictionary "beginCaptures")
    |>.apply (.required .text "contentName")
    |>.apply (.required Include.accepts.list "patterns")
    |>.apply (.required .text "end")
    |>.apply (.required Capture.accepts "endCaptures")
  exact Accepts.record fills (by decide) (fun _ _ _ _ _ _ _ => rfl) "BeginEndRule"

theorem RuleSet.accepts : Accepts RuleSet.read RuleSet.json RuleSet.shape := by
  have fills := (Fills.required .text "comment").map RuleSet.mk
    |>.apply (.required Region.accepts.list "patterns")
  exact Accepts.record fills (by decide) (fun _ _ => rfl) "RepositoryRule"

theorem Document.accepts : Accepts Document.read Document.json Document.shape := by
  have fills := (Fills.required .text "$schema").map Document.mk
    |>.apply (.required .text "injectionSelector")
    |>.apply (.required .text "scopeName")
    |>.apply (.required .text "comment")
    |>.apply (.required Include.accepts.list "patterns")
    |>.apply (.required RuleSet.accepts.dictionary "repository")
  exact Accepts.record fills (by decide) (fun _ _ _ _ _ _ => rfl) "GrammarDocument"

/-! ## The format -/

/-- Let the records of a JSON value be objects as far as its shape goes.  Then the value is
read as a document exactly if it has the shape of documents, and then the text that is
written for the document is read as its JSON form, which restates the value.  Every text
that holds just the value is read like it. -/
theorem Document.read_accepts_exactly {value : Value}
    (objects : RecordsAsObjects Document.shape value) :
    ((∃ document, Document.read value.draft = .ok document) ↔
        HasShape Document.shape value) ∧
      (∀ document, Document.read value.draft = .ok document →
        Json.read document.text.toList = (document.json.draft, none) ∧
          Restates Document.shape value document.json) ∧
      ∀ text : String, Json.read text.toList = (value.draft, none) →
        Document.ofText text = Document.read value.draft := by
  have hasShape {document : Document} (read : Document.read value.draft = .ok document) :
      HasShape Document.shape value := Document.accepts.hasShape objects read
  refine ⟨⟨fun ⟨_, read⟩ => hasShape read, fun has => ?_⟩, fun document read => ⟨?_, ?_⟩, ?_⟩
  · rcases Document.accepts.reads has with ⟨document, read, _⟩
    exact ⟨document, read⟩
  · exact Document.undoes.read_text document isBlank_newline
  · rcases Document.accepts.reads (hasShape read) with ⟨same, again, restates⟩
    rw [read] at again
    exact Except.ok.inj again ▸ restates
  · exact fun text written => Json.readWhole_of_read written

/-- A document written backwards, with a rule set that comes again under its key. -/
def backwards : Value :=
  .object [
    ("repository", .object [
      ("a", .object [("patterns", .array []), ("comment", .string "1")]),
      ("b", .object [("patterns", .array []), ("comment", .string "2")]),
      ("a", .object [("patterns", .array []), ("comment", .string "3")])]),
    ("patterns", .array [.object [("include", .string "#a")]]),
    ("comment", .string "c"),
    ("scopeName", .string "s"),
    ("injectionSelector", .string "i"),
    ("$schema", .string "u")]

theorem hasShape_backwards : HasShape Document.shape backwards := by
  have rules (comment : String) : HasShape RuleSet.shape
      (.object [("patterns", .array []), ("comment", .string comment)]) := by
    have regions : HasShape (.list Region.shape) (.array []) := .list (by simp)
    exact .record (.swap _ _ _) (by simpa using ⟨regions, .text comment⟩)
  have repository : HasShape (.dictionary RuleSet.shape) (.object [
      ("a", .object [("patterns", .array []), ("comment", .string "1")]),
      ("b", .object [("patterns", .array []), ("comment", .string "2")]),
      ("a", .object [("patterns", .array []), ("comment", .string "3")])]) :=
    .dictionary (by simpa using ⟨rules "1", rules "2", rules "3"⟩)
  have reference : HasShape Include.shape (.object [("include", .string "#a")]) :=
    .record (.refl _) (by simpa using .text "#a")
  have patterns : HasShape (.list Include.shape) (.array [.object [("include", .string "#a")]]) :=
    .list (by simpa using reference)
  exact .record (by decide)
    (by simpa using ⟨repository, patterns, .text "c", .text "s", .text "i", .text "u"⟩)

/-- What is written backwards is put in order, and the last rule set stays in the first
place. -/
theorem Document.read_accepts_exactly_backwards :
    RecordsAsObjects Document.shape backwards ∧ HasShape Document.shape backwards ∧
      ∃ document, Document.read backwards.draft = .ok document ∧
        document.repository.entries = [("a", ⟨"3", []⟩), ("b", ⟨"2", []⟩)] ∧
        Restates Document.shape backwards document.json := by
  have objects := hasShape_backwards.recordsAsObjects
  have read : Document.read backwards.draft = .ok ⟨"u", "i", "s", "c", [⟨"#a"⟩],
      ⟨[("a", ⟨"3", []⟩), ("b", ⟨"2", []⟩)], by decide⟩⟩ := by rfl
  rcases Document.read_accepts_exactly objects with ⟨accepted, written, _⟩
  exact ⟨objects, accepted.mp ⟨_, read⟩, _, read, rfl, (written _ read).2⟩

end Inset.Grammar
