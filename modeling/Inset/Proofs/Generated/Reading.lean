import Inset.Contribution.Reading
import Inset.Grammar.Reading
import Inset.Proofs.Json.Record

/-!
# Generated texts read back

Every record of a grammar document and of a contribution fragment is read back from its
JSON form, and so both are read back from the texts that are generated for them.
-/

namespace Inset

open Json (Spells Undoes)

/-! ## Grammar documents -/

namespace Grammar

theorem Include.undoes : Undoes Include.read Include.json := by
  apply Undoes.record (by decide)
  intro reference
  exact (Spells.required .text "include" reference.target).map Include.mk

theorem Capture.undoes : Undoes Capture.read Capture.json := by
  apply Undoes.record (by decide)
  intro capture
  exact (Spells.required .text "name" capture.name).map Capture.mk

theorem Region.undoes : Undoes Region.read Region.json := by
  apply Undoes.record (by decide)
  intro region
  exact (Spells.required .text "comment" region.comment).map Region.mk
    |>.apply (.required .text "begin" region.begins)
    |>.apply (.required Capture.undoes.dictionary "beginCaptures" region.beginCaptures)
    |>.apply (.required .text "contentName" region.contentName)
    |>.apply (.required Include.undoes.list "patterns" region.patterns)
    |>.apply (.required .text "end" region.ends)
    |>.apply (.required Capture.undoes "endCaptures" region.endCapture)

theorem RuleSet.undoes : Undoes RuleSet.read RuleSet.json := by
  apply Undoes.record (by decide)
  intro rules
  exact (Spells.required .text "comment" rules.comment).map RuleSet.mk
    |>.apply (.required Region.undoes.list "patterns" rules.regions)

theorem Document.undoes : Undoes Document.read Document.json := by
  apply Undoes.record (by decide)
  intro document
  exact (Spells.required .text "$schema" document.schema).map Document.mk
    |>.apply (.required .text "injectionSelector" document.injectionSelector)
    |>.apply (.required .text "scopeName" document.scopeName)
    |>.apply (.required .text "comment" document.comment)
    |>.apply (.required Include.undoes.list "patterns" document.patterns)
    |>.apply (.required RuleSet.undoes.dictionary "repository" document.repository)

end Grammar

/-! ## Contribution fragments -/

theorem GrammarContribution.undoes : Undoes GrammarContribution.read GrammarContribution.json := by
  apply Undoes.record (by decide)
  intro grammar
  exact (Spells.required .text "scopeName" grammar.scopeName).map GrammarContribution.mk
    |>.apply (.required .text "path" grammar.path)
    |>.apply (.required Undoes.text.list "injectTo" grammar.injectTo)
    |>.apply (.required Undoes.text.dictionary "embeddedLanguages" grammar.embeddedLanguages)

theorem Contributes.undoes : Undoes Contributes.read Contributes.json := by
  apply Undoes.record (by decide)
  intro fragment
  exact (Spells.required GrammarContribution.undoes.list "grammars" fragment.grammars).map
    Contributes.mk

/-! ## Their texts -/

theorem isBlank_newline : ∀ c ∈ "\n".toList, Json.Reader.isBlank c = true := by
  intro c member
  rw [List.mem_singleton.mp member]
  rfl

theorem Grammar.Document.ofText_text (document : Document) :
    Document.ofText document.text = .ok document :=
  Document.undoes.readWhole document isBlank_newline

/-- The text of a fragment is read back with its final line break and without it. -/
theorem Contributes.ofText_json_text (fragment : Contributes) :
    Contributes.ofText fragment.json.text = .ok fragment ∧
      Contributes.ofText (fragment.json.text ++ "\n") = .ok fragment := by
  constructor
  · have blank : ∀ c ∈ "".toList, Json.Reader.isBlank c = true := by simp
    have whole := Contributes.undoes.readWhole fragment blank
    rwa [String.append_empty] at whole
  · exact Contributes.undoes.readWhole fragment isBlank_newline

/-- Every document and every fragment is read back from its text.  So whatever text was
read, its record is read again from the text written for it, and then written the same. -/
theorem ofText_of_generated :
    (∀ document : Grammar.Document,
      Grammar.Document.ofText document.text = .ok document) ∧
    (∀ fragment : Contributes,
      Contributes.ofText fragment.json.text = .ok fragment ∧
        Contributes.ofText (fragment.json.text ++ "\n") = .ok fragment) ∧
    (∀ text document, Grammar.Document.ofText text = .ok document →
      ∃ again, Grammar.Document.ofText document.text = .ok again ∧
        again = document ∧ again.text = document.text) ∧
    (∀ text fragment, Contributes.ofText text = .ok fragment →
      ∃ again, Contributes.ofText fragment.json.text = .ok again ∧
        again = fragment ∧ again.json.text = fragment.json.text) := by
  refine ⟨Grammar.Document.ofText_text, Contributes.ofText_json_text, ?_, ?_⟩
  · intro text document _
    exact ⟨document, Grammar.Document.ofText_text document, rfl, rfl⟩
  · intro text fragment _
    exact ⟨fragment, (Contributes.ofText_json_text fragment).1, rfl, rfl⟩

/-- A fragment whose records are arrays, and whose dictionary repeats a key, is one of
the texts that are read. -/
theorem ofText_of_generated_after_repeated_key :
    ∃ fragment,
      Contributes.ofText
          "[[[\"g\",\"./g\",[],\x7b\"a\":\"1\",\"b\":\"2\",\"a\":\"3\"\x7d]]]" = .ok fragment ∧
        ∃ again, Contributes.ofText fragment.json.text = .ok again ∧
          again = fragment ∧ again.json.text = fragment.json.text := by
  have accepted : Contributes.ofText
      "[[[\"g\",\"./g\",[],\x7b\"a\":\"1\",\"b\":\"2\",\"a\":\"3\"\x7d]]]" =
        .ok ⟨[⟨"g", "./g", [], ⟨[("a", "3"), ("b", "2")], by decide⟩⟩]⟩ := by
    decide +kernel
  exact ⟨_, accepted, ofText_of_generated.2.2.2 _ _ accepted⟩

end Inset
