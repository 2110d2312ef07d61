import Inset.Proofs.Generated.Checking
import Inset.Proofs.Generated.Reading

/-!
# Stale grammars

The text of a grammar determines the document, the document determines its regions, and a
region determines its language: whatever is put together for a region is cancelled again,
given the identifier of the host.  So two different specifications for one identifier never
give the same text, and a check finds the grammar of an edited specification stale
(`edits_make_stale`).
-/

namespace Inset

open FileTree

/-! ## What a grammar is made from -/

namespace Grammar

theorem Document.text_injective : Function.Injective Document.text := by
  intro first second same
  have read := Document.ofText_text first
  rw [same, Document.ofText_text second] at read
  exact (Except.ok.inj read).symm

theorem beginPattern_injective : Function.Injective beginPattern := by
  intro first second same
  unfold beginPattern at same
  simp only [String.append_left_inj, String.append_right_inj] at same
  exact same

/-- For one host, a region determines its language.  The root scope stands alone in the
include, and has to be taken off the content name before the identifier can be read. -/
theorem region_injective (host : Host) : Function.Injective (region host) := by
  intro first second same
  simp only [region, Region.mk.injEq, String.append_left_inj, List.cons.injEq,
    Include.mk.injEq] at same
  rcases same with ⟨name, begins, -, content, ⟨rootScope, -⟩, -⟩
  rw [rootScope, String.append_left_inj, String.append_left_inj] at content
  cases first
  cases second
  simp only [Embedded.mk.injEq]
  exact ⟨name, beginPattern_injective begins, Host.blockScope_eq_iff.mp content, rootScope⟩

/-- The regions depend on the host by its identifier only. -/
theorem region_of_id {first second : Host} (same : first.id = second.id) :
    region first = region second := by
  funext language
  unfold region Host.blockScope
  rw [same]

/-- A grammar determines the scope of its host and the languages, if the identifier of the
host is given. -/
theorem eq_of_injection {kind : HostKind} {first second : Host}
    {firstLanguages secondLanguages : List Embedded} (sameId : first.id = second.id)
    (same : injection kind first firstLanguages = injection kind second secondLanguages) :
    first.scope = second.scope ∧ firstLanguages = secondLanguages := by
  simp only [injection, Document.mk.injEq, Dictionary.mk.injEq, List.cons.injEq,
    Prod.mk.injEq, RuleSet.mk.injEq, true_and, and_true] at same
  rcases same with ⟨scope, regions⟩
  rw [region_of_id sameId] at regions
  exact ⟨scope, (List.map_inj_right fun _ _ same => region_injective second same).mp regions⟩

theorem eq_of_injection_text {kind : HostKind} {first second : Host}
    {firstLanguages secondLanguages : List Embedded} (sameId : first.id = second.id)
    (same : (injection kind first firstLanguages).text =
      (injection kind second secondLanguages).text) :
    first.scope = second.scope ∧ firstLanguages = secondLanguages :=
  eq_of_injection sameId (Document.text_injective same)

end Grammar

/-! ## Checking an old grammar -/

variable {tree : FileTree} {root : Path}

/-- A file that holds another text is stale. -/
theorem GeneratedFile.run_check_of_differs {file : GeneratedFile} {existing : String}
    (read : tree.readText (root.join file.path) = .ok existing)
    (differs : existing ≠ file.content) :
    (file.check root : StateM FileTree _).run tree = (.ok (some .stale), tree) := by
  rw [run_check, textAt_eq_some_iff.mpr read]
  simp only [differs, if_false]

/-- A check of a list leaves the tree alone.  It fails only as the check of one of the
files does, and otherwise lists every file that differs. -/
theorem exists_run_checkGenerated (tree : FileTree) (root : Path) (files : List GeneratedFile) :
    ∃ outcome, (checkGenerated root files : StateM FileTree _).run tree = (outcome, tree) ∧
      match outcome with
      | .error error => ∃ file ∈ files,
          (file.check root : StateM FileTree _).run tree = (.error error, tree)
      | .ok differences => ∀ file ∈ files, ∀ kind,
          (file.check root : StateM FileTree _).run tree = (.ok (some kind), tree) →
            (file.path, kind) ∈ differences := by
  induction files with
  | nil => exact ⟨.ok [], rfl, by simp⟩
  | cons file rest ih =>
      rcases ih with ⟨others, checked, found⟩
      rcases ran : (file.check root : StateM FileTree _).run tree with ⟨result, after⟩
      obtain rfl : tree = after := by
        rw [file.run_check] at ran
        exact (Prod.mk.inj ran).2
      rw [checkGenerated, run_bind ran]
      rcases result with error | difference
      · exact ⟨.error error, rfl, file, List.mem_cons_self, ran⟩
      simp only
      rw [run_bind checked]
      rcases others with error | others
      · rcases found with ⟨other, member, failed⟩
        exact ⟨.error error, rfl, other, List.mem_cons_of_mem file member, failed⟩
      · refine ⟨.ok _, rfl, ?_⟩
        intro other member kind differs
        rw [List.mem_append]
        rcases List.mem_cons.mp member with rfl | member
        · obtain rfl : difference = some kind := by
            rw [ran] at differs
            exact Except.ok.inj (Prod.mk.inj differs).1
          exact .inl (by simp)
        · exact .inr (found other member kind differs)

/-- The text of a grammar determines the scope of its host and the languages, given the
identifier of the host.  So where the file of a host holds the grammar made for the same
identifier from another scope or from other languages, the check finds that file stale: a
check of the whole manifest lists it, unless one of the files cannot be read. -/
theorem edits_make_stale :
    (∀ (kind : HostKind) (first second : Host) (firstLanguages secondLanguages : List Embedded),
      first.id = second.id →
      (Grammar.injection kind first firstLanguages).text =
        (Grammar.injection kind second secondLanguages).text →
      first.scope = second.scope ∧ firstLanguages = secondLanguages) ∧
    ∀ (manifest : Manifest), ∀ entry ∈ manifest.hosts,
      ∀ (host : Host) (languages : List Embedded), host.id = entry.id →
      (host.scope ≠ entry.scope ∨ languages ≠ manifest.embedded) →
      ∀ (tree : FileTree) (root : Path),
      tree.readText (root.join entry.output.clean) =
        .ok (Grammar.injection entry.kind host languages).text →
      ((manifest.hostFile entry).check root : StateM FileTree _).run tree =
        (.ok (some .stale), tree) ∧
      ∃ outcome,
        (checkGenerated root manifest.assemble : StateM FileTree _).run tree = (outcome, tree) ∧
        match outcome with
        | .error error => ∃ file ∈ manifest.assemble,
            (file.check root : StateM FileTree _).run tree = (.error error, tree)
        | .ok differences => (entry.output.clean, .stale) ∈ differences := by
  refine ⟨fun _ _ _ _ _ => Grammar.eq_of_injection_text, ?_⟩
  intro manifest entry member host languages sameId edited tree root read
  have differs : (Grammar.injection entry.kind host languages).text ≠
      (manifest.hostFile entry).content := by
    intro same
    rcases Grammar.eq_of_injection_text sameId same with ⟨scope, sameLanguages⟩
    exact edited.elim (· scope) (· sameLanguages)
  have stale : ((manifest.hostFile entry).check root : StateM FileTree _).run tree =
      (.ok (some .stale), tree) := GeneratedFile.run_check_of_differs read differs
  refine ⟨stale, ?_⟩
  rcases exists_run_checkGenerated tree root manifest.assemble with ⟨outcome, checked, found⟩
  refine ⟨outcome, checked, ?_⟩
  rcases outcome with error | differences
  · exact found
  · have listed : manifest.hostFile entry ∈ manifest.assemble :=
      List.mem_append_left _ (List.mem_map_of_mem member)
    exact found _ listed _ stale

/-- A manifest whose only language has the identifier `a` and the root scope `x.go y`. -/
def splitManifest : Manifest :=
  ⟨none, [⟨.go, "go", "inset", ⟨"g.json"⟩, none⟩], [⟨"A", "a", "a", "x.go y"⟩]⟩

/-- The same content name, split after the identifier `a.go x`. -/
def resplit : Embedded :=
  ⟨"A", "a", "a.go x", "y"⟩

/-- The grammar of a language with another identifier and another root scope is stale, even
if both give the same content name. -/
theorem edits_make_stale_within_contentName :
    (Grammar.region ⟨"go", "inset"⟩ resplit).contentName =
      (Grammar.region ⟨"go", "inset"⟩ ⟨"A", "a", "a", "x.go y"⟩).contentName ∧
    ∃ tree differences,
      tree.readText ⟨"/g.json"⟩ = .ok (Grammar.injection .go ⟨"go", "inset"⟩ [resplit]).text ∧
      (checkGenerated ⟨"/"⟩ splitManifest.assemble : StateM FileTree _).run tree =
        (.ok differences, tree) ∧
      (⟨"g.json"⟩, .stale) ∈ differences := by
  refine ⟨by decide +kernel, ?_⟩
  have resolved (bytes : ByteArray) :
      (FileTree.empty.put [] "g.json" (.file bytes)).resolve .look ⟨"/g.json"⟩ =
        .ok (.found ["g.json"] (.file bytes) false) := by cbv
  have read := readText_of_resolve
    (resolved (Grammar.injection .go ⟨"go", "inset"⟩ [resplit]).text.toUTF8)
  rcases edits_make_stale.2 splitManifest _ List.mem_cons_self ⟨"go", "inset"⟩
      [resplit] rfl (.inr (by decide)) _ ⟨"/"⟩ read with
    ⟨stale, outcome, checked, found⟩
  rcases outcome with error | differences
  · rcases found with ⟨file, member, failed⟩
    rw [List.mem_singleton.mp member, stale] at failed
    cases failed
  · exact ⟨_, differences, read, checked, found⟩

end Inset
