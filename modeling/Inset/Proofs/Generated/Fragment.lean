import Inset.Proofs.Generated.Assembly
import Inset.Proofs.Generated.Reading

/-!
# The fragment describes the grammars

The grammars and the fragment are made apart: one path is cleaned and the other only loses
its `.`, and a scope that two languages share stands twice among the rules but once in the
fragment.  They agree all the same (`assemble_fragment_describes`).
-/

namespace Inset

open Grammar (Document)

/-! ## Paths of a fragment -/

namespace Path

theorem joinSlash_eq_intercalate (parts : List (List Char)) :
    joinSlash parts = ['/'].intercalate parts := by
  fun_induction joinSlash parts with
  | case1 => rfl
  | case2 part => simp
  | case3 part later nonempty ih =>
      rcases List.exists_cons_of_ne_nil nonempty with ⟨next, others, rfl⟩
      rw [ih, List.intercalate_cons_cons, List.append_assoc, List.singleton_append]

theorem text_ofPieces (pieces : List String) :
    (ofPieces pieces).text = "/".intercalate pieces := by
  rw [← String.toList_inj, String.toList_intercalate, ofPieces, String.toList_ofList]
  exact joinSlash_eq_intercalate _

/-- The path in a fragment is `./` and the moves of the path. -/
theorem fromExtension_eq {path : Path} (relative : path.isRooted = false) :
    path.fromExtension = "./" ++ (ofPieces path.moves).text := by
  rw [fromExtension, filter_components relative, text_ofPieces, Component.map_text_ofMove]

theorem moves_fromHere (path : Path) : moves ⟨"./" ++ path.text⟩ = path.moves := by
  have split : pieces ⟨"./" ++ path.text⟩ = "." :: path.pieces :=
    pieces_append_slash "." path.text
  simp [moves, steps, split]

/-- The path in a fragment is `./` and then pieces that are neither empty nor `.`, and it
leads to the file that the cleaned path leads to. -/
theorem NamesFile.exists_fromExtension {path : Path} (named : path.NamesFile) :
    (∃ rest : Path, path.fromExtension = "./" ++ rest.text ∧
      ∀ piece ∈ rest.pieces, piece ≠ "" ∧ piece ≠ ".") ∧
    clean ⟨path.fromExtension⟩ = path.clean := by
  have nonempty := moves_ne_nil named.relative named.notCurrent
  have isMove (step : String) (member : step ∈ path.moves) : IsMove step :=
    isMove_of_mem_moves member
  have written := fromExtension_eq named.relative
  constructor
  · refine ⟨ofPieces path.moves, written, fun piece member => ?_⟩
    rw [pieces_ofMoves nonempty isMove] at member
    exact ⟨(isMove piece member).nonempty, (isMove piece member).notCurrent⟩
  · have again : (ofPieces path.moves).moves = path.moves := by
      rw [moves, steps_ofMoves nonempty isMove, List.filter_eq_self]
      exact fun step member => by simpa using (isMove step member).notCurrent
    rw [written]
    apply clean_eq_of_moves (by simp [isRooted]) named.relative
    rw [moves_fromHere, again]

end Path

/-! ## Scopes of a fragment -/

/-- Languages that share a scope share their identifier, so that it does not matter which
of them the fragment keeps. -/
theorem HostEntry.get?_embeddedLanguages {entry : HostEntry} {languages : List Embedded}
    {language : Embedded} (member : language ∈ languages) :
    (entry.contribution languages).embeddedLanguages.get? (entry.host.blockScope language) =
      some language.id := by
  apply Dictionary.get?_ofList_of_forall
  · intro pair listed same
    rcases List.mem_map.mp listed with ⟨other, _, rfl⟩
    exact Host.blockScope_eq_iff.mp same
  · rw [List.map_map]
    exact List.mem_map_of_mem member

theorem HostEntry.keys_embeddedLanguages (entry : HostEntry) (languages : List Embedded) :
    (entry.contribution languages).embeddedLanguages.keys =
      (languages.map entry.host.blockScope).eraseDups := by
  rw [contribution, Dictionary.keys_ofList, List.map_map]
  rfl

/-! ## The fragment and the grammars -/

/-- Whether what a fragment says about a grammar fits the document and its file: it has the
scope of the document, and a path that begins with `./` and leads to the file.  The scopes
are those in the content names of the rules, one rule for each language and each scope
listed where it first comes, and the scope of a rule leads to the identifier of its
language. -/
structure GrammarContribution.Describes (contribution : GrammarContribution)
    (languages : List Embedded) (path : Path) (document : Document) : Prop where
  scopeName : contribution.scopeName = document.scopeName
  fromHere : ∃ rest : Path, contribution.path = "./" ++ rest.text ∧
    ∀ piece ∈ rest.pieces, piece ≠ "" ∧ piece ≠ "."
  clean : (⟨contribution.path⟩ : Path).clean = path
  rules : ∃ (rules : Grammar.RuleSet) (scopes : List String),
    document.rawStrings? = some rules ∧
    rules.regions.length = languages.length ∧ scopes.length = languages.length ∧
    contribution.embeddedLanguages.keys = scopes.eraseDups ∧
    ∀ (index : Nat) (language : Embedded), languages[index]? = some language →
      ∃ region scope, rules.regions[index]? = some region ∧ scopes[index]? = some scope ∧
        region.contentName = scope ++ " " ++ language.rootScope ∧
        contribution.embeddedLanguages.get? scope = some language.id

theorem HostEntry.describes {entry : HostEntry} (named : entry.output.NamesFile)
    (languages : List Embedded) :
    (entry.contribution languages).Describes languages entry.output.clean
      (Grammar.injection entry.kind entry.host languages) where
  scopeName := rfl
  fromHere := named.exists_fromExtension.1
  clean := named.exists_fromExtension.2
  rules := by
    refine ⟨_, languages.map entry.host.blockScope, rfl, List.length_map _, List.length_map _,
      entry.keys_embeddedLanguages languages, ?_⟩
    intro index language listed
    refine ⟨Grammar.region entry.host language, entry.host.blockScope language, ?_, ?_, rfl,
      get?_embeddedLanguages (List.mem_of_getElem? listed)⟩
    · rw [List.getElem?_map, listed]
      rfl
    · rw [List.getElem?_map, listed]
      rfl

/-- The files of an accepted manifest with a fragment are one for each host and the fragment
after them.  The fragment lists one grammar for each host, in their order, and describes
the document that is read from the file of the host. -/
theorem assemble_fragment_describes {manifest : Manifest} {path : Path}
    (accepted : manifest.validate = .ok ()) (given : manifest.contributes = some path) :
    ∃ files fragmentFile fragment, manifest.assemble = files ++ [fragmentFile] ∧
      files.length = manifest.hosts.length ∧ fragmentFile.path = path.clean ∧
      Contributes.ofText fragmentFile.content = .ok fragment ∧
      fragment.grammars.length = manifest.hosts.length ∧
      ∀ (index : Nat) (entry : HostEntry), manifest.hosts[index]? = some entry →
        ∃ file document contribution, files[index]? = some file ∧
          file.path = entry.output.clean ∧ Document.ofText file.content = .ok document ∧
          document.scopeName = entry.scope ∧ fragment.grammars[index]? = some contribution ∧
          contribution.Describes manifest.embedded file.path document := by
  have assembled : manifest.assemble = manifest.hosts.map manifest.hostFile ++
      [⟨path.clean, manifest.contributionText⟩] := by
    rw [Manifest.assemble, given]
    rfl
  refine ⟨_, _, manifest.contribution, assembled, List.length_map _, rfl,
    (Contributes.ofText_json_text manifest.contribution).2, List.length_map _, ?_⟩
  intro index entry listed
  have named : entry.output.NamesFile :=
    Manifest.namesFile_of_validate accepted
      (List.mem_append_left _ (List.mem_map_of_mem (List.mem_of_getElem? listed)))
  refine ⟨manifest.hostFile entry, manifest.document entry,
    entry.contribution manifest.embedded, ?_, rfl, (manifest.document entry).ofText_text, rfl, ?_,
    entry.describes named manifest.embedded⟩
  · rw [List.getElem?_map, listed]
    rfl
  · rw [Manifest.contribution, List.getElem?_map, listed]
    rfl

/-- A manifest with two languages of one identifier, and a detour on the way to its file. -/
def sharedId : Manifest where
  contributes := some ⟨"c.json"⟩
  hosts := [⟨.go, "go", "inset", ⟨"x/.//../y/g.json"⟩, none⟩]
  embedded := [⟨"SQL", "sql", "sql", "source.sql"⟩, ⟨"PL", "pl", "sql", "source.pl"⟩]

/-- The fragment describes a grammar whose languages share an identifier and whose path
takes a detour. -/
theorem assemble_fragment_describes_sharedId :
    sharedId.validate = .ok () ∧
    ∃ files fragmentFile fragment contribution document,
      sharedId.assemble = files ++ [fragmentFile] ∧
      Contributes.ofText fragmentFile.content = .ok fragment ∧
      fragment.grammars[0]? = some contribution ∧
      contribution.Describes sharedId.embedded ⟨"y/g.json"⟩ document := by
  have accepted : sharedId.validate = .ok () := by decide
  have clean : (⟨"x/.//../y/g.json"⟩ : Path).clean = ⟨"y/g.json"⟩ := by decide
  rcases assemble_fragment_describes accepted rfl with
    ⟨files, fragmentFile, fragment, assembled, _, _, read, _, each⟩
  rcases each 0 _ rfl with ⟨file, document, contribution, _, path, _, _, listed, describes⟩
  rw [path, clean] at describes
  exact ⟨accepted, files, fragmentFile, fragment, contribution, document, assembled, read, listed,
    describes⟩

end Inset
