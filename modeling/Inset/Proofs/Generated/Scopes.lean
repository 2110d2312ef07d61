import Inset.Proofs.Generated.Fragment

/-!
# What a content scope names

A content scope ends in the identifiers of a language and of a host, with a dot between
them and none of their own dots told apart from it.  So two pairs of identifiers may give
one scope, which then names a language in the grammar of one host and another language in
that of the other.  That is so exactly if the identifiers *overlap*: one host has the
identifier of another with more in front, and a language has just that at the end of its
own (`Manifest.scopes_tell_apart_iff`).  Validation does not ask for that
(`Manifest.not_scopes_tell_apart_dotted`).
-/

namespace Inset

/-! ## Equal scopes -/

/-- Whether what the identifier of the first host has in front of that of the second is
what the identifier of the second language has behind that of the first. -/
def Overlaps (host host' : Host) (language language' : Embedded) : Prop :=
  ∃ middle, host.id = middle ++ "." ++ host'.id ∧ language'.id = language.id ++ "." ++ middle

theorem append_dot_eq_append_dot_iff {front front' back back' : List Char} :
    front ++ '.' :: back = front' ++ '.' :: back' ↔
      front = front' ∧ back = back' ∨
      (∃ middle, back = middle ++ '.' :: back' ∧ front' = front ++ '.' :: middle) ∨
      ∃ middle, back' = middle ++ '.' :: back ∧ front = front' ++ '.' :: middle := by
  constructor
  · intro same
    rcases List.append_eq_append_iff.mp same with ⟨more, longer, rest⟩ | ⟨more, longer, rest⟩
    · cases more with
      | nil =>
          rw [List.append_nil] at longer
          exact .inl ⟨longer.symm, (List.cons.inj rest).2⟩
      | cons dot middle =>
          rcases List.cons.inj rest with ⟨rfl, back_eq⟩
          exact .inr (.inl ⟨middle, back_eq, longer⟩)
    · cases more with
      | nil =>
          rw [List.append_nil] at longer
          exact .inl ⟨longer, (List.cons.inj rest).2.symm⟩
      | cons dot middle =>
          rcases List.cons.inj rest with ⟨rfl, back_eq⟩
          exact .inr (.inr ⟨middle, back_eq, longer⟩)
  · rintro (⟨rfl, rfl⟩ | ⟨middle, rfl, rfl⟩ | ⟨middle, rfl, rfl⟩) <;> simp

theorem overlaps_iff {host host' : Host} {language language' : Embedded} :
    Overlaps host host' language language' ↔
      ∃ middle, host.id.toList = middle ++ '.' :: host'.id.toList ∧
        language'.id.toList = language.id.toList ++ '.' :: middle := by
  constructor
  · rintro ⟨middle, inHost, inLanguage⟩
    exact ⟨middle.toList, by simp [inHost], by simp [inLanguage]⟩
  · rintro ⟨middle, inHost, inLanguage⟩
    refine ⟨String.ofList middle, ?_, ?_⟩
    · rw [← String.toList_inj, inHost]
      simp
    · rw [← String.toList_inj, inLanguage]
      simp

/-- Two scopes are equal exactly if the identifiers are, or overlap. -/
theorem Host.blockScope_eq_blockScope_iff {host host' : Host} {language language' : Embedded} :
    host.blockScope language = host'.blockScope language' ↔
      language.id = language'.id ∧ host.id = host'.id ∨
      Overlaps host host' language language' ∨ Overlaps host' host language' language := by
  have chars (front back : String) :
      (front ++ ("." ++ back)).toList = front.toList ++ '.' :: back.toList := by simp
  unfold blockScope
  simp only [String.append_assoc, String.append_right_inj]
  rw [overlaps_iff, overlaps_iff, ← String.toList_inj, chars, chars,
    append_dot_eq_append_dot_iff, String.toList_inj, String.toList_inj]

/-- Identifiers that overlap are not those of one language. -/
theorem Overlaps.id_ne {host host' : Host} {language language' : Embedded}
    (overlaps : Overlaps host host' language language') : language.id ≠ language'.id := by
  rcases overlaps_iff.mp overlaps with ⟨middle, _, longer⟩
  intro same
  rw [same] at longer
  have lengths := congrArg List.length longer
  simp at lengths

/-! ## The scopes of a manifest -/

/-- Under a scope of a fragment stands the identifier of a language that has this scope. -/
theorem HostEntry.exists_of_get?_embeddedLanguages {entry : HostEntry}
    {languages : List Embedded} {scope id : String}
    (found : (entry.contribution languages).embeddedLanguages.get? scope = some id) :
    ∃ language ∈ languages, entry.host.blockScope language = scope ∧ language.id = id := by
  rw [contribution, Dictionary.get?_ofList] at found
  have listed := List.mem_reverse.mp (Dictionary.mem_of_lookup found)
  rcases List.mem_map.mp listed with ⟨language, member, same⟩
  rcases Prod.mk.inj same with ⟨scope, id⟩
  exact ⟨language, member, scope, id⟩

/-- Whether no scope of a fragment stands for two languages, all grammars taken
together. -/
def Contributes.NamesOneLanguage (fragment : Contributes) : Prop :=
  ∀ grammar ∈ fragment.grammars, ∀ grammar' ∈ fragment.grammars, ∀ scope id id',
    grammar.embeddedLanguages.get? scope = some id →
    grammar'.embeddedLanguages.get? scope = some id' → id = id'

namespace Manifest

variable {manifest : Manifest}

/-- Whether the scopes of a manifest tell apart its hosts and the identifiers of its
languages. -/
def ScopesTellApart (manifest : Manifest) : Prop :=
  ∀ entry ∈ manifest.hosts, ∀ entry' ∈ manifest.hosts,
    ∀ language ∈ manifest.embedded, ∀ language' ∈ manifest.embedded,
      entry.host.blockScope language = entry'.host.blockScope language' →
        language.id = language'.id ∧ entry = entry'

/-- Whether identifiers of a manifest overlap. -/
def HasOverlap (manifest : Manifest) : Prop :=
  ∃ entry ∈ manifest.hosts, ∃ entry' ∈ manifest.hosts,
    ∃ language ∈ manifest.embedded, ∃ language' ∈ manifest.embedded,
      Overlaps entry.host entry'.host language language'

theorem eq_of_id_eq (accepted : manifest.validate = .ok ()) {entry entry' : HostEntry}
    (member : entry ∈ manifest.hosts) (member' : entry' ∈ manifest.hosts)
    (same : entry.id = entry'.id) : entry = entry' := by
  have ids : (manifest.hosts.map HostEntry.id).Nodup :=
    List.pairwise_map.mpr (validate_eq_ok_iff.mp accepted).ids
  exact List.inj_on_of_nodup_map ids member member' same

/-- Scopes tell hosts and languages apart exactly if no identifiers overlap. -/
theorem scopesTellApart_iff (accepted : manifest.validate = .ok ()) :
    manifest.ScopesTellApart ↔ ¬manifest.HasOverlap := by
  constructor
  · rintro apart ⟨entry, member, entry', member', language, inLanguages, language', inLanguages',
      overlaps⟩
    have same := Host.blockScope_eq_blockScope_iff.mpr (.inr (.inl overlaps))
    exact overlaps.id_ne
      (apart entry member entry' member' language inLanguages language' inLanguages' same).1
  · intro none entry member entry' member' language inLanguages language' inLanguages' same
    rcases Host.blockScope_eq_blockScope_iff.mp same with ⟨ids, hostIds⟩ | overlaps | overlaps
    · exact ⟨ids, eq_of_id_eq accepted member member' hostIds⟩
    · exact absurd ⟨entry, member, entry', member', language, inLanguages, language',
        inLanguages', overlaps⟩ none
    · exact absurd ⟨entry', member', entry, member, language', inLanguages', language,
        inLanguages, overlaps⟩ none

/-- A fragment gives every scope one language exactly if no identifiers overlap. -/
theorem namesOneLanguage_iff (accepted : manifest.validate = .ok ()) :
    manifest.contribution.NamesOneLanguage ↔ ¬manifest.HasOverlap := by
  constructor
  · rintro one ⟨entry, member, entry', member', language, inLanguages, language', inLanguages',
      overlaps⟩
    have same := Host.blockScope_eq_blockScope_iff.mpr (.inr (.inl overlaps))
    refine overlaps.id_ne (one _ (List.mem_map_of_mem member) _ (List.mem_map_of_mem member') _
      _ _ (HostEntry.get?_embeddedLanguages inLanguages) ?_)
    rw [same]
    exact HostEntry.get?_embeddedLanguages inLanguages'
  · intro none grammar listed grammar' listed' scope id id' found found'
    rcases List.mem_map.mp listed with ⟨entry, member, rfl⟩
    rcases List.mem_map.mp listed' with ⟨entry', member', rfl⟩
    rcases HostEntry.exists_of_get?_embeddedLanguages found with
      ⟨language, inLanguages, scope_eq, rfl⟩
    rcases HostEntry.exists_of_get?_embeddedLanguages found' with
      ⟨language', inLanguages', rfl, rfl⟩
    exact ((scopesTellApart_iff accepted).mpr none entry member entry' member' language
      inLanguages language' inLanguages' scope_eq).1

/-- Identifiers overlap only where one of a host and one of a language hold a dot. -/
theorem not_hasOverlap_of_undotted
    (undotted : (∀ entry ∈ manifest.hosts, '.' ∉ entry.id.toList) ∨
      ∀ language ∈ manifest.embedded, '.' ∉ language.id.toList) : ¬manifest.HasOverlap := by
  rintro ⟨entry, member, _, _, _, _, language, inLanguages, overlaps⟩
  rcases overlaps_iff.mp overlaps with ⟨middle, inHost, inLanguage⟩
  have hostDot : '.' ∈ entry.id.toList := by
    change '.' ∈ entry.host.id.toList
    simp [inHost]
  have languageDot : '.' ∈ language.id.toList := by simp [inLanguage]
  rcases undotted with hosts | languages
  · exact hosts entry member hostDot
  · exact languages language inLanguages languageDot

/-- The scopes of an accepted manifest tell its hosts and languages apart exactly if no
identifiers overlap, and just then its fragment gives every scope one language.  That is so
where no identifier of a host holds a dot, or none of a language. -/
theorem scopes_tell_apart_iff (accepted : manifest.validate = .ok ()) :
    (manifest.ScopesTellApart ↔ ¬manifest.HasOverlap) ∧
    (manifest.contribution.NamesOneLanguage ↔ ¬manifest.HasOverlap) ∧
    ((∀ entry ∈ manifest.hosts, '.' ∉ entry.id.toList) ∨
      (∀ language ∈ manifest.embedded, '.' ∉ language.id.toList) → manifest.ScopesTellApart) :=
  ⟨scopesTellApart_iff accepted, namesOneLanguage_iff accepted,
    fun undotted => (scopesTellApart_iff accepted).mpr (not_hasOverlap_of_undotted undotted)⟩

/-- A manifest with the identifiers `b.c` and `c` of hosts, and `a` and another one of
languages. -/
def dotted (id : String) : Manifest where
  contributes := some ⟨"f"⟩
  hosts := [⟨.go, "b.c", "s", ⟨"x"⟩, none⟩, ⟨.go, "c", "s", ⟨"y"⟩, none⟩]
  embedded := [⟨"n", "t", "a", "r"⟩, ⟨"n", "t", id, "r"⟩]

/-- Identifiers of hosts may hold dots if those of languages do not. -/
theorem scopes_tell_apart_dotted :
    (dotted "b").validate = .ok () ∧ (dotted "b").ScopesTellApart ∧
      (dotted "b").contribution.NamesOneLanguage := by
  have accepted : (dotted "b").validate = .ok () := by decide
  have undotted : ∀ language ∈ (dotted "b").embedded, '.' ∉ language.id.toList := by decide
  rcases scopes_tell_apart_iff accepted with ⟨apart, one, undotted_apart⟩
  have scopes := undotted_apart (.inr undotted)
  exact ⟨accepted, scopes, one.mpr (apart.mp scopes)⟩

/-- An accepted manifest may have a scope that its fragment gives to one language in the
grammar of one host and to another language in that of the other. -/
theorem not_scopes_tell_apart_dotted :
    (dotted "a.b").validate = .ok () ∧ ¬(dotted "a.b").ScopesTellApart ∧
      (dotted "a.b").contribution.grammars.map
          (fun grammar => grammar.embeddedLanguages.get? "meta.embedded.block.a.b.c") =
        [some "a", some "a.b"] := by
  have accepted : (dotted "a.b").validate = .ok () := by decide
  have overlap : (dotted "a.b").HasOverlap := by
    refine ⟨_, List.mem_cons_self, _, List.mem_cons_of_mem _ List.mem_cons_self,
      _, List.mem_cons_self, _, List.mem_cons_of_mem _ List.mem_cons_self, "b", ?_, ?_⟩ <;> decide
  exact ⟨accepted, fun apart => (scopesTellApart_iff accepted).mp apart overlap, by decide⟩

end Manifest

end Inset
