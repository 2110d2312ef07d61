import Inset.Grammar.Injection
import Inset.Proofs.Pattern.Meaning

/-!
# What an opening pattern matches

The opening pattern of a language pastes its tags between fixed parts.  If the tags are
words, the pattern is read as a tree in which the words are the branches of one group
(`read?_beginPattern`), whatever their number, and what it matches are the markers that name
one of them: a comment with the word in it, space and a backtick.  The groups of the pattern
then capture the comment, its delimiters and the backtick (`region_begins_matches_markers`).
-/

namespace Inset.Grammar

open Pattern
open Pattern.Language (captured_of followed_of)

/-! ## The pattern that is read -/

/-- The characters of tags that are words. -/
def isTagChar (c : Char) : Bool :=
  c.isAlphanum || c == '_'

theorem isBlankChar_of_isAlphanum {c : Char} (letter : c.isAlphanum = true) :
    Text.isBlankChar c = false := by
  have codes : (65 ≤ c.toNat ∧ c.toNat ≤ 90 ∨ 97 ≤ c.toNat ∧ c.toNat ≤ 122) ∨
      48 ≤ c.toNat ∧ c.toNat ≤ 57 := by
    rcases (Bool.or_eq_true _ _).mp letter with alpha | digit
    · rcases (Bool.or_eq_true _ _).mp alpha with upper | lower
      · exact .inl (.inl (of_decide_eq_true upper))
      · rcases (Bool.and_eq_true _ _).mp lower with ⟨first, last⟩
        exact .inl (.inr ⟨of_decide_eq_true first, of_decide_eq_true last⟩)
    · rcases (Bool.and_eq_true _ _).mp digit with ⟨first, last⟩
      exact .inr ⟨of_decide_eq_true first, of_decide_eq_true last⟩
  simp [Text.isBlankChar]
  omega

/-- What may stand in a tag stands for itself in a pattern. -/
theorem isPlainChar_of_isTagChar {c : Char} (isTag : isTagChar c = true) : IsPlainChar c := by
  rcases (Bool.or_eq_true _ _).mp isTag with letter | underscore
  · refine ⟨isBlankChar_of_isAlphanum letter, fun special => ?_⟩
    have others : ['#', ')', '|', '(', '?', '*', '+', '[', '\\', '\x7b', '.', '^', '$'].all
        (!Char.isAlphanum ·) = true := by decide
    have other := List.all_eq_true.mp others c special
    rw [letter] at other
    contradiction
  · rw [beq_iff_eq.mp underscore]
    decide

/-- The opening pattern for words, as a tree. -/
def markerPattern (words : List (List Char)) : Pattern :=
  .sequence [
    .flags [(.spaced, true)],
    .group .numbered (.sequence [
      .group .numbered (ofWord ['/', '*']),
      spaces,
      .group (.plain [(.ignoreCase, true)]) (ofBranches (words.map ofWord)),
      spaces,
      .group .numbered (ofWord ['*', '/'])]),
    spaces,
    .group .numbered (ofWord ['`'])]

theorem toList_beginPattern_tags (tags : List String) :
    (beginPattern ("|".intercalate tags)).toList =
      "(?x)\n( (/\\*) \\s*\n(?i:".toList ++ (['|'].intercalate (tags.map String.toList) ++
        ")\n\\s* (\\*/) )\n\\s* (\\`)\n".toList) := by
  simp only [beginPattern, String.toList_append, String.toList_intercalate, List.append_assoc]
  rfl

/-- What follows the comment is read as space and the group of the backtick. -/
theorem readsAs_gap (parts : List Pattern) :
    ReadsAs true [] parts "\n\\s* (\\`)\n".toList
      (assembled [] (.group .numbered (ofWord ['`']) :: spaces :: parts)) [] := by
  simp only [String.reduceToList]
  refine .blank (by decide) (.escape rfl (.star rfl (.blank (by decide) ?_)))
  exact .group rfl (Nat.le_refl _) (.escape rfl (.close _ _ _ _))
    (.blank (by decide) (.finish _ _ _))

/-- What follows the tags is read as space and the group of the closing delimiter, up to the
end of the comment. -/
theorem readsAs_closing (parts : List Pattern) (rest : List Char) :
    ReadsAs true [] parts ("\n\\s* (\\*/) )".toList ++ rest)
      (assembled [] (.group .numbered (ofWord ['*', '/']) :: spaces :: parts)) (')' :: rest) := by
  simp only [String.reduceToList, List.cons_append, List.nil_append]
  refine .blank (by decide) (.escape rfl (.star rfl (.blank (by decide) ?_)))
  exact .group rfl (Nat.le_refl _)
    (.escape rfl (.character (by decide) (.close _ _ _ _)))
    (.blank (by decide) (.close _ _ _ _))

/-- The opening pattern of tags that are words is read as the tree of these words. -/
theorem read?_beginPattern {word : List Char} {others : List (List Char)}
    (plain : ∀ item ∈ word :: others, ∀ c ∈ item, IsPlainChar c) :
    read? ("(?x)\n( (/\\*) \\s*\n(?i:".toList ++ (['|'].intercalate (word :: others) ++
      ")\n\\s* (\\*/) )\n\\s* (\\`)\n".toList)) = some (markerPattern (word :: others)) := by
  apply read?_of_readsAs
  have tags := ReadsAs.words plain true [] ("\n\\s* (\\*/) )\n\\s* (\\`)\n".toList)
  simp only [String.reduceToList, List.cons_append, List.nil_append] at tags ⊢
  refine .flags rfl (by simp) (.blank (by decide) ?_)
  refine .group rfl (by simp) ?_ (readsAs_gap _)
  refine .group rfl (by simp) (.character (by decide) (.escape rfl (.close _ _ _ _))) ?_
  refine .blank (by decide) (.escape rfl (.star rfl (.blank (by decide) ?_)))
  refine .group rfl (by simp) tags ?_
  exact readsAs_closing _ _

/-! ## Markers -/

/-- A marker comment and the backtick after it, by what is free in them. -/
structure Marker where
  /-- The white space before the word. -/
  before : List Char
  word : List Char
  /-- The white space after the word. -/
  after : List Char
  /-- The white space between the comment and the backtick. -/
  gap : List Char

namespace Marker

/-- The comment with its delimiters. -/
def comment (marker : Marker) : List Char :=
  ['/', '*'] ++ marker.before ++ marker.word ++ marker.after ++ ['*', '/']

/-- The comment, the white space after it and the backtick. -/
def text (marker : Marker) : List Char :=
  marker.comment ++ marker.gap ++ ['`']

/-- The comment, its two delimiters and the backtick, in the order in which they end. -/
def submatches (marker : Marker) : List Submatch :=
  [⟨2, 0, ['/', '*']⟩,
    ⟨3, 2 + marker.before.length + marker.word.length + marker.after.length, ['*', '/']⟩,
    ⟨1, 0, marker.comment⟩,
    ⟨4, marker.comment.length + marker.gap.length, ['`']⟩]

/-- Whether a marker names one of the tags, with its letters in some case. -/
structure Names (sameLetter : Char → Char → Prop) (tags : List String) (marker : Marker) :
    Prop where
  before : ∀ c ∈ marker.before, Text.isBlankChar c = true
  word : ∃ tag ∈ tags, List.Forall₂ sameLetter tag.toList marker.word
  after : ∀ c ∈ marker.after, Text.isBlankChar c = true
  gap : ∀ c ∈ marker.gap, Text.isBlankChar c = true

end Marker

/-- A delimiter is captured by the next group and matches itself only. -/
theorem denotes_delimiter (sameLetter : Char → Char → Prop) (groups : Nat)
    (delimiter : List Char) :
    Denotes sameLetter (meaning? ⟨false, groups⟩ (.group .numbered (ofWord delimiter)))
      (.captured (groups + 1) (.exactly delimiter)) ⟨false, groups + 1⟩ :=
  .numbered (.exactly sameLetter (groups + 1) delimiter)

/-- What the opening pattern for words matches. -/
def markerLanguage (sameLetter : Char → Char → Prop) (words : List (List Char)) : Language :=
  .followed .nothing
    (.followed
      (.captured 1
        (.followed (.captured 2 (.exactly ['/', '*']))
          (.followed .blanks
            (.followed (.oneOf sameLetter words)
              (.followed .blanks (.captured 3 (.exactly ['*', '/'])))))))
      (.followed .blanks (.captured 4 (.exactly ['`']))))

theorem denotes_markerPattern (sameLetter : Char → Char → Prop) (word : List Char)
    (others : List (List Char)) :
    Denotes sameLetter (meaning? ⟨false, 0⟩ (markerPattern (word :: others)))
      (markerLanguage sameLetter (word :: others)) ⟨false, 4⟩ := by
  have delimiter := denotes_delimiter sameLetter
  have blanks (groups : Nat) := Denotes.blanks sameLetter ⟨false, groups⟩
  have tags := Denotes.plain (rfl : Surroundings.set? ⟨false, 2⟩ [(.ignoreCase, true)] = _)
    (Denotes.words sameLetter ⟨true, 2⟩ word others)
  have comment := Denotes.numbered (.sequence (.cons (delimiter 1 ['/', '*'])
    (.cons (blanks 2) (.cons tags (.cons (blanks 2) (.last (delimiter 2 ['*', '/'])))))))
  exact .sequence (.cons (.flags sameLetter rfl) (.cons comment
    (.cons (blanks 3) (.last (delimiter 3 ['`'])))))

/-- The opening pattern matches markers, and its groups capture their parts. -/
theorem markerLanguage_iff {sameLetter : Char → Char → Prop} {tags : List String}
    {subject : List Char} {submatches : List Submatch} :
    markerLanguage sameLetter (tags.map String.toList) 0 subject submatches ↔
      ∃ marker : Marker, marker.Names sameLetter tags ∧ subject = marker.text ∧
        submatches = marker.submatches := by
  constructor
  · rintro ⟨_, _, _, _, rfl, rfl, ⟨rfl, rfl⟩, _, _, _, _, rfl, rfl, ⟨_, comment, rfl⟩, rest⟩
    rcases comment with ⟨_, _, _, _, rfl, rfl, ⟨_, ⟨rfl, rfl⟩, rfl⟩, inner⟩
    rcases inner with ⟨before, _, _, _, rfl, rfl, ⟨isBefore, rfl⟩, inner⟩
    rcases inner with ⟨word, _, _, _, rfl, rfl, ⟨_, listed, spells, rfl⟩, inner⟩
    rcases inner with ⟨after, _, _, _, rfl, rfl, ⟨isAfter, rfl⟩, _, ⟨rfl, rfl⟩, rfl⟩
    rcases rest with ⟨gap, _, _, _, rfl, rfl, ⟨isGap, rfl⟩, _, ⟨rfl, rfl⟩, rfl⟩
    rcases List.mem_map.mp listed with ⟨tag, isTag, rfl⟩
    refine ⟨⟨before, word, after, gap⟩, ⟨isBefore, ⟨tag, isTag, spells⟩, isAfter, isGap⟩, ?_, ?_⟩
    · simp [Marker.text, Marker.comment]
    · simp [Marker.submatches, Marker.comment]
  · rintro ⟨⟨before, word, after, gap⟩, ⟨isBefore, ⟨tag, isTag, spells⟩, isAfter, isGap⟩, rfl, rfl⟩
    have listed : tag.toList ∈ tags.map String.toList := List.mem_map_of_mem isTag
    have whole : markerLanguage sameLetter (tags.map String.toList) 0 _ _ :=
      followed_of ⟨rfl, rfl⟩ (followed_of
        (captured_of 1 (followed_of (captured_of 2 ⟨rfl, rfl⟩)
          (followed_of ⟨isBefore, rfl⟩ (followed_of ⟨_, listed, spells, rfl⟩
            (followed_of ⟨isAfter, rfl⟩ (captured_of 3 ⟨rfl, rfl⟩))))))
        (followed_of ⟨isGap, rfl⟩ (captured_of 4 ⟨rfl, rfl⟩)))
    simpa [Marker.text, Marker.comment, Marker.submatches] using whole

/-- The opening pattern of tags that are words has a meaning, which matches just the markers
that name one of the tags up to case, and captures the comment, its delimiters and the
backtick.  What counts as the same letter in another case is left open. -/
theorem region_begins_matches_markers {tags : List String} (nonempty : tags ≠ [])
    (words : ∀ tag ∈ tags, tag.toList.all isTagChar = true) (host : Host) {language : Embedded}
    (joined : language.tags = "|".intercalate tags) (sameLetter : Char → Char → Prop) :
    ∃ expression, expression? (region host language).begins.toList = some expression ∧
      ∀ subject submatches, expression.Matches sameLetter 0 subject submatches ↔
        ∃ marker : Marker, marker.Names sameLetter tags ∧ subject = marker.text ∧
          submatches = marker.submatches := by
  rcases List.exists_cons_of_ne_nil nonempty with ⟨tag, others, rfl⟩
  have plain : ∀ item ∈ (tag :: others).map String.toList, ∀ c ∈ item, IsPlainChar c :=
    List.forall_mem_map.mpr fun item listed c member =>
      isPlainChar_of_isTagChar (List.all_eq_true.mp (words item listed) c member)
  rcases denotes_markerPattern sameLetter tag.toList (others.map String.toList)
    with ⟨expression, made, matched⟩
  refine ⟨expression, ?_, fun subject submatches => ?_⟩
  · rw [region, joined, toList_beginPattern_tags, expression?, List.map_cons,
      read?_beginPattern plain, Option.bind_some, made]
    rfl
  · rw [matched, ← List.map_cons, markerLanguage_iff]

/-- A marker in another case, with a line break before the backtick, is matched from its
beginning to its end; a comment alone is not. -/
theorem region_begins_matches_postgres : ∃ expression,
    expression? (region ⟨"go", "s"⟩ ⟨"SQL", "sql|postgres", "sql", "r"⟩).begins.toList =
        some expression ∧
      expression.Matches (fun c c' => c.toLower = c'.toLower) 0
        "/*  Postgres */\n\t`".toList
        [⟨2, 0, "/*".toList⟩, ⟨3, 13, "*/".toList⟩, ⟨1, 0, "/*  Postgres */".toList⟩,
          ⟨4, 17, "`".toList⟩] ∧
      ∀ submatches, ¬expression.Matches (fun c c' => c.toLower = c'.toLower) 0
        "/*sql*/".toList submatches := by
  have words : ∀ tag ∈ ["sql", "postgres"], tag.toList.all isTagChar = true := by decide
  rcases region_begins_matches_markers (by decide) words ⟨"go", "s"⟩
    (rfl : (⟨"SQL", "sql|postgres", "sql", "r"⟩ : Embedded).tags = _)
    (fun c c' => c.toLower = c'.toLower) with ⟨expression, made, matched⟩
  refine ⟨expression, made, (matched _ _).mpr ?_, fun submatches here => ?_⟩
  · refine ⟨⟨[' ', ' '], "Postgres".toList, [' '], ['\n', '\t']⟩, ⟨?_, ?_, ?_, ?_⟩, rfl, rfl⟩
    · simp [Text.isBlankChar]
    · exact ⟨"postgres", by decide, by simp⟩
    · simp [Text.isBlankChar]
    · simp [Text.isBlankChar]
  · rcases (matched _ _).mp here with ⟨marker, _, same, _⟩
    have last := congrArg List.getLast? same
    rw [Marker.text, List.getLast?_concat] at last
    exact absurd last (by decide +kernel)

end Inset.Grammar
