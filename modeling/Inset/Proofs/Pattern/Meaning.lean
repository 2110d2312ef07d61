import Inset.Proofs.Pattern.Reading
import Mathlib.Data.List.Forall2

/-!
# What patterns match

An expression is what a pattern means, with its flags resolved and its groups numbered in
the order of their opening parentheses.  Only patterns of characters, space, groups,
repetitions and branches are given a meaning here (`meaning?`).  What an expression matches,
and which parts of the match its groups capture, is said by one rule for each constructor
(`Expression.Matches`).  The rules leave open which of several matches is preferred, and
what counts as the same letter in another case.
-/

namespace Inset.Pattern

/-! ## Expressions -/

/-- The meaning of a pattern. -/
inductive Expression
  | nothing
  /-- A character, in either case or just as it is. -/
  | character (c : Char) (eitherCase : Bool)
  | space
  | followed (first second : Expression)
  | either (first second : Expression)
  /-- Any number of times. -/
  | repeated (body : Expression)
  | captured (number : Nat) (body : Expression)

/-- The part of a text that a group captures, and the place where it begins. -/
structure Submatch where
  number : Nat
  start : Nat
  text : List Char
  deriving DecidableEq

/-- Whether an expression matches a text that begins at a place.  The submatches come in the
order in which they end. -/
inductive Expression.Matches (sameLetter : Char → Char → Prop) :
    Expression → Nat → List Char → List Submatch → Prop
  | nothing (start : Nat) : Matches sameLetter .nothing start [] []
  | exactly (c : Char) (start : Nat) : Matches sameLetter (.character c false) start [c] []
  | eitherCase {c c' : Char} (same : sameLetter c c') (start : Nat) :
      Matches sameLetter (.character c true) start [c'] []
  | space {c : Char} (blank : Text.isBlankChar c = true) (start : Nat) :
      Matches sameLetter .space start [c] []
  | followed {first second : Expression} {start : Nat} {text text' : List Char}
      {submatches submatches' : List Submatch}
      (before : Matches sameLetter first start text submatches)
      (after : Matches sameLetter second (start + text.length) text' submatches') :
      Matches sameLetter (.followed first second) start (text ++ text')
        (submatches ++ submatches')
  | first {first second : Expression} {start : Nat} {text : List Char}
      {submatches : List Submatch} (here : Matches sameLetter first start text submatches) :
      Matches sameLetter (.either first second) start text submatches
  | second {first second : Expression} {start : Nat} {text : List Char}
      {submatches : List Submatch} (here : Matches sameLetter second start text submatches) :
      Matches sameLetter (.either first second) start text submatches
  | done (body : Expression) (start : Nat) : Matches sameLetter (.repeated body) start [] []
  | again {body : Expression} {start : Nat} {text text' : List Char}
      {submatches submatches' : List Submatch}
      (once : Matches sameLetter body start text submatches)
      (more : Matches sameLetter (.repeated body) (start + text.length) text' submatches') :
      Matches sameLetter (.repeated body) start (text ++ text') (submatches ++ submatches')
  | captured {number : Nat} {body : Expression} {start : Nat} {text : List Char}
      {submatches : List Submatch} (inside : Matches sameLetter body start text submatches) :
      Matches sameLetter (.captured number body) start text
        (submatches ++ [⟨number, start, text⟩])

/-! ## The meaning of a pattern -/

/-- What governs the meaning of a part of a pattern: whether letters stand for either case,
and the number of groups that have been opened before. -/
structure Surroundings where
  ignoreCase : Bool
  groups : Nat

/-- The surroundings after flags are set.  Patterns that speak of bytes are not given a
meaning, and the other flags make no difference to the patterns that are. -/
def Surroundings.set? (around : Surroundings) : Settings → Option Surroundings
  | [] => some around
  | (.ignoreCase, value) :: settings => { around with ignoreCase := value }.set? settings
  | (.characters, false) :: _ => none
  | _ :: settings => around.set? settings

/-- Something repeated. -/
def Times.expression (body : Expression) : Times → Expression
  | atMostOnce => .either body .nothing
  | anyTimes => .repeated body
  | atLeastOnce => .followed body (.repeated body)

mutual

/-- The meaning of a pattern, if it has one here, and the surroundings after it. -/
def meaning? (around : Surroundings) : Pattern → Option (Expression × Surroundings)
  | .empty => some (.nothing, around)
  | .character c _ => some (.character c around.ignoreCase, around)
  | .lettered .space false => some (.space, around)
  | .flags settings => (around.set? settings).map fun after => (.nothing, after)
  | .group (.plain settings) body =>
      match around.set? settings with
      | none => none
      | some inside =>
          (meaning? inside body).map fun (expression, after) =>
            (expression, { after with ignoreCase := around.ignoreCase })
  | .group _ body =>
      (meaning? { around with groups := around.groups + 1 } body).map
        fun (expression, after) =>
          (.captured (around.groups + 1) expression,
            { after with ignoreCase := around.ignoreCase })
  | .repetition times body =>
      (meaning? around body).map fun (expression, after) => (times.expression expression, after)
  | .sequence parts => sequenceMeaning? around parts
  | .choice branches => choiceMeaning? around branches
  | .any | .edge | .boundary | .lettered _ _ | .bracket _ _ => none

/-- The meaning of patterns one after the other. -/
def sequenceMeaning? (around : Surroundings) :
    List Pattern → Option (Expression × Surroundings)
  | [] => some (.nothing, around)
  | part :: parts =>
      match meaning? around part with
      | none => none
      | some (first, around) =>
          (sequenceMeaning? around parts).map fun (second, after) =>
            (.followed first second, after)

/-- The meaning of a choice among patterns. -/
def choiceMeaning? (around : Surroundings) : List Pattern → Option (Expression × Surroundings)
  | [] => none
  | [branch] => meaning? around branch
  | branch :: branches =>
      match meaning? around branch with
      | none => none
      | some (first, around) =>
          (choiceMeaning? around branches).map fun (second, after) =>
            (.either first second, after)

end

/-- The meaning of the pattern that a text spells. -/
def expression? (text : List Char) : Option Expression :=
  (read? text).bind fun pattern => (meaning? ⟨false, 0⟩ pattern).map Prod.fst

/-! ## What an expression matches -/

section Matches

variable {sameLetter : Char → Char → Prop} {start : Nat} {text : List Char}
  {submatches : List Submatch}

theorem matches_nothing_iff :
    Expression.nothing.Matches sameLetter start text submatches ↔
      text = [] ∧ submatches = [] := by
  constructor
  · rintro ⟨⟩
    exact ⟨rfl, rfl⟩
  · rintro ⟨rfl, rfl⟩
    exact .nothing start

/-- The characters that a character stands for. -/
def same (sameLetter : Char → Char → Prop) (eitherCase : Bool) : Char → Char → Prop :=
  if eitherCase then sameLetter else Eq

theorem matches_character_iff {c : Char} {eitherCase : Bool} :
    (Expression.character c eitherCase).Matches sameLetter start text submatches ↔
      ∃ c', same sameLetter eitherCase c c' ∧ text = [c'] ∧ submatches = [] := by
  constructor
  · rintro (_ | _ | related)
    · exact ⟨c, rfl, rfl, rfl⟩
    · exact ⟨_, related, rfl, rfl⟩
  · rintro ⟨c', related, rfl, rfl⟩
    cases eitherCase with
    | false =>
        obtain rfl : c = c' := related
        exact .exactly c start
    | true => exact .eitherCase related start

theorem matches_followed_iff {first second : Expression} :
    (Expression.followed first second).Matches sameLetter start text submatches ↔
      ∃ before after inBefore inAfter, text = before ++ after ∧
        submatches = inBefore ++ inAfter ∧ first.Matches sameLetter start before inBefore ∧
        second.Matches sameLetter (start + before.length) after inAfter := by
  constructor
  · rintro (_ | _ | _ | _ | ⟨here, there⟩)
    exact ⟨_, _, _, _, rfl, rfl, here, there⟩
  · rintro ⟨_, _, _, _, rfl, rfl, here, there⟩
    exact .followed here there

theorem matches_either_iff {first second : Expression} :
    (Expression.either first second).Matches sameLetter start text submatches ↔
      first.Matches sameLetter start text submatches ∨
        second.Matches sameLetter start text submatches := by
  constructor
  · intro matched
    cases matched with
    | first here => exact .inl here
    | second here => exact .inr here
  · exact fun either => either.elim .first .second

theorem matches_captured_iff {number : Nat} {body : Expression} :
    (Expression.captured number body).Matches sameLetter start text submatches ↔
      ∃ inside, body.Matches sameLetter start text inside ∧
        submatches = inside ++ [⟨number, start, text⟩] := by
  constructor
  · intro matched
    cases matched with
    | captured inside => exact ⟨_, inside, rfl⟩
  · rintro ⟨_, inside, rfl⟩
    exact .captured inside

/-- Any amount of space is a text of nothing but white space. -/
theorem matches_spaces_iff :
    (Expression.repeated .space).Matches sameLetter start text submatches ↔
      (∀ c ∈ text, Text.isBlankChar c = true) ∧ submatches = [] := by
  constructor
  · intro matched
    generalize spaces : Expression.repeated .space = expression at matched
    induction matched with
    | done => exact ⟨nofun, rfl⟩
    | again once _ _ ih =>
        cases spaces
        cases once with
        | space blank =>
            rcases ih rfl with ⟨blanks, rfl⟩
            exact ⟨List.forall_mem_cons.mpr ⟨blank, blanks⟩, rfl⟩
    | nothing | exactly | eitherCase | space | followed | first | second | captured =>
        contradiction
  · rintro ⟨blanks, rfl⟩
    induction text generalizing start with
    | nil => exact .done _ _
    | cons c text ih =>
        rw [List.forall_mem_cons] at blanks
        exact .again (.space blanks.1 start) (ih blanks.2)

end Matches

/-! ## Patterns by what they match -/

/-- What is matched from which place on, with which submatches. -/
abbrev Language := Nat → List Char → List Submatch → Prop

namespace Language

/-- The empty text. -/
def nothing : Language := fun _ text submatches => text = [] ∧ submatches = []

/-- White space, without any submatch. -/
def blanks : Language := fun _ text submatches =>
  (∀ c ∈ text, Text.isBlankChar c = true) ∧ submatches = []

/-- Just a word. -/
def exactly (word : List Char) : Language := fun _ text submatches =>
  text = word ∧ submatches = []

/-- A word, with characters that are the same in some sense. -/
def spelled (same : Char → Char → Prop) (word : List Char) : Language :=
  fun _ text submatches => List.Forall₂ same word text ∧ submatches = []

/-- One of several words. -/
def oneOf (same : Char → Char → Prop) (words : List (List Char)) : Language :=
  fun start text submatches => ∃ word ∈ words, spelled same word start text submatches

/-- One text followed by another. -/
def followed (first second : Language) : Language := fun start text submatches =>
  ∃ before after inBefore inAfter, text = before ++ after ∧ submatches = inBefore ++ inAfter ∧
    first start before inBefore ∧ second (start + before.length) after inAfter

/-- What a group captures comes after what the groups within it capture. -/
def captured (number : Nat) (body : Language) : Language := fun start text submatches =>
  ∃ inside, body start text inside ∧ submatches = inside ++ [⟨number, start, text⟩]

section

variable {first second : Language} {start : Nat} {text text' : List Char}
  {submatches submatches' : List Submatch}

theorem followed_of (here : first start text submatches)
    (there : second (start + text.length) text' submatches') :
    first.followed second start (text ++ text') (submatches ++ submatches') :=
  ⟨text, text', submatches, submatches', rfl, rfl, here, there⟩

theorem captured_of (number : Nat) (inside : first start text submatches) :
    first.captured number start text (submatches ++ [⟨number, start, text⟩]) :=
  ⟨submatches, inside, rfl⟩

end

end Language

/-- Whether the meaning of a pattern is there, matches a language, and has the given
surroundings after it. -/
def Denotes (sameLetter : Char → Char → Prop) (meaning : Option (Expression × Surroundings))
    (language : Language) (after : Surroundings) : Prop :=
  ∃ expression, meaning = some (expression, after) ∧ ∀ start text submatches,
    expression.Matches sameLetter start text submatches ↔ language start text submatches

namespace Denotes

variable {sameLetter : Char → Char → Prop} {around between after : Surroundings}
  {part : Pattern} {parts : List Pattern} {first second language : Language}

/-- Flags match nothing by themselves. -/
theorem flags (sameLetter : Char → Char → Prop) {settings : Settings}
    (set : around.set? settings = some after) :
    Denotes sameLetter (meaning? around (.flags settings)) .nothing after :=
  ⟨.nothing, by simp [meaning?, set], fun _ _ _ => matches_nothing_iff⟩

/-- Nothing follows the last part of a sequence. -/
theorem last (denotes : Denotes sameLetter (meaning? around part) language after) :
    Denotes sameLetter (sequenceMeaning? around [part]) language after := by
  rcases denotes with ⟨expression, made, matched⟩
  refine ⟨.followed expression .nothing, by simp [sequenceMeaning?, made], ?_⟩
  intro start text submatches
  simp [matches_followed_iff, matches_nothing_iff, matched]

theorem cons (head : Denotes sameLetter (meaning? around part) first between)
    (tail : Denotes sameLetter (sequenceMeaning? between parts) second after) :
    Denotes sameLetter (sequenceMeaning? around (part :: parts)) (first.followed second)
      after := by
  rcases head with ⟨expression, made, matched⟩
  rcases tail with ⟨expression', made', matched'⟩
  refine ⟨.followed expression expression', by simp [sequenceMeaning?, made, made'], ?_⟩
  intro start text submatches
  simp only [matches_followed_iff, matched, matched', Language.followed]

theorem sequence (denotes : Denotes sameLetter (sequenceMeaning? around parts) language after) :
    Denotes sameLetter (meaning? around (.sequence parts)) language after := by
  rwa [meaning?]

theorem blanks (sameLetter : Char → Char → Prop) (around : Surroundings) :
    Denotes sameLetter (meaning? around spaces) .blanks around :=
  ⟨.repeated .space, rfl, fun _ _ _ => matches_spaces_iff⟩

section Groups

variable {ignoreCase ignoreCase' : Bool} {groups groups' : Nat} {body : Pattern}

/-- A group that captures has the next number. -/
theorem numbered
    (inside : Denotes sameLetter (meaning? ⟨ignoreCase, groups + 1⟩ body) language
      ⟨ignoreCase', groups'⟩) :
    Denotes sameLetter (meaning? ⟨ignoreCase, groups⟩ (.group .numbered body))
      (language.captured (groups + 1)) ⟨ignoreCase, groups'⟩ := by
  rcases inside with ⟨expression, made, matched⟩
  refine ⟨.captured (groups + 1) expression, by simp [meaning?, made], ?_⟩
  intro start text submatches
  simp only [matches_captured_iff, matched, Language.captured]

/-- The flags of a group hold for its body only. -/
theorem plain {settings : Settings}
    (set : Surroundings.set? ⟨ignoreCase, groups⟩ settings = some between)
    (inside : Denotes sameLetter (meaning? between body) language ⟨ignoreCase', groups'⟩) :
    Denotes sameLetter (meaning? ⟨ignoreCase, groups⟩ (.group (.plain settings) body)) language
      ⟨ignoreCase, groups'⟩ := by
  rcases inside with ⟨expression, made, matched⟩
  exact ⟨expression, by simp [meaning?, set, made], matched⟩

end Groups

/-- The characters of a word one after the other. -/
theorem characters (sameLetter : Char → Char → Prop) (around : Surroundings)
    (word : List Char) :
    Denotes sameLetter (sequenceMeaning? around (word.map fun c => .character c false))
      (.spelled (same sameLetter around.ignoreCase) word) around := by
  induction word with
  | nil =>
      refine ⟨.nothing, rfl, fun start text submatches => ?_⟩
      rw [matches_nothing_iff, Language.spelled, List.forall₂_nil_left_iff]
  | cons c word ih =>
      rcases ih with ⟨expression, made, matched⟩
      refine ⟨.followed (.character c around.ignoreCase) expression,
        by simp [sequenceMeaning?, meaning?, made], fun start text submatches => ?_⟩
      simp only [matches_followed_iff, matches_character_iff, matched, Language.spelled,
        List.forall₂_cons_left_iff]
      constructor
      · rintro ⟨_, after, _, _, rfl, rfl, ⟨c', related, rfl, rfl⟩, others, rfl⟩
        exact ⟨⟨c', after, related, others, rfl⟩, rfl⟩
      · rintro ⟨⟨c', after, related, others, rfl⟩, rfl⟩
        exact ⟨[c'], after, [], [], rfl, rfl, ⟨c', related, rfl, rfl⟩, others, rfl⟩

/-- A word matches the texts that spell it. -/
theorem word (sameLetter : Char → Char → Prop) (around : Surroundings) (word : List Char) :
    Denotes sameLetter (meaning? around (ofWord word))
      (.spelled (same sameLetter around.ignoreCase) word) around := by
  match word with
  | [] => exact characters sameLetter around []
  | [c] =>
      refine ⟨.character c around.ignoreCase, rfl, fun start text submatches => ?_⟩
      simp [matches_character_iff, Language.spelled, List.forall₂_cons_left_iff, ← and_assoc]
  | c :: c' :: word => exact (characters sameLetter around (c :: c' :: word)).sequence

/-- A word in which case counts matches just itself. -/
theorem exactly (sameLetter : Char → Char → Prop) (groups : Nat) (word : List Char) :
    Denotes sameLetter (meaning? ⟨false, groups⟩ (ofWord word)) (.exactly word)
      ⟨false, groups⟩ := by
  rcases Denotes.word sameLetter ⟨false, groups⟩ word with ⟨expression, made, matched⟩
  refine ⟨expression, made, fun start text submatches => ?_⟩
  rw [matched, Language.spelled, same, if_neg Bool.false_ne_true, List.forall₂_eq_eq_eq,
    Language.exactly, eq_comm]

theorem meaning?_ofBranches (around : Surroundings) (branch : Pattern)
    (branches : List Pattern) :
    meaning? around (ofBranches (branch :: branches)) =
      choiceMeaning? around (branch :: branches) := by
  cases branches with
  | nil => rw [ofBranches, choiceMeaning?]
  | cons next branches => rw [ofBranches, meaning?]; simp

/-- A choice among words matches the texts that spell one of them. -/
theorem words (sameLetter : Char → Char → Prop) (around : Surroundings) (word : List Char)
    (others : List (List Char)) :
    Denotes sameLetter (meaning? around (ofBranches ((word :: others).map ofWord)))
      (.oneOf (same sameLetter around.ignoreCase) (word :: others)) around := by
  rw [List.map_cons, meaning?_ofBranches]
  induction others generalizing word with
  | nil =>
      rcases Denotes.word sameLetter around word with ⟨expression, made, matched⟩
      refine ⟨expression, by rw [List.map_nil, choiceMeaning?, made], fun _ _ _ => ?_⟩
      rw [matched, Language.oneOf]
      simp
  | cons next others ih =>
      rcases Denotes.word sameLetter around word with ⟨expression, made, matched⟩
      rcases ih next with ⟨expression', made', matched'⟩
      refine ⟨.either expression expression', ?_, fun _ _ _ => ?_⟩
      · rw [List.map_cons, choiceMeaning?, made]
        · simp [made']
        · simp
      · rw [matches_either_iff, matched, matched']
        simp only [Language.oneOf, List.exists_mem_cons_iff]

end Denotes

end Inset.Pattern
