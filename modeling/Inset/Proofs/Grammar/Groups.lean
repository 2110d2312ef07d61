import Inset.Grammar.Injection
import Inset.Manifest.Validation
import Mathlib.Data.List.Basic

/-!
# The groups of an opening pattern

The captures of a region are numbered by hand, for the four groups that the fixed part of
the opening pattern has, but the tags of the language stand verbatim between them.  The
numbers are right exactly if the tags keep to themselves: they open no group that captures,
and whatever they open is closed before their line ends (`namesGroups_iff_keepsToItself`).
Validation does not ask for that (`Manifest.not_namesGroups_of_tagGroup`).

Patterns are read here in extended mode, as far as groups go: a bracket opens a group that
captures unless it is escaped, stands in a class or a comment, or has a question mark after
it.  A class has no comments.
-/

namespace Inset.Grammar

/-! ## Groups that capture -/

/-- The place in a class: after its bracket, after the mark of its complement, or beyond.  A
closing bracket stands for itself where nothing stands before it. -/
inductive ClassPlace
  | opened
  | negated
  | beyond
  deriving DecidableEq

/-- What the next character of a pattern belongs to.  Classes may stand in classes; then
`around` says how many. -/
inductive Context
  | plain
  | escaped
  | comment
  | inClass (around : Nat) (place : ClassPlace)
  | escapedInClass (around : Nat)
  deriving DecidableEq

namespace Context

/-- The context after a character. -/
def step : Context → Char → Context
  | plain, c =>
      if c = '\\' then escaped
      else if c = '#' then comment
      else if c = '[' then inClass 0 .opened
      else plain
  | escaped, _ => plain
  | comment, c => if c = '\n' then plain else comment
  | escapedInClass around, _ => inClass around .beyond
  | inClass around place, c =>
      if c = '\\' then escapedInClass around
      else if c = '[' then inClass (around + 1) .opened
      else if c = '^' ∧ place = .opened then inClass around .negated
      else if c = ']' ∧ place = .beyond then
        match around with
        | 0 => plain
        | around + 1 => inClass around .beyond
      else inClass around .beyond

/-- The number of open groups after a character, if it does not close one more than
there are. -/
def depth? (depth : Nat) : Context → Char → Option Nat
  | plain, '(' => some (depth + 1)
  | plain, ')' => match depth with
      | 0 => none
      | depth + 1 => some depth
  | _, _ => some depth

/-- What follows the brackets that open groups that capture.  A question mark after a
bracket says that its group does not. -/
def openings : Context → List Char → List (List Char)
  | _, [] => []
  | context, c :: rest =>
      if context = plain ∧ c = '(' ∧ rest.head? ≠ some '?' then
        rest :: openings (context.step c) rest
      else openings (context.step c) rest

/-- The number of open groups and the context after a text, if it does not close one
more than there are. -/
def after (depth : Nat) : Context → List Char → Option (Nat × Context)
  | context, [] => some (depth, context)
  | context, c :: rest =>
      match depth? depth context c with
      | none => none
      | some depth => after depth (context.step c) rest

/-- The text before the bracket that closes one group more than are open. -/
def upToClose (depth : Nat) : Context → List Char → Option (List Char)
  | _, [] => none
  | context, c :: rest =>
      match depth? depth context c with
      | none => some []
      | some depth => (upToClose depth (context.step c) rest).map (c :: ·)

end Context

/-- The text of a group, if it is closed, given what follows its opening bracket. -/
def groupText (rest : List Char) : Option String :=
  (Context.plain.upToClose 0 rest).map String.ofList

/-- The texts of the groups of a pattern that capture, in the order of their opening
brackets. -/
def groups (pattern : String) : List (Option String) :=
  (Context.plain.openings pattern.toList).map groupText

example : groups "a(b(?:c)[)](d))\\(#(\n(" = [some "b(?:c)[)](d)", some "d", none] := by
  decide

/-! ## Texts one after the other -/

namespace Context

theorem openings_append (context : Context) {front back : List Char}
    (fresh : back.head? ≠ some '?') :
    context.openings (front ++ back) =
      (context.openings front).map (· ++ back) ++
        (front.foldl step context).openings back := by
  induction front generalizing context with
  | nil => rfl
  | cons c front ih =>
      have next : (front ++ back).head? ≠ some '?' ↔ front.head? ≠ some '?' := by
        cases front <;> simp [fresh]
      simp only [List.cons_append, openings, next, ih, List.foldl_cons]
      split <;> rfl

theorem context_of_after {depth later : Nat} {context final : Context} {text : List Char}
    (settled : context.after depth text = some (later, final)) :
    final = text.foldl step context := by
  induction text generalizing depth context with
  | nil => exact (Prod.mk.inj (Option.some.inj settled)).2.symm
  | cons c text ih =>
      rw [after] at settled
      split at settled
      · contradiction
      · exact ih settled

theorem upToClose_append_of_after {depth later : Nat} {context final : Context}
    {front : List Char} (settled : context.after depth front = some (later, final))
    (back : List Char) :
    context.upToClose depth (front ++ back) = (final.upToClose later back).map (front ++ ·) := by
  induction front generalizing depth context with
  | nil =>
      obtain ⟨rfl, rfl⟩ := Prod.mk.inj (Option.some.inj settled)
      exact Option.map_id'.symm
  | cons c front ih =>
      rw [after] at settled
      rw [List.cons_append, upToClose]
      split at settled
      · contradiction
      · rw [ih settled, Option.map_map]
        rfl

theorem upToClose_append_of_closed {depth : Nat} {context : Context} {front inner : List Char}
    (closed : context.upToClose depth front = some inner) (back : List Char) :
    context.upToClose depth (front ++ back) = some inner := by
  induction front generalizing depth context inner with
  | nil => contradiction
  | cons c front ih =>
      rw [upToClose] at closed
      rw [List.cons_append, upToClose]
      split at closed
      · exact closed
      · rcases Option.map_eq_some_iff.mp closed with ⟨inner, found, rfl⟩
        rw [ih found, Option.map_some]

/-- A text that closes one group too many ends the group around it within itself. -/
theorem exists_upToClose_of_after {depth : Nat} {context : Context} {text : List Char}
    (closes : context.after depth text = none) :
    ∃ inner, context.upToClose depth text = some inner ∧ inner.length < text.length := by
  induction text generalizing depth context with
  | nil => contradiction
  | cons c text ih =>
      rw [after] at closes
      rw [upToClose]
      split at closes
      · exact ⟨[], rfl, Nat.zero_lt_succ _⟩
      · rcases ih closes with ⟨inner, found, shorter⟩
        exact ⟨c :: inner, by rw [found, Option.map_some], Nat.succ_lt_succ shorter⟩

/-! ## Ends of lines and of classes -/

/-- Whether a character stands in a class. -/
def IsInClass : Context → Prop
  | inClass _ _ | escapedInClass _ => True
  | _ => False

/-- Comments and escapes do not outlast a line. -/
theorem step_lineEnd (context : Context) :
    context.step '\n' = plain ∨ (context.step '\n').IsInClass := by
  cases context <;> simp [step, IsInClass]

theorem IsInClass.step {context : Context} (within : context.IsInClass) {c : Char}
    (inner : c ≠ ']') : (context.step c).IsInClass := by
  cases context with
  | plain | escaped | comment => contradiction
  | escapedInClass around => trivial
  | inClass around place =>
      simp only [Context.step, inner, false_and, if_false]
      split_ifs <;> trivial

/-- No group is closed before its open class is. -/
theorem IsInClass.upToClose_eq_none {context : Context} (within : context.IsInClass)
    {text : List Char} (inner : ']' ∉ text) (depth : Nat) :
    context.upToClose depth text = none := by
  induction text generalizing context with
  | nil => rfl
  | cons c text ih =>
      have same : depth? depth context c = some depth := by
        cases context <;> first | rfl | contradiction
      rw [List.mem_cons, not_or] at inner
      rw [upToClose, same]
      simp only [ih (within.step (Ne.symm inner.1)) inner.2, Option.map_none]

end Context

/-! ## The tags of a language -/

/-- The line of an opening pattern that holds the tags. -/
def tagLine (tags : String) : String :=
  "(?i:" ++ tags ++ ")\n"

/-- Whether the tags keep to themselves in the pattern around them: their line opens no
group that captures, and every group, class, comment and escape that it opens ends in it,
but none that was open before. -/
structure KeepsToItself (tags : String) : Prop where
  noGroup : Context.plain.openings (tagLine tags).toList = []
  closed : Context.plain.after 0 (tagLine tags).toList = some (0, .plain)

instance (tags : String) : Decidable (KeepsToItself tags) :=
  decidable_of_iff (Context.plain.openings (tagLine tags).toList = [] ∧
      Context.plain.after 0 (tagLine tags).toList = some (0, .plain))
    ⟨fun ⟨noGroup, closed⟩ => ⟨noGroup, closed⟩, fun kept => ⟨kept.noGroup, kept.closed⟩⟩

/-- Whether a character means nothing for the groups of a pattern. -/
def IsOrdinary (c : Char) : Prop :=
  c ∉ ['\\', '#', '[', '(', ')']

/-- Ordinary characters change nothing, whatever comes after them. -/
theorem Context.append_of_isOrdinary {front : List Char}
    (ordinary : ∀ c ∈ front, IsOrdinary c) (depth : Nat) (back : List Char) :
    Context.plain.openings (front ++ back) = Context.plain.openings back ∧
      Context.plain.after depth (front ++ back) = Context.plain.after depth back := by
  induction front with
  | nil => exact ⟨rfl, rfl⟩
  | cons c front ih =>
      rcases List.forall_mem_cons.mp ordinary with ⟨first, others⟩
      simp only [IsOrdinary, List.mem_cons, List.not_mem_nil, or_false, not_or] at first
      obtain ⟨backslash, hash, bracket, opening, closing⟩ := first
      have stays : Context.plain.step c = .plain := by
        simp [step, backslash, hash, bracket]
      have same : depth? depth .plain c = some depth := by
        unfold depth?
        split <;> simp_all
      rw [List.cons_append, openings, if_neg (fun opens => opening opens.2.1), after, same, stays]
      exact ih others

/-- Tags of ordinary characters keep to themselves, as names with bars between them do. -/
theorem keepsToItself_of_isOrdinary {tags : String}
    (ordinary : ∀ c ∈ tags.toList, IsOrdinary c) : KeepsToItself tags := by
  have line : (tagLine tags).toList = "(?i:".toList ++ (tags.toList ++ ")\n".toList) := by
    simp only [tagLine, String.toList_append, List.append_assoc]
  constructor
  · rw [line]
    exact (Context.append_of_isOrdinary ordinary 0 _).1
  · rw [line]
    exact (Context.append_of_isOrdinary ordinary 1 _).2

example : KeepsToItself "sql|postgres|pgsql" := by decide

/-! ## The groups of an opening pattern -/

/-- What stands before the tags in the group of the marker comment. -/
def markerStart : String :=
  " (/\\*) \\s*\n"

/-- What stands after the line of the tags. -/
def patternEnd : String :=
  "\\s* (\\*/) )\n\\s* (\\`)\n"

/-- The text of the group around the marker comment. -/
def markerText (tags : String) : String :=
  markerStart ++ tagLine tags ++ "\\s* (\\*/) "

/-- The groups that an opening pattern is meant to have, in order, each with the scope for
what it captures: the marker comment, its two delimiters and the backtick. -/
def markerGroups (tags : String) : List (String × String) :=
  [(hostScope "comment.block", markerText tags),
    (hostScope "punctuation.definition.comment", "/\\*"),
    (hostScope "punctuation.definition.comment", "\\*/"),
    (hostScope "punctuation.definition.string.begin", "\\`")]

/-- Whether the opening pattern of a region for some tags has exactly the groups that it is
meant to have, and the captures give each its scope under its number. -/
structure Region.NamesGroups (region : Region) (tags : String) : Prop where
  groups : groups region.begins = (markerGroups tags).map fun group => some group.2
  captures : region.beginCaptures.entries =
    (markerGroups tags).zipIdx.map fun (group, index) => (toString (index + 1), ⟨group.1⟩)

theorem toList_beginPattern (tags : String) :
    (beginPattern tags).toList =
      "(?x)\n(".toList ++ markerStart.toList ++ ((tagLine tags).toList ++ patternEnd.toList) := by
  simp only [beginPattern, markerStart, tagLine, patternEnd, String.toList_append,
    List.append_assoc]
  rfl

theorem groups_beginPattern (tags : String) :
    groups (beginPattern tags) =
      groupText (markerStart.toList ++ ((tagLine tags).toList ++ patternEnd.toList)) ::
        some "/\\*" ::
        (((Context.plain.openings (tagLine tags).toList).map (· ++ patternEnd.toList) ++
          ((tagLine tags).toList.foldl Context.step .plain).openings patternEnd.toList).map
            groupText) := by
  have line : (tagLine tags).toList = '(' :: ("?i:" ++ tags ++ ")\n").toList := by
    simp only [tagLine, String.toList_append]
    rfl
  have next : ((tagLine tags).toList ++ patternEnd.toList).head? ≠ some '?' := by
    simp [line]
  have start : Context.plain.openings ("(?x)\n(".toList ++ markerStart.toList) =
      [markerStart.toList, "/\\*) \\s*\n".toList] := by decide
  have closed : Context.plain.upToClose 0 "/\\*) \\s*\n".toList = some "/\\*".toList := by
    decide
  have delimiter : groupText ("/\\*) \\s*\n".toList ++
      ((tagLine tags).toList ++ patternEnd.toList)) = some "/\\*" := by
    rw [groupText, Context.upToClose_append_of_closed closed]
    rfl
  rw [groups, toList_beginPattern, Context.openings_append _ next, start,
    Context.openings_append _ (by decide)]
  simp only [List.map_cons, List.map_nil, List.cons_append, List.nil_append, delimiter]
  rfl

theorem upToClose_patternEnd :
    Context.plain.upToClose 0 patternEnd.toList = some "\\s* (\\*/) ".toList := by
  decide

/-- What follows the tags closes one group only. -/
theorem upToClose_patternEnd_succ (depth : Nat) :
    Context.plain.upToClose (depth + 1) patternEnd.toList = none := by
  rfl

/-- A line ends in the plain pattern or in a class. -/
theorem context_after_tagLine (tags : String) :
    (tagLine tags).toList.foldl Context.step .plain = .plain ∨
      ((tagLine tags).toList.foldl Context.step .plain).IsInClass := by
  have ends : (tagLine tags).toList = ("(?i:" ++ tags ++ ")").toList ++ ['\n'] := by
    simp only [tagLine, String.toList_append, List.append_assoc]
    rfl
  rw [ends, List.foldl_append]
  exact Context.step_lineEnd _

/-- What surrounds the line of the tags is closed after it, as it is meant to be, exactly if
the line closes all that it opens. -/
theorem upToClose_tagLine_iff (tags : String) :
    Context.plain.upToClose 0 ((tagLine tags).toList ++ patternEnd.toList) =
        some ((tagLine tags).toList ++ "\\s* (\\*/) ".toList) ↔
      Context.plain.after 0 (tagLine tags).toList = some (0, .plain) := by
  cases settled : Context.plain.after 0 (tagLine tags).toList with
  | none =>
      rcases Context.exists_upToClose_of_after settled with ⟨inner, found, shorter⟩
      rw [Context.upToClose_append_of_closed found]
      refine iff_of_false (fun same => ?_) (by simp)
      rw [Option.some.inj same, List.length_append] at shorter
      omega
  | some reached =>
      rcases reached with ⟨depth, context⟩
      have reaches := Context.context_of_after settled
      rw [Context.upToClose_append_of_after settled]
      rcases context_after_tagLine tags with plain | within
      · obtain rfl : context = .plain := reaches.trans plain
        cases depth with
        | zero => exact iff_of_true (by rw [upToClose_patternEnd]; rfl) rfl
        | succ depth => exact iff_of_false (by simp [upToClose_patternEnd_succ]) (by simp)
      · -- An open class would hold all that follows.
        rw [← reaches] at within
        have unclosed := within.upToClose_eq_none (show ']' ∉ patternEnd.toList by decide) depth
        refine iff_of_false (by simp [unclosed]) ?_
        rintro ⟨⟩
        exact within

/-- The group of the marker comment ends where it is meant to exactly if the line of the
tags closes all that it opens. -/
theorem groupText_marker_iff (tags : String) :
    groupText (markerStart.toList ++ ((tagLine tags).toList ++ patternEnd.toList)) =
        some (markerText tags) ↔
      Context.plain.after 0 (tagLine tags).toList = some (0, .plain) := by
  have start : Context.plain.after 0 markerStart.toList = some (0, .plain) := by decide
  have text : markerText tags =
      String.ofList (markerStart.toList ++ ((tagLine tags).toList ++ "\\s* (\\*/) ".toList)) := by
    rw [← String.toList_inj, String.toList_ofList]
    simp only [markerText, String.toList_append, List.append_assoc]
  have injective : Function.Injective (String.ofList ∘ (markerStart.toList ++ ·)) :=
    fun first second same => List.append_cancel_left (String.ofList_injective same)
  rw [groupText, Context.upToClose_append_of_after start, Option.map_map, text,
    ← upToClose_tagLine_iff, ← (Option.map_injective injective).eq_iff]
  rfl

/-- The captures of a region go to the groups that they are meant for exactly if the tags of
its language keep to themselves. -/
theorem namesGroups_iff_keepsToItself (host : Host) (language : Embedded) :
    (region host language).NamesGroups language.tags ↔ KeepsToItself language.tags := by
  constructor
  · rintro ⟨same, -⟩
    rw [region, groups_beginPattern] at same
    obtain ⟨marker, rest⟩ := List.cons.inj same
    have closed := (groupText_marker_iff language.tags).mp marker
    have count := congrArg List.length rest
    have ends : (Context.plain.openings patternEnd.toList).length = 2 := by decide
    simp only [← Context.context_of_after closed, List.length_cons, List.length_map,
      List.length_append, ends, List.length_nil] at count
    exact ⟨List.length_eq_zero_iff.mp (by omega), closed⟩
  · rintro ⟨noGroup, closed⟩
    refine ⟨?_, rfl⟩
    have marker := (groupText_marker_iff language.tags).mpr closed
    rw [region, groups_beginPattern, marker, noGroup, ← Context.context_of_after closed]
    rfl

end Inset.Grammar

namespace Inset

open Grammar

/-- A manifest with one host and one embedded language that has the given tags. -/
def Manifest.ofTags (tags : String) : Manifest where
  contributes := none
  hosts := [⟨.go, "go", "source.go.embedded", ⟨"go.json"⟩, none⟩]
  embedded := [⟨"SQL", tags, "sql", "source.sql"⟩]

/-- A group around the tags is accepted, and then the scope of the closing delimiter goes to
the tags, that of the backtick to the delimiter, and none to the backtick. -/
theorem Manifest.not_namesGroups_of_tagGroup :
    (ofTags "(sql)").validate = .ok () ∧
      ∃ entry ∈ (ofTags "(sql)").hosts, ∃ language ∈ (ofTags "(sql)").embedded,
        (groups (region entry.host language).begins).drop 2 =
          [some "sql", some "\\*/", some "\\`"] ∧
        ¬(region entry.host language).NamesGroups language.tags := by
  refine ⟨by decide, _, List.mem_singleton_self _, _, List.mem_singleton_self _, by decide, ?_⟩
  rintro ⟨same, -⟩
  exact absurd same (by decide)

end Inset
