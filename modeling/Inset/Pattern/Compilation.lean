import Inset.Pattern.Basic

/-!
# Patterns that compile

Patterns are compiled to automata without tables of Unicode.  While a pattern
speaks of characters, which is the rule, it cannot name the classes of words,
digits and space, look for the boundaries of words, or leave the case of a
character open.  While it speaks of bytes, it may do all of that, but it must
not match half a character, so its classes stay within ASCII.  No two groups
have the same name.
-/

namespace Inset.Pattern

/-- What governs a part of a pattern. -/
structure Mode where
  /-- The pattern speaks of characters, and not of bytes. -/
  characters : Bool
  ignoreCase : Bool
  deriving DecidableEq

/-- The mode in which a pattern begins. -/
def Mode.initial : Mode :=
  ⟨true, false⟩

/-- The mode after a flag is set. -/
def Mode.set (mode : Mode) (setting : Flag × Bool) : Mode :=
  match setting.1 with
  | .characters => { mode with characters := setting.2 }
  | .ignoreCase => { mode with ignoreCase := setting.2 }
  | _ => mode

/-- The mode after flags are set. -/
def Mode.setAll (mode : Mode) (settings : Settings) : Mode :=
  settings.foldl Mode.set mode

/-- Whether single characters and ranges of them compile; they do not if the other
case of a character had to be known. -/
def Mode.hasCharacters (mode : Mode) : Bool :=
  !(mode.characters && mode.ignoreCase)

/-- Whether a class may hold a character. -/
def Mode.admits (mode : Mode) (c : Char) : Bool :=
  mode.hasCharacters && (mode.characters || c.toNat < 0x80)

/-- Whether a class may be replaced by its complement. -/
def Mode.allows (mode : Mode) (negated : Bool) : Bool :=
  mode.characters || !negated

mutual

/-- Whether a class compiles. -/
def CharClass.compiles (mode : Mode) : CharClass → Bool
  | .empty => true
  | .character c => mode.admits c
  | .range first last => mode.admits first && mode.admits last
  | .named negated => mode.hasCharacters && mode.allows negated
  | .lettered _ negated => !mode.characters && !negated
  | .bracket negated inner => mode.allows negated && inner.compiles mode
  | .union parts => CharClass.allCompile mode parts
  | .operation left right => left.compiles mode && right.compiles mode

/-- Whether all classes compile. -/
def CharClass.allCompile (mode : Mode) : List CharClass → Bool
  | [] => true
  | part :: parts => part.compiles mode && CharClass.allCompile mode parts

end

/-- How far a pattern has been compiled: the mode, and the names of groups. -/
structure Progress where
  mode : Mode
  names : List (List Char)
  deriving DecidableEq

/-- Go on if a condition holds. -/
def Progress.require (progress : Progress) (condition : Bool) : Option Progress :=
  if condition then some progress else none

/-- Enter a group. -/
def Progress.enter (progress : Progress) : GroupKind → Option Progress
  | .numbered => some progress
  | .named name =>
      if name ∈ progress.names then none
      else some { progress with names := name :: progress.names }
  | .plain settings => some { progress with mode := progress.mode.setAll settings }

mutual

/-- Compile a pattern.  Flags last up to the end of the group, through the
branches of a choice. -/
def compile (progress : Progress) : Pattern → Option Progress
  | .empty => some progress
  | .character c isByte =>
      progress.require
        (progress.mode.hasCharacters && (!isByte || progress.mode.characters || c.toNat < 0x80))
  | .any => progress.require progress.mode.characters
  | .edge => some progress
  | .boundary => progress.require (!progress.mode.characters)
  | .lettered _ negated => progress.require (!progress.mode.characters && !negated)
  | .bracket negated inner =>
      progress.require (progress.mode.allows negated && inner.compiles progress.mode)
  | .flags settings => some { progress with mode := progress.mode.setAll settings }
  | .group kind body =>
      match progress.enter kind with
      | none => none
      | some inside =>
          (compile inside body).map fun after => { after with mode := progress.mode }
  | .repetition _ body => compile progress body
  | .sequence parts => compileAll progress parts
  | .choice branches => compileAll progress branches

/-- Compile patterns one after the other. -/
def compileAll (progress : Progress) : List Pattern → Option Progress
  | [] => some progress
  | part :: parts =>
      match compile progress part with
      | none => none
      | some progress => compileAll progress parts

end

/-- The depth that a pattern may have. -/
def mostDepth : Nat := 250

/-- Whether a pattern can be used. -/
def isUsable (pattern : Pattern) : Bool :=
  pattern.depth ≤ mostDepth && (pattern.compile ⟨.initial, []⟩).isSome

end Inset.Pattern
