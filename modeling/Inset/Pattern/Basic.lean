/-!
# Patterns

A pattern is a regular expression as it is written.  It is kept as a tree with
the parts that matter for whether it can be compiled, and for what it matches if
it is made of characters, space, groups, repetitions and branches: a class with a
name does not say which one, and an edge or a boundary does not say where it is.
Counted repetitions are left out.

The depth of a tree counts everything that holds other parts.  A sequence or a
choice of one part is that part, so it does not count.
-/

namespace Inset

namespace Pattern

/-- The flags that govern the rest of a group. -/
inductive Flag
  /-- Letters stand for either case. -/
  | ignoreCase
  /-- The pattern speaks of characters, and not of bytes. -/
  | characters
  /-- Space and comments are left out. -/
  | spaced
  /-- Edges of lines count as edges of the text. -/
  | multiLine
  /-- Any character may be the end of a line. -/
  | anyLine
  /-- Repetitions are as short as possible. -/
  | shortest
  /-- Lines may end in carriage returns. -/
  | returns
  deriving DecidableEq

/-- Flags with their new values, in the order in which they are set. -/
abbrev Settings := List (Flag × Bool)

/-- The classes that are written as one letter. -/
inductive Letter
  | digit
  | space
  /-- The characters of words. -/
  | word
  deriving DecidableEq, Inhabited

/-- How often something is repeated. -/
inductive Times
  | atMostOnce
  | anyTimes
  | atLeastOnce
  deriving DecidableEq, Inhabited

/-- The kinds of groups. -/
inductive GroupKind
  /-- A group that captures and is known by its number. -/
  | numbered
  /-- A group that captures and has a name, too. -/
  | named (name : List Char)
  /-- A group that does not capture, with flags for its body. -/
  | plain (settings : Settings)
  deriving DecidableEq, Inhabited

/-- The flags that a group sets for its body. -/
def GroupKind.settings : GroupKind → Settings
  | plain settings => settings
  | _ => []

/-- A class of characters in brackets, or a part of one. -/
inductive CharClass
  | empty
  | character (c : Char)
  | range (first last : Char)
  /-- A class by its name between colons. -/
  | named (negated : Bool)
  | lettered (letter : Letter) (negated : Bool)
  | bracket (negated : Bool) (inner : CharClass)
  /-- Two parts or more. -/
  | union (parts : List CharClass)
  /-- What is in both classes, in one but not in the other, or in just one. -/
  | operation (left right : CharClass)
  deriving Inhabited

end Pattern

open Pattern in
/-- A regular expression. -/
inductive Pattern
  | empty
  /-- A character; it may have been written as a byte by its code. -/
  | character (c : Char) (isByte : Bool)
  | any
  /-- The beginning or the end of a line or of the text. -/
  | edge
  /-- A place at the boundary of a word, or away from one. -/
  | boundary
  | lettered (letter : Letter) (negated : Bool)
  | bracket (negated : Bool) (inner : CharClass)
  /-- Flags for what is left of the group. -/
  | flags (settings : Settings)
  | group (kind : GroupKind) (body : Pattern)
  | repetition (times : Times) (body : Pattern)
  /-- Two parts or more. -/
  | sequence (parts : List Pattern)
  /-- Two branches or more. -/
  | choice (branches : List Pattern)
  deriving Inhabited

namespace Pattern

/-- The class of what is in one of the parts. -/
def CharClass.ofParts : List CharClass → CharClass
  | [] => .empty
  | [part] => part
  | parts => .union parts

/-- The pattern of parts that follow each other. -/
def ofParts : List Pattern → Pattern
  | [] => .empty
  | [part] => part
  | parts => .sequence parts

/-- The pattern of branches of which one has to fit. -/
def ofBranches : List Pattern → Pattern
  | [branch] => branch
  | branches => .choice branches

/-! ## Depth -/

mutual

/-- How deep the parts of a class lie within each other. -/
def CharClass.depth : CharClass → Nat
  | .bracket _ inner => inner.depth + 1
  | .union parts => CharClass.deepest parts + 1
  | .operation left right => max left.depth right.depth + 1
  | _ => 0

/-- The greatest depth among classes. -/
def CharClass.deepest : List CharClass → Nat
  | [] => 0
  | part :: parts => max part.depth (CharClass.deepest parts)

end

mutual

/-- How deep the parts of a pattern lie within each other. -/
def depth : Pattern → Nat
  | .bracket _ inner => inner.depth + 1
  | .group _ body => body.depth + 1
  | .repetition _ body => body.depth + 1
  | .sequence parts => deepest parts + 1
  | .choice branches => deepest branches + 1
  | _ => 0

/-- The greatest depth among patterns. -/
def deepest : List Pattern → Nat
  | [] => 0
  | part :: parts => max part.depth (deepest parts)

end

end Pattern

end Inset
