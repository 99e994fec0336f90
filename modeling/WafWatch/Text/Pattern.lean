import WafWatch.Text.Property

/-!
This module contains patterns over text and what it means that a pattern matches at a place. A pattern
is matched by handing the place after it to a continuation, so that a choice made early can be revised
when the rest of the pattern does not match.
-/

namespace WafWatch.Text

/--
A set of characters that one position of a pattern allows.
-/
inductive CharSet where
  /-- One of the listed characters. -/
  | these (chars : List Char)
  /-- A blank of any kind. -/
  | blank
  /-- A blank of any kind or one of the listed characters. -/
  | blankOr (chars : List Char)
  /-- A decimal digit of any script. -/
  | decimal
  /-- Any character that does not end a line. -/
  | withinLine
  deriving DecidableEq, Repr

def CharSet.has : CharSet → Char → Bool
  | .these chars, c => chars.contains c
  | .blank, c => isBlank c
  | .blankOr chars, c => isBlank c || chars.contains c
  | .decimal, c => isDecimal c
  | .withinLine, c => c != '\n'

/--
A pattern over text.
-/
inductive Pattern where
  /-- The given characters, one after the other. -/
  | text (chars : List Char)
  /-- One character of the set. -/
  | one (set : CharSet)
  /-- Any number of characters of the set. -/
  | many (set : CharSet)
  /-- One pattern and then another. -/
  | seq (first second : Pattern)
  /-- One of two patterns. -/
  | either (first second : Pattern)
  /-- Nothing, at a place where a word starts or ends. -/
  | wordEdge
  /-- Nothing, at the end of the text. -/
  | atEnd
  deriving DecidableEq, Repr

namespace Pattern

def lit (s : String) : Pattern :=
  .text s.toList

def oneOf : List Pattern → Pattern
  | [] => .one (.these [])
  | [p] => p
  | p :: q :: rest => .either p (oneOf (q :: rest))

def inOrder : List Pattern → Pattern
  | [] => .text []
  | [p] => p
  | p :: q :: rest => .seq p (inOrder (q :: rest))

def atLeastOne (set : CharSet) : Pattern :=
  .seq (.one set) (.many set)

def opt (p : Pattern) : Pattern :=
  .either p (.text [])

/--
A place inside a text: the character before it, if there is one, and the text after it.
-/
structure Place where
  before : Option Char
  after : List Char
  deriving DecidableEq, Repr

def Place.isWordEdge (place : Place) : Bool :=
  place.before.any isWordChar != place.after.head?.any isWordChar

/--
The given characters follow the place and the continuation accepts the place after them.
-/
def matchText (before : Option Char) (next : Place → Bool) :
    (chars after : List Char) → Bool
  | [], after => next ⟨before, after⟩
  | _ :: _, [] => false
  | a :: chars, b :: after => a == b && matchText (some b) next chars after

/--
After some characters of the set, the continuation accepts the place.
-/
def matchMany (set : CharSet) (next : Place → Bool) (before : Option Char) : List Char → Bool
  | [] => next ⟨before, []⟩
  | s@(c :: rest) => next ⟨before, s⟩ || (set.has c && matchMany set next (some c) rest)

/--
The pattern matches at the place so that the continuation accepts the place after it.
-/
def matchThen : Pattern → (next : Place → Bool) → Place → Bool
  | .text chars, next, place => matchText place.before next chars place.after
  | .one set, next, place =>
    match place.after with
    | [] => false
    | c :: rest => set.has c && next ⟨some c, rest⟩
  | .many set, next, place => matchMany set next place.before place.after
  | .seq p q, next, place => p.matchThen (fun place => q.matchThen next place) place
  | .either p q, next, place => p.matchThen next place || q.matchThen next place
  | .wordEdge, next, place => place.isWordEdge && next place
  | .atEnd, next, place => place.after.isEmpty && next place

end Pattern

end WafWatch.Text
