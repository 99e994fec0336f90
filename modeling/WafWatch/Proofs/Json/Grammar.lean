import WafWatch.Json.Decoding
import WafWatch.Proofs.Text.Numeral

/-!
This module contains the grammar of JSON texts, apart from any way of reading them: which texts write which
value. A text writes a value at its beginning, and the text that is left is given.
-/

namespace WafWatch.Json

open WafWatch.Text

/--
A JSON value as a text writes it: numbers are literals, and members keep their order.
-/
inductive Tree where
  | null
  | bool (b : Bool)
  | number (literal : Literal)
  | text (chars : List Char)
  | list (items : List Tree)
  | record (members : List (List Char × Tree))

/-! ### Numbers -/

/--
Whole numbers do not start with a zero, except zero itself, and nothing is left out.
-/
structure Literal.IsWellFormed (literal : Literal) : Prop where
  whole : IsDigits literal.whole
  noZero : literal.whole.head? = some '0' → literal.whole = ['0']
  fraction : ∀ digits ∈ literal.fraction, IsDigits digits
  exponent : ∀ exponent ∈ literal.exponent, IsDigits exponent.2

def Literal.sign (literal : Literal) : List Char :=
  if literal.negative then ['-'] else []

/--
A point with the digits after it, or nothing.
-/
def fractionPart : Option (List Char) → List Char
  | some digits => '.' :: digits
  | none => []

/--
The ways to write the sign of an exponent.
-/
inductive SignSpelled : Bool → List Char → Prop where
  | none : SignSpelled false []
  | plus : SignSpelled false ['+']
  | minus : SignSpelled true ['-']

/--
The ways to write an exponent, or that there is none.
-/
inductive ExponentSpelled : Option (Bool × List Char) → List Char → Prop where
  | none : ExponentSpelled none []
  | some {mark : Char} {negative : Bool} {sign digits : List Char} (hmark : mark = 'e' ∨ mark = 'E')
      (hsign : SignSpelled negative sign) :
    ExponentSpelled (some (negative, digits)) (mark :: (sign ++ digits))

structure Literal.Spelled (literal : Literal) (s rest : List Char) : Prop where
  wellFormed : literal.IsWellFormed
  written : ∃ exponentPart, ExponentSpelled literal.exponent exponentPart
    ∧ s = literal.sign ++ (literal.whole ++ (fractionPart literal.fraction ++ (exponentPart ++ rest)))

/-! ### Strings -/

/--
The letters of the escapes that name a character by one letter.
-/
inductive LetterOf : Char → Char → Prop where
  | quote : LetterOf '"' '"'
  | backslash : LetterOf '\\' '\\'
  | slash : LetterOf '/' '/'
  | backspace : LetterOf '\x08' 'b'
  | formFeed : LetterOf '\x0c' 'f'
  | newline : LetterOf '\n' 'n'
  | carriageReturn : LetterOf '\r' 'r'
  | tab : LetterOf '\t' 't'

/--
Four hexadecimal digits that write a number.
-/
structure HexSpelled (code : Nat) (s rest : List Char) : Prop where
  written : ∃ a b c d, s = a :: b :: c :: d :: rest
    ∧ (∀ digit ∈ [a, b, c, d], isHexDigit digit = true) ∧ ofDigitsIn 16 [a, b, c, d] = code

/--
The ways to write a character within a string: as itself, or by one of three escapes.
-/
inductive CharSpelled : Char → List Char → List Char → Prop where
  | plain {c : Char} {rest : List Char} (hcontrol : 0x20 ≤ c.toNat) (hquote : c ≠ '"')
      (hescape : c ≠ '\\') :
    CharSpelled c (c :: rest) rest
  | letter {c letter : Char} {rest : List Char} (hletter : LetterOf c letter) :
    CharSpelled c ('\\' :: letter :: rest) rest
  | unit {c : Char} {s rest : List Char} (hunit : HexSpelled c.toNat s rest) :
    CharSpelled c ('\\' :: 'u' :: s) rest
  | pair {c : Char} {high low : Nat} {s after rest : List Char} (hhigh : isHighSurrogate high = true)
      (hlow : isLowSurrogate low = true)
      (hc : c.toNat = (high - 0xd800) * 0x400 + (low - 0xdc00) + 0x10000)
      (hfirst : HexSpelled high s ('\\' :: 'u' :: after)) (hsecond : HexSpelled low after rest) :
    CharSpelled c ('\\' :: 'u' :: s) rest

/--
The ways to write a string, behind its opening quote.
-/
inductive TextSpelled : List Char → List Char → List Char → Prop where
  | close {rest : List Char} : TextSpelled [] ('"' :: rest) rest
  | char {c : Char} {chars s after rest : List Char} (hchar : CharSpelled c s after)
      (hchars : TextSpelled chars after rest) :
    TextSpelled (c :: chars) s rest

/-! ### Values -/

/--
What stands in front of an item or a member: a comma, unless it is the first one.
-/
def Separated (first : Bool) (s rest : List Char) : Prop :=
  match first with
  | true => rest = s
  | false => skipSpaces s = ',' :: rest

mutual

/--
The ways to write a value. Blanks may stand in front of every mark.
-/
inductive Tree.Spelled : Tree → List Char → List Char → Prop where
  | null {s rest : List Char} (hs : skipSpaces s = 'n' :: 'u' :: 'l' :: 'l' :: rest) :
    Tree.Spelled .null s rest
  | true {s rest : List Char} (hs : skipSpaces s = 't' :: 'r' :: 'u' :: 'e' :: rest) :
    Tree.Spelled (.bool Bool.true) s rest
  | false {s rest : List Char} (hs : skipSpaces s = 'f' :: 'a' :: 'l' :: 's' :: 'e' :: rest) :
    Tree.Spelled (.bool Bool.false) s rest
  | number {literal : Literal} {s rest : List Char} (hs : literal.Spelled (skipSpaces s) rest) :
    Tree.Spelled (.number literal) s rest
  | text {chars s after rest : List Char} (hs : skipSpaces s = '"' :: after)
      (hchars : TextSpelled chars after rest) :
    Tree.Spelled (.text chars) s rest
  | list {items : List Tree} {s after rest : List Char} (hs : skipSpaces s = '[' :: after)
      (hitems : ItemsSpelled Bool.true items after rest) :
    Tree.Spelled (.list items) s rest
  | record {members : List (List Char × Tree)} {s after rest : List Char}
      (hs : skipSpaces s = '\x7b' :: after) (hmembers : MembersSpelled Bool.true members after rest) :
    Tree.Spelled (.record members) s rest

/--
The ways to write the items of a list that are left, with its closing bracket.
-/
inductive ItemsSpelled : (first : Bool) → List Tree → List Char → List Char → Prop where
  | close {first : Bool} {s rest : List Char} (hs : skipSpaces s = ']' :: rest) :
    ItemsSpelled first [] s rest
  | item {first : Bool} {item : Tree} {items : List Tree} {s before after rest : List Char}
      (hs : Separated first s before) (hitem : item.Spelled before after)
      (hitems : ItemsSpelled Bool.false items after rest) :
    ItemsSpelled first (item :: items) s rest

/--
The ways to write the members of a record that are left, with its closing bracket.
-/
inductive MembersSpelled : (first : Bool) → List (List Char × Tree) → List Char → List Char → Prop where
  | close {first : Bool} {s rest : List Char} (hs : skipSpaces s = '\x7d' :: rest) :
    MembersSpelled first [] s rest
  | member {first : Bool} {key : List Char} {value : Tree} {members : List (List Char × Tree)}
      {s before quoted colon behind after rest : List Char} (hs : Separated first s before)
      (hquote : skipSpaces before = '"' :: quoted) (hkey : TextSpelled key quoted colon)
      (hcolon : skipSpaces colon = ':' :: behind) (hvalue : value.Spelled behind after)
      (hmembers : MembersSpelled Bool.false members after rest) :
    MembersSpelled first ((key, value) :: members) s rest

end

namespace Tree

/--
A text writes a value and nothing else.
-/
def IsRoot (tree : Tree) (s : List Char) : Prop :=
  ∃ rest, tree.Spelled s rest ∧ skipSpaces rest = []

/-! ### Reading -/

mutual

/--
What is read of a text that writes the value.
-/
def toNode : Tree → Node
  | .null => .null
  | .bool b => .bool b
  | .number literal => .number literal
  | .text chars => .text (.ok chars)
  | .list items => .list (itemsToNodes items) .closed
  | .record members => .record (membersToNodes members) .closed

def itemsToNodes : List Tree → List Node
  | [] => []
  | item :: items => item.toNode :: itemsToNodes items

def membersToNodes : List (List Char × Tree) → List (Except Fault (List Char) × Node)
  | [] => []
  | (key, value) :: members => (.ok key, value.toNode) :: membersToNodes members

end

/-! ### Measures -/

mutual

/--
How deep lists and records are nested in each other.
-/
def depth : Tree → Nat
  | .list items => itemsDepth items + 1
  | .record members => membersDepth members + 1
  | _ => 0

def itemsDepth : List Tree → Nat
  | [] => 0
  | item :: items => max item.depth (itemsDepth items)

def membersDepth : List (List Char × Tree) → Nat
  | [] => 0
  | (_, value) :: members => max value.depth (membersDepth members)

end

mutual

/--
All numbers of a value.
-/
def literals : Tree → List Literal
  | .number literal => [literal]
  | .list items => itemsLiterals items
  | .record members => membersLiterals members
  | _ => []

def itemsLiterals : List Tree → List Literal
  | [] => []
  | item :: items => item.literals ++ itemsLiterals items

def membersLiterals : List (List Char × Tree) → List Literal
  | [] => []
  | (_, value) :: members => value.literals ++ membersLiterals members

end

end Tree

end WafWatch.Json
