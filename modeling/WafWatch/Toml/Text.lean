import WafWatch.Text.Numeral
import WafWatch.Text.Scan

/-!
This module contains the reading of the strings of TOML: basic ones, which have escapes, and literal
ones, each on one line or on several lines.
-/

namespace WafWatch.Toml

open WafWatch.Text

def isBlank (c : Char) : Bool :=
  c == ' ' || c == '\t'

def isPlain (c : Char) : Bool :=
  c == '\t' || (0x20 ≤ c.toNat && c.toNat != 0x7f)

def afterBreak? : List Char → Option (List Char)
  | '\n' :: rest => some rest
  | '\r' :: '\n' :: rest => some rest
  | _ => none

def skipBreak (s : List Char) : List Char :=
  (afterBreak? s).getD s

/--
The text without the blanks and line breaks at its start. At most `fuel` of them are skipped.
-/
def skipSpace (fuel : Nat) (s : List Char) : List Char :=
  match fuel, s with
  | fuel + 1, '\r' :: '\n' :: rest => skipSpace fuel rest
  | fuel + 1, c :: rest => if isBlank c || c == '\n' then skipSpace fuel rest else s
  | _, _ => s

/-! ### Escapes -/

def letterEscape? (c : Char) : Option Char :=
  match c with
  | 'b' => some '\x08'
  | 't' => some '\t'
  | 'n' => some '\n'
  | 'f' => some '\x0c'
  | 'r' => some '\r'
  | 'e' => some '\x1b'
  | '"' => some '"'
  | '\\' => some '\\'
  | _ => none

def escapeDigits? (c : Char) : Option Nat :=
  match c with
  | 'x' => some 2
  | 'u' => some 4
  | 'U' => some 8
  | _ => none

def charOf? (code : Nat) : Option Char :=
  if code < 0xd800 || (0xe000 ≤ code && code < 0x110000) then some (Char.ofNat code) else none

def readEscape? : List Char → Option (Char × List Char)
  | [] => none
  | c :: rest =>
    match letterEscape? c, escapeDigits? c with
    | some char, _ => some (char, rest)
    | none, some count =>
      let digits := rest.take count
      if digits.length = count && digits.all isHexDigit then
        (charOf? (ofDigitsIn 16 digits)).map fun char => (char, rest.drop count)
      else none
    | none, none => none

/-! ### Strings on one line -/

/--
Read a basic string after its opening quote. The characters read so far are given in reverse order.
-/
def readBasic (fuel : Nat) (soFar : List Char) (s : List Char) : Option (List Char × List Char) :=
  match fuel, s with
  | _ + 1, '"' :: rest => some (soFar.reverse, rest)
  | fuel + 1, '\\' :: rest => do
    let (char, rest) ← readEscape? rest
    readBasic fuel (char :: soFar) rest
  | fuel + 1, c :: rest => if isPlain c then readBasic fuel (c :: soFar) rest else none
  | _, _ => none

def readLiteral (s : List Char) : Option (List Char × List Char) :=
  let chars := s.takeWhile fun c => isPlain c && c != '\''
  match s.drop chars.length with
  | '\'' :: rest => some (chars, rest)
  | _ => none

/-! ### Strings on several lines -/

/--
What follows a backslash that ends its line: the text without the blanks and the line breaks at its
start.
-/
def afterContinuation? (s : List Char) : Option (List Char) :=
  let rest := s.dropWhile isBlank
  (afterBreak? rest).map fun rest => skipSpace rest.length rest

/--
Read a string on several lines after its opening quotes. It ends in three quotes, before which up to
two more may stand as part of it. Escapes are read if `hasEscapes`. The characters read so far are given
in reverse order.
-/
def readLong (quote : Char) (hasEscapes : Bool) (fuel : Nat) (soFar : List Char) (s : List Char) :
    Option (List Char × List Char) :=
  match fuel, s with
  | fuel + 1, c :: rest =>
    if c == quote then
      let quotes := (s.takeWhile (· == quote)).take 5
      if 3 ≤ quotes.length then
        some ((quotes.drop 3 ++ soFar).reverse, s.drop quotes.length)
      else readLong quote hasEscapes fuel (c :: soFar) rest
    else if c == '\\' && hasEscapes then
      match afterContinuation? rest with
      | some rest => readLong quote hasEscapes fuel soFar rest
      | none => do
        let (char, rest) ← readEscape? rest
        readLong quote hasEscapes fuel (char :: soFar) rest
    else if isPlain c || c == '\n' then readLong quote hasEscapes fuel (c :: soFar) rest
    else
      match c, rest with
      | '\r', '\n' :: rest => readLong quote hasEscapes fuel ('\n' :: '\r' :: soFar) rest
      | _, _ => none
  | _, _ => none

/-! ### All strings -/

def readShort? : List Char → Option (List Char × List Char)
  | '"' :: rest => readBasic (rest.length + 1) [] rest
  | '\'' :: rest => readLiteral rest
  | _ => none

/--
Read a string. A line break right after the opening quotes of a string on several lines does not belong
to it.
-/
def readText? (s : List Char) : Option (List Char × List Char) :=
  match s with
  | '"' :: '"' :: '"' :: rest => readLong '"' true (rest.length + 1) [] (skipBreak rest)
  | '\'' :: '\'' :: '\'' :: rest => readLong '\'' false (rest.length + 1) [] (skipBreak rest)
  | _ => readShort? s

end WafWatch.Toml
