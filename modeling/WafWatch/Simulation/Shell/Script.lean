import WafWatch.Text.Numeral
import WafWatch.Text.Scan

/-!
This module contains the reading of shell scripts: commands one after the other, with conditions, loops and
redirections of what they write. It covers the scripts that runs of the program use.
-/

namespace WafWatch.Simulation

open WafWatch.Text

/--
A part of a word.
-/
inductive Part where
  | char (c : Char)
  | variable (name : List Char)
  /-- The value of an arithmetic expression. -/
  | arithmetic (expression : List Char)
  deriving DecidableEq, Repr, Inhabited

abbrev Word := List Part

/--
Where something that is written goes.
-/
inductive Target where
  | toOutput
  | toErrors
  | nowhere
  deriving DecidableEq, Repr, Inhabited

/--
What is written to one target goes to another.
-/
structure Redirection where
  source : Target
  target : Target
  deriving DecidableEq, Repr, Inhabited

inductive Token where
  | word (word : Word)
  | operator (chars : List Char)
  | redirection (redirection : Redirection)
  deriving DecidableEq, Repr, Inhabited

/--
A command of a script.
-/
inductive Command where
  | nothing
  /-- A program with its arguments, with assignments in front. -/
  | simple (assignments : List (List Char × Word)) (words : List Word)
      (redirections : List Redirection)
  | sequence (first second : Command)
  | andThen (first second : Command)
  | orElse (first second : Command)
  | loop (condition body : Command)
  deriving Repr, Inhabited

/-! ### Tokens -/

def isNameChar (c : Char) : Bool :=
  c.isAlphanum || c == '_'

/--
A character that ends a word if it is not quoted.
-/
def endsWord (c : Char) : Bool :=
  [' ', '\t', '\n', ';', '&', '|', '>'].contains c

/--
The quote that keeps everything as it is.
-/
def singleQuote : Char := Char.ofNat 0x27

def upTo (mark : Char) (s : List Char) : Option (List Char × List Char) :=
  match s.dropWhile (· != mark) with
  | [] => none
  | _ :: rest => some (s.takeWhile (· != mark), rest)

def readDollar : List Char → Option (Part × List Char)
  | '(' :: '(' :: rest => do
    let (expression, rest) ← upTo ')' rest
    let rest ← afterPrefix? [')'] rest
    pure (.arithmetic expression, rest)
  | c :: rest =>
    if ['$', '?'].contains c then some (.variable [c], rest)
    else if isNameChar c then
      some (.variable (c :: rest.takeWhile isNameChar), rest.dropWhile isNameChar)
    else some (.char '$', c :: rest)
  | [] => some (.char '$', [])

/--
Read the rest of a word, inside double quotes or outside. The parts read so far are given in reverse order.
-/
def readWord (quoted : Bool) (fuel : Nat) (parts : Word) (s : List Char) : Option (Word × List Char) :=
  match fuel, s with
  | 0, _ => none
  | _, [] => if quoted then none else some (parts.reverse, [])
  | fuel + 1, c :: rest =>
    if !quoted && endsWord c then some (parts.reverse, c :: rest)
    else if c == '"' then readWord (!quoted) fuel parts rest
    else if c == singleQuote && !quoted then do
      let (inside, rest) ← upTo singleQuote rest
      readWord quoted fuel ((inside.map Part.char).reverse ++ parts) rest
    else if c == '\\' then
      match rest with
      | d :: rest =>
        let kept := quoted && d != '$' && d != '"' && d != '\\'
        readWord quoted fuel (.char d :: (if kept then [.char c] else []) ++ parts) rest
      | [] => none
    else if c == '$' then do
      let (part, rest) ← readDollar rest
      readWord quoted fuel (part :: parts) rest
    else readWord quoted fuel (.char c :: parts) rest

/--
Read a redirection after its arrow. What goes to a file is not kept.
-/
def readArrow (source : Target) (s : List Char) : Option (Redirection × List Char) :=
  match s with
  | '&' :: '1' :: rest => some (⟨source, .toOutput⟩, rest)
  | '&' :: '2' :: rest => some (⟨source, .toErrors⟩, rest)
  | _ => do
    let s := s.dropWhile (· == ' ')
    let (_, rest) ← readWord false (s.length + 1) [] s
    pure (⟨source, .nowhere⟩, rest)

/--
The operators, the longer ones first.
-/
def operators : List (List Char) :=
  [['&', '&'], ['|', '|'], [';'], ['\n']]

def tokens (fuel : Nat) (done : List Token) (s : List Char) : Option (List Token) :=
  match fuel, s with
  | 0, _ => none
  | _, [] => some done.reverse
  | fuel + 1, c :: rest =>
    if c == ' ' || c == '\t' then tokens fuel done rest
    else if c == '>' then do
      let (redirection, rest) ← readArrow .toOutput rest
      tokens fuel (.redirection redirection :: done) rest
    else if c == '2' && rest.head? == some '>' then do
      let (redirection, rest) ← readArrow .toErrors (rest.drop 1)
      tokens fuel (.redirection redirection :: done) rest
    else
      match operators.find? fun chars => chars.isPrefixOf (c :: rest) with
      | some chars => tokens fuel (.operator chars :: done) ((c :: rest).drop chars.length)
      | none => do
        let (word, rest) ← readWord false (rest.length + 2) [] (c :: rest)
        tokens fuel (.word word :: done) rest

/-! ### Commands -/

def Token.isWord (token : Token) (text : String) : Bool :=
  token == .word (text.toList.map Part.char)

def Token.isOperator (token : Token) (text : String) : Bool :=
  token == .operator text.toList

def assignment? (word : Word) : Option (List Char × Word) :=
  go [] word
where
  go (name : List Char) : Word → Option (List Char × Word)
    | .char c :: rest =>
      if c == '=' && !name.isEmpty then some (name.reverse, rest)
      else if isNameChar c && !(name.isEmpty && c.isDigit) then go (c :: name) rest
      else none
    | _ => none

def skipSeparators : List Token → List Token
  | token :: rest =>
    if token.isOperator ";" || token.isOperator "\n" then skipSeparators rest else token :: rest
  | [] => []

def expectWord? (text : String) : List Token → Option (List Token)
  | token :: rest => if token.isWord text then some rest else none
  | [] => none

/--
Read the rest of a simple command. What has been read of it is given in reverse order.
-/
def readSimple (assignments : List (List Char × Word)) (words : List Word)
    (redirections : List Redirection) : List Token → Command × List Token
  | .word word :: rest =>
    match words.isEmpty, assignment? word with
    | true, some pair => readSimple (pair :: assignments) words redirections rest
    | _, _ => readSimple assignments (word :: words) redirections rest
  | .redirection redirection :: rest =>
    readSimple assignments words (redirection :: redirections) rest
  | rest => (.simple assignments.reverse words.reverse redirections.reverse, rest)

mutual

/--
Read commands up to a word that closes a loop, or the end.
-/
def readList (fuel : Nat) (tokens : List Token) : Option (Command × List Token) :=
  match fuel with
  | 0 => none
  | fuel + 1 =>
    match skipSeparators tokens with
    | [] => some (.nothing, [])
    | token :: rest =>
      if token.isWord "do" || token.isWord "done" then some (.nothing, token :: rest)
      else do
        let (first, rest) ← readCommand fuel (token :: rest)
        let (first, rest) ← readConditions fuel first rest
        let (second, rest) ← readList fuel rest
        pure (.sequence first second, rest)

/--
Read commands that depend on the outcome of those before them.
-/
def readConditions (fuel : Nat) (first : Command) (tokens : List Token) :
    Option (Command × List Token) :=
  match fuel, tokens with
  | 0, _ => none
  | _, [] => some (first, [])
  | fuel + 1, token :: rest =>
    if token.isOperator "&&" then do
      let (second, rest) ← readCommand fuel (skipSeparators rest)
      readConditions fuel (.andThen first second) rest
    else if token.isOperator "||" then do
      let (second, rest) ← readCommand fuel (skipSeparators rest)
      readConditions fuel (.orElse first second) rest
    else some (first, token :: rest)

def readCommand (fuel : Nat) (tokens : List Token) : Option (Command × List Token) :=
  match fuel, tokens with
  | 0, _ => none
  | _, [] => none
  | fuel + 1, token :: rest =>
    if token.isWord "while" then do
      let (condition, rest) ← readList fuel rest
      let rest ← expectWord? "do" rest
      let (body, rest) ← readList fuel rest
      let rest ← expectWord? "done" rest
      pure (.loop condition body, rest)
    else
      match token with
      | .operator _ => none
      | _ => some (readSimple [] [] [] (token :: rest))

end

def readScript? (s : List Char) : Option Command := do
  let tokens ← tokens (2 * s.length + 2) [] s
  let (command, rest) ← readList (8 * tokens.length + 8) tokens
  if rest.isEmpty then some command else none

end WafWatch.Simulation
