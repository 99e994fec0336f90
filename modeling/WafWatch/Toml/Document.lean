import WafWatch.Toml.Scalar
import WafWatch.Toml.Table
import WafWatch.Toml.Text

/-!
This module contains the reading of TOML documents. A document is a sequence of lines, each of which
gives a value to a key or begins a table; values in brackets and braces may go over several lines.
-/

namespace WafWatch.Toml

open WafWatch.Text

def maxDepth : Nat := 80

/--
The most parts of a key, be it the key of a value or the name of a table. Lists and tables in braces
around the key do not count.
-/
def maxParts : Nat := 80

/-! ### Blanks and comments -/

def skipBlanks (s : List Char) : List Char :=
  s.dropWhile isBlank

/--
What follows a comment after its mark, if the comment holds nothing but characters that it may hold.
-/
def afterComment? (s : List Char) : Option (List Char) :=
  let rest := s.dropWhile isPlain
  match afterBreak? rest with
  | some _ => some rest
  | none => if rest.isEmpty then some [] else none

/--
The text after a line that holds nothing more: blanks and a comment at most.
-/
def afterLine? (s : List Char) : Option (List Char) := do
  let rest ← match skipBlanks s with
    | '#' :: rest => afterComment? rest
    | rest => some rest
  if rest.isEmpty then some [] else afterBreak? rest

def skipLines? (fuel : Nat) (s : List Char) : Option (List Char) :=
  match fuel with
  | 0 => some s
  | fuel + 1 =>
    match skipBlanks s with
    | '#' :: rest => do skipLines? fuel (← afterComment? rest)
    | rest =>
      match afterBreak? rest with
      | some rest => skipLines? fuel rest
      | none => some rest

/-! ### Keys -/

def isKeyChar (c : Char) : Bool :=
  c.isAlphanum || c == '_' || c == '-'

def readPart? (s : List Char) : Option (List Char × List Char) :=
  match readShort? s with
  | some part => some part
  | none =>
    let chars := s.takeWhile isKeyChar
    if chars.isEmpty then none else some (chars, s.drop chars.length)

/--
Read a key of at most so many parts: the parts that lead to it, the last part, and the text after it
and the blanks after it.
-/
def readKey? (parts : Nat) (s : List Char) : Option ((List (List Char) × List Char) × List Char) :=
  match parts with
  | 0 => none
  | parts + 1 => do
    let (part, s) ← readPart? (skipBlanks s)
    match skipBlanks s with
    | '.' :: rest => do
      let ((path, last), rest) ← readKey? parts rest
      pure ((part :: path, last), rest)
    | rest => pure (([], part), rest)

/-! ### Values -/

def orMalformed {α : Type} : Option α → Except Fault α
  | some a => .ok a
  | none => .error .malformed

def deepen (depth : Nat) : Except Fault Nat :=
  if depth < maxDepth then .ok (depth + 1) else .error .tooDeep

mutual

/--
Read a value within `depth` lists and tables, and return the text after it.
-/
def readValue (fuel depth : Nat) (s : List Char) : Except Fault (Value × List Char) :=
  match fuel with
  | 0 => .error .malformed
  | fuel + 1 =>
    match s with
    | '[' :: rest => do
      let (items, rest) ← readItems fuel (← deepen depth) [] rest
      pure (.list items, rest)
    | '\x7b' :: rest => do
      let (entries, rest) ← readEntries fuel (← deepen depth) [] rest
      pure (.table .inline entries, rest)
    | c :: _ =>
      if c == '"' || c == '\'' then do
        let (chars, rest) ← orMalformed (readText? s)
        pure (.text chars, rest)
      else do
        let (written, rest) := takeBare s
        let value ← orMalformed (ofBare? written)
        pure (value, rest)
    | [] => .error .malformed

/--
Read the items of a list from the text after its bracket or after a comma. The items before are given
in reverse order.
-/
def readItems (fuel depth : Nat) (before : List Value) (s : List Char) :
    Except Fault (List Value × List Char) :=
  match fuel with
  | 0 => .error .malformed
  | fuel + 1 => do
    match ← orMalformed (skipLines? s.length s) with
    | ']' :: rest => pure (before.reverse, rest)
    | s => do
      let (item, s) ← readValue fuel depth s
      match ← orMalformed (skipLines? s.length s) with
      | ',' :: rest => readItems fuel depth (item :: before) rest
      | ']' :: rest => pure ((item :: before).reverse, rest)
      | _ => throw .malformed

/--
Read the entries of a table in braces from the text after its brace or after a comma.
-/
def readEntries (fuel depth : Nat) (entries : Entries) (s : List Char) :
    Except Fault (Entries × List Char) :=
  match fuel with
  | 0 => .error .malformed
  | fuel + 1 => do
    match ← orMalformed (skipLines? s.length s) with
    | '\x7d' :: rest => pure (entries, rest)
    | s => do
      let ((path, key), s) ← orMalformed (readKey? maxParts s)
      match ← orMalformed (skipLines? s.length s) with
      | '=' :: s => do
        let (value, s) ← readValue fuel depth (← orMalformed (skipLines? s.length s))
        let entries ← entries.insert path key value
        match ← orMalformed (skipLines? s.length s) with
        | ',' :: rest => readEntries fuel depth entries rest
        | '\x7d' :: rest => pure (entries, rest)
        | _ => throw .malformed
      | _ => throw .malformed

end

/-! ### Lines -/

/--
What has been read of a document: its entries and the table that the last header began.
-/
structure Draft where
  entries : Entries := []
  header : List (List Char) := []

/--
Take a header after its brackets: the names it holds have to be followed by `closing` and nothing else
on the line.
-/
def Draft.takeHeader (draft : Draft)
    (start : Entries → List (List Char) → List Char → Except Fault Entries) (closing s : List Char) :
    Except Fault (Draft × List Char) := do
  let ((path, key), s) ← orMalformed (readKey? maxParts s)
  let s ← orMalformed (afterPrefix? closing s)
  let s ← orMalformed (afterLine? s)
  let entries ← start draft.entries path key
  pure ({ entries, header := path ++ [key] }, s)

def Draft.takeEntry (draft : Draft) (s : List Char) : Except Fault (Draft × List Char) := do
  let ((path, key), s) ← orMalformed (readKey? maxParts s)
  let s ← orMalformed (afterPrefix? ['='] s)
  let (value, s) ← readValue (2 * s.length + 2) 0 (skipBlanks s)
  let s ← orMalformed (afterLine? s)
  let entries ← draft.entries.insertUnder draft.header path key value
  pure ({ draft with entries }, s)

def Draft.takeLine (draft : Draft) (s : List Char) : Except Fault (Draft × List Char) :=
  match skipBlanks s with
  | '[' :: '[' :: rest => draft.takeHeader Entries.beginElement [']', ']'] rest
  | '[' :: rest => draft.takeHeader Entries.beginTable [']'] rest
  | rest => draft.takeEntry rest

def Draft.takeLines (fuel : Nat) (draft : Draft) (s : List Char) : Except Fault Draft :=
  match fuel with
  | 0 => .ok draft
  | fuel + 1 => do
    let s ← orMalformed (skipLines? s.length s)
    if s.isEmpty then pure draft
    else do
      let (draft, s) ← draft.takeLine s
      takeLines fuel draft s

/--
The text without the mark that may stand in front of it to tell its encoding.
-/
def skipMark : List Char → List Char
  | c :: rest => if c.toNat = 0xfeff then rest else c :: rest
  | [] => []

def read (s : List Char) : Except Fault Entries := do
  let s := skipMark s
  let draft ← Draft.takeLines (s.length + 1) {} s
  pure draft.entries

end WafWatch.Toml
