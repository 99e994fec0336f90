import WafWatch.Text.Numeral

/-!
This module holds JSON values and their written form, which has no blanks between tokens and escapes
only what has to be escaped.
-/

namespace WafWatch.Json

/--
A JSON value. Numbers are integers; members keep their order.
-/
inductive Value where
  | null
  | bool (b : Bool)
  | number (n : Int)
  | text (chars : List Char)
  | list (items : List Value)
  | record (members : List (List Char × Value))
  deriving Repr, Inhabited

def hexDigit (n : Nat) : Char :=
  if n < 10 then Char.ofNat ('0'.toNat + n) else Char.ofNat ('a'.toNat + n - 10)

def escapeChar (c : Char) : List Char :=
  if c == '"' then ['\\', '"']
  else if c == '\\' then ['\\', '\\']
  else if c == '\n' then ['\\', 'n']
  else if c == '\r' then ['\\', 'r']
  else if c == '\t' then ['\\', 't']
  else if c.toNat == 0x08 then ['\\', 'b']
  else if c.toNat == 0x0c then ['\\', 'f']
  else if c.toNat < 0x20 then
    ['\\', 'u', '0', '0', hexDigit (c.toNat / 16), hexDigit (c.toNat % 16)]
  else [c]

def renderText (chars : List Char) : List Char :=
  '"' :: chars.flatMap escapeChar ++ ['"']

mutual

def Value.render : Value → List Char
  | .null => ['n', 'u', 'l', 'l']
  | .bool true => ['t', 'r', 'u', 'e']
  | .bool false => ['f', 'a', 'l', 's', 'e']
  | .number n => Text.showInt n
  | .text chars => renderText chars
  | .list items => '[' :: renderItems items ++ [']']
  | .record members => '\x7b' :: renderMembers members ++ ['\x7d']

def renderItems : List Value → List Char
  | [] => []
  | [item] => item.render
  | item :: rest => item.render ++ ',' :: renderItems rest

def renderMembers : List (List Char × Value) → List Char
  | [] => []
  | [(key, value)] => renderText key ++ ':' :: value.render
  | (key, value) :: rest => renderText key ++ ':' :: value.render ++ ',' :: renderMembers rest

end

def Value.ofString (s : String) : Value :=
  .text s.toList

def Value.ofMembers (members : List (String × Value)) : Value :=
  .record (members.map fun member => (member.1.toList, member.2))

def Value.ofStrings (items : List String) : Value :=
  .list (items.map .ofString)

end WafWatch.Json
