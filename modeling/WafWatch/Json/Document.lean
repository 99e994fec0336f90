import WafWatch.Json.Literal
import WafWatch.Text.Scan
import WafWatch.Text.Utf8

/-!
This module contains the reading of JSON texts. A text is read as far as it goes: where it stops being
well-formed, the tree that has been read so far ends in the fault. Whoever decodes the tree from left
to right therefore meets a wrong shape and a fault in the order in which the text has them.

A value can be read for its content or skipped. Skipping accepts a little more: escapes that do not
name a character, numbers of any size, any depth.
-/

namespace WafWatch.Json

open WafWatch.Text

/--
What is wrong with a text that is not well-formed.
-/
inductive Fault where
  /-- The text ended too early. -/
  | early
  /-- The text goes on with something that cannot stand there. -/
  | malformed
  deriving DecidableEq, Repr, Inhabited

/--
The faults of a text that does not hold a value: which one is met depends on what is looked for.
-/
structure Breakage where
  /-- The fault met when the value is read for its content. -/
  reading : Fault
  /-- The fault met when the value is skipped. -/
  skipping : Fault
  /-- The fault met when a name is looked for, of which only the first character is considered. -/
  naming : Fault
  deriving DecidableEq, Repr, Inhabited

/--
The same fault, whatever is looked for.
-/
def Breakage.always (fault : Fault) : Breakage :=
  ⟨fault, fault, fault⟩

mutual

/--
What was read of a value.
-/
inductive Node where
  | null
  | bool (b : Bool)
  | number (literal : Literal)
  /-- A string, or the fault met when its escapes are turned into characters. -/
  | text (chars : Except Fault (List Char))
  | list (items : List Node) (tail : Tail)
  | record (members : List (Except Fault (List Char) × Node)) (tail : Tail)
  /-- No value. -/
  | broken (breakage : Breakage)

/--
What stands after the last item of a list or the last member of a record.
-/
inductive Tail where
  /-- The closing bracket. -/
  | closed
  /-- The end of the text. -/
  | ended
  /-- A comma after which no item can be read, for the given reason. -/
  | comma (fault : Fault)
  /-- Something that is neither a comma nor the closing bracket. -/
  | stray
  /-- Something else than a string where the first key should stand. -/
  | noKey (found : Node)
  /-- A key that cannot be read: the fault met when reading it and when skipping it. -/
  | badKey (reading skipping : Fault)

end

instance : Inhabited Node := ⟨.null⟩

instance : Inhabited Tail := ⟨.closed⟩

def isSpace (c : Char) : Bool :=
  c == ' ' || c == '\n' || c == '\t' || c == '\r'

def skipSpaces (s : List Char) : List Char :=
  s.dropWhile isSpace

def readRest : (word s : List Char) → Except Fault (List Char)
  | [], s => .ok s
  | _ :: _, [] => .error .early
  | a :: word, b :: s => if a == b then readRest word s else .error .malformed

/-! ### Numbers -/

/--
Read the longest piece of digits, one at least.
-/
def readDigits (s : List Char) : Except (Fault × Fault) (List Char × List Char) :=
  match s with
  | [] => .error (.early, .malformed)
  | c :: rest =>
    if isAsciiDigit c then
      .ok (c :: rest.takeWhile isAsciiDigit, rest.dropWhile isAsciiDigit)
    else .error (.malformed, .malformed)

def readExponent (s : List Char) : Except (Fault × Fault) ((Bool × List Char) × List Char) :=
  match s with
  | '+' :: rest => (readDigits rest).map fun (digits, s) => ((false, digits), s)
  | '-' :: rest => (readDigits rest).map fun (digits, s) => ((true, digits), s)
  | _ => (readDigits s).map fun (digits, s) => ((false, digits), s)

/--
Read the digits of a number before its point: a single zero, or digits that do not start with one.
-/
def readWhole (s : List Char) : Except (Fault × Fault) (List Char × List Char) :=
  match s with
  | '0' :: rest =>
    match rest with
    | d :: _ => if isAsciiDigit d then .error (.malformed, .malformed) else .ok (['0'], rest)
    | [] => .ok (['0'], [])
  | _ => readDigits s

/--
Read the point of a number with the digits after it, if there is one.
-/
def readPoint (s : List Char) : Except (Fault × Fault) (Option (List Char) × List Char) :=
  match s with
  | '.' :: rest => (readDigits rest).map fun (digits, s) => (some digits, s)
  | _ => .ok (none, s)

def atExponent : List Char → Option (List Char)
  | 'e' :: rest => some rest
  | 'E' :: rest => some rest
  | _ => none

/--
Read the power of ten of a number, if there is one.
-/
def readPower (s : List Char) : Except (Fault × Fault) (Option (Bool × List Char) × List Char) :=
  match atExponent s with
  | some rest => (readExponent rest).map fun (exponent, s) => (some exponent, s)
  | none => .ok (none, s)

def readNumber (negative : Bool) (s : List Char) : Except (Fault × Fault) (Literal × List Char) := do
  let (whole, s) ← readWhole s
  let (fraction, s) ← readPoint s
  let (exponent, s) ← readPower s
  pure (⟨negative, whole, fraction, exponent⟩, s)

/-! ### Strings -/

/--
Read the four hexadecimal digits of an escape. The text ends too early if it has fewer than four more
octets.
-/
def readHex (s : List Char) : Except Fault (Nat × List Char) :=
  match s with
  | a :: b :: c :: d :: rest =>
    match hexValue? a, hexValue? b, hexValue? c, hexValue? d with
    | some a, some b, some c, some d => .ok (((a * 16 + b) * 16 + c) * 16 + d, rest)
    | _, _, _, _ => .error .malformed
  | _ => if (encode s).length < 4 then .error .early else .error .malformed

def escapeOf? (c : Char) : Option Char :=
  match c with
  | '"' => some '"'
  | '\\' => some '\\'
  | '/' => some '/'
  | 'b' => some '\x08'
  | 'f' => some '\x0c'
  | 'n' => some '\n'
  | 'r' => some '\r'
  | 't' => some '\t'
  | _ => none

/--
The first of two code units that write one character together.
-/
def isHighSurrogate (code : Nat) : Bool :=
  0xd800 ≤ code && code ≤ 0xdbff

def isLowSurrogate (code : Nat) : Bool :=
  0xdc00 ≤ code && code ≤ 0xdfff

/--
The next step in reading a string.
-/
inductive StringStep where
  /-- The string is closed; the text after it is given. -/
  | closed (rest : List Char)
  /-- A character was read. -/
  | char (c : Char) (rest : List Char)
  /-- An escape was passed that names no character; the fault of reading it is given. -/
  | noChar (fault : Fault) (rest : List Char)
  /-- The string cannot go on: the fault met when reading it and when skipping it. -/
  | broken (reading skipping : Fault)

/--
The step at an escape of four hexadecimal digits.
-/
def stringStepHex (s : List Char) : StringStep :=
  match readHex s with
  | .error fault => .broken fault fault
  | .ok (code, rest) =>
    if isLowSurrogate code then .noChar .malformed rest
    else if isHighSurrogate code then
      match rest with
      | [] => .broken .early .early
      | '\\' :: [] => .broken .early .early
      | '\\' :: 'u' :: after =>
        match readHex after with
        | .error fault => .broken fault fault
        | .ok (low, rest) =>
          if isLowSurrogate low then
            .char (Char.ofNat ((code - 0xd800) * 0x400 + (low - 0xdc00) + 0x10000)) rest
          else .noChar .malformed ('\\' :: 'u' :: after)
      | _ => .noChar .malformed rest
    else .char (Char.ofNat code) rest

def stringStep (s : List Char) : StringStep :=
  match s with
  | [] => .broken .early .early
  | '"' :: rest => .closed rest
  | '\\' :: [] => .broken .early .early
  | '\\' :: 'u' :: rest => stringStepHex rest
  | '\\' :: c :: rest =>
    match escapeOf? c with
    | some c => .char c rest
    | none => .broken .malformed .malformed
  | c :: rest => if c.toNat < 0x20 then .broken .malformed .malformed else .char c rest

/--
Read a string after its opening quote: its characters, or the first fault of reading them, and the
text after it; or the faults of reading and of skipping it. The characters read so far are given in
reverse order.
-/
def readString (fuel : Nat) (soFar : Except Fault (List Char)) (s : List Char) :
    Except (Fault × Fault) (Except Fault (List Char) × List Char) :=
  match fuel with
  | 0 => .error (.early, .early)
  | fuel + 1 =>
    match stringStep s with
    | .closed rest => .ok (soFar.map List.reverse, rest)
    | .char c rest => readString fuel (soFar.map (c :: ·)) rest
    | .noChar fault rest =>
      let soFar := match soFar with
        | .ok _ => .error fault
        | .error first => .error first
      readString fuel soFar rest
    | .broken reading skipping =>
      match soFar with
      | .ok _ => .error (reading, skipping)
      | .error first => .error (first, skipping)

/-! ### Values -/

def readWord (rest s : List Char) (node : Node) : Node × List Char :=
  match readRest rest s with
  | .ok s => (node, s)
  | .error fault => (.broken ⟨fault, fault, .malformed⟩, [])

def readNumberNode (negative : Bool) (s : List Char) : Node × List Char :=
  match readNumber negative s with
  | .ok (literal, s) => (.number literal, s)
  | .error (reading, skipping) => (.broken ⟨reading, skipping, .malformed⟩, [])

mutual

def readNode (fuel : Nat) (s : List Char) : Node × List Char :=
  match fuel with
  | 0 => (.broken (.always .early), [])
  | fuel + 1 =>
    match skipSpaces s with
    | [] => (.broken (.always .early), [])
    | 'n' :: rest => readWord ['u', 'l', 'l'] rest .null
    | 't' :: rest => readWord ['r', 'u', 'e'] rest (.bool true)
    | 'f' :: rest => readWord ['a', 'l', 's', 'e'] rest (.bool false)
    | '-' :: rest => readNumberNode true rest
    | '"' :: rest =>
      match readString (rest.length + 1) (.ok []) rest with
      | .ok (chars, rest) => (.text chars, rest)
      | .error (reading, skipping) => (.broken ⟨reading, skipping, reading⟩, [])
    | '[' :: rest =>
      let (items, tail, rest) := readItems fuel true rest
      (.list items tail, rest)
    | '\x7b' :: rest =>
      let (members, tail, rest) := readMembers fuel true rest
      (.record members tail, rest)
    | c :: rest =>
      if isAsciiDigit c then readNumberNode false (c :: rest)
      else (.broken (.always .malformed), [])

def readItems (fuel : Nat) (first : Bool) (s : List Char) : List Node × Tail × List Char :=
  match fuel with
  | 0 => ([], .ended, [])
  | fuel + 1 =>
    match skipSpaces s with
    | [] => ([], .ended, [])
    | ']' :: rest => ([], .closed, rest)
    | c :: rest =>
      if first then
        let (item, rest) := readNode fuel (c :: rest)
        let (items, tail, rest) := readItems fuel false rest
        (item :: items, tail, rest)
      else if c == ',' then
        match skipSpaces rest with
        | [] => ([], .comma .early, [])
        | ']' :: _ => ([], .comma .malformed, [])
        | c :: rest =>
          let (item, rest) := readNode fuel (c :: rest)
          let (items, tail, rest) := readItems fuel false rest
          (item :: items, tail, rest)
      else ([], .stray, [])

/--
Read the members of a record from the text after its opening bracket or after a member.
-/
def readMembers (fuel : Nat) (first : Bool) (s : List Char) :
    List (Except Fault (List Char) × Node) × Tail × List Char :=
  match fuel with
  | 0 => ([], .ended, [])
  | fuel + 1 =>
    match skipSpaces s with
    | [] => ([], .ended, [])
    | '\x7d' :: rest => ([], .closed, rest)
    | c :: rest =>
      if first then
        if c == '"' then readMember fuel rest
        else
          let (found, _) := readNode fuel (c :: rest)
          ([], .noKey found, [])
      else if c == ',' then
        match skipSpaces rest with
        | [] => ([], .comma .early, [])
        | '"' :: rest => readMember fuel rest
        | _ => ([], .comma .malformed, [])
      else ([], .stray, [])

/--
Read a member after the opening quote of its key, and the members after it.
-/
def readMember (fuel : Nat) (s : List Char) :
    List (Except Fault (List Char) × Node) × Tail × List Char :=
  match fuel with
  | 0 => ([], .ended, [])
  | fuel + 1 =>
    match readString (s.length + 1) (.ok []) s with
    | .error (reading, skipping) => ([], .badKey reading skipping, [])
    | .ok (key, rest) =>
      match skipSpaces rest with
      | [] => ([(key, .broken (.always .early))], .ended, [])
      | ':' :: rest =>
        let (value, rest) := readNode fuel rest
        let (members, tail, rest) := readMembers fuel false rest
        ((key, value) :: members, tail, rest)
      | _ => ([(key, .broken (.always .malformed))], .ended, [])

end

/--
What was read of a text: its value, and whether anything but blanks follows it.
-/
structure Document where
  root : Node
  isAlone : Bool

def Document.read (s : List Char) : Document :=
  let (root, rest) := readNode (2 * s.length + 2) s
  { root, isAlone := (skipSpaces rest).isEmpty }

end WafWatch.Json
