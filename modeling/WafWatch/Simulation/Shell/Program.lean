import WafWatch.Simulation.Disk
import WafWatch.Text.Numeral
import WafWatch.Text.Utf8

/-!
This module contains the small programs that runs may use: what they write, how they end and how long they
take.
-/

namespace WafWatch.Simulation

open WafWatch.Text

/--
What a program did.
-/
structure Ran where
  status : Nat := 0
  output : List UInt8 := []
  errors : List UInt8 := []
  /-- The time it took in milliseconds. -/
  millis : Nat := 0
  deriving DecidableEq, Repr, Inhabited

def Ran.failure (status : Nat) (message : String) : Ran where
  status := status
  errors := message.toUTF8.toList ++ [10]

/-! ### Escapes -/

def isOctal (c : Char) : Bool :=
  '0' ≤ c && c ≤ '7'

/--
The octet of an escape of one letter.
-/
def escapeOctet? (c : Char) : Option UInt8 :=
  match c with
  | '\\' => some 92
  | 'n' => some 10
  | 'r' => some 13
  | 't' => some 9
  | _ => none

/--
The octets that are meant by what follows a backslash, and the text after that.
-/
def readEscape (s : List Char) : List UInt8 × List Char :=
  match s with
  | [] => ([92], [])
  | c :: rest =>
    if isOctal c then
      let digits := (s.take 3).takeWhile isOctal
      ([UInt8.ofNat (ofDigitsIn 8 digits)], s.drop digits.length)
    else
      match escapeOctet? c with
      | some octet => ([octet], rest)
      | none => (92 :: encode [c], rest)

def unescape (fuel : Nat) (s : List Char) : List UInt8 :=
  match fuel, s with
  | 0, _ => []
  | _, [] => []
  | fuel + 1, c :: rest =>
    if c == '\\' then
      let (octets, rest) := readEscape rest
      octets ++ unescape fuel rest
    else encode [c] ++ unescape fuel rest

/-! ### Programs -/

def spaced (words : List (List Char)) : List Char :=
  [' '].intercalate words

/--
Write words. The shell itself reads escapes in them.
-/
def echo (builtIn : Bool) (arguments : List (List Char)) : Ran :=
  let bare := arguments.head? == some "-n".toList
  let text := spaced (if bare then arguments.drop 1 else arguments)
  let octets := if builtIn then unescape (text.length + 1) text else encode text
  { output := octets ++ if bare then [] else [10] }

/--
Go through a format once. The arguments that are left are returned.
-/
def formatOnce (fuel : Nat) (s : List Char) (arguments : List (List Char)) :
    List UInt8 × List (List Char) :=
  match fuel, s with
  | 0, _ => ([], arguments)
  | _, [] => ([], arguments)
  | fuel + 1, c :: rest =>
    let (octets, rest, left) :=
      match c, rest with
      | '\\', rest => ((readEscape rest).1, (readEscape rest).2, arguments)
      | '%', 's' :: rest => (encode (arguments.head?.getD []), rest, arguments.drop 1)
      | '%', 'd' :: rest => (encode (arguments.head?.getD ['0']), rest, arguments.drop 1)
      | '%', '%' :: rest => ([37], rest, arguments)
      | _, rest => (encode [c], rest, arguments)
    let (later, left) := formatOnce fuel rest left
    (octets ++ later, left)

/--
Go through a format until every argument has been written.
-/
def format (fuel : Nat) (s : List Char) (arguments : List (List Char)) : List UInt8 :=
  match fuel with
  | 0 => []
  | fuel + 1 =>
    let (octets, left) := formatOnce (s.length + 1) s arguments
    octets ++ if left.isEmpty || left.length == arguments.length then [] else format fuel s left

def printf : List (List Char) → Ran
  | [] => .failure 2 "printf: usage: printf format [arg ...]"
  | text :: arguments => { output := format (arguments.length + 1) text arguments }

/--
Sleep for a number of seconds.
-/
def sleep (arguments : List (List Char)) : Ran :=
  let s := arguments.head?.getD []
  let whole := s.takeWhile Char.isDigit
  let fraction := (s.drop (whole.length + 1)).takeWhile Char.isDigit
  { millis := ofDigits whole * 1000 + ofDigits fraction * 1000 / Nat.pow 10 fraction.length }

/--
Compare numbers or texts, with a bracket at the end.
-/
def test (arguments : List (List Char)) : Ran :=
  let outcome (b : Bool) : Ran := { status := if b then 0 else 1 }
  match arguments with
  | [a, operator, b, [']']] =>
    match String.ofList operator with
    | "=" => outcome (a == b)
    | "!=" => outcome (a != b)
    | "-eq" => outcome (ofDigits a == ofDigits b)
    | "-lt" => outcome (ofDigits a < ofDigits b)
    | "-le" => outcome (ofDigits a ≤ ofDigits b)
    | "-gt" => outcome (ofDigits a > ofDigits b)
    | _ => .failure 2 "sh: 1: [: unexpected operator"
  | _ => .failure 2 "sh: 1: [: missing ]"

def programNames : List String :=
  ["true", "false", "echo", "printf", "sleep", "cat", "["]

/--
Run one of the programs, which find nothing to read.
-/
def runProgram (builtIn : Bool) (name : String) (arguments : List (List Char)) : Ran :=
  match name with
  | "true" => {}
  | "false" => { status := 1 }
  | "echo" => echo builtIn arguments
  | "printf" => printf arguments
  | "sleep" => sleep arguments
  | "[" => test arguments
  | _ => {}

def shellName : String := "sh"

/--
The name of the program at a path, or why there is none.
-/
def findProgram (disk : Disk) (path : String) : Except IoError String :=
  let names := shellName :: programNames
  match names.find? fun name => name == path || "/bin/" ++ name == path || "/usr/bin/" ++ name == path with
  | some name => .ok name
  | none =>
    if path.toList.contains '/' then
      match (disk.view path).status with
      | .ok _ => .error .permissionDenied
      | .error error => .error error
    else .error .notFound

end WafWatch.Simulation
