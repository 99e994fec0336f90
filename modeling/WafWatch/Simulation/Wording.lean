import WafWatch.Live.Request
import WafWatch.Simulation.Decimal
import WafWatch.Simulation.Quoted
import WafWatch.Text.Scan

/-!
This module contains the texts in which the JSON library tells why a text does not decode, as far as the error
decides them. They stand in for that library in runs of the program, and nothing is proved about them.
-/

namespace WafWatch.Simulation

open WafWatch.Json WafWatch.Text

/--
Put a name between the marks that set names apart in messages.
-/
def marked (name : List Char) : List Char :=
  "`".toList ++ name ++ "`".toList

def listNames : List String → List Char
  | [] => "there are no variants".toList
  | [a] => "expected ".toList ++ marked a.toList
  | [a, b] => "expected ".toList ++ marked a.toList ++ " or ".toList ++ marked b.toList
  | names =>
    "expected one of ".toList ++
      ((names.map fun (name : String) => marked name.toList).intersperse ", ".toList).flatten

def describeNumeric : Numeric → List Char
  | .integer n => "integer ".toList ++ marked (showInt n)
  | .float negative magnitude =>
    "floating point ".toList ++
      marked ((if negative then ['-'] else []) ++ showDouble magnitude)
  | .beyond => []

def describe : Found → List Char
  | .null => "null".toList
  | .bool true => "boolean `true`".toList
  | .bool false => "boolean `false`".toList
  | .number numeric => describeNumeric numeric
  | .text chars => "string ".toList ++ quote chars
  | .list => "sequence".toList
  | .record => "map".toList

def unexpected (found : Found) (expected : String) : String :=
  String.ofList ("invalid type: ".toList ++ describe found ++ ", expected ".toList ++ expected.toList)

/--
What stands in front of the place of a problem.
-/
def placeMark : List Char := " at line ".toList

/--
The text without the place that it ends in, which begins at the last mark of a place. Seen from its end,
that is the first mark.
-/
def leaveOutPlace (s : String) : String :=
  match firstMatch? (afterPrefix? placeMark.reverse) s.toList.reverse with
  | some reversed => String.ofList reversed.reverse
  | none => s

/--
The text of an error without the place of the problem, if the error decides it. Where the place is not known,
the text does not end in one; if it quotes the mark of a place, it is cut there all the same.
-/
def wording? : DecodeError → Option String
  | .missingField name => some (String.ofList ("missing field ".toList ++ marked name.toList))
  | .duplicateField name => some (String.ofList ("duplicate field ".toList ++ marked name.toList))
  | .unknownVariant name expected =>
    some (String.ofList
      ("unknown variant ".toList ++ marked name ++ ", ".toList ++ listNames expected))
  | .invalidType found expected => some (unexpected found expected)
  | .displaced (.noName found) => some (leaveOutPlace (unexpected found "string or map"))
  | .displaced cause => (wording? cause).map leaveOutPlace
  | _ => none

/--
What the library says about a text that is no request, as far as the error decides it.
-/
def requestWording (text : String) : String :=
  match ClientRequest.parse text with
  | .ok _ => ""
  | .error error => (wording? error).getD ""

end WafWatch.Simulation
