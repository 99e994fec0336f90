import WafWatch.Text.LowercaseTable
import WafWatch.Text.Property

/-!
This module contains the lowering of letters. A character is lowered on its own, except for the
capital sigma, whose lower-case form at the end of a word differs from the one inside a word.
-/

namespace WafWatch.Text

/--
The capital sigma, the one letter whose lower-case form depends on its neighbours.
-/
def capitalSigma : Char := 'Σ'

/--
The lower-case form of one character: a letter with an ASCII capital moves by 32, a letter on a case
run by the distance of that run, the dotted capital I becomes an i with a combining dot, and every
other character is kept.
-/
def lowerChar (c : Char) : List Char :=
  if c.toNat < 0x80 then [c.toLower]
  else if c.toNat == 0x130 then ['i', Char.ofNat 0x307]
  else
    match caseRuns.find? (·.has c.toNat) with
    | some run => [Char.ofNat (Int.toNat (c.toNat + run.shift))]
    | none => [c]

/--
The nearest character that casing does not ignore exists and is cased.
-/
def casedAhead (s : List Char) : Bool :=
  match s.dropWhile isCaseIgnorable with
  | [] => false
  | c :: _ => isCased c

/--
The lower-case form of `c` between the text on its left and the text `after` on its right, of which
`casedBefore` says whether the nearest character that counts on the left is cased.
-/
def lowerAt (casedBefore : Bool) (c : Char) (after : List Char) : List Char :=
  if c == capitalSigma then
    if casedBefore && !casedAhead after then ['ς'] else ['σ']
  else lowerChar c

/--
What `casedBefore` becomes once `c` has been passed.
-/
def passCase (casedBefore : Bool) (c : Char) : Bool :=
  if isCaseIgnorable c then casedBefore else isCased c

/--
Lower a text of which the part before `s` has been lowered into the reversed list `done`.
-/
def lowerFrom (casedBefore : Bool) (done : List Char) : List Char → List Char
  | [] => done.reverse
  | c :: rest =>
    lowerFrom (passCase casedBefore c) ((lowerAt casedBefore c rest).reverse ++ done) rest

def lower (s : List Char) : List Char :=
  lowerFrom false [] s

end WafWatch.Text
