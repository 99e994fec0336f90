import WafWatch.Text.Lowercase

/-!
This module contains the normal form of a request target in which attacks are looked for: lower case,
with the percent codes of some punctuation replaced by the characters they stand for.
-/

namespace WafWatch.Target

/--
A percent code: its two hexadecimal digits in lower case and the character it stands for.
-/
structure PercentCode where
  high : Char
  low : Char
  char : Char
  deriving DecidableEq, Repr

/--
The percent codes that are replaced, in the order in which they are.
-/
def percentCodes : List PercentCode :=
  [⟨'3', 'c', '<'⟩, ⟨'3', 'e', '>'⟩, ⟨'2', '2', '"'⟩, ⟨'2', '7', Char.ofNat 0x27⟩, ⟨'2', '8', '('⟩,
    ⟨'2', '9', ')'⟩, ⟨'2', '0', ' '⟩]

/--
Replace every occurrence of a code, where the text on the left has been handled into the reversed list
`done`.
-/
def replaceFrom (code : PercentCode) (done : List Char) : List Char → List Char
  | '%' :: a :: b :: rest =>
    if a == code.high && b == code.low then replaceFrom code (code.char :: done) rest
    else replaceFrom code ('%' :: done) (a :: b :: rest)
  | c :: rest => replaceFrom code (c :: done) rest
  | [] => done.reverse

def replaceCode (s : List Char) (code : PercentCode) : List Char :=
  replaceFrom code [] s

def normalize (s : List Char) : List Char :=
  let lowered := Text.lower s
  if lowered.contains '%' then percentCodes.foldl replaceCode lowered else lowered

end WafWatch.Target
