/-!
This module contains the reading and writing of UTF-8 octets. A sequence of octets is cut into units,
each of which is either one well-formed character or a longest piece that could have started one;
reading with replacement turns every piece of the second kind into one replacement character.
-/

namespace WafWatch.Text

def replacementChar : Char := Char.ofNat 0xfffd

def isContinuation (b : UInt8) : Bool :=
  0x80 ≤ b && b ≤ 0xbf

/--
The least and the greatest second octet of a character that starts with `lead`, and the number of
octets after the second; `none` when no character of more than one octet starts with `lead`.
-/
def secondOctet (lead : UInt8) : Option (UInt8 × UInt8 × Nat) :=
  if 0xc2 ≤ lead && lead ≤ 0xdf then some (0x80, 0xbf, 0)
  else if lead == 0xe0 then some (0xa0, 0xbf, 1)
  else if lead == 0xed then some (0x80, 0x9f, 1)
  else if 0xe1 ≤ lead && lead ≤ 0xef then some (0x80, 0xbf, 1)
  else if lead == 0xf0 then some (0x90, 0xbf, 2)
  else if 0xf1 ≤ lead && lead ≤ 0xf3 then some (0x80, 0xbf, 2)
  else if lead == 0xf4 then some (0x80, 0x8f, 2)
  else none

/--
The bits that a leading octet gives to a character with `more` octets after the second.
-/
def leadBits (lead : UInt8) (more : Nat) : Nat :=
  match more with
  | 0 => lead.toNat % 0x20
  | 1 => lead.toNat % 0x10
  | _ => lead.toNat % 0x08

/--
Add `more` continuation octets to the bits read so far. The remaining octets are returned in any
case; the code point only if all continuation octets were there.
-/
def readContinuations (bits : Nat) (more : Nat) (octets : List UInt8) :
    Option Nat × List UInt8 :=
  match more, octets with
  | 0, rest => (some bits, rest)
  | _ + 1, [] => (none, [])
  | more + 1, b :: rest =>
    if isContinuation b then readContinuations (bits * 0x40 + b.toNat % 0x40) more rest
    else (none, b :: rest)

theorem length_readContinuations (bits more : Nat) (octets : List UInt8) :
    (readContinuations bits more octets).2.length ≤ octets.length := by
  induction more generalizing bits octets with
  | zero => simp [readContinuations]
  | succ more ih =>
    cases octets with
    | nil => simp [readContinuations]
    | cons b rest =>
      simp only [readContinuations]
      split
      · exact Nat.le_succ_of_le (ih _ rest)
      · simp

/--
The unit that starts with the octet `lead`, and the octets after it. The unit is `none` when it is
not a character.
-/
def readUnit (lead : UInt8) (octets : List UInt8) : Option Char × List UInt8 :=
  if lead < 0x80 then (some (Char.ofNat lead.toNat), octets)
  else
    match secondOctet lead, octets with
    | some (low, high, more), b :: rest =>
      if low ≤ b && b ≤ high then
        let (code?, left) :=
          readContinuations (leadBits lead more * 0x40 + b.toNat % 0x40) more rest
        (code?.map Char.ofNat, left)
      else (none, b :: rest)
    | _, rest => (none, rest)

theorem length_readUnit (lead : UInt8) (octets : List UInt8) :
    (readUnit lead octets).2.length ≤ octets.length := by
  unfold readUnit
  split
  · simp
  · split
    · split
      · exact Nat.le_succ_of_le (length_readContinuations _ _ _)
      · simp
    · simp

/--
The units of a sequence of octets, put in front of `done` in reverse order.
-/
def readUnits (done : List (Option Char)) (octets : List UInt8) : List (Option Char) :=
  match octets with
  | [] => done.reverse
  | lead :: rest => readUnits ((readUnit lead rest).1 :: done) (readUnit lead rest).2
termination_by octets.length
decreasing_by exact Nat.lt_succ_of_le (length_readUnit lead rest)

/--
Read octets as text, with one replacement character for each unit that is not a character.
-/
def decodeLossy (octets : List UInt8) : List Char :=
  (readUnits [] octets).map (·.getD replacementChar)

def decode? (octets : List UInt8) : Option (List Char) :=
  (readUnits [] octets).mapM id

def encode (s : List Char) : List UInt8 :=
  s.flatMap String.utf8EncodeChar

end WafWatch.Text
