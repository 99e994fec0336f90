import WafWatch.Text.Numeral

/-!
This module contains the addresses of the network, their reading and their canonical written form.
-/

namespace WafWatch.Net

open WafWatch.Text

/--
The address of a host.
-/
inductive IpAddress where
  | v4 (octets : Vector UInt8 4)
  | v6 (groups : Vector UInt16 8)
  deriving DecidableEq, Repr, Inhabited

/--
The address of a socket. The scope matters for addresses of the sixth version only.
-/
structure SocketAddress where
  ip : IpAddress
  scope : UInt32 := 0
  port : UInt16
  deriving DecidableEq, Repr, Inhabited

/-! ### Writing -/

def renderOctets (octets : List Nat) : List Char :=
  ['.'].intercalate (octets.map showNat)

def renderGroups (groups : List Nat) : List Char :=
  [':'].intercalate (groups.map (Nat.toDigits 16))

/--
The longest run of zeros in a list, the first one of several: where it begins and how long it is.
`place` is the place of the list's head, `current` the run that ends before it, and `longest` the longest
run before it.
-/
def longestZeros (place : Nat) (current longest : Nat × Nat) : List Nat → Nat × Nat
  | [] => longest
  | group :: rest =>
    if group = 0 then
      let current := if current.2 = 0 then (place, 1) else (current.1, current.2 + 1)
      longestZeros (place + 1) current (if longest.2 < current.2 then current else longest) rest
    else longestZeros (place + 1) (0, 0) longest rest

/--
The written form of eight groups. An embedded address of the fourth version is written as such;
otherwise the longest run of at least two zeros is left out.
-/
def renderSix (groups : List Nat) : List Char :=
  match groups with
  | [0, 0, 0, 0, 0, 0xffff, high, low] =>
    "::ffff:".toList ++ renderOctets [high / 256, high % 256, low / 256, low % 256]
  | _ =>
    let (start, length) := longestZeros 0 (0, 0) (0, 0) groups
    if 1 < length then
      renderGroups (groups.take start) ++ [':', ':'] ++ renderGroups (groups.drop (start + length))
    else renderGroups groups

def IpAddress.render : IpAddress → List Char
  | .v4 octets => renderOctets (octets.toList.map UInt8.toNat)
  | .v6 groups => renderSix (groups.toList.map UInt16.toNat)

def SocketAddress.render (address : SocketAddress) : List Char :=
  match address.ip with
  | .v4 _ => address.ip.render ++ ':' :: showNat address.port.toNat
  | .v6 _ =>
    '[' :: address.ip.render ++
      (if address.scope = 0 then [] else '%' :: showNat address.scope.toNat) ++
      [']', ':'] ++ showNat address.port.toNat

/-! ### Reading

A reader returns what it has read and the text after it.
-/

def expect (expected : Char) : List Char → Option (List Char)
  | c :: rest => if c = expected then some rest else none
  | [] => none

/--
Read a decimal number of at most three digits that does not exceed 255 and has no zero in front.
-/
def readOctet (s : List Char) : Option (UInt8 × List Char) :=
  let digits := s.takeWhile isAsciiDigit
  let value := ofDigits digits
  if digits.isEmpty || 3 < digits.length || (1 < digits.length && digits.head? == some '0') ||
      255 < value then none
  else some (UInt8.ofNat value, s.dropWhile isAsciiDigit)

def readFour (s : List Char) : Option (Vector UInt8 4 × List Char) := do
  let (a, s) ← readOctet s
  let (b, s) ← readOctet (← expect '.' s)
  let (c, s) ← readOctet (← expect '.' s)
  let (d, s) ← readOctet (← expect '.' s)
  pure (#v[a, b, c, d], s)

def readGroup (s : List Char) : Option (UInt16 × List Char) :=
  let digits := s.takeWhile isHexDigit
  if digits.isEmpty || 4 < digits.length then none
  else some (UInt16.ofNat (ofDigitsIn 16 digits), s.dropWhile isHexDigit)

/--
Read what stands before a group: a colon, unless it is the first one.
-/
def readSeparator (isFirst : Bool) (s : List Char) : Option (List Char) :=
  if isFirst then some s else expect ':' s

def joinOctets (high low : UInt8) : UInt16 :=
  high.toUInt16 * 256 + low.toUInt16

/--
Groups as far as they go, with whether the last two of them were written as four octets.
-/
structure Groups where
  groups : List UInt16 := []
  endsInOctets : Bool := false

/--
Read up to `room` more groups with colons between them. The last two may be written as four octets.
-/
def readGroups (s : List Char) (isFirst : Bool) : (room : Nat) → Groups × List Char
  | 0 => ({}, s)
  | room + 1 =>
    let embedded := if room = 0 then none else (readSeparator isFirst s).bind readFour
    match embedded with
    | some (octets, rest) =>
      ({ groups := [joinOctets octets[0] octets[1], joinOctets octets[2] octets[3]]
         endsInOctets := true }, rest)
    | none =>
      match (readSeparator isFirst s).bind readGroup with
      | none => ({}, s)
      | some (group, rest) =>
        let (more, rest) := readGroups rest false room
        ({ more with groups := group :: more.groups }, rest)

/--
Eight groups, of which those between the first ones and the last ones are zero.
-/
def fillGroups (front back : List UInt16) : Vector UInt16 8 :=
  .ofFn fun i =>
    if i.val < 8 - back.length then front[i.val]?.getD 0 else back[i.val - (8 - back.length)]?.getD 0

/--
Read an address of the sixth version. Two colons in a row stand for at least one group of zeros.
-/
def readSix (s : List Char) : Option (Vector UInt16 8 × List Char) := do
  let (front, s) := readGroups s true 8
  if front.groups.length = 8 then pure (fillGroups front.groups [], s)
  else if front.endsInOctets then none
  else
    let s ← expect ':' (← expect ':' s)
    let (back, s) := readGroups s true (7 - front.groups.length)
    pure (fillGroups front.groups back.groups, s)

def readBounded (limit : Nat) (s : List Char) : Option (Nat × List Char) :=
  let digits := s.takeWhile isAsciiDigit
  if digits.isEmpty || limit < ofDigits digits then none
  else some (ofDigits digits, s.dropWhile isAsciiDigit)

def readPort (s : List Char) : Option (UInt16 × List Char) := do
  let (port, s) ← readBounded 65535 (← expect ':' s)
  pure (UInt16.ofNat port, s)

/--
Read the scope of an address, after its percent sign; without one it is zero.
-/
def readScope (s : List Char) : UInt32 × List Char :=
  match (expect '%' s).bind (readBounded (UInt32.size - 1)) with
  | some (scope, rest) => (UInt32.ofNat scope, rest)
  | none => (0, s)

def readSocketFour (s : List Char) : Option (SocketAddress × List Char) := do
  let (octets, s) ← readFour s
  let (port, s) ← readPort s
  pure ({ ip := .v4 octets, port }, s)

def readSocketSix (s : List Char) : Option (SocketAddress × List Char) := do
  let (groups, s) ← readSix (← expect '[' s)
  let (scope, s) := readScope s
  let (port, s) ← readPort (← expect ']' s)
  pure ({ ip := .v6 groups, scope, port }, s)

def SocketAddress.read? (s : List Char) : Option SocketAddress :=
  match readSocketFour s <|> readSocketSix s with
  | some (address, []) => some address
  | _ => none

def SocketAddress.complaint : String := "invalid socket address syntax"

end WafWatch.Net
