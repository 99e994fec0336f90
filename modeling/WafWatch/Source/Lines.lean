import WafWatch.Text.Utf8

/-!
This module contains the cutting of octets into lines. The octets come in chunks that end anywhere, so
that the beginning of a line is carried from one chunk to the next. Lines that are too long are left
out, and what is known of such a line is not kept.
-/

namespace WafWatch

def newline : UInt8 := 10

/--
Cut octets at the newlines: the pieces before a newline, and what follows the last one.
-/
def cutLines (octets : List UInt8) : List (List UInt8) × List UInt8 :=
  go [] [] octets
where
  go (pieces : List (List UInt8)) (piece : List UInt8) :
      List UInt8 → List (List UInt8) × List UInt8
    | [] => (pieces.reverse, piece.reverse)
    | b :: rest =>
      if b == newline then go (piece.reverse :: pieces) [] rest else go pieces (b :: piece) rest

def trimReturns (s : List Char) : List Char :=
  (s.reverse.dropWhile (· == '\r')).reverse

/--
The text of a line without its end, unless it is too long or empty.
-/
def lineText? (limit : Nat) (octets : List UInt8) : Option String :=
  if limit < octets.length then none
  else
    let text := trimReturns (Text.decodeLossy octets)
    if text.isEmpty then none else some (String.ofList text)

/--
What is carried from one chunk to the next.
-/
structure LineCarry where
  /-- The beginning of a line that has not ended. -/
  pending : List UInt8 := []
  /-- The line that has not ended is too long already. -/
  skipping : Bool := false
  deriving DecidableEq, Repr, Inhabited

namespace LineCarry

def complete (limit : Nat) (carry : LineCarry) (piece : List UInt8) : Option String × LineCarry :=
  if carry.skipping then (none, { carry with skipping := false })
  else (lineText? limit (carry.pending ++ piece), {})

def hold (limit : Nat) (carry : LineCarry) (piece : List UInt8) : LineCarry :=
  if carry.skipping then carry
  else
    let pending := carry.pending ++ piece
    if limit < pending.length then { pending := [], skipping := true } else { pending }

/--
End a line with each of the pieces. The lines found before are given in reverse order.
-/
def completeAll (limit : Nat) (carry : LineCarry) (lines : List String) :
    List (List UInt8) → List String × LineCarry
  | [] => (lines.reverse, carry)
  | piece :: rest =>
    match carry.complete limit piece with
    | (some line, carry) => completeAll limit carry (line :: lines) rest
    | (none, carry) => completeAll limit carry lines rest

def split (limit : Nat) (carry : LineCarry) (chunk : List UInt8) : List String × LineCarry :=
  let (pieces, last) := cutLines chunk
  let (lines, carry) := carry.completeAll limit [] pieces
  (lines, carry.hold limit last)

end LineCarry

end WafWatch
