import WafWatch.Event.Basic

/-!
This module contains the identifiers that events get which have none: 128 bits, of which some tell how the
identifier was made and all others are random.
-/

namespace WafWatch

namespace Identifier

/--
The octets of a number of 128 bits, the highest one first.
-/
def octets (n : Nat) : List Nat :=
  (List.range 16).map fun i => n / Nat.pow 256 (15 - i) % 256

/--
The octets with the marks of a random identifier: four bits of the seventh octet and two bits of the
ninth.
-/
def mark (octets : List Nat) : List Nat :=
  (octets.modify 6 (· % 16 + 0x40)).modify 8 (· % 64 + 0x80)

def digits (octets : List Nat) : String :=
  String.ofList (octets.flatMap fun octet =>
    [Nat.digitChar (octet / 16), Nat.digitChar (octet % 16)])

/--
The identifier that is made of a random number.
-/
def ofNumber (n : Nat) : String :=
  let octets := mark (octets n)
  "-".intercalate [digits (octets.take 4), digits ((octets.drop 4).take 2),
    digits ((octets.drop 6).take 2), digits ((octets.drop 8).take 2), digits (octets.drop 10)]

end Identifier

/--
The stamps of one instant, with identifiers that follow a random number.
-/
def StampSupply.ofSeed (seed : Nat) (now : Time.Timestamp) : StampSupply where
  stamp n := ⟨Identifier.ofNumber (seed + n), now⟩

end WafWatch
