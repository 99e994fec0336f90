import WafWatch.Json.Decoding
import WafWatch.Json.Value

/-!
This module contains the requests that subscribers may send. A request is a record with a tag, or a
list that starts with the tag; what the tag does not call for is only checked for being well-formed.
-/

namespace WafWatch

open WafWatch.Json

/--
What a subscriber may ask for.
-/
inductive ClientRequest where
  /-- Recent events, as many as the limit says. -/
  | getLogs (limit : Option Int)
  | getStats
  deriving DecidableEq, Repr, Inhabited

namespace ClientRequest

def kinds : List String :=
  ["get_logs", "get_stats"]

def kind : ClientRequest → String
  | .getLogs _ => "get_logs"
  | .getStats => "get_stats"

def toValue : ClientRequest → Value
  | .getLogs limit =>
    .ofMembers [("type", .ofString "get_logs"),
      ("limit", match limit with
        | some n => .number n
        | none => .null)]
  | .getStats => .ofMembers [("type", .ofString "get_stats")]

/-! ### Decoding -/

def tagKey : String := "type"

def decodeTag (node : Node) : Decoded String := do
  let chars ← node.textAs "variant identifier"
  match kinds.find? (·.toList == chars) with
  | some kind => pure kind
  | none => throw (.unknownVariant chars kinds)

/--
The number of integers of 64 bits with sign that are not negative.
-/
def limitBound : Nat := UInt64.size / 2

def decodeLimit : Node → Decoded (Option Int)
  | .null => .ok none
  | node => (node.integerIn (-(limitBound : Int)) ((limitBound : Int) - 1) "i64").map some

/--
Decode the limit among the members beside the tag. What was decoded before is given.
-/
def decodeLimits (limit : Option (Option Int)) : List (List Char × Node) → Decoded (Option Int)
  | [] => .ok (limit.getD none)
  | (key, value) :: rest =>
    if key == "limit".toList then do
      let limit ← fill "limit" limit decodeLimit value
      decodeLimits limit rest
    else decodeLimits limit rest

def ofMembers (kind : String) (members : List (List Char × Node)) : Decoded ClientRequest :=
  if kind == "get_logs" then (decodeLimits none members).map .getLogs else .ok .getStats

def ofItems (kind : String) (items : List Node) : Decoded ClientRequest :=
  match kind == "get_logs", items with
  | true, [] => .ok (.getLogs none)
  | true, item :: rest => do
    let limit ← decodeLimit item
    if rest.isEmpty then pure (.getLogs limit) else throw .wrongSize
  | false, [] => .ok .getStats
  | false, _ :: _ => .error .wrongSize

/--
Go through the members of a request. The tag is decoded when it is met; the other members are only
read, and kept in reverse order.
-/
def gather (kind : Option String) (others : List (List Char × Node)) (tail : Tail) :
    List (Except Fault (List Char) × Node) → Decoded (Option String × List (List Char × Node))
  | [] =>
    match tail.fault? with
    | some fault => .error (.fault fault)
    | none => .ok (kind, others.reverse)
  | (key, value) :: rest => do
    let chars ← key.mapError .fault
    if chars == tagKey.toList then
      let kind ← fill tagKey kind decodeTag value
      gather kind others tail rest
    else
      match value.readFault? (maxDepth - 1) with
      | some fault => throw (.fault fault)
      | none => gather kind ((chars, value) :: others) tail rest

def decode : Node → Decoded ClientRequest
  | .list [] tail =>
    match tail.fault? with
    | some fault => .error (.fault fault)
    | none => .error (.missingField tagKey)
  | .list (item :: rest) tail => do
    let kind ← decodeTag item
    match firstFault (itemsReadFault? (maxDepth - 1) rest) tail.fault? with
    | some fault => throw (.fault fault)
    | none => (ofItems kind rest).mapError .displaced
  | .record members tail => do
    let (kind, others) ← gather none [] tail members
    let kind ← require tagKey kind
    (ofMembers kind others).mapError .displaced
  | node => .error (node.mismatch "internally tagged enum ClientRequest")

def parse (text : String) : Decoded ClientRequest :=
  decodeText decode text.toList

end ClientRequest

end WafWatch
