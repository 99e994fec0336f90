import WafWatch.Json.Document

/-!
This module contains the decoding of JSON trees into typed values. Decoding goes from left to right
and stops at the first problem, be it a wrong shape or a fault of the text.
-/

namespace WafWatch.Json

/--
The deepest nesting of lists and records in a value that is read for its content.
-/
def maxDepth : Nat := 127

/--
What stands where a value of another type is expected.
-/
inductive Found where
  | null
  | bool (b : Bool)
  | number (numeric : Numeric)
  | text (chars : List Char)
  | list
  | record
  deriving DecidableEq, Repr, Inhabited

/--
Why a text does not decode.
-/
inductive DecodeError where
  /-- The text is not well-formed. -/
  | fault (fault : Fault)
  /-- A record lacks a field. -/
  | missingField (name : String)
  /-- A record has a field twice. -/
  | duplicateField (name : String)
  /-- A name is not one of those that may stand there. -/
  | unknownVariant (name : List Char) (expected : List String)
  /-- A value of another type than the expected one. -/
  | invalidType (found : Found) (expected : String)
  /-- A number that its type does not have. -/
  | outOfRange
  /-- A list of fewer items than there are fields. -/
  | tooShort
  /-- A text that is not a date and time. -/
  | noTime
  /-- Neither a string nor a record where a name should stand. -/
  | noName (found : Found)
  /-- A list of more items than there are fields, or a record that does not name exactly one thing. -/
  | wrongSize
  /-- A problem of a value that was kept for later, so that its place in the text is not known. -/
  | displaced (cause : DecodeError)
  deriving DecidableEq, Repr, Inhabited

abbrev Decoded (α : Type) := Except DecodeError α

/--
What stands at the place of a value. Where that cannot be told, because the text is faulty at once, it is
the fault instead.
-/
def Node.found : Node → Except Fault Found
  | .null => .ok .null
  | .bool b => .ok (.bool b)
  | .number literal =>
    match literal.numeric with
    | .beyond => .error .malformed
    | numeric => .ok (.number numeric)
  | .text chars => chars.map .text
  | .list _ _ => .ok .list
  | .record _ _ => .ok .record
  | .broken breakage => .error breakage.reading

def Node.mismatch (node : Node) (expected : String) : DecodeError :=
  match node.found with
  | .ok found => .invalidType found expected
  | .error fault => .fault fault

def Tail.fault? : Tail → Option Fault
  | .closed => none
  | .ended => some .early
  | .comma fault => some fault
  | .stray => some .malformed
  | .noKey _ => some .malformed
  | .badKey reading _ => some reading

def Tail.skipFault? : Tail → Option Fault
  | .badKey _ skipping => some skipping
  | tail => tail.fault?

/--
The error of a list that should end: anything but its closing bracket.
-/
def Tail.finish : Tail → Decoded Unit
  | .closed => .ok ()
  | .ended => .error (.fault .early)
  | _ => .error (.fault .malformed)

def firstFault (a b : Option Fault) : Option Fault :=
  match a with
  | some fault => some fault
  | none => b

mutual

/--
The first fault met when a value is read for its content, with `depth` levels of nesting left.
-/
def Node.readFault? (depth : Nat) : Node → Option Fault
  | .null => none
  | .bool _ => none
  | .number literal => if literal.numeric == .beyond then some .malformed else none
  | .text (.ok _) => none
  | .text (.error fault) => some fault
  | .list items tail =>
    match depth with
    | 0 => some .malformed
    | depth + 1 => firstFault (itemsReadFault? depth items) tail.fault?
  | .record members tail =>
    match depth with
    | 0 => some .malformed
    | depth + 1 => firstFault (membersReadFault? depth members) tail.fault?
  | .broken breakage => some breakage.reading

def itemsReadFault? (depth : Nat) : List Node → Option Fault
  | [] => none
  | item :: rest => firstFault (item.readFault? depth) (itemsReadFault? depth rest)

def membersReadFault? (depth : Nat) : List (Except Fault (List Char) × Node) → Option Fault
  | [] => none
  | (.error fault, _) :: _ => some fault
  | (.ok _, value) :: rest => firstFault (value.readFault? depth) (membersReadFault? depth rest)

end

mutual

/--
The first fault met when a value is skipped.
-/
def Node.skipFault? : Node → Option Fault
  | .list items tail => firstFault (itemsSkipFault? items) tail.skipFault?
  | .record members tail => firstFault (membersSkipFault? members) tail.skipFault?
  | .broken breakage => some breakage.skipping
  | _ => none

def itemsSkipFault? : List Node → Option Fault
  | [] => none
  | item :: rest => firstFault item.skipFault? (itemsSkipFault? rest)

def membersSkipFault? : List (Except Fault (List Char) × Node) → Option Fault
  | [] => none
  | (_, value) :: rest => firstFault value.skipFault? (membersSkipFault? rest)

end

def Node.skip (node : Node) : Decoded Unit :=
  match node.skipFault? with
  | some fault => .error (.fault fault)
  | none => .ok ()

/--
Decode a string; a value of another type is reported against the given expectation.
-/
def Node.textAs (expected : String) : Node → Decoded (List Char)
  | .text (.ok chars) => .ok chars
  | node => .error (node.mismatch expected)

def Node.string (node : Node) : Decoded String :=
  (node.textAs "a string").map String.ofList

def Node.optionalString : Node → Decoded (Option String)
  | .null => .ok none
  | node => node.string.map some

def Node.boolean : Node → Decoded Bool
  | .bool b => .ok b
  | node => .error (node.mismatch "a boolean")

/--
Decode an integer between two bounds, of the named type.
-/
def Node.integerIn (least greatest : Int) (type : String) : Node → Decoded Int
  | .number literal =>
    match literal.numeric with
    | .integer n =>
      if least ≤ n && n ≤ greatest then .ok n else .error .outOfRange
    | _ => .error ((Node.number literal).mismatch type)
  | node => .error (node.mismatch type)

def Node.word (type : String) (node : Node) : Decoded Nat :=
  (node.integerIn 0 maxWord type).map Int.toNat

def decodeItems {α : Type} (decode : Node → Decoded α) (tail : Tail) :
    List Node → Decoded (List α)
  | [] =>
    match tail.fault? with
    | some fault => .error (.fault fault)
    | none => .ok []
  | item :: rest => do
    let a ← decode item
    let as ← decodeItems decode tail rest
    pure (a :: as)

def Node.listOf {α : Type} (decode : Node → Decoded α) : Node → Decoded (List α)
  | .list items tail => decodeItems decode tail items
  | node => .error (node.mismatch "a sequence")

def Node.variant (names : List String) : Node → Decoded String
  | .text (.ok chars) => pick chars
  | .record [] tail =>
    match tail with
    | .closed => .error .wrongSize
    | .noKey found => .error (found.mismatch "variant identifier")
    | tail => .error (.fault (tail.fault?.getD .malformed))
  | .record ((key, value) :: rest) tail => do
    let chars ← key.mapError .fault
    let name ← pick chars
    match value with
    | .null => pure ()
    | _ => throw (value.mismatch "unit")
    match rest, tail with
    | [], .closed => pure name
    | [], .ended => throw (.fault .early)
    | [], _ => throw (.fault .malformed)
    | _ :: _, _ => throw .wrongSize
  | .broken breakage => .error (.fault breakage.naming)
  | node =>
    match node.found with
    | .ok found => .error (.noName found)
    | .error fault => .error (.fault fault)
where
  pick (chars : List Char) : Decoded String :=
    match names.find? (·.toList == chars) with
    | some name => .ok name
    | none => .error (.unknownVariant chars names)

/--
Fill a slot of a record that is being decoded, unless it has been filled before.
-/
def fill {α : Type} (name : String) (slot : Option α) (decode : Node → Decoded α) (node : Node) :
    Decoded (Option α) :=
  match slot with
  | some _ => .error (.duplicateField name)
  | none => (decode node).map some

def require {α : Type} (name : String) (slot : Option α) : Decoded α :=
  match slot with
  | some a => .ok a
  | none => .error (.missingField name)

/--
Go through the members of a record. Members with other names than the given ones are skipped.
-/
def decodeMembers {σ : Type} (names : List String) (step : σ → String → Node → Decoded σ)
    (tail : Tail) : σ → List (Except Fault (List Char) × Node) → Decoded σ
  | s, [] =>
    match tail.fault? with
    | some fault => .error (.fault fault)
    | none => .ok s
  | s, (key, value) :: rest => do
    let chars ← key.mapError .fault
    match names.find? (·.toList == chars) with
    | some name =>
      let s ← step s name value
      decodeMembers names step tail s rest
    | none =>
      value.skip
      decodeMembers names step tail s rest

/--
Go through the items of a list that gives the fields in order. If it is too short, `short` says what
becomes of the fields read so far.
-/
def decodeInOrder {σ : Type} (step : σ → String → Node → Decoded σ) (short : σ → Decoded σ)
    (tail : Tail) : σ → List String → List Node → Decoded σ
  | s, [], [] => do
    tail.finish
    pure s
  | _, [], _ :: _ => .error .wrongSize
  | s, _ :: _, [] =>
    match tail.fault? with
    | some fault => .error (.fault fault)
    | none => short s
  | s, name :: names, item :: items => do
    let s ← step s name item
    decodeInOrder step short tail s names items

/--
Decode the fields of a record, from a record or from a list that gives them in order.
-/
def Node.fields {σ : Type} (type : String) (names : List String)
    (step : σ → String → Node → Decoded σ) (short : σ → Decoded σ) (start : σ) : Node → Decoded σ
  | .record members tail => decodeMembers names step tail start members
  | .list items tail => decodeInOrder step short tail start names items
  | node => .error (node.mismatch s!"struct {type}")

def tooFew {σ : Type} (_ : σ) : Decoded σ :=
  .error .tooShort

def decodeText {α : Type} (decode : Node → Decoded α) (s : List Char) : Decoded α := do
  let document := Document.read s
  let a ← decode document.root
  if document.isAlone then pure a else throw (.fault .malformed)

end WafWatch.Json
