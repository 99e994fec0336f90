import WafWatch.Toml.Value

/-!
This module contains the decoding of TOML values into records. A record is given by a table, in which
unknown keys are ignored, or by a list of its first fields in order; fields that are not given stay as
they are.
-/

namespace WafWatch.Toml

/--
A value that is not of the type that its field wants.
-/
structure Mismatch where
  field : String
  deriving DecidableEq, Repr, Inhabited

/-! ### Types of fields -/

/--
A type of fields: what a value means in it.
-/
structure FieldType (α : Type) where
  decode : Value → Option α

def FieldType.text : FieldType String where
  decode
    | .text chars => some (String.ofList chars)
    | _ => none

def FieldType.flag : FieldType Bool where
  decode
    | .bool b => some b
    | _ => none

def FieldType.natural (limit : Nat) : FieldType Nat where
  decode
    | .integer n => if 0 ≤ n && n ≤ limit then some n.toNat else none
    | _ => none

def FieldType.texts : FieldType (List String) where
  decode
    | .list items => items.mapM FieldType.text.decode
    | _ => none

/-! ### Records -/

/--
A field of a record: its name, and how a value is put into it.
-/
structure RecordField (σ : Type) where
  name : String
  put : Value → σ → Except Mismatch σ

def RecordField.of {σ α : Type} (name : String) (type : FieldType α) (set : α → σ → σ) : RecordField σ where
  name
  put value record :=
    match type.decode value with
    | some a => .ok (set a record)
    | none => .error ⟨name⟩

def putEntries {σ : Type} (fields : List (RecordField σ)) (record : σ) (entries : Entries) :
    Except Mismatch σ :=
  entries.foldlM (fun record entry =>
    match fields.find? (·.name.toList == entry.1) with
    | some field => field.put entry.2 record
    | none => .ok record) record

def putItems {σ : Type} (fields : List (RecordField σ)) (record : σ) (items : List Value) :
    Except Mismatch σ :=
  (fields.zip items).foldlM (fun record (field, item) => field.put item record) record

/--
A field that is a record itself. A date is a record of unknown keys.
-/
def RecordField.record {σ τ : Type} (name : String) (fields : List (RecordField τ)) (get : σ → τ)
    (set : τ → σ → σ) : RecordField σ where
  name
  put value record := do
    let inner ← match value with
      | .table _ entries => putEntries fields (get record) entries
      | .list items => putItems fields (get record) items
      | .tables earlier last =>
        putItems fields (get record) ((earlier ++ [last]).map (.table .explicit ·))
      | .moment _ => .ok (get record)
      | _ => .error ⟨name⟩
    pure (set inner record)

end WafWatch.Toml
