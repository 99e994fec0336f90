import WafWatch.Toml.Value

/-!
This module contains the building of tables key by key. A table may be entered through headers or
through dotted keys, and each way has its own rules of which tables it may enter and make.
-/

namespace WafWatch.Toml

def Entries.find? (entries : Entries) (key : List Char) : Option Value :=
  entries.lookup key

def Entries.replace (entries : Entries) (key : List Char) (value : Value) : Entries :=
  entries.map fun entry => if entry.1 == key then (key, value) else entry

/--
The ways of naming the tables that lead to a place.
-/
inductive Approach where
  /-- The name of a table in brackets. -/
  | header
  /-- The parts of a key before the last one. -/
  | dotted
  deriving DecidableEq, Repr, Inhabited

def Approach.kind : Approach → TableKind
  | .header => .implicit
  | .dotted => .dotted

/--
A table may be entered: tables in braces are complete, and dotted keys do not enter tables that have a
header.
-/
def Approach.enters : Approach → TableKind → Bool
  | _, .inline => false
  | .dotted, .explicit => false
  | _, _ => true

def Approach.refusal (key : List Char) : TableKind → Fault
  | .inline => .notExtendable key
  | _ => .duplicateKey key

/--
Change the table at the end of a path, and make the tables on the way that are not there. Of the tables
that double brackets began, the path leads into the last one.
-/
def Entries.within (approach : Approach) (change : TableKind → Entries → Except Fault Entries) :
    (path : List (List Char)) → TableKind → Entries → Except Fault Entries
  | [], kind, entries => change kind entries
  | key :: path, _, entries =>
    match entries.find? key with
    | none => do
      let inner ← within approach change path approach.kind []
      pure (entries ++ [(key, .table approach.kind inner)])
    | some (.table kind inner) =>
      if approach.enters kind then do
        let inner ← within approach change path kind inner
        pure (entries.replace key (.table kind inner))
      else .error (Approach.refusal key kind)
    | some (.tables earlier last) => do
      let last ← within approach change path .explicit last
      pure (entries.replace key (.tables earlier last))
    | some _ => .error (.notExtendable key)

/--
Add an entry under a key that may be dotted. Dotted keys add only to tables that dotted keys made.
-/
def Entries.insert (entries : Entries) (path : List (List Char)) (key : List Char) (value : Value) :
    Except Fault Entries :=
  entries.within .dotted add path .explicit
where
  add (kind : TableKind) (entries : Entries) : Except Fault Entries :=
    if kind ≠ .dotted ∧ path ≠ [] then .error (.duplicateKey key)
    else
      match entries.find? key with
      | none => .ok (entries ++ [(key, value)])
      | some _ => .error (.duplicateKey key)

/--
Begin the table that a header names. A table that had no header of its own gets one.
-/
def Entries.beginTable (entries : Entries) (path : List (List Char)) (key : List Char) :
    Except Fault Entries :=
  entries.within .header begin path .explicit
where
  begin (_ : TableKind) (entries : Entries) : Except Fault Entries :=
    match entries.find? key with
    | none => .ok (entries ++ [(key, .table .explicit [])])
    | some (.table .implicit inner) => .ok (entries.replace key (.table .explicit inner))
    | some _ => .error (.duplicateKey key)

/--
Begin one more of the tables that a header in double brackets names.
-/
def Entries.beginElement (entries : Entries) (path : List (List Char)) (key : List Char) :
    Except Fault Entries :=
  entries.within .header begin path .explicit
where
  begin (_ : TableKind) (entries : Entries) : Except Fault Entries :=
    match entries.find? key with
    | none => .ok (entries ++ [(key, .tables [] [])])
    | some (.tables earlier last) => .ok (entries.replace key (.tables (earlier ++ [last]) []))
    | some _ => .error (.duplicateKey key)

def Entries.insertUnder (entries : Entries) (header path : List (List Char)) (key : List Char)
    (value : Value) : Except Fault Entries :=
  entries.within .header (fun _ inner => inner.insert path key value) header .explicit

end WafWatch.Toml
