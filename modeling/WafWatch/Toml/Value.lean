/-!
This module holds the values of a TOML document and what can be wrong with a document.
-/

namespace WafWatch.Toml

/--
How a table came to be, which decides what may be added to it later.
-/
inductive TableKind where
  /-- A header names the table, or it is the whole document. -/
  | explicit
  /-- Headers only name tables within the table. -/
  | implicit
  /-- Dotted keys lead through the table. -/
  | dotted
  /-- The table is written in braces. -/
  | inline
  deriving DecidableEq, Repr, Inhabited

/--
A value. Tables keep the order of their entries; no key occurs twice.
-/
inductive Value where
  | text (chars : List Char)
  | integer (n : Int)
  | float (written : List Char)
  | bool (b : Bool)
  /-- A date, a time of day or both. -/
  | moment (written : List Char)
  | list (items : List Value)
  | table (kind : TableKind) (entries : List (List Char × Value))
  /-- The tables that headers in double brackets began one after another, of which there is one at
  least. -/
  | tables (earlier : List (List (List Char × Value))) (last : List (List Char × Value))
  deriving Repr, Inhabited

abbrev Entries := List (List Char × Value)

/--
What is wrong with a document.
-/
inductive Fault where
  /-- A line is not well-formed. -/
  | malformed
  /-- Lists and tables in braces are nested too deeply. -/
  | tooDeep
  /-- A key is given a second time. -/
  | duplicateKey (key : List Char)
  /-- A key leads into a value that is complete. -/
  | notExtendable (key : List Char)
  deriving DecidableEq, Repr, Inhabited

end WafWatch.Toml
