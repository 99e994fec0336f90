import WafWatch.Text.Numeral
import WafWatch.Simulation.VisibleTable

/-!
This module contains the quoting of a text inside a message, where everything that cannot be shown by
itself is written as an escape.
-/

namespace WafWatch.Simulation

open WafWatch.Text

def quoteChar (c : Char) : List Char :=
  match c with
  | '"' => ['\\', '"']
  | '\\' => ['\\', '\\']
  | '\n' => ['\\', 'n']
  | '\r' => ['\\', 'r']
  | '\t' => ['\\', 't']
  | '\x00' => ['\\', '0']
  | _ =>
    if hiddenRanges.has c.toNat then
      ['\\', 'u', '\x7b'] ++ Nat.toDigits 16 c.toNat ++ ['\x7d']
    else [c]

def quote (s : List Char) : List Char :=
  '"' :: s.flatMap quoteChar ++ ['"']

end WafWatch.Simulation
