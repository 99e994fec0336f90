import WafWatch.Json.Value
import WafWatch.Proofs.Json.Reading

/-!
This module contains the writing of JSON values: what is written is a text of the value, and so the value is read
again.
-/

namespace WafWatch.Json

open WafWatch.Text

/-! ### Strings -/

theorem hexValue?_hexDigit : ∀ n < 16, hexValue? (hexDigit n) = some n := by
  decide

theorem charSpelled_escapeChar (c : Char) (rest : List Char) : CharSpelled c (escapeChar c ++ rest) rest := by
  have hletter {letter d : Char} (h : LetterOf d letter) (hc : c.toNat = d.toNat) :
      CharSpelled c ('\\' :: letter :: rest) rest := by
    rw [Char.toNat_inj.mp hc]
    exact .letter h
  unfold escapeChar
  simp only [beq_iff_eq]
  split
  . next hc => exact hletter .quote (congrArg _ hc)
  . next hquote =>
    split
    . next hc => exact hletter .backslash (congrArg _ hc)
    . next hescape =>
      split
      . next hc => exact hletter .newline (congrArg _ hc)
      . split
        . next hc => exact hletter .carriageReturn (congrArg _ hc)
        . split
          . next hc => exact hletter .tab (congrArg _ hc)
          . split
            . next hc => exact hletter .backspace hc
            . split
              . next hc => exact hletter .formFeed hc
              . split
                . next hcontrol =>
                  have hhigh := hexValue?_hexDigit (c.toNat / 16) (by omega)
                  have hlow := hexValue?_hexDigit (c.toNat % 16) (by omega)
                  have hzero : hexValue? '0' = some 0 := rfl
                  refine .unit ⟨_, _, _, _, rfl, ?_, ?_⟩
                  . simp [isHexDigit, hhigh, hlow, hzero]
                  . simp only [ofDigitsIn, List.foldl_cons, List.foldl_nil, hhigh, hlow, hzero,
                      Option.getD_some]
                    omega
                . next hcontrol => exact .plain (Nat.le_of_not_lt hcontrol) hquote hescape

theorem textSpelled_escape (chars rest : List Char) :
    TextSpelled chars (chars.flatMap escapeChar ++ '"' :: rest) rest := by
  induction chars with
  | nil => exact .close
  | cons c chars ih =>
    rw [List.flatMap_cons, List.append_assoc]
    exact .char (charSpelled_escapeChar c _) ih

theorem renderText_append (chars rest : List Char) :
    renderText chars ++ rest = '"' :: (chars.flatMap escapeChar ++ '"' :: rest) := by
  simp [renderText]

/-! ### Numbers -/

/--
The literal that an integer is written as.
-/
def Literal.ofInt (n : Int) : Literal where
  negative := n < 0
  whole := showNat n.natAbs
  fraction := none
  exponent := none

theorem Literal.ofInt_isWellFormed (n : Int) : (Literal.ofInt n).IsWellFormed where
  whole := isDigits_showNat _
  noZero := by
    intro hhead
    cases hn : n.natAbs with
    | zero =>
      unfold ofInt
      rw [hn]
      rfl
    | succ m =>
      have hpositive : 0 < n.natAbs := by omega
      exact absurd hhead (head?_showNat_ne_zero hpositive)
  fraction := nofun
  exponent := nofun

theorem Literal.ofInt_spelled (n : Int) (rest : List Char) :
    (Literal.ofInt n).Spelled (showInt n ++ rest) rest := by
  refine ⟨ofInt_isWellFormed n, [], .none, ?_⟩
  unfold showInt Literal.sign ofInt fractionPart
  by_cases hn : n < 0 <;> simp [hn]

theorem Literal.Spelled.skipSpaces_eq {literal : Literal} {s rest : List Char}
    (h : literal.Spelled s rest) : skipSpaces s = s := by
  obtain ⟨c, after, rfl, hc⟩ := h.exists_cons
  apply List.dropWhile_cons_of_neg
  intro hspace
  rcases hc with rfl | hdigit
  . contradiction
  . have hends := endsNumber_of_isSpace hspace after c rfl
    exact absurd (hends.1.symm.trans hdigit) Bool.false_ne_true

/-! ### Values -/

mutual

/--
The value as its text writes it.
-/
def Value.toTree : Value → Tree
  | .null => .null
  | .bool b => .bool b
  | .number n => .number (.ofInt n)
  | .text chars => .text chars
  | .list items => .list (itemsToTrees items)
  | .record members => .record (membersToTrees members)

def itemsToTrees : List Value → List Tree
  | [] => []
  | item :: items => item.toTree :: itemsToTrees items

def membersToTrees : List (List Char × Value) → List (List Char × Tree)
  | [] => []
  | (key, value) :: members => (key, value.toTree) :: membersToTrees members

end

theorem ItemsSpelled.behind_comma {item : Tree} {items : List Tree} {s rest : List Char}
    (h : ItemsSpelled true (item :: items) s rest)
    : ItemsSpelled false (item :: items) (',' :: s) rest := by
  cases h with
  | item hs hitem hitems =>
    cases hs
    have hcomma : Separated false (',' :: s) s := rfl
    exact .item hcomma hitem hitems

theorem MembersSpelled.behind_comma {member : List Char × Tree} {members : List (List Char × Tree)}
    {s rest : List Char} (h : MembersSpelled true (member :: members) s rest)
    : MembersSpelled false (member :: members) (',' :: s) rest := by
  cases h with
  | member hs hquote hkey hcolon hvalue hmembers =>
    cases hs
    have hcomma : Separated false (',' :: s) s := rfl
    exact .member hcomma hquote hkey hcolon hvalue hmembers

mutual

theorem Value.spelled_render : ∀ (value : Value) (rest : List Char),
    value.toTree.Spelled (value.render ++ rest) rest
  | .null, rest => .null rfl
  | .bool true, rest => .true rfl
  | .bool false, rest => .false rfl
  | .number n, rest => by
    apply Tree.Spelled.number
    have hspelled := Literal.ofInt_spelled n rest
    rw [← hspelled.skipSpaces_eq] at hspelled
    exact hspelled
  | .text chars, rest => by
    rw [Value.render, renderText_append]
    exact .text rfl (textSpelled_escape chars rest)
  | .list items, rest => by
    rw [Value.render, List.cons_append, List.cons_append, List.append_assoc]
    exact .list rfl (itemsSpelled_render items rest)
  | .record members, rest => by
    rw [Value.render, List.cons_append, List.cons_append, List.append_assoc]
    exact .record rfl (membersSpelled_render members rest)

theorem itemsSpelled_render : ∀ (items : List Value) (rest : List Char),
    ItemsSpelled true (itemsToTrees items) (renderItems items ++ ']' :: rest) rest
  | [], rest => .close rfl
  | [item], rest => .item rfl (item.spelled_render _) (.close rfl)
  | item :: next :: items, rest => by
    rw [renderItems, List.append_assoc, List.cons_append]
    exact .item rfl (item.spelled_render _) (itemsSpelled_render (next :: items) rest).behind_comma
    exact nofun

theorem membersSpelled_render : ∀ (members : List (List Char × Value)) (rest : List Char),
    MembersSpelled true (membersToTrees members) (renderMembers members ++ '\x7d' :: rest) rest
  | [], rest => .close rfl
  | [(key, value)], rest => by
    rw [renderMembers, List.append_assoc, renderText_append]
    exact .member rfl rfl (textSpelled_escape key _) rfl (value.spelled_render _) (.close rfl)
  | (key, value) :: next :: members, rest => by
    rw [renderMembers, List.append_assoc, List.append_assoc, renderText_append]
    exact .member rfl rfl (textSpelled_escape key _) rfl (value.spelled_render _)
      (membersSpelled_render (next :: members) rest).behind_comma
    exact nofun

end

theorem Value.isRoot_render (value : Value) : value.toTree.IsRoot value.render := by
  refine ⟨[], ?_, rfl⟩
  have hspelled := value.spelled_render []
  rw [List.append_nil] at hspelled
  exact hspelled

/--
A value that has been written is read again.
-/
theorem Document.read_render (value : Value) : Document.read value.render = ⟨value.toTree.toNode, true⟩ :=
  read_eq_iff.mpr value.isRoot_render

end WafWatch.Json
