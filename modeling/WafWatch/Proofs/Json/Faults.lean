import WafWatch.Proofs.Json.Grammar

/-!
This module contains what keeps a value from being read for its content: nothing but its depth and the size of its
numbers, as long as its text is well-formed.
-/

namespace WafWatch.Json

open WafWatch.Text

theorem firstFault_eq_none_iff {a b : Option Fault} : firstFault a b = none ↔ a = none ∧ b = none := by
  cases a <;> simp [firstFault]

theorem Tail.fault?_eq_none_iff {tail : Tail} : tail.fault? = none ↔ tail = .closed := by
  cases tail <;> simp [Tail.fault?]

/-! ### Trees -/

namespace Tree

/--
All numbers of a value are numbers that can be told.
-/
def InRange (tree : Tree) : Prop :=
  ∀ literal ∈ tree.literals, literal.numeric ≠ .beyond

theorem itemsToNodes_eq_map (items : List Tree) : itemsToNodes items = items.map toNode := by
  induction items with
  | nil => rfl
  | cons item items ih => rw [itemsToNodes, ih, List.map_cons]

theorem membersToNodes_eq_map (members : List (List Char × Tree)) :
    membersToNodes members = members.map fun member => (.ok member.1, member.2.toNode) := by
  induction members with
  | nil => rfl
  | cons member members ih => rw [membersToNodes, ih, List.map_cons]

mutual

theorem readFault?_toNode : ∀ (tree : Tree) (depth : Nat),
    tree.toNode.readFault? depth = none ↔ tree.depth ≤ depth ∧ tree.InRange
  | .null, depth => by simp [toNode, Node.readFault?, Tree.depth, InRange, literals]
  | .bool b, depth => by simp [toNode, Node.readFault?, Tree.depth, InRange, literals]
  | .number literal, depth => by simp [toNode, Node.readFault?, Tree.depth, InRange, literals]
  | .text chars, depth => by simp [toNode, Node.readFault?, Tree.depth, InRange, literals]
  | .list items, depth => by
    cases depth with
    | zero => simp [toNode, Node.readFault?, Tree.depth]
    | succ depth =>
      rw [toNode, Node.readFault?, firstFault_eq_none_iff, itemsReadFault?_toNodes items depth]
      simp [Tree.depth, InRange, literals, Tail.fault?]
  | .record members, depth => by
    cases depth with
    | zero => simp [toNode, Node.readFault?, Tree.depth]
    | succ depth =>
      rw [toNode, Node.readFault?, firstFault_eq_none_iff, membersReadFault?_toNodes members depth]
      simp [Tree.depth, InRange, literals, Tail.fault?]

theorem itemsReadFault?_toNodes : ∀ (items : List Tree) (depth : Nat),
    itemsReadFault? depth (itemsToNodes items) = none
      ↔ itemsDepth items ≤ depth ∧ ∀ literal ∈ itemsLiterals items, literal.numeric ≠ .beyond
  | [], depth => by simp [itemsToNodes, itemsReadFault?, itemsDepth, itemsLiterals]
  | item :: items, depth => by
    rw [itemsToNodes, itemsReadFault?, firstFault_eq_none_iff, readFault?_toNode item depth,
      itemsReadFault?_toNodes items depth, itemsDepth, itemsLiterals, Nat.max_le, List.forall_mem_append]
    exact and_and_and_comm

theorem membersReadFault?_toNodes : ∀ (members : List (List Char × Tree)) (depth : Nat),
    membersReadFault? depth (membersToNodes members) = none
      ↔ membersDepth members ≤ depth ∧ ∀ literal ∈ membersLiterals members, literal.numeric ≠ .beyond
  | [], depth => by simp [membersToNodes, membersReadFault?, membersDepth, membersLiterals]
  | (key, value) :: members, depth => by
    rw [membersToNodes, membersReadFault?, firstFault_eq_none_iff, readFault?_toNode value depth,
      membersReadFault?_toNodes members depth, membersDepth, membersLiterals, Nat.max_le,
      List.forall_mem_append]
    exact and_and_and_comm

end

end Tree

/-! ### Nodes -/

mutual

/--
What is read without a fault is a whole value.
-/
theorem Node.exists_toNode : ∀ (node : Node) {depth : Nat}, node.readFault? depth = none →
    ∃ tree : Tree, tree.toNode = node
  | .null, depth, _ => ⟨.null, rfl⟩
  | .bool b, depth, _ => ⟨.bool b, rfl⟩
  | .number literal, depth, _ => ⟨.number literal, rfl⟩
  | .text (.ok chars), depth, _ => ⟨.text chars, rfl⟩
  | .text (.error fault), depth, h => nomatch h
  | .list items tail, 0, h => nomatch h
  | .list items tail, depth + 1, h => by
    rw [Node.readFault?, firstFault_eq_none_iff, Tail.fault?_eq_none_iff] at h
    obtain ⟨hitems, rfl⟩ := h
    obtain ⟨trees, rfl⟩ := exists_itemsToNodes items hitems
    exact ⟨.list trees, rfl⟩
  | .record members tail, 0, h => nomatch h
  | .record members tail, depth + 1, h => by
    rw [Node.readFault?, firstFault_eq_none_iff, Tail.fault?_eq_none_iff] at h
    obtain ⟨hmembers, rfl⟩ := h
    obtain ⟨trees, rfl⟩ := exists_membersToNodes members hmembers
    exact ⟨.record trees, rfl⟩
  | .broken breakage, depth, h => nomatch h

theorem exists_itemsToNodes : ∀ (items : List Node) {depth : Nat},
    itemsReadFault? depth items = none → ∃ trees : List Tree, Tree.itemsToNodes trees = items
  | [], depth, _ => ⟨[], rfl⟩
  | item :: items, depth, h => by
    rw [itemsReadFault?, firstFault_eq_none_iff] at h
    obtain ⟨tree, rfl⟩ := Node.exists_toNode item h.1
    obtain ⟨trees, rfl⟩ := exists_itemsToNodes items h.2
    exact ⟨tree :: trees, rfl⟩

theorem exists_membersToNodes : ∀ (members : List (Except Fault (List Char) × Node)) {depth : Nat},
    membersReadFault? depth members = none →
      ∃ trees : List (List Char × Tree), Tree.membersToNodes trees = members
  | [], depth, _ => ⟨[], rfl⟩
  | (.error fault, _) :: _, depth, h => nomatch h
  | (.ok key, value) :: members, depth, h => by
    rw [membersReadFault?, firstFault_eq_none_iff] at h
    obtain ⟨tree, rfl⟩ := Node.exists_toNode value h.1
    obtain ⟨trees, rfl⟩ := exists_membersToNodes members h.2
    exact ⟨(key, tree) :: trees, rfl⟩

end

/-! ### Integers -/

/--
The literal writes an integer: it has neither a point nor an exponent, and zero has no sign.
-/
structure Literal.Writes (literal : Literal) (n : Int) : Prop where
  noFraction : literal.fraction = none
  noExponent : literal.exponent = none
  value : n = if literal.negative then -(ofDigits literal.whole : Int) else ofDigits literal.whole
  unsigned : literal.negative = true → n ≠ 0

theorem Literal.numeric_eq_integer_iff {literal : Literal} {n : Int}
    : literal.numeric = .integer n
        ↔ literal.Writes n ∧ -(UInt64.size / 2 : Nat) ≤ n ∧ n ≤ maxWord := by
  obtain ⟨negative, whole, fraction, exponent⟩ := literal
  constructor
  . intro h
    unfold numeric at h
    dsimp only at h
    split at h
    . split at h
      . next hnegative =>
        subst hnegative
        split at h
        . next hbounds =>
          simp only [Bool.and_eq_true, decide_eq_true_eq] at hbounds
          injection h with h
          subst h
          refine ⟨⟨rfl, rfl, rfl, fun _ => by omega⟩, ?_, ?_⟩ <;> omega
        . split at h <;> contradiction
      . next hnegative =>
        split at h
        . injection h with h
          subst h
          rw [Bool.not_eq_true] at hnegative
          subst hnegative
          refine ⟨⟨rfl, rfl, rfl, nofun⟩, ?_, ?_⟩ <;> omega
        . split at h <;> contradiction
    . split at h <;> contradiction
    . split at h
      . split at h <;> contradiction
      . split at h <;> contradiction
  . rintro ⟨⟨hfraction, hexponent, hvalue, hunsigned⟩, hlow, hhigh⟩
    dsimp only at hfraction hexponent hvalue hunsigned
    subst hfraction hexponent
    cases negative with
    | true =>
      have hzero := hunsigned rfl
      rw [if_pos rfl] at hvalue
      have hbounds : (0 < ofDigits whole && ofDigits whole ≤ UInt64.size / 2) = true := by
        simp only [Bool.and_eq_true, decide_eq_true_eq]
        omega
      subst hvalue
      unfold numeric
      exact if_pos hbounds
    | false =>
      rw [if_neg Bool.false_ne_true] at hvalue
      have hword : ofDigits whole ≤ maxWord := by omega
      subst hvalue
      unfold numeric
      exact if_pos hword

end WafWatch.Json
