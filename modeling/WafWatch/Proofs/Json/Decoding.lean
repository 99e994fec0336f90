import WafWatch.Proofs.Json.Faults
import WafWatch.Proofs.Json.Writing

/-!
This module contains the decoding of whole values: what each decoder takes, and how the members of a record fill
the slots of what is decoded.
-/

namespace WafWatch.Json

open WafWatch.Text

/--
A name is found if it is among the names, and no other one is found in its place.
-/
theorem find?_toList_eq_some_iff {names : List String} {chars : List Char} {name : String} :
    names.find? (·.toList == chars) = some name ↔ name ∈ names ∧ name.toList = chars := by
  constructor
  . intro h
    exact ⟨List.mem_of_find?_eq_some h, by simpa using List.find?_some h⟩
  . rintro ⟨hname, rfl⟩
    cases hfind : names.find? (·.toList == name.toList) with
    | none => exact absurd (beq_self_eq_true _) (List.find?_eq_none.mp hfind name hname)
    | some other =>
      have hsame := List.find?_some hfind
      rw [String.toList_inj.mp (eq_of_beq hsame)]

theorem decodeText_eq_ok_iff {α : Type} {decode : Node → Decoded α} {s : List Char} {a : α}
    : decodeText decode s = .ok a
        ↔ decode (Document.read s).root = .ok a ∧ (Document.read s).isAlone = true := by
  unfold decodeText
  rw [bind_eq_ok_iff]
  constructor
  . rintro ⟨a', hdecode, halone⟩
    split at halone
    . next hisAlone =>
      injection halone with hsame
      exact ⟨hsame ▸ hdecode, hisAlone⟩
    . contradiction
  . rintro ⟨hdecode, halone⟩
    exact ⟨a, hdecode, if_pos halone⟩

theorem decodeText_render {α : Type} {decode : Node → Decoded α} {value : Value} {a : α} :
    decodeText decode value.render = .ok a ↔ decode value.toTree.toNode = .ok a := by
  rw [decodeText_eq_ok_iff, Document.read_render]
  exact and_iff_left rfl

/-! ### Scalars -/

theorem textAs_eq_ok_iff {expected : String} {node : Node} {chars : List Char} :
    node.textAs expected = .ok chars ↔ node = .text (.ok chars) := by
  constructor
  . intro h
    unfold Node.textAs at h
    split at h
    . injection h with h
      rw [h]
    . contradiction
  . rintro rfl
    rfl

theorem integerIn_eq_ok_iff {least greatest n : Int} {type : String} {node : Node}
    : node.integerIn least greatest type = .ok n
        ↔ ∃ literal, node = .number literal ∧ literal.numeric = .integer n ∧ least ≤ n
          ∧ n ≤ greatest := by
  constructor
  . intro h
    unfold Node.integerIn at h
    split at h
    . next literal =>
      split at h
      . next m hnumeric =>
        split at h
        . next hbounds =>
          injection h with h
          subst h
          simp only [Bool.and_eq_true, decide_eq_true_eq] at hbounds
          exact ⟨literal, rfl, hnumeric, hbounds⟩
        . contradiction
      . contradiction
    . contradiction
  . rintro ⟨literal, rfl, hnumeric, hbounds⟩
    unfold Node.integerIn
    dsimp only
    rw [hnumeric]
    simp [hbounds]

/-! ### Slots -/

/--
Fill a slot from several nodes, one after the other.
-/
def fillAll {α : Type} (name : String) (decode : Node → Decoded α) (slot : Option α) :
    List Node → Decoded (Option α)
  | [] => .ok slot
  | node :: nodes => do
    let slot ← fill name slot decode node
    fillAll name decode slot nodes

/--
A slot can be filled only once.
-/
theorem fillAll_none_eq_ok_iff {α : Type} {name : String} {decode : Node → Decoded α} {slot : Option α}
    {nodes : List Node}
    : fillAll name decode none nodes = .ok slot
        ↔ (nodes = [] ∧ slot = none) ∨ ∃ node a, nodes = [node] ∧ decode node = .ok a ∧ slot = some a := by
  cases nodes with
  | nil => simp [fillAll, eq_comm]
  | cons node nodes =>
    rw [fillAll, bind_eq_ok_iff]
    constructor
    . rintro ⟨slot', hfill, hrest⟩
      obtain ⟨a, hdecode, rfl⟩ := map_eq_ok_iff.mp hfill
      cases nodes with
      | nil =>
        injection hrest with hslot
        exact .inr ⟨node, a, rfl, hdecode, hslot.symm⟩
      | cons next nodes => contradiction
    . rintro (⟨hnil, -⟩ | ⟨node', a, hsingle, hdecode, rfl⟩)
      . contradiction
      . obtain ⟨rfl, rfl⟩ := List.cons.inj hsingle
        exact ⟨some a, map_eq_ok_iff.mpr ⟨a, hdecode, rfl⟩, rfl⟩

/-! ### Written values -/

theorem itemsToTrees_eq_map (items : List Value) : itemsToTrees items = items.map Value.toTree := by
  induction items with
  | nil => rfl
  | cons item items ih => rw [itemsToTrees, ih, List.map_cons]

theorem membersToTrees_eq_map (members : List (List Char × Value)) :
    membersToTrees members = members.map fun member => (member.1, member.2.toTree) := by
  induction members with
  | nil => rfl
  | cons member members ih => rw [membersToTrees, ih, List.map_cons]

theorem toNode_list (items : List Value)
    : (Value.list items).toTree.toNode = .list (items.map (·.toTree.toNode)) .closed := by
  rw [Value.toTree, Tree.toNode, itemsToTrees_eq_map, Tree.itemsToNodes_eq_map, List.map_map]
  rfl

theorem toNode_ofMembers (members : List (String × Value))
    : (Value.ofMembers members).toTree.toNode
        = .record (members.map fun member => (.ok member.1.toList, member.2.toTree.toNode)) .closed := by
  rw [Value.ofMembers, Value.toTree, Tree.toNode, membersToTrees_eq_map, Tree.membersToNodes_eq_map,
    List.map_map, List.map_map]
  rfl

theorem string_ofString (s : String) : (Value.ofString s).toTree.toNode.string = .ok s :=
  congrArg Except.ok String.ofList_toList

theorem boolean_bool (b : Bool) : (Value.bool b).toTree.toNode.boolean = .ok b := by
  rfl

theorem Literal.ofInt_writes (n : Int) : (ofInt n).Writes n := by
  refine ⟨rfl, rfl, ?_, ?_⟩
  . simp only [ofInt, ofDigits_showNat, decide_eq_true_eq]
    split <;> omega
  . intro hnegative
    have hnegative : n < 0 := of_decide_eq_true hnegative
    omega

theorem word_number {n : Nat} (type : String) (h : n ≤ maxWord) :
    (Value.number n).toTree.toNode.word type = .ok n := by
  have hnumeric : (Literal.ofInt n).numeric = .integer n :=
    Literal.numeric_eq_integer_iff.mpr ⟨Literal.ofInt_writes n, by omega, by omega⟩
  have hbounds : (0 : Int) ≤ n ∧ (n : Int) ≤ maxWord := by omega
  exact map_eq_ok_iff.mpr ⟨n, integerIn_eq_ok_iff.mpr ⟨_, rfl, hnumeric, hbounds⟩, rfl⟩

theorem fill_none_eq_ok {α : Type} {name : String} {decode : Node → Decoded α} {node : Node} {a : α}
    (h : decode node = .ok a)
    : fill name none decode node = .ok (some a) :=
  map_eq_ok_iff.mpr ⟨a, h, rfl⟩

/--
A list is read item by item.
-/
theorem listOf_list {α : Type} {decode : Node → Decoded α} {toValue : α → Value} {as : List α}
    (h : ∀ a ∈ as, decode (toValue a).toTree.toNode = .ok a)
    : (Value.list (as.map toValue)).toTree.toNode.listOf decode = .ok as := by
  rw [toNode_list, List.map_map, Node.listOf]
  induction as with
  | nil => rfl
  | cons a as ih =>
    rw [List.forall_mem_cons] at h
    rw [List.map_cons, decodeItems, bind_eq_ok_iff]
    refine ⟨a, h.1, ?_⟩
    rw [ih h.2]
    rfl

/--
A record of the known members is read member by member.
-/
theorem fields_ofMembers {σ : Type} {type : String} {names : List String}
    {step : σ → String → Node → Decoded σ} {short : σ → Decoded σ} {start : σ}
    {members : List (String × Value)} (h : members.map (·.1) = names)
    : (Value.ofMembers members).toTree.toNode.fields type names step short start
        = members.foldlM (fun s member => step s member.1 member.2.toTree.toNode) start := by
  -- The names stay the same while the members get fewer.
  have hknown : ∀ member ∈ members, member.1 ∈ names := fun member hmember =>
    h ▸ List.mem_map_of_mem hmember
  clear h
  rw [toNode_ofMembers, Node.fields]
  induction members generalizing start with
  | nil => rfl
  | cons member members ih =>
    rw [List.forall_mem_cons] at hknown
    rw [List.map_cons, List.foldlM_cons, decodeMembers]
    dsimp only [Except.mapError, bind, Except.bind]
    rw [find?_toList_eq_some_iff.mpr ⟨hknown.1, rfl⟩]
    dsimp only
    cases step start member.1 member.2.toTree.toNode with
    | error error => rfl
    | ok next => exact ih hknown.2

end WafWatch.Json
