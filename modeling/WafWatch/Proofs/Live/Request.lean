import Mathlib
import WafWatch.Live.Request
import WafWatch.Proofs.Json.Decoding

/-!
This module contains which texts are requests. A request is given by its tag and its limit alone: the place of a
member, the way in which it is written and the members beside it make no difference.
-/

namespace WafWatch

open WafWatch.Json

namespace ClientRequest

/--
The values of the members of a name, in their order.
-/
def valuesOf (name : String) (members : List (List Char × Tree)) : List Tree :=
  (members.filter (·.1 == name.toList)).map (·.2)

/--
A value that may stand as a limit: none at all, or an integer of 64 bits with sign.
-/
inductive GivesLimit : Tree → Option Int → Prop where
  | none : GivesLimit .null none
  | some {literal : Literal} {n : Int} (hwrites : literal.Writes n) (hleast : -(limitBound : Int) ≤ n)
      (hgreatest : n < limitBound) :
    GivesLimit (.number literal) (some n)

/--
The values that ask for something.
-/
inductive Asks : Tree → ClientRequest → Prop where
  | logs {members : List (List Char × Tree)} (htag : valuesOf "type" members = [.text "get_logs".toList])
      (hlimit : valuesOf "limit" members = []) :
    Asks (.record members) (.getLogs none)
  | logsUpTo {members : List (List Char × Tree)} {value : Tree} {limit : Option Int}
      (htag : valuesOf "type" members = [.text "get_logs".toList])
      (hlimit : valuesOf "limit" members = [value]) (hvalue : GivesLimit value limit) :
    Asks (.record members) (.getLogs limit)
  /-- A limit does not matter here, nor how many there are. -/
  | stats {members : List (List Char × Tree)}
      (htag : valuesOf "type" members = [.text "get_stats".toList]) :
    Asks (.record members) .getStats
  | listedLogs : Asks (.list [.text "get_logs".toList]) (.getLogs none)
  | listedLogsUpTo {value : Tree} {limit : Option Int} (hvalue : GivesLimit value limit) :
    Asks (.list [.text "get_logs".toList, value]) (.getLogs limit)
  | listedStats : Asks (.list [.text "get_stats".toList]) .getStats

/-! ### Parts -/

theorem decodeTag_eq_ok_iff {node : Node} {kind : String} :
    decodeTag node = .ok kind ↔ node = .text (.ok kind.toList) ∧ kind ∈ kinds := by
  unfold decodeTag
  rw [bind_eq_ok_iff]
  constructor
  . rintro ⟨chars, hchars, hkind⟩
    rw [textAs_eq_ok_iff] at hchars
    split at hkind
    . next kind' hfind =>
      injection hkind with hsame
      subst hsame
      obtain ⟨hmem, rfl⟩ := find?_toList_eq_some_iff.mp hfind
      exact ⟨hchars, hmem⟩
    . contradiction
  . rintro ⟨rfl, hmem⟩
    refine ⟨kind.toList, textAs_eq_ok_iff.mpr rfl, ?_⟩
    rw [find?_toList_eq_some_iff.mpr ⟨hmem, rfl⟩]
    rfl

theorem decodeLimit_eq_ok_iff {tree : Tree} {limit : Option Int} :
    decodeLimit tree.toNode = .ok limit ↔ GivesLimit tree limit := by
  constructor
  . intro h
    cases tree with
    | null =>
      injection h with h
      exact h ▸ .none
    | number literal =>
      obtain ⟨n, hinteger, rfl⟩ := map_eq_ok_iff.mp h
      obtain ⟨literal', hliteral, hnumeric, hleast, hgreatest⟩ := integerIn_eq_ok_iff.mp hinteger
      injection hliteral with hliteral
      subst hliteral
      obtain ⟨hwrites, -, -⟩ := Literal.numeric_eq_integer_iff.mp hnumeric
      exact .some hwrites hleast (by omega)
    | bool b => contradiction
    | text chars => contradiction
    | list items => contradiction
    | record members => contradiction
  . intro h
    cases h with
    | none => rfl
    | some hwrites hleast hgreatest =>
      apply map_eq_ok_iff.mpr
      refine ⟨_, integerIn_eq_ok_iff.mpr ⟨_, rfl, ?_, hleast, by omega⟩, rfl⟩
      have hword : limitBound = UInt64.size / 2 := rfl
      have hmax : maxWord = UInt64.size - 1 := rfl
      have hsize : UInt64.size = 18446744073709551616 := rfl
      exact Literal.numeric_eq_integer_iff.mpr ⟨hwrites, by omega, by omega⟩

/-! ### Records -/

section

variable {members : List (List Char × Tree)}

/--
The members beside the tag, as they are kept while the tag is looked for.
-/
def untagged (members : List (List Char × Tree)) : List (List Char × Node) :=
  (members.filter (·.1 != tagKey.toList)).map fun member => (member.1, member.2.toNode)

theorem valuesOf_cons (name : String) (key : List Char) (value : Tree)
    : valuesOf name ((key, value) :: members)
        = if key == name.toList then value :: valuesOf name members else valuesOf name members := by
  unfold valuesOf
  rw [List.filter_cons]
  split <;> rfl

theorem untagged_cons (key : List Char) (value : Tree)
    : untagged ((key, value) :: members)
        = if key == tagKey.toList then untagged members else (key, value.toNode) :: untagged members := by
  unfold untagged
  rw [List.filter_cons]
  cases hkey : key == tagKey.toList <;> simp [bne, hkey]

theorem gather_toNodes (hvalues : membersReadFault? (maxDepth - 1) (Tree.membersToNodes members) = none)
    (kind : Option String) (others : List (List Char × Node))
    : gather kind others .closed (Tree.membersToNodes members)
        = (fillAll tagKey decodeTag kind ((valuesOf tagKey members).map Tree.toNode)).map
            fun kind => (kind, others.reverse ++ untagged members) := by
  induction members generalizing kind others with
  | nil => simp [Tree.membersToNodes, gather, Tail.fault?, valuesOf, fillAll, Except.map, untagged]
  | cons member members ih =>
    obtain ⟨key, value⟩ := member
    rw [Tree.membersToNodes, membersReadFault?, firstFault_eq_none_iff] at hvalues
    rw [Tree.membersToNodes, gather, valuesOf_cons, untagged_cons]
    dsimp only [Except.mapError, bind, Except.bind]
    split
    . next hkey =>
      rw [List.map_cons, fillAll]
      cases hfill : fill tagKey kind decodeTag value.toNode with
      | error error => rfl
      | ok kind' => exact ih hvalues.2 kind' others
    . rw [hvalues.1]
      dsimp only
      rw [ih hvalues.2]
      simp

theorem decodeLimits_untagged (limit : Option (Option Int))
    : decodeLimits limit (untagged members)
        = (fillAll "limit" decodeLimit limit ((valuesOf "limit" members).map Tree.toNode)).map
            (·.getD none) := by
  induction members generalizing limit with
  | nil => rfl
  | cons member members ih =>
    obtain ⟨key, value⟩ := member
    rw [untagged_cons, valuesOf_cons]
    by_cases htag : key = tagKey.toList
    . subst htag
      exact ih limit
    . rw [if_neg (by simpa using htag), decodeLimits]
      split
      . rw [List.map_cons, fillAll]
        cases hfill : fill "limit" limit decodeLimit value.toNode with
        | error error => rfl
        | ok limit' => exact ih limit'
      . exact ih limit

theorem decodeLimits_eq_ok_iff {limit : Option Int}
    : decodeLimits none (untagged members) = .ok limit
        ↔ (valuesOf "limit" members = [] ∧ limit = none)
          ∨ ∃ value, valuesOf "limit" members = [value] ∧ GivesLimit value limit := by
  rw [decodeLimits_untagged, map_eq_ok_iff]
  constructor
  . rintro ⟨slot, hslot, rfl⟩
    rcases fillAll_none_eq_ok_iff.mp hslot with ⟨hnil, rfl⟩ | ⟨node, limit, hsingle, hdecode, rfl⟩
    . exact .inl ⟨List.map_eq_nil_iff.mp hnil, rfl⟩
    . obtain ⟨value, hvalue, rfl⟩ := List.map_eq_singleton_iff.mp hsingle
      exact .inr ⟨value, hvalue, decodeLimit_eq_ok_iff.mp hdecode⟩
  . rintro (⟨hnil, rfl⟩ | ⟨value, hvalue, hlimit⟩)
    . rw [hnil]
      exact ⟨none, rfl, rfl⟩
    . rw [hvalue]
      have hdecode := decodeLimit_eq_ok_iff.mpr hlimit
      exact ⟨some limit, fillAll_none_eq_ok_iff.mpr (.inr ⟨_, limit, rfl, hdecode, rfl⟩), rfl⟩

theorem kind_eq_of_tag {kind kind' : String} (htag : valuesOf "type" members = [.text kind.toList])
    (htag' : valuesOf "type" members = [.text kind'.toList])
    : kind = kind' := by
  rw [htag] at htag'
  injection htag' with htext
  injection htext with hchars
  exact String.toList_inj.mp hchars

theorem ofMembers_eq_ok_iff {kind : String} {request : ClientRequest}
    (htag : valuesOf "type" members = [.text kind.toList]) (hkind : kind ∈ kinds)
    : ofMembers kind (untagged members) = .ok request ↔ Asks (.record members) request := by
  simp only [kinds, List.mem_cons, List.not_mem_nil, or_false] at hkind
  rcases hkind with rfl | rfl
  . show (decodeLimits none (untagged members)).map .getLogs = .ok request ↔ _
    rw [map_eq_ok_iff]
    constructor
    . rintro ⟨limit, hlimits, rfl⟩
      rcases decodeLimits_eq_ok_iff.mp hlimits with ⟨hnil, rfl⟩ | ⟨value, hvalue, hlimit⟩
      . exact .logs htag hnil
      . exact .logsUpTo htag hvalue hlimit
    . intro h
      cases h with
      | logs htag' hlimit => exact ⟨none, decodeLimits_eq_ok_iff.mpr (.inl ⟨hlimit, rfl⟩), rfl⟩
      | logsUpTo htag' hlimit hvalue =>
        exact ⟨_, decodeLimits_eq_ok_iff.mpr (.inr ⟨_, hlimit, hvalue⟩), rfl⟩
      | stats htag' => exact absurd (kind_eq_of_tag htag htag') (by decide)
  . constructor
    . intro h
      injection h with h
      exact h ▸ .stats htag
    . intro h
      cases h with
      | logs htag' hlimit => exact absurd (kind_eq_of_tag htag htag') (by decide)
      | logsUpTo htag' hlimit hvalue => exact absurd (kind_eq_of_tag htag htag') (by decide)
      | stats htag' => rfl

theorem toOption_eq_some_iff {α : Type} {x : Decoded α} {a : α} : x.toOption = some a ↔ x = .ok a := by
  cases x <;> simp [Except.toOption]

theorem decode_record_eq_ok_iff {request : ClientRequest}
    (hvalues : membersReadFault? (maxDepth - 1) (Tree.membersToNodes members) = none)
    : decode (Tree.record members).toNode = .ok request ↔ Asks (.record members) request := by
  rw [Tree.toNode, decode, gather_toNodes hvalues]
  simp only [bind_eq_ok_iff, map_eq_ok_iff]
  constructor
  . rintro ⟨⟨slot, others⟩, ⟨slot', hslot, hothers⟩, kind, hkind, hrequest⟩
    injection hothers with hsame hothers
    subst hsame hothers
    rcases fillAll_none_eq_ok_iff.mp hslot with ⟨-, rfl⟩ | ⟨node, kind', hsingle, hdecode, rfl⟩
    . contradiction
    . injection hkind with hkind
      subst hkind
      obtain ⟨tag, htag, hnode⟩ := List.map_eq_singleton_iff.mp hsingle
      obtain ⟨rfl, hmem⟩ := decodeTag_eq_ok_iff.mp hdecode
      cases tag <;> try contradiction
      injection hnode with hchars
      injection hchars with hchars
      subst hchars
      exact (ofMembers_eq_ok_iff htag hmem).mp (mapError_eq_ok_iff.mp hrequest)
  . intro h
    obtain ⟨kind, hmem, htag⟩ : ∃ kind ∈ kinds, valuesOf "type" members = [.text kind.toList] := by
      cases h with
      | logs htag hlimit => exact ⟨_, by decide, htag⟩
      | logsUpTo htag hlimit hvalue => exact ⟨_, by decide, htag⟩
      | stats htag => exact ⟨_, by decide, htag⟩
    have hdecode : decodeTag (Tree.text kind.toList).toNode = .ok kind :=
      decodeTag_eq_ok_iff.mpr ⟨rfl, hmem⟩
    refine ⟨(some kind, untagged members), ⟨some kind, ?_, rfl⟩, kind, rfl, ?_⟩
    . rw [show tagKey = "type" from rfl, htag]
      exact fillAll_none_eq_ok_iff.mpr (.inr ⟨_, kind, rfl, hdecode, rfl⟩)
    . exact mapError_eq_ok_iff.mpr ((ofMembers_eq_ok_iff htag hmem).mpr h)

end

/-! ### Lists -/

theorem ofItems_eq_ok_iff {kind : String} {items : List Tree} {request : ClientRequest}
    (hkind : kind ∈ kinds)
    : ofItems kind (Tree.itemsToNodes items) = .ok request
        ↔ Asks (.list (.text kind.toList :: items)) request := by
  simp only [kinds, List.mem_cons, List.not_mem_nil, or_false] at hkind
  rcases hkind with rfl | rfl
  . cases items with
    | nil =>
      constructor
      . intro h
        injection h with h
        exact h ▸ .listedLogs
      . rintro ⟨⟩
        rfl
    | cons value items =>
      show (decodeLimit value.toNode >>= fun limit =>
        if (Tree.itemsToNodes items).isEmpty then pure (getLogs limit) else throw .wrongSize)
          = (.ok request : Decoded ClientRequest) ↔ _
      rw [bind_eq_ok_iff]
      constructor
      . rintro ⟨limit, hlimit, hrequest⟩
        cases items with
        | nil =>
          injection hrequest with hrequest
          exact hrequest ▸ .listedLogsUpTo (decodeLimit_eq_ok_iff.mp hlimit)
        | cons next items => contradiction
      . intro h
        cases h with
        | listedLogsUpTo hvalue => exact ⟨_, decodeLimit_eq_ok_iff.mpr hvalue, rfl⟩
  . cases items with
    | nil =>
      constructor
      . intro h
        injection h with h
        exact h ▸ .listedStats
      . rintro ⟨⟩
        rfl
    | cons value items =>
      constructor
      . intro h
        contradiction
      . intro h
        contradiction

theorem decode_list_eq_ok_iff {items : List Tree} {request : ClientRequest}
    (hitems : itemsReadFault? (maxDepth - 1) (Tree.itemsToNodes items) = none)
    : decode (Tree.list items).toNode = .ok request ↔ Asks (.list items) request := by
  cases items with
  | nil =>
    constructor
    . intro h
      contradiction
    . intro h
      contradiction
  | cons item items =>
    rw [Tree.itemsToNodes, itemsReadFault?, firstFault_eq_none_iff] at hitems
    rw [Tree.toNode, Tree.itemsToNodes, decode, bind_eq_ok_iff, hitems.2]
    constructor
    . rintro ⟨kind, hkind, hrequest⟩
      obtain ⟨hnode, hmem⟩ := decodeTag_eq_ok_iff.mp hkind
      cases item <;> try contradiction
      injection hnode with hchars
      injection hchars with hchars
      subst hchars
      exact (ofItems_eq_ok_iff hmem).mp (mapError_eq_ok_iff.mp hrequest)
    . intro h
      obtain ⟨kind, hmem, rfl⟩ : ∃ kind ∈ kinds, item = .text kind.toList := by
        cases h with
        | listedLogs => exact ⟨_, by decide, rfl⟩
        | listedLogsUpTo hvalue => exact ⟨_, by decide, rfl⟩
        | listedStats => exact ⟨_, by decide, rfl⟩
      refine ⟨kind, decodeTag_eq_ok_iff.mpr ⟨rfl, hmem⟩, ?_⟩
      exact mapError_eq_ok_iff.mpr ((ofItems_eq_ok_iff hmem).mpr h)

/-! ### Values -/

theorem readFault?_of_gather {kind kind' : Option String} {others others' : List (List Char × Node)}
    {tail : Tail} {members : List (Except Fault (List Char) × Node)}
    (h : gather kind others tail members = .ok (kind', others'))
    : firstFault (membersReadFault? (maxDepth - 1) members) tail.fault? = none := by
  rw [firstFault_eq_none_iff]
  induction members generalizing kind others with
  | nil =>
    rw [gather] at h
    split at h
    . contradiction
    . next htail => exact ⟨rfl, htail⟩
  | cons member members ih =>
    obtain ⟨key, value⟩ := member
    rw [gather, bind_eq_ok_iff] at h
    obtain ⟨chars, hkey, h⟩ := h
    cases key with
    | error fault => contradiction
    | ok key =>
      rw [membersReadFault?, firstFault_eq_none_iff]
      split at h
      . obtain ⟨kind'', hfill, h⟩ := bind_eq_ok_iff.mp h
        obtain ⟨hmembers, htail⟩ := ih h
        refine ⟨⟨?_, hmembers⟩, htail⟩
        unfold fill at hfill
        split at hfill
        . contradiction
        . obtain ⟨tag, htag, -⟩ := map_eq_ok_iff.mp hfill
          rw [(decodeTag_eq_ok_iff.mp htag).1]
          rfl
      . split at h
        . contradiction
        . next hvalue =>
          obtain ⟨hmembers, htail⟩ := ih h
          exact ⟨⟨hvalue, hmembers⟩, htail⟩

/--
A request is read for its content as a whole.
-/
theorem readFault?_of_decode {node : Node} {request : ClientRequest} (h : decode node = .ok request) :
    node.readFault? maxDepth = none := by
  unfold decode at h
  split at h
  . split at h <;> contradiction
  . next item rest tail =>
    obtain ⟨kind, hkind, h⟩ := bind_eq_ok_iff.mp h
    split at h
    . contradiction
    . next hrest =>
      rw [(decodeTag_eq_ok_iff.mp hkind).1]
      exact hrest
  . obtain ⟨⟨kind, others⟩, hgather, -⟩ := bind_eq_ok_iff.mp h
    exact readFault?_of_gather hgather
  . contradiction

theorem decode_toNode_eq_ok_iff {tree : Tree} {request : ClientRequest}
    (hdepth : tree.depth ≤ maxDepth) (hrange : tree.InRange)
    : decode tree.toNode = .ok request ↔ Asks tree request := by
  have hfault := (Tree.readFault?_toNode tree maxDepth).mpr ⟨hdepth, hrange⟩
  cases tree with
  | list items =>
    rw [Tree.toNode, show maxDepth = maxDepth - 1 + 1 from rfl, Node.readFault?,
      firstFault_eq_none_iff] at hfault
    exact decode_list_eq_ok_iff hfault.1
  | record members =>
    rw [Tree.toNode, show maxDepth = maxDepth - 1 + 1 from rfl, Node.readFault?,
      firstFault_eq_none_iff] at hfault
    exact decode_record_eq_ok_iff hfault.1
  | _ =>
    constructor
    . intro h
      contradiction
    . intro h
      contradiction

/-! ### Texts -/

/--
A text is a request if and only if it writes a value that asks for it, which is neither too deep nor has a number
that cannot be told.
-/
theorem parse_eq_ok_iff {text : String} {request : ClientRequest}
    : parse text = .ok request
        ↔ ∃ tree : Tree, tree.IsRoot text.toList ∧ tree.depth ≤ maxDepth ∧ tree.InRange
          ∧ Asks tree request := by
  unfold parse
  rw [decodeText_eq_ok_iff]
  constructor
  . rintro ⟨hdecode, halone⟩
    have hfault := readFault?_of_decode hdecode
    obtain ⟨tree, htree⟩ := Node.exists_toNode _ hfault
    rw [← htree] at hdecode hfault
    obtain ⟨hdepth, hrange⟩ := (Tree.readFault?_toNode tree maxDepth).mp hfault
    have hread : Document.read text.toList = ⟨tree.toNode, true⟩ := by
      rw [htree, ← halone]
    exact ⟨tree, Document.read_eq_iff.mp hread, hdepth, hrange,
      (decode_toNode_eq_ok_iff hdepth hrange).mp hdecode⟩
  . rintro ⟨tree, hroot, hdepth, hrange, hasks⟩
    rw [Document.read_eq_iff.mpr hroot]
    exact ⟨(decode_toNode_eq_ok_iff hdepth hrange).mpr hasks, rfl⟩

/-! ### What makes no difference -/

/--
The members that a request is given by.
-/
def relevant (members : List (List Char × Tree)) : List (List Char × Tree) :=
  members.filter fun member => member.1 == "type".toList || member.1 == "limit".toList

theorem valuesOf_relevant (members : List (List Char × Tree))
    : valuesOf "type" (relevant members) = valuesOf "type" members
        ∧ valuesOf "limit" (relevant members) = valuesOf "limit" members := by
  unfold valuesOf relevant
  rw [List.filter_filter, List.filter_filter]
  constructor
  . congr 2
    funext member
    cases member.1 == "type".toList <;> rfl
  . congr 2
    funext member
    cases member.1 == "type".toList <;> cases member.1 == "limit".toList <;> rfl

theorem perm_valuesOf {members members' : List (List Char × Tree)}
    (h : (relevant members).Perm (relevant members'))
    : (valuesOf "type" members).Perm (valuesOf "type" members')
        ∧ (valuesOf "limit" members).Perm (valuesOf "limit" members') := by
  rw [← (valuesOf_relevant members).1, ← (valuesOf_relevant members).2,
    ← (valuesOf_relevant members').1, ← (valuesOf_relevant members').2]
  exact ⟨(h.filter _).map _, (h.filter _).map _⟩

theorem Asks.of_perm {members members' : List (List Char × Tree)} {request : ClientRequest}
    (hasks : Asks (.record members) request) (h : (relevant members).Perm (relevant members'))
    : Asks (.record members') request := by
  obtain ⟨htags, hlimits⟩ := perm_valuesOf h
  cases hasks with
  | logs htag hlimit =>
    rw [htag] at htags
    rw [hlimit] at hlimits
    exact .logs htags.symm.eq_singleton hlimits.symm.eq_nil
  | logsUpTo htag hlimit hvalue =>
    rw [htag] at htags
    rw [hlimit] at hlimits
    exact .logsUpTo htags.symm.eq_singleton hlimits.symm.eq_singleton hvalue
  | stats htag =>
    rw [htag] at htags
    exact .stats htags.symm.eq_singleton

/-! ### Writing -/

/--
The limit of a request is an integer of 64 bits with sign.
-/
def InRange (request : ClientRequest) : Prop :=
  ∀ n, request = .getLogs (some n) → -(limitBound : Int) ≤ n ∧ n < limitBound

theorem givesLimit_ofInt {n : Int} (hleast : -(limitBound : Int) ≤ n) (hgreatest : n < limitBound) :
    GivesLimit (.number (.ofInt n)) (some n) :=
  .some (Literal.ofInt_writes n) hleast hgreatest

theorem numeric_of_givesLimit {literal : Literal} {limit : Option Int}
    (h : GivesLimit (.number literal) limit) : literal.numeric ≠ .beyond := by
  obtain ⟨n, hinteger, -⟩ := map_eq_ok_iff.mp (decodeLimit_eq_ok_iff.mpr h)
  obtain ⟨literal', hliteral, hnumeric, -⟩ := integerIn_eq_ok_iff.mp hinteger
  injection hliteral with hliteral
  rw [hliteral, hnumeric]
  exact nofun

theorem parse_render {request : ClientRequest} (h : request.InRange) :
    parse (String.ofList request.toValue.render) = .ok request := by
  rw [parse_eq_ok_iff, String.toList_ofList]
  refine ⟨_, request.toValue.isRoot_render, ?_⟩
  cases request with
  | getStats => exact ⟨by decide, nofun, .stats rfl⟩
  | getLogs limit =>
    cases limit with
    | none => exact ⟨by decide, nofun, .logsUpTo rfl rfl .none⟩
    | some n =>
      obtain ⟨hleast, hgreatest⟩ := h n rfl
      have hlimit := givesLimit_ofInt hleast hgreatest
      have htree : (getLogs (some n)).toValue.toTree
          = .record [("type".toList, .text "get_logs".toList), ("limit".toList, .number (.ofInt n))] :=
        rfl
      rw [htree]
      refine ⟨Nat.one_le_iff_ne_zero.mpr nofun, ?_, .logsUpTo rfl rfl hlimit⟩
      intro literal hliteral
      have hliteral : literal ∈ [Literal.ofInt n] := hliteral
      rw [List.mem_singleton.mp hliteral]
      exact numeric_of_givesLimit hlimit

/-! ### Requests -/

/--
A text is a request exactly if it writes a value that asks for it, neither too deep nor with a number that cannot
be told. In whatever way the value is written, what comes of the text is the same; and where it is a record, the
order of its members and the ones beside tag and limit do not matter. Every request is read from its own text.
-/
theorem parse_accepts_grammar
    : (∀ (text : String) (request : ClientRequest),
        parse text = .ok request
          ↔ ∃ tree : Tree, tree.IsRoot text.toList ∧ tree.depth ≤ 127
            ∧ (∀ literal ∈ tree.literals, literal.numeric ≠ .beyond) ∧ Asks tree request)
        ∧
      (∀ (tree : Tree) (text text' : String),
        tree.IsRoot text.toList → tree.IsRoot text'.toList → parse text = parse text')
        ∧
      (∀ (members members' : List (List Char × Tree)) (text text' : String),
        (Tree.record members).IsRoot text.toList → (Tree.record members').IsRoot text'.toList →
        (∀ tree ∈ [Tree.record members, Tree.record members'],
          tree.depth ≤ 127 ∧ ∀ literal ∈ tree.literals, literal.numeric ≠ .beyond) →
        (relevant members).Perm (relevant members') →
          (parse text).toOption = (parse text').toOption)
        ∧
      (∀ request : ClientRequest, request.InRange →
        parse (String.ofList request.toValue.render) = .ok request) := by
  refine ⟨fun text request => parse_eq_ok_iff, ?_, ?_, fun request => parse_render⟩
  . intro tree text text' hroot hroot'
    unfold parse decodeText
    rw [Document.read_eq_iff.mpr hroot, Document.read_eq_iff.mpr hroot']
  . intro members members' text text' hroot hroot' hreadable hrelevant
    rw [List.forall_mem_cons, List.forall_mem_singleton] at hreadable
    obtain ⟨⟨hdepth, hrange⟩, hdepth', hrange'⟩ := hreadable
    have hparse (request : ClientRequest) : parse text = .ok request ↔ parse text' = .ok request := by
      unfold parse
      rw [decodeText_eq_ok_iff, decodeText_eq_ok_iff, Document.read_eq_iff.mpr hroot,
        Document.read_eq_iff.mpr hroot']
      dsimp only
      rw [decode_toNode_eq_ok_iff hdepth hrange, decode_toNode_eq_ok_iff hdepth' hrange']
      simp only [and_true]
      exact ⟨fun hasks => hasks.of_perm hrelevant, fun hasks => hasks.of_perm hrelevant.symm⟩
    apply Option.ext
    intro request
    rw [toOption_eq_some_iff, toOption_eq_some_iff]
    exact hparse request

/--
The tag stands last, an escape is in its name, and there are blanks and another member.
-/
theorem parse_accepts_grammar_reordered
    : let type : List Char × Tree := ("type".toList, .text "get_logs".toList)
      let limit : List Char × Tree := ("limit".toList, .number (.ofInt 5))
      let more : List Char × Tree := ("more".toList, .list [.null, .bool true])
      let text := String.ofList (getLogs (some 5)).toValue.render
      let text' := " \x7b\"limit\" : 5 ,\"more\":[null, true], \"t\\u0079pe\":\"get_logs\"\x7d\n"
      (Tree.record [type, limit]).IsRoot text.toList
        ∧ (Tree.record [limit, more, type]).IsRoot text'.toList
        ∧ (relevant [type, limit]).Perm (relevant [limit, more, type])
        ∧ parse text = .ok (getLogs (some 5))
        ∧ (parse text).toOption = (parse text').toOption := by
  intro type limit more text text'
  obtain ⟨-, -, hmembers, hrender⟩ := parse_accepts_grammar
  have hroot : (Tree.record [type, limit]).IsRoot text.toList := by
    rw [String.toList_ofList]
    exact (getLogs (some 5)).toValue.isRoot_render
  have hroot' : (Tree.record [limit, more, type]).IsRoot text'.toList :=
    Document.read_eq_iff.mp (by cbv)
  have hrelevant : (relevant [type, limit]).Perm (relevant [limit, more, type]) :=
    List.Perm.swap limit type []
  have hreadable : ∀ tree ∈ [Tree.record [type, limit], Tree.record [limit, more, type]],
      tree.depth ≤ 127 ∧ ∀ literal ∈ tree.literals, literal.numeric ≠ .beyond := by
    rw [List.forall_mem_cons, List.forall_mem_singleton]
    exact ⟨⟨by decide, by decide +kernel⟩, ⟨by decide, by decide +kernel⟩⟩
  have hrange : (getLogs (some 5)).InRange := by
    rintro n ⟨⟩
    decide
  exact ⟨hroot, hroot', hrelevant, hrender _ hrange, hmembers _ _ _ _ hroot hroot' hreadable hrelevant⟩

end ClientRequest

end WafWatch
