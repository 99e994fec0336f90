import WafWatch.Proofs.Json.Token

/-!
This module contains the reading of JSON values: a value is read of a text if and only if the text writes it.
-/

namespace WafWatch.Json

open WafWatch.Text

/-! ### Blanks -/

theorem skipSpaces_skipSpaces (s : List Char) : skipSpaces (skipSpaces s) = skipSpaces s := by
  unfold skipSpaces
  induction s with
  | nil => rfl
  | cons c s ih =>
    rw [List.dropWhile_cons]
    split
    . exact ih
    . next hc => rw [List.dropWhile_cons_of_neg hc]

theorem length_skipSpaces_le (s : List Char) : (skipSpaces s).length ≤ s.length :=
  (List.dropWhile_sublist _).length_le

theorem length_lt_of_skipSpaces {s rest : List Char} {c : Char} (h : skipSpaces s = c :: rest) :
    rest.length < s.length := by
  have hlength := length_skipSpaces_le s
  rw [h] at hlength
  exact hlength

theorem endsNumber_of_isSpace {c : Char} (h : isSpace c = true) (s : List Char) : EndsNumber (c :: s) := by
  intro d hd
  cases hd
  unfold isSpace at h
  simp only [Bool.or_eq_true, beq_iff_eq] at h
  rcases h with ((rfl | rfl) | rfl) | rfl <;> decide

theorem endsNumber_of_skipSpaces {s : List Char} (h : EndsNumber (skipSpaces s)) : EndsNumber s := by
  cases s with
  | nil => exact nofun
  | cons c s =>
    unfold skipSpaces at h
    rw [List.dropWhile_cons] at h
    split at h
    . next hc => exact endsNumber_of_isSpace hc s
    . exact h

/-! ### Values -/

theorem readNode_skipSpaces (fuel : Nat) (s : List Char) : readNode fuel (skipSpaces s) = readNode fuel s := by
  cases fuel with
  | zero => rfl
  | succ fuel =>
    unfold readNode
    rw [skipSpaces_skipSpaces]

theorem Literal.Spelled.exists_cons {literal : Literal} {s rest : List Char}
    (h : literal.Spelled s rest)
    : ∃ c after, s = c :: after ∧ (c = '-' ∨ isAsciiDigit c = true) := by
  obtain ⟨⟨hwhole, -, -, -⟩, exponentPart, -, rfl⟩ := h
  unfold Literal.sign
  split
  . exact ⟨_, _, rfl, .inl rfl⟩
  . obtain ⟨c, more, hdigits⟩ := List.exists_cons_of_ne_nil hwhole.ne_nil
    rw [hdigits]
    exact ⟨c, _, rfl, .inr (hwhole.digit c (hdigits ▸ List.mem_cons_self))⟩

/--
No value starts with the closing bracket of a list.
-/
theorem Tree.Spelled.exists_skipSpaces {tree : Tree} {s rest : List Char} (h : tree.Spelled s rest) :
    ∃ c after, skipSpaces s = c :: after ∧ c ≠ ']' := by
  cases h with
  | null hs => exact ⟨_, _, hs, by decide⟩
  | true hs => exact ⟨_, _, hs, by decide⟩
  | false hs => exact ⟨_, _, hs, by decide⟩
  | number hs =>
    obtain ⟨c, after, hs, hc⟩ := hs.exists_cons
    refine ⟨c, after, hs, ?_⟩
    rintro rfl
    rcases hc with hminus | hdigit <;> contradiction
  | text hs hchars => exact ⟨_, _, hs, by decide⟩
  | list hs hitems => exact ⟨_, _, hs, by decide⟩
  | record hs hmembers => exact ⟨_, _, hs, by decide⟩

theorem readItems_item {first : Bool} {s before : List Char} (hs : Separated first s before)
    (hbefore : ∃ c after, skipSpaces before = c :: after ∧ c ≠ ']') (fuel : Nat)
    : readItems (fuel + 1) first s
        =
      let (item, rest) := readNode fuel before
      let (items, tail, rest) := readItems fuel false rest
      (item :: items, tail, rest) := by
  obtain ⟨c, after, hafter, hc⟩ := hbefore
  have hnode := readNode_skipSpaces fuel before
  rw [hafter] at hnode
  rw [readItems.eq_def]
  cases first with
  | true =>
    cases hs
    dsimp only
    rw [hafter]
    split
    . contradiction
    . next heq => exact absurd (List.cons.inj heq).1 hc
    . next heq =>
      obtain ⟨rfl, rfl⟩ := List.cons.inj heq
      rw [hnode]
      rfl
  | false =>
    have hs : skipSpaces s = ',' :: before := hs
    dsimp only
    rw [hs]
    split
    . contradiction
    . next heq => exact absurd (List.cons.inj heq).1 (by decide)
    . next heq =>
      obtain ⟨rfl, rfl⟩ := List.cons.inj heq
      rw [if_neg Bool.false_ne_true, if_pos (beq_self_eq_true ','), hafter]
      split
      . contradiction
      . next heq => exact absurd (List.cons.inj heq).1 hc
      . next heq =>
        obtain ⟨rfl, rfl⟩ := List.cons.inj heq
        rw [hnode]

theorem readItems_close {s rest : List Char} (hs : skipSpaces s = ']' :: rest) (fuel : Nat) (first : Bool) :
    readItems (fuel + 1) first s = ([], .closed, rest) := by
  rw [readItems.eq_def]
  dsimp only
  rw [hs]
  rfl

theorem readMembers_close {s rest : List Char} (hs : skipSpaces s = '\x7d' :: rest) (fuel : Nat)
    (first : Bool)
    : readMembers (fuel + 1) first s = ([], .closed, rest) := by
  rw [readMembers.eq_def]
  dsimp only
  rw [hs]
  rfl

theorem readMembers_member {first : Bool} {s before quoted : List Char} (hs : Separated first s before)
    (hquote : skipSpaces before = '"' :: quoted) (fuel : Nat)
    : readMembers (fuel + 1) first s = readMember fuel quoted := by
  rw [readMembers.eq_def]
  cases first with
  | true =>
    cases hs
    dsimp only
    rw [hquote]
    rfl
  | false =>
    have hs : skipSpaces s = ',' :: before := hs
    simp [hs, hquote]

theorem readMember_value {key quoted colon behind : List Char} (hkey : TextSpelled key quoted colon)
    (hcolon : skipSpaces colon = ':' :: behind) (fuel : Nat)
    : readMember (fuel + 1) quoted
        =
      let (value, rest) := readNode fuel behind
      let (members, tail, rest) := readMembers fuel false rest
      ((.ok key, value) :: members, tail, rest) := by
  rw [readMember.eq_def]
  dsimp only
  rw [hkey.readString_eq (Nat.le_succ _)]
  dsimp only
  rw [hcolon]
  rfl

theorem ItemsSpelled.endsNumber {items : List Tree} {s rest : List Char}
    (h : ItemsSpelled false items s rest) : EndsNumber s := by
  apply endsNumber_of_skipSpaces
  cases h with
  | close hs =>
    rw [hs]
    rintro c ⟨⟩
    decide
  | item hs hitem hitems =>
    rw [show skipSpaces s = ',' :: _ from hs]
    rintro c ⟨⟩
    decide

theorem MembersSpelled.endsNumber {members : List (List Char × Tree)} {s rest : List Char}
    (h : MembersSpelled false members s rest) : EndsNumber s := by
  apply endsNumber_of_skipSpaces
  cases h with
  | close hs =>
    rw [hs]
    rintro c ⟨⟩
    decide
  | member hs hquote hkey hcolon hvalue hmembers =>
    rw [show skipSpaces s = ',' :: _ from hs]
    rintro c ⟨⟩
    decide

theorem length_le_of_separated {first : Bool} {s before : List Char} (hs : Separated first s before) :
    before.length ≤ s.length := by
  cases first with
  | true => exact Nat.le_of_eq (congrArg List.length hs)
  | false => exact Nat.le_of_lt (length_lt_of_skipSpaces hs)

theorem Literal.Spelled.length_lt {literal : Literal} {s rest : List Char} (h : literal.Spelled s rest) :
    rest.length < s.length := by
  obtain ⟨⟨hwhole, -, -, -⟩, exponentPart, -, rfl⟩ := h
  have hlength := List.length_pos_iff.mpr hwhole.ne_nil
  simp only [List.length_append]
  omega

mutual

theorem Tree.Spelled.length_lt {tree : Tree} {s rest : List Char} :
    tree.Spelled s rest → rest.length < s.length
  | .null hs | .true hs | .false hs => by
    have hlength := length_lt_of_skipSpaces hs
    simp only [List.length_cons] at hlength
    omega
  | .number hs => Nat.lt_of_lt_of_le hs.length_lt (length_skipSpaces_le s)
  | .text hs hchars => Nat.lt_trans hchars.length_lt (length_lt_of_skipSpaces hs)
  | .list hs hitems => Nat.lt_trans hitems.length_lt (length_lt_of_skipSpaces hs)
  | .record hs hmembers => Nat.lt_trans hmembers.length_lt (length_lt_of_skipSpaces hs)

theorem ItemsSpelled.length_lt {first : Bool} {items : List Tree} {s rest : List Char} :
    ItemsSpelled first items s rest → rest.length < s.length
  | .close hs => length_lt_of_skipSpaces hs
  | .item hs hitem hitems => by
    have hbefore := length_le_of_separated hs
    have hitem := hitem.length_lt
    have hitems := hitems.length_lt
    omega

theorem MembersSpelled.length_lt {first : Bool} {members : List (List Char × Tree)}
    {s rest : List Char} :
    MembersSpelled first members s rest → rest.length < s.length
  | .close hs => length_lt_of_skipSpaces hs
  | .member hs hquote hkey hcolon hvalue hmembers => by
    have hbefore := length_le_of_separated hs
    have hquoted := length_lt_of_skipSpaces hquote
    have hkey := hkey.length_lt
    have hbehind := length_lt_of_skipSpaces hcolon
    have hvalue := hvalue.length_lt
    have hmembers := hmembers.length_lt
    omega

end

/-! ### What is written is read -/

theorem readNode_digit {c : Char} {s after : List Char} (hs : skipSpaces s = c :: after)
    (hc : isAsciiDigit c = true) (fuel : Nat)
    : readNode (fuel + 1) s = readNumberNode false (c :: after) := by
  rw [readNode.eq_def]
  dsimp only
  rw [hs]
  split
  case h_9 heq =>
    obtain ⟨rfl, rfl⟩ := List.cons.inj heq
    rw [if_pos hc]
  all_goals
    next heq =>
      first
        | contradiction
        | rw [(List.cons.inj heq).1] at hc
          contradiction

theorem Literal.Spelled.readNode_eq {literal : Literal} {s rest : List Char}
    (h : literal.Spelled (skipSpaces s) rest) (hrest : EndsNumber rest) (fuel : Nat)
    : readNode (fuel + 1) s = (.number literal, rest) := by
  obtain ⟨after, hs, hread⟩ := h.readNumber_eq hrest
  have hnumber : readNumberNode literal.negative after = (.number literal, rest) := by
    unfold readNumberNode
    rw [hread]
  obtain ⟨⟨hwhole, -, -, -⟩, exponentPart, -, hs'⟩ := h
  unfold Literal.sign at hs hs'
  split at hs
  . next hnegative =>
    rw [hnegative] at hnumber
    rw [readNode.eq_def]
    dsimp only
    rw [hs]
    exact hnumber
  . next hpositive =>
    rw [if_neg hpositive] at hs'
    rw [Bool.eq_false_iff.mpr hpositive] at hnumber
    obtain ⟨c, more, hdigits⟩ := List.exists_cons_of_ne_nil hwhole.ne_nil
    rw [hdigits] at hs'
    have hc := hwhole.digit c (hdigits ▸ List.mem_cons_self)
    rw [readNode_digit hs' hc, ← hnumber]
    exact congrArg (readNumberNode false) (hs'.symm.trans hs)

theorem readNode_text {chars s after rest : List Char} (hs : skipSpaces s = '"' :: after)
    (hchars : TextSpelled chars after rest) (fuel : Nat)
    : readNode (fuel + 1) s = (.text (.ok chars), rest) := by
  have hread := hchars.readString_eq (Nat.le_succ _) []
  rw [readNode.eq_def]
  simp only [hs, hread]
  rfl

theorem readNode_list {items : List Node} {tail : Tail} {s after rest : List Char} {fuel : Nat}
    (hs : skipSpaces s = '[' :: after) (hitems : readItems fuel true after = (items, tail, rest))
    : readNode (fuel + 1) s = (.list items tail, rest) := by
  rw [readNode.eq_def]
  dsimp only
  rw [hs]
  show (Node.list (readItems fuel true after).1 (readItems fuel true after).2.1,
    (readItems fuel true after).2.2) = _
  rw [hitems]

theorem readNode_record {members : List (Except Fault (List Char) × Node)} {tail : Tail}
    {s after rest : List Char} {fuel : Nat} (hs : skipSpaces s = '\x7b' :: after)
    (hmembers : readMembers fuel true after = (members, tail, rest))
    : readNode (fuel + 1) s = (.record members tail, rest) := by
  rw [readNode.eq_def]
  dsimp only
  rw [hs]
  show (Node.record (readMembers fuel true after).1 (readMembers fuel true after).2.1,
    (readMembers fuel true after).2.2) = _
  rw [hmembers]

theorem skipSpaces_eq_cons {s after : List Char} {c : Char} (hs : skipSpaces s = c :: after) {fuel : Nat}
    (hfuel : 2 * s.length ≤ fuel)
    : ∃ less, fuel = less + 1 ∧ 2 * after.length + 1 ≤ less := by
  -- A character pays for two calls: one for the value that it begins, one for what that value holds.
  have hlength := length_lt_of_skipSpaces hs
  exact ⟨fuel - 1, by omega, by omega⟩

mutual

theorem Tree.Spelled.readNode_eq {tree : Tree} {s rest : List Char} :
    tree.Spelled s rest → ∀ fuel : Nat, 2 * s.length ≤ fuel → EndsNumber rest →
      readNode fuel s = (tree.toNode, rest)
  | .null hs => by
    intro fuel hfuel _
    obtain ⟨less, rfl, -⟩ := skipSpaces_eq_cons hs hfuel
    rw [readNode.eq_def]
    dsimp only
    rw [hs]
    rfl
  | .true hs => by
    intro fuel hfuel _
    obtain ⟨less, rfl, -⟩ := skipSpaces_eq_cons hs hfuel
    rw [readNode.eq_def]
    dsimp only
    rw [hs]
    rfl
  | .false hs => by
    intro fuel hfuel _
    obtain ⟨less, rfl, -⟩ := skipSpaces_eq_cons hs hfuel
    rw [readNode.eq_def]
    dsimp only
    rw [hs]
    rfl
  | .number hs => by
    intro fuel hfuel hrest
    have hlength := hs.length_lt
    have hskip := length_skipSpaces_le s
    obtain ⟨less, rfl⟩ : ∃ less, fuel = less + 1 := ⟨fuel - 1, by omega⟩
    exact hs.readNode_eq hrest less
  | .text hs hchars => by
    intro fuel hfuel _
    obtain ⟨less, rfl, -⟩ := skipSpaces_eq_cons hs hfuel
    exact readNode_text hs hchars less
  | .list hs hitems => by
    intro fuel hfuel _
    obtain ⟨less, rfl, hless⟩ := skipSpaces_eq_cons hs hfuel
    exact readNode_list hs (hitems.readItems_eq less hless)
  | .record hs hmembers => by
    intro fuel hfuel _
    obtain ⟨less, rfl, hless⟩ := skipSpaces_eq_cons hs hfuel
    exact readNode_record hs (hmembers.readMembers_eq less hless)

theorem ItemsSpelled.readItems_eq {first : Bool} {items : List Tree} {s rest : List Char} :
    ItemsSpelled first items s rest → ∀ fuel : Nat, 2 * s.length + 1 ≤ fuel →
      readItems fuel first s = (Tree.itemsToNodes items, .closed, rest)
  | .close hs => by
    intro fuel hfuel
    obtain ⟨less, rfl⟩ : ∃ less, fuel = less + 1 := ⟨fuel - 1, by omega⟩
    exact readItems_close hs less first
  | .item hs hitem hitems => by
    intro fuel hfuel
    have hbefore := length_le_of_separated hs
    have hafter := hitem.length_lt
    obtain ⟨less, rfl⟩ : ∃ less, fuel = less + 1 := ⟨fuel - 1, by omega⟩
    rw [readItems_item hs hitem.exists_skipSpaces, hitem.readNode_eq less (by omega) hitems.endsNumber]
    dsimp only
    rw [hitems.readItems_eq less (by omega)]
    rfl

theorem MembersSpelled.readMembers_eq {first : Bool} {members : List (List Char × Tree)}
    {s rest : List Char} :
    MembersSpelled first members s rest → ∀ fuel : Nat, 2 * s.length + 1 ≤ fuel →
      readMembers fuel first s = (Tree.membersToNodes members, .closed, rest)
  | .close hs => by
    intro fuel hfuel
    obtain ⟨less, rfl⟩ : ∃ less, fuel = less + 1 := ⟨fuel - 1, by omega⟩
    exact readMembers_close hs less first
  | .member hs hquote hkey hcolon hvalue hmembers => by
    intro fuel hfuel
    have hbefore := length_le_of_separated hs
    have hquoted := length_lt_of_skipSpaces hquote
    have hcolonLength := hkey.length_lt
    have hbehind := length_lt_of_skipSpaces hcolon
    have hafter := hvalue.length_lt
    obtain ⟨less, rfl⟩ : ∃ less, fuel = less + 2 := ⟨fuel - 2, by omega⟩
    rw [readMembers_member hs hquote, readMember_value hkey hcolon,
      hvalue.readNode_eq less (by omega) hmembers.endsNumber]
    dsimp only
    rw [hmembers.readMembers_eq less (by omega)]
    rfl

end

/-! ### What is read is written -/

theorem eq_append_of_readRest {word s rest : List Char} (h : readRest word s = .ok rest) :
    s = word ++ rest := by
  induction word generalizing s with
  | nil => injection h
  | cons a word ih =>
    cases s with
    | nil => contradiction
    | cons b s =>
      unfold readRest at h
      split at h
      . next hsame => rw [← eq_of_beq hsame, ih h, List.cons_append]
      . contradiction

theorem readWord_eq {tree : Tree} {word s rest : List Char} {node : Node}
    (h : readWord word s node = (tree.toNode, rest)) : node = tree.toNode ∧ s = word ++ rest := by
  unfold readWord at h
  split at h
  . next hrest =>
    injection h with hnode hsame
    subst hsame
    exact ⟨hnode, eq_append_of_readRest hrest⟩
  . injection h with hnode
    cases tree <;> contradiction

theorem Tree.Spelled.of_readNumberNode {tree : Tree} {negative : Bool} {s after rest : List Char}
    (hs : skipSpaces s = (if negative then ['-'] else []) ++ after)
    (h : readNumberNode negative after = (tree.toNode, rest))
    : tree.Spelled s rest := by
  unfold readNumberNode at h
  split at h
  . next literal rest' hread =>
    injection h with hnode hrest
    subst hrest
    cases tree <;> try contradiction
    injection hnode with hliteral
    subst hliteral
    obtain ⟨hnegative, hspelled⟩ := Literal.Spelled.of_readNumber hread
    unfold Literal.sign at hspelled
    rw [hnegative, ← hs] at hspelled
    exact .number hspelled
  . injection h with hnode
    cases tree <;> contradiction

/--
With some fuel, the reader reads no value but one that the text writes.
-/
structure ReadsWritten (fuel : Nat) : Prop where
  node {tree : Tree} {s rest : List Char} :
    readNode fuel s = (tree.toNode, rest) → tree.Spelled s rest
  items {first : Bool} {items : List Tree} {s rest : List Char} :
    readItems fuel first s = (Tree.itemsToNodes items, .closed, rest) →
      ItemsSpelled first items s rest
  members {first : Bool} {members : List (List Char × Tree)} {s rest : List Char} :
    readMembers fuel first s = (Tree.membersToNodes members, .closed, rest) →
      MembersSpelled first members s rest
  member {members : List (List Char × Tree)} {quoted rest : List Char} :
    readMember fuel quoted = (Tree.membersToNodes members, .closed, rest) →
      ∃ key value more colon behind after, members = (key, value) :: more
        ∧ TextSpelled key quoted colon ∧ skipSpaces colon = ':' :: behind
        ∧ value.Spelled behind after ∧ MembersSpelled false more after rest

theorem ReadsWritten.node_succ {fuel : Nat} (h : ReadsWritten fuel) {tree : Tree} {s rest : List Char}
    (hread : readNode (fuel + 1) s = (tree.toNode, rest))
    : tree.Spelled s rest := by
  rw [readNode.eq_def] at hread
  dsimp only at hread
  split at hread
  . injection hread with hnode
    cases tree <;> contradiction
  . next after hs =>
    obtain ⟨hnode, rfl⟩ := readWord_eq hread
    cases tree <;> try contradiction
    exact .null hs
  . next after hs =>
    obtain ⟨hnode, rfl⟩ := readWord_eq hread
    cases tree <;> try contradiction
    injection hnode with hb
    subst hb
    exact .true hs
  . next after hs =>
    obtain ⟨hnode, rfl⟩ := readWord_eq hread
    cases tree <;> try contradiction
    injection hnode with hb
    subst hb
    exact .false hs
  . next after hs => exact .of_readNumberNode hs hread
  . next after hs =>
    split at hread
    . next chars rest' hstring =>
      injection hread with hnode hrest
      subst hrest
      cases tree <;> try contradiction
      injection hnode with hchars
      subst hchars
      obtain ⟨new, rfl, hnew⟩ := TextSpelled.of_readString hstring
      exact .text hs hnew
    . injection hread with hnode
      cases tree <;> contradiction
  . next after hs =>
    injection hread with hnode hrest
    cases tree <;> try contradiction
    injection hnode with hitems htail
    apply Tree.Spelled.list hs
    apply h.items
    rw [← hitems, ← htail, ← hrest]
  . next after hs =>
    injection hread with hnode hrest
    cases tree <;> try contradiction
    injection hnode with hmembers htail
    apply Tree.Spelled.record hs
    apply h.members
    rw [← hmembers, ← htail, ← hrest]
  . next c after hs =>
    split at hread
    . exact .of_readNumberNode hs hread
    . injection hread with hnode
      cases tree <;> contradiction

theorem ne_of_tail_ne {α : Type} {as as' : List α} {tail : Tail} {s rest : List Char}
    (h : tail ≠ .closed)
    : (as, tail, s) ≠ (as', Tail.closed, rest) := by
  intro hsame
  injection hsame with _ hsame
  injection hsame with htail
  exact h htail

/--
An item that was read comes before the items that are left.
-/
theorem ReadsWritten.of_item {fuel : Nat} (h : ReadsWritten fuel) {first : Bool} {items : List Tree}
    {s before rest : List Char} (hs : Separated first s before)
    (hread : (let (item, rest) := readNode fuel before
        let (items, tail, rest) := readItems fuel false rest
        (item :: items, tail, rest))
      = (Tree.itemsToNodes items, Tail.closed, rest))
    : ItemsSpelled first items s rest := by
  cases items with
  | nil =>
    injection hread with hnodes
    contradiction
  | cons item items =>
    injection hread with hnodes hrest
    injection hnodes with hnode hmore
    injection hrest with htail hrest
    have hitem : item.Spelled before (readNode fuel before).2 := h.node (Prod.ext hnode rfl)
    have hitems : ItemsSpelled false items (readNode fuel before).2 rest :=
      h.items (Prod.ext hmore (Prod.ext htail hrest))
    exact .item hs hitem hitems

theorem ReadsWritten.items_succ {fuel : Nat} (h : ReadsWritten fuel) {first : Bool} {items : List Tree}
    {s rest : List Char}
    (hread : readItems (fuel + 1) first s = (Tree.itemsToNodes items, .closed, rest))
    : ItemsSpelled first items s rest := by
  rw [readItems.eq_def] at hread
  dsimp only at hread
  split at hread
  . exact absurd hread (ne_of_tail_ne nofun)
  . next after hs =>
    injection hread with hnodes hrest
    injection hrest with _ hrest
    subst hrest
    cases items <;> try contradiction
    exact .close hs
  . next c after hclose hs =>
    split at hread
    . next hfirst =>
      subst hfirst
      have hseparated : Separated true s s := rfl
      apply h.of_item hseparated
      rw [← readNode_skipSpaces, hs]
      exact hread
    . next hfirst =>
      rw [Bool.eq_false_iff.mpr hfirst] at *
      split at hread
      . next hcomma =>
        rw [eq_of_beq hcomma] at hs
        split at hread
        . exact absurd hread (ne_of_tail_ne nofun)
        . exact absurd hread (ne_of_tail_ne nofun)
        . next d before hd hbefore =>
          have hseparated : Separated false s _ := hs
          apply h.of_item hseparated
          rw [← readNode_skipSpaces, hbefore]
          exact hread
      . exact absurd hread (ne_of_tail_ne nofun)

theorem ReadsWritten.member_succ {fuel : Nat} (h : ReadsWritten fuel)
    {members : List (List Char × Tree)} {quoted rest : List Char}
    (hread : readMember (fuel + 1) quoted = (Tree.membersToNodes members, .closed, rest))
    : ∃ key value more colon behind after, members = (key, value) :: more
        ∧ TextSpelled key quoted colon ∧ skipSpaces colon = ':' :: behind
        ∧ value.Spelled behind after ∧ MembersSpelled false more after rest := by
  rw [readMember.eq_def] at hread
  dsimp only at hread
  split at hread
  . exact absurd hread (ne_of_tail_ne nofun)
  . next key colon hkey =>
    split at hread
    . exact absurd hread (ne_of_tail_ne nofun)
    . next behind hcolon =>
      injection hread with hnodes hrest
      injection hrest with htail hrest
      cases members <;> try contradiction
      rename_i member more
      obtain ⟨chars, value⟩ := member
      injection hnodes with hmember hmore
      injection hmember with hkey' hvalue
      subst hkey'
      obtain ⟨new, rfl, hnew⟩ := TextSpelled.of_readString hkey
      have hvalue : value.Spelled behind (readNode fuel behind).2 := h.node (Prod.ext hvalue rfl)
      have hmore : MembersSpelled false more (readNode fuel behind).2 rest :=
        h.members (Prod.ext hmore (Prod.ext htail hrest))
      exact ⟨_, value, more, colon, behind, _, rfl, hnew, hcolon, hvalue, hmore⟩
    . exact absurd hread (ne_of_tail_ne nofun)

theorem ReadsWritten.members_succ {fuel : Nat} (h : ReadsWritten fuel) {first : Bool}
    {members : List (List Char × Tree)} {s rest : List Char}
    (hread : readMembers (fuel + 1) first s = (Tree.membersToNodes members, .closed, rest))
    : MembersSpelled first members s rest := by
  rw [readMembers.eq_def] at hread
  dsimp only at hread
  split at hread
  . exact absurd hread (ne_of_tail_ne nofun)
  . next after hs =>
    injection hread with hnodes hrest
    injection hrest with _ hrest
    subst hrest
    cases members <;> try contradiction
    exact .close hs
  . next c after hclose hs =>
    split at hread
    . next hfirst =>
      subst hfirst
      split at hread
      . next hquote =>
        rw [eq_of_beq hquote] at hs
        obtain ⟨key, value, more, colon, behind, after, rfl, hkey, hcolon, hvalue, hmore⟩ :=
          h.member hread
        exact .member rfl hs hkey hcolon hvalue hmore
      . exact absurd hread (ne_of_tail_ne nofun)
    . next hfirst =>
      rw [Bool.eq_false_iff.mpr hfirst] at *
      split at hread
      . next hcomma =>
        rw [eq_of_beq hcomma] at hs
        split at hread
        . exact absurd hread (ne_of_tail_ne nofun)
        . next quoted hquote =>
          obtain ⟨key, value, more, colon, behind, after, rfl, hkey, hcolon, hvalue, hmore⟩ :=
            h.member hread
          exact .member hs hquote hkey hcolon hvalue hmore
        . exact absurd hread (ne_of_tail_ne nofun)
      . exact absurd hread (ne_of_tail_ne nofun)

theorem readsWritten (fuel : Nat) : ReadsWritten fuel := by
  induction fuel with
  | zero =>
    constructor
    . intro tree s rest h
      injection h with hnode
      cases tree <;> contradiction
    . exact fun h => absurd h (ne_of_tail_ne nofun)
    . exact fun h => absurd h (ne_of_tail_ne nofun)
    . exact fun h => absurd h (ne_of_tail_ne nofun)
  | succ fuel ih => exact ⟨ih.node_succ, ih.items_succ, ih.members_succ, ih.member_succ⟩

/-! ### Whole texts -/

/--
A value is read of a text if and only if the text writes it, and nothing else.
-/
theorem Document.read_eq_iff {tree : Tree} {s : List Char} :
    Document.read s = ⟨tree.toNode, true⟩ ↔ tree.IsRoot s := by
  constructor
  . intro h
    have hnode : (readNode (2 * s.length + 2) s).1 = tree.toNode := congrArg Document.root h
    have halone := congrArg Document.isAlone h
    refine ⟨(readNode (2 * s.length + 2) s).2, (readsWritten _).node (Prod.ext hnode rfl), ?_⟩
    exact List.isEmpty_iff.mp halone
  . rintro ⟨rest, hspelled, hrest⟩
    have hends : EndsNumber rest := by
      apply endsNumber_of_skipSpaces
      rw [hrest]
      exact nofun
    unfold Document.read
    rw [hspelled.readNode_eq (2 * s.length + 2) (Nat.le_add_right _ _) hends]
    simp [hrest]

end WafWatch.Json
