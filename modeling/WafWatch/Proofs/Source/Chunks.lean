import WafWatch.Proofs.Source.CommandTail

/-!
This module contains what the cutting of octets into lines has to do with how the octets arrive. Wherever they are cut
into chunks, the same lines are found and the same is carried on, and never more is carried than a line may have.
-/

namespace WafWatch

/-! ### Lines that are handed on -/

/--
The text of a line of which nothing belongs to its end.
-/
structure IsBareLine (line : String) : Prop where
  ne_empty : line ≠ ""
  newline_not_mem : '\n' ∉ line.toList
  getLast?_ne : line.toList.getLast? ≠ some '\r'

theorem newline_not_mem_of_mem_splitOn {octets piece : List UInt8} (h : piece ∈ octets.splitOn newline) :
    newline ∉ piece := by
  induction octets generalizing piece with
  | nil =>
    rw [List.splitOn_nil, List.mem_singleton] at h
    rw [h]
    exact List.not_mem_nil
  | cons b rest ih =>
    rw [List.splitOn_cons_eq_if_modifyHead] at h
    split at h
    . rcases List.mem_cons.mp h with rfl | hlater
      . exact List.not_mem_nil
      . exact ih hlater
    . next hb =>
      obtain ⟨first, others, hpieces⟩ := List.exists_cons_of_ne_nil (List.splitOn_ne_nil newline rest)
      rw [hpieces] at h ih
      rcases List.mem_cons.mp h with rfl | hlater
      . rw [List.mem_cons, not_or]
        exact ⟨fun heq => hb (beq_iff_eq.mpr heq.symm), ih List.mem_cons_self⟩
      . exact ih (List.mem_cons_of_mem _ hlater)

theorem newline_not_mem_of_mem_rawLines {octets piece : List UInt8} (h : piece ∈ rawLines octets) :
    newline ∉ piece :=
  newline_not_mem_of_mem_splitOn ((List.dropLast_sublist _).subset h)

theorem newline_not_mem_lastPiece (octets : List UInt8) : newline ∉ lastPiece octets :=
  newline_not_mem_of_mem_splitOn (List.getLast_mem _)

theorem getLast?_trimReturns_ne (s : List Char) : (trimReturns s).getLast? ≠ some '\r' := by
  intro hlast
  have hne : trimReturns s ≠ [] := by
    intro hnil
    rw [hnil] at hlast
    contradiction
  rw [List.getLast?_eq_some_getLast hne, Option.some.injEq] at hlast
  exact List.rdropWhile_last_not (· == '\r') s hne (beq_iff_eq.mpr hlast)

theorem isBareLine_of_lineText? {limit : Nat} {octets : List UInt8} {line : String} (hoctets : newline ∉ octets)
    (h : lineText? limit octets = some line)
    : IsBareLine line := by
  unfold lineText? at h
  dsimp only at h
  split at h
  . contradiction
  split at h
  . contradiction
  next hne =>
  rw [Option.some.injEq] at h
  rw [← h]
  constructor
  . intro hempty
    rw [String.ofList_eq_empty_iff] at hempty
    exact hne (List.isEmpty_iff.mpr hempty)
  . rw [String.toList_ofList]
    intro hmem
    exact newline_not_mem_decodeLossy hoctets ((List.rdropWhile_prefix _ _).mem hmem)
  . rw [String.toList_ofList]
    apply getLast?_trimReturns_ne

theorem isBareLine_of_mem_completeLines {limit : Nat} {octets : List UInt8} {line : String}
    (h : line ∈ completeLines limit octets)
    : IsBareLine line := by
  rw [completeLines_eq_filterMap, List.mem_filterMap] at h
  obtain ⟨piece, hpiece, hline⟩ := h
  exact isBareLine_of_lineText? (newline_not_mem_of_mem_rawLines hpiece) hline

namespace LineCarry

/-! ### What is carried -/

/--
What is carried takes no more room than a line may, and belongs to one line.
-/
structure Bounded (limit : Nat) (carry : LineCarry) : Prop where
  length_le : carry.pending.length ≤ limit
  newline_not_mem : newline ∉ carry.pending
  pending_eq_nil : carry.skipping = true → carry.pending = []

theorem after_bounded (limit : Nat) (octets : List UInt8) : (after limit octets).Bounded limit := by
  unfold after opened
  split
  . exact ⟨Nat.zero_le _, List.not_mem_nil, fun _ => rfl⟩
  . next hshort => exact ⟨Nat.le_of_not_lt hshort, newline_not_mem_lastPiece octets, nofun⟩

/--
What is carried after chunks that have been split one after the other, the first one with nothing carried to it.
-/
def afterChunks (limit : Nat) (chunks : List (List UInt8)) : LineCarry :=
  chunks.foldl (fun carry chunk => (carry.split limit chunk).2) {}

theorem afterChunks_eq (limit : Nat) (chunks : List (List UInt8)) :
    afterChunks limit chunks = after limit chunks.flatten := by
  induction chunks using List.reverseRecOn with
  | nil => rfl
  | append_singleton chunks chunk ih =>
    rw [afterChunks, List.foldl_concat, ← afterChunks, ih, split_after_carry, List.flatten_concat]

/-! ### Chunks that are cut -/

variable {limit : Nat} {octets : List UInt8}

/--
What two chunks give one after the other, and what is carried on behind them.
-/
def splitInTurn (limit : Nat) (carry : LineCarry) (a b : List UInt8) : List String × LineCarry :=
  let (lines, between) := carry.split limit a
  let (more, last) := between.split limit b
  (lines ++ more, last)

theorem split_after_append (limit : Nat) (octets a b : List UInt8) :
    (after limit octets).split limit (a ++ b) = (after limit octets).splitInTurn limit a b := by
  unfold splitInTurn
  apply Prod.ext
  . -- both sides are what the lines of all octets have beyond those found before
    have hwhole := completeLines_append limit octets (a ++ b)
    rw [← List.append_assoc, completeLines_append, completeLines_append, List.append_assoc] at hwhole
    dsimp only
    rw [split_after_carry]
    exact (List.append_cancel_left hwhole).symm
  . dsimp only
    rw [split_after_carry, split_after_carry, split_after_carry, List.append_assoc]

theorem isBareLine_of_mem_split {chunk : List UInt8} {line : String}
    (h : line ∈ ((after limit octets).split limit chunk).1)
    : IsBareLine line := by
  have hmem : line ∈ completeLines limit (octets ++ chunk) := by
    rw [completeLines_append]
    exact List.mem_append_right _ h
  exact isBareLine_of_mem_completeLines hmem

/--
Whatever has been split before, two chunks one after the other give the lines and leave the carry that they give and
leave as one. What is carried in between stays within the limit, and only bare lines are handed on.
-/
theorem split_afterChunks_append (limit : Nat) (chunks : List (List UInt8)) (a b : List UInt8)
    : (afterChunks limit chunks).split limit (a ++ b) = (afterChunks limit chunks).splitInTurn limit a b
        ∧ (afterChunks limit chunks).Bounded limit
        ∧ ∀ line ∈ ((afterChunks limit chunks).split limit a).1, IsBareLine line := by
  rw [afterChunks_eq]
  exact ⟨split_after_append limit chunks.flatten a b, after_bounded limit chunks.flatten, fun _ => isBareLine_of_mem_split⟩

/--
The second line is too long, and the first of the two chunks ends in the middle of it.
-/
theorem split_afterChunks_append_oversized
    : (afterChunks 3 [[97]]).split 3 [10, 98, 99, 100, 101, 102, 10, 103, 13, 10] = (["a", "g"], {})
        ∧ (afterChunks 3 [[97]]).splitInTurn 3 [10, 98, 99, 100, 101] [102, 10, 103, 13, 10] = (["a", "g"], {})
        ∧ (afterChunks 3 [[97]]).Bounded 3
        ∧ IsBareLine "a" := by
  obtain ⟨hwhole, hbounded, hbare⟩ := split_afterChunks_append 3 [[97]] [10, 98, 99, 100, 101] [102, 10, 103, 13, 10]
  have hturn : (afterChunks 3 [[97]]).splitInTurn 3 [10, 98, 99, 100, 101] [102, 10, 103, 13, 10] = (["a", "g"], {}) := by
    decide +kernel
  exact ⟨hwhole.trans hturn, hturn, hbounded, hbare "a" (by decide +kernel)⟩

end LineCarry

end WafWatch
