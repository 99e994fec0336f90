import WafWatch.Proofs.Source.Following
import WafWatch.Proofs.Text.Decoding
import WafWatch.Source.CommandTail

/-!
This module contains the agreement of the two ways to read lines. A file is cut into lines before each of them is read
as text, chunk by chunk as it grows; the output of a command is read as text before it is cut into lines. The lines are
the same.
-/

namespace WafWatch

/-! ### Cutting before and after reading -/

theorem newline_not_mem_decodeLossy {octets : List UInt8} (h : newline ∉ octets) : '\n' ∉ Text.decodeLossy octets := by
  intro hmem
  exact h (Text.mem_of_mem_decodeLossy (by decide) hmem)

theorem decodeLossy_append_newline (octets behind : List UInt8)
    : Text.decodeLossy (octets ++ newline :: behind)
        = Text.decodeLossy octets ++ '\n' :: Text.decodeLossy behind := by
  apply Text.decodeLossy_append
  decide

/--
Octets may be cut at the newlines before or after they are read as text.
-/
theorem decodeLossy_splitOn (octets : List UInt8)
    : (Text.decodeLossy octets).splitOn '\n' = (octets.splitOn newline).map Text.decodeLossy := by
  by_cases hmem : newline ∈ octets
  . obtain ⟨line, behind, hsplit, hline⟩ := List.eq_append_cons_of_mem hmem
    have ih := decodeLossy_splitOn behind
    rw [hsplit, decodeLossy_append_newline, List.splitOn_append_cons_self, List.splitOn_append_cons_self, ih,
      List.splitOn_eq_singleton hline, List.splitOn_eq_singleton (newline_not_mem_decodeLossy hline)]
    rfl
  . rw [List.splitOn_eq_singleton hmem, List.splitOn_eq_singleton (newline_not_mem_decodeLossy hmem)]
    rfl
termination_by octets.length
decreasing_by
  rw [hsplit, List.length_append, List.length_cons]
  omega

namespace CommandTail

theorem textLines.go_eq (lines : List (List Char)) (line s : List Char) :
    go lines line s = lines.reverse ++ s.splitOnPPrepend (· == '\n') line := by
  induction s generalizing lines line with
  | nil => simp [go]
  | cons c rest ih =>
    unfold go
    split
    . next hend =>
      rw [ih, List.splitOnPPrepend_cons_pos (p := (· == '\n')) hend]
      simp
    . next hinside =>
      have hinside : (c == '\n') = false := by simpa using hinside
      rw [ih, List.splitOnPPrepend_cons_neg (p := (· == '\n')) hinside]

theorem textLines_eq_splitOn (s : List Char) : textLines s = s.splitOn '\n' := by
  unfold textLines
  rw [textLines.go_eq]
  rfl

theorem lastPiece_of_ended {octets : List UInt8} (h : octets = [] ∨ octets.getLast? = some newline) :
    lastPiece octets = [] := by
  rcases h with rfl | hlast
  . rfl
  . obtain ⟨before, rfl⟩ := List.getLast?_eq_some_iff.mp hlast
    have hsplit : (before ++ [newline]).splitOn newline = before.splitOn newline ++ [[]] :=
      List.splitOn_append_cons_self before []
    exact (rawLines_lastPiece_of_eq hsplit).2

/--
The text of a line, unless it is empty.
-/
def lineOf? (line : List UInt8) : Option String :=
  lineText? line.length line

theorem lineText?_eq_lineOf? {limit : Nat} {line : List UInt8} (h : line.length ≤ limit) :
    lineText? limit line = lineOf? line := by
  unfold lineOf? lineText?
  rw [if_neg (Nat.not_lt.mpr h), if_neg (Nat.lt_irrefl _)]

theorem outputLines_eq_filterMap (output : List UInt8) :
    outputLines output = (output.splitOn newline).filterMap lineOf? := by
  unfold outputLines
  rw [textLines_eq_splitOn, decodeLossy_splitOn]
  induction output.splitOn newline with
  | nil => rfl
  | cons line lines ih =>
    rw [List.filterMap_cons, ← ih]
    unfold lineOf? lineText?
    rw [if_neg (Nat.lt_irrefl _)]
    simp only [List.map_cons, List.filter_cons]
    cases (trimReturns (Text.decodeLossy line)).isEmpty
    . rfl
    . rfl

/--
Where no line is too long and the last one has ended, the lines of an output are those of a file.
-/
theorem outputLines_eq_completeLines {limit : Nat} {octets : List UInt8}
    (hended : octets = [] ∨ octets.getLast? = some newline) (hshort : ∀ line ∈ rawLines octets, line.length ≤ limit)
    : outputLines octets = completeLines limit octets := by
  have hempty : lineOf? [] = none := by decide +kernel
  rw [outputLines_eq_filterMap, completeLines_eq_filterMap, ← rawLines_append_lastPiece, lastPiece_of_ended hended,
    List.filterMap_append, List.filterMap_cons, hempty]
  have hlines : (rawLines octets).filterMap lineOf? = (rawLines octets).filterMap (lineText? limit) := by
    apply List.filterMap_congr
    intro line hline
    exact (lineText?_eq_lineOf? (hshort line hline)).symm
  rw [hlines]
  simp

end CommandTail

namespace Following

variable {path : String} {limit inode : Nat} {s : Following}

/--
Once a file that only grows has been read to its end, which enough polls do, the lines that the polls have returned are
those that a command returns which ends well and writes what the file holds, if the last line has ended and none is too
long.
-/
theorem consumed_eq_output (hrun : Relation.ReflTransGen Step (start path limit inode) s)
    (hended : s.file.octets = [] ∨ s.file.octets.getLast? = some newline)
    (hshort : ∀ line ∈ rawLines s.file.octets, line.length ≤ limit)
    {tail : CommandTail} {host : Host} {status : ExitStatus} {errors : List UInt8} (hsuccess : status.isSuccess = true)
    (hhost : host.run tail.program tail.arguments tail.timeout = .finished status s.file.octets errors)
    : (s.tail.offset = s.file.octets.length → tail.poll host = .ok s.lines)
        ∧ ∃ s', Relation.ReflTransGen Step s s' ∧ s'.file = s.file ∧ s'.tail.offset = s.file.octets.length
            ∧ tail.poll host = .ok s'.lines := by
  have hread {t : Following} (ht : Relation.ReflTransGen Step (start path limit inode) t) (hfile : t.file = s.file)
      (hconsumed : t.tail.offset = s.file.octets.length) : tail.poll host = .ok t.lines := by
    have hlines := (Sound.of_reachable ht).lines_eq
    rw [hfile, hconsumed, List.take_length] at hlines
    rw [CommandTail.poll, hhost, CommandTail.lines, if_pos hsuccess,
      CommandTail.outputLines_eq_completeLines hended hshort, hlines]
  constructor
  . exact hread hrun rfl
  . obtain ⟨s', hpolls, hfile, hconsumed⟩ := (Sound.of_reachable hrun).exists_consumed
    exact ⟨s', hpolls, hfile, hconsumed, hread (hrun.trans hpolls) hfile hconsumed⟩

/--
The first line ends in the middle of a character, and the file is polled in the middle of it; the second one ends in two
carriage returns, and the file is polled between them.
-/
theorem consumed_eq_output_broken
    : let command : CommandTail := { program := "cat", arguments := ["/log"], timeout := .ofSeconds 5 }
      let content : List UInt8 := [0xe2, 0x82, 10, 97, 13, 13, 10]
      let host : Host :=
        { file := fun _ => { status := .error .notFound, reading := .error .notFound }
          run := fun _ _ _ => .finished (.code 0) content []
          listen := .ok }
      ∃ s : Following, Relation.ReflTransGen Step (start "/log" 3 1) s ∧ s.file.octets = content
        ∧ s.lines = ["\ufffd", "a"] ∧ command.poll host = .ok s.lines := by
  intro command content host
  let begun := (start "/log" 3 1).grow [0xe2]
  let first : FileTail := { path := "/log", limit := 3, offset := 1, inode := some 1, carry := { pending := [0xe2] } }
  let polled : Following := { begun with tail := first }
  let grown := polled.grow [0x82, 10, 97, 13]
  let second : FileTail :=
    { path := "/log", limit := 3, offset := 5, inode := some 1, carry := { pending := [97, 13] } }
  let polledAgain : Following := { grown with tail := second, lines := ["\ufffd"] }
  let ended := polledAgain.grow [13, 10]
  let s : Following :=
    { ended with tail := { path := "/log", limit := 3, offset := 7, inode := some 1 }, lines := ["\ufffd", "a"] }
  have hfirst : Step begun polled := .poll begun.file.seenAs_view (by decide +kernel)
  have hsecond : Step grown polledAgain := .poll grown.file.seenAs_view (by decide +kernel)
  have hthird : Step ended s := .poll ended.file.seenAs_view (by decide +kernel)
  have hbegun : Relation.ReflTransGen Step (start "/log" 3 1) begun := .single (.grow [0xe2])
  have hgrown := (hbegun.tail hfirst).tail (.grow [0x82, 10, 97, 13])
  have hended := (hgrown.tail hsecond).tail (.grow [13, 10])
  have hrun := hended.tail hthird
  exact ⟨s, hrun, rfl, rfl, (consumed_eq_output hrun (.inr rfl) (by decide +kernel) rfl rfl).1 rfl⟩

end Following

end WafWatch
