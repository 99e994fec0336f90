import Mathlib.Data.List.DropRight
import WafWatch.Source.Lines

/-!
This module contains the meaning of cutting octets into lines chunk by chunk. What is carried from one
chunk to the next depends only on the piece after the last newline of all octets so far, and the lines
that were found are those of all octets so far, however these were cut into chunks.
-/

namespace WafWatch

/-! ### Whole texts -/

/--
The pieces of octets that end with a newline, without it.
-/
def rawLines (octets : List UInt8) : List (List UInt8) :=
  (octets.splitOn newline).dropLast

/--
The octets after the last newline.
-/
def lastPiece (octets : List UInt8) : List UInt8 :=
  (octets.splitOn newline).getLast (List.splitOn_ne_nil _ _)

/--
The complete lines of octets as texts. Lines of more than `limit` octets are left out, octets that are no
text are replaced, and carriage returns at the end are stripped.
-/
def readableLines (limit : Nat) (octets : List UInt8) : List String :=
  ((rawLines octets).filter (·.length ≤ limit)).map fun line =>
    String.ofList ((Text.decodeLossy line).rdropWhile (· == '\r'))

def completeLines (limit : Nat) (octets : List UInt8) : List String :=
  (readableLines limit octets).filter (· ≠ "")

theorem rawLines_append_lastPiece (octets : List UInt8) :
    rawLines octets ++ [lastPiece octets] = octets.splitOn newline := by
  apply List.dropLast_append_getLast

theorem rawLines_lastPiece_of_eq {octets last : List UInt8} {lines : List (List UInt8)}
    (h : octets.splitOn newline = lines ++ [last])
    : rawLines octets = lines ∧ lastPiece octets = last := by
  rw [← rawLines_append_lastPiece] at h
  have := List.append_inj' h rfl
  exact ⟨this.1, List.singleton_inj.1 this.2⟩

@[simp]
theorem rawLines_nil : rawLines [] = [] := rfl

@[simp]
theorem lastPiece_nil : lastPiece [] = [] := rfl

theorem cutLines.go_eq_splitOnPPrepend (pieces : List (List UInt8)) (piece octets : List UInt8)
    : (go pieces piece octets).1 ++ [(go pieces piece octets).2]
        =
      pieces.reverse ++ octets.splitOnPPrepend (· == newline) piece := by
  induction octets generalizing pieces piece with
  | nil => simp [go]
  | cons b rest ih =>
    unfold go
    split
    . next hend =>
      rw [ih, List.splitOnPPrepend_cons_pos (p := (· == newline)) hend]
      simp
    . next hinside =>
      have hinside : (b == newline) = false := by simpa using hinside
      rw [ih, List.splitOnPPrepend_cons_neg (p := (· == newline)) hinside]

theorem cutLines_eq (octets : List UInt8) :
    cutLines octets = (rawLines octets, lastPiece octets) := by
  have hgo := cutLines.go_eq_splitOnPPrepend [] [] octets
  rw [List.reverse_nil, List.nil_append, List.splitOnPPrepend_nil_right,
    ← List.splitOn_eq_splitOnP] at hgo
  have hpieces := rawLines_lastPiece_of_eq hgo.symm
  rw [hpieces.1, hpieces.2]
  rfl

/-! ### Octets that follow others -/

theorem splitOn_append (a b : List UInt8)
    : (a ++ b).splitOn newline
        =
      rawLines a ++ (b.splitOn newline).modifyHead (lastPiece a ++ ·) := by
  induction a with
  | nil => cases hb : b.splitOn newline <;> simp [hb]
  | cons x a ih =>
    have ha := rawLines_append_lastPiece a
    have hxa := List.splitOn_cons_eq_if_modifyHead (a := newline) x a
    rw [List.cons_append, List.splitOn_cons_eq_if_modifyHead, ih]
    by_cases hx : (x == newline) = true
    . rw [if_pos hx] at hxa ⊢
      rw [← ha, ← List.cons_append] at hxa
      have hpieces := rawLines_lastPiece_of_eq hxa
      rw [hpieces.1, hpieces.2]
      simp
    . rw [if_neg hx] at hxa ⊢
      rw [← ha] at hxa
      cases hraw : rawLines a with
      | nil =>
        rw [hraw] at hxa
        have hxa : (x :: a).splitOn newline = [] ++ [x :: lastPiece a] := hxa
        have hpieces := rawLines_lastPiece_of_eq hxa
        rw [hpieces.1, hpieces.2]
        cases b.splitOn newline <;> simp
      | cons piece pieces =>
        rw [hraw] at hxa
        have hxa : (x :: a).splitOn newline = ((x :: piece) :: pieces) ++ [lastPiece a] := hxa
        have hpieces := rawLines_lastPiece_of_eq hxa
        rw [hpieces.1, hpieces.2]
        simp

theorem rawLines_append (a b : List UInt8)
    : rawLines (a ++ b) = rawLines a ++ (rawLines b).modifyHead (lastPiece a ++ ·) := by
  have hb := rawLines_append_lastPiece b
  rw [rawLines, splitOn_append, ← hb]
  cases rawLines b with
  | nil => simp
  | cons piece pieces =>
    rw [List.cons_append, List.modifyHead_cons, ← List.cons_append, ← List.append_assoc,
      List.dropLast_concat, List.modifyHead_cons]

theorem lastPiece_append (a b : List UInt8)
    : lastPiece (a ++ b)
        =
      if rawLines b = [] then lastPiece a ++ lastPiece b else lastPiece b := by
  have hab := splitOn_append a b
  rw [← rawLines_append_lastPiece b] at hab
  cases hraw : rawLines b with
  | nil =>
    rw [hraw] at hab
    have hpieces := rawLines_lastPiece_of_eq hab
    simpa using hpieces.2
  | cons piece pieces =>
    rw [hraw, List.cons_append, List.modifyHead_cons, ← List.cons_append, ← List.append_assoc] at hab
    have hpieces := rawLines_lastPiece_of_eq hab
    simpa using hpieces.2

theorem lineText?_eq_none_of_lt {limit : Nat} {octets : List UInt8} (hlong : limit < octets.length) :
    lineText? limit octets = none := by
  unfold lineText?
  rw [if_pos hlong]

theorem completeLines_eq_filterMap (limit : Nat) (octets : List UInt8) :
    completeLines limit octets = (rawLines octets).filterMap (lineText? limit) := by
  unfold completeLines readableLines
  induction rawLines octets with
  | nil => rfl
  | cons line lines ih =>
    rw [List.filterMap_cons, ← ih]
    by_cases hlong : limit < line.length
    . rw [lineText?_eq_none_of_lt hlong, List.filter_cons_of_neg (by simpa using hlong)]
    . unfold lineText? trimReturns
      rw [List.filter_cons_of_pos (by simpa using hlong), if_neg hlong]
      simp only [List.map_cons, List.filter_cons, List.rdropWhile]
      cases ((Text.decodeLossy line).reverse.dropWhile (· == '\r')).reverse <;> simp

/-! ### Chunks -/

namespace LineCarry

/--
What is carried when a line has begun with a piece.
-/
def opened (limit : Nat) (piece : List UInt8) : LineCarry :=
  if limit < piece.length then { skipping := true } else { pending := piece }

@[simp]
theorem opened_nil (limit : Nat) : opened limit [] = {} := rfl

theorem complete_opened (limit : Nat) (piece more : List UInt8) :
    (opened limit piece).complete limit more = (lineText? limit (piece ++ more), {}) := by
  unfold opened complete
  by_cases hlong : limit < piece.length
  . have hlong' : limit < (piece ++ more).length := by
      rw [List.length_append]
      omega
    rw [if_pos hlong, lineText?_eq_none_of_lt hlong']
    rfl
  . rw [if_neg hlong]
    rfl

theorem hold_opened (limit : Nat) (piece more : List UInt8) :
    (opened limit piece).hold limit more = opened limit (piece ++ more) := by
  unfold opened hold
  by_cases hlong : limit < piece.length
  . have hlong' : limit < (piece ++ more).length := by
      rw [List.length_append]
      omega
    rw [if_pos hlong, if_pos hlong']
    rfl
  . rw [if_neg hlong]
    rfl

theorem completeAll_opened (limit : Nat) (lines : List String) (pieces : List (List UInt8))
    (piece : List UInt8)
    : (opened limit piece).completeAll limit lines pieces
        =
      (lines.reverse ++ (pieces.modifyHead (piece ++ ·)).filterMap (lineText? limit),
        if pieces = [] then opened limit piece else {}) := by
  induction pieces generalizing lines piece with
  | nil => simp [completeAll]
  | cons more rest ih =>
    -- after the first piece nothing is left open
    have hrest := fun lines => ih lines []
    have hhead : rest.modifyHead (([] : List UInt8) ++ ·) = rest := by cases rest <;> rfl
    simp only [opened_nil, hhead, ite_self] at hrest
    unfold completeAll
    rw [complete_opened]
    cases hline : lineText? limit (piece ++ more) <;> simp [hline, hrest]

theorem split_opened (limit : Nat) (piece chunk : List UInt8)
    : (opened limit piece).split limit chunk
        =
      (((rawLines chunk).modifyHead (piece ++ ·)).filterMap (lineText? limit),
        opened limit
          (if rawLines chunk = [] then piece ++ lastPiece chunk else lastPiece chunk)) := by
  unfold split
  rw [cutLines_eq]
  simp only [completeAll_opened, List.reverse_nil, List.nil_append, Prod.mk.injEq, true_and]
  split
  . rw [hold_opened]
  . rw [← opened_nil limit, hold_opened, List.nil_append]

/--
What is carried after some octets from the start of a text.
-/
def after (limit : Nat) (octets : List UInt8) : LineCarry :=
  opened limit (lastPiece octets)

@[simp]
theorem after_nil (limit : Nat) : after limit [] = {} := rfl

theorem split_after_carry (limit : Nat) (octets chunk : List UInt8) :
    ((after limit octets).split limit chunk).2 = after limit (octets ++ chunk) := by
  unfold after
  rw [split_opened, lastPiece_append]

theorem completeLines_append (limit : Nat) (octets chunk : List UInt8)
    : completeLines limit (octets ++ chunk)
        =
      completeLines limit octets ++ ((after limit octets).split limit chunk).1 := by
  unfold after
  simp only [completeLines_eq_filterMap, rawLines_append, split_opened, List.filterMap_append]

end LineCarry

end WafWatch
