import Mathlib.Data.List.Infix
import Mathlib.Data.List.TakeWhile
import WafWatch.Net.Address
import WafWatch.Proofs.Text.Numeral

/-!
This module contains the agreement of the written form of addresses with their reading. Each reader takes what was
written for it and leaves what comes behind, whatever that is, as long as it cannot be taken for more of the same.
-/

namespace WafWatch.Net

open WafWatch.Text

variable {rest : List Char}

/-! ### Four octets -/

theorem readOctet_showNat {n : Nat} (h : n < 256) (hrest : EndsDigits rest) :
    readOctet (showNat n ++ rest) = some (UInt8.ofNat n, rest) := by
  have hdigits := isDigits_showNat n
  obtain ⟨htake, hdrop⟩ := takeWhile_digits hdigits.digit hrest
  have hlength : ¬3 < (showNat n).length := Nat.not_lt.mpr (length_showNat_le (by decide) (by omega))
  have hzero : ¬(1 < (showNat n).length ∧ (showNat n).head? = some '0') := by
    rintro ⟨hlong, hhead⟩
    by_cases hn : 0 < n
    . exact head?_showNat_ne_zero hn hhead
    . obtain rfl : n = 0 := by omega
      revert hlong
      decide
  have hvalue : ¬255 < n := by omega
  unfold readOctet
  dsimp only
  rw [htake, hdrop, ofDigits_showNat]
  simp [hdigits.ne_nil, hlength, hvalue, hzero]

theorem readOctet_cons {c : Char} (h : isAsciiDigit c = false) (rest : List Char) : readOctet (c :: rest) = none := by
  simp [readOctet, h]

theorem expect_cons (c : Char) (rest : List Char) : expect c (c :: rest) = some rest := by
  simp [expect]

theorem expect_eq_none {c : Char} {s : List Char} (h : s.head? ≠ some c) : expect c s = none := by
  cases s with
  | nil => rfl
  | cons d s => simpa [expect] using h

theorem renderOctets_append (a b c d : Nat) (rest : List Char)
    : renderOctets [a, b, c, d] ++ rest
        = showNat a ++ '.' :: (showNat b ++ '.' :: (showNat c ++ '.' :: (showNat d ++ rest))) := by
  simp [renderOctets, List.intercalate]

theorem readFour_renderOctets {a b c d : Nat} (ha : a < 256) (hb : b < 256) (hc : c < 256) (hd : d < 256)
    (hrest : EndsDigits rest)
    : readFour (renderOctets [a, b, c, d] ++ rest)
        = some (#v[UInt8.ofNat a, UInt8.ofNat b, UInt8.ofNat c, UInt8.ofNat d], rest) := by
  have hdot : ∀ more, EndsDigits ('.' :: more) := endsDigits_cons (by decide)
  rw [renderOctets_append]
  simp [readFour, readOctet_showNat, expect_cons, hdot, hrest, ha, hb, hc, hd]

/--
A text that does not start with a digit, or has no point behind its digits, does not start with four octets.
-/
theorem readFour_eq_none {s : List Char} (h : (s.dropWhile isAsciiDigit).head? ≠ some '.') : readFour s = none := by
  unfold readFour
  cases hoctet : readOctet s with
  | none => rfl
  | some found =>
    have hrest : found.2 = s.dropWhile isAsciiDigit := by
      unfold readOctet at hoctet
      dsimp only at hoctet
      split at hoctet
      . contradiction
      . rw [← Option.some.inj hoctet]
    simp [hrest, expect_eq_none h]

/-! ### Groups -/

/--
A group has come to its end, and cannot be taken for the first one of four octets either.
-/
structure EndsGroup (s : List Char) : Prop where
  digit : EndsHexDigits s
  point : s.head? ≠ some '.'

theorem endsGroup_colon (rest : List Char) : EndsGroup (':' :: rest) where
  digit := endsHexDigits_cons (by decide) rest
  point := by simp

/--
Nothing more of an address of the sixth version is read: neither does the text go on with a group, nor with a colon or a
point.
-/
structure EndsGroups (s : List Char) : Prop extends EndsGroup s where
  colon : s.head? ≠ some ':'

theorem endsGroups_cons {c : Char} (h : isHexDigit c = false ∧ c ≠ '.' ∧ c ≠ ':') (rest : List Char) :
    EndsGroups (c :: rest) where
  digit := endsHexDigits_cons h.1 rest
  point := by simpa using h.2.1
  colon := by simpa using h.2.2

theorem readGroup_toDigits {g : Nat} (h : g < 65536) (hrest : EndsHexDigits rest) :
    readGroup (Nat.toDigits 16 g ++ rest) = some (UInt16.ofNat g, rest) := by
  obtain ⟨htake, hdrop⟩ := takeWhile_append_ended (fun _ hc => isHexDigit_of_mem_toDigits hc) hrest
  have hlength : ¬4 < (Nat.toDigits 16 g).length :=
    Nat.not_lt.mpr ((Nat.length_toDigits_le_iff (by decide) (by decide)).mpr h)
  unfold readGroup
  dsimp only
  rw [htake, hdrop, ofDigitsIn_toDigits]
  simp [Nat.toDigits_ne_nil, hlength]

theorem readGroup_eq_none {s : List Char} (h : EndsHexDigits s) : readGroup s = none := by
  unfold readGroup
  dsimp only
  rw [h.takeWhile_eq]
  rfl

theorem head?_dropWhile_append {p : Char → Bool} {part : List Char} {c : Char}
    (h : c ∈ ((part ++ rest).dropWhile p).head?)
    : c ∈ part ∨ c ∈ (rest.dropWhile p).head? := by
  induction part with
  | nil => exact .inr h
  | cons d part ih =>
    rw [List.cons_append, List.dropWhile_cons] at h
    split at h
    . exact (ih h).imp_left (List.mem_cons_of_mem d)
    . obtain rfl : d = c := Option.some.inj h
      exact .inl List.mem_cons_self

/--
A group cannot be taken for the first one of four octets unless there is a point behind it.
-/
theorem readFour_hexDigits {digits : List Char} (hdigits : ∀ c ∈ digits, isHexDigit c = true) (hrest : EndsGroup rest) :
    readFour (digits ++ rest) = none := by
  apply readFour_eq_none
  intro hhead
  rcases head?_dropWhile_append hhead with hgroup | hlater
  . have hhex := hdigits '.' hgroup
    revert hhex
    decide
  . rw [hrest.digit.endsDigits.dropWhile_eq] at hlater
    exact hrest.point hlater

/--
The groups that are still to be read, with a colon before each unless it is the first one.
-/
def spellGroups (isFirst : Bool) : List Nat → List Char
  | [] => []
  | g :: groups => (if isFirst then [] else [':']) ++ Nat.toDigits 16 g ++ spellGroups false groups

theorem renderGroups_eq (groups : List Nat) : renderGroups groups = spellGroups true groups := by
  unfold renderGroups
  cases groups with
  | nil => rfl
  | cons g groups =>
    induction groups generalizing g with
    | nil => simp [spellGroups, List.intercalate]
    | cons g' groups ih =>
      have htail := ih g'
      simp only [List.map_cons, List.intercalate_cons_cons] at htail ⊢
      rw [htail]
      simp [spellGroups]

theorem endsGroup_spellGroups (groups : List Nat) (hrest : EndsGroup rest) :
    EndsGroup (spellGroups false groups ++ rest) := by
  cases groups with
  | nil => exact hrest
  | cons g groups => exact endsGroup_colon _

/--
No group is read, neither as such nor as the first one of two that are written as four octets.
-/
structure Stops (isFirst : Bool) (s : List Char) : Prop where
  noFour : (readSeparator isFirst s).bind readFour = none
  noGroup : (readSeparator isFirst s).bind readGroup = none

theorem EndsGroup.stops (h : EndsGroup rest) : Stops true rest where
  noFour := readFour_hexDigits (List.forall_mem_nil _) h
  noGroup := readGroup_eq_none h.digit

theorem EndsGroup.stops_colon (h : EndsGroup rest) : Stops false (':' :: rest) where
  noFour := readFour_hexDigits (List.forall_mem_nil _) h
  noGroup := readGroup_eq_none h.digit

theorem EndsGroups.stops (h : EndsGroups rest) (isFirst : Bool) : Stops isFirst rest := by
  have hcolon : expect ':' rest = none := expect_eq_none h.colon
  cases isFirst with
  | true => exact h.toEndsGroup.stops
  | false => constructor <;> simp [readSeparator, hcolon]

theorem Stops.readGroups_eq {isFirst : Bool} (h : Stops isFirst rest) (room : Nat) :
    readGroups rest isFirst room = ({}, rest) := by
  cases room with
  | zero => rfl
  | succ room =>
    unfold readGroups
    simp [h.noFour, h.noGroup]

/--
As many groups are read as were written, if there is room for them.
-/
theorem readGroups_spellGroups (isFirst : Bool) {groups : List Nat} (hgroups : ∀ g ∈ groups, g < 65536) {room : Nat}
    (hroom : groups.length ≤ room) (hrest : EndsGroup rest)
    (hstops : groups.length < room → Stops (isFirst && groups.isEmpty) rest)
    : readGroups (spellGroups isFirst groups ++ rest) isFirst room = ({ groups := groups.map UInt16.ofNat }, rest) := by
  induction groups generalizing isFirst room with
  | nil =>
    cases room with
    | zero => rfl
    | succ room =>
      have hnone := hstops (Nat.succ_pos room)
      rw [List.isEmpty_nil, Bool.and_true] at hnone
      exact hnone.readGroups_eq (room + 1)
  | cons g groups ih =>
    obtain ⟨room, rfl⟩ := Nat.exists_eq_add_one_of_ne_zero (Nat.ne_of_gt (Nat.lt_of_lt_of_le (Nat.succ_pos _) hroom))
    rw [List.forall_mem_cons] at hgroups
    have hnext := endsGroup_spellGroups groups hrest
    have hseparator : readSeparator isFirst (spellGroups isFirst (g :: groups) ++ rest)
        = some (Nat.toDigits 16 g ++ (spellGroups false groups ++ rest)) := by
      cases isFirst <;> simp [readSeparator, spellGroups, expect_cons]
    have hlater : readGroups (spellGroups false groups ++ rest) false room
        = ({ groups := groups.map UInt16.ofNat }, rest) := by
      apply ih false hgroups.2 (Nat.le_of_succ_le_succ hroom)
      intro hshort
      have hnone := hstops (Nat.succ_lt_succ hshort)
      rwa [List.isEmpty_cons, Bool.and_false] at hnone
    unfold readGroups
    simp [hseparator, readFour_hexDigits (fun _ => isHexDigit_of_mem_toDigits) hnext,
      readGroup_toDigits hgroups.1 hnext.digit, hlater]

/-! ### Groups that are left out -/

/--
A run of zeros among the groups before a place, as its own place and its length.
-/
structure IsZeroRun (groups : List Nat) (place : Nat) (run : Nat × Nat) : Prop where
  le : run.1 + run.2 ≤ place
  zero : ∀ i, run.1 ≤ i → i < run.1 + run.2 → groups[i]? = some 0

theorem isZeroRun_nothing (groups : List Nat) (place : Nat) : IsZeroRun groups place (0, 0) where
  le := Nat.zero_le _
  zero := fun i _ hi => absurd hi (Nat.not_lt_zero i)

variable {groups : List Nat} {place : Nat} {run : Nat × Nat}

theorem IsZeroRun.succ (h : IsZeroRun groups place run) : IsZeroRun groups (place + 1) run where
  le := Nat.le_succ_of_le h.le
  zero := h.zero

/--
A run that ends at a place where there is a zero goes on with it.
-/
theorem IsZeroRun.grow (h : IsZeroRun groups place run) (hends : run.1 + run.2 = place) (hzero : groups[place]? = some 0)
    : IsZeroRun groups (place + 1) (run.1, run.2 + 1) where
  le := by
    dsimp only
    omega
  zero := by
    intro i hfirst hlast
    dsimp only at hlast
    by_cases hi : i < run.1 + run.2
    . exact h.zero i hfirst hi
    . obtain rfl : i = place := by omega
      exact hzero

theorem isZeroRun_longestZeros {current longest : Nat × Nat} {behind : List Nat} (hbehind : groups.drop place = behind)
    (hplace : place ≤ groups.length) (hcurrent : IsZeroRun groups place current)
    (hends : current.2 = 0 ∨ current.1 + current.2 = place) (hlongest : IsZeroRun groups place longest)
    : IsZeroRun groups groups.length (longestZeros place current longest behind) := by
  induction behind generalizing place current longest with
  | nil =>
    have hend : place = groups.length := Nat.le_antisymm hplace (List.drop_eq_nil_iff.mp hbehind)
    exact hend ▸ hlongest
  | cons g behind ih =>
    have hhere : groups[place]? = some g := by
      rw [← List.head?_drop, hbehind]
      rfl
    have hlater : groups.drop (place + 1) = behind := by
      rw [← List.tail_drop, hbehind]
      rfl
    have hnext : place + 1 ≤ groups.length := (List.getElem?_eq_some_iff.mp hhere).1
    unfold longestZeros
    split
    . next hg =>
      subst hg
      -- a run that has ended is followed by one that begins here
      have hgrown : ∃ grown, (if current.2 = 0 then (place, 1) else (current.1, current.2 + 1)) = grown
          ∧ IsZeroRun groups (place + 1) grown ∧ grown.1 + grown.2 = place + 1 := by
        split
        . have hempty : IsZeroRun groups place (place, 0) :=
            ⟨Nat.le_refl _, fun i hfirst hlast => absurd hlast (Nat.not_lt.mpr hfirst)⟩
          exact ⟨_, rfl, hempty.grow rfl hhere, rfl⟩
        . next hlong =>
          have hplace := hends.resolve_left hlong
          exact ⟨_, rfl, hcurrent.grow hplace hhere, congrArg (· + 1) hplace⟩
      obtain ⟨grown, hcase, hgrown, hgrownEnds⟩ := hgrown
      dsimp only
      rw [hcase]
      apply ih hlater hnext hgrown (.inr hgrownEnds)
      split
      . exact hgrown
      . exact hlongest.succ
    . exact ih hlater hnext (isZeroRun_nothing _ _) (.inl rfl) hlongest.succ

theorem isZeroRun_longest (groups : List Nat) : IsZeroRun groups groups.length (longestZeros 0 (0, 0) (0, 0) groups) :=
  isZeroRun_longestZeros List.drop_zero (Nat.zero_le _) (isZeroRun_nothing _ _) (.inl rfl) (isZeroRun_nothing _ _)

/--
The groups before a run of zeros and those behind it are filled up to what they were.
-/
theorem fillGroups_around {groups : Vector UInt16 8} {run : Nat × Nat}
    (hrun : IsZeroRun (groups.toList.map UInt16.toNat) 8 run)
    : fillGroups (groups.toList.take run.1) (groups.toList.drop (run.1 + run.2)) = groups := by
  have hle := hrun.le
  apply Vector.ext
  intro i hi
  have hlength : 8 - (groups.toList.drop (run.1 + run.2)).length = run.1 + run.2 := by
    rw [List.length_drop, Vector.length_toList]
    omega
  have hhere : groups.toList[i]? = some groups[i] := by simp [hi]
  simp only [fillGroups, Vector.getElem_ofFn, hlength]
  split
  . next hbefore =>
    rw [List.getElem?_take]
    split
    . rw [hhere]
      rfl
    . next hrest =>
      have hzero := hrun.zero i (Nat.le_of_not_lt hrest) hbefore
      rw [List.getElem?_map, hhere] at hzero
      have hgroup : groups[i] = 0 := UInt16.toNat_inj.mp (Option.some.inj hzero)
      rw [hgroup]
      rfl
  . next hbehind =>
    have hindex : run.1 + run.2 + (i - (run.1 + run.2)) = i := by omega
    rw [List.getElem?_drop, hindex, hhere]
    rfl

/-! ### Eight groups -/

theorem readSix_whole {groups : List Nat} (hgroups : ∀ g ∈ groups, g < 65536) (hlength : groups.length = 8)
    (hrest : EndsGroups rest)
    : readSix (renderGroups groups ++ rest) = some (fillGroups (groups.map UInt16.ofNat) [], rest) := by
  have hfront := readGroups_spellGroups true hgroups (Nat.le_of_eq hlength) hrest.toEndsGroup
    (fun hshort => absurd hlength (Nat.ne_of_lt hshort))
  unfold readSix
  rw [renderGroups_eq, hfront]
  simp [hlength]

/--
Two colons stand for all groups between those before and those behind them, whichever way the latter are written.
-/
theorem readSix_gap {groups : List Nat} (hgroups : ∀ g ∈ groups, g < 65536) (hlength : groups.length < 8)
    {s : List Char} {back : Groups} (hback : readGroups s true (7 - groups.length) = (back, rest))
    : readSix (renderGroups groups ++ ':' :: ':' :: s) = some (fillGroups (groups.map UInt16.ofNat) back.groups, rest) := by
  have hstops : Stops (true && groups.isEmpty) (':' :: ':' :: s) := by
    cases groups with
    | nil => exact (endsGroup_colon (':' :: s)).stops
    | cons g groups => exact (endsGroup_colon s).stops_colon
  have hfront := readGroups_spellGroups true hgroups (Nat.le_of_lt hlength) (endsGroup_colon (':' :: s)) fun _ => hstops
  unfold readSix
  rw [renderGroups_eq, hfront]
  simp [Nat.ne_of_lt hlength, expect_cons, hback]

theorem readGroups_renderOctets {a b c d : Nat} (ha : a < 256) (hb : b < 256) (hc : c < 256) (hd : d < 256)
    (hrest : EndsDigits rest) (room : Nat)
    : readGroups (':' :: (renderOctets [a, b, c, d] ++ rest)) false (room + 2)
        =
      ({ groups := [joinOctets (UInt8.ofNat a) (UInt8.ofNat b), joinOctets (UInt8.ofNat c) (UInt8.ofNat d)]
         endsInOctets := true }, rest) := by
  unfold readGroups
  simp [readSeparator, expect_cons, readFour_renderOctets ha hb hc hd hrest]

theorem joinOctets_split (n : Nat) :
    joinOctets (UInt8.ofNat (n / 256)) (UInt8.ofNat (n % 256)) = UInt16.ofNat n := by
  apply UInt16.toNat_inj.mp
  simp [joinOctets]
  omega

/--
An embedded address of the fourth version is read as the two groups that it stands for.
-/
theorem readGroups_embedded {high low : Nat} (hhigh : high < 65536) (hlow : low < 65536) (hrest : EndsDigits rest)
    : readGroups ("ffff:".toList ++ renderOctets [high / 256, high % 256, low / 256, low % 256] ++ rest) true 7
        = ({ groups := [0xffff, UInt16.ofNat high, UInt16.ofNat low], endsInOctets := true }, rest) := by
  have hoctets := readGroups_renderOctets (a := high / 256) (b := high % 256) (c := low / 256) (d := low % 256)
    (by omega) (by omega) (by omega) (by omega) hrest 4
  rw [joinOctets_split, joinOctets_split] at hoctets
  have hcolon := endsGroup_colon (renderOctets [high / 256, high % 256, low / 256, low % 256] ++ rest)
  have hhex : ∀ c ∈ Nat.toDigits 16 0xffff, isHexDigit c = true := fun _ => isHexDigit_of_mem_toDigits
  have hfour := readFour_hexDigits hhex hcolon
  have hgroup := readGroup_toDigits (g := 0xffff) (by decide) hcolon.digit
  have hdigits : "ffff:".toList = Nat.toDigits 16 0xffff ++ [':'] := by decide
  rw [hdigits, List.append_assoc, List.append_assoc, List.singleton_append]
  unfold readGroups
  simp [readSeparator, hfour, hgroup, hoctets]

/--
An address of the fourth version among the groups stands behind five zeros.
-/
theorem isZeroRun_mapped (high low : Nat) : IsZeroRun [0, 0, 0, 0, 0, 0xffff, high, low] 8 (0, 5) where
  le := by decide
  zero := by
    intro i _ hi
    match i with
    | 0 | 1 | 2 | 3 | 4 => rfl

variable {groups : Vector UInt16 8}

theorem lt_of_mem_toNat {part : List UInt16} : ∀ g ∈ part.map UInt16.toNat, g < 65536 := by
  intro g hg
  obtain ⟨group, -, rfl⟩ := List.mem_map.mp hg
  exact group.toNat_lt

theorem map_ofNat_toNat (part : List UInt16) : (part.map UInt16.toNat).map UInt16.ofNat = part := by
  simp [Function.comp_def]

/--
Leaving out a run of zeros loses nothing.
-/
theorem readSix_around {run : Nat × Nat} (hrun : IsZeroRun (groups.toList.map UInt16.toNat) 8 run) (hlong : 0 < run.2)
    {s : List Char} {back : Groups} (hback : readGroups s true (7 - run.1) = (back, rest))
    (hgroups : back.groups = groups.toList.drop (run.1 + run.2))
    : readSix (renderGroups ((groups.toList.map UInt16.toNat).take run.1) ++ ':' :: ':' :: s) = some (groups, rest) := by
  have hle := hrun.le
  have hlength : ((groups.toList.take run.1).map UInt16.toNat).length = run.1 := by
    rw [List.length_map, List.length_take, Vector.length_toList]
    omega
  rw [← List.map_take, readSix_gap lt_of_mem_toNat (by omega) (hlength.symm ▸ hback), hgroups, map_ofNat_toNat,
    fillGroups_around hrun]

theorem readGroups_renderGroups {part : List UInt16} {room : Nat} (hroom : part.length ≤ room) (hrest : EndsGroups rest) :
    readGroups (renderGroups (part.map UInt16.toNat) ++ rest) true room = ({ groups := part }, rest) := by
  have hlength : (part.map UInt16.toNat).length ≤ room := by rwa [List.length_map]
  rw [renderGroups_eq,
    readGroups_spellGroups true lt_of_mem_toNat hlength hrest.toEndsGroup (fun _ => hrest.stops _), map_ofNat_toNat]

theorem fillGroups_toList (groups : Vector UInt16 8) : fillGroups groups.toList [] = groups := by
  have hnone : IsZeroRun (groups.toList.map UInt16.toNat) 8 (8, 0) :=
    ⟨Nat.le_refl 8, fun i hfirst hlast => absurd hlast (Nat.not_lt.mpr hfirst)⟩
  have htake : groups.toList.take 8 = groups.toList := List.take_of_length_le (by simp)
  have hdrop : groups.toList.drop 8 = [] := List.drop_of_length_le (by simp)
  have hfill := fillGroups_around hnone
  rwa [Nat.add_zero, htake, hdrop] at hfill

/--
What is written for an address of the sixth version is read as that address.
-/
theorem readSix_renderSix (groups : Vector UInt16 8) (hrest : EndsGroups rest) :
    readSix (renderSix (groups.toList.map UInt16.toNat) ++ rest) = some (groups, rest) := by
  unfold renderSix
  split
  . next high low hmapped =>
    have hgroups : groups.toList = [0, 0, 0, 0, 0, 0xffff, UInt16.ofNat high, UInt16.ofNat low] := by
      rw [← map_ofNat_toNat groups.toList, hmapped]
      rfl
    have hall : ∀ g ∈ groups.toList.map UInt16.toNat, g < 65536 := lt_of_mem_toNat
    rw [hmapped] at hall
    have hembedded := readGroups_embedded (hall high (by simp)) (hall low (by simp)) hrest.digit.endsDigits
    exact readSix_around (hmapped ▸ isZeroRun_mapped high low) (by decide) hembedded (hgroups ▸ rfl)
  . have hrun := isZeroRun_longest (groups.toList.map UInt16.toNat)
    rw [List.length_map, Vector.length_toList] at hrun
    dsimp only
    generalize longestZeros 0 (0, 0) (0, 0) (groups.toList.map UInt16.toNat) = run at hrun ⊢
    split
    . next hlong =>
      have hroom : (groups.toList.drop (run.1 + run.2)).length ≤ 7 - run.1 := by
        rw [List.length_drop, Vector.length_toList]
        omega
      have hback := readGroups_renderGroups hroom hrest
      rw [List.map_drop] at hback
      rw [List.append_assoc, List.append_assoc]
      exact readSix_around hrun (Nat.lt_of_succ_lt hlong) hback rfl
    . rw [readSix_whole lt_of_mem_toNat (by simp) hrest, map_ofNat_toNat, fillGroups_toList]

/-! ### Sockets -/

theorem readFour_render (octets : Vector UInt8 4) (hrest : EndsDigits rest) :
    readFour ((IpAddress.v4 octets).render ++ rest) = some (octets, rest) := by
  match octets with
  | ⟨⟨[a, b, c, d]⟩, _⟩ =>
    have hread := readFour_renderOctets a.toNat_lt b.toNat_lt c.toNat_lt d.toNat_lt hrest
    simp only [UInt8.ofNat_toNat] at hread
    exact hread

theorem readBounded_showNat {limit n : Nat} (h : n ≤ limit) (hrest : EndsDigits rest) :
    readBounded limit (showNat n ++ rest) = some (n, rest) := by
  have hdigits := isDigits_showNat n
  obtain ⟨htake, hdrop⟩ := takeWhile_digits hdigits.digit hrest
  unfold readBounded
  dsimp only
  rw [htake, hdrop, ofDigits_showNat]
  simp [hdigits.ne_nil, Nat.not_lt.mpr h]

theorem readPort_showNat (port : UInt16) : readPort (':' :: showNat port.toNat) = some (port, []) := by
  have hends : EndsDigits [] := nofun
  have hread := readBounded_showNat (Nat.le_of_lt_succ port.toNat_lt) hends
  rw [List.append_nil] at hread
  simp [readPort, expect_cons, hread]

def scopeText (scope : UInt32) : List Char :=
  if scope = 0 then [] else '%' :: showNat scope.toNat

theorem readScope_scopeText (scope : UInt32) (rest : List Char) :
    readScope (scopeText scope ++ ']' :: rest) = (scope, ']' :: rest) := by
  unfold scopeText
  split
  . next hscope =>
    subst hscope
    rfl
  . have hbound : scope.toNat ≤ UInt32.size - 1 := Nat.le_pred_of_lt scope.toNat_lt
    have hread := readBounded_showNat hbound (endsDigits_cons (c := ']') (by decide) rest)
    simp only [readScope, List.cons_append, expect_cons, Option.bind_some, hread, UInt32.ofNat_toNat]

theorem endsGroups_scopeText (scope : UInt32) (rest : List Char) : EndsGroups (scopeText scope ++ ']' :: rest) := by
  unfold scopeText
  split
  . exact endsGroups_cons (by decide) _
  . exact endsGroups_cons (by decide) _

theorem read?_render_v4 (octets : Vector UInt8 4) (port : UInt16) :
    SocketAddress.read? ({ ip := .v4 octets, port } : SocketAddress).render = some { ip := .v4 octets, port } := by
  have hfour := readFour_render octets (endsDigits_cons (c := ':') (by decide) (showNat port.toNat))
  simp [SocketAddress.read?, SocketAddress.render, readSocketFour, hfour, readPort_showNat]

theorem read?_render_v6 (groups : Vector UInt16 8) (scope : UInt32) (port : UInt16) :
    SocketAddress.read? ({ ip := .v6 groups, scope, port } : SocketAddress).render
      = some { ip := .v6 groups, scope, port } := by
  have hsix := readSix_renderSix groups (endsGroups_scopeText scope (':' :: showNat port.toNat))
  have htext : ({ ip := .v6 groups, scope, port } : SocketAddress).render
      = '[' :: (renderSix (groups.toList.map UInt16.toNat) ++ (scopeText scope ++ ']' :: ':' :: showNat port.toNat)) := by
    simp [SocketAddress.render, IpAddress.render, scopeText]
  have hfour : ∀ more, readFour ('[' :: more) = none := fun more => by
    simp [readFour, readOctet_cons (c := '[') (by decide)]
  rw [htext]
  simp [SocketAddress.read?, readSocketFour, readSocketSix, expect_cons, hfour, hsix, readScope_scopeText,
    readPort_showNat]

/--
What is written for the address of a socket is read as that address. There are no scopes in the fourth version.
-/
theorem read?_render {address : SocketAddress} (h : ∀ octets, address.ip = .v4 octets → address.scope = 0) :
    SocketAddress.read? address.render = some address := by
  obtain ⟨ip, scope, port⟩ := address
  cases ip with
  | v4 octets =>
    obtain rfl : scope = 0 := h octets rfl
    exact read?_render_v4 octets port
  | v6 groups => exact read?_render_v6 groups scope port

/-! ### Colons -/

theorem spellGroups_false_colon (groups : List Nat) (rest : List Char) :
    ∃ more, spellGroups false groups ++ ':' :: rest = ':' :: more := by
  cases groups with
  | nil => exact ⟨rest, rfl⟩
  | cons g groups => exact ⟨_, by simp only [spellGroups]; rfl⟩

/--
There are none but hexadecimal digits before the first one of the colons that are written.
-/
theorem renderGroups_colon (groups : List Nat) (rest : List Char) :
    ∃ digits more, (∀ c ∈ digits, isHexDigit c = true) ∧ renderGroups groups ++ ':' :: rest = digits ++ ':' :: more := by
  rw [renderGroups_eq]
  cases groups with
  | nil => exact ⟨[], rest, List.forall_mem_nil _, rfl⟩
  | cons g groups =>
    obtain ⟨more, hmore⟩ := spellGroups_false_colon groups rest
    refine ⟨Nat.toDigits 16 g, more, fun _ => isHexDigit_of_mem_toDigits, ?_⟩
    simp [spellGroups, hmore]

theorem renderSix_colon (groups : List Nat) (rest : List Char) :
    ∃ digits more, (∀ c ∈ digits, isHexDigit c = true) ∧ renderSix groups ++ ':' :: rest = digits ++ ':' :: more := by
  unfold renderSix
  split
  . exact ⟨[], _, List.forall_mem_nil _, rfl⟩
  . dsimp only
    split
    . rw [List.append_assoc, List.append_assoc]
      exact renderGroups_colon _ _
    . exact renderGroups_colon _ _

/--
Without its brackets an address of the sixth version cannot be told from the port behind it, and is not read at all.
-/
theorem read?_renderSix_eq_none (groups : List Nat) (rest : List Char) :
    SocketAddress.read? (renderSix groups ++ ':' :: rest) = none := by
  obtain ⟨digits, more, hdigits, htext⟩ := renderSix_colon groups rest
  rw [htext]
  have hfour : readFour (digits ++ ':' :: more) = none :=
    readFour_hexDigits hdigits (endsGroup_colon more)
  have hsix : expect '[' (digits ++ ':' :: more) = none := by
    apply expect_eq_none
    cases digits with
    | nil => simp
    | cons c digits =>
      intro hhead
      obtain rfl : c = '[' := Option.some.inj hhead
      have hhex := hdigits '[' List.mem_cons_self
      revert hhex
      decide
  simp [SocketAddress.read?, readSocketFour, readSocketSix, hfour, hsix]

/-! ### What has been read -/

variable {s : List Char}

theorem expect_eq_some {c : Char} (h : expect c s = some rest) : s = c :: rest := by
  cases s with
  | nil => contradiction
  | cons d s =>
    simp only [expect, Option.ite_none_right_eq_some, Option.some.injEq] at h
    rw [h.1, h.2]

theorem suffix_of_expect {c : Char} (h : expect c s = some rest) : rest <:+ s :=
  expect_eq_some h ▸ List.suffix_cons c rest

/--
What a reader leaves is the end of what it was given.
-/
def LeavesSuffix {α : Type} (read : List Char → Option (α × List Char)) : Prop :=
  ∀ s value rest, read s = some (value, rest) → rest <:+ s

theorem suffix_of_taken {α : Type} {refused : Prop} [Decidable refused] {p : Char → Bool} {taken value : α}
    (h : (if refused then none else some (taken, s.dropWhile p)) = some (value, rest))
    : rest <:+ s := by
  split at h
  . contradiction
  . cases h
    exact List.dropWhile_suffix _

theorem leavesSuffix_readOctet : LeavesSuffix readOctet :=
  fun _ _ _ h => suffix_of_taken h

theorem leavesSuffix_readFour : LeavesSuffix readFour := by
  intro s octets rest h
  simp only [readFour, Option.bind_eq_bind, Option.bind_eq_some_iff, Prod.exists, Option.pure_def, Option.some.injEq,
    Prod.mk.injEq] at h
  obtain ⟨a, s₁, ha, t₁, hdot₁, b, s₂, hb, t₂, hdot₂, c, s₃, hc, t₃, hdot₃, d, s₄, hd, -, rfl⟩ := h
  calc s₄ <:+ t₃ := leavesSuffix_readOctet _ _ _ hd
    _ <:+ s₃ := suffix_of_expect hdot₃
    _ <:+ t₂ := leavesSuffix_readOctet _ _ _ hc
    _ <:+ s₂ := suffix_of_expect hdot₂
    _ <:+ t₁ := leavesSuffix_readOctet _ _ _ hb
    _ <:+ s₁ := suffix_of_expect hdot₁
    _ <:+ s := leavesSuffix_readOctet _ _ _ ha

theorem leavesSuffix_readGroup : LeavesSuffix readGroup :=
  fun _ _ _ h => suffix_of_taken h

theorem LeavesSuffix.separated {α : Type} {read : List Char → Option (α × List Char)} (hread : LeavesSuffix read)
    {isFirst : Bool} {value : α} (h : (readSeparator isFirst s).bind read = some (value, rest))
    : rest <:+ s := by
  obtain ⟨t, hseparator, ht⟩ := Option.bind_eq_some_iff.mp h
  have hsuffix := hread t value rest ht
  unfold readSeparator at hseparator
  split at hseparator
  . exact Option.some.inj hseparator ▸ hsuffix
  . exact hsuffix.trans (suffix_of_expect hseparator)

theorem suffix_of_readGroups (s : List Char) (isFirst : Bool) (room : Nat) : (readGroups s isFirst room).2 <:+ s := by
  induction room generalizing s isFirst with
  | zero => exact List.suffix_rfl
  | succ room ih =>
    unfold readGroups
    dsimp only
    split
    . next hfour =>
      split at hfour
      . contradiction
      . exact leavesSuffix_readFour.separated hfour
    . split
      . exact List.suffix_rfl
      . next hgroup => exact (ih _ _).trans (leavesSuffix_readGroup.separated hgroup)

theorem leavesSuffix_readSix : LeavesSuffix readSix := by
  intro s groups rest h
  unfold readSix at h
  have hfront := suffix_of_readGroups s true 8
  generalize readGroups s true 8 = front at h hfront
  obtain ⟨front, s₁⟩ := front
  dsimp only at h
  split at h
  . cases h
    exact hfront
  . split at h
    . contradiction
    . simp only [Option.bind_eq_bind, Option.bind_eq_some_iff, Option.pure_def, Option.some.injEq, Prod.mk.injEq] at h
      obtain ⟨s₂, hcolon, s₃, hcolon', -, rfl⟩ := h
      calc (readGroups s₃ true (7 - front.groups.length)).2
        _ <:+ s₃ := suffix_of_readGroups _ _ _
        _ <:+ s₂ := suffix_of_expect hcolon'
        _ <:+ s₁ := suffix_of_expect hcolon
        _ <:+ s := hfront

theorem leavesSuffix_readBounded (limit : Nat) : LeavesSuffix (readBounded limit) :=
  fun _ _ _ h => suffix_of_taken h

theorem suffix_of_readScope (s : List Char) : (readScope s).2 <:+ s := by
  unfold readScope
  split
  . next h =>
    obtain ⟨t, hpercent, ht⟩ := Option.bind_eq_some_iff.mp h
    exact (leavesSuffix_readBounded _ _ _ _ ht).trans (suffix_of_expect hpercent)
  . exact List.suffix_rfl

/--
A port is what the text ends with: a colon and digits.
-/
theorem readPort_eq_some {port : UInt16} (h : readPort s = some (port, [])) :
    ∃ digits, s = ':' :: digits ∧ IsDigits digits ∧ port.toNat = ofDigits digits := by
  simp only [readPort, Option.bind_eq_bind, Option.bind_eq_some_iff, Prod.exists, Option.pure_def, Option.some.injEq,
    Prod.mk.injEq] at h
  obtain ⟨t, hcolon, n, -, hread, rfl, rfl⟩ := h
  unfold readBounded at hread
  dsimp only at hread
  split at hread
  . contradiction
  . next hbound =>
    rw [Bool.or_eq_true, not_or, decide_eq_true_eq, Nat.not_lt, Bool.not_eq_true] at hbound
    simp only [Option.some.injEq, Prod.mk.injEq] at hread
    obtain ⟨rfl, hend⟩ := hread
    have hall : t.takeWhile isAsciiDigit = t := by
      simpa [hend] using List.takeWhile_append_dropWhile (p := isAsciiDigit) (l := t)
    rw [hall] at hbound ⊢
    have hdigits : IsDigits t := ⟨List.isEmpty_eq_false_iff.mp hbound.1, List.takeWhile_eq_self_iff.mp hall⟩
    exact ⟨t, expect_eq_some hcolon, hdigits, UInt16.toNat_ofNat_of_lt (Nat.lt_succ_of_le hbound.2)⟩

/--
Whatever address has been read, the text ends with its port.
-/
theorem port_of_read? {address : SocketAddress} (h : SocketAddress.read? s = some address) :
    ∃ digits, ':' :: digits <:+ s ∧ IsDigits digits ∧ address.port.toNat = ofDigits digits := by
  have hsome : (readSocketFour s <|> readSocketSix s) = some (address, []) := by
    unfold SocketAddress.read? at h
    split at h
    . next hread =>
      cases h
      exact hread
    . contradiction
  have hports : ∃ t, t <:+ s ∧ readPort t = some (address.port, []) := by
    rw [Option.orElse_eq_orElse, Option.orElse_eq_or] at hsome
    rcases Option.or_eq_some_iff.mp hsome with hfour | ⟨-, hsix⟩
    . simp only [readSocketFour, Option.bind_eq_bind, Option.bind_eq_some_iff, Prod.exists, Option.pure_def,
        Option.some.injEq, Prod.mk.injEq] at hfour
      obtain ⟨octets, t, hoctets, port, rest, hport, rfl, rfl⟩ := hfour
      exact ⟨t, leavesSuffix_readFour _ _ _ hoctets, hport⟩
    . simp only [readSocketSix, Option.bind_eq_bind, Option.bind_eq_some_iff, Prod.exists, Option.pure_def,
        Option.some.injEq, Prod.mk.injEq] at hsix
      obtain ⟨s₁, hopen, groups, s₂, hgroups, s₃, hclose, port, rest, hport, rfl, rfl⟩ := hsix
      refine ⟨s₃, ?_, hport⟩
      calc s₃ <:+ (readScope s₂).2 := suffix_of_expect hclose
        _ <:+ s₂ := suffix_of_readScope s₂
        _ <:+ s₁ := leavesSuffix_readSix _ _ _ hgroups
        _ <:+ s := suffix_of_expect hopen
  obtain ⟨t, hsuffix, hport⟩ := hports
  obtain ⟨digits, rfl, hdigits, hvalue⟩ := readPort_eq_some hport
  exact ⟨digits, hsuffix, hdigits, hvalue⟩

theorem eq_of_colon_suffix_colon {digits more : List Char} (hdigits : IsDigits digits)
    (h : ':' :: more <:+ ':' :: digits)
    : more = digits := by
  rcases List.suffix_cons_iff.mp h with heq | hinside
  . exact List.tail_eq_of_cons_eq heq
  . exact absurd (hdigits.digit ':' (hinside.mem List.mem_cons_self)) (by decide)

/--
A text ends in no more than one way with a colon and digits.
-/
theorem eq_of_colon_suffix {digits digits' : List Char} (h : ':' :: digits <:+ s) (h' : ':' :: digits' <:+ s)
    (hdigits : IsDigits digits) (hdigits' : IsDigits digits')
    : digits = digits' := by
  rcases List.suffix_or_suffix_of_suffix h h' with hshort | hshort
  . exact eq_of_colon_suffix_colon hdigits' hshort
  . exact (eq_of_colon_suffix_colon hdigits hshort).symm

end WafWatch.Net
