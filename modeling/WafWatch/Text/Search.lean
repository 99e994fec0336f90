import WafWatch.Text.Pattern

/-!
This module contains the search for a place where a pattern matches. All places of a text are judged at
once, from the end of the pattern to its start, so the time of a search is proportional to the length of
the text, however often the parts of the pattern occur. The main statement `foundIn_eq_any` says that the
search finds a pattern exactly if it matches at one of the places.
-/

namespace WafWatch.Text

namespace Pattern

def places (before : Option Char) (s : List Char) : List Place :=
  go [] before s
where
  go (done : List Place) (before : Option Char) : List Char → List Place
    | [] => (⟨before, []⟩ :: done).reverse
    | s@(c :: rest) => go (⟨before, s⟩ :: done) (some c) rest

/-! ### Judging all places at once -/

/--
The marks that are found `count` places further on; there are none beyond the end.
-/
def ahead (count : Nat) (good : List Bool) : List Bool :=
  good.drop count ++ List.replicate (min count good.length) false

/--
The places at which some characters stand in front of a good place.
-/
def markText (chars : List Char) (places : List Place) (good : List Bool) : List Bool :=
  List.zipWith (fun place next => chars.isPrefixOf place.after && next) places
    (ahead chars.length good)

/--
The places at which one allowed character stands in front of a good place.
-/
def markOne (allows : Char → Bool) (places : List Place) (good : List Bool) : List Bool :=
  List.zipWith (fun place next => place.after.head?.any allows && next) places (ahead 1 good)

/--
The places from which a good place is reached over any number of allowed characters.
-/
def markMany (allows : Char → Bool) (places : List Place) (good : List Bool) : List Bool :=
  (List.zip places good).foldr (fun (place, here) marks =>
    (here || (place.after.head?.any allows && marks.headD false)) :: marks) []

/--
The places at which a pattern matches so that a good place comes after it. The good places are given by
one mark for each place of the text.
-/
def marks (places : List Place) : Pattern → (good : List Bool) → List Bool
  | .text chars, good => markText chars places good
  | .one set, good => markOne set.has places good
  | .many set, good => markMany set.has places good
  | .seq p q, good => p.marks places (q.marks places good)
  | .either p q, good => List.zipWith or (p.marks places good) (q.marks places good)
  | .wordEdge, good => List.zipWith (fun place here => place.isWordEdge && here) places good
  | .atEnd, good => List.zipWith (fun place here => place.after.isEmpty && here) places good

def foundIn (p : Pattern) (s : List Char) : Bool :=
  let places := places none s
  (p.marks places (places.map fun _ => true)).any id

/-! ### The search is right -/

theorem places.go_eq (done : List Place) (before : Option Char) (s : List Char) :
    places.go done before s = done.reverse ++ places before s := by
  induction s generalizing done before with
  | nil => simp [places, places.go]
  | cons c rest ih =>
    rw [places, places.go, places.go, ih, ih [⟨before, c :: rest⟩]]
    simp

@[simp]
theorem places_nil (before : Option Char) : places before [] = [⟨before, []⟩] := rfl

@[simp]
theorem places_cons (before : Option Char) (c : Char) (rest : List Char) :
    places before (c :: rest) = ⟨before, c :: rest⟩ :: places (some c) rest := by
  rw [places, places.go, places.go_eq]
  simp

@[simp]
theorem length_places (before : Option Char) (s : List Char) :
    (places before s).length = s.length + 1 := by
  induction s generalizing before with
  | nil => rfl
  | cons c rest ih => simp [ih]

theorem places_eq_cons (before : Option Char) (s : List Char) :
    ∃ others, places before s = ⟨before, s⟩ :: others := by
  cases s <;> simp

theorem ahead_zero (good : List Bool) : ahead 0 good = good := by
  simp [ahead]

theorem getElem?_ahead (count : Nat) (good : List Bool) (i : Nat) :
    (ahead count good)[i]? =
      if i < good.length then some (good[i + count]?.getD false) else none := by
  simp only [ahead, List.getElem?_append, List.length_drop, List.getElem?_drop,
    List.getElem?_replicate]
  grind

theorem ahead_succ (count : Nat) (good : List Bool) :
    ahead (count + 1) good = ahead 1 (ahead count good) := by
  have length_ahead : (ahead count good).length = good.length := by simp [ahead]; omega
  apply List.ext_getElem?
  intro i
  simp only [getElem?_ahead, length_ahead]
  grind

theorem markOne_map (allows : Char → Bool) (next : Place → Bool) (before : Option Char)
    (s : List Char) :
    markOne allows (places before s) ((places before s).map next) =
      (places before s).map fun place =>
        match place.after with
        | [] => false
        | c :: rest => allows c && next ⟨some c, rest⟩ := by
  induction s generalizing before with
  | nil => simp [markOne, ahead]
  | cons c rest ih =>
    obtain ⟨others, h⟩ := places_eq_cons (some c) rest
    have ih := ih (some c)
    simp only [markOne, h] at ih
    simp only [markOne, places_cons, h]
    simpa [ahead] using ih

theorem markMany_map (set : CharSet) (next : Place → Bool) (before : Option Char)
    (s : List Char) :
    markMany set.has (places before s) ((places before s).map next) =
      (places before s).map fun place => matchMany set next place.before place.after := by
  induction s generalizing before with
  | nil => simp [markMany, matchMany]
  | cons c rest ih =>
    obtain ⟨others, h⟩ := places_eq_cons (some c) rest
    have ih := ih (some c)
    simp only [markMany] at ih
    simp only [markMany, places_cons, List.map_cons, List.zip_cons_cons, List.foldr_cons, ih]
    simp [matchMany, h]

theorem markText_cons (a : Char) (chars : List Char) (before : Option Char) (s : List Char)
    (good : List Bool) (h : good.length = s.length + 1) :
    markText (a :: chars) (places before s) good =
      markOne (· == a) (places before s) (markText chars (places before s) good) := by
  suffices shifted : ∀ (good : List Bool), good.length = s.length + 1 →
      List.zipWith (fun place next => (a :: chars).isPrefixOf place.after && next)
          (places before s) (ahead 1 good) =
        List.zipWith (fun place next => place.after.head?.any (· == a) && next) (places before s)
          (ahead 1 (List.zipWith (fun place next => chars.isPrefixOf place.after && next)
            (places before s) good)) by
    rw [markText, markOne, markText, List.length_cons, ahead_succ]
    exact shifted _ (by simp [ahead]; omega)
  clear h good
  induction s generalizing before with
  | nil =>
    intro good h
    match good with
    | [g] => simp [ahead]
  | cons c rest ih =>
    intro good h
    match good with
    | x :: y :: marks =>
      have ih := ih (some c) (y :: marks) (by simpa using h)
      obtain ⟨others, hplaces⟩ := places_eq_cons (some c) rest
      simp only [hplaces] at ih
      simp only [places_cons, hplaces]
      simp only [ahead, List.length_cons, List.length_zipWith, List.drop_succ_cons, List.drop_zero,
        List.zipWith_cons_cons] at ih ⊢
      refine List.cons_eq_cons.2 ⟨?_, by simpa using ih⟩
      simp [List.isPrefixOf, Bool.and_assoc, Bool.beq_comm]

theorem markText_map (chars : List Char) (next : Place → Bool) (before : Option Char)
    (s : List Char) :
    markText chars (places before s) ((places before s).map next) =
      (places before s).map fun place => matchText place.before next chars place.after := by
  induction chars with
  | nil => simp [markText, ahead_zero, matchText, List.zipWith_map_right]
  | cons a chars ih =>
    rw [markText_cons _ _ _ _ _ (by simp), ih, markOne_map]
    apply List.map_congr_left
    intro place _
    cases h : place.after with
    | nil => simp [matchText]
    | cons b after => simp [matchText, Bool.beq_comm]

theorem marks_map (p : Pattern) (next : Place → Bool) (before : Option Char) (s : List Char) :
    p.marks (places before s) ((places before s).map next) =
      (places before s).map (p.matchThen next) := by
  induction p generalizing next with
  | text chars => exact markText_map chars next before s
  | one set =>
    rw [marks, markOne_map]
    apply List.map_congr_left
    intro place _
    cases h : place.after <;> simp [matchThen, h]
  | many set => exact markMany_map set next before s
  | seq p q ihp ihq =>
    rw [marks, ihq, ihp]
    rfl
  | either p q ihp ihq =>
    rw [marks, ihp, ihq, List.zipWith_map, List.zipWith_self]
    rfl
  | wordEdge =>
    rw [marks, List.zipWith_map_right, List.zipWith_self]
    rfl
  | atEnd =>
    rw [marks, List.zipWith_map_right, List.zipWith_self]
    rfl

theorem foundIn_eq_any (p : Pattern) (s : List Char) :
    p.foundIn s = (places none s).any (p.matchThen fun _ => true) := by
  rw [foundIn, marks_map, List.any_map]
  rfl

end Pattern

end WafWatch.Text
