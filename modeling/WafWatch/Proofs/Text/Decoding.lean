import WafWatch.Proofs.Text.Utf8

/-!
This module contains what the reading of octets as text does with each of them. The octets are cut into pieces, each of
which is the encoding of one character or at most three octets that are replaced. A character of ASCII is a piece of
its own, so that octets may be cut before and behind it.
-/

namespace WafWatch.Text

/-! ### One unit -/

/--
What a unit may have been read from.
-/
inductive UnitOf : Option Char → List UInt8 → Prop
  | character (c : Char) : UnitOf (some c) (String.utf8EncodeChar c)
  | broken {piece : List UInt8} (hne : piece ≠ []) (hshort : piece.length ≤ 3) (hhigh : ∀ b ∈ piece, 0x80 ≤ b) :
    UnitOf none piece

theorem UnitOf.eq_utf8EncodeChar {c : Char} {piece : List UInt8} (h : UnitOf (some c) piece) :
    piece = String.utf8EncodeChar c := by
  cases h with
  | character => rfl

theorem isContinuation_iff {b : UInt8} : isContinuation b = true ↔ 0x80 ≤ b.toNat ∧ b.toNat ≤ 0xbf := by
  simp [isContinuation, UInt8.le_iff_toNat_le]

/--
The second octets of the characters with more than one octet, by their first octets.
-/
theorem secondOctet_eq_some {lead low high : UInt8} {more : Nat} (h : secondOctet lead = some (low, high, more))
    : 0x80 ≤ low.toNat ∧ high.toNat ≤ 0xbf
        ∧ (more = 0 ∧ 0xc2 ≤ lead.toNat ∧ lead.toNat ≤ 0xdf
          ∨ more = 1 ∧ 0xe0 ≤ lead.toNat ∧ lead.toNat ≤ 0xef
            ∧ (lead.toNat = 0xe0 → 0xa0 ≤ low.toNat) ∧ (lead.toNat = 0xed → high.toNat ≤ 0x9f)
          ∨ more = 2 ∧ 0xf0 ≤ lead.toNat ∧ lead.toNat ≤ 0xf4
            ∧ (lead.toNat = 0xf0 → 0x90 ≤ low.toNat) ∧ (lead.toNat = 0xf4 → high.toNat ≤ 0x8f)) := by
  unfold secondOctet at h
  simp only [Bool.and_eq_true, decide_eq_true_eq, beq_iff_eq, UInt8.le_iff_toNat_le, ← UInt8.toNat_inj] at h
  split_ifs at h
  all_goals
    simp only [Option.some.injEq, Prod.mk.injEq] at h
    obtain ⟨rfl, rfl, rfl⟩ := h
    simp only [UInt8.reduceToNat, true_and] at *
    omega

/--
The code point that continuation octets complete.
-/
def codeOf (bits : Nat) (octets : List UInt8) : Nat :=
  octets.foldl (fun bits b => bits * 0x40 + b.toNat % 0x40) bits

theorem readContinuations_cases (bits more : Nat) (octets : List UInt8)
    : ∃ piece, (∀ b ∈ piece, isContinuation b = true)
        ∧ octets = piece ++ (readContinuations bits more octets).2
        ∧ ((readContinuations bits more octets).1 = some (codeOf bits piece) ∧ piece.length = more
          ∨ (readContinuations bits more octets).1 = none ∧ piece.length < more) := by
  fun_induction readContinuations bits more octets with
  | case1 bits rest => exact ⟨[], by simp [codeOf]⟩
  | case2 bits more => exact ⟨[], by simp⟩
  | case3 bits more b rest hb ih =>
    obtain ⟨piece, hpiece, hoctets, houtcome⟩ := ih
    refine ⟨b :: piece, ?_, ?_, ?_⟩
    . exact List.forall_mem_cons.mpr ⟨hb, hpiece⟩
    . exact congrArg (b :: ·) hoctets
    . simpa [codeOf] using houtcome
  | case4 bits more b rest hb => exact ⟨[], by simp⟩

theorem utf8EncodeChar_codeOf {lead second low high : UInt8} {piece : List UInt8}
    (hlead : secondOctet lead = some (low, high, piece.length)) (hlow : low ≤ second) (hhigh : second ≤ high)
    (hpiece : ∀ b ∈ piece, isContinuation b = true)
    : String.utf8EncodeChar
          (Char.ofNat (codeOf (leadBits lead piece.length * 0x40 + second.toNat % 0x40) piece))
        = lead :: second :: piece := by
  obtain ⟨hleast, hgreatest, hkind⟩ := secondOctet_eq_some hlead
  rw [UInt8.le_iff_toNat_le] at hlow hhigh
  have hoctet {m : Nat} {b : UInt8} (h : m = b.toNat) : UInt8.ofNat m = b := by
    rw [h, UInt8.ofNat_toNat]
  unfold String.utf8EncodeChar
  match piece with
  | [] =>
    generalize hcode : codeOf (leadBits lead [].length * 0x40 + second.toNat % 0x40) [] = code
    have hcode : code = lead.toNat % 0x20 * 0x40 + second.toNat % 0x40 := hcode.symm
    have hvalue : (Char.ofNat code).val.toNat = code := toNat_ofNat_of_lt (by simp at hkind; omega)
    simp only [List.length_nil] at hkind
    dsimp only
    rw [hvalue, if_neg (by omega), if_pos (by omega), hoctet (b := lead) (by omega), hoctet (b := second) (by omega)]
  | [third] =>
    have hthird := isContinuation_iff.mp (hpiece third (by simp))
    generalize hcode : codeOf (leadBits lead [third].length * 0x40 + second.toNat % 0x40) [third] = code
    have hcode : code = (lead.toNat % 0x10 * 0x40 + second.toNat % 0x40) * 0x40 + third.toNat % 0x40 := hcode.symm
    simp only [List.length_cons, List.length_nil] at hkind
    have hvalue : (Char.ofNat code).val.toNat = code := toNat_ofNat_of_lt (by omega)
    dsimp only
    rw [hvalue, if_neg (by omega), if_neg (by omega), if_pos (by omega), hoctet (b := lead) (by omega),
      hoctet (b := second) (by omega), hoctet (b := third) (by omega)]
  | [third, fourth] =>
    have hthird := isContinuation_iff.mp (hpiece third (by simp))
    have hfourth := isContinuation_iff.mp (hpiece fourth (by simp))
    generalize hcode : codeOf (leadBits lead [third, fourth].length * 0x40 + second.toNat % 0x40) [third, fourth] = code
    have hcode : code = ((lead.toNat % 0x08 * 0x40 + second.toNat % 0x40) * 0x40 + third.toNat % 0x40) * 0x40
        + fourth.toNat % 0x40 := hcode.symm
    simp only [List.length_cons, List.length_nil] at hkind
    have hvalue : (Char.ofNat code).val.toNat = code := toNat_ofNat_of_lt (by omega)
    dsimp only
    rw [hvalue, if_neg (by omega), if_neg (by omega), if_neg (by omega), hoctet (b := lead) (by omega),
      hoctet (b := second) (by omega), hoctet (b := third) (by omega), hoctet (b := fourth) (by omega)]
  | _ :: _ :: _ :: _ =>
    simp only [List.length_cons] at hkind
    omega

theorem utf8EncodeChar_ofNat_toNat {b : UInt8} (h : b < 0x80) :
    String.utf8EncodeChar (Char.ofNat b.toNat) = [b] := by
  rw [UInt8.lt_iff_toNat_lt] at h
  have hb : b.toNat < 0x80 := h
  have hvalue : (Char.ofNat b.toNat).val.toNat = b.toNat := toNat_ofNat_of_lt (by omega)
  unfold String.utf8EncodeChar
  dsimp only
  rw [hvalue, if_pos (by omega), UInt8.ofNat_toNat]

/--
Reading a unit takes its piece from the front of the octets.
-/
theorem readUnit_cases (lead : UInt8) (octets : List UInt8)
    : ∃ piece, UnitOf (readUnit lead octets).1 piece ∧ lead :: octets = piece ++ (readUnit lead octets).2 := by
  unfold readUnit
  split
  . next hascii =>
    refine ⟨[lead], ?_, rfl⟩
    rw [← utf8EncodeChar_ofNat_toNat hascii]
    apply UnitOf.character
  next hlead =>
    have hlead : 0x80 ≤ lead := UInt8.not_lt.mp hlead
    have halone : UnitOf none [lead] := .broken (by simp) (by simp) (by simpa using hlead)
    split
    . next low high more second rest hsecond =>
      split
      . next hrange =>
        simp only [Bool.and_eq_true, decide_eq_true_eq] at hrange
        obtain ⟨hleast, hgreatest, hkind⟩ := secondOctet_eq_some hsecond
        obtain ⟨piece, hpiece, hrest, houtcome⟩ :=
          readContinuations_cases (leadBits lead more * 0x40 + second.toNat % 0x40) more rest
        refine ⟨lead :: second :: piece, ?_, congrArg (lead :: second :: ·) hrest⟩
        rcases houtcome with ⟨hcode, hlength⟩ | ⟨hnone, hlength⟩
        . subst hlength
          dsimp only
          rw [hcode, ← utf8EncodeChar_codeOf hsecond hrange.1 hrange.2 hpiece]
          apply UnitOf.character
        . dsimp only
          rw [hnone]
          apply UnitOf.broken
          . simp
          . simp only [List.length_cons]
            omega
          . have hcontinues : ∀ b ∈ piece, 0x80 ≤ b := fun b hb => (isContinuation_iff.mp (hpiece b hb)).1
            have hsecond : 0x80 ≤ second := Nat.le_trans hleast hrange.1
            exact List.forall_mem_cons.mpr ⟨hlead, List.forall_mem_cons.mpr ⟨hsecond, hcontinues⟩⟩
      . exact ⟨[lead], halone, rfl⟩
    . exact ⟨[lead], halone, rfl⟩

/-! ### All units -/

theorem octets_induction {motive : List UInt8 → Prop} (nil : motive [])
    (unit : ∀ lead rest, motive (readUnit lead rest).2 → motive (lead :: rest)) (octets : List UInt8)
    : motive octets := by
  match octets with
  | [] => exact nil
  | lead :: rest =>
    apply unit
    apply octets_induction nil unit
termination_by octets.length
decreasing_by exact Nat.lt_succ_of_le (length_readUnit lead rest)

theorem readUnits_append (done before : List (Option Char)) (octets : List UInt8) :
    readUnits (done ++ before) octets = before.reverse ++ readUnits done octets := by
  fun_induction readUnits done octets with
  | case1 done => simp [readUnits]
  | case2 done lead rest ih =>
    rw [readUnits]
    exact ih

theorem readUnits_cons (lead : UInt8) (rest : List UInt8) :
    readUnits [] (lead :: rest) = (readUnit lead rest).1 :: readUnits [] (readUnit lead rest).2 := by
  rw [readUnits]
  exact readUnits_append [] [(readUnit lead rest).1] _

/--
The octets are made of the pieces that the units were read from.
-/
theorem exists_pieces (octets : List UInt8)
    : ∃ pieces : List (Option Char × List UInt8), (∀ piece ∈ pieces, UnitOf piece.1 piece.2)
        ∧ readUnits [] octets = pieces.map (·.1) ∧ octets = pieces.flatMap (·.2) := by
  induction octets using octets_induction with
  | nil => exact ⟨[], by simp, by rw [readUnits]; rfl, rfl⟩
  | unit lead rest ih =>
    obtain ⟨pieces, hpieces, hunits, hrest⟩ := ih
    obtain ⟨piece, hunit, hoctets⟩ := readUnit_cases lead rest
    refine ⟨((readUnit lead rest).1, piece) :: pieces, ?_, ?_, ?_⟩
    . exact List.forall_mem_cons.mpr ⟨hunit, hpieces⟩
    . rw [readUnits_cons, hunits, List.map_cons]
    . rw [List.flatMap_cons, ← hrest]
      exact hoctets

/-! ### Cutting at ASCII -/

@[simp]
theorem decodeLossy_nil : decodeLossy [] = [] := by
  simp [decodeLossy, readUnits]

theorem decodeLossy_cons (lead : UInt8) (rest : List UInt8)
    : decodeLossy (lead :: rest)
        = (readUnit lead rest).1.getD replacementChar :: decodeLossy (readUnit lead rest).2 := by
  rw [decodeLossy, readUnits_cons, List.map_cons]
  rfl

theorem readContinuations_append {mark : UInt8} (hmark : mark < 0x80) (bits more : Nat) (octets behind : List UInt8)
    : readContinuations bits more (octets ++ mark :: behind)
        = ((readContinuations bits more octets).1, (readContinuations bits more octets).2 ++ mark :: behind) := by
  have hends : isContinuation mark = false := by
    rw [Bool.eq_false_iff, ne_eq, isContinuation_iff]
    intro h
    exact absurd hmark (UInt8.not_lt.mpr h.1)
  fun_induction readContinuations bits more octets with
  | case1 bits rest => simp [readContinuations]
  | case2 bits more => simp [readContinuations, hends]
  | case3 bits more b rest hb ih =>
    rw [List.cons_append, readContinuations, if_pos hb]
    exact ih
  | case4 bits more b rest hb =>
    rw [List.cons_append, readContinuations, if_neg hb]

theorem readUnit_of_ascii {mark : UInt8} (hmark : mark < 0x80) (behind : List UInt8) :
    readUnit mark behind = (some (Char.ofNat mark.toNat), behind) := by
  unfold readUnit
  rw [if_pos hmark]

theorem readUnit_append {mark : UInt8} (hmark : mark < 0x80) (lead : UInt8) (octets behind : List UInt8)
    : readUnit lead (octets ++ mark :: behind)
        = ((readUnit lead octets).1, (readUnit lead octets).2 ++ mark :: behind) := by
  have hlate {low high : UInt8} {more : Nat} (hsecond : secondOctet lead = some (low, high, more)) :
      (low ≤ mark && mark ≤ high) = false := by
    obtain ⟨hleast, -⟩ := secondOctet_eq_some hsecond
    have hlt : mark < low := Nat.lt_of_lt_of_le hmark hleast
    simp [UInt8.not_le.mpr hlt]
  by_cases hlead : lead < 0x80
  . rw [readUnit_of_ascii hlead, readUnit_of_ascii hlead]
  cases hsecond : secondOctet lead with
  | none => simp [readUnit, hlead, hsecond]
  | some kind =>
    obtain ⟨low, high, more⟩ := kind
    cases octets with
    | nil => simp [readUnit, hlead, hsecond, hlate hsecond]
    | cons second rest =>
      by_cases hrange : (low ≤ second && second ≤ high) = true
      . simp [readUnit, hlead, hsecond, hrange, readContinuations_append hmark]
      . simp [readUnit, hlead, hsecond, hrange]

/--
A character of ASCII is read by itself, and so are the octets before and behind it.
-/
theorem decodeLossy_append {mark : UInt8} (hmark : mark < 0x80) (octets behind : List UInt8)
    : decodeLossy (octets ++ mark :: behind)
        = decodeLossy octets ++ Char.ofNat mark.toNat :: decodeLossy behind := by
  induction octets using octets_induction with
  | nil =>
    rw [List.nil_append, decodeLossy_cons, readUnit_of_ascii hmark, decodeLossy_nil]
    rfl
  | unit lead rest ih =>
    rw [List.cons_append, decodeLossy_cons, readUnit_append hmark, decodeLossy_cons, ih]
    rfl

/-! ### Sizes -/

theorem UnitOf.length_le {unit : Option Char} {piece : List UInt8} (h : UnitOf unit piece) :
    piece.length ≤ (String.utf8EncodeChar (unit.getD replacementChar)).length := by
  cases h with
  | character c => apply Nat.le_refl
  | broken _ hshort => exact hshort

theorem UnitOf.length_encode_le {unit : Option Char} {piece : List UInt8} (h : UnitOf unit piece) :
    (String.utf8EncodeChar (unit.getD replacementChar)).length ≤ 3 * piece.length := by
  cases h with
  | character c => apply Nat.le_mul_of_pos_left _ (by omega)
  | broken hne =>
    have hpos := List.length_pos_iff.mpr hne
    have hreplaced : (String.utf8EncodeChar replacementChar).length = 3 := by decide
    simp only [Option.getD_none, hreplaced]
    omega

theorem encode_append (s t : List Char) : encode (s ++ t) = encode s ++ encode t :=
  List.flatMap_append

theorem utf8ByteSize_ofList (s : List Char) : (String.ofList s).utf8ByteSize = (encode s).length := by
  rw [← String.size_toByteArray, String.toByteArray_ofList, List.utf8Encode, List.size_toByteArray]
  rfl

/--
Text is never shorter than the octets that it was read from, and at most three times as long.
-/
theorem length_encode_decodeLossy (octets : List UInt8)
    : octets.length ≤ (encode (decodeLossy octets)).length
        ∧ (encode (decodeLossy octets)).length ≤ 3 * octets.length := by
  obtain ⟨pieces, hpieces, hunits, hoctets⟩ := exists_pieces octets
  rw [decodeLossy, hunits, hoctets, List.map_map]
  clear hunits hoctets
  induction pieces with
  | nil => simp [encode]
  | cons piece pieces ih =>
    obtain ⟨hpiece, hrest⟩ := List.forall_mem_cons.mp hpieces
    obtain ⟨hge, hle⟩ := ih hrest
    have hpiece_ge := hpiece.length_le
    have hpiece_le := hpiece.length_encode_le
    unfold encode at hge hle ⊢
    simp only [List.map_cons, List.flatMap_cons, List.length_append, Function.comp_apply]
    omega

theorem eq_map_some_of_mapM_id {units : List (Option Char)} {s : List Char} (h : units.mapM id = some s) :
    units = s.map some := by
  induction units generalizing s with
  | nil =>
    injection h with h
    rw [← h]
    rfl
  | cons unit units ih =>
    rw [List.mapM_cons] at h
    obtain ⟨c, hc, h⟩ := Option.bind_eq_some_iff.mp h
    obtain ⟨t, ht, h⟩ := Option.bind_eq_some_iff.mp h
    injection h with h
    rw [← h, ih ht, List.map_cons]
    exact congrArg (· :: t.map some) hc

/--
Octets that are well-formed are the encoding of the text that is read from them.
-/
theorem decode?_eq_some {octets : List UInt8} {s : List Char} (h : decode? octets = some s)
    : octets = encode s ∧ decodeLossy octets = s := by
  have hall : readUnits [] octets = s.map some := eq_map_some_of_mapM_id h
  obtain ⟨pieces, hpieces, hunits, hoctets⟩ := exists_pieces octets
  constructor
  . rw [hunits] at hall
    rw [hoctets]
    clear hunits hoctets h
    induction pieces generalizing s with
    | nil =>
      rw [List.map_nil, List.nil_eq, List.map_eq_nil_iff] at hall
      rw [hall]
      rfl
    | cons piece pieces ih =>
      obtain ⟨hpiece, hrest⟩ := List.forall_mem_cons.mp hpieces
      cases s with
      | nil => contradiction
      | cons c s =>
        rw [List.map_cons, List.map_cons, List.cons.injEq] at hall
        rw [hall.1] at hpiece
        rw [List.flatMap_cons, ih hall.2 hrest, hpiece.eq_utf8EncodeChar]
        rfl
  . rw [decodeLossy, hall, List.map_map]
    exact List.map_id s

/-! ### ASCII in the text -/

theorem UnitOf.eq_of_ascii {unit : Option Char} {piece : List UInt8} (h : UnitOf unit piece)
    (hascii : (unit.getD replacementChar).toNat < 0x80)
    : piece = [UInt8.ofNat (unit.getD replacementChar).toNat] := by
  cases h with
  | character c =>
    have hc : c.val.toNat ≤ 0x7f := Nat.le_of_lt_succ hascii
    unfold String.utf8EncodeChar
    dsimp only
    rw [if_pos hc]
    rfl
  | broken => contradiction

theorem mem_of_mem_decodeLossy {octets : List UInt8} {c : Char} (hc : c.toNat < 0x80) (h : c ∈ decodeLossy octets) :
    UInt8.ofNat c.toNat ∈ octets := by
  obtain ⟨pieces, hpieces, hunits, hoctets⟩ := exists_pieces octets
  rw [decodeLossy, hunits, List.map_map, List.mem_map] at h
  obtain ⟨piece, hmem, rfl⟩ := h
  rw [hoctets, List.mem_flatMap]
  exact ⟨piece, hmem, by simp [(hpieces piece hmem).eq_of_ascii hc]⟩

theorem getLast?_of_getLast?_decodeLossy {octets : List UInt8} {c : Char} (hc : c.toNat < 0x80)
    (h : (decodeLossy octets).getLast? = some c)
    : octets.getLast? = some (UInt8.ofNat c.toNat) := by
  obtain ⟨pieces, hpieces, hunits, hoctets⟩ := exists_pieces octets
  rw [decodeLossy, hunits, List.map_map, List.getLast?_map, Option.map_eq_some_iff] at h
  obtain ⟨piece, hlast, rfl⟩ := h
  obtain ⟨before, hbefore⟩ := List.getLast?_eq_some_iff.mp hlast
  have hmem : piece ∈ pieces := List.mem_of_getLast? hlast
  rw [hoctets, hbefore, List.flatMap_append, List.flatMap_singleton, (hpieces piece hmem).eq_of_ascii hc]
  apply List.getLast?_concat

end WafWatch.Text
