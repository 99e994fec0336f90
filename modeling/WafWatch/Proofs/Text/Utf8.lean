import Mathlib.Data.List.Basic
import WafWatch.Text.Utf8

/-!
This module contains the order of texts in UTF-8: texts are ordered by their octets as they are by their characters.
-/

namespace WafWatch.Text

theorem toNat_ofNat_of_lt {code : Nat} (h : code < 0xd800 ∨ (0xdfff < code ∧ code < 0x110000)) :
    (Char.ofNat code).toNat = code := by
  have hvalid : code.isValidChar := h
  unfold Char.ofNat
  rw [dif_pos hvalid]
  rfl

theorem ofNat_lt_ofNat {m n : Nat} (h : m < n) (hn : n < 256) : UInt8.ofNat m < UInt8.ofNat n := by
  rw [UInt8.lt_iff_toNat_lt, UInt8.toNat_ofNat', UInt8.toNat_ofNat']
  omega

theorem lt_of_octet_lt {m n : Nat} {xs ys : List UInt8} (h : m < n) (hn : n < 256) :
    UInt8.ofNat m :: xs < UInt8.ofNat n :: ys :=
  List.cons_lt_cons_iff.mpr (.inl (ofNat_lt_ofNat h hn))

theorem lt_of_octet_le {m n : Nat} {xs ys : List UInt8} (h : m ≤ n) (hn : n < 256) (hrest : m = n → xs < ys) :
    UInt8.ofNat m :: xs < UInt8.ofNat n :: ys := by
  rcases Nat.lt_or_eq_of_le h with hlt | rfl
  . exact lt_of_octet_lt hlt hn
  . exact List.cons_lt_cons_iff.mpr (.inr ⟨rfl, hrest rfl⟩)

/--
The first octet at which two characters differ decides, whatever comes behind them.
-/
theorem utf8EncodeChar_append_lt {c d : Char} (h : c < d) (xs ys : List UInt8) :
    String.utf8EncodeChar c ++ xs < String.utf8EncodeChar d ++ ys := by
  have hlt : c.val.toNat < d.val.toNat := h
  have hvalid : d.val.toNat < 0xd800 ∨ 0xdfff < d.val.toNat ∧ d.val.toNat < 0x110000 := d.valid
  unfold String.utf8EncodeChar
  generalize c.val.toNat = m at hlt ⊢
  generalize d.val.toNat = n at hlt hvalid ⊢
  clear h
  dsimp only
  -- A character with more octets has the greater first one; with equally many, they are compared one by one.
  split
  . split
    . exact lt_of_octet_lt hlt (by omega)
    split
    . exact lt_of_octet_lt (by omega) (by omega)
    split
    . exact lt_of_octet_lt (by omega) (by omega)
    . exact lt_of_octet_lt (by omega) (by omega)
  split
  . rw [if_neg (by omega : ¬n ≤ 0x7f)]
    split
    . exact lt_of_octet_le (by omega) (by omega) fun hfirst => lt_of_octet_lt (by omega) (by omega)
    split
    . exact lt_of_octet_lt (by omega) (by omega)
    . exact lt_of_octet_lt (by omega) (by omega)
  split
  . rw [if_neg (by omega : ¬n ≤ 0x7f), if_neg (by omega : ¬n ≤ 0x7ff)]
    split
    . exact lt_of_octet_le (by omega) (by omega) fun hfirst =>
        lt_of_octet_le (by omega) (by omega) fun hsecond => lt_of_octet_lt (by omega) (by omega)
    . exact lt_of_octet_lt (by omega) (by omega)
  . rw [if_neg (by omega : ¬n ≤ 0x7f), if_neg (by omega : ¬n ≤ 0x7ff), if_neg (by omega : ¬n ≤ 0xffff)]
    exact lt_of_octet_le (by omega) (by omega) fun hfirst =>
      lt_of_octet_le (by omega) (by omega) fun hsecond =>
        lt_of_octet_le (by omega) (by omega) fun hthird => lt_of_octet_lt (by omega) (by omega)

theorem encode_lt_encode {s t : List Char} (h : s < t) : encode s < encode t := by
  induction h with
  | @nil c t =>
    obtain ⟨octet, octets, hoctets⟩ := List.exists_cons_of_ne_nil (String.utf8EncodeChar_ne_nil (c := c))
    rw [encode, encode, List.flatMap_cons, hoctets]
    exact List.nil_lt_cons _ _
  | rel h => exact utf8EncodeChar_append_lt h _ _
  | cons h ih => exact List.append_left_lt ih

theorem encode_lt_encode_iff {s t : List Char} : encode s < encode t ↔ s < t := by
  refine ⟨?_, encode_lt_encode⟩
  intro h
  by_contra hnot
  rcases List.le_iff_lt_or_eq.mp (List.not_lt.mp hnot) with hlt | rfl
  . exact List.lt_asymm h (encode_lt_encode hlt)
  . exact List.lt_irrefl _ h

end WafWatch.Text
