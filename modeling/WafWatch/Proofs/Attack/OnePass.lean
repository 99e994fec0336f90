import WafWatch.Proofs.Attack.Target
import WafWatch.Proofs.Text.Lowered

/-!
This module contains how little the normal form of a request target depends on the way in which it is made. The codes
may be replaced in any order, with or without a look for a percent sign at first, and there is nothing left to replace
or to lower in what has been made normal.
-/

namespace WafWatch.Target

open WafWatch.Text

variable {codes more : List PercentCode} {s : List Char}

/-! ### The order of the codes -/

/--
What one pass makes of a text depends on which codes there are and not on their order.
-/
theorem decode_congr (hcodes : Distinct codes) (hmore : Distinct more) (hsame : ∀ code, code ∈ codes ↔ code ∈ more)
    (s : List Char)
    : decode codes s = decode more s := by
  induction s using decode_induction codes with
  | nil => rfl
  | keep c rest hkeep ih =>
    rw [decode_keep hkeep, decode_keep, ih]
    exact fun hc code hcode => hkeep hc code ((hsame code).mpr hcode)
  | code code hcode rest ih =>
    rw [decode_code hcodes hcode, decode_code hmore ((hsame code).mp hcode), ih]

theorem foldl_replaceCode_of_perm (h : codes.Perm percentCodes) (s : List Char) :
    codes.foldl replaceCode s = decode percentCodes s := by
  have hcodes : Distinct codes := percentCodes_distinct.mono h.subset
  rw [foldl_replaceCode hcodes, decode_congr hcodes percentCodes_distinct fun _ => h.mem_iff]

/--
The normal form with the codes replaced in the given order; `normalize` has an order of its own.
-/
def normalizeBy (codes : List PercentCode) (s : List Char) : List Char :=
  let lowered := lower s
  if lowered.contains '%' then codes.foldl replaceCode lowered else lowered

theorem normalizeBy_eq_normalize (h : codes.Perm percentCodes) (s : List Char) : normalizeBy codes s = normalize s := by
  unfold normalizeBy normalize
  dsimp only
  rw [foldl_replaceCode_of_perm h, foldl_replaceCode percentCodes_distinct]

/-! ### Normal forms -/

/--
No character that a code stands for goes into a code again, so a second pass finds nothing.
-/
theorem decode_self (h : Distinct codes) (s : List Char) : decode codes (decode codes s) = decode codes s := by
  have htwice : Distinct (codes ++ codes) := h.mono (List.append_subset.mpr ⟨List.Subset.refl _, List.Subset.refl _⟩)
  rw [decode_decode htwice]
  exact decode_congr htwice h (fun code => by rw [List.mem_append, or_self]) s

theorem mem_decode (h : Distinct codes) {c : Char} (hc : c ∈ decode codes s) :
    c ∈ s ∨ ∃ code ∈ codes, c = code.char := by
  induction s using decode_induction codes with
  | nil => exact .inl hc
  | keep d rest hkeep ih =>
    rw [decode_keep hkeep, List.mem_cons] at hc
    rcases hc with rfl | hlater
    . exact .inl List.mem_cons_self
    . exact (ih hlater).imp_left (List.mem_cons_of_mem d)
  | code code hcode rest ih =>
    rw [decode_code h hcode, List.mem_cons] at hc
    rcases hc with rfl | hlater
    . exact .inr ⟨code, hcode, rfl⟩
    . refine (ih hlater).imp_left fun hmem => ?_
      exact List.mem_cons_of_mem _ (List.mem_cons_of_mem _ (List.mem_cons_of_mem _ hmem))

theorem isLowered_of_mem_normalize {c : Char} (h : c ∈ normalize s) : IsLowered c := by
  have hchars : ∀ code ∈ percentCodes, IsLowered code.char := by decide +kernel
  rw [normalize_eq_decode] at h
  rcases mem_decode percentCodes_distinct h with hlowered | ⟨code, hcode, rfl⟩
  . exact isLowered_of_mem_lower hlowered
  . exact hchars code hcode

/--
The normal form is the lowered text after one pass in which each code is replaced where it stands. Any order of the
codes leads to it, with the look for a percent sign or without, and it is its own normal form.
-/
theorem normalize_in_one_pass (s : List Char)
    : normalize s = decode percentCodes (lower s)
        ∧ (∀ codes, codes.Perm percentCodes →
            normalizeBy codes s = normalize s ∧ codes.foldl replaceCode (lower s) = normalize s)
        ∧ normalize (normalize s) = normalize s := by
  refine ⟨normalize_eq_decode s, ?_, ?_⟩
  . intro codes hperm
    refine ⟨normalizeBy_eq_normalize hperm s, ?_⟩
    rw [foldl_replaceCode_of_perm hperm, normalize_eq_decode]
  . rw [normalize_eq_decode (normalize s), lower_eq_self fun _ => isLowered_of_mem_normalize, normalize_eq_decode,
      decode_self percentCodes_distinct]

/--
One capital is no ASCII letter, stray percent signs stand before two codes, and one of the characters that come out
could be taken for part of a code.
-/
theorem normalize_in_one_pass_reversed
    : let target := "/CAFÉ%%3CB%3%27%2%20%2527".toList
      percentCodes.reverse.Perm percentCodes
        ∧ normalize target = "/café%<b%3\x27%2 %2527".toList
        ∧ normalizeBy percentCodes.reverse target = normalize target
        ∧ normalize (normalize target) = normalize target := by
  intro target
  have hperm : percentCodes.reverse.Perm percentCodes := List.reverse_perm _
  obtain ⟨-, horder, hagain⟩ := normalize_in_one_pass target
  exact ⟨hperm, by decide +kernel, (horder _ hperm).1, hagain⟩

end WafWatch.Target
