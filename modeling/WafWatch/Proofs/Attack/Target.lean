import WafWatch.Attack.Target
import WafWatch.Proofs.Text.Lowercase
import WafWatch.Proofs.Text.Scan

/-!
This module contains the normal form of request targets as one pass over a text. The percent codes are replaced
one after the other, but no code is made or broken by the replacement of another, so all of them could be
replaced at once. From this follows what the normal form does not see: a space ends every code, and a character
that is concealed by its code is found again.
-/

namespace WafWatch.Target

open WafWatch.Text

def PercentCode.digits (code : PercentCode) : List Char :=
  [code.high, code.low]

/--
Replace every occurrence of one of the codes in a single pass.
-/
def decode (codes : List PercentCode) : List Char → List Char
  | '%' :: a :: b :: rest =>
    match codes.find? fun code => a == code.high && b == code.low with
    | some code => code.char :: decode codes rest
    | none => '%' :: decode codes (a :: b :: rest)
  | c :: rest => c :: decode codes rest
  | [] => []

/--
None of the codes goes on with the text behind its percent sign.
-/
def NoneAt (codes : List PercentCode) (s : List Char) : Prop :=
  ∀ code ∈ codes, ¬code.digits <+: s

/--
The codes can be told from each other, and the characters that they stand for from what they are written with.
-/
structure Distinct (codes : List PercentCode) : Prop where
  eq : ∀ code ∈ codes, ∀ other ∈ codes, code.digits = other.digits → code = other
  digit_ne : ∀ code ∈ codes, '%' ∉ code.digits
  char_ne : ∀ code ∈ codes, code.char ≠ '%'
  char_ne_digit : ∀ code ∈ codes, ∀ other ∈ codes, code.char ∉ other.digits

theorem Distinct.mono {codes more : List PercentCode} (h : Distinct more) (hsubset : codes ⊆ more) :
    Distinct codes where
  eq code hcode other hother := h.eq code (hsubset hcode) other (hsubset hother)
  digit_ne code hcode := h.digit_ne code (hsubset hcode)
  char_ne code hcode := h.char_ne code (hsubset hcode)
  char_ne_digit code hcode other hother := h.char_ne_digit code (hsubset hcode) other (hsubset hother)

theorem percentCodes_distinct : Distinct percentCodes := by
  constructor <;> decide

variable {codes more : List PercentCode} {code : PercentCode} {c : Char} {s s' rest : List Char}

/-! ### One pass -/

theorem digits_prefix_cons_iff {a b : Char} :
    code.digits <+: a :: b :: rest ↔ (a == code.high && b == code.low) = true := by
  simp only [PercentCode.digits, List.cons_prefix_cons, List.nil_prefix, and_true, Bool.and_eq_true,
    beq_iff_eq]
  exact and_congr eq_comm eq_comm

theorem find?_eq_none_iff {a b : Char}
    : (codes.find? fun code => a == code.high && b == code.low) = none
        ↔ NoneAt codes (a :: b :: rest) := by
  simp only [List.find?_eq_none, NoneAt, digits_prefix_cons_iff]

theorem decode_keep (h : c = '%' → NoneAt codes rest) :
    decode codes (c :: rest) = c :: decode codes rest := by
  by_cases hlong : ∃ a b after, c = '%' ∧ rest = a :: b :: after
  . obtain ⟨a, b, after, rfl, rfl⟩ := hlong
    rw [decode, find?_eq_none_iff.mpr (h rfl)]
  . rw [decode]
    exact fun a b after hc hrest => hlong ⟨a, b, after, hc, hrest⟩

theorem decode_code (h : Distinct codes) (hcode : code ∈ codes) (rest : List Char) :
    decode codes ('%' :: code.high :: code.low :: rest) = code.char :: decode codes rest := by
  rw [decode]
  split
  . next other hfound =>
    have hdigits := List.find?_some hfound
    simp only [Bool.and_eq_true, beq_iff_eq] at hdigits
    have hsame : code = other := by
      apply h.eq code hcode other (List.mem_of_find?_eq_some hfound)
      simp [PercentCode.digits, hdigits]
    rw [hsame]
  . next hnone =>
    have hkept : NoneAt codes (code.digits ++ rest) := find?_eq_none_iff.mp hnone
    exact absurd (List.prefix_append code.digits rest) (hkept code hcode)

/--
A text is nothing, or starts with a character that is kept, or starts with a code.
-/
@[elab_as_elim]
theorem decode_induction (codes : List PercentCode) {motive : List Char → Prop}
    (nil : motive [])
    (keep : ∀ c rest, (c = '%' → NoneAt codes rest) → motive rest → motive (c :: rest))
    (code : ∀ code ∈ codes, ∀ rest, motive rest →
      motive ('%' :: code.high :: code.low :: rest))
    (s : List Char)
    : motive s := by
  induction s using decode.induct codes with
  | case1 a b rest found hfound ih =>
    have hdigits := List.find?_some hfound
    simp only [Bool.and_eq_true, beq_iff_eq] at hdigits
    obtain ⟨rfl, rfl⟩ := hdigits
    exact code found (List.mem_of_find?_eq_some hfound) rest ih
  | case2 a b rest hnone ih => exact keep '%' _ (fun _ => find?_eq_none_iff.mp hnone) ih
  | case3 c rest hshort ih =>
    refine keep c rest ?_ ih
    intro hc code _ hstart
    obtain ⟨after, rfl⟩ := hstart
    exact hshort code.high code.low after hc rfl
  | case4 => exact nil

theorem decode_eq_self (h : '%' ∉ s) : decode codes s = s := by
  induction s with
  | nil => rfl
  | cons c rest ih =>
    rw [List.mem_cons, not_or] at h
    rw [decode_keep (fun hc => absurd hc.symm h.1), ih h.2]

/-! ### One code after the other -/

theorem replaceFrom_eq (code : PercentCode) (done s : List Char) :
    replaceFrom code done s = done.reverse ++ decode [code] s := by
  fun_induction replaceFrom code done s with
  | case1 done a b rest hcode ih => simp [decode, hcode, ih]
  | case2 done a b rest hother ih => simp [decode, hother, ih]
  | case3 done c rest hshort ih =>
    rw [ih, decode.eq_2 _ _ _ hshort]
    simp
  | case4 done => simp [decode]

theorem replaceCode_eq_decode (s : List Char) (code : PercentCode) : replaceCode s code = decode [code] s :=
  replaceFrom_eq code [] s

/--
What stands in a text after codes have been replaced, and has nothing that a code stands for, stood there before.
-/
theorem prefix_of_prefix_decode (h : Distinct codes) {word : List Char}
    (hword : ∀ c ∈ word, ∀ code ∈ codes, code.char ≠ c) (hstart : word <+: decode codes s)
    : word <+: s := by
  induction s using decode_induction codes generalizing word with
  | nil => exact hstart
  | keep c rest hkeep ih =>
    rw [decode_keep hkeep] at hstart
    rcases List.prefix_cons_iff.mp hstart with rfl | ⟨tail, rfl, htail⟩
    . exact List.nil_prefix
    . rw [List.forall_mem_cons] at hword
      exact List.cons_prefix_cons.mpr ⟨rfl, ih hword.2 htail⟩
  | code code hcode rest ih =>
    rw [decode_code h hcode] at hstart
    rcases List.prefix_cons_iff.mp hstart with rfl | ⟨tail, rfl, -⟩
    . exact List.nil_prefix
    . rw [List.forall_mem_cons] at hword
      exact absurd rfl (hword.1 code hcode)

/--
To replace some codes and then some more is to replace all of them at once.
-/
theorem decode_decode (h : Distinct (codes ++ more)) (s : List Char) :
    decode more (decode codes s) = decode (codes ++ more) s := by
  have hcodes : Distinct codes := h.mono (List.subset_append_left _ _)
  have hmore : Distinct more := h.mono (List.subset_append_right _ _)
  induction s using decode_induction (codes ++ more) with
  | nil => rfl
  | keep c rest hkeep ih =>
    have hkeepCodes : c = '%' → NoneAt codes rest := fun hc code hcode =>
      hkeep hc code (List.mem_append_left _ hcode)
    rw [decode_keep hkeep, decode_keep hkeepCodes, decode_keep, ih]
    -- the digits of a code that is replaced later cannot come from the replacement of another
    intro hc code hcode hstart
    refine hkeep hc code (List.mem_append_right _ hcode) (prefix_of_prefix_decode hcodes ?_ hstart)
    rintro digit hdigit other hother rfl
    exact h.char_ne_digit other (List.mem_append_left _ hother) code (List.mem_append_right _ hcode) hdigit
  | code code hcode rest ih =>
    rw [decode_code h hcode]
    by_cases hfirst : code ∈ codes
    . rw [decode_code hcodes hfirst, decode_keep, ih]
      exact fun hc => absurd hc (hcodes.char_ne code hfirst)
    . have hlater : code ∈ more := (List.mem_append.mp hcode).resolve_left hfirst
      have hdigits := hmore.digit_ne code hlater
      simp only [PercentCode.digits, List.mem_cons, List.not_mem_nil, or_false, not_or] at hdigits
      rw [decode_keep, decode_keep (fun hc => absurd hc.symm hdigits.1),
        decode_keep (fun hc => absurd hc.symm hdigits.2), decode_code hmore hlater, ih]
      intro _ other hother hstart
      have hsame : other.digits = code.digits := by
        simpa [PercentCode.digits] using hstart
      exact hfirst (h.eq other (List.mem_append_left _ hother) code hcode hsame ▸ hother)

theorem foldl_replaceCode (h : Distinct codes) (s : List Char) :
    codes.foldl replaceCode s = decode codes s := by
  induction codes generalizing s with
  | nil =>
    induction s using decode_induction [] with
    | nil => rfl
    | keep c rest hkeep ih =>
      rw [decode_keep hkeep, ← ih]
      rfl
    | code code hcode rest ih => contradiction
  | cons code codes ih =>
    rw [List.foldl_cons, ih (h.mono (List.subset_cons_self _ _)), replaceCode_eq_decode]
    exact decode_decode h s

/--
The normal form is what one pass over the lowered text makes of it.
-/
theorem normalize_eq_decode (s : List Char) : normalize s = decode percentCodes (lower s) := by
  unfold normalize
  dsimp only
  split
  . exact foldl_replaceCode percentCodes_distinct _
  . next hnone =>
    rw [List.contains_iff_mem] at hnone
    exact (decode_eq_self hnone).symm

/-! ### Beyond a space -/

/--
No code goes on beyond a space.
-/
theorem decode_append_space (hspace : ∀ code ∈ codes, ' ' ∉ code.digits) (hcodes : Distinct codes)
    (s right : List Char)
    : decode codes (s ++ ' ' :: right) = decode codes s ++ ' ' :: decode codes right := by
  induction s using decode_induction codes with
  | nil => exact decode_keep (fun hc => absurd hc (by decide))
  | keep c rest hkeep ih =>
    rw [List.cons_append, decode_keep hkeep, decode_keep, ih]
    . rfl
    . exact fun hc code hcode hstart =>
        hkeep hc code hcode (prefix_of_prefix_append_cons (hspace code hcode) hstart)
  | code code hcode rest ih =>
    rw [decode_code hcodes hcode]
    simp only [List.cons_append]
    rw [decode_code hcodes hcode, ih]

/--
A text has the same normal form beside another one from which a space keeps it apart.
-/
theorem normalize_append_space (s right : List Char) :
    normalize (s ++ ' ' :: right) = normalize s ++ ' ' :: normalize right := by
  simp only [normalize_eq_decode, lower_append_space]
  exact decode_append_space (by decide) percentCodes_distinct _ _

/-! ### Concealed characters -/

/--
The second text comes from the first by writing some of the characters for which there is a code as that code.
-/
inductive Conceals (codes : List PercentCode) : List Char → List Char → Prop where
  | nil : Conceals codes [] []
  | keep (c : Char) {s s' : List Char} (h : Conceals codes s s') : Conceals codes (c :: s) (c :: s')
  | code {code : PercentCode} (hcode : code ∈ codes) {s s' : List Char} (h : Conceals codes s s') :
    Conceals codes (code.char :: s) ('%' :: code.high :: code.low :: s')

/--
What can be read where characters have been concealed, and has no percent sign, could be read before.
-/
theorem Conceals.prefix_of_prefix {word : List Char} (h : Conceals codes s s') (hword : '%' ∉ word)
    (hstart : word <+: s')
    : word <+: s := by
  induction h generalizing word with
  | nil => exact hstart
  | keep c h ih =>
    rcases List.prefix_cons_iff.mp hstart with rfl | ⟨tail, rfl, htail⟩
    . exact List.nil_prefix
    . rw [List.mem_cons, not_or] at hword
      exact List.cons_prefix_cons.mpr ⟨rfl, ih hword.2 htail⟩
  | code hcode h ih =>
    rcases List.prefix_cons_iff.mp hstart with rfl | ⟨tail, rfl, -⟩
    . exact List.nil_prefix
    . simp at hword

theorem Conceals.exists_cons (h : Conceals codes (c :: s) s') (hc : ∀ code ∈ codes, code.char ≠ c) :
    ∃ rest, s' = c :: rest ∧ Conceals codes s rest := by
  cases h with
  | keep _ h => exact ⟨_, rfl, h⟩
  | code hcode _ => exact absurd rfl (hc _ hcode)

/--
Concealed characters are found again, whatever stands around them.
-/
theorem Conceals.decode_eq (hcodes : Distinct codes) (h : Conceals codes s s') :
    decode codes s' = decode codes s := by
  induction s using decode_induction codes generalizing s' with
  | nil =>
    cases h
    rfl
  | keep c rest hkeep ih =>
    cases h with
    | keep _ h =>
      rw [decode_keep hkeep, decode_keep, ih h]
      exact fun hc code hcode hstart =>
        hkeep hc code hcode (h.prefix_of_prefix (hcodes.digit_ne code hcode) hstart)
    | code hcode h => rw [decode_keep hkeep, decode_code hcodes hcode, ih h]
  | code code hcode rest ih =>
    -- nothing that codes are written with has a code, so this one is still there
    have hhigh : ∀ other ∈ codes, other.char ≠ code.high := fun other hother heq =>
      hcodes.char_ne_digit other hother code hcode (by simp [PercentCode.digits, heq])
    have hlow : ∀ other ∈ codes, other.char ≠ code.low := fun other hother heq =>
      hcodes.char_ne_digit other hother code hcode (by simp [PercentCode.digits, heq])
    obtain ⟨_, rfl, hdigits⟩ := h.exists_cons hcodes.char_ne
    obtain ⟨_, rfl, hdigit⟩ := hdigits.exists_cons hhigh
    obtain ⟨_, rfl, hrest⟩ := hdigit.exists_cons hlow
    rw [decode_code hcodes hcode, decode_code hcodes hcode, ih hrest]

end WafWatch.Target
