import OledPanel.Tool.Grammar
import Mathlib.Data.Nat.Digits.Defs
import Mathlib.Data.List.Forall2

/-!
# Panel addresses

A panel address is read as a byte: in hexadecimal from what follows `0x` or `0X`, and in decimal
from the whole text otherwise (`addressDigits`). The text of a byte is an optional `+`, then one or
more digits of the radix, worth at most 255 (`ByteText`); leading zeros are digits like any other,
and a minus sign never is, bytes having no negative values. A byte that fits in seven bits is the
address; a wider one is refused with its value in two lower-case hexadecimal digits; any other text
is refused with the reason the byte could not be read.

- `readDigits_ok_iff`: reading digits onto a count succeeds exactly on digits of the radix whose
  value, read onto the count, stays within the bound; the count only grows, so checking it after
  every digit is checking it at the end.
- `readInt_ok_iff`: reading a byte succeeds exactly on the texts of bytes, at their value
  (`Nat.ofDigits` of the digits, least significant first).
- `isDigitOf_ten_iff`, `isDigitOf_sixteen_iff`: which characters are digits of each radix.
- `readAddress_eq`: the address is the byte its digits give, held to seven bits.
- `readAddress_ok_iff`, `readAddress_wide`, `readAddress_not_byte`: the three answers, and
  `readAddress_answers` all of it.
-/

namespace OledPanel

namespace CommandLine

/-- `c` is a digit of the radix worth `d`. -/
def IsDigitOf (radix : Nat) (c : Char) (d : Nat) : Prop := digitValue radix c = some d

/-- The value of digits, most significant first, read onto `acc`. -/
def horner (radix : Nat) (acc : Int) (vs : List Nat) : Int :=
  vs.foldl (fun (a : Int) (d : Nat) => a * radix + d) acc

@[simp] theorem horner_nil (radix : Nat) (acc : Int) : horner radix acc [] = acc := rfl

@[simp] theorem horner_cons (radix : Nat) (acc : Int) (d : Nat) (vs : List Nat) :
    horner radix acc (d :: vs) = horner radix (acc * radix + d) vs := rfl

theorem le_horner {radix : Nat} (hr : 1 ≤ radix) (vs : List Nat) {acc : Int} (ha : 0 ≤ acc) :
    acc ≤ horner radix acc vs := by
  induction vs generalizing acc with
  | nil => exact le_refl acc
  | cons d vs ih =>
    have hstep : acc ≤ acc * radix + d := by
      have : acc * 1 ≤ acc * radix := Int.mul_le_mul_of_nonneg_left (by exact_mod_cast hr) ha
      omega
    exact le_trans hstep (ih (by omega))

/-- **Reading digits** onto a count within the bound succeeds exactly on digits of the radix, at
their value read onto the count, when that stays within the bound. -/
theorem readDigits_ok_iff {radix : Nat} (hr : 1 ≤ radix) (lo hi : Int) (cs : List Char) {acc v : Int}
    (h0 : 0 ≤ acc) (hhi : acc ≤ hi) :
    readDigits radix false lo hi cs acc = .ok v ↔
      ∃ vs, List.Forall₂ (IsDigitOf radix) cs vs ∧ horner radix acc vs = v ∧ v ≤ hi := by
  induction cs generalizing acc with
  | nil =>
    simp only [readDigits, Except.ok.injEq, List.forall₂_nil_left_iff, exists_eq_left, horner_nil]
    exact ⟨fun h => ⟨h, h ▸ hhi⟩, fun h => h.1⟩
  | cons c cs ih =>
    unfold readDigits
    cases hc : digitValue radix c with
    | none =>
      simp only [reduceCtorEq, false_iff, not_exists, not_and, List.forall₂_cons_left_iff]
      rintro _ ⟨d, vs, hcd, -, rfl⟩
      rw [IsDigitOf, hc] at hcd
      cases hcd
    | some d =>
      simp only [Bool.false_eq_true, if_false, List.forall₂_cons_left_iff]
      by_cases hbig : acc * radix + d > hi
      · -- the first digit already passes the bound, and the digits after it only add
        rw [if_pos hbig]
        simp only [reduceCtorEq, false_iff, not_exists, not_and]
        rintro _ ⟨d', vs, hcd, -, rfl⟩ rfl
        rw [IsDigitOf, hc, Option.some.injEq] at hcd
        subst hcd
        have := le_horner hr vs (show (0 : Int) ≤ acc * radix + d by positivity)
        rw [horner_cons]
        omega
      · rw [if_neg hbig, ih (by positivity) (by omega)]
        constructor
        · rintro ⟨vs, hvs, rfl, hle⟩
          exact ⟨d :: vs, ⟨d, vs, hc, hvs, rfl⟩, rfl, hle⟩
        · rintro ⟨_, ⟨d', vs, hcd, hvs, rfl⟩, rfl, hle⟩
          rw [IsDigitOf, hc, Option.some.injEq] at hcd
          subst hcd
          exact ⟨vs, hvs, rfl, hle⟩

theorem horner_append_singleton (radix : Nat) (acc : Int) (vs : List Nat) (d : Nat) :
    horner radix acc (vs ++ [d]) = horner radix acc vs * radix + d := by
  simp [horner, List.foldl_append]

theorem horner_zero (radix : Nat) (vs : List Nat) : horner radix 0 vs = (Nat.ofDigits radix vs.reverse : Nat) := by
  -- read back from the last digit: the digits before it are worth the radix times as much
  suffices h : ∀ l : List Nat, horner radix 0 l.reverse = (Nat.ofDigits radix l : Nat) by
    simpa using h vs.reverse
  intro l
  induction l with
  | nil => rfl
  | cons d l ih =>
    rw [List.reverse_cons, horner_append_singleton, ih, Nat.ofDigits_cons]
    push_cast
    ring

/-- `ds` is one or more digits of the radix, worth `n`. -/
def DigitsWorth (radix : Nat) (ds : List Char) (n : Nat) : Prop :=
  ds ≠ [] ∧ ∃ vs, List.Forall₂ (IsDigitOf radix) ds vs ∧ Nat.ofDigits radix vs.reverse = n

/-- `cs` is the text of the byte `n` in the radix: an optional `+`, then one or more digits of the
radix, worth at most 255. -/
def ByteText (radix : Nat) (cs : List Char) (n : Nat) : Prop :=
  (DigitsWorth radix cs n ∨ ∃ ds, cs = '+' :: ds ∧ DigitsWorth radix ds n) ∧ n ≤ 255

theorem not_digitsWorth_sign {radix : Nat} {c : Char} (hc : c = '+' ∨ c = '-') (ds : List Char) (n : Nat) :
    ¬DigitsWorth radix (c :: ds) n := by
  rintro ⟨-, vs, hvs, -⟩
  obtain ⟨d, -, hcd, -, -⟩ := List.forall₂_cons_left_iff.1 hvs
  rcases hc with rfl | rfl <;> simp [IsDigitOf, digitValue] at hcd

theorem readDigits_zero_ok_iff {radix : Nat} (hr : 1 ≤ radix) {ds : List Char} (hds : ds ≠ []) (v : Int) :
    readDigits radix false 0 255 ds 0 = .ok v ↔ ∃ n, DigitsWorth radix ds n ∧ n ≤ 255 ∧ v = n := by
  rw [readDigits_ok_iff hr 0 255 ds (le_refl 0) (by decide)]
  constructor
  · rintro ⟨vs, hvs, rfl, hle⟩
    rw [horner_zero] at hle ⊢
    exact ⟨_, ⟨hds, vs, hvs, rfl⟩, by exact_mod_cast hle, rfl⟩
  · rintro ⟨_, ⟨-, vs, hvs, rfl⟩, hle, rfl⟩
    exact ⟨vs, hvs, horner_zero radix vs, by exact_mod_cast hle⟩

theorem byteText_plus {radix : Nat} {ds : List Char} {n : Nat} :
    ByteText radix ('+' :: ds) n ↔ DigitsWorth radix ds n ∧ n ≤ 255 := by
  simp only [ByteText, List.cons.injEq, true_and, exists_eq_left', not_digitsWorth_sign (.inl rfl), false_or]

theorem byteText_unsigned {radix : Nat} {cs : List Char} (hcs : ∀ ds, cs ≠ '+' :: ds) {n : Nat} :
    ByteText radix cs n ↔ DigitsWorth radix cs n ∧ n ≤ 255 := by
  have hnot : ¬∃ ds, cs = '+' :: ds ∧ DigitsWorth radix ds n := fun ⟨ds, hds, _⟩ => hcs ds hds
  simp only [ByteText, hnot, or_false]

theorem not_byteText_minus {radix : Nat} (cs : List Char) (n : Nat) : ¬ByteText radix ('-' :: cs) n := fun h =>
  not_digitsWorth_sign (.inr rfl) cs n ((byteText_unsigned (by simp)).1 h).1

/-- **Reading a byte** succeeds exactly on the texts of bytes, at their value. -/
theorem readInt_ok_iff {radix : Nat} (hr : 1 ≤ radix) (text : String) (v : Int) :
    readInt text radix 0 255 = .ok v ↔ ∃ n, ByteText radix text.toList n ∧ v = n := by
  unfold readInt
  generalize text.toList = cs
  split
  case h_1 => simp [ByteText, DigitsWorth]
  case h_2 =>
    simp only [reduceCtorEq, false_iff, not_exists, not_and, byteText_plus]
    exact fun n h => absurd h.1.1 (by simp)
  case h_3 =>
    simp only [reduceCtorEq, false_iff, not_exists, not_and]
    exact fun n h => absurd h (not_byteText_minus [] n)
  case h_4 cs hcs =>
    simp only [readDigits_zero_ok_iff hr hcs, byteText_plus, and_assoc]
  case h_5 cs _ =>
    -- a byte has no negative values, so the minus sign is read as a character that is no digit
    simp only [Int.lt_irrefl, if_false, reduceCtorEq, false_iff, not_exists, not_and]
    exact fun n h => absurd h (not_byteText_minus cs n)
  case h_6 _ hnil _ _ hplus _ =>
    simp only [readDigits_zero_ok_iff hr hnil, byteText_unsigned hplus, and_assoc]

theorem char_le_iff (a b : Char) : a ≤ b ↔ a.toNat ≤ b.toNat := Char.le_def.trans UInt32.le_iff_toNat_le

theorem codepoints : '0'.toNat = 48 ∧ '9'.toNat = 57 ∧ 'a'.toNat = 97 ∧ 'f'.toNat = 102 ∧ 'z'.toNat = 122 ∧
    'A'.toNat = 65 ∧ 'F'.toNat = 70 ∧ 'Z'.toNat = 90 :=
  ⟨rfl, rfl, rfl, rfl, rfl, rfl, rfl, rfl⟩

/-- A character is a digit of the radix when its place among `0`–`9`, `a`–`z` or `A`–`Z`, with
the letters from ten on, is below the radix. -/
theorem isDigitOf_iff (radix : Nat) (c : Char) :
    (∃ d, IsDigitOf radix c d) ↔
      (48 ≤ c.toNat ∧ c.toNat ≤ 57 ∧ c.toNat - 48 < radix) ∨
      (97 ≤ c.toNat ∧ c.toNat ≤ 122 ∧ c.toNat - 87 < radix) ∨
      (65 ≤ c.toNat ∧ c.toNat ≤ 90 ∧ c.toNat - 55 < radix) := by
  obtain ⟨h0, h9, ha, -, hz, hA, -, hZ⟩ := codepoints
  unfold IsDigitOf digitValue
  simp only [char_le_iff, h0, h9, ha, hz, hA, hZ]
  split_ifs <;> simp <;> omega

theorem isDigitOf_ten_iff (c : Char) : (∃ d, IsDigitOf 10 c d) ↔ c.isDigit := by
  obtain ⟨h0, h9, -⟩ := codepoints
  rw [isDigitOf_iff]
  simp only [Char.isDigit, ge_iff_le, Bool.and_eq_true, decide_eq_true_eq, UInt32.le_iff_toNat_le,
    Char.toNat_val, h0, h9]
  omega

theorem isDigitOf_sixteen_iff (c : Char) :
    (∃ d, IsDigitOf 16 c d) ↔ c.isDigit ∨ ('a' ≤ c ∧ c ≤ 'f') ∨ ('A' ≤ c ∧ c ≤ 'F') := by
  obtain ⟨h0, h9, ha, hf, -, hA, hF, -⟩ := codepoints
  rw [isDigitOf_iff]
  simp only [Char.isDigit, ge_iff_le, char_le_iff, Bool.and_eq_true, decide_eq_true_eq, UInt32.le_iff_toNat_le,
    Char.toNat_val, h0, h9, ha, hf, hA, hF]
  omega

end CommandLine

namespace Tool

open CommandLine

/-- The digits of an address and their radix: what follows `0x` or `0X` in hexadecimal, and
otherwise the whole text in decimal. -/
def addressDigits : List Char → List Char × Nat
  | '0' :: 'x' :: rest => (rest, 16)
  | '0' :: 'X' :: rest => (rest, 16)
  | cs => (cs, 10)

theorem readInt_congr {s t : String} (h : s.toList = t.toList) (radix : Nat) (lo hi : Int) :
    readInt s radix lo hi = readInt t radix lo hi := by
  unfold readInt
  rw [h]

theorem readAddress_eq (text : String) :
    readAddress text = sevenBits (readInt (String.ofList (addressDigits text.toList).1)
      (addressDigits text.toList).2 0 255) := by
  unfold readAddress
  congr 1
  obtain ⟨cs, rfl⟩ : ∃ cs, text = String.ofList cs := ⟨text.toList, String.ofList_toList.symm⟩
  simp only [String.toList_ofList]
  generalize hd : addressDigits cs = p
  unfold addressDigits at hd
  split at hd <;> subst hd
  · rw [if_pos (by simp)]
    exact readInt_congr (by simp) 16 0 255
  · rw [if_pos (by simp)]
    exact readInt_congr (by simp) 16 0 255
  · rename_i hx hX
    -- neither prefix starts the text
    refine if_neg ?_
    simp only [Bool.or_eq_true, String.startsWith_string_iff, String.toList_ofList, not_or]
    exact ⟨fun ⟨t, ht⟩ => hx t ht.symm, fun ⟨t, ht⟩ => hX t ht.symm⟩

theorem hexByte_eq {n : Nat} (hn : n < 256) :
    hexByte n = String.ofList [Nat.digitChar (n / 16), Nat.digitChar (n % 16)] := by
  unfold hexByte
  by_cases hsmall : n < 16
  · rw [Nat.toDigits_of_lt_base hsmall, Nat.div_eq_of_lt hsmall, Nat.mod_eq_of_lt hsmall]
    rfl
  · rw [Nat.toDigits_of_base_le (by decide) (by omega), Nat.toDigits_of_lt_base (by omega)]
    rfl

theorem one_le_addressRadix (cs : List Char) : 1 ≤ (addressDigits cs).2 := by
  unfold addressDigits
  split <;> simp

theorem byteText_iff_readInt (cs : List Char) (n : Nat) :
    ByteText (addressDigits cs).2 (addressDigits cs).1 n ↔
      readInt (String.ofList (addressDigits cs).1) (addressDigits cs).2 0 255 = .ok n := by
  rw [readInt_ok_iff (one_le_addressRadix cs), String.toList_ofList]
  constructor
  · exact fun h => ⟨n, h, rfl⟩
  · rintro ⟨m, hm, hmn⟩
    rwa [Int.ofNat_inj.1 hmn]

theorem sevenBits_ok {n : Nat} (hn : n ≤ 255) :
    sevenBits (.ok n) = if n ≤ 0x7F then .ok (.int n) else
      .error (.invalid ("0x" ++ String.ofList [Nat.digitChar (n / 16), Nat.digitChar (n % 16)] ++
        " is not a 7-bit address")) := by
  unfold sevenBits
  dsimp only
  rw [Int.toNat_natCast, hexByte_eq (by omega)]
  by_cases h : n ≤ 0x7F
  · rw [if_pos (by exact_mod_cast h), if_pos h]
  · rw [if_neg (by exact_mod_cast h), if_neg h]

/-- An address is read exactly from the text of a byte of at most `0x7F`, at the byte's value. -/
theorem readAddress_ok_iff (text : String) (v : Value) :
    readAddress text = .ok v ↔
      ∃ n, ByteText (addressDigits text.toList).2 (addressDigits text.toList).1 n ∧ n ≤ 0x7F ∧ v = .int n := by
  rw [readAddress_eq]
  cases hres : readInt (String.ofList (addressDigits text.toList).1) (addressDigits text.toList).2 0 255 with
  | ok m =>
    obtain ⟨n, hn, rfl⟩ := (readInt_ok_iff (one_le_addressRadix _) _ _).1 hres
    rw [String.toList_ofList] at hn
    -- the byte read is the only one the digits are the text of
    have honly : ∀ k, ByteText (addressDigits text.toList).2 (addressDigits text.toList).1 k → k = n :=
      fun k hk => Int.ofNat_inj.1 (Except.ok.inj (((byteText_iff_readInt _ k).1 hk).symm.trans hres))
    rw [sevenBits_ok hn.2]
    by_cases hfit : n ≤ 0x7F
    · rw [if_pos hfit]
      constructor
      · rintro ⟨⟩
        exact ⟨n, hn, hfit, rfl⟩
      · rintro ⟨k, hk, -, rfl⟩
        rw [honly k hk]
    · rw [if_neg hfit]
      simp only [reduceCtorEq, false_iff, not_exists, not_and]
      intro k hk hkfit
      exact absurd (honly k hk ▸ hkfit) hfit
  | error e =>
    simp only [sevenBits, reduceCtorEq, false_iff, not_exists, not_and]
    intro n hn
    rw [byteText_iff_readInt, hres] at hn
    cases hn

/-- A byte wider than seven bits is refused with its value in two lower-case hexadecimal digits. -/
theorem readAddress_wide (text : String) (n : Nat)
    (hn : ByteText (addressDigits text.toList).2 (addressDigits text.toList).1 n) (hwide : 0x7F < n) :
    readAddress text = .error (.invalid
      ("0x" ++ String.ofList [Nat.digitChar (n / 16), Nat.digitChar (n % 16)] ++ " is not a 7-bit address")) := by
  rw [readAddress_eq, (byteText_iff_readInt _ n).1 hn, sevenBits_ok hn.2, if_neg (by omega)]

theorem readAddress_not_byte (text : String)
    (hnone : ¬∃ n, ByteText (addressDigits text.toList).2 (addressDigits text.toList).1 n) :
    ∃ e, readInt (String.ofList (addressDigits text.toList).1) (addressDigits text.toList).2 0 255 = .error e ∧
      readAddress text = .error (.invalid e.message) := by
  cases hres : readInt (String.ofList (addressDigits text.toList).1) (addressDigits text.toList).2 0 255 with
  | ok m =>
    obtain ⟨n, hn, -⟩ := (readInt_ok_iff (one_le_addressRadix _) _ _).1 hres
    rw [String.toList_ofList] at hn
    exact absurd ⟨n, hn⟩ hnone
  | error e => exact ⟨e, rfl, by rw [readAddress_eq, hres]; rfl⟩

/-- **Reading a panel address.** It succeeds exactly on the text of a byte of at most `0x7F`, in
hexadecimal after `0x` or `0X` and in decimal otherwise, at its value; a wider byte is refused with
its value in two lower-case hexadecimal digits; every other text is refused with the reason its
digits are no byte. The hexadecimal digits are those of either case. -/
theorem readAddress_answers (text : String) :
    let d := addressDigits text.toList
    (∀ v, readAddress text = .ok v ↔ ∃ n, ByteText d.2 d.1 n ∧ n ≤ 0x7F ∧ v = .int n) ∧
    (∀ n, ByteText d.2 d.1 n → 0x7F < n → readAddress text = .error (.invalid
      ("0x" ++ String.ofList [Nat.digitChar (n / 16), Nat.digitChar (n % 16)] ++ " is not a 7-bit address"))) ∧
    ((¬∃ n, ByteText d.2 d.1 n) →
      ∃ e, readInt (String.ofList d.1) d.2 0 255 = .error e ∧ readAddress text = .error (.invalid e.message)) ∧
    (∀ c, (∃ v, IsDigitOf 10 c v) ↔ c.isDigit) ∧
    (∀ c, (∃ v, IsDigitOf 16 c v) ↔ c.isDigit ∨ ('a' ≤ c ∧ c ≤ 'f') ∨ ('A' ≤ c ∧ c ≤ 'F')) :=
  ⟨readAddress_ok_iff text, readAddress_wide text, readAddress_not_byte text, isDigitOf_ten_iff,
    isDigitOf_sixteen_iff⟩

end Tool

end OledPanel

