import Upkeep.Text.Numeral
import Mathlib.Data.List.Basic
/-!
# Decimal numerals

A number can be read back from its decimal digits (`digitsValue_decimal`), so that different numbers
have different texts. Untrusted text is read as a number of 64 bits exactly if it stands for one
(`readNat64?_eq_some_iff`).
-/

namespace Upkeep

theorem digitValue_digitChar {d : Nat} (h : d < 10) : digitValue (digitChar d) = d := by
  revert d
  decide

theorem digitsValue_append (ds es : List Char) :
    digitsValue (ds ++ es) = es.foldl (fun v c => v * 10 + digitValue c) (digitsValue ds) :=
  List.foldl_append

/-- Reading the digits of a number gives the number. -/
theorem digitsValue_decimal (n : Nat) : digitsValue (decimal n) = n := by
  induction n using decimal.induct with
  | case1 n h =>
    rw [decimal, if_pos h]
    show 0 * 10 + digitValue (digitChar n) = n
    rw [digitValue_digitChar h]
    omega
  | case2 n h ih =>
    rw [decimal, if_neg h, digitsValue_append, ih]
    show n / 10 * 10 + digitValue (digitChar (n % 10)) = n
    rw [digitValue_digitChar (Nat.mod_lt n (by decide))]
    omega

/-- What is true of every digit is true of the digits of a number. -/
theorem forall_mem_decimal {P : Char → Prop} (h : ∀ d < 10, P (digitChar d)) (n : Nat) :
    ∀ c ∈ decimal n, P c := by
  induction n using decimal.induct with
  | case1 n hn =>
    rw [decimal, if_pos hn]
    exact List.forall_mem_singleton.2 (h n hn)
  | case2 n hn ih =>
    rw [decimal, if_neg hn]
    exact List.forall_mem_append.2
      ⟨ih, List.forall_mem_singleton.2 (h (n % 10) (Nat.mod_lt n (by decide)))⟩

theorem decimal_ne_nil (n : Nat) : decimal n ≠ [] := by
  rw [decimal]
  split
  · exact List.cons_ne_nil _ _
  · exact List.append_ne_nil_of_right_ne_nil _ (List.cons_ne_nil _ _)

/-- Only the number zero is written with a zero in front. -/
theorem eq_zero_of_head?_decimal {n : Nat} (h : (decimal n).head? = some '0') : n = 0 := by
  induction n using decimal.induct with
  | case1 n hn =>
    rw [decimal, if_pos hn] at h
    revert n
    decide
  | case2 n hn ih =>
    rw [decimal, if_neg hn, List.head?_append_of_ne_nil _ (decimal_ne_nil _)] at h
    have hzero := ih h
    omega

theorem decimal_injective {m n : Nat} (h : decimal m = decimal n) : m = n := by
  rw [← digitsValue_decimal m, h, digitsValue_decimal]

/-- Different numbers have different texts. -/
theorem decimalText_injective {m n : Nat} (h : decimalText m = decimalText n) : m = n :=
  decimal_injective (String.ofList_injective h)

/-! ## Numerals of 64 bits -/

/-- One or more digits, perhaps behind a plus sign, stand for a number of 64 bits. -/
def DenotesWord (cs : List Char) (n : Nat) : Prop :=
  ∃ digits ≠ [], (cs = digits ∨ cs = '+' :: digits) ∧ (∀ c ∈ digits, c.isDigit = true) ∧
    n = digitsValue digits ∧ n < 0x10000000000000000

theorem readDecimal?_eq_some_iff {cs : List Char} {n : Nat} :
    readDecimal? cs = some n ↔
      cs ≠ [] ∧ (∀ c ∈ cs, c.isDigit = true) ∧ n = digitsValue cs := by
  unfold readDecimal?
  split
  · next h =>
    simp only [Bool.or_eq_true, List.isEmpty_iff, Bool.not_eq_true', List.all_eq_false] at h
    refine ⟨nofun, fun ⟨hne, hdigits, _⟩ => ?_⟩
    obtain ⟨c, hc, hnot⟩ := h.resolve_left hne
    exact absurd (hdigits c hc) hnot
  · next h =>
    simp only [Bool.or_eq_true, List.isEmpty_iff, Bool.not_eq_true', not_or,
      Bool.not_eq_false, List.all_eq_true] at h
    rw [Option.some.injEq, eq_comm]
    exact ⟨fun hn => ⟨h.1, h.2, hn⟩, fun hn => hn.2.2⟩

theorem readNat64?_eq_some_iff {cs : List Char} {n : Nat} :
    readNat64? cs = some n ↔ DenotesWord cs n := by
  have hread (digits : List Char) : (readDecimal? digits).filter (· < wordLimit) = some n ↔
      digits ≠ [] ∧ (∀ c ∈ digits, c.isDigit = true) ∧ n = digitsValue digits ∧ n < 0x10000000000000000 := by
    rw [Option.filter_eq_some_iff, readDecimal?_eq_some_iff, decide_eq_true_eq, and_assoc,
      and_assoc]
    rfl
  unfold readNat64? DenotesWord
  split
  · next rest =>
    rw [hread]
    constructor
    · rintro ⟨hne, hdigits⟩
      exact ⟨rest, hne, .inr rfl, hdigits⟩
    · rintro ⟨digits, hne, rfl | heq, hdigits⟩
      · exact absurd (hdigits.1 '+' List.mem_cons_self) (by decide)
      · obtain rfl := (List.cons.inj heq).2
        exact ⟨hne, hdigits⟩
  · next hplus =>
    rw [hread]
    constructor
    · rintro ⟨hne, hdigits⟩
      exact ⟨cs, hne, .inl rfl, hdigits⟩
    · rintro ⟨digits, hne, rfl | rfl, hdigits⟩
      · exact ⟨hne, hdigits⟩
      · exact absurd rfl (hplus digits)

/-- A number of 64 bits is read back from its digits. -/
theorem denotesWord_decimal {n : Nat} (h : n < 0x10000000000000000) : DenotesWord (decimal n) n :=
  ⟨decimal n, decimal_ne_nil n, .inl rfl, forall_mem_decimal (by decide) n,
    (digitsValue_decimal n).symm, h⟩

end Upkeep
