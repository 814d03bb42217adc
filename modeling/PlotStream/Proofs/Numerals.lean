import Mathlib.Data.List.Induction
import Mathlib.Data.Nat.Digits.Defs
import PlotStream.Command
import PlotStream.Text.Blank

/-!
Integers as they are written. A literal carries the proof that it is one: an optional minus sign
and ASCII digits without a leading zero. Its value is the mathematical one, however many digits
there are; a number is a literal whose value fits in 32 bits.
-/

namespace PlotStream

namespace Numeral

/-- The number that digits write, the most significant digit first. -/
def written (digits : List Char) : Nat :=
  Nat.ofDigits 10 (digits.reverse.map digitValue)

theorem isDigit_iff {c : Char} : isDigit c = true ↔ 48 ≤ c.toNat ∧ c.toNat ≤ 57 := by
  simp only [isDigit, Bool.and_eq_true, decide_eq_true_eq, Char.le_def, UInt32.le_iff_toNat_le]
  rfl

theorem isBlank_digit {c : Char} (h : isDigit c = true) : Text.isBlank c = false := by
  have hbounds := isDigit_iff.mp h
  simp only [Text.isBlank, Bool.or_eq_false_iff, Bool.and_eq_false_iff, decide_eq_false_iff_not,
    beq_eq_false_iff_ne]
  omega

theorem ne_minus {c : Char} (h : isDigit c = true) : c ≠ '-' := by
  rintro rfl
  exact absurd h (by decide)

theorem digitValue_lt {c : Char} (h : isDigit c = true) : digitValue c < 10 := by
  have hbounds := isDigit_iff.mp h
  have hzero : '0'.toNat = 48 := rfl
  unfold digitValue
  omega

theorem digitValue_ne_zero {c : Char} (h : isDigit c = true) (hzero : c ≠ '0') :
    digitValue c ≠ 0 := by
  have hbounds := isDigit_iff.mp h
  have hne : c.toNat ≠ '0'.toNat := fun heq => hzero (Char.toNat_inj.mp heq)
  have hvalue : '0'.toNat = 48 := rfl
  unfold digitValue
  omega

/-- Reading digits from the left arrives at the number that they write. -/
theorem magnitude_eq_written (digits : List Char) : magnitude digits = written digits := by
  induction digits using List.reverseRecOn with
  | nil => rfl
  | append_singleton more c ih =>
      have hlast : magnitude (more ++ [c]) = 10 * magnitude more + digitValue c := by
        simp [magnitude]
      rw [hlast, ih]
      simp only [written, List.reverse_append, List.reverse_singleton, List.singleton_append,
        List.map_cons, Nat.ofDigits_cons]
      omega

theorem written_lt {digits : List Char} (h : ∀ c ∈ digits, isDigit c = true) :
    written digits < 10 ^ digits.length := by
  have hsmall : ∀ n ∈ digits.reverse.map digitValue, n < 10 := by
    intro n hn
    obtain ⟨c, hc, rfl⟩ := List.mem_map.mp hn
    exact digitValue_lt (h c (List.mem_reverse.mp hc))
  simpa [written] using Nat.ofDigits_lt_base_pow_length (by decide : 1 < 10) hsmall

/-- Without a leading zero every digit counts. -/
theorem le_written {c : Char} {more : List Char} (h : isDigit c = true) (hzero : c ≠ '0') :
    10 ^ more.length ≤ written (c :: more) := by
  have hpos : 0 < digitValue c := Nat.pos_of_ne_zero (digitValue_ne_zero h hzero)
  simp only [written, List.reverse_cons, List.map_append, List.map_cons, List.map_nil,
    Nat.ofDigits_append, List.length_map, List.length_reverse, Nat.ofDigits_singleton]
  calc 10 ^ more.length ≤ 10 ^ more.length * digitValue c := Nat.le_mul_of_pos_right _ hpos
    _ ≤ _ := Nat.le_add_left _ _

theorem isDigit_of_isDigit {c : Char} (h : c.isDigit = true) : isDigit c = true := by
  rw [isDigit_iff]
  simp only [Char.isDigit, Bool.and_eq_true, decide_eq_true_eq, ge_iff_le,
    UInt32.le_iff_toNat_le] at h
  exact h

/-- The usual digits of a number write it. -/
theorem written_toDigits (n : Nat) : written (Nat.toDigits 10 n) = n := by
  rw [← magnitude_eq_written]
  exact Nat.ofDigitChars_toDigits (by decide) (by decide)

/-- Only zero is usually written with a zero in front. -/
theorem eq_zero_of_head_toDigits {n : Nat} (h : (Nat.toDigits 10 n).head? = some '0') : n = 0 := by
  induction n using Nat.strongRecOn with
  | ind n ih =>
      rw [Nat.toDigits_eq_if (by decide)] at h
      split at h
      next hsmall =>
        rw [List.head?_cons, Option.some.injEq] at h
        have hvalue := Nat.toNat_digitChar_of_lt_ten hsmall
        rw [h] at hvalue
        have hzero : '0'.toNat = 48 := rfl
        omega
      next hlarge =>
        obtain ⟨c, more, hdigits⟩ := List.exists_cons_of_ne_nil
          (Nat.toDigits_ne_nil : Nat.toDigits 10 (n / 10) ≠ [])
        have hhead : (Nat.toDigits 10 (n / 10)).head? = some '0' := by
          rw [hdigits] at h ⊢
          exact h
        have hnone := ih (n / 10) (by omega) hhead
        omega

end Numeral

/-- An integer as it is written, of any size. -/
structure Literal where
  negative : Bool
  digits : List Char
  decimal : ∀ c ∈ digits, Numeral.isDigit c = true
  nonempty : digits ≠ []
  /-- There is no leading zero. -/
  canonical : digits.head? = some '0' → digits = ['0']

namespace Literal

def sign (negative : Bool) : List Char :=
  if negative then ['-'] else []

def text (lit : Literal) : List Char :=
  sign lit.negative ++ lit.digits

def value (lit : Literal) : Int :=
  if lit.negative then -(Numeral.written lit.digits : Int) else Numeral.written lit.digits

/-- Whether the value fits in 32 signed bits. -/
def Fits (lit : Literal) : Prop :=
  -(2 ^ 31) ≤ lit.value ∧ lit.value ≤ 2 ^ 31 - 1

theorem value_text (lit : Literal) : Numeral.value lit.text = lit.value := by
  obtain ⟨negative, digits, decimal, nonempty, _⟩ := lit
  cases negative with
  | true => simp [text, sign, value, Numeral.value, Numeral.magnitude_eq_written]
  | false =>
      obtain ⟨c, more, rfl⟩ := List.exists_cons_of_ne_nil nonempty
      have hminus : c ≠ '-' := Numeral.ne_minus (decimal c (by simp))
      simp only [text, sign, value, Bool.false_eq_true, if_false, List.nil_append]
      rw [Numeral.value, Numeral.magnitude_eq_written]
      intro digits heq
      exact hminus (List.cons.inj heq).1

theorem inRange_iff (lit : Literal) : Numeral.inRange lit.value = true ↔ lit.Fits := by
  simp only [Numeral.inRange, Bool.and_eq_true, decide_eq_true_eq]
  unfold Numeral.minValue Numeral.maxValue Fits
  omega

/-- Fewer digits than the greatest number has always fit. -/
theorem fits_of_length_lt (lit : Literal) (h : lit.digits.length < Numeral.maxDigits) :
    lit.Fits := by
  have hlt := Numeral.written_lt lit.decimal
  have hpow : 10 ^ lit.digits.length ≤ 10 ^ 9 :=
    Nat.pow_le_pow_right (by decide) (by simp only [Numeral.maxDigits] at h; omega)
  unfold Fits value
  split <;> omega

theorem ne_zero_of_length (lit : Literal) (h : 1 < lit.digits.length) : lit.digits ≠ ['0'] := by
  intro hzero
  simp [hzero] at h

/-- Anything but a zero begins with another digit. -/
theorem exists_nonzero (lit : Literal) (h : lit.digits ≠ ['0']) :
    ∃ c more, lit.digits = c :: more ∧ c ≠ '0' := by
  obtain ⟨c, more, hdigits⟩ := List.exists_cons_of_ne_nil lit.nonempty
  refine ⟨c, more, hdigits, ?_⟩
  rintro rfl
  exact h (lit.canonical (by rw [hdigits]; rfl))

/-- A number has no more digits than the greatest one. -/
theorem Fits.length_le {lit : Literal} (h : lit.Fits) : lit.digits.length ≤ Numeral.maxDigits := by
  by_contra hlong
  have hmany : 11 ≤ lit.digits.length := Nat.lt_of_not_le hlong
  obtain ⟨c, more, hdigits, hzero⟩ := lit.exists_nonzero (lit.ne_zero_of_length (by omega))
  have hmore : 10 ≤ more.length := by
    rw [hdigits, List.length_cons] at hmany
    omega
  have hle : 10 ^ more.length ≤ Numeral.written lit.digits := by
    rw [hdigits]
    exact Numeral.le_written (lit.decimal c (by simp [hdigits])) hzero
  have hpow : 10 ^ 10 ≤ 10 ^ more.length := Nat.pow_le_pow_right (by decide) hmore
  simp only [Fits, value] at h
  split at h <;> omega

/-- A zero; it can have a sign. -/
def zero (negative : Bool) : Literal where
  negative
  digits := ['0']
  decimal := by
    intro c hc
    rw [List.mem_singleton.mp hc]
    rfl
  nonempty := by simp
  canonical := by simp

/-- An integer as it is usually written. -/
def ofInt (v : Int) : Literal where
  negative := decide (v < 0)
  digits := Nat.toDigits 10 v.natAbs
  decimal _ hc :=
    Numeral.isDigit_of_isDigit (Nat.isDigit_of_mem_toDigits (by decide) (by decide) hc)
  nonempty := Nat.toDigits_ne_nil
  canonical h := by
    rw [Numeral.eq_zero_of_head_toDigits h]
    rfl

theorem value_ofInt (v : Int) : (ofInt v).value = v := by
  simp only [value, ofInt, Numeral.written_toDigits, decide_eq_true_eq]
  split <;> omega

theorem text_ofInt (v : Int) : (ofInt v).text = (toString v).toList := by
  rw [Int.toString_eq_repr]
  cases v with
  | ofNat n =>
      have hsign : decide (Int.ofNat n < 0) = false := by simp
      simp only [text, ofInt, hsign]
      exact Nat.toList_repr.symm
  | negSucc n =>
      have hsign : decide (Int.negSucc n < 0) = true := by simp
      simp only [text, ofInt, hsign, sign, Int.repr, String.toList_append, Nat.toList_repr]
      rfl

end Literal

/-- An integer that a command can carry. -/
structure Number extends Literal where
  fits : toLiteral.Fits

def Number.zero (negative : Bool) : Number where
  toLiteral := .zero negative
  fits := Literal.fits_of_length_lt _ (by simp [Literal.zero, Numeral.maxDigits])

theorem Number.inRange (n : Number) : Numeral.inRange n.value = true :=
  n.inRange_iff.mpr n.fits

end PlotStream
