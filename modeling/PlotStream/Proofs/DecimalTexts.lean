import PlotStream.Text.Integer

/-!
Decimal digits read as an integer. A text of nothing but digits has no margin, no sign and no
underscores, so all of it is read and only its length can stand in the way.
-/

namespace PlotStream.Text

variable {c : Char} {cs : List Char}

/-- The number that the digits of a text denote, in whatever script they are written. -/
def decimalValue (cs : List Char) : Nat := ofDigits (cs.filterMap digitValue?)

theorem exists_script_of_digit (h : (digitValue? c).isSome) :
    ∃ first ∈ decimalZeros, first ≤ c.toNat ∧ c.toNat < first + 10 := by
  rw [digitValue?, Option.isSome_map, List.find?_isSome] at h
  obtain ⟨first, hmem, hrange⟩ := h
  exact ⟨first, hmem, by simpa using hrange⟩

/-- Digits are visible, and none is a sign. -/
theorem digit_apart (h : (digitValue? c).isSome) :
    isIntegerMargin c = false ∧ c ≠ '-' ∧ c ≠ '+' := by
  obtain ⟨first, hmem, hle, hlt⟩ := exists_script_of_digit h
  have htable : ∀ first ∈ decimalZeros, ∀ k < 10,
      isBlank (Char.ofNat (first + k)) = false ∧ first + k ≠ 0x2D ∧ first + k ≠ 0x2B := by
    decide +kernel
  obtain ⟨hblank, hminus, hplus⟩ := htable first hmem (c.toNat - first) (by omega)
  rw [Nat.add_sub_cancel' hle] at hblank hminus hplus
  rw [Char.ofNat_toNat] at hblank
  refine ⟨by simp [isIntegerMargin, hblank], ?_, ?_⟩
  · rintro rfl
    exact hminus rfl
  · rintro rfl
    exact hplus rfl

theorem isDecimal_iff : isDecimal cs = true ↔ cs ≠ [] ∧ ∀ c ∈ cs, (digitValue? c).isSome := by
  simp [isDecimal]

theorem digitRun_decimal (h : ∀ c ∈ cs, (digitValue? c).isSome) {expected : Bool}
    (hne : expected = true → cs ≠ []) :
    digitRun expected cs = some (cs.filterMap digitValue?, []) := by
  induction cs generalizing expected with
  | nil =>
      cases expected with
      | false => rfl
      | true => exact absurd rfl (hne rfl)
  | cons c rest ih =>
      obtain ⟨d, hd⟩ := Option.isSome_iff_exists.mp (h c List.mem_cons_self)
      have hrest : digitRun false rest = some (rest.filterMap digitValue?, []) :=
        ih (fun c hc => h c (List.mem_cons_of_mem _ hc)) nofun
      rw [digitRun, hd, List.filterMap_cons_some hd]
      simp only [hrest, Option.map_some]

theorem length_filterMap_digits (h : ∀ c ∈ cs, (digitValue? c).isSome) :
    (cs.filterMap digitValue?).length = cs.length := by
  induction cs with
  | nil => rfl
  | cons c rest ih =>
      obtain ⟨d, hd⟩ := Option.isSome_iff_exists.mp (h c List.mem_cons_self)
      rw [List.filterMap_cons_some hd, List.length_cons, List.length_cons,
        ih fun c hc => h c (List.mem_cons_of_mem _ hc)]

theorem dropMargin_decimal (h : ∀ c ∈ cs, (digitValue? c).isSome) :
    cs.dropWhile isIntegerMargin = cs := by
  cases cs with
  | nil => rfl
  | cons c rest =>
      have hmargin := (digit_apart (h c List.mem_cons_self)).1
      exact List.dropWhile_cons_of_neg (by simp [hmargin])

theorem integerBody_decimal (h : ∀ c ∈ cs, (digitValue? c).isSome) : integerBody cs = cs := by
  have hreverse : ∀ c ∈ cs.reverse, (digitValue? c).isSome :=
    fun c hc => h c (List.mem_reverse.mp hc)
  rw [integerBody, dropMargin_decimal h, dropMargin_decimal hreverse, List.reverse_reverse]

theorem splitSign_decimal (h : ∀ c ∈ cs, (digitValue? c).isSome) : splitSign cs = (1, cs) := by
  unfold splitSign
  split
  · exact absurd rfl (digit_apart (h '-' List.mem_cons_self)).2.1
  · exact absurd rfl (digit_apart (h '+' List.mem_cons_self)).2.2
  · rfl

/-- Digits are read as the number that they denote, unless they are too many. -/
theorem integer_decimal {text : String} (h : isDecimal text.toList = true) :
    integer text =
      if maxIntegerDigits < text.toList.length then .error (.tooLong text.toList.length)
      else .ok (decimalValue text.toList) := by
  obtain ⟨hne, hall⟩ := isDecimal_iff.mp h
  simp only [integer, integerBody_decimal hall, splitSign_decimal hall,
    digitRun_decimal hall fun _ => hne, length_filterMap_digits hall, decimalValue]
  split
  · rfl
  · simp

end PlotStream.Text
