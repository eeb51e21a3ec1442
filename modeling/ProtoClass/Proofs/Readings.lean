import ProtoClass.Number.Text

set_option autoImplicit false

/- Two words that say the same number of quanta are the same word, except for the two zeros. So the
text of a number depends on what its word says alone; and a number that has the value of an integer of
32 bits has the text of this integer. -/
namespace ProtoClass.Binary64

variable {x y : Binary64}

theorem fraction_lt (x : Binary64) : x.fraction < twoPow 52 := Nat.mod_lt _ (twoPow_pos 52)

theorem twoPow_53 : twoPow 53 = twoPow 52 * 2 := twoPow_succ 52

theorem significand_lt (x : Binary64) : x.significand < twoPow 53 := by
  have below := x.fraction_lt
  have double := twoPow_53
  unfold significand
  split <;> omega

/-- Only a significand with its leading bit is scaled. -/
theorem le_significand (scaled : 1 ≤ x.exponent) : twoPow 52 ≤ x.significand := by
  unfold significand
  split <;> omega

/-- A word is put together from its sign, its exponent and its fraction. -/
theorem bits_eq (x : Binary64) :
    x.bits.toNat = (if x.negative then twoPow 63 else 0) + x.exponent * twoPow 52 + x.fraction := by
  have below := x.bits.toNat_lt
  have sign : twoPow 63 = 9223372036854775808 := by decide
  have leading : twoPow 52 = 4503599627370496 := by decide
  have width : twoPow 11 = 2048 := by decide
  simp only [negative, exponent, fraction, sign, leading, width, decide_eq_true_iff]
  split <;> omega

theorem eq_of_fields (sign : x.negative = y.negative) (exponents : x.exponent = y.exponent)
    (fractions : x.fraction = y.fraction) : x = y := by
  have same : x.bits.toNat = y.bits.toNat := by
    rw [x.bits_eq, y.bits_eq, sign, exponents, fractions]
  cases x
  cases y
  exact congrArg Binary64.mk (UInt64.toNat_inj.1 same)

/-- A number of a higher exponent is farther from zero. -/
theorem magnitude_lt_of_exponent_lt (lower : x.exponent - 1 < y.exponent - 1) :
    x.magnitude < y.magnitude :=
  calc
    x.magnitude < twoPow 53 * twoPow (x.exponent - 1) :=
      Nat.mul_lt_mul_of_pos_right x.significand_lt (twoPow_pos _)
    _ = twoPow 52 * twoPow (x.exponent - 1 + 1) := by
      rw [twoPow_53, twoPow_succ (x.exponent - 1), Nat.mul_assoc, Nat.mul_comm 2]
    _ ≤ twoPow 52 * twoPow (y.exponent - 1) :=
      Nat.mul_le_mul_left _ (Nat.pow_le_pow_right (by decide) lower)
    _ ≤ y.magnitude := Nat.mul_le_mul_right _ (le_significand (by omega))

theorem fields_of_magnitude (same : x.magnitude = y.magnitude) :
    x.exponent = y.exponent ∧ x.fraction = y.fraction := by
  have scales : x.exponent - 1 = y.exponent - 1 := by
    rcases Nat.lt_trichotomy (x.exponent - 1) (y.exponent - 1) with lower | equal | higher
    · have less := magnitude_lt_of_exponent_lt lower
      omega
    · exact equal
    · have less := magnitude_lt_of_exponent_lt higher
      omega
  have significands : x.significand = y.significand := by
    rw [magnitude, magnitude, spacing, spacing, scales] at same
    exact Nat.eq_of_mul_eq_mul_right (twoPow_pos _) same
  -- the leading bit tells the exponent 0 from 1, which share their scale
  have first := x.fraction_lt
  have second := y.fraction_lt
  unfold significand at significands
  split at significands <;> split at significands <;> omega

theorem reading_finite {q : Int} (reads : x.reading = .finite q) :
    q = if x.negative then -(x.magnitude : Int) else x.magnitude := by
  unfold reading at reads
  split at reads
  · split at reads <;> cases reads
  · exact (Reading.finite.inj reads).symm

theorem magnitude_of_reading {q : Int} (reads : x.reading = .finite q) : x.magnitude = q.natAbs := by
  rw [reading_finite reads]
  split <;> simp

theorem negative_of_reading {q : Int} (reads : x.reading = .finite q) (nonzero : q ≠ 0) :
    x.negative = decide (q < 0) := by
  have value := reading_finite reads
  symm
  cases sign : x.negative with
  | true =>
    rw [sign, if_pos rfl] at value
    rw [decide_eq_true_iff]
    omega
  | false =>
    rw [sign, if_neg Bool.false_ne_true] at value
    rw [decide_eq_false_iff_not]
    omega

/-- Only the two zeros say the same in two words. -/
theorem eq_of_reading_finite {q : Int} (first : x.reading = .finite q) (second : y.reading = .finite q)
    (nonzero : q ≠ 0) : x = y := by
  obtain ⟨exponents, fractions⟩ := fields_of_magnitude
    ((magnitude_of_reading first).trans (magnitude_of_reading second).symm)
  refine eq_of_fields ?_ exponents fractions
  rw [negative_of_reading first nonzero, negative_of_reading second nonzero]

theorem unit_pos : 0 < unit := by
  unfold unit
  exact Int.natCast_pos.2 (twoPow_pos 1074)

theorem natAbs_unit : unit.natAbs = twoPow 1074 := by
  unfold unit
  exact Int.natAbs_natCast _

/-- An integer of fewer than sixteen digits is read off as itself. -/
theorem smallInteger?_of_reading {i : Int} (reads : x.reading = .finite (i * unit))
    (small : i.natAbs < tenPow 15) : x.smallInteger? = some i := by
  have within : (i * unit).natAbs < tenPow 15 * twoPow 1074 := by
    rw [Int.natAbs_mul, natAbs_unit]
    exact Nat.mul_lt_mul_of_pos_right small (twoPow_pos 1074)
  rw [smallInteger?, reads]
  dsimp only
  rw [if_pos ⟨Int.mul_emod_left i unit, within⟩, Int.mul_ediv_cancel i (Int.ne_of_gt unit_pos)]

theorem smallInteger?_congr (same : x.reading = y.reading) : x.smallInteger? = y.smallInteger? := by
  rw [smallInteger?, smallInteger?, same]

/-- The text of a number follows from what its word says. -/
theorem display_congr (same : x.reading = y.reading) : x.display = y.display := by
  rw [display, display, ← smallInteger?_congr same, ← same]
  cases small : x.smallInteger? with
  | some i => rfl
  | none =>
    cases reads : x.reading with
    | nan => rfl
    | infinite negative => rfl
    | finite q =>
      have nonzero : q ≠ 0 := by
        rintro rfl
        have zero := smallInteger?_of_reading (i := 0) (by rw [reads, Int.zero_mul]) (tenPow_pos 15)
        rw [small] at zero
        cases zero
      rw [eq_of_reading_finite reads (same ▸ reads) nonzero]

end ProtoClass.Binary64
