import PageLayout.Decimal.Reader
import PageLayout.Proofs.Decimal.Bits

/-!
# The double nearest to an integer

An integer of more than 53 bits is cut to its 53 upper bits, and these are rounded by the bits
that were cut off.  The result is a full factor again, unless all 53 bits are set and are rounded
up.  Then the exponent grows by one (`round_shiftLeft`).

So the double nearest to an integer is finite exactly below `doubleLimit`, which lies halfway
between the greatest double and the power of two after it.
-/

namespace PageLayout.Decimal

open BinaryParts (FullFactor)
open Float.Model (Format UnpackedFloat totalExponent)
open Float.Model.UnpackedFloat (ExtendedMantissa roundWithAccuracy shiftToExponent
  shiftToTargetExponent)

/-! ## Shifting and rounding -/

section Rounding

variable (em : ExtendedMantissa) (k : Nat)

theorem mantissa_shiftRight : (em >>> k).mantissa = em.mantissa / 2 ^ k := by
  induction k with
  | zero => exact (Nat.div_one em.mantissa).symm
  | succ k ih =>
      show (em >>> k).mantissa / 2 = _
      rw [ih, Nat.div_div_eq_div_mul, Nat.pow_succ]

/-- The last bit that is cut off decides between the two neighbours. -/
theorem roundBit_shiftRight_succ :
    (em >>> (k + 1)).roundBit = (em.mantissa / 2 ^ k % 2 != 0) := by
  show ((em >>> k).mantissa % 2 != 0) = _
  rw [mantissa_shiftRight]

theorem roundedMantissa_bounds :
    em.mantissa ≤ em.roundedMantissa ∧ em.roundedMantissa ≤ em.mantissa + 1 := by
  obtain ⟨m, roundBit, stickyBit⟩ := em
  cases roundBit <;> cases stickyBit <;>
    simp only [ExtendedMantissa.roundedMantissa, ExtendedMantissa.accuracy,
      Float.Model.UnpackedFloat.Accuracy.roundToNearestEven]
  all_goals omega

/-- An odd factor is never at rest in the middle: the last bit that is cut off rounds it up. -/
theorem roundedMantissa_of_odd (h : em.mantissa % 2 = 1) :
    em.roundedMantissa = em.mantissa + 1 ↔ em.roundBit = true := by
  obtain ⟨m, roundBit, stickyBit⟩ := em
  cases roundBit <;> cases stickyBit <;>
    simp_all [ExtendedMantissa.roundedMantissa, ExtendedMantissa.accuracy,
      Float.Model.UnpackedFloat.Accuracy.roundToNearestEven]

end Rounding

section Nearest

variable {m : Nat} {e : Int}

/-- The middle between the greatest double with the exponent `k + 1` and the power of two after
it. -/
def roundingLimit (k : Nat) : Nat := (2 ^ 54 - 1) * 2 ^ k

/-- The least integer that no finite double is nearest to. -/
def doubleLimit : Nat := roundingLimit 970

/-- The exponent of the double nearest to an integer of at least 53 bits. -/
def nearestExponent (m : Nat) : Int :=
  m.log2 - 52 + if (2 ^ 54 - 1) * 2 ^ m.log2 ≤ m * 2 ^ 53 then 1 else 0

/-- The 53 upper bits of an integer, and what the bits after them say. -/
def upperBits (m : Nat) : ExtendedMantissa :=
  (⟨m <<< 53, false, false⟩ : ExtendedMantissa) >>> (m.log2 + 1)

theorem mantissa_upperBits (m : Nat) :
    (upperBits m).mantissa = m * 2 ^ 53 / 2 ^ (m.log2 + 1) := by
  rw [upperBits, mantissa_shiftRight]
  dsimp only
  rw [Nat.shiftLeft_eq]

theorem roundBit_upperBits (m : Nat) :
    (upperBits m).roundBit = (m * 2 ^ 53 / 2 ^ m.log2 % 2 != 0) := by
  rw [upperBits, roundBit_shiftRight_succ]
  dsimp only
  rw [Nat.shiftLeft_eq]

theorem fullFactor_upperBits (h : m ≠ 0) : FullFactor (upperBits m).mantissa := by
  have hle := Nat.log2_self_le h
  have hlt := Nat.lt_log2_self (n := m)
  rw [mantissa_upperBits]
  constructor
  · rw [Nat.le_div_iff_mul_le (Nat.two_pow_pos _), Nat.pow_succ]
    omega
  · rw [Nat.div_lt_iff_lt_mul (Nat.two_pow_pos _)]
    omega

/-- The upper bits are rounded to a power of two exactly if they and the bit after them are all
set. -/
theorem roundedMantissa_upperBits (h : m ≠ 0) :
    (upperBits m).roundedMantissa = 2 ^ 53 ↔ (2 ^ 54 - 1) * 2 ^ m.log2 ≤ m * 2 ^ 53 := by
  have hfull := fullFactor_upperBits h
  have hbounds := roundedMantissa_bounds (upperBits m)
  have hlt := Nat.lt_log2_self (n := m)
  have hfactor : (upperBits m).mantissa = m * 2 ^ 53 / 2 ^ m.log2 / 2 := by
    rw [mantissa_upperBits, Nat.pow_succ 2 m.log2, Nat.div_div_eq_div_mul]
  have hless : m * 2 ^ 53 / 2 ^ m.log2 < 2 ^ 54 := by
    rw [Nat.div_lt_iff_lt_mul (Nat.two_pow_pos _)]
    rw [Nat.pow_succ] at hlt
    omega
  rw [← Nat.le_div_iff_mul_le (Nat.two_pow_pos _)]
  have hle := hfull.le
  have hlt' := hfull.lt
  constructor
  · intro hround
    have hodd : (upperBits m).mantissa % 2 = 1 := by omega
    have hset := (roundedMantissa_of_odd _ hodd).1 (by omega)
    rw [roundBit_upperBits, bne_iff_ne] at hset
    omega
  · intro hall
    have hodd : (upperBits m).mantissa % 2 = 1 := by omega
    have hset := (roundedMantissa_of_odd _ hodd).2 (by rw [roundBit_upperBits, bne_iff_ne]; omega)
    omega

/-- A factor is shifted until it has 53 bits, if the least exponent allows it. -/
theorem targetExponent_totalExponent (m : Nat) (e : Int) :
    Format.binary64.targetExponent (totalExponent m e) = max (m.log2 + 1 + e - 53) (-1074) := rfl

/-- A full factor stays where it is. -/
theorem shiftToTargetExponent_fullFactor (h : FullFactor m) (he : -1074 ≤ e) :
    shiftToTargetExponent Format.binary64 m e .exact = (⟨m, false, false⟩, e) := by
  have hshift : (Format.binary64.targetExponent (totalExponent m e) - e).toNat = 0 := by
    rw [targetExponent_totalExponent, h.log2_eq]
    omega
  rw [shiftToTargetExponent, shiftToExponent, hshift]
  show ((⟨m, false, false⟩ : ExtendedMantissa), e + ((0 : Nat) : Int)) = _
  rw [Int.natCast_zero, Int.add_zero]

/-- A factor of one bit too many is halved. -/
theorem shiftToTargetExponent_overflow (he : -1074 ≤ e) :
    shiftToTargetExponent Format.binary64 (2 ^ 53) e .exact = (⟨2 ^ 52, false, false⟩, e + 1) := by
  have hshift : (Format.binary64.targetExponent (totalExponent (2 ^ 53) e) - e).toNat = 1 := by
    rw [targetExponent_totalExponent, Nat.log2_two_pow]
    omega
  rw [shiftToTargetExponent, shiftToExponent, hshift]
  rfl

/-- An integer is cut to its upper bits. -/
theorem shiftToTargetExponent_shiftLeft (h : 52 ≤ m.log2) :
    shiftToTargetExponent Format.binary64 (m <<< 53) (-53) .exact =
      (upperBits m, (m.log2 : Int) - 52) := by
  have hlog : (m <<< 53).log2 = m.log2 + 53 := by
    have hm : m ≠ 0 := by
      rintro rfl
      cases h
    have hle := Nat.log2_self_le hm
    have hlt := Nat.lt_log2_self (n := m)
    rw [Nat.shiftLeft_eq, Nat.log2_eq_iff (Nat.mul_ne_zero hm (by decide))]
    constructor
    · rw [Nat.pow_add]
      exact Nat.mul_le_mul_right _ hle
    · rw [Nat.add_right_comm, Nat.pow_add]
      exact Nat.mul_lt_mul_of_pos_right hlt (Nat.two_pow_pos 53)
  have hshift : (Format.binary64.targetExponent (totalExponent (m <<< 53) (-53)) - -53).toNat =
      m.log2 + 1 := by
    rw [targetExponent_totalExponent, hlog]
    omega
  have hstart : ExtendedMantissa.ofMantissaAndAccuracy (m <<< 53) .exact =
      ⟨m <<< 53, false, false⟩ := rfl
  have hexponent : (-53 : Int) + ((m.log2 + 1 : Nat) : Int) = m.log2 - 52 := by omega
  rw [shiftToTargetExponent, shiftToExponent, hshift, hstart, upperBits, hexponent]

/-- An integer of at least 53 bits is rounded to a full factor. -/
theorem round_shiftLeft (h : 52 ≤ m.log2) :
    ∃ r, ∃ hr : FullFactor r,
      roundWithAccuracy Format.binary64 .positive (m <<< 53) (-53) .exact =
        .finite .positive r (nearestExponent m) hr.pos := by
  have hm : m ≠ 0 := by
    rintro rfl
    cases h
  have hfull := fullFactor_upperBits hm
  have hbounds := roundedMantissa_bounds (upperBits m)
  have hround := roundedMantissa_upperBits hm
  rw [roundWithAccuracy, shiftToTargetExponent_shiftLeft h]
  dsimp only
  by_cases hcarry : (upperBits m).roundedMantissa = 2 ^ 53
  · have hr : FullFactor (2 ^ 52) := ⟨Nat.le_refl _, by decide⟩
    refine ⟨2 ^ 52, hr, ?_⟩
    rw [nearestExponent, if_pos (hround.1 hcarry), hcarry, shiftToTargetExponent_overflow (by omega),
      dif_neg (Nat.pos_iff_ne_zero.1 hr.pos)]
  · have hr : FullFactor (upperBits m).roundedMantissa :=
      ⟨Nat.le_trans hfull.le hbounds.1, by have := hfull.lt; omega⟩
    refine ⟨_, hr, ?_⟩
    rw [shiftToTargetExponent_fullFactor hr (by omega)]
    dsimp only
    rw [dif_neg (Nat.pos_iff_ne_zero.1 hr.pos), nearestExponent, if_neg (mt hround.2 hcarry), Int.add_zero]

/-- The exponent of the nearest double is at most `k + 1` below the middle after the greatest double
with this exponent, and nowhere else. -/
theorem nearestExponent_le_iff (hm : m ≠ 0) (k : Nat) :
    nearestExponent m ≤ k + 1 ↔ m < roundingLimit k := by
  have hle := Nat.log2_self_le hm
  have hlt := Nat.lt_log2_self (n := m)
  rw [nearestExponent, roundingLimit]
  obtain hless | heq | hmore := Nat.lt_trichotomy m.log2 (53 + k)
  · have hpow : 2 ^ (m.log2 + 1) ≤ 2 ^ (53 + k) := Nat.pow_le_pow_right (by decide) hless
    rw [Nat.pow_add 2 53 k] at hpow
    refine iff_of_true ?_ (by omega)
    split <;> omega
  · rw [heq, Nat.pow_add]
    split <;> omega
  · have hpow : 2 ^ (54 + k) ≤ 2 ^ m.log2 := Nat.pow_le_pow_right (by decide) (by omega)
    rw [Nat.pow_add 2 54 k] at hpow
    refine iff_of_false ?_ (by omega)
    split <;> omega

/-- An integer of more than 400 digits is above the limit. -/
theorem doubleLimit_le_of_length (h : 400 < (Nat.toDigits 10 m).length) : doubleLimit ≤ m := by
  rw [← Nat.not_le, Nat.length_toDigits_le_iff (by decide) (by decide), Nat.not_lt] at h
  refine Nat.le_trans ?_ h
  decide +kernel

/-- The double nearest to an integer is its rounded one. -/
theorem nearest_eq (h : 2 ^ 53 ≤ m) :
    nearest m 0 =
      if 400 < (Nat.toDigits 10 m).length then .ofModel (.pack (.infinity .positive))
      else .ofModel (.pack (roundWithAccuracy Format.binary64 .positive (m <<< 53) (-53) .exact)) := by
  have hm : m ≠ 0 := by omega
  have hscientific : UnpackedFloat.ofScientific Format.binary64 m 0 =
      roundWithAccuracy Format.binary64 .positive (m <<< 53 * 1) (-53) .exact := by
    rw [UnpackedFloat.ofScientific, dif_neg hm, if_neg, if_neg, if_pos (Int.le_refl 0)]
    · rfl
    · show ¬(0 : Int) < -(2048 + m.log2)
      omega
    · decide
  have hread : Float.ofScientific m false 0 =
      .ofModel (.pack (roundWithAccuracy Format.binary64 .positive (m <<< 53) (-53) .exact)) := by
    rw [Nat.mul_one] at hscientific
    rw [Float.ofScientific, dif_neg (by omega), ← hscientific]
    rfl
  have hpoint : (400 : Int) < 0 + (Nat.toDigits 10 m).length ↔ 400 < (Nat.toDigits 10 m).length := by
    omega
  unfold nearest
  rw [beq_eq_false_iff_ne.2 hm, if_neg Bool.false_ne_true]
  dsimp only
  rw [hread]
  by_cases hlong : 400 < (Nat.toDigits 10 m).length
  · rw [if_pos (hpoint.2 hlong), if_pos hlong]
    rfl
  · rw [if_neg (mt hpoint.1 hlong), if_neg (by omega), if_neg hlong]

/-- Below the limit the double nearest to an integer beyond 64 bits is finite, and its exponent is
large enough that it lies beyond 64 bits, too. -/
theorem nearest_of_lt (h : 2 ^ 63 ≤ m) (hm : m < doubleLimit) :
    ∃ r, ∃ hr : FullFactor r, ∃ e : Int, 11 ≤ e ∧ e ≤ 971 ∧
      nearest m 0 = .ofModel (.pack (.finite .positive r e hr.pos)) := by
  have hne : m ≠ 0 := by omega
  have hlog : 63 ≤ m.log2 := (Nat.le_log2 hne).2 h
  obtain ⟨r, hr, hround⟩ := round_shiftLeft (m := m) (by omega)
  refine ⟨r, hr, nearestExponent m, ?_, (nearestExponent_le_iff hne 970).2 hm, ?_⟩
  · rw [nearestExponent]
    split <;> omega
  · rw [nearest_eq (by omega), if_neg fun hlong => absurd (doubleLimit_le_of_length hlong) (by omega),
      hround]

/-- From the limit on it is infinite. -/
theorem nearest_of_le (hm : doubleLimit ≤ m) :
    nearest m 0 = .ofModel (.pack (.infinity .positive)) := by
  have hlimit : 2 ^ 53 ≤ doubleLimit := by decide +kernel
  have hne : m ≠ 0 := by omega
  have hlog : 53 ≤ m.log2 := (Nat.le_log2 hne).2 (by omega)
  obtain ⟨r, hr, hround⟩ := round_shiftLeft (m := m) (by omega)
  have hhigh : 971 < nearestExponent m :=
    Int.not_le.1 (mt (nearestExponent_le_iff hne 970).1 (Nat.not_lt.2 hm))
  rw [nearest_eq (by omega), hround, BinaryParts.pack_overflow hhigh]
  exact ite_self _

end Nearest

end PageLayout.Decimal
