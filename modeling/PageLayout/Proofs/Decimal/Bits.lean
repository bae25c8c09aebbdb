import Mathlib
import PageLayout.Decimal.Binary

/-!
# Doubles and their bits

A double with a factor of 53 bits is packed into its sign, its exponent and the 52 lower bits of
its factor.  What `BinaryParts.classify` reads off these bits is what was packed
(`classify_pack_finite`), and the opposite number has the opposite sign (`neg_pack_finite`).  A
double whose exponent is too large is packed as an infinity.
-/

namespace PageLayout.BinaryParts

open Float.Model (Format UnpackedFloat)
open Float.Model.UnpackedFloat (Sign pack packComponents unpack)

/-- Whether a sign is that of a negative number. -/
def isNegative : Sign → Bool
  | .negative => true
  | .positive => false

/-- A factor has 53 bits. -/
structure FullFactor (m : Nat) : Prop where
  le : 2 ^ 52 ≤ m
  lt : m < 2 ^ 53

theorem FullFactor.pos {m : Nat} (h : FullFactor m) : 0 < m := Nat.lt_of_lt_of_le (by decide) h.le

/-- A full factor has its highest bit in the place that is not stored. -/
theorem FullFactor.log2_eq {m : Nat} (h : FullFactor m) : m.log2 = 52 :=
  (Nat.log2_eq_iff (Nat.pos_iff_ne_zero.1 h.pos)).2 ⟨h.le, h.lt⟩

/-! ## Bits -/

/-- The parts of a double stand side by side. -/
theorem toNat_packComponents (s : Sign) (e : BitVec 11) (m : BitVec 52) :
    (packComponents Format.binary64 s e m).toNat =
      (isNegative s).toNat * 2 ^ 63 + e.toNat * 2 ^ 52 + m.toNat := by
  have hsign : s.toBitVec.toNat = (isNegative s).toNat := by cases s <;> rfl
  show (s.toBitVec ++ e ++ m).toNat = _
  rw [BitVec.toNat_append, BitVec.toNat_append, ← Nat.shiftLeft_add_eq_or_of_lt m.isLt,
    ← Nat.shiftLeft_add_eq_or_of_lt e.isLt, hsign, Nat.shiftLeft_eq, Nat.shiftLeft_eq]
  omega

/-- The parts of a double are read off its bits. -/
theorem classify_of_toNat {x : Float} {negative : Bool} {field stored : Nat}
    (hx : x.toBits.toNat = negative.toNat * 2 ^ 63 + field * 2 ^ 52 + stored)
    (hfield : field < 2048) (hstored : stored < 2 ^ 52) :
    classify x =
      if field = 2047 then if stored = 0 then .infinite negative else .nan
      else if field = 0 then .finite ⟨negative, stored, -1074⟩
      else .finite ⟨negative, 2 ^ 52 + stored, (field : Int) - 1075⟩ := by
  have hbits : storedBits = 2 ^ 52 := rfl
  have hsign : x.toBits.toNat.testBit 63 = negative := by
    rw [hx, Nat.testBit_eq_decide_div_mod_eq]
    cases negative
    · exact decide_eq_false (by simp only [Bool.toNat_false]; omega)
    · exact decide_eq_true (by simp only [Bool.toNat_true]; omega)
  have hexponent : x.toBits.toNat / storedBits % 2048 = field := by
    rw [hx, hbits]
    omega
  have hrest : x.toBits.toNat % storedBits = stored := by
    rw [hx, hbits]
    omega
  rw [classify]
  simp only [hsign, hexponent, hrest, beq_iff_eq]
  rfl

/-! ## Packing -/

section Packing

variable {s : Sign} {m : Nat} {e : Int} {hm : 0 < m}

/-- A double whose exponent is in range is packed into its parts. -/
theorem pack_finite (h : FullFactor m) (hlow : -1074 ≤ e) (hhigh : e ≤ 971) :
    pack Format.binary64 (.finite s m e hm) =
      packComponents Format.binary64 s (BitVec.ofNat 11 (e + 1075).toNat) (BitVec.ofNat 52 m) := by
  have hbiased : (e + (Format.binary64.exponentBias : Int) +
      (Format.binary64.mantissaBitsWithoutImplicit : Int)).toNat = (e + 1075).toNat := by
    show (e + 1023 + 52).toNat = _
    omega
  rw [pack]
  dsimp only
  rw [hbiased, if_neg, if_pos]
  · show m.log2 + 1 = 53
    rw [h.log2_eq]
  · show ¬2 ^ 11 ≤ (e + 1075).toNat + 1
    omega

/-- A double whose exponent is too large is packed as an infinity. -/
theorem pack_overflow (hhigh : 971 < e) :
    Float.Model.pack (.finite s m e hm) = .pack (.infinity s) := by
  have hbiased : (e + (Format.binary64.exponentBias : Int) +
      (Format.binary64.mantissaBitsWithoutImplicit : Int)).toNat = (e + 1075).toNat := by
    show (e + 1023 + 52).toNat = _
    omega
  have hbits : pack Format.binary64 (.finite s m e hm) = pack Format.binary64 (.infinity s) := by
    unfold pack
    dsimp only
    rw [hbiased, if_pos]
    show 2 ^ 11 ≤ (e + 1075).toNat + 1
    omega
  simp only [Float.Model.pack, hbits]

/-- The parts of a packed double are the ones that it has. -/
theorem classify_pack_finite (h : FullFactor m) (hlow : -1074 ≤ e) (hhigh : e ≤ 971) :
    classify (.ofModel (.pack (.finite s m e hm))) = .finite ⟨isNegative s, m, e⟩ := by
  have hle := h.le
  have hlt := h.lt
  have hbits : (Float.ofModel (.pack (.finite s m e hm))).toBits.toNat =
      (isNegative s).toNat * 2 ^ 63 + (e + 1075).toNat * 2 ^ 52 + (m - 2 ^ 52) := by
    show (pack Format.binary64 (.finite s m e hm)).toNat = _
    rw [pack_finite h hlow hhigh, toNat_packComponents, BitVec.toNat_ofNat, BitVec.toNat_ofNat]
    omega
  rw [classify_of_toNat hbits (by omega) (by omega), if_neg (by omega), if_neg (by omega)]
  have hfactor : 2 ^ 52 + (m - 2 ^ 52) = m := by omega
  have hexponent : ((e + 1075).toNat : Int) - 1075 = e := by omega
  rw [hfactor, hexponent]

/-- Unpacking is the opposite of packing. -/
theorem unpack_pack_finite (h : FullFactor m) (hlow : -1074 ≤ e) (hhigh : e ≤ 971) :
    unpack Format.binary64 (pack Format.binary64 (.finite s m e hm)) = .finite s m e hm := by
  have hle := h.le
  have hlt := h.lt
  rw [pack_finite h hlow hhigh]
  have hfactor : (1#1 ++ BitVec.ofNat 52 m).toNat = m := by
    rw [BitVec.toNat_append, ← Nat.shiftLeft_add_eq_or_of_lt (BitVec.isLt _), Nat.shiftLeft_eq,
      BitVec.toNat_ofNat, BitVec.toNat_ofNat]
    omega
  have hexponent : ((BitVec.ofNat 11 (e + 1075).toNat).toNat : Int) - 1075 = e := by
    rw [BitVec.toNat_ofNat]
    omega
  have hfinite : BitVec.ofNat 11 (e + 1075).toNat ≠ -1#11 := fun heq => by
    have hfield := congrArg BitVec.toNat heq
    rw [BitVec.toNat_ofNat] at hfield
    have hones : (-1#11).toNat = 2047 := rfl
    omega
  have hnormal : BitVec.ofNat 11 (e + 1075).toNat ≠ 0#11 := fun heq => by
    have hfield := congrArg BitVec.toNat heq
    rw [BitVec.toNat_ofNat, BitVec.toNat_ofNat] at hfield
    omega
  rw [unpack]
  simp only [UnpackedFloat.unpackMantissa_packComponents, UnpackedFloat.unpackExponent_packComponents,
    UnpackedFloat.unpackSign_packComponents]
  have hcongr : ∀ {s' : Sign} {m' : Nat} {e' : Int} (hm' : 0 < m'), s' = s → m' = m → e' = e →
      UnpackedFloat.finite s' m' e' hm' = .finite s m e hm := by
    rintro _ _ _ _ rfl rfl rfl
    rfl
  rw [if_neg hfinite, if_neg hnormal]
  exact hcongr _ (Sign.ofBitVec_toBitVec s) hfactor hexponent

theorem neg_pack_finite (h : FullFactor m) (hlow : -1074 ≤ e) (hhigh : e ≤ 971) :
    -Float.ofModel (.pack (.finite s m e hm)) = .ofModel (.pack (.finite (-s) m e hm)) := by
  show Float.ofModel (.pack (unpack Format.binary64
    (pack Format.binary64 (.finite s m e hm))).neg) = _
  rw [unpack_pack_finite h hlow hhigh]
  rfl

end Packing

end PageLayout.BinaryParts
