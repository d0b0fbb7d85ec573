import Mathlib.Tactic.Ring
import TypedJson.Number.Binary64
import TypedJson.Number.WideInt

/-!
Finite binary numbers as a sign, a significand and a scale. Putting a number together from the
three and taking them from it are inverse to each other, rounding gives a pair that can be
stored, and rounding a magnitude that is stored already changes nothing.
-/

namespace TypedJson.Binary64

open Number (roundHalfEven roundHalfEven_mul)

/-- A significand and a scale as a finite number holds them. -/
structure Stored (significand scale : Nat) : Prop where
  bound : significand < 0x20000000000000
  range : scale ≤ 2045
  normal : significand < 0x10000000000000 → scale = 0

-----------------------------------------------------------------------------------------
-- Putting together and taking apart
-----------------------------------------------------------------------------------------

/-- A finite number holds its significand and scale, by cases on the exponent field. -/
theorem stored_of_isFinite {x : Binary64} (h : x.isFinite = true)
    : Stored x.significand x.scale := by
  have hf : x.fraction < 0x10000000000000 := Nat.mod_lt _ (by decide)
  have he : x.exponentField < 2048 := Nat.mod_lt _ (by decide)
  simp only [isFinite, bne_iff_ne] at h
  by_cases hz : x.exponentField = 0
  · have hs : x.significand = x.fraction := if_pos hz
    have hk : x.scale = 0 := by simp [scale, hz]
    exact ⟨by omega, by omega, fun _ => hk⟩
  · have hs : x.significand = x.fraction + 0x10000000000000 := if_neg hz
    have hk : x.scale = x.exponentField - 1 := rfl
    exact ⟨by omega, by omega, fun _ => by omega⟩

/-- The bits of a number put together, below the sign bit. -/
def low (significand scale : Nat) : Nat :=
  if significand < 0x10000000000000 then significand
  else (scale + 1) * 0x10000000000000 + (significand - 0x10000000000000)

variable {negative : Bool} {significand scale : Nat}

theorem low_lt (h : Stored significand scale) : low significand scale < 0x7FF0000000000000 := by
  obtain ⟨hb, hr, _⟩ := h
  unfold low
  split <;> omega

theorem toNat_bits_make (h : Stored significand scale)
    : (make negative significand scale).bits.toNat =
        low significand scale + if negative then 0x8000000000000000 else 0 := by
  have hl := low_lt h
  have hm : (make negative significand scale).bits =
      UInt64.ofNat (low significand scale + if negative then 0x8000000000000000 else 0) := rfl
  rw [hm, UInt64.toNat_ofNat', Nat.mod_eq_of_lt]
  split <;> omega

theorem exponentField_make (h : Stored significand scale)
    : (make negative significand scale).exponentField =
        if significand < 0x10000000000000 then 0 else scale + 1 := by
  obtain ⟨hb, hr, _⟩ := id h
  rw [exponentField, toNat_bits_make h, low]
  cases negative <;> simp only [Bool.false_eq_true, if_true, if_false] <;> split <;> omega

theorem fraction_make (h : Stored significand scale)
    : (make negative significand scale).fraction =
        if significand < 0x10000000000000 then significand
        else significand - 0x10000000000000 := by
  obtain ⟨hb, hr, _⟩ := id h
  rw [fraction, toNat_bits_make h, low]
  cases negative <;> simp only [Bool.false_eq_true, if_true, if_false] <;> split <;> omega

theorem isFinite_make (h : Stored significand scale)
    : (make negative significand scale).isFinite = true := by
  obtain ⟨hb, hr, _⟩ := id h
  simp only [isFinite, exponentField_make h, bne_iff_ne]
  split <;> omega

theorem significand_make (h : Stored significand scale)
    : (make negative significand scale).significand = significand := by
  obtain ⟨hb, hr, _⟩ := id h
  simp only [Binary64.significand, exponentField_make h, fraction_make h]
  split
  · simp
  · simp
    omega

theorem scale_make (h : Stored significand scale)
    : (make negative significand scale).scale = scale := by
  obtain ⟨hb, hr, hn⟩ := id h
  simp only [Binary64.scale, exponentField_make h]
  split <;> omega

theorem magnitude_make (h : Stored significand scale)
    : (make negative significand scale).magnitude = significand <<< scale := by
  rw [magnitude, significand_make h, scale_make h]

/-- A finite number is put together from its own sign, significand and scale. -/
theorem make_of_isFinite {x : Binary64} (h : x.isFinite = true)
    : make x.isNegative x.significand x.scale = x := by
  have hx := x.bits.toNat_lt
  have hs := stored_of_isFinite h
  have hb : (make x.isNegative x.significand x.scale).bits.toNat = _ := toNat_bits_make hs
  suffices hn : (make x.isNegative x.significand x.scale).bits.toNat = x.bits.toNat by
    exact congrArg Binary64.mk (UInt64.toNat_inj.mp hn)
  rw [hb, low]
  simp only [isFinite, bne_iff_ne, exponentField] at h
  simp only [isNegative, decide_eq_true_eq]
  by_cases hz : x.exponentField = 0
  · have hv : x.significand = x.fraction := if_pos hz
    have hf : x.fraction < 0x10000000000000 := Nat.mod_lt _ (by decide)
    rw [if_pos (by omega), hv]
    simp only [exponentField, fraction] at hz ⊢
    split <;> omega
  · have hv : x.significand = x.fraction + 0x10000000000000 := if_neg hz
    rw [if_neg (by omega), hv]
    simp only [exponentField, fraction, Binary64.scale] at hz ⊢
    split <;> omega

-----------------------------------------------------------------------------------------
-- Rounding
-----------------------------------------------------------------------------------------

theorem roundHalfEven_bounds (num den : Nat)
    : num / den ≤ roundHalfEven num den ∧ roundHalfEven num den ≤ num / den + 1 := by
  unfold roundHalfEven
  dsimp only
  split
  · omega
  · split
    · omega
    · split <;> omega

/-- What rounding gives can be stored unless its scale is too great, by cases on whether the
ratio is below the first number that is scaled. -/
theorem stored_roundMagnitude (num den : Nat) (h : (roundMagnitude num den).2 ≤ 2045)
    : Stored (roundMagnitude num den).1 (roundMagnitude num den).2 := by
  by_cases hw : num / den < 0x20000000000000
  · have hb := roundHalfEven_bounds num den
    simp only [roundMagnitude, hw, if_true, Nat.shiftLeft_zero] at h ⊢
    split
    · exact ⟨by decide, by decide, by decide⟩
    · exact ⟨by simp only; omega, by simp, by simp⟩
  · simp only [roundMagnitude, hw, if_false] at h ⊢
    generalize hs : (num / den).log2 - 52 = s at h ⊢
    have hne : num / den ≠ 0 := by omega
    have hlog : 53 ≤ (num / den).log2 := (Nat.le_log2 hne).mpr (by omega)
    have hlow : 2 ^ (52 + s) ≤ num / den := by
      have := Nat.log2_self_le hne
      rwa [show (num / den).log2 = 52 + s by omega] at this
    have hhigh : num / den < 2 ^ (53 + s) :=
      (Nat.log2_lt hne).mp (by omega)
    have hq : num / (den <<< s) = num / den / 2 ^ s := by
      rw [Nat.shiftLeft_eq, Nat.div_div_eq_div_mul]
    have hb := roundHalfEven_bounds num (den <<< s)
    rw [hq] at hb
    have hl : 2 ^ 52 ≤ num / den / 2 ^ s := by
      rw [Nat.le_div_iff_mul_le (Nat.two_pow_pos s), ← pow_add]
      exact hlow
    have hh : num / den / 2 ^ s < 2 ^ 53 := by
      rw [Nat.div_lt_iff_lt_mul (Nat.two_pow_pos s), ← pow_add]
      exact hhigh
    split at h
    · next hc =>
        simp only [hc, if_true]
        exact ⟨by simp, h, by simp⟩
    · next hc =>
        simp only [hc, if_false]
        exact ⟨by omega, h, fun hn => by omega⟩

/-- A magnitude that is stored already is rounded to itself, whatever it is counted in. -/
theorem roundMagnitude_of_stored (h : Stored significand scale) {den : Nat} (hd : 0 < den)
    : roundMagnitude ((significand <<< scale) * den) den = (significand, scale) := by
  obtain ⟨hb, hr, hn⟩ := h
  have hw : (significand <<< scale) * den / den = significand <<< scale :=
    Nat.mul_div_cancel _ hd
  have hround : roundHalfEven ((significand <<< scale) * den) (den <<< scale) = significand := by
    rw [Nat.shiftLeft_eq, Nat.shiftLeft_eq, mul_assoc, mul_comm (2 ^ scale) den]
    exact roundHalfEven_mul _ _ (Nat.mul_pos hd (Nat.two_pow_pos scale))
  by_cases hz : scale = 0
  · subst hz
    simp only [Nat.shiftLeft_zero] at hw hround ⊢
    simp only [roundMagnitude, hw, if_pos hb, Nat.shiftLeft_zero, hround]
    exact if_neg (by omega)
  · have hs : 0x10000000000000 ≤ significand := by omega
    have hlow : 2 ^ (52 + scale) ≤ significand <<< scale := by
      rw [Nat.shiftLeft_eq, pow_add]
      exact Nat.mul_le_mul_right _ hs
    have hhigh : significand <<< scale < 2 ^ (52 + scale + 1) := by
      rw [Nat.shiftLeft_eq, show 52 + scale + 1 = 53 + scale by omega, pow_add]
      exact Nat.mul_lt_mul_of_pos_right hb (Nat.two_pow_pos scale)
    have hbig : ¬significand <<< scale < 0x20000000000000 := by
      have h53 : 2 ^ 53 ≤ 2 ^ (52 + scale) := Nat.pow_le_pow_right (by decide) (by omega)
      exact Nat.not_lt.mpr (h53.trans hlow)
    have hlog : (significand <<< scale).log2 = 52 + scale :=
      (Nat.log2_eq_iff (Nat.ne_of_gt (Nat.lt_of_lt_of_le (by decide) (Nat.not_lt.mp hbig)))).mpr
        ⟨hlow, hhigh⟩
    simp only [roundMagnitude, hw, if_neg hbig, hlog, Nat.add_sub_cancel_left,
      hround]
    exact if_neg (by omega)

theorem ofMagnitude_of_stored (h : Stored significand scale) {den : Nat} (hd : 0 < den)
    : ofMagnitude negative ((significand <<< scale) * den) den
        = make negative significand scale := by
  have hr := h.range
  simp only [ofMagnitude, roundMagnitude_of_stored h hd]
  exact if_neg (by omega)

theorem isFinite_ofMagnitude {num den : Nat} (h : (roundMagnitude num den).2 ≤ 2045)
    : (ofMagnitude negative num den).isFinite = true := by
  simp only [ofMagnitude, if_neg (Nat.not_lt.mpr h)]
  exact isFinite_make (stored_roundMagnitude num den h)

theorem scale_roundMagnitude_le {num bits : Nat} (h : num < 2 ^ bits)
    : (roundMagnitude num 1).2 ≤ bits - 53 + 1 := by
  have hs : (if num / 1 < 0x20000000000000 then 0 else (num / 1).log2 - 52) ≤ bits - 53 := by
    split
    · omega
    · have hne : num / 1 ≠ 0 := by omega
      have := (Nat.log2_lt hne).mpr (by rwa [Nat.div_one])
      omega
  unfold roundMagnitude
  dsimp only
  generalize (if num / 1 < 0x20000000000000 then 0 else (num / 1).log2 - 52) = s at hs ⊢
  split
  · exact Nat.add_le_add_right hs 1
  · exact hs.trans (Nat.le_succ _)

theorem mul_shiftLeft_lt {n bits : Nat} (h : n < 2 ^ bits) (k : Nat)
    : n * (1 <<< k) < 2 ^ (bits + k) := by
  rw [Nat.one_shiftLeft, pow_add]
  exact Nat.mul_lt_mul_of_pos_right h (Nat.two_pow_pos k)

/-- An integer of at most 64 bits is nearest to a finite number. -/
theorem isFinite_ofInt (n : WideInt) : (ofInt n.val).isFinite = true := by
  have hn : n.val.natAbs < 2 ^ 64 := by
    have hl := n.lower
    have hu := n.upper
    omega
  have hm : n.val.natAbs * unit < 2 ^ (64 + 1074) := mul_shiftLeft_lt hn 1074
  exact isFinite_ofMagnitude ((scale_roundMagnitude_le hm).trans (by decide))

-----------------------------------------------------------------------------------------
-- Equal numbers
-----------------------------------------------------------------------------------------

theorem same_iff {x y : Binary64}
    : x.same y = true ↔
        (x.isNaN = false ∧ y.isNaN = false)
          ∧ (x = y ∨ x.magnitude = 0 ∧ y.magnitude = 0) := by
  obtain ⟨a⟩ := x
  obtain ⟨b⟩ := y
  simp [same]

theorem same_self {x : Binary64} (finite : x.isFinite = true) : x.same x = true := by
  have hn : x.isNaN = false := by
    simp only [isFinite, bne_iff_ne] at finite
    simp [isNaN, finite]
  exact same_iff.mpr ⟨⟨hn, hn⟩, .inl rfl⟩

theorem same_self_iff {x : Binary64} : x.same x = true ↔ x.isNaN = false := by
  simp [same_iff]

theorem same_comm (x y : Binary64) : x.same y = y.same x := by
  rw [Bool.eq_iff_iff, same_iff, same_iff]
  exact and_congr and_comm (or_congr eq_comm and_comm)

/-- Two zeros are equal to the same numbers, and otherwise equal numbers are one. -/
theorem same_trans {x y z : Binary64} (first : x.same y = true) (second : y.same z = true)
    : x.same z = true := by
  rw [same_iff] at *
  obtain ⟨⟨hx, _⟩, rfl | ⟨zx, zy⟩⟩ := first
  · exact second
  · obtain ⟨⟨_, hz⟩, rfl | ⟨_, zz⟩⟩ := second
    · exact ⟨⟨hx, hz⟩, .inr ⟨zx, zy⟩⟩
    · exact ⟨⟨hx, hz⟩, .inr ⟨zx, zz⟩⟩

theorem isFinite_of_magnitude_eq_zero {x : Binary64} (h : x.magnitude = 0)
    : x.isFinite = true := by
  have hs : x.significand = 0 := by
    simpa [magnitude, Nat.shiftLeft_eq] using h
  have he : x.exponentField = 0 := by
    by_contra hne
    simp only [significand, if_neg hne] at hs
    omega
  simp [isFinite, he]

theorem isFinite_of_same {x y : Binary64} (h : x.same y = true) : x.isFinite = y.isFinite := by
  obtain ⟨_, rfl | ⟨hx, hy⟩⟩ := same_iff.mp h
  · rfl
  · rw [isFinite_of_magnitude_eq_zero hx, isFinite_of_magnitude_eq_zero hy]

end TypedJson.Binary64
