import Mathlib
import Recalc.Number.Binary64

/-!
# Doubles and their parts

A finite double is determined by its sign, its mantissa and its exponent, and every mantissa and
exponent within the bounds of the format are those of a double. Finite doubles of one sign are equal
as numbers only when they are the same.
-/

namespace Recalc.Number

open Float.Model UnpackedFloat

/-! ### The bits of the logical model -/

lemma toNat_unpackMantissa (b : BitVec 64) :
    (@unpackMantissa Format.binary64 b).toNat = b.toNat % 2 ^ 52 := by
  simp [unpackMantissa]

lemma toNat_unpackExponent (b : BitVec 64) :
    (@unpackExponent Format.binary64 b).toNat = b.toNat / 2 ^ 52 % 2 ^ 11 := by
  simp [unpackExponent, Nat.shiftRight_eq_div_pow]

lemma toNat_unpackSign (b : BitVec 64) :
    (@unpackSign Format.binary64 b).toNat = b.toNat / 2 ^ 63 := by
  have := b.isLt
  simp [unpackSign, Nat.shiftRight_eq_div_pow]
  omega

lemma toNat_packComponents (s : Sign) (e : BitVec 11) (m : BitVec 52) :
    (packComponents Format.binary64 s e m).toNat =
      s.toBitVec.toNat * 2 ^ 63 + e.toNat * 2 ^ 52 + m.toNat := by
  have he := e.isLt
  have hm := m.isLt
  rw [packComponents, BitVec.toNat_append, BitVec.toNat_append, ← Nat.shiftLeft_add_eq_or_of_lt he,
    ← Nat.shiftLeft_add_eq_or_of_lt hm]
  simp only [Nat.shiftLeft_eq]
  omega

lemma packComponents_unpack (b : BitVec 64) :
    packComponents Format.binary64 (.ofBitVec (@unpackSign Format.binary64 b))
      (@unpackExponent Format.binary64 b) (@unpackMantissa Format.binary64 b) =
        b := by
  have hsign : ∀ s : BitVec 1, (Sign.ofBitVec s).toBitVec = s := by decide
  apply BitVec.eq_of_toNat_eq
  rw [toNat_packComponents, hsign, toNat_unpackMantissa, toNat_unpackExponent, toNat_unpackSign]
  have := b.isLt
  omega

lemma pack_subnormal {s : Sign} {n : Nat} {k : Int} {hn : 0 < n} {m : BitVec 52}
    (hnm : n = m.toNat) (hk : k = -1074) :
    UnpackedFloat.pack Format.binary64 (.finite s n k hn) =
      packComponents Format.binary64 s 0 m := by
  subst hnm hk
  have hlog : m.toNat.log2 < 52 := (Nat.log2_lt (by omega)).mpr m.isLt
  simp only [UnpackedFloat.pack, Format.mantissaBits, Format.exponentBias, BitVec.ofNat_toNat,
    BitVec.setWidth_eq]
  rw [if_neg (by decide), if_neg (by omega)]
  rfl

lemma pack_normal {s : Sign} {n : Nat} {k : Int} {hn : 0 < n} {e : BitVec 11} {m : BitVec 52}
    (he : e.toNat < 2047) (hnm : n = 2 ^ 52 + m.toNat) (hk : k = e.toNat - 1075) :
    UnpackedFloat.pack Format.binary64 (.finite s n k hn) =
      packComponents Format.binary64 s e m := by
  have hm := m.isLt
  have hlog : n.log2 = 52 := by
    rw [Nat.log2_eq_iff (by omega)]
    omega
  have hexp : (k + (2 ^ (11 - 1) - 1 : Nat) + (52 : Nat)).toNat = e.toNat := by omega
  have hmant : BitVec.ofNat 52 n = m := by
    apply BitVec.eq_of_toNat_eq
    rw [BitVec.toNat_ofNat]
    omega
  simp only [UnpackedFloat.pack, Format.mantissaBits, Format.exponentBias, hexp, hlog, hmant,
    BitVec.ofNat_toNat, BitVec.setWidth_eq]
  rw [if_neg (by omega), if_pos trivial]

/-- The leading bit of a mantissa that is not written. -/
lemma toNat_one_append (m : BitVec 52) : (1#1 ++ m).toNat = 2 ^ 52 + m.toNat := by
  rw [BitVec.toNat_append, ← Nat.shiftLeft_add_eq_or_of_lt m.isLt]
  rfl

/-- Bits that are no NaN are packed as they were unpacked. -/
lemma pack_unpack (b : BitVec 64) (h : b.toNat / 2 ^ 52 % 2 ^ 11 ≠ 2047) :
    UnpackedFloat.pack Format.binary64 (UnpackedFloat.unpack Format.binary64 b) = b := by
  conv_rhs => rw [← packComponents_unpack b]
  rw [← toNat_unpackExponent] at h
  have he : (@unpackExponent Format.binary64 b).toNat < 2 ^ 11 := BitVec.isLt _
  have hne : @unpackExponent Format.binary64 b ≠ -1#_ := fun hall => h (by rw [hall]; rfl)
  unfold UnpackedFloat.unpack
  simp only [if_neg hne]
  split
  next hzero =>
    split
    next hm => rw [hzero, hm]; rfl
    next hm =>
      rw [pack_subnormal rfl (by rw [hzero]; rfl), hzero]
      rfl
  next hzero =>
    exact pack_normal (by omega) (toNat_one_append _) rfl

lemma toBits_ofBits {b : UInt64} (h : b.toNat / 2 ^ 52 % 2 ^ 11 ≠ 2047) :
    (Float.ofBits b).toBits = b :=
  congrArg UInt64.ofBitVec (pack_unpack b.toBitVec h)

lemma toBits_injective {x y : Float} (h : x.toBits = y.toBits) : x = y := by
  obtain ⟨⟨a, ha⟩⟩ := x
  obtain ⟨⟨b, hb⟩⟩ := y
  cases h
  rfl

/-! ### Mantissas and exponents -/

lemma twoTo_eq (n : Nat) : twoTo n = 2 ^ n := rfl

/-- The mantissa and the exponent of a finite double. -/
structure IsDouble (m : Nat) (e : Int) : Prop where
  mantissa_lt : m < 2 ^ 53
  least_le : -1074 ≤ e
  le_greatest : e ≤ 971
  normal : 2 ^ 52 ≤ m ∨ e = -1074

/-- The bits of a mantissa and an exponent, without a sign. -/
def magnitudeBits (m : Nat) (e : Int) : Nat :=
  (e - leastExponent).toNat * twoTo 52 + m

variable {x : Float} {negative : Bool} {m : Nat} {e : Int}

lemma IsDouble.magnitudeBits_lt (h : IsDouble m e) : magnitudeBits m e < infinityBits := by
  obtain ⟨hm, hleast, hgreatest, -⟩ := h
  simp only [magnitudeBits, infinityBits, leastExponent, twoTo_eq]
  omega

lemma toNat_toBits_ofMagnitudeBits (negative : Bool) {b : Nat} (h : b < infinityBits) :
    (ofMagnitudeBits negative b).toBits.toNat = b + if negative then 2 ^ 63 else 0 := by
  simp only [infinityBits, twoTo_eq] at h
  have hb : (UInt64.ofNat (b + if negative then 2 ^ 63 else 0)).toNat =
      b + if negative then 2 ^ 63 else 0 := by
    rw [UInt64.toNat_ofNat']
    split <;> omega
  rw [ofMagnitudeBits, twoTo_eq, toBits_ofBits, hb]
  rw [hb]
  split <;> omega

lemma parts_eq (x : Float) : parts x =
    if x.toBits.toNat / 2 ^ 52 % 2 ^ 11 = 0x7FF then
      if x.toBits.toNat % 2 ^ 52 = 0 then .infinite (x.toBits.toNat / 2 ^ 63 == 1) else .nan
    else if x.toBits.toNat / 2 ^ 52 % 2 ^ 11 = 0 then
      .finite (x.toBits.toNat / 2 ^ 63 == 1) (x.toBits.toNat % 2 ^ 52) (-1074)
    else
      .finite (x.toBits.toNat / 2 ^ 63 == 1) (2 ^ 52 + x.toBits.toNat % 2 ^ 52)
        (-1074 + (x.toBits.toNat / 2 ^ 52 % 2 ^ 11 - 1 : Nat)) := rfl

/-- A finite double is determined by its sign, mantissa and exponent. -/
lemma parts_ofMagnitudeBits (h : IsDouble m e) :
    parts (ofMagnitudeBits negative (magnitudeBits m e)) = .finite negative m e := by
  have hlt := h.magnitudeBits_lt
  have hbits := toNat_toBits_ofMagnitudeBits negative hlt
  obtain ⟨hm, hleast, hgreatest, hnormal⟩ := h
  obtain ⟨k, rfl⟩ : ∃ k : Nat, e = -1074 + k := ⟨(e + 1074).toNat, by omega⟩
  have hmag : magnitudeBits m (-1074 + k) = k * 2 ^ 52 + m := by
    have hk : (-1074 + (k : Int) - leastExponent).toNat = k := by
      rw [leastExponent]
      omega
    rw [magnitudeBits, hk, twoTo_eq]
  rw [parts_eq, hbits, hmag]
  simp only [hmag, infinityBits, twoTo_eq] at hlt
  generalize hb : k * 2 ^ 52 + m + (if negative then 2 ^ 63 else 0) = b
  have hsign : (b / 2 ^ 63 == 1) = negative := by
    rw [← hb]
    cases negative <;> simp <;> omega
  have hrest : b % 2 ^ 63 = k * 2 ^ 52 + m := by
    rw [← hb]
    split <;> omega
  rw [if_neg (by omega), hsign]
  by_cases hsmall : m < 2 ^ 52
  · have hmant : b % 2 ^ 52 = m := by omega
    have hzero : k = 0 := by omega
    rw [if_pos (by omega), hmant, hzero]
    rfl
  · have hmant : 2 ^ 52 + b % 2 ^ 52 = m := by omega
    have hexp : b / 2 ^ 52 % 2 ^ 11 - 1 = k := by omega
    rw [if_neg (by omega), hmant, hexp]

lemma of_parts_eq_finite (h : parts x = .finite negative m e) :
    IsDouble m e ∧ x = ofMagnitudeBits negative (magnitudeBits m e) := by
  have hx : x.toBits.toNat < 2 ^ 64 := x.toBits.toNat_lt
  rw [parts_eq] at h
  suffices hsame : IsDouble m e ∧
      magnitudeBits m e + (if negative then 2 ^ 63 else 0) = x.toBits.toNat by
    refine ⟨hsame.1, toBits_injective (UInt64.toNat_inj.mp ?_)⟩
    rw [toNat_toBits_ofMagnitudeBits negative hsame.1.magnitudeBits_lt, hsame.2]
  split at h
  next => split at h <;> cases h
  next hbiased =>
    split at h
    next hzero =>
      cases h
      refine ⟨⟨by omega, by omega, by omega, by omega⟩, ?_⟩
      simp only [magnitudeBits, leastExponent, twoTo_eq, beq_iff_eq]
      split <;> omega
    next hzero =>
      cases h
      refine ⟨⟨by omega, by omega, by omega, by omega⟩, ?_⟩
      simp only [magnitudeBits, leastExponent, twoTo_eq, beq_iff_eq]
      split <;> omega

/-- The bits of a finite double have its sign. -/
lemma sign_of_parts (h : parts x = .finite negative m e) :
    negative = (x.toBits.toNat / 2 ^ 63 == 1) := by
  rw [parts_eq] at h
  split at h
  next => split at h <;> cases h
  next => split at h <;> cases h <;> rfl

/-- A finite double that is made of a sign and bits has that sign. -/
lemma sign_ofMagnitudeBits {b : Nat} {negative' : Bool} (hb : b ≤ infinityBits)
    (h : parts (ofMagnitudeBits negative b) = .finite negative' m e) : negative' = negative := by
  rcases Nat.lt_or_eq_of_le hb with hlt | rfl
  · rw [sign_of_parts h, toNat_toBits_ofMagnitudeBits negative hlt]
    simp only [infinityBits, twoTo_eq] at hlt
    cases negative <;> simp <;> omega
  · have hinfinite : parts (ofMagnitudeBits negative infinityBits) = .infinite negative := by
      cases negative <;> rfl
    rw [hinfinite] at h
    cases h

lemma isFinite_iff : isFinite x = true ↔ ∃ negative m e, parts x = .finite negative m e := by
  unfold isFinite
  cases parts x <;> simp

/-! ### Equality of doubles -/

lemma biased_ne_of_parts (h : parts x = .finite negative m e) :
    x.toBits.toNat / 2 ^ 52 % 2 ^ 11 ≠ 2047 := by
  intro hspecial
  rw [parts_eq, if_pos hspecial] at h
  split at h <;> cases h

/-- The sign of the logical model of a double. -/
def modelSign (negative : Bool) : Sign :=
  if negative then .negative else .positive

/-- In the logical model a finite double is a signed zero, or a mantissa that is not zero. -/
lemma unpack_of_parts (h : parts x = .finite negative m e) :
    x.toModel.unpack = .zero (modelSign negative) ∨
      ∃ n k hn, x.toModel.unpack = .finite (modelSign negative) n k hn := by
  have hne := biased_ne_of_parts h
  have hnegative : (x.toBits.toNat / 2 ^ 63 == 1) = negative := (sign_of_parts h).symm
  have hsign : Sign.ofBitVec (@unpackSign Format.binary64 x.toBits.toBitVec) =
      modelSign negative := by
    have hbit : ∀ s : BitVec 1, Sign.ofBitVec s = modelSign (s.toNat == 1) := by
      intro s
      obtain rfl | rfl : s = 0#1 ∨ s = 1#1 := by
        revert s
        decide
      all_goals rfl
    rw [hbit, toNat_unpackSign]
    exact congrArg modelSign hnegative
  have hexp : @unpackExponent Format.binary64 x.toBits.toBitVec ≠ -1#_ := by
    intro hall
    have hbiased := toNat_unpackExponent x.toBits.toBitVec
    rw [hall] at hbiased
    exact hne hbiased.symm
  show UnpackedFloat.unpack Format.binary64 x.toBits.toBitVec = _ ∨
    ∃ n k hn, UnpackedFloat.unpack Format.binary64 x.toBits.toBitVec = _
  unfold UnpackedFloat.unpack
  simp only [hsign, if_neg hexp]
  split
  next =>
    split
    next => exact .inl rfl
    next hm =>
      have hpos : 0 < (@unpackMantissa Format.binary64 x.toBits.toBitVec).toNat :=
        Nat.pos_of_ne_zero fun hzero => hm (BitVec.eq_of_toNat_eq hzero)
      exact .inr ⟨_, _, hpos, rfl⟩
  next =>
    have hpos : 0 < (1#1 ++ @unpackMantissa Format.binary64 x.toBits.toBitVec).toNat := by
      rw [toNat_one_append]
      omega
    exact .inr ⟨_, _, hpos, rfl⟩

lemma eq_of_unpack_eq {y : Float} {negative' : Bool} {m' : Nat} {e' : Int}
    (hx : parts x = .finite negative m e) (hy : parts y = .finite negative' m' e')
    (h : x.toModel.unpack = y.toModel.unpack) : x = y := by
  apply toBits_injective
  apply UInt64.toBitVec_inj.mp
  rw [← pack_unpack x.toBits.toBitVec (biased_ne_of_parts hx),
    ← pack_unpack y.toBits.toBitVec (biased_ne_of_parts hy)]
  exact congrArg _ h

/-- Finite doubles are equal to themselves. -/
lemma beq_self_of_parts (h : parts x = .finite negative m e) : (x == x) = true := by
  show (x.toModel.unpack.compare x.toModel.unpack == some .eq) = true
  rcases unpack_of_parts h with hx | ⟨n, k, hn, hx⟩
  · rw [hx]
    rfl
  · rw [hx]
    cases negative <;> simp [UnpackedFloat.compare, modelSign]

/-- Finite doubles of one sign are the same when they are equal. -/
lemma eq_of_beq_of_parts {y : Float} {m' : Nat} {e' : Int}
    (hx : parts x = .finite negative m e) (hy : parts y = .finite negative m' e')
    (h : (x == y) = true) : x = y := by
  apply eq_of_unpack_eq hx hy
  have hcompare : x.toModel.unpack.compare y.toModel.unpack = some .eq := beq_iff_eq.mp h
  rcases unpack_of_parts hx with hx | ⟨n, k, hn, hx⟩ <;>
    rcases unpack_of_parts hy with hy | ⟨n', k', hn', hy⟩ <;> rw [hx, hy] at hcompare ⊢
  · cases negative <;> cases hcompare
  · cases negative <;> cases hcompare
  · have hboth : k = k' ∧ n = n' := by
      cases negative <;>
        simpa [UnpackedFloat.compare, modelSign, Ordering.then_eq_eq] using hcompare
    obtain ⟨rfl, rfl⟩ := hboth
    rfl

end Recalc.Number
