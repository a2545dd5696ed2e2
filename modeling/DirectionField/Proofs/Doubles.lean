import DirectionField.Arithmetic
import Mathlib

/-!
# Doubles and their exact values

The exact value of a double, read off its bits, is the one of its logical model. The order of
doubles is that of their exact values: the parts of a finite one are normalized, so that exponents
count before mantissas. An undefined double stands in no order to any.
-/

namespace DirectionField.Proofs

open Float.Model (UnpackedFloat Format)
open Float.Model.UnpackedFloat (Sign)

/-! ## The parts of a double -/

section Bits

variable (b : BitVec 64)

lemma toNat_unpackMantissa :
    (@UnpackedFloat.unpackMantissa Format.binary64 b).toNat = b.toNat % 2 ^ 52 := by
  simp [UnpackedFloat.unpackMantissa, BitVec.extractLsb]

lemma toNat_unpackExponent :
    (@UnpackedFloat.unpackExponent Format.binary64 b).toNat =
      b.toNat / 2 ^ 52 % 2048 := by
  simp [UnpackedFloat.unpackExponent, BitVec.extractLsb, Nat.shiftRight_eq_div_pow]

lemma unpackSign_negative :
    (Sign.ofBitVec (@UnpackedFloat.unpackSign Format.binary64 b) == .negative) =
      (b.toNat / 2 ^ 63 == 1) := by
  have hsign : (@UnpackedFloat.unpackSign Format.binary64 b).toNat =
      b.toNat / 2 ^ 63 := by
    have hlt : b.toNat < 2 ^ 64 := b.isLt
    simp [UnpackedFloat.unpackSign, BitVec.extractLsb, Nat.shiftRight_eq_div_pow]
    omega
  rw [← hsign]
  generalize @UnpackedFloat.unpackSign Format.binary64 b = v
  revert v
  decide

end Bits

/-- The parts of a number of the logical model. -/
def binaryOf : UnpackedFloat → Binary
  | .notANumber => .nan
  | .infinity s => .infinite (s == .negative)
  | .zero s => .finite (s == .negative) 0 (-1074)
  | .finite s m e _ => .finite (s == .negative) m e

lemma toNat_one_append (m : BitVec 52) : (1#1 ++ m).toNat = m.toNat + 2 ^ 52 := by
  rw [BitVec.toNat_append, ← Nat.shiftLeft_add_eq_or_of_lt m.isLt, Nat.add_comm]
  rfl

lemma ofFloat_eq_binaryOf (x : Float) : Binary.ofFloat x = binaryOf x.toModel.unpack := by
  have hbits : x.toBits.toNat = x.toModel.toBits.toBitVec.toNat := rfl
  have htop : (-1#11).toNat = 2047 := by decide
  have hbias : (Format.binary64.exponentBias : ℤ) = 1023 := by decide
  unfold Binary.ofFloat Float.Model.unpack
  rw [hbits]
  generalize x.toModel.toBits.toBitVec = b
  simp only [Nat.pow_eq, ← toNat_unpackMantissa, ← toNat_unpackExponent, ← unpackSign_negative]
  -- along the cases of the model: the largest exponent, the smallest one, and those between
  fun_cases UnpackedFloat.unpack Format.binary64 b with
  | case1 mantissa exponent sign s hexp hman =>
    rw [← BitVec.toNat_inj, htop] at hexp
    rw [← BitVec.toNat_inj] at hman
    simp_all [binaryOf, exponent, mantissa, sign, s]
  | case2 mantissa exponent hexp hman =>
    rw [← BitVec.toNat_inj, htop] at hexp
    rw [← BitVec.toNat_inj] at hman
    simp_all [binaryOf, exponent, mantissa]
  | case3 mantissa exponent sign s hexp hzero hman =>
    rw [← BitVec.toNat_inj] at hzero hman
    simp_all [binaryOf, exponent, mantissa, sign, s]
  | case4 mantissa exponent e sign s hexp hzero hman =>
    rw [← BitVec.toNat_inj] at hzero
    simp_all [binaryOf, exponent, mantissa, sign, s, e]
  | case5 mantissa exponent e sign s hexp hzero =>
    rw [← BitVec.toNat_inj, htop] at hexp
    rw [← BitVec.toNat_inj] at hzero
    have hone := toNat_one_append mantissa
    simp_all [binaryOf, exponent, mantissa, sign, s, e]

/-! ## Exact values -/

/-- The exact value of a number of the logical model. -/
def valueOf : UnpackedFloat → Extended
  | .notANumber => .undefined
  | .infinity s => .infinite (s == .negative)
  | .zero _ => .finite 0
  | .finite s m e _ => .finite (if s == .negative then -(m * 2 ^ e) else m * 2 ^ e)

lemma mkRat_quotient (negative : Bool) (m : ℕ) (e : ℤ) :
    mkRat (if negative then -((Decimal.quotient m e).1 : ℤ) else (Decimal.quotient m e).1)
        (Decimal.quotient m e).2 =
      if negative then -((m : ℚ) * 2 ^ e) else m * 2 ^ e := by
  have hquotient : ((Decimal.quotient m e).1 : ℚ) / (Decimal.quotient m e).2 = m * 2 ^ e := by
    unfold Decimal.quotient
    split
    case isTrue he =>
      lift e to ℕ using he
      simp
    case isFalse he =>
      obtain ⟨n, rfl⟩ : ∃ n : ℕ, e = -n := ⟨(-e).toNat, by omega⟩
      simp [div_eq_mul_inv]
  rw [Rat.mkRat_eq_div, ← hquotient]
  cases negative <;> simp [neg_div]

lemma exact_double (x : Float) : Numeral.exact x = valueOf x.toModel.unpack := by
  have hexact : Numeral.exact x = exactFloat x := rfl
  rw [hexact, exactFloat, ofFloat_eq_binaryOf]
  cases x.toModel.unpack with
  | zero s => simp [binaryOf, valueOf, mkRat_quotient]
  | finite s m e hm => simp only [binaryOf, valueOf, mkRat_quotient]
  | notANumber | infinity => rfl

lemma isFinite_double_iff (x : Float) :
    Arithmetic.isFinite x = true ↔ ∃ q, Numeral.exact x = .finite q := by
  have hmodel : Arithmetic.isFinite x = x.toModel.unpack.isFinite := rfl
  rw [hmodel, exact_double]
  cases x.toModel.unpack <;> simp [UnpackedFloat.isFinite, valueOf]

/-! ## Normalized parts -/

/-- A mantissa of at most 53 binary digits, and of fewer at the smallest exponent only. -/
structure IsNormalized (m : ℕ) (e : ℤ) : Prop where
  mantissa_lt : m < 2 ^ 53
  exponent_ge : -1074 ≤ e
  mantissa_ge : -1074 < e → 2 ^ 52 ≤ m

/-- The number of the logical model is one that a double stands for. -/
def IsCanonical : UnpackedFloat → Prop
  | .finite _ m e _ => IsNormalized m e
  | _ => True

lemma isCanonical_unpack (x : Float) : IsCanonical x.toModel.unpack := by
  have hbias : (Format.binary64.exponentBias : ℤ) = 1023 := by decide
  have hbits : (Format.binary64.mantissaBitsWithoutImplicit : ℤ) = 52 := by decide
  unfold Float.Model.unpack
  generalize x.toModel.toBits.toBitVec = b
  fun_cases UnpackedFloat.unpack Format.binary64 b with
  | case4 mantissa exponent e sign s hexp hzero hman =>
    have hlt : mantissa.toNat < 2 ^ 52 := mantissa.isLt
    have hexponent : exponent.toNat = 0 := by rw [hzero]; rfl
    simp only [IsCanonical, e, hexponent, hbias, hbits]
    constructor <;> omega
  | case5 mantissa exponent e sign s hexp hzero =>
    have hlt : mantissa.toNat < 2 ^ 52 := mantissa.isLt
    have hone : (1#1 ++ mantissa).toNat = mantissa.toNat + 2 ^ 52 := toNat_one_append mantissa
    have hpos : exponent.toNat ≠ 0 := fun h0 => hzero (BitVec.toNat_inj.mp h0)
    simp only [IsCanonical, e, hbias, hbits, hone]
    constructor <;> omega
  | _ => trivial

section Magnitudes

variable {m m' : ℕ} {e e' : ℤ}

lemma magnitude_pos (hm : 0 < m) (e : ℤ) : (0 : ℚ) < m * 2 ^ e := by positivity

lemma magnitude_lt_of_exponent_lt (h : IsNormalized m e) (h' : IsNormalized m' e') (he : e < e') :
    (m : ℚ) * 2 ^ e < m' * 2 ^ e' := by
  have hm : (m : ℚ) < 2 ^ 53 := by exact_mod_cast h.mantissa_lt
  have hm' : (2 : ℚ) ^ 52 ≤ m' := by exact_mod_cast h'.mantissa_ge (h.exponent_ge.trans_lt he)
  calc (m : ℚ) * 2 ^ e < 2 ^ 53 * 2 ^ e := by gcongr
    _ = 2 ^ 52 * 2 ^ (e + 1) := by rw [zpow_add_one₀ two_ne_zero]; ring
    _ ≤ m' * 2 ^ e' := by
      have hone : (1 : ℚ) ≤ 2 := one_le_two
      gcongr
      omega

/-- Normalized parts stand in the order of their numbers, by exponents first. -/
lemma compare_eq_lt_iff (h : IsNormalized m e) (h' : IsNormalized m' e') :
    (compare e e').then (compare m m') = .lt ↔ (m : ℚ) * 2 ^ e < m' * 2 ^ e' := by
  rw [Ordering.then_eq_lt, compare_lt_iff_lt, compare_eq_iff_eq, compare_lt_iff_lt]
  rcases lt_trichotomy e e' with hlt | rfl | hgt
  · simp only [magnitude_lt_of_exponent_lt h h' hlt, hlt, true_or]
  · have hpos : (0 : ℚ) < 2 ^ e := by positivity
    rw [mul_lt_mul_iff_left₀ hpos, Nat.cast_lt]
    simp
  · have hge := (magnitude_lt_of_exponent_lt h' h hgt).le
    simp only [hge.not_gt, hgt.not_gt, hgt.ne', false_and, or_self]

lemma swap_compare_eq_lt_iff (h : IsNormalized m e) (h' : IsNormalized m' e') :
    ((compare e e').then (compare m m')).swap = .lt ↔ (m' : ℚ) * 2 ^ e' < m * 2 ^ e := by
  have hexponents : compare e' e = (compare e e').swap := Std.OrientedOrd.eq_swap
  have hmantissas : compare m' m = (compare m m').swap := Std.OrientedOrd.eq_swap
  rw [← compare_eq_lt_iff h' h, Ordering.swap_then, hexponents, hmantissas]

/-- No number with normalized parts lies between two neighbours. -/
lemma magnitude_lt_next_iff (h : IsNormalized m e) (h' : IsNormalized m' e')
    (hnext : IsNormalized (m' + 1) e') :
    (m : ℚ) * 2 ^ e < (m' + 1 : ℕ) * 2 ^ e' ↔ (m : ℚ) * 2 ^ e ≤ m' * 2 ^ e' := by
  rw [← not_lt, ← compare_eq_lt_iff h hnext, ← compare_eq_lt_iff h' h]
  simp only [Ordering.then_eq_lt, compare_lt_iff_lt, compare_eq_iff_eq]
  omega

end Magnitudes

/-! ## The order of doubles -/

lemma lt_finite {s s' : Sign} {m m' : ℕ} {e e' : ℤ} (hm : 0 < m) (hm' : 0 < m')
    (h : IsNormalized m e) (h' : IsNormalized m' e') :
    UnpackedFloat.lt (.finite s m e hm) (.finite s' m' e' hm') =
      Extended.lt (valueOf (.finite s m e hm)) (valueOf (.finite s' m' e' hm')) := by
  have hpos := magnitude_pos hm e
  have hpos' := magnitude_pos hm' e'
  cases s with
  | positive =>
    cases s' with
    | positive =>
      rw [Bool.eq_iff_iff]
      simp [UnpackedFloat.lt, UnpackedFloat.compare, valueOf, Extended.lt, compare_eq_lt_iff h h']
    | negative =>
      have hlt : ¬ (m : ℚ) * 2 ^ e < -(m' * 2 ^ e') := by linarith
      simp [UnpackedFloat.lt, UnpackedFloat.compare, valueOf, Extended.lt, hlt]
  | negative =>
    cases s' with
    | positive =>
      have hlt : -((m : ℚ) * 2 ^ e) < m' * 2 ^ e' := by linarith
      simp [UnpackedFloat.lt, UnpackedFloat.compare, valueOf, Extended.lt, hlt]
    | negative =>
      rw [Bool.eq_iff_iff]
      simp [UnpackedFloat.lt, UnpackedFloat.compare, valueOf, Extended.lt,
        swap_compare_eq_lt_iff h h']

lemma lt_unpacked {u v : UnpackedFloat} (hu : IsCanonical u) (hv : IsCanonical v) :
    UnpackedFloat.lt u v = Extended.lt (valueOf u) (valueOf v) := by
  cases u with
  | notANumber => rfl
  | infinity s =>
    cases v with
    | infinity t => cases s <;> cases t <;> rfl
    | notANumber | zero | finite => cases s <;> rfl
  | zero =>
    cases v with
    | notANumber | zero => rfl
    | infinity t => cases t <;> rfl
    | finite t m e hm =>
      have hpos := magnitude_pos hm e
      cases t <;>
        simp [UnpackedFloat.lt, UnpackedFloat.compare, valueOf, Extended.lt, hpos, hpos.le]
  | finite s m e hm =>
    cases v with
    | notANumber => rfl
    | infinity t => cases t <;> cases s <;> rfl
    | zero =>
      have hpos := magnitude_pos hm e
      cases s <;>
        simp [UnpackedFloat.lt, UnpackedFloat.compare, valueOf, Extended.lt, hpos, hpos.le]
    | finite t m' e' hm' => exact lt_finite hm hm' hu hv

/-- A double stands below another one exactly when its exact value does. -/
lemma lt_double (x y : Float) :
    Arithmetic.lt x y = Extended.lt (Numeral.exact x) (Numeral.exact y) := by
  have hlt : Arithmetic.lt x y = UnpackedFloat.lt x.toModel.unpack y.toModel.unpack := by
    change decide (decide (UnpackedFloat.lt _ _ = true) = true) = UnpackedFloat.lt _ _
    rw [Bool.decide_eq_true, Bool.decide_eq_true]
  rw [hlt, exact_double, exact_double]
  exact lt_unpacked (isCanonical_unpack x) (isCanonical_unpack y)

lemma compare_unpacked_swap (u v : UnpackedFloat) :
    v.compare u = (u.compare v).map Ordering.swap := by
  cases u with
  | notANumber => cases v <;> rfl
  | infinity s =>
    cases v with
    | infinity t => cases s <;> cases t <;> rfl
    | notANumber | zero | finite => cases s <;> rfl
  | zero =>
    cases v with
    | notANumber | zero => rfl
    | infinity t | finite t => cases t <;> rfl
  | finite s m e hm =>
    cases v with
    | notANumber => rfl
    | infinity t => cases t <;> cases s <;> rfl
    | zero => cases s <;> rfl
    | finite t m' e' hm' =>
      have hexponents : compare e' e = (compare e e').swap := Std.OrientedOrd.eq_swap
      have hmantissas : compare m' m = (compare m m').swap := Std.OrientedOrd.eq_swap
      cases s <;> cases t <;>
        simp [UnpackedFloat.compare, hexponents, hmantissas, Ordering.swap_then]

lemma exists_compare {u v : UnpackedFloat} (hu : u ≠ .notANumber) (hv : v ≠ .notANumber) :
    ∃ o, u.compare v = some o := by
  cases u with
  | notANumber => exact absurd rfl hu
  | infinity s =>
    cases v with
    | notANumber => exact absurd rfl hv
    | infinity | zero | finite => cases s <;> exact ⟨_, rfl⟩
  | zero =>
    cases v with
    | notANumber => exact absurd rfl hv
    | zero => exact ⟨_, rfl⟩
    | infinity t | finite t => cases t <;> exact ⟨_, rfl⟩
  | finite s =>
    cases v with
    | notANumber => exact absurd rfl hv
    | zero => cases s <;> exact ⟨_, rfl⟩
    | infinity t | finite t => cases s <;> cases t <;> exact ⟨_, rfl⟩

lemma le_unpacked_eq_not_lt {u v : UnpackedFloat} (hu : u ≠ .notANumber) (hv : v ≠ .notANumber) :
    UnpackedFloat.le u v = !UnpackedFloat.lt v u := by
  obtain ⟨o, ho⟩ := exists_compare hu hv
  simp only [UnpackedFloat.le, UnpackedFloat.lt, compare_unpacked_swap u v, ho]
  cases o <;> rfl

lemma Extended.le_eq_not_lt {a b : Extended} (ha : a ≠ .undefined) (hb : b ≠ .undefined) :
    Extended.le a b = !Extended.lt b a := by
  cases a with
  | undefined => exact absurd rfl ha
  | infinite m =>
    cases b with
    | undefined => exact absurd rfl hb
    | infinite n => cases m <;> cases n <;> rfl
    | finite q => cases m <;> rfl
  | finite p =>
    cases b with
    | undefined => exact absurd rfl hb
    | infinite n => cases n <;> rfl
    | finite q =>
      rw [Bool.eq_iff_iff]
      simp [Extended.le, Extended.lt, Extended.beq, le_iff_lt_or_eq]

lemma valueOf_eq_undefined_iff {u : UnpackedFloat} : valueOf u = .undefined ↔ u = .notANumber := by
  cases u <;> simp [valueOf]

lemma le_double (x y : Float) :
    Arithmetic.le x y = Extended.le (Numeral.exact x) (Numeral.exact y) := by
  have hle : Arithmetic.le x y = UnpackedFloat.le x.toModel.unpack y.toModel.unpack := by
    change decide (decide (UnpackedFloat.le _ _ = true) = true) = UnpackedFloat.le _ _
    rw [Bool.decide_eq_true, Bool.decide_eq_true]
  have hcanonical := isCanonical_unpack
  rw [hle, exact_double, exact_double]
  by_cases hx : x.toModel.unpack = .notANumber
  · rw [hx]
    rfl
  · by_cases hy : y.toModel.unpack = .notANumber
    · rw [hy]
      cases x.toModel.unpack <;> rfl
    · rw [le_unpacked_eq_not_lt hx hy, lt_unpacked (hcanonical y) (hcanonical x),
        Extended.le_eq_not_lt (valueOf_eq_undefined_iff.not.mpr hx)
          (valueOf_eq_undefined_iff.not.mpr hy)]

lemma zero_lt_double (x : Float) :
    Arithmetic.lt (Arithmetic.ofInt 0) x = Extended.lt (.finite 0) (Numeral.exact x) := by
  have hzero : Numeral.exact (Arithmetic.ofInt 0 : Float) = .finite 0 := exact_double _
  rw [lt_double, hzero]

/-! ## The size of a double -/

section Size

lemma unpack_pack_unpack (b : BitVec Format.binary64.numBits) :
    UnpackedFloat.unpack .binary64
        (UnpackedFloat.pack .binary64 (UnpackedFloat.unpack .binary64 b)) =
      UnpackedFloat.unpack .binary64 b := by
  rw [UnpackedFloat.pack_unpack]
  split
  case isTrue hnan =>
    simp only [UnpackedFloat.isNaNBits, decide_eq_true_eq] at hnan
    rw [UnpackedFloat.unpack_packedNaN]
    simp only [UnpackedFloat.unpack, hnan, if_true, if_false]
  case isFalse => rfl

/-- The absolute value has the bits of the number but for the sign. -/
lemma abs_unpack (b : BitVec Format.binary64.numBits) :
    (UnpackedFloat.unpack .binary64 b).abs =
      UnpackedFloat.unpack .binary64 (UnpackedFloat.packComponents .binary64 .positive
        (UnpackedFloat.unpackExponent b) (UnpackedFloat.unpackMantissa b)) := by
  unfold UnpackedFloat.unpack
  simp only [UnpackedFloat.unpackExponent_packComponents,
    UnpackedFloat.unpackMantissa_packComponents, UnpackedFloat.unpackSign_packComponents,
    Sign.ofBitVec_toBitVec]
  split_ifs <;> rfl

lemma unpack_abs (x : Float) : (Arithmetic.abs x).toModel.unpack = x.toModel.unpack.abs := by
  have hunpack : x.toModel.unpack =
      UnpackedFloat.unpack .binary64 x.toModel.toBits.toBitVec := rfl
  have habs : (Arithmetic.abs x).toModel.unpack =
      UnpackedFloat.unpack .binary64 (UnpackedFloat.pack .binary64 x.toModel.unpack.abs) := rfl
  rw [habs, hunpack, abs_unpack, unpack_pack_unpack]

lemma zero_lt_abs_double_iff (x : Float) :
    Arithmetic.lt (Arithmetic.ofInt 0) (Arithmetic.abs x) = true ↔
      ¬ (Numeral.exact x = .finite 0 ∨ Numeral.exact x = .undefined) := by
  rw [zero_lt_double, exact_double, exact_double, unpack_abs]
  cases x.toModel.unpack with
  | notANumber | infinity | zero => simp [UnpackedFloat.abs, valueOf, Extended.lt]
  | finite s m e hm =>
    have hpos := magnitude_pos hm e
    have hpow : (2 : ℚ) ^ e ≠ 0 := by positivity
    cases s <;> simp [UnpackedFloat.abs, valueOf, Extended.lt, hm.ne', hpow, hpos]

variable {m : ℕ} {e : ℤ} {c : ℚ} {y : Float}

/-- A bound on the size of doubles may be rounded up to the next double. -/
lemma abs_lt_double_iff (h : IsNormalized m e) (hnext : IsNormalized (m + 1) e)
    (hlow : (m : ℚ) * 2 ^ e < c) (hhigh : c ≤ (m + 1 : ℕ) * 2 ^ e)
    (hy : Numeral.exact y = .finite ((m + 1 : ℕ) * 2 ^ e)) (x : Float) :
    Arithmetic.lt (Arithmetic.abs x) y = true ↔ ∃ q, Numeral.exact x = .finite q ∧ |q| < c := by
  have hc : 0 < c := lt_of_le_of_lt (by positivity) hlow
  have hcanonical := isCanonical_unpack x
  rw [lt_double, hy, exact_double, exact_double, unpack_abs]
  cases hx : x.toModel.unpack with
  | notANumber | infinity => simp [UnpackedFloat.abs, valueOf, Extended.lt]
  | zero => simpa [UnpackedFloat.abs, valueOf, Extended.lt, hc] using hc.trans_le hhigh
  | finite s k l hk =>
    rw [hx] at hcanonical
    have hbound : (k : ℚ) * 2 ^ l < (m + 1 : ℕ) * 2 ^ e ↔ (k : ℚ) * 2 ^ l < c :=
      ⟨fun hlt => ((magnitude_lt_next_iff hcanonical h hnext).mp hlt).trans_lt hlow,
        fun hlt => hlt.trans_le hhigh⟩
    have hpos := magnitude_pos hk l
    have hsize : |if s == .negative then -((k : ℚ) * 2 ^ l) else k * 2 ^ l| = k * 2 ^ l := by
      split <;> simp [abs_of_pos hpos]
    simpa [UnpackedFloat.abs, valueOf, Extended.lt, hsize] using hbound

end Size

end DirectionField.Proofs
