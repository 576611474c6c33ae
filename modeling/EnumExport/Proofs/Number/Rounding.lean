import EnumExport.Number.Binary64
import Mathlib

/-!
# Doubles of whole numbers

A whole number is rounded to a multiple of the step between the doubles around it, and the double is
put together from the mantissa.

* The double of a whole number within the range stands for the rounded number: `toInt?_ofInt`.
* A whole number that is a double is rounded to itself, as are all of up to 53 bits:
  `toInt?_ofInt_of_exact`, `toInt?_ofInt_of_le`.
* There is but one zero among these doubles, so two of them are the same number just where they are
  the same data: `ofInt_same_iff`.
* No finite double is nearer to a whole number than its own, and a tie goes to the even multiple:
  `ofInt_nearest`.
-/

namespace EnumExport.Binary64

/-! ## Rounding to a multiple -/

section Quotient

variable (num : Nat) {den : Nat}

/-- Rounding goes to a multiple that is at most half a step away, and to an even one when it is just
that. -/
theorem divNearestEven_spec (h : 0 < den) :
    2 * num ≤ 2 * (den * divNearestEven num den) + den ∧
      2 * (den * divNearestEven num den) ≤ 2 * num + den ∧
      (2 * num = 2 * (den * divNearestEven num den) + den ∨
        2 * (den * divNearestEven num den) = 2 * num + den → divNearestEven num den % 2 = 0) := by
  have hsplit : den * (num / den) + num % den = num := Nat.div_add_mod num den
  have hrest : num % den < den := Nat.mod_lt num h
  have hnext : den * (num / den + 1) = den * (num / den) + den := Nat.mul_succ _ _
  unfold divNearestEven
  dsimp only
  split
  · omega
  · split
    · omega
    · -- a tie: the last bit of the quotient decides
      rcases Nat.mod_two_eq_zero_or_one (num / den) with heven | hodd
      · rw [heven, Nat.add_zero]
        omega
      · rw [hodd]
        omega

theorem divNearestEven_bounds (den : Nat) :
    num / den ≤ divNearestEven num den ∧ divNearestEven num den ≤ num / den + 1 := by
  unfold divNearestEven
  dsimp only
  split
  · omega
  · split <;> omega

/-- No multiple is nearer than the one that rounding goes to. -/
theorem divNearestEven_nearest (h : 0 < den) (k : Nat) :
    ((num : Int) - (den * divNearestEven num den : Nat)).natAbs ≤
      ((num : Int) - (den * k : Nat)).natAbs := by
  obtain ⟨hlow, hhigh, -⟩ := divNearestEven_spec num h
  rcases Nat.lt_trichotomy k (divNearestEven num den) with hlt | rfl | hlt
  · have hstep : den * k + den ≤ den * divNearestEven num den := Nat.mul_le_mul_left den hlt
    omega
  · exact Nat.le_refl _
  · have hstep : den * divNearestEven num den + den ≤ den * k := Nat.mul_le_mul_left den hlt
    omega

theorem mul_divNearestEven_of_dvd {num : Nat} (h : 0 < den) (hdvd : den ∣ num) :
    den * divNearestEven num den = num := by
  obtain ⟨k, hk⟩ := hdvd
  have hnearest := divNearestEven_nearest num h k
  omega

end Quotient

/-! ## The double of a whole number -/

/-- The step from one double to the next around a whole number. Around the smaller ones, where doubles
are closer, it is the step from one whole number to the next. -/
def stepAt (n : Nat) : Nat := 2 ^ (n.log2 - 52)

/-- A whole number rounded to a multiple of the step, a tie to the even one. -/
def rounded (n : Nat) : Nat := stepAt n * divNearestEven n (stepAt n)

/-- The mantissa of 53 bits of a whole number. -/
def mantissaOf (n : Nat) : Nat := divNearestEven (n * 2 ^ (52 - n.log2)) (stepAt n)

variable {n : Nat}

theorem stepAt_pos (n : Nat) : 0 < stepAt n := Nat.two_pow_pos _

/-- Around numbers of up to 53 bits every whole number is a double. -/
theorem stepAt_of_log2 (h : n.log2 ≤ 52) : stepAt n = 1 := by
  rw [stepAt, Nat.sub_eq_zero_of_le h, Nat.pow_zero]

/-- A multiple of the step is rounded to itself. -/
theorem rounded_of_dvd (h : stepAt n ∣ n) : rounded n = n :=
  mul_divNearestEven_of_dvd (stepAt_pos n) h

/-- The first bit of the mantissa is the first of the number. -/
theorem bounds_log2 (hn : n ≠ 0) :
    2 ^ 52 * stepAt n ≤ n * 2 ^ (52 - n.log2) ∧ n * 2 ^ (52 - n.log2) < 2 ^ 53 * stepAt n := by
  have hlow : 2 ^ n.log2 * 2 ^ (52 - n.log2) ≤ n * 2 ^ (52 - n.log2) :=
    Nat.mul_le_mul_right _ (Nat.log2_self_le hn)
  have hhigh : n * 2 ^ (52 - n.log2) < 2 ^ (n.log2 + 1) * 2 ^ (52 - n.log2) :=
    Nat.mul_lt_mul_of_pos_right Nat.lt_log2_self (Nat.two_pow_pos _)
  rw [← Nat.pow_add] at hlow hhigh
  rw [stepAt, ← Nat.pow_add, ← Nat.pow_add]
  have hfirst : n.log2 + (52 - n.log2) = 52 + (n.log2 - 52) := by omega
  have hsecond : n.log2 + 1 + (52 - n.log2) = 53 + (n.log2 - 52) := by omega
  rw [hfirst] at hlow
  rw [hsecond] at hhigh
  exact ⟨hlow, hhigh⟩

theorem mantissaOf_bounds (hn : n ≠ 0) : 2 ^ 52 ≤ mantissaOf n ∧ mantissaOf n ≤ 2 ^ 53 := by
  obtain ⟨hlow, hhigh⟩ := bounds_log2 hn
  obtain ⟨hfloor, hceil⟩ := divNearestEven_bounds (n * 2 ^ (52 - n.log2)) (stepAt n)
  have hquot : 2 ^ 52 ≤ n * 2 ^ (52 - n.log2) / stepAt n :=
    (Nat.le_div_iff_mul_le (stepAt_pos n)).mpr hlow
  have hquot' : n * 2 ^ (52 - n.log2) / stepAt n < 2 ^ 53 :=
    (Nat.div_lt_iff_lt_mul (stepAt_pos n)).mpr hhigh
  exact ⟨Nat.le_trans hquot hfloor, Nat.le_trans hceil hquot'⟩

theorem exponentFor_one (hn : n ≠ 0) : exponentFor n 1 = (n.log2 : Int) - 52 := by
  obtain ⟨hlow, -⟩ := bounds_log2 hn
  have hup : (-((n.log2 : Int) - 52)).toNat = 52 - n.log2 := by omega
  have hdown : ((n.log2 : Int) - 52).toNat = n.log2 - 52 := by omega
  have hguess : (n.log2 : Int) - (Nat.log2 1 : Nat) - 52 = (n.log2 : Int) - 52 := by
    rw [show Nat.log2 1 = 0 from rfl]
    omega
  have hquot : ¬ n * 2 ^ (52 - n.log2) / (1 * 2 ^ (n.log2 - 52)) < 2 ^ 52 := by
    rw [Nat.one_mul, Nat.not_lt]
    exact (Nat.le_div_iff_mul_le (stepAt_pos n)).mpr hlow
  unfold exponentFor
  simp only [hguess, scaled, hup, hdown, Nat.pow_eq]
  rw [if_neg hquot, minExponent]
  omega

/-- The double of a whole number that is not zero is put together from its mantissa of 53 bits. -/
theorem ofInt_eq {i : Int} (hi : i ≠ 0) :
    ofInt i = assemble (i < 0) (mantissaOf i.natAbs) ((i.natAbs.log2 : Int) - 52) := by
  have hn : i.natAbs ≠ 0 := by omega
  have hup : (-((i.natAbs.log2 : Int) - 52)).toNat = 52 - i.natAbs.log2 := by omega
  have hdown : ((i.natAbs.log2 : Int) - 52).toNat = i.natAbs.log2 - 52 := by omega
  rw [ofInt, ofRatio, if_neg hn, exponentFor_one hn]
  simp only [scaled, hup, hdown, Nat.one_mul]
  rfl

/-- The mantissa stands for the rounded number. -/
theorem mantissaOf_mul (n : Nat) : mantissaOf n * stepAt n = rounded n * 2 ^ (52 - n.log2) := by
  rcases Nat.le_total n.log2 52 with hle | hle
  · have hstep := stepAt_of_log2 hle
    have hrounded : rounded n = n := rounded_of_dvd (hstep ▸ Nat.one_dvd n)
    have hmantissa := mul_divNearestEven_of_dvd (stepAt_pos n)
      (hstep ▸ Nat.one_dvd (n * 2 ^ (52 - n.log2)))
    rw [hrounded, Nat.mul_comm]
    exact hmantissa
  · rw [mantissaOf, Nat.sub_eq_zero_of_le hle, Nat.pow_zero, Nat.mul_one, Nat.mul_one, rounded,
      Nat.mul_comm]

/-- A number with its sign. -/
def signed (negative : Bool) (n : Nat) : Int := if negative then -(n : Int) else n

theorem toInt?_finite {negative : Bool} {m r : Nat} {e : Int}
    (h : m * 2 ^ e.toNat = r * 2 ^ (-e).toNat) :
    (finite negative m e).toInt? = some (signed negative r) := by
  have hden : ((2 ^ (-e).toNat : Nat) : Int) ≠ 0 := by
    have := Nat.two_pow_pos (-e).toNat
    omega
  have hnum : signed negative (r * 2 ^ (-e).toNat) =
      signed negative r * (2 ^ (-e).toNat : Nat) := by
    cases negative
    · exact Int.natCast_mul _ _
    · exact (congrArg Neg.neg (Int.natCast_mul _ _)).trans (Int.neg_mul _ _).symm
  have hratio : (finite negative m e).toRatio? =
      some (signed negative r * (2 ^ (-e).toNat : Nat), 2 ^ (-e).toNat) := by
    rw [toRatio?, ← hnum, ← h]
    rfl
  rw [toInt?, hratio]
  simp only [Int.mul_emod_left, if_true, Int.mul_ediv_cancel _ hden]

theorem assemble_of_lt {negative : Bool} {m : Nat} {e : Int} (hm : m ≠ 0) (hlt : m < 2 ^ 53) :
    assemble negative m e = if maxExponent < e then infinite negative else finite negative m e := by
  have hwhole : m ≠ Nat.pow 2 53 := Nat.ne_of_lt hlt
  rw [assemble]
  simp only [if_neg hwhole, if_neg hm]

theorem assemble_carry (negative : Bool) (e : Int) :
    assemble negative (2 ^ 53) e =
      if maxExponent < e + 1 then infinite negative else finite negative (2 ^ 52) (e + 1) := by
  simp [assemble]

/-- Where the rounded number is within the range, so is the exponent. -/
theorem exponent_lt {k : Nat} (hk : k ≤ 53) (hbits : 2 ^ k ≤ mantissaOf n)
    (h : (rounded n).log2 < 1024) : k + (n.log2 - 52) < 1024 := by
  rcases Nat.le_total n.log2 52 with hle | hle
  · omega
  · have hmul := mantissaOf_mul n
    rw [Nat.sub_eq_zero_of_le hle, Nat.pow_zero, Nat.mul_one] at hmul
    have hpow : 2 ^ (k + (n.log2 - 52)) ≤ rounded n := by
      rw [Nat.pow_add, ← hmul]
      exact Nat.mul_le_mul_right _ hbits
    have hne : rounded n ≠ 0 := Nat.ne_of_gt (Nat.lt_of_lt_of_le (Nat.two_pow_pos _) hpow)
    exact Nat.lt_of_le_of_lt ((Nat.le_log2 hne).mpr hpow) h

/-- A halved mantissa stands for the same number under the next exponent. -/
theorem carry_mul (h : 2 ^ 53 * stepAt n = rounded n * 2 ^ (52 - n.log2)) :
    2 ^ 52 * 2 ^ ((n.log2 : Int) - 52 + 1).toNat =
      rounded n * 2 ^ (-((n.log2 : Int) - 52 + 1)).toNat := by
  rw [stepAt] at h
  rcases Nat.lt_or_ge n.log2 52 with hlt | hge
  · have hup : (-((n.log2 : Int) - 52 + 1)).toNat = 51 - n.log2 := by omega
    have hdown : ((n.log2 : Int) - 52 + 1).toNat = 0 := by omega
    have hnone : n.log2 - 52 = 0 := by omega
    have hsucc : 52 - n.log2 = 51 - n.log2 + 1 := by omega
    have hpow : 2 ^ (51 - n.log2 + 1) = 2 ^ (51 - n.log2) * 2 := Nat.pow_succ ..
    rw [hnone, hsucc, hpow, ← Nat.mul_assoc] at h
    rw [hup, hdown]
    omega
  · have hup : (-((n.log2 : Int) - 52 + 1)).toNat = 52 - n.log2 := by omega
    have hdown : ((n.log2 : Int) - 52 + 1).toNat = n.log2 - 52 + 1 := by omega
    rw [hup, hdown, Nat.pow_succ, ← h]
    omega

/-- The double of a whole number within the range stands for the rounded number. -/
theorem toInt?_ofInt {i : Int} (h : (rounded i.natAbs).log2 < 1024) :
    (ofInt i).toInt? = some (signed (i < 0) (rounded i.natAbs)) := by
  by_cases hi : i = 0
  · subst hi
    have hzero : rounded (Int.natAbs 0) = 0 := rfl
    exact toInt?_finite (by rw [hzero, Nat.zero_mul, Nat.zero_mul])
  · have hn : i.natAbs ≠ 0 := by omega
    rw [ofInt_eq hi]
    obtain ⟨hlow, hhigh⟩ := mantissaOf_bounds hn
    have hmul := mantissaOf_mul i.natAbs
    have hup : (-((i.natAbs.log2 : Int) - 52)).toNat = 52 - i.natAbs.log2 := by omega
    have hdown : ((i.natAbs.log2 : Int) - 52).toNat = i.natAbs.log2 - 52 := by omega
    rcases Nat.lt_or_eq_of_le hhigh with hlt | hcarry
    · have hexponent := exponent_lt (by decide) hlow h
      rw [assemble_of_lt (by omega) hlt, if_neg (by rw [maxExponent]; omega)]
      refine toInt?_finite ?_
      rw [hup, hdown]
      exact hmul
    · -- the mantissa grew past 53 bits, so it is halved
      have hexponent := exponent_lt (Nat.le_refl 53) (Nat.le_of_eq hcarry.symm) h
      rw [hcarry, assemble_carry, if_neg (by rw [maxExponent]; omega)]
      refine toInt?_finite ?_
      rw [hcarry] at hmul
      exact carry_mul hmul

/-! ## The same number -/

/-- The double of a whole number is no zero with a sign. -/
theorem ofInt_cases (i : Int) : ofInt i = zero false ∨
    (∃ negative m e, m ≠ 0 ∧ ofInt i = finite negative m e) ∨
      ∃ negative, ofInt i = infinite negative := by
  by_cases hi : i = 0
  · subst hi
    exact .inl rfl
  · obtain ⟨hlow, hhigh⟩ := mantissaOf_bounds (show i.natAbs ≠ 0 by omega)
    rw [ofInt_eq hi]
    right
    rcases Nat.lt_or_eq_of_le hhigh with hlt | hcarry
    · rw [assemble_of_lt (by omega) hlt]
      split
      · exact .inr ⟨_, rfl⟩
      · exact .inl ⟨_, _, _, by omega, rfl⟩
    · rw [hcarry, assemble_carry]
      split
      · exact .inr ⟨_, rfl⟩
      · exact .inl ⟨_, _, _, by decide, rfl⟩

theorem ofInt_same_iff (i j : Int) : (ofInt i).same (ofInt j) = true ↔ ofInt i = ofInt j := by
  rcases ofInt_cases i with hi | ⟨s, m, e, hm, hi⟩ | ⟨s, hi⟩ <;>
    rcases ofInt_cases j with hj | ⟨t, k, f, hk, hj⟩ | ⟨t, hj⟩ <;>
    simp [same, zero, and_assoc, *]

/-! ## Whole numbers that are doubles -/

theorem log2_lt_of_exact {m k : Nat} (hm : m < 2 ^ 53) (hn : n ≠ 0) (h : n = m * 2 ^ k) :
    n.log2 < 53 + k := by
  rw [Nat.log2_lt hn, h, Nat.pow_add]
  exact Nat.mul_lt_mul_of_pos_right hm (Nat.two_pow_pos k)

/-- A whole number of up to 53 bits and some zeros is a multiple of its step. -/
theorem rounded_of_exact {m k : Nat} (hm : m < 2 ^ 53) (h : n = m * 2 ^ k) : rounded n = n := by
  refine rounded_of_dvd ?_
  by_cases hn : n = 0
  · exact hn ▸ Nat.dvd_zero _
  · have hlog := log2_lt_of_exact hm hn h
    have hstep : stepAt n ∣ 2 ^ k := Nat.pow_dvd_pow 2 (by omega)
    exact h ▸ Nat.dvd_trans (h ▸ hstep) (Nat.dvd_mul_left _ m)

theorem signed_natAbs (i : Int) : signed (i < 0) i.natAbs = i := by
  by_cases hneg : i < 0
  · rw [signed, decide_eq_true hneg, if_pos rfl]
    omega
  · rw [signed, decide_eq_false hneg, if_neg Bool.false_ne_true]
    omega

/-- The double of a whole number that is a double stands for just that number. -/
theorem toInt?_ofInt_of_exact {i : Int} {m k : Nat} (hm : m < 2 ^ 53) (hk : k ≤ 971)
    (h : i.natAbs = m * 2 ^ k) : (ofInt i).toInt? = some i := by
  have hrounded := rounded_of_exact hm h
  have hrange : (rounded i.natAbs).log2 < 1024 := by
    rw [hrounded]
    by_cases hn : i.natAbs = 0
    · rw [hn]
      decide
    · have hlog := log2_lt_of_exact hm hn h
      omega
  rw [toInt?_ofInt hrange, hrounded, signed_natAbs]

theorem toInt?_ofInt_of_le {i : Int} (h : i.natAbs ≤ 2 ^ 53) : (ofInt i).toInt? = some i := by
  rcases Nat.lt_or_eq_of_le h with hlt | heq
  · exact toInt?_ofInt_of_exact hlt (Nat.zero_le _) (Nat.mul_one _).symm
  · exact toInt?_ofInt_of_exact (by decide) (by decide) (heq.trans (Nat.one_mul _).symm)

/-! ## Nearness -/

/-- A double of a smaller exponent is no greater than the least number of that many bits. -/
theorem mul_two_pow_le {m u : Nat} (hm : m < 2 ^ 53) (hu : u < n.log2 - 52) :
    m * 2 ^ u ≤ stepAt n * 2 ^ 52 := by
  have hpow : 2 ^ (u + 1) ≤ stepAt n := Nat.pow_le_pow_right (by decide) hu
  have hsucc : 2 ^ (u + 1) = 2 ^ u * 2 := Nat.pow_succ ..
  calc m * 2 ^ u ≤ 2 ^ 53 * 2 ^ u := Nat.mul_le_mul_right _ (Nat.le_of_lt hm)
    _ = 2 ^ (u + 1) * 2 ^ 52 := by omega
    _ ≤ stepAt n * 2 ^ 52 := Nat.mul_le_mul_right _ hpow

/-- No quotient that is a double is nearer to a whole number than the rounded number. -/
theorem rounded_nearest {m : Nat} (hm : m < 2 ^ 53) (n : Nat) (e : Int) :
    2 ^ (-e).toNat * ((n : Int) - rounded n).natAbs ≤
      (((n * 2 ^ (-e).toNat : Nat) : Int) - (m * 2 ^ e.toNat : Nat)).natAbs := by
  rcases Nat.lt_or_ge 52 n.log2 with hlog | hlog
  · rcases Nat.lt_or_ge e.toNat (n.log2 - 52) with hsmall | hlarge
    · -- the double is not above the least number of as many bits, which is a multiple of the step
      have hn : n ≠ 0 := by
        rintro rfl
        exact absurd hlog (by decide)
      obtain ⟨hlow, -⟩ := bounds_log2 hn
      rw [Nat.sub_eq_zero_of_le (Nat.le_of_lt hlog), Nat.pow_zero, Nat.mul_one, Nat.mul_comm] at hlow
      have hnear := divNearestEven_nearest n (stepAt_pos n) (2 ^ 52)
      have hdouble := mul_two_pow_le hm hsmall
      have hpos := Nat.two_pow_pos (-e).toNat
      generalize 2 ^ (-e).toNat = b at hpos ⊢
      generalize stepAt n * 2 ^ 52 = least at hlow hnear hdouble
      have hle : ((n : Int) - rounded n).natAbs ≤ n - least := by
        rw [rounded]
        omega
      have hmul : b * ((n : Int) - rounded n).natAbs ≤ b * (n - least) := Nat.mul_le_mul_left b hle
      have hsub : b * (n - least) + b * least = n * b := by
        rw [← Nat.mul_add, Nat.sub_add_cancel hlow, Nat.mul_comm]
      have hscaled : least ≤ b * least := Nat.le_mul_of_pos_left least hpos
      omega
    · -- the double is a multiple of the step
      have hwhole : (-e).toNat = 0 := by omega
      have hdvd : stepAt n ∣ m * 2 ^ e.toNat :=
        Nat.dvd_trans (Nat.pow_dvd_pow 2 hlarge) (Nat.dvd_mul_left _ m)
      obtain ⟨k, hk⟩ := hdvd
      rw [hwhole, Nat.pow_zero, Nat.one_mul, Nat.mul_one, hk]
      exact divNearestEven_nearest n (stepAt_pos n) k
  · have hrounded : rounded n = n := rounded_of_dvd (stepAt_of_log2 hlog ▸ Nat.one_dvd n)
    rw [hrounded, Int.sub_self]
    exact Nat.zero_le _

theorem natAbs_signed (negative : Bool) (n : Nat) : (signed negative n).natAbs = n := by
  cases negative
  · rfl
  · exact Int.natAbs_neg _

/-- **Rounding of whole numbers.** The double of a whole number within the range stands for a whole
number to which no finite double is nearer, and where the number lies in the middle between two
doubles, for an even multiple of the step between these. -/
theorem ofInt_nearest {i : Int} (h : (rounded i.natAbs).log2 < 1024) :
    ∃ j, (ofInt i).toInt? = some j ∧
      (∀ negative m e a b, m < 2 ^ 53 → (finite negative m e).toRatio? = some (a, b) →
        b * (i - j).natAbs ≤ (i * b - a).natAbs) ∧
      (2 * (i - j).natAbs = stepAt i.natAbs → 2 * stepAt i.natAbs ∣ j.natAbs) := by
  have hdist : (i - signed (i < 0) (rounded i.natAbs)).natAbs =
      ((i.natAbs : Int) - rounded i.natAbs).natAbs := by
    by_cases hneg : i < 0
    · rw [signed, decide_eq_true hneg, if_pos rfl]
      omega
    · rw [signed, decide_eq_false hneg, if_neg Bool.false_ne_true]
      omega
  refine ⟨_, toInt?_ofInt h, ?_, ?_⟩
  · intro negative m e a b hm hratio
    have hnear := rounded_nearest hm i.natAbs e
    rw [toRatio?, Option.some.injEq, Prod.mk.injEq] at hratio
    obtain ⟨ha, rfl⟩ := hratio
    have ha : a.natAbs = m * 2 ^ e.toNat := ha ▸ natAbs_signed negative _
    have hi : (i * (Nat.pow 2 (-e).toNat : Nat)).natAbs = i.natAbs * 2 ^ (-e).toNat :=
      Int.natAbs_mul _ _
    rw [← ha, ← hi] at hnear
    rw [hdist]
    refine Nat.le_trans hnear ?_
    omega
  · intro htie
    rw [hdist] at htie
    obtain ⟨hlow, hhigh, heven⟩ := divNearestEven_spec i.natAbs (stepAt_pos i.natAbs)
    rw [natAbs_signed]
    rw [rounded] at htie ⊢
    have hmod := heven (by omega)
    rw [Nat.mul_comm]
    exact Nat.mul_dvd_mul_left _ (Nat.dvd_of_mod_eq_zero hmod)

end EnumExport.Binary64
