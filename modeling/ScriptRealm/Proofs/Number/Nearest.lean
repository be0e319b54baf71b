import Mathlib.Algebra.Order.Field.Rat
import Mathlib.Algebra.Order.Ring.Abs
import Mathlib.Algebra.Ring.Parity
import Mathlib.Data.Nat.Cast.Order.Field
import Mathlib.Order.Monotone.Basic
import Mathlib.Tactic.FieldSimp
import Mathlib.Tactic.Linarith
import Mathlib.Tactic.NormNum
import Mathlib.Tactic.Positivity
import Mathlib.Tactic.Ring
import ScriptRealm.Proofs.Number.NormalForm

/-!
# Nearest ordinals

The magnitudes of the ordinals form runs: within a run they are consecutive multiples of one power
of two. Rounding takes the run that a quotient lies in and the multiple nearest to it. Hence no
ordinal up to that of the infinities is nearer to the quotient, and where another one is as near,
the ordinal that is taken is even.
-/

namespace ScriptRealm.Binary64

/-! ## Quotients rounded to integers -/

section RoundDiv

variable (num : Nat) {den : Nat} (hden : 0 < den)
include hden

/-- The rounded quotient is at most half a unit away, and it is even if it is that far away. -/
theorem roundDiv_near :
    |(roundDiv num den : ℚ) - num / den| ≤ 1 / 2 ∧
      (|(roundDiv num den : ℚ) - num / den| = 1 / 2 → Even (roundDiv num den)) := by
  have hpos : (0 : ℚ) < den := by exact_mod_cast hden
  have hmod : num % den < den := Nat.mod_lt num hden
  -- the quotient is its integral part with a rest below one
  obtain ⟨rest, hrest⟩ : ∃ rest : ℚ, rest = (num % den : Nat) / (den : ℚ) := ⟨_, rfl⟩
  have hquotient : (num : ℚ) / den = (num / den : Nat) + rest := by
    have hsplit : (den : ℚ) * (num / den : Nat) + (num % den : Nat) = num := by
      exact_mod_cast Nat.div_add_mod num den
    rw [hrest, ← hsplit]
    field_simp
  have hnonneg : 0 ≤ rest := by rw [hrest]; positivity
  have hlt : rest < 1 := by
    rw [hrest, div_lt_one hpos]
    exact_mod_cast hmod
  unfold roundDiv
  simp only [hquotient]
  split
  · rename_i hbelow
    have hhalf : rest < 1 / 2 := by
      have : (2 : ℚ) * (num % den : Nat) < den := by exact_mod_cast hbelow
      rw [hrest, div_lt_div_iff₀ hpos (by norm_num)]
      linarith
    have hdistance : |((num / den : Nat) : ℚ) - ((num / den : Nat) + rest)| = rest := by
      rw [abs_sub_comm, add_sub_cancel_left, abs_of_nonneg hnonneg]
    rw [hdistance]
    exact ⟨hhalf.le, fun h => absurd h hhalf.ne⟩
  · split
    · rename_i habove
      have hhalf : 1 / 2 < rest := by
        have : (den : ℚ) < 2 * (num % den : Nat) := by exact_mod_cast habove
        rw [hrest, div_lt_div_iff₀ (by norm_num) hpos]
        linarith
      have hdistance :
          |((num / den + 1 : Nat) : ℚ) - ((num / den : Nat) + rest)| = 1 - rest := by
        rw [Nat.cast_add, Nat.cast_one, add_sub_add_left_eq_sub, abs_of_nonneg (by linarith)]
      rw [hdistance]
      exact ⟨by linarith, fun h => absurd h (by linarith)⟩
    · rename_i hbelow habove
      have htwice : 2 * (num % den) = den := by omega
      have hhalf : rest = 1 / 2 := by
        have : (2 : ℚ) * (num % den : Nat) = den := by exact_mod_cast htwice
        rw [hrest, div_eq_div_iff hpos.ne' (by norm_num)]
        linarith
      refine ⟨?_, fun _ => ?_⟩
      · -- the quotient is halfway, so that both neighbours are equally near
        rcases Nat.mod_two_eq_zero_or_one (num / den) with heven | hodd
        · rw [heven, add_zero, hhalf, sub_add_cancel_left, abs_neg, abs_of_nonneg (by norm_num)]
        · rw [hodd, Nat.cast_add, Nat.cast_one, hhalf, add_sub_add_left_eq_sub]
          norm_num
      · rw [Nat.even_iff]
        omega

end RoundDiv

/-! ## Runs -/

theorem fractionCount_pos : 0 < fractionCount := by decide

theorem fractionCount_eq : fractionCount = 2 ^ 52 := by decide

/-- Every ordinal has a place in a run. The ordinals of the first run have any significand, those of
later ones a significand with its leading bit. -/
theorem exists_run (n : Nat) :
    ∃ c r, n = c * fractionCount + r ∧ r < 2 * fractionCount ∧ (c = 0 ∨ fractionCount ≤ r) := by
  by_cases hsmall : n < fractionCount
  · exact ⟨0, n, by omega, by omega, .inl rfl⟩
  · have hsplit := Nat.div_add_mod n fractionCount
    have hmod := Nat.mod_lt n fractionCount_pos
    have hrun : 1 ≤ n / fractionCount :=
      (Nat.one_le_div_iff fractionCount_pos).2 (Nat.le_of_not_lt hsmall)
    obtain ⟨c, hc⟩ : ∃ c, n / fractionCount = c + 1 := ⟨n / fractionCount - 1, by omega⟩
    refine ⟨c, fractionCount + n % fractionCount, ?_, by omega, .inr (by omega)⟩
    rw [hc, Nat.mul_succ, Nat.mul_comm] at hsplit
    omega

/-- Within a run the magnitudes are the multiples of a power of two. The end of a run is the
beginning of the next one. -/
theorem unitsOfOrdinal_run {c r : Nat} (hr : r ≤ 2 * fractionCount)
    (hfirst : c = 0 ∨ fractionCount ≤ r) :
    unitsOfOrdinal (c * fractionCount + r) = r * 2 ^ c := by
  by_cases hend : r = 2 * fractionCount
  · have hnext : c * fractionCount + r = (c + 1) * fractionCount + fractionCount := by
      rw [hend, Nat.succ_mul c]
      omega
    have hsignificand : Significand fractionCount := ⟨Nat.le_refl _, by decide⟩
    rw [hnext, unitsOfOrdinal_significand hsignificand, Nat.shiftLeft_eq, hend, Nat.pow_succ']
    ring
  · by_cases hleading : fractionCount ≤ r
    · rw [unitsOfOrdinal_significand ⟨hleading, by omega⟩, Nat.shiftLeft_eq]
    · obtain rfl : c = 0 := hfirst.resolve_right hleading
      rw [Nat.zero_mul, Nat.zero_add, unitsOfOrdinal, if_pos (Nat.lt_of_not_le hleading),
        Nat.pow_zero, Nat.mul_one]

/-- Greater ordinals have greater magnitudes. -/
theorem strictMono_unitsOfOrdinal : StrictMono unitsOfOrdinal := by
  refine strictMono_nat_of_lt_succ fun n => ?_
  obtain ⟨c, r, rfl, hr, hfirst⟩ := exists_run n
  have hnext : c = 0 ∨ fractionCount ≤ r + 1 := hfirst.imp_right fun h => by omega
  rw [Nat.add_assoc, unitsOfOrdinal_run hr.le hfirst, unitsOfOrdinal_run hr hnext]
  exact Nat.mul_lt_mul_of_pos_right (Nat.lt_succ_self r) (Nat.two_pow_pos c)

/-- From a run on, all magnitudes are multiples of its power of two. -/
theorem dvd_unitsOfOrdinal {c n : Nat} (h : c = 0 ∨ (c + 1) * fractionCount ≤ n) :
    2 ^ c ∣ unitsOfOrdinal n := by
  rcases h with rfl | h
  · exact Nat.one_dvd _
  · obtain ⟨d, r, rfl, hr, hfirst⟩ := exists_run n
    have hle : c ≤ d := by
      by_contra hlt
      have hbegin : c * fractionCount + fractionCount ≤ d * fractionCount + r := by
        rwa [Nat.succ_mul] at h
      have hrun : d * fractionCount + fractionCount ≤ c * fractionCount := by
        rw [← Nat.succ_mul]
        exact Nat.mul_le_mul_right _ (by omega)
      omega
    rw [unitsOfOrdinal_run hr.le hfirst]
    exact Dvd.dvd.mul_left (Nat.pow_dvd_pow 2 hle) r

/-! ## The nearest multiple -/

section Multiple

variable {q : ℚ} {c r : Nat} (hnear : |(r : ℚ) * 2 ^ c - q| ≤ 2 ^ c / 2)
include hnear

/-- Of two different multiples of a power of two, one is at least half of it away. -/
theorem half_le_abs_multiple_sub {j : Nat} (hj : j ≠ r) : 2 ^ c / 2 ≤ |(j : ℚ) * 2 ^ c - q| := by
  have hpos : (0 : ℚ) < 2 ^ c := by positivity
  have hapart : (1 : ℚ) ≤ |(j : ℚ) - r| := by
    have hint : (1 : ℤ) ≤ |(j : ℤ) - r| := Int.one_le_abs (by omega)
    exact_mod_cast hint
  have hsteps : (2 : ℚ) ^ c ≤ |(j : ℚ) * 2 ^ c - r * 2 ^ c| := by
    rw [← sub_mul, abs_mul, abs_of_pos hpos]
    exact le_mul_of_one_le_left hpos.le hapart
  have htriangle := abs_sub_le ((j : ℚ) * 2 ^ c) q (r * 2 ^ c)
  rw [abs_sub_comm q] at htriangle
  linarith

theorem abs_sub_le_abs_multiple_sub (j : Nat) :
    |(r : ℚ) * 2 ^ c - q| ≤ |(j : ℚ) * 2 ^ c - q| := by
  by_cases hj : j = r
  · rw [hj]
  · exact hnear.trans (half_le_abs_multiple_sub hnear hj)

end Multiple

/-! ## The nearest ordinal -/

/-- A number lies in the run of a power of two, and `r` is the multiple of it that the number is
rounded to. -/
structure InRun (q : ℚ) (c r : Nat) : Prop where
  near : |(r : ℚ) * 2 ^ c - q| ≤ 2 ^ c / 2
  even : |(r : ℚ) * 2 ^ c - q| = 2 ^ c / 2 → Even r
  le : r ≤ 2 * fractionCount
  first : c = 0 ∨ fractionCount ≤ r
  low : c = 0 ∨ (fractionCount : ℚ) * 2 ^ c ≤ q

namespace InRun

variable {q : ℚ} {c r : Nat} (h : InRun q c r)
include h

theorem units_eq : (unitsOfOrdinal (c * fractionCount + r) : ℚ) = r * 2 ^ c := by
  rw [unitsOfOrdinal_run h.le h.first]
  push_cast
  rfl

/-- The ordinals of the run and of later ones are multiples of its power of two, and those of
earlier runs are further away than its beginning. -/
theorem lt_or_half_le {k : Nat} (hk : k ≠ c * fractionCount + r) :
    |(unitsOfOrdinal (c * fractionCount + r) : ℚ) - q| < |(unitsOfOrdinal k : ℚ) - q| ∨
      2 ^ c / 2 ≤ |(unitsOfOrdinal k : ℚ) - q| := by
  by_cases hlater : c = 0 ∨ (c + 1) * fractionCount ≤ k
  · right
    obtain ⟨j, hj⟩ := dvd_unitsOfOrdinal hlater
    have hmultiple : (unitsOfOrdinal k : ℚ) = j * 2 ^ c := by
      rw [hj, Nat.mul_comm]
      push_cast
      rfl
    have hne : j ≠ r := by
      rintro rfl
      apply hk
      apply strictMono_unitsOfOrdinal.injective
      rw [unitsOfOrdinal_run h.le h.first, hj, Nat.mul_comm]
    rw [hmultiple]
    exact half_le_abs_multiple_sub h.near hne
  · left
    have hpositive : c ≠ 0 := fun hzero => hlater (.inl hzero)
    have hbegin : (fractionCount : ℚ) * 2 ^ c ≤ q := h.low.resolve_left hpositive
    have hbelow : (unitsOfOrdinal k : ℚ) < fractionCount * 2 ^ c := by
      have hlt : k < c * fractionCount + fractionCount := by
        rw [← Nat.succ_mul]
        exact Nat.lt_of_not_le fun hle => hlater (.inr hle)
      have hunits := strictMono_unitsOfOrdinal hlt
      rw [unitsOfOrdinal_run (by omega) (.inr (Nat.le_refl _))] at hunits
      exact_mod_cast hunits
    have hgrid := abs_sub_le_abs_multiple_sub h.near fractionCount
    rw [abs_of_nonpos (sub_nonpos.2 hbegin)] at hgrid
    rw [h.units_eq, abs_of_neg (sub_neg.2 (hbelow.trans_le hbegin))]
    linarith

theorem nearest (k : Nat) :
    |(unitsOfOrdinal (c * fractionCount + r) : ℚ) - q| ≤ |(unitsOfOrdinal k : ℚ) - q| := by
  by_cases hk : k = c * fractionCount + r
  · rw [hk]
  · rcases h.lt_or_half_le hk with hlt | hhalf
    · exact hlt.le
    · rw [h.units_eq]
      exact h.near.trans hhalf

theorem even_of_tie {k : Nat} (hk : k ≠ c * fractionCount + r)
    (htie : |(unitsOfOrdinal k : ℚ) - q| = |(unitsOfOrdinal (c * fractionCount + r) : ℚ) - q|) :
    Even (c * fractionCount + r) := by
  rcases h.lt_or_half_le hk with hlt | hhalf
  · exact absurd htie hlt.ne'
  · rw [htie, h.units_eq] at hhalf
    have hfraction : Even fractionCount := by decide
    exact (hfraction.mul_left c).add (h.even (le_antisymm h.near hhalf))

end InRun

/-- The power of two that a magnitude is rounded to leaves no more than the digits of a significand.
-/
theorem lt_coarseness (n : Nat) : n < 2 * fractionCount * 2 ^ (n.log2 - 52) := by
  calc n < 2 ^ (n.log2 + 1) := Nat.lt_log2_self
    _ ≤ 2 ^ (53 + (n.log2 - 52)) := Nat.pow_le_pow_right (by decide) (by omega)
    _ = 2 * fractionCount * 2 ^ (n.log2 - 52) := by
      rw [Nat.pow_add, fractionCount_eq, ← Nat.pow_succ']

/-- If it is not one, it leaves no less than them. -/
theorem coarseness_le {n : Nat} (h : n.log2 - 52 ≠ 0) :
    fractionCount * 2 ^ (n.log2 - 52) ≤ n := by
  have hnonzero : n ≠ 0 := by
    rintro rfl
    exact h rfl
  have hexponent : n.log2 = 52 + (n.log2 - 52) := by omega
  calc fractionCount * 2 ^ (n.log2 - 52) = 2 ^ (52 + (n.log2 - 52)) := by
        rw [Nat.pow_add, fractionCount_eq]
    _ = 2 ^ n.log2 := by rw [← hexponent]
    _ ≤ n := Nat.log2_self_le hnonzero

section OrdinalOfUnits

variable (num : Nat) {den : Nat} (hden : 0 < den)
include hden

/-- A quotient is rounded in units of the run that it lies in, and what would exceed the infinities
is taken for one of them. -/
theorem exists_inRun :
    ∃ c r, InRun ((num : ℚ) / den) c r ∧
      ordinalOfUnits num den = min (c * fractionCount + r) infinityOrdinal := by
  obtain ⟨c, hc⟩ : ∃ c, c = (num / den).log2 - 52 := ⟨_, rfl⟩
  obtain ⟨r, hr⟩ : ∃ r, r = roundDiv num (den <<< c) := ⟨_, rfl⟩
  have hordinal : ordinalOfUnits num den = min (c * fractionCount + r) infinityOrdinal := by
    rw [ordinalOfUnits, hr, hc]
  have hdenpos : (0 : ℚ) < den := by exact_mod_cast hden
  have hpos : (0 : ℚ) < 2 ^ c := by positivity
  have hshift : 0 < den <<< c := by
    rw [Nat.shiftLeft_eq]
    exact Nat.mul_pos hden (Nat.two_pow_pos c)
  have hround := roundDiv_near num hshift
  have hscaled : (num : ℚ) / (den <<< c : Nat) = num / den / 2 ^ c := by
    rw [Nat.shiftLeft_eq, div_div]
    push_cast
    rfl
  rw [hscaled, ← hr] at hround
  -- the integral part of the quotient tells its run
  have hfloor : ((num / den : Nat) : ℚ) ≤ num / den := Nat.cast_div_le
  have hceil : (num : ℚ) / den < (num / den : Nat) + 1 := by
    rw [div_lt_iff₀ hdenpos, mul_comm]
    exact_mod_cast Nat.lt_mul_div_succ num hden
  generalize (num : ℚ) / den = q at *
  have hdistance : |(r : ℚ) * 2 ^ c - q| = |(r : ℚ) - q / 2 ^ c| * 2 ^ c := by
    have hfactor : (r : ℚ) * 2 ^ c - q = (r - q / 2 ^ c) * 2 ^ c := by
      rw [sub_mul, div_mul_cancel₀ _ hpos.ne']
    rw [hfactor, abs_mul, abs_of_pos hpos]
  have hhigh : q / 2 ^ c < 2 * fractionCount := by
    have hlt : num / den < 2 * fractionCount * 2 ^ c := hc ▸ lt_coarseness (num / den)
    rw [div_lt_iff₀ hpos]
    exact hceil.trans_le (by exact_mod_cast hlt)
  have hlow : c = 0 ∨ (fractionCount : ℚ) * 2 ^ c ≤ q := by
    refine or_iff_not_imp_left.2 fun hpositive => ?_
    have hle : fractionCount * 2 ^ c ≤ num / den := hc ▸ coarseness_le (hc ▸ hpositive)
    exact le_trans (by exact_mod_cast hle) hfloor
  have hbounds := abs_le.1 hround.1
  refine ⟨c, r, ⟨?_, ?_, ?_, ?_, hlow⟩, hordinal⟩
  · rw [hdistance]
    linarith [mul_le_mul_of_nonneg_right hround.1 hpos.le]
  · intro htie
    rw [hdistance, ← one_div_mul_eq_div (2 : ℚ) (2 ^ c)] at htie
    exact hround.2 (mul_right_cancel₀ hpos.ne' htie)
  · have hcast : (r : ℚ) < 2 * fractionCount + 1 := by linarith
    exact Nat.lt_succ_iff.1 (by exact_mod_cast hcast)
  · refine hlow.imp_right fun hbegin => ?_
    have hle : (fractionCount : ℚ) ≤ q / 2 ^ c := by rwa [le_div_iff₀ hpos]
    have hcast : (fractionCount : ℚ) < r + 1 := by linarith
    exact Nat.lt_succ_iff.1 (by exact_mod_cast hcast)

/-- Up to the ordinal of the infinities, none is nearer to a quotient than the one it rounds to. -/
theorem ordinalOfUnits_nearest {k : Nat} (hk : k ≤ infinityOrdinal) :
    |(unitsOfOrdinal (ordinalOfUnits num den) : ℚ) - num / den| ≤
      |(unitsOfOrdinal k : ℚ) - num / den| := by
  obtain ⟨c, r, h, hordinal⟩ := exists_inRun num hden
  rw [hordinal]
  by_cases hle : c * fractionCount + r ≤ infinityOrdinal
  · rw [Nat.min_eq_left hle]
    exact h.nearest k
  · rw [Nat.min_eq_right (Nat.le_of_not_le hle)]
    -- what rounds beyond the infinities is not below them
    have hgreater : (unitsOfOrdinal infinityOrdinal : ℚ) <
        unitsOfOrdinal (c * fractionCount + r) := by
      exact_mod_cast strictMono_unitsOfOrdinal (Nat.lt_of_not_le hle)
    have hbeyond : (unitsOfOrdinal infinityOrdinal : ℚ) ≤ num / den := by
      by_contra hlt
      have hnearest := h.nearest infinityOrdinal
      rw [abs_of_pos (by linarith), abs_of_pos (by linarith)] at hnearest
      linarith
    have hmono : (unitsOfOrdinal k : ℚ) ≤ unitsOfOrdinal infinityOrdinal := by
      exact_mod_cast strictMono_unitsOfOrdinal.monotone hk
    rw [abs_of_nonpos (by linarith), abs_of_nonpos (by linarith)]
    linarith

/-- Where another ordinal is as near to a quotient, the one it rounds to is even. -/
theorem even_ordinalOfUnits {k : Nat} (hk : k ≠ ordinalOfUnits num den)
    (htie : |(unitsOfOrdinal k : ℚ) - num / den| =
      |(unitsOfOrdinal (ordinalOfUnits num den) : ℚ) - num / den|) :
    Even (ordinalOfUnits num den) := by
  obtain ⟨c, r, h, hordinal⟩ := exists_inRun num hden
  rw [hordinal] at hk htie ⊢
  by_cases hle : c * fractionCount + r ≤ infinityOrdinal
  · rw [Nat.min_eq_left hle] at hk htie ⊢
    exact h.even_of_tie hk htie
  · rw [Nat.min_eq_right (Nat.le_of_not_le hle)]
    decide

end OrdinalOfUnits

end ScriptRealm.Binary64
