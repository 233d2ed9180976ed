import Mathlib.Algebra.Group.Nat.Defs
import Mathlib.Algebra.Order.Monoid.Unbundled.WithTop
import Mathlib.Data.Nat.Size

/-!
# Natural numbers as doubles

A double has 53 significant bits. A greater natural number is rounded to the nearest double, of two
that are equally near to the even one, and from a bound on it is infinite. Rounding keeps the order,
but not strictly.
-/

namespace Double

/-- The quotient to the nearest natural number, of two that are equally near the even one. -/
def nearestQuotient (n d : ℕ) : ℕ :=
  if d < 2 * (n % d) ∨ d = 2 * (n % d) ∧ n / d % 2 = 1 then n / d + 1 else n / d

theorem div_le_nearestQuotient (n d : ℕ) : n / d ≤ nearestQuotient n d := by
  unfold nearestQuotient
  split <;> omega

theorem nearestQuotient_le (n d : ℕ) : nearestQuotient n d ≤ n / d + 1 := by
  unfold nearestQuotient
  split <;> omega

theorem nearestQuotient_one (n : ℕ) : nearestQuotient n 1 = n := by
  unfold nearestQuotient
  rw [Nat.mod_one, Nat.div_one, if_neg (by omega)]

theorem nearestQuotient_mono (d : ℕ) {n m : ℕ} (h : n ≤ m) :
    nearestQuotient n d ≤ nearestQuotient m d := by
  rcases (Nat.div_le_div_right h : n / d ≤ m / d).lt_or_eq with hlt | heq
  · calc
      nearestQuotient n d ≤ n / d + 1 := nearestQuotient_le n d
      _ ≤ m / d := hlt
      _ ≤ nearestQuotient m d := div_le_nearestQuotient m d
  · -- of one quotient, the greater number has the greater remainder
    have hn := Nat.div_add_mod n d
    have hm := Nat.div_add_mod m d
    rw [← heq] at hm
    unfold nearestQuotient
    rw [← heq]
    split <;> split <;> omega

/-- The bits that a number has beyond the significant ones. -/
def excess (n : ℕ) : ℕ := n.size - 53

/-- The nearest number of 53 significant bits. -/
def round (n : ℕ) : ℕ := nearestQuotient n (2 ^ excess n) * 2 ^ excess n

theorem excess_mono {n m : ℕ} (h : n ≤ m) : excess n ≤ excess m :=
  Nat.sub_le_sub_right (Nat.size_le_size h) 53

theorem round_of_lt {n : ℕ} (h : n < 2 ^ 53) : round n = n := by
  have hexcess : excess n = 0 := Nat.sub_eq_zero_of_le (Nat.size_le.2 h)
  unfold round
  rw [hexcess, Nat.pow_zero, nearestQuotient_one, Nat.mul_one]

/-- Rounding does not go beyond the next power of two. -/
theorem round_le {n k : ℕ} (hexcess : excess n ≠ 0) (h : n < 2 ^ k) : round n ≤ 2 ^ k := by
  have hsize : n.size ≤ k := Nat.size_le.2 h
  have hsum : 53 + excess n = n.size := by
    unfold excess at hexcess ⊢
    omega
  have hquotient : nearestQuotient n (2 ^ excess n) ≤ 2 ^ 53 := by
    refine (nearestQuotient_le _ _).trans ?_
    refine Nat.div_lt_of_lt_mul ?_
    rw [Nat.mul_comm, ← Nat.pow_add, hsum]
    exact Nat.lt_size_self n
  calc
    round n ≤ 2 ^ 53 * 2 ^ excess n := Nat.mul_le_mul_right _ hquotient
    _ = 2 ^ n.size := by rw [← Nat.pow_add, hsum]
    _ ≤ 2 ^ k := Nat.pow_le_pow_right (by decide) hsize

/-- Rounding does not go below a power of two. -/
theorem le_round {n k : ℕ} (hexcess : excess n ≤ k) (h : 2 ^ k ≤ n) : 2 ^ k ≤ round n := by
  have hsplit : 2 ^ (k - excess n) * 2 ^ excess n = 2 ^ k := by
    rw [← Nat.pow_add, Nat.sub_add_cancel hexcess]
  have hquotient : 2 ^ (k - excess n) ≤ n / 2 ^ excess n := by
    rw [Nat.le_div_iff_mul_le (Nat.two_pow_pos _), hsplit]
    exact h
  calc
    2 ^ k = 2 ^ (k - excess n) * 2 ^ excess n := hsplit.symm
    _ ≤ n / 2 ^ excess n * 2 ^ excess n := Nat.mul_le_mul_right _ hquotient
    _ ≤ round n := Nat.mul_le_mul_right _ (div_le_nearestQuotient _ _)

theorem round_mono {n m : ℕ} (h : n ≤ m) : round n ≤ round m := by
  rcases (excess_mono h).lt_or_eq with hlt | heq
  · -- a power of two is between numbers of different excess
    have hn : n < 2 ^ (m.size - 1) := by
      rw [← Nat.size_le]
      unfold excess at hlt
      omega
    have hm : 2 ^ (m.size - 1) ≤ m := by
      rw [← Nat.lt_size]
      unfold excess at hlt
      omega
    have hbelow : round n ≤ 2 ^ (m.size - 1) := by
      by_cases hzero : excess n = 0
      · rw [round_of_lt (Nat.size_le.1 (Nat.sub_eq_zero_iff_le.1 hzero))]
        exact hn.le
      · exact round_le hzero hn
    refine hbelow.trans (le_round ?_ hm)
    unfold excess
    omega
  · unfold round
    rw [heq]
    exact Nat.mul_le_mul_right _ (nearestQuotient_mono _ h)

/-- The power of two from which on a double is infinite. -/
def maxExponent : ℕ := 1024

/-- The double of a natural number. -/
def ofNat (n : ℕ) : WithTop ℕ := if round n < 2 ^ maxExponent then (round n : ℕ) else ⊤

theorem ofNat_mono {n m : ℕ} (h : n ≤ m) : ofNat n ≤ ofNat m := by
  unfold ofNat
  split
  · split
    · exact WithTop.coe_le_coe.2 (round_mono h)
    · exact le_top
  · rename_i hn
    rw [if_neg fun hm => hn ((round_mono h).trans_lt hm)]

/-- Of two doubles the first one is less exactly where the numbers are in this order and are not
rounded to the same. -/
theorem ofNat_lt_iff {n m : ℕ} : ofNat n < ofNat m ↔ n < m ∧ ofNat n ≠ ofNat m := by
  constructor
  · intro h
    refine ⟨?_, h.ne⟩
    by_contra hle
    exact absurd (ofNat_mono (not_lt.1 hle)) (not_le.2 h)
  · rintro ⟨hlt, hne⟩
    exact lt_of_le_of_ne (ofNat_mono hlt.le) hne

end Double
