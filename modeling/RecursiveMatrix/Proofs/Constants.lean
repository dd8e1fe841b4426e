import RecursiveMatrix.Proofs.Binary32.Complement
import RecursiveMatrix.Proofs.Validation

namespace RecursiveMatrix.Probabilities

open Binary32

variable {A B C : Float32} {a b c : ℚ} {p : Probabilities} {e : Error}

/-- The numbers that three constants stand for, none of them below zero. -/
structure Numbers (A B C : Float32) (a b c : ℚ) : Prop where
  value_a : value? A = some a
  value_b : value? B = some b
  value_c : value? C = some c
  nonneg_a : 0 ≤ a
  nonneg_b : 0 ≤ b
  nonneg_c : 0 ≤ c

theorem exists_numbers_iff : (∃ a b c, Numbers A B C a b c) ↔
    (A.isFinite ∧ B.isFinite ∧ C.isFinite) ∧ 0 ≤ A ∧ 0 ≤ B ∧ 0 ≤ C := by
  constructor
  · rintro ⟨a, b, c, h⟩
    exact ⟨⟨isFinite_iff.2 ⟨a, h.value_a⟩, isFinite_iff.2 ⟨b, h.value_b⟩, isFinite_iff.2 ⟨c, h.value_c⟩⟩,
      (le_iff value?_zero h.value_a).2 h.nonneg_a, (le_iff value?_zero h.value_b).2 h.nonneg_b,
      (le_iff value?_zero h.value_c).2 h.nonneg_c⟩
  · rintro ⟨⟨hfa, hfb, hfc⟩, ha, hb, hc⟩
    obtain ⟨a, hva⟩ := isFinite_iff.1 hfa
    obtain ⟨b, hvb⟩ := isFinite_iff.1 hfb
    obtain ⟨c, hvc⟩ := isFinite_iff.1 hfc
    exact ⟨a, b, c, hva, hvb, hvc, (le_iff value?_zero hva).1 ha, (le_iff value?_zero hvb).1 hb,
      (le_iff value?_zero hvc).1 hc⟩

/-- The check on the sum, in terms of the numbers. A sum that overflows does not pass. -/
theorem Numbers.sum_le_iff (h : Numbers A B C a b c) : A + B + C ≤ 1 ↔ total a b c ≤ 1 := by
  have hs0 : 0 ≤ nearest (a + b) := nearest_nonneg (add_nonneg h.nonneg_a h.nonneg_b)
  rcases value?_add_or h.value_a h.value_b h.nonneg_a h.nonneg_b with hs | ⟨hover, hlarge⟩
  · rcases value?_add_or hs h.value_c hs0 h.nonneg_c with ht | ⟨hover, hlarge⟩
    · exact le_iff ht value?_one
    · exact iff_of_false (hover.not_le value?_one) (not_le.2 (lt_of_lt_of_le (by norm_num) hlarge))
  · refine iff_of_false ((hover.add h.value_c).not_le value?_one) fun hle => ?_
    have htwo : 2 ≤ total a b c :=
      le_nearest (representable_ofNat 2 (by norm_num)) (by linarith [h.nonneg_c])
    linarith

structure Accepted (A B C : Float32) (a b c : ℚ) : Prop extends Numbers A B C a b c where
  total_le : total a b c ≤ 1

namespace Accepted

theorem sum_le_total (h : Accepted A B C a b c) : nearest (a + b) ≤ total a b c :=
  le_nearest (representable_nearest _) (by linarith [h.nonneg_c])

theorem a_le_sum (h : Accepted A B C a b c) : a ≤ nearest (a + b) :=
  le_nearest (representable_value h.value_a) (by linarith [h.nonneg_b])

theorem b_le_sum (h : Accepted A B C a b c) : b ≤ nearest (a + b) :=
  le_nearest (representable_value h.value_b) (by linarith [h.nonneg_a])

theorem c_le_total (h : Accepted A B C a b c) : c ≤ total a b c :=
  le_nearest (representable_value h.value_c)
    (by linarith [nearest_nonneg (add_nonneg h.nonneg_a h.nonneg_b)])

theorem abs_sum_le (h : Accepted A B C a b c) : |a + b| ≤ 2 :=
  abs_le.2 ⟨by linarith [h.nonneg_a, h.nonneg_b],
    by linarith [h.a_le_sum, h.b_le_sum, h.sum_le_total, h.total_le]⟩

theorem abs_total_le (h : Accepted A B C a b c) : |nearest (a + b) + c| ≤ 2 :=
  abs_le.2 ⟨by linarith [h.nonneg_a, h.a_le_sum, h.nonneg_c],
    by linarith [h.sum_le_total, h.c_le_total, h.total_le]⟩

theorem sum_error (h : Accepted A B C a b c) : |nearest (a + b) - (a + b)| ≤ 1 / 2 ^ 24 :=
  nearest_error_two h.abs_sum_le

theorem total_error (h : Accepted A B C a b c) : |total a b c - (nearest (a + b) + c)| ≤ 1 / 2 ^ 24 :=
  nearest_error_two h.abs_total_le

theorem value_sum (h : Accepted A B C a b c) : value? (A + B) = some (nearest (a + b)) :=
  value?_add h.value_a h.value_b (nearest_lt_top (h.abs_sum_le.trans (by norm_num)))

theorem value_total (h : Accepted A B C a b c) : value? (A + B + C) = some (total a b c) :=
  value?_add h.value_sum h.value_c (nearest_lt_top (h.abs_total_le.trans (by norm_num)))

theorem exact_sum_le (h : Accepted A B C a b c) : a + b + c ≤ 1 + 1 / 2 ^ 23 := by
  have hs := abs_le.1 h.sum_error
  have ht := abs_le.1 h.total_error
  linarith [h.total_le]

theorem value_remainder (h : Accepted A B C a b c) :
    value? (1 - A - B - C) = some (remainder a b c) ∧
      |remainder a b c - (1 - a - b - c)| ≤ 3 / 2 ^ 25 :=
  value?_remainder h.value_a h.value_b h.value_c h.nonneg_a h.nonneg_b h.nonneg_c
    (by linarith [h.exact_sum_le])

theorem remainder_ge (h : Accepted A B C a b c) : -(1 / 2 ^ 23) ≤ remainder a b c :=
  Binary32.remainder_ge (representable_value h.value_a) (representable_value h.value_b)
    (representable_value h.value_c) h.nonneg_a h.nonneg_b h.nonneg_c h.total_le

end Accepted

theorem validate_ok_iff : (∃ p, validate A B C = .ok p) ↔ ∃ a b c, Accepted A B C a b c := by
  have hcheck : (∃ p, validate A B C = .ok p) ↔
      ((A.isFinite ∧ B.isFinite ∧ C.isFinite) ∧ 0 ≤ A ∧ 0 ≤ B ∧ 0 ≤ C) ∧ A + B + C ≤ 1 := by
    unfold validate
    split <;> simp_all
  rw [hcheck]
  constructor
  · rintro ⟨hnumbers, hsum⟩
    obtain ⟨a, b, c, h⟩ := exists_numbers_iff.2 hnumbers
    exact ⟨a, b, c, h, h.sum_le_iff.1 hsum⟩
  · rintro ⟨a, b, c, h⟩
    exact ⟨exists_numbers_iff.1 ⟨a, b, c, h.toNumbers⟩, h.sum_le_iff.2 h.total_le⟩

theorem exists_accepted (p : Probabilities) : ∃ a b c, Accepted p.a p.b p.c a b c := by
  obtain ⟨a, b, c, h⟩ := exists_numbers_iff.2 ⟨p.finite, p.nonneg⟩
  exact ⟨a, b, c, h, h.sum_le_iff.1 p.sum_le⟩

theorem eq_of_validate_error (h : validate A B C = .error e) : e = .constants A B C := by
  unfold validate at h
  split at h
  · cases h
  · cases h
    rfl

/-- Constants pass if none is below zero and their sum, rounded after each addition, is at most one. A
sum that is at most one before it is rounded passes, one that passes is above one by `2 ^ (-23)` at
most, and by no more is the remainder below zero or off. -/
theorem constants_checked (A B C : Float32) :
    ((∃ p, validate A B C = .ok p) ↔ ∃ a b c, Numbers A B C a b c ∧ total a b c ≤ 1) ∧
      (∀ a b c, Numbers A B C a b c → a + b + c ≤ 1 → ∃ p, validate A B C = .ok p) ∧
      (∀ p, validate A B C = .ok p → p.a = A ∧ p.b = B ∧ p.c = C ∧
        ∃ a b c d, Numbers A B C a b c ∧ a + b + c ≤ 1 + 1 / 2 ^ 23 ∧
          value? p.d = some d ∧ -(1 / 2 ^ 23) ≤ d ∧ |d - (1 - a - b - c)| ≤ 1 / 2 ^ 23) ∧
      ∀ e, validate A B C = .error e → e = .constants A B C := by
  refine ⟨?_, fun a b c h hsum => ?_, fun p h => ?_, fun e h => eq_of_validate_error h⟩
  · rw [validate_ok_iff]
    exact ⟨fun ⟨a, b, c, h⟩ => ⟨a, b, c, h.toNumbers, h.total_le⟩,
      fun ⟨a, b, c, h, hle⟩ => ⟨a, b, c, h, hle⟩⟩
  · exact validate_ok_iff.2 ⟨a, b, c, h, total_le_one h.nonneg_a h.nonneg_b h.nonneg_c hsum⟩
  · obtain ⟨rfl, rfl, rfl⟩ := Config.probabilities_eq_ok h
    obtain ⟨a, b, c, h⟩ := exists_accepted p
    exact ⟨rfl, rfl, rfl, a, b, c, _, h.toNumbers, h.exact_sum_le, h.value_remainder.1, h.remainder_ge,
      h.value_remainder.2.trans (by norm_num)⟩

theorem constants_checked_quarters :
    let q := Float32.ofBits 0x3E800000
    (∃ p d, validate q q q = .ok p ∧ value? p.d = some d ∧ |d - 1 / 4| ≤ 1 / 2 ^ 23) ∧
      validate 1 1 1 = .error (.constants 1 1 1) := by
  have hq : value? (Float32.ofBits 0x3E800000) = some (1 / 4) := by
    rw [value?_of_unpack (s := .positive) (m := 2 ^ 23) (e := -25) (h := by decide) rfl]
    norm_num [Float.Model.UnpackedFloat.Sign.apply]
  intro q
  have hnumbers : Numbers q q q (1 / 4) (1 / 4) (1 / 4) :=
    ⟨hq, hq, hq, by norm_num, by norm_num, by norm_num⟩
  constructor
  · obtain ⟨-, hsum, hok, -⟩ := constants_checked q q q
    obtain ⟨p, hp⟩ := hsum _ _ _ hnumbers (by norm_num)
    obtain ⟨-, -, -, a, b, c, d, h, -, hd, -, herror⟩ := hok p hp
    obtain rfl := Option.some.inj (h.value_a.symm.trans hq)
    obtain rfl := Option.some.inj (h.value_b.symm.trans hq)
    obtain rfl := Option.some.inj (h.value_c.symm.trans hq)
    norm_num at herror
    exact ⟨p, d, hp, hd, herror.trans (by norm_num)⟩
  · cases h : validate 1 1 1 with
    | error e => rw [(constants_checked 1 1 1).2.2.2 e h]
    | ok p =>
        obtain ⟨ha, hb, hc⟩ := Config.probabilities_eq_ok h
        have hsum := p.sum_le
        rw [ha, hb, hc] at hsum
        exact absurd hsum (by decide)

/-- The sum of one and two numbers too small to be added to it passes, and leaves less than nothing. -/
theorem excess_accepted :
    let u := Float32.ofBits 0x33800000
    Numbers 1 u u 1 (1 / 2 ^ 24) (1 / 2 ^ 24) ∧ 1 < (1 : ℚ) + 1 / 2 ^ 24 + 1 / 2 ^ 24 ∧
      ∃ p, validate 1 u u = .ok p ∧ value? p.d = some (-(1 / 2 ^ 23)) := by
  intro u
  have hnumbers : Numbers 1 u u 1 (1 / 2 ^ 24) (1 / 2 ^ 24) :=
    ⟨value?_one, value?_unit, value?_unit, by norm_num, by norm_num, by norm_num⟩
  obtain ⟨p, hp⟩ := validate_ok_iff.2 ⟨_, _, _, hnumbers, hnumbers.sum_le_iff.1 (by decide)⟩
  obtain ⟨ha, hb, hc⟩ := Config.probabilities_eq_ok hp
  refine ⟨hnumbers, by norm_num, p, hp, ?_⟩
  have hd : p.d = Float32.ofBits 0xB4000000 := by
    rw [d, ha, hb, hc]
    decide +kernel
  rw [hd, value?_of_unpack (s := .negative) (m := 2 ^ 23) (e := -46) (h := by decide) rfl]
  norm_num [Float.Model.UnpackedFloat.Sign.apply]

end RecursiveMatrix.Probabilities
