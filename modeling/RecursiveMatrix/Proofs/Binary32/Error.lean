import RecursiveMatrix.Proofs.Binary32.Operations

namespace RecursiveMatrix.Binary32

open Float.Model Float.Model.UnpackedFloat

variable {f g : Float32} {q r x y : ℚ}

theorem value?_zero : value? 0 = some 0 := rfl

theorem value?_of_unpack {s : Sign} {m : ℕ} {e : ℤ} {h : 0 < m} (hu : f.toModel.unpack = .finite s m e h) :
    value? f = some (s.apply m * 2 ^ e : ℚ) := by
  rw [value?, hu, valueOf]

theorem value?_one : value? 1 = some 1 := by
  rw [value?_of_unpack (s := .positive) (m := 2 ^ 23) (e := -23) (h := by decide) rfl]
  norm_num [Sign.apply]

theorem value?_two : value? 2 = some 2 := by
  rw [value?_of_unpack (s := .positive) (m := 2 ^ 23) (e := -22) (h := by decide) rfl]
  norm_num [Sign.apply]

/-- The distance from the last single below one to one. -/
theorem value?_unit : value? (Float32.ofBits 0x33800000) = some (1 / 2 ^ 24) := by
  rw [value?_of_unpack (s := .positive) (m := 2 ^ 23) (e := -47) (h := by decide) rfl]
  norm_num [Sign.apply]

theorem representable_natCast {n : ℕ} (h : n < 2 ^ 24) : Representable n :=
  ⟨n, 0, h, by norm_num, by rw [Nat.abs_cast, zpow_zero, mul_one]⟩

theorem representable_one : Representable 1 := by
  rw [← Nat.cast_one]
  exact representable_natCast (by norm_num)

theorem representable_ofNat (n : ℕ) [n.AtLeastTwo] (h : n < 2 ^ 24) : Representable (OfNat.ofNat n) := by
  rw [← Nat.cast_ofNat]
  exact representable_natCast h

theorem nearest_lt_top (h : |x| ≤ 2 ^ 127) : |nearest x| < 2 ^ 128 := by
  have hr : Representable (2 ^ 127) := by exact_mod_cast representable_scale (e := 127) (by norm_num)
  exact (abs_nearest_le hr h).trans_lt (by norm_num)

theorem value?_toFloat32 {n : UInt64} (h : n.toNat < 2 ^ 24) : value? n.toFloat32 = some n.toNat := by
  have hyields : Yields n.toNat (UnpackedFloat.ofUInt64 Format.binary32 n) := by
    have hnormalize := yields_normalize n.toNat 0 .positive
    rwa [zpow_zero, mul_one, Int.cast_natCast] at hnormalize
  have hr := representable_natCast h
  have hvalue := value_of_yields hyields (nearest_lt_top ?_)
  · rw [nearest_of_representable hr] at hvalue
    exact hvalue
  · have hcast : (n.toNat : ℚ) < 2 ^ 24 := by exact_mod_cast h
    rw [Nat.abs_cast]
    linarith

theorem nearest_error_half (h : |x| ≤ 1 / 2) : |nearest x - x| ≤ 1 / 2 ^ 26 := by
  have herror := nearest_error_abs (k := -1) (x := x) (by norm_num) (by rwa [zpow_neg_one, ← one_div])
  norm_num at herror ⊢
  exact herror

theorem nearest_error_one (h : |x| ≤ 1) : |nearest x - x| ≤ 1 / 2 ^ 25 := by
  have herror := nearest_error_abs (k := 0) (x := x) (by norm_num) (by rwa [zpow_zero])
  norm_num at herror ⊢
  exact herror

theorem nearest_error_two (h : |x| ≤ 2) : |nearest x - x| ≤ 1 / 2 ^ 24 := by
  have herror := nearest_error_abs (k := 1) (x := x) (by norm_num) (by rwa [zpow_one])
  norm_num at herror ⊢
  exact herror

theorem nearest_between_half (hlo : -(1 / 2) ≤ x) (hhi : x ≤ 1 / 2) :
    x - 1 / 2 ^ 26 ≤ nearest x ∧ nearest x ≤ x + 1 / 2 ^ 26 := by
  have herror := abs_le.1 (nearest_error_half (abs_le.2 ⟨hlo, hhi⟩))
  exact ⟨by linarith, by linarith⟩

theorem nearest_between_one (hlo : -1 ≤ x) (hhi : x ≤ 1) :
    x - 1 / 2 ^ 25 ≤ nearest x ∧ nearest x ≤ x + 1 / 2 ^ 25 := by
  have herror := abs_le.1 (nearest_error_one (abs_le.2 ⟨hlo, hhi⟩))
  exact ⟨by linarith, by linarith⟩

theorem nearest_between_two (hlo : -2 ≤ x) (hhi : x ≤ 2) :
    x - 1 / 2 ^ 24 ≤ nearest x ∧ nearest x ≤ x + 1 / 2 ^ 24 := by
  have herror := abs_le.1 (nearest_error_two (abs_le.2 ⟨hlo, hhi⟩))
  exact ⟨by linarith, by linarith⟩

/-- How far rounding moves a number that is not below zero, also where the digits run out. -/
structure Near (x y : ℚ) : Prop where
  nonneg : 0 ≤ y
  lower : (1 - 1 / 2 ^ 24) * x - 1 / 2 ^ 150 ≤ y
  upper : y ≤ (1 + 1 / 2 ^ 24) * x + 1 / 2 ^ 150

theorem near_nearest (h : 0 ≤ x) : Near x (nearest x) := by
  have herror := nearest_error_rel x
  rw [abs_of_nonneg h, abs_le] at herror
  norm_num at herror
  refine ⟨nearest_nonneg h, ?_, ?_⟩ <;> norm_num <;> linarith

theorem exists_add_near (hf : value? f = some q) (hg : value? g = some r) (h0 : 0 ≤ q + r)
    (h : q + r ≤ 2 ^ 127) : ∃ y, value? (f + g) = some y ∧ Near (q + r) y :=
  ⟨_, value?_add hf hg (nearest_lt_top (by rwa [abs_of_nonneg h0])), near_nearest h0⟩

theorem exists_mul_near (hf : value? f = some q) (hg : value? g = some r) (h0 : 0 ≤ q * r)
    (h : q * r ≤ 2 ^ 127) : ∃ y, value? (f * g) = some y ∧ Near (q * r) y :=
  ⟨_, value?_mul hf hg (nearest_lt_top (by rwa [abs_of_nonneg h0])), near_nearest h0⟩

theorem exists_add_of_le_two (hf : value? f = some q) (hg : value? g = some r) (hlo : -2 ≤ q + r)
    (hhi : q + r ≤ 2) :
    ∃ y, value? (f + g) = some y ∧ q + r - 1 / 2 ^ 24 ≤ y ∧ y ≤ q + r + 1 / 2 ^ 24 :=
  ⟨_, value?_add hf hg (nearest_lt_top ((abs_le.2 ⟨hlo, hhi⟩).trans (by norm_num))), nearest_between_two hlo hhi⟩

end RecursiveMatrix.Binary32
