import Mathlib.Order.Bounds.Basic
import RecursiveMatrix.Proofs.Addresses

namespace RecursiveMatrix

namespace Word

variable {k : Nat} {w : UInt64}

/-- Some `k` binary digits, read from the highest down, come to the word. -/
def Written (k : Nat) (w : UInt64) : Prop := ∃ bits : List Bool, bits.length = k ∧ ofBits bits = w

theorem written_iff (hk : k ≤ 64) : Written k w ↔ w.toNat < 2 ^ k := by
  constructor
  · rintro ⟨bits, rfl, rfl⟩
    exact ofBits_lt bits
  · exact fun h => ⟨bits k w, by simp [bits], ofBits_bits hk h⟩

end Word

open Word

variable {n m : Positive} {k : Nat} {id : UInt64}

theorem idBits_eq_zero_iff : idBits n = 0 ↔ n.val.toNat = 1 := by
  have hpos := n.toNat_pos
  rw [← Nat.le_zero, idBits_le_iff, Nat.pow_zero]
  omega

theorem idBits_isLeast (n : Positive) : IsLeast {k : Nat | n.val.toNat ≤ 2 ^ k} (idBits n) :=
  ⟨idBits_le_iff.1 (Nat.le_refl _), fun _ hk => idBits_le_iff.2 hk⟩

theorem idBits_mono (h : n.val ≤ m.val) : idBits n ≤ idBits m :=
  idBits_le_iff.2 (Nat.le_trans (UInt64.le_iff_toNat_le.1 h) (idBits_isLeast m).1)

theorem written_of_lt (h : id < n.val) : Written (idBits n) id :=
  (written_iff (idBits_le n)).2
    (Nat.lt_of_lt_of_le (UInt64.lt_iff_toNat_lt.1 h) (idBits_isLeast n).1)

/-- With fewer bits already the first id that needs them all is left out. -/
theorem exists_not_written (h : k < idBits n) : ∃ id < n.val, ¬ Written k id := by
  have hk : k < 64 := Nat.lt_of_lt_of_le h (idBits_le n)
  have hid : (UInt64.ofNat (2 ^ k)).toNat = 2 ^ k :=
    UInt64.toNat_ofNat_of_lt' (Nat.pow_lt_pow_right Nat.one_lt_two hk)
  refine ⟨.ofNat (2 ^ k), ?_, ?_⟩
  · rw [UInt64.lt_iff_toNat_lt, hid]
    exact lt_idBits_iff.1 h
  · rw [written_iff (Nat.le_of_lt hk), hid]
    exact Nat.lt_irrefl _

/-- The number of bits is the least with which there are as many ids as vertices. More vertices take no
fewer bits; in these bits each id can be written, and in one bit less some id cannot. -/
theorem idBits_exact (n : Positive) :
    IsLeast {k : Nat | n.val.toNat ≤ 2 ^ k} (idBits n) ∧ idBits n ≤ 64 ∧
    (idBits n = 0 ↔ n.val.toNat = 1) ∧
    (0 < idBits n → 2 ^ (idBits n - 1) < n.val.toNat) ∧
    (∀ m : Positive, n.val ≤ m.val → idBits n ≤ idBits m) ∧
    (∀ id < n.val, Written (idBits n) id) ∧
    (0 < idBits n → ∃ id < n.val, ¬ Written (idBits n - 1) id) := by
  have hless (h : 0 < idBits n) : idBits n - 1 < idBits n := Nat.sub_one_lt_of_lt h
  exact ⟨idBits_isLeast n, idBits_le n, idBits_eq_zero_iff, fun h => lt_idBits_iff.1 (hless h),
    fun _ => idBits_mono, fun _ => written_of_lt, fun h => exists_not_written (hless h)⟩

example : idBits ⟨Word.maximum, by decide⟩ = 64 := by decide

end RecursiveMatrix
