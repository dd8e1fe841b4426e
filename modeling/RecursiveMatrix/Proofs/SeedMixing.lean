import Mathlib.Data.FinEnum
import Mathlib.Data.Nat.ModEq
import Mathlib.Data.Nat.Prime.Basic
import RecursiveMatrix.Random.KeyedStream

namespace RecursiveMatrix

open Function

variable {c n s s' p p' w : UInt64}

namespace Word

/-- A shift to the right makes every word smaller but zero. -/
theorem eq_zero_of_eq_shiftRight (hn : n % 64 ≠ 0) (h : w = w >>> n) : w = 0 := by
  by_contra hw
  have hshift : n.toNat % 64 ≠ 0 := fun hz => hn (UInt64.toNat_inj.1 hz)
  have hless : w.toNat / 2 ^ (n.toNat % 64) < w.toNat :=
    Nat.div_lt_self (toNat_pos hw) (Nat.one_lt_two_pow hshift)
  rw [← Nat.shiftRight_eq_div_pow, ← UInt64.toNat_shiftRight, ← h] at hless
  exact Nat.lt_irrefl _ hless

theorem xor_shiftRight_injective (hn : n % 64 ≠ 0) : Injective fun w : UInt64 => w ^^^ w >>> n := by
  intro v w h
  -- what the words differ in is its own shift, so it is nothing
  have hdiff : v ^^^ w = (v ^^^ w) >>> n := by
    have hsum : v ^^^ v >>> n ^^^ (w ^^^ w >>> n) = 0 := UInt64.xor_eq_zero_iff.2 h
    rw [UInt64.shiftRight_xor, ← UInt64.xor_eq_zero_iff, ← hsum]
    ac_rfl
  exact UInt64.xor_eq_zero_iff.1 (eq_zero_of_eq_shiftRight hn hdiff)

theorem mul_injective_of_odd (hc : c % 2 = 1) : Injective fun w : UInt64 => w * c := by
  intro v w h
  have hodd : c.toNat % 2 = 1 := congrArg UInt64.toNat hc
  have hcoprime : Nat.gcd (2 ^ 64) c.toNat = 1 :=
    Nat.Coprime.pow_left 64 (Nat.coprime_two_left.2 (Nat.odd_iff.2 hodd))
  have hmod : v.toNat * c.toNat ≡ w.toNat * c.toNat [MOD 2 ^ 64] := by
    have heq := congrArg UInt64.toNat h
    rwa [UInt64.toNat_mul, UInt64.toNat_mul] at heq
  have hcancel := Nat.ModEq.cancel_right_of_coprime hcoprime hmod
  exact UInt64.toNat_inj.1 (hcancel.eq_of_lt_of_lt v.toNat_lt w.toNat_lt)

end Word

open Word

theorem scramble_injective : Injective scramble := by
  intro v w h
  replace h := xor_shiftRight_injective (by decide) h
  replace h := mul_injective_of_odd (by decide) h
  replace h := xor_shiftRight_injective (by decide) h
  replace h := mul_injective_of_odd (by decide) h
  replace h := xor_shiftRight_injective (by decide) h
  exact (UInt64.add_left_inj keyStep).1 h

/-- What is scrambled for the seed of an element. -/
def streamKey (baseSeed position : UInt64) : UInt64 := baseSeed ^^^ ((position + 1) * keyStep)

theorem streamSeed_eq_iff : streamSeed s p = streamSeed s' p' ↔ streamKey s p = streamKey s' p' :=
  scramble_injective.eq_iff

theorem streamKey_toNat (s p : UInt64) : (streamKey s p).toNat =
    (s.toNat ^^^ (p.toNat + 1) * keyStep.toNat) % 2 ^ 64 := by
  rw [streamKey, UInt64.toNat_xor, UInt64.toNat_mul, UInt64.toNat_add, Nat.xor_mod_two_pow,
    Nat.mod_mul_mod, Nat.mod_eq_of_lt s.toNat_lt]
  rfl

theorem streamKey_injective (s : UInt64) : Injective (streamKey s) := by
  intro p p' h
  replace h := (UInt64.xor_right_inj s).1 h
  replace h := mul_injective_of_odd (by decide) h
  exact (UInt64.add_left_inj 1).1 h

theorem streamSeed_injective (s : UInt64) : Injective (streamSeed s) :=
  scramble_injective.comp (streamKey_injective s)

/-- Two elements have the same seed just where their keys agree. So each word is the seed of exactly one
position of a base seed, and two base seeds agree on no position. -/
theorem seeds_distinct :
    (∀ s s' p p' : UInt64, streamSeed s p = streamSeed s' p' ↔
      s.toNat ^^^ (p.toNat + 1) * 0x9E3779B97F4A7C15 ≡
        s'.toNat ^^^ (p'.toNat + 1) * 0x9E3779B97F4A7C15 [MOD 2 ^ 64]) ∧
    (∀ s p p' : UInt64, streamSeed s p = streamSeed s p' ↔ p = p') ∧
    (∀ s w : UInt64, ∃! p, streamSeed s p = w) ∧
    ∀ s s' p : UInt64, streamSeed s p = streamSeed s' p ↔ s = s' := by
  refine ⟨fun s s' p p' => ?_, fun s p p' => (streamSeed_injective s).eq_iff, fun s => ?_, ?_⟩
  · rw [streamSeed_eq_iff, ← UInt64.toNat_inj, streamKey_toNat, streamKey_toNat]
    rfl
  · have hbijective := Finite.injective_iff_bijective.1 (streamSeed_injective s)
    exact (bijective_iff_existsUnique _).1 hbijective
  · intro s s' p
    rw [streamSeed_eq_iff]
    exact UInt64.xor_left_inj _

end RecursiveMatrix
