namespace RecursiveMatrix

namespace Word

def maximum : UInt64 := 0xFFFFFFFFFFFFFFFF

/-- The product, or the largest word where it does not fit. -/
def satMul (a b : UInt64) : UInt64 :=
  if b ≠ 0 ∧ maximum / b < a then maximum else a * b

/-- The sum, or the largest word where it does not fit. -/
def satAdd (a b : UInt64) : UInt64 :=
  if maximum - b < a then maximum else a + b

theorem toNat_pos {w : UInt64} (h : w ≠ 0) : 0 < w.toNat :=
  Nat.pos_of_ne_zero fun hz => h (UInt64.toNat_inj.1 hz)

theorem toNat_add_of_lt {a b : UInt64} (h : a.toNat + b.toNat < UInt64.size) :
    (a + b).toNat = a.toNat + b.toNat := by
  rw [UInt64.toNat_add, Nat.mod_eq_of_lt h]

theorem toNat_maximum_sub (b : UInt64) : (maximum - b).toNat = UInt64.size - 1 - b.toNat := by
  have hb := b.toNat_lt
  rw [UInt64.toNat_sub_of_le _ _ (by rw [UInt64.le_iff_toNat_le, maximum]; simp; omega)]
  simp [maximum]

theorem le_satAdd (a b : UInt64) : a ≤ satAdd a b := by
  have ha := a.toNat_lt
  have hb := b.toNat_lt
  simp only [satAdd, UInt64.le_iff_toNat_le, UInt64.lt_iff_toNat_lt, toNat_maximum_sub,
    UInt64.size]
  split
  · simp [maximum]; omega
  · rw [UInt64.toNat_add]; omega

theorem toNat_satAdd {a b : UInt64} (h : a.toNat + b.toNat < UInt64.size) :
    (satAdd a b).toNat = a.toNat + b.toNat := by
  have hle : ¬ maximum - b < a := by
    rw [UInt64.lt_iff_toNat_lt, toNat_maximum_sub]
    omega
  rw [satAdd, if_neg hle, toNat_add_of_lt h]

def ceilDiv (a b : UInt64) : UInt64 :=
  if a % b = 0 then a / b else a / b + 1

def clamp (w lo hi : UInt64) : UInt64 :=
  if w < lo then lo else if hi < w then hi else w

theorem le_clamp {w lo hi : UInt64} (h : lo ≤ hi) : lo ≤ clamp w lo hi := by
  simp only [clamp, UInt64.lt_iff_toNat_lt, UInt64.le_iff_toNat_le] at *
  split
  · omega
  · split <;> omega

theorem clamp_le {w lo hi : UInt64} (h : lo ≤ hi) : clamp w lo hi ≤ hi := by
  simp only [clamp, UInt64.lt_iff_toNat_lt, UInt64.le_iff_toNat_le] at *
  split
  · omega
  · split <;> omega

theorem div_pos {a b : UInt64} (hb : 1 ≤ b) (h : b ≤ a) : 0 < a / b := by
  simp only [UInt64.lt_iff_toNat_lt, UInt64.le_iff_toNat_le, UInt64.toNat_div] at *
  exact Nat.div_pos h hb

/-- How many binary digits a word has; zero has none. -/
def bitLength (w : UInt64) : Nat :=
  if w = 0 then 0 else w.log2.toNat + 1

def rotateLeft (w n : UInt64) : UInt64 :=
  w <<< n ||| w >>> (64 - n)

end Word

/-- A word above zero. -/
structure Positive where
  val : UInt64
  pos : 0 < val
deriving DecidableEq

namespace Positive

def one : Positive := ⟨1, by decide⟩

def ofWord? (w : UInt64) : Option Positive :=
  if h : 0 < w then some ⟨w, h⟩ else none

theorem ofWord?_eq_none_iff {w : UInt64} : ofWord? w = none ↔ w = 0 := by
  simp only [ofWord?, dite_eq_right_iff, reduceCtorEq, imp_false, UInt64.lt_iff_toNat_lt]
  rw [← UInt64.toNat_inj]
  simp

@[simp] theorem ofWord?_val (p : Positive) : ofWord? p.val = some p := by
  simp [ofWord?, p.pos]

theorem val_of_ofWord? {w : UInt64} {p : Positive} (h : ofWord? w = some p) : p.val = w := by
  unfold ofWord? at h
  split at h
  · cases h; rfl
  · cases h

theorem toNat_pos (p : Positive) : 0 < p.val.toNat := by
  simpa [UInt64.lt_iff_toNat_lt] using p.pos

def satAdd (p : Positive) (w : UInt64) : Positive where
  val := Word.satAdd p.val w
  pos := by
    have h := Word.le_satAdd p.val w
    have hp := p.toNat_pos
    rw [UInt64.le_iff_toNat_le] at h
    simp only [UInt64.lt_iff_toNat_lt, UInt64.toNat_zero]
    omega

end Positive

end RecursiveMatrix
