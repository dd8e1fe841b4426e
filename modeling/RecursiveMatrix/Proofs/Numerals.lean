import Mathlib.Algebra.Ring.Nat
import RecursiveMatrix.Decimal.Natural

namespace RecursiveMatrix.Decimal

variable {cs ds : List Char} {limit n v : Nat}

/-- Digits after an optional plus sign, at least one of them, that come to `n`. -/
def Numeral (cs : List Char) (n : Nat) : Prop :=
  ∃ ds, (cs = ds ∨ cs = '+' :: ds) ∧ ds ≠ [] ∧ (∀ c ∈ ds, c.isDigit = true) ∧
    Nat.ofDigitChars 10 ds 0 = n

theorem ofDigitChars_cons (c : Char) (cs : List Char) (v : Nat) :
    Nat.ofDigitChars 10 (c :: cs) v = Nat.ofDigitChars 10 cs (v * 10 + digit c) := by
  rw [Nat.ofDigitChars_cons, Nat.mul_comm]
  rfl

theorem le_ofDigitChars (cs : List Char) (v : Nat) : v ≤ Nat.ofDigitChars 10 cs v := by
  induction cs generalizing v with
  | nil => exact Nat.le_refl v
  | cons c cs ih =>
      rw [ofDigitChars_cons]
      exact Nat.le_trans (by omega) (ih _)

/-- What is read so far only grows, so a number is too large as soon as its first digits are. -/
theorem readDigits_eq_ok_iff (h : v ≤ limit) : readDigits limit v cs = .ok n ↔
    (∀ c ∈ cs, c.isDigit = true) ∧ Nat.ofDigitChars 10 cs v = n ∧ n ≤ limit := by
  induction cs generalizing v with
  | nil =>
      rw [readDigits, Nat.ofDigitChars_nil, Except.ok.injEq]
      constructor
      · rintro rfl
        exact ⟨List.forall_mem_nil _, rfl, h⟩
      · exact fun hn => hn.2.1
  | cons c cs ih =>
      rw [readDigits, ofDigitChars_cons, List.forall_mem_cons]
      by_cases hc : c.isDigit = true
      · rw [if_pos hc, and_iff_right hc]
        by_cases hlt : limit < v * 10 + digit c
        · have hle := le_ofDigitChars cs (v * 10 + digit c)
          rw [if_pos hlt]
          constructor
          · exact (nomatch ·)
          · rintro ⟨-, rfl, hn⟩
            omega
        · rw [if_neg hlt]
          exact ih (Nat.le_of_not_lt hlt)
      · rw [if_neg hc]
        constructor
        · exact (nomatch ·)
        · exact fun hn => absurd hn.1.1 hc

theorem readNatural_plus (limit : Nat) (hds : ds ≠ []) :
    readNatural limit ('+' :: ds) = readDigits limit 0 ds := by
  cases ds with
  | nil => exact absurd rfl hds
  | cons d ds => rfl

theorem readNatural_digits (limit : Nat) (hds : ds ≠ []) (hdigits : ∀ c ∈ ds, c.isDigit = true) :
    readNatural limit ds = readDigits limit 0 ds := by
  unfold readNatural
  split
  · exact absurd rfl hds
  · exact absurd (hdigits '+' List.mem_cons_self) (by decide)
  · exact absurd (hdigits '+' List.mem_cons_self) (by decide)
  · rfl

theorem readNatural_eq_ok_iff : readNatural limit cs = .ok n ↔ Numeral cs n ∧ n ≤ limit := by
  constructor
  · intro h
    unfold readNatural at h
    split at h
    next => cases h
    next => cases h
    next ds hds =>
      obtain ⟨hdigits, hvalue, hle⟩ := (readDigits_eq_ok_iff (Nat.zero_le limit)).1 h
      exact ⟨⟨ds, .inr rfl, hds, hdigits, hvalue⟩, hle⟩
    next hnil _ _ =>
      obtain ⟨hdigits, hvalue, hle⟩ := (readDigits_eq_ok_iff (Nat.zero_le limit)).1 h
      exact ⟨⟨cs, .inl rfl, hnil, hdigits, hvalue⟩, hle⟩
  · rintro ⟨⟨ds, hcs, hds, hdigits, hvalue⟩, hle⟩
    have hread := (readDigits_eq_ok_iff (Nat.zero_le limit)).2 ⟨hdigits, hvalue, hle⟩
    rcases hcs with rfl | rfl
    · rw [readNatural_digits limit hds hdigits, hread]
    · rw [readNatural_plus limit hds, hread]

theorem readWord_eq_ok_iff {w : UInt64} : readWord cs = .ok w ↔ Numeral cs w.toNat := by
  constructor
  · intro h
    unfold readWord at h
    cases hn : readNatural 0xFFFFFFFFFFFFFFFF cs with
    | error e =>
        rw [hn] at h
        cases h
    | ok n =>
        rw [hn] at h
        obtain ⟨hnumeral, hle⟩ := readNatural_eq_ok_iff.1 hn
        cases h
        rw [UInt64.toNat_ofNat_of_lt' (Nat.lt_succ_of_le hle)]
        exact hnumeral
  · intro h
    have hle : w.toNat ≤ 0xFFFFFFFFFFFFFFFF := Nat.le_of_lt_succ w.toNat_lt
    rw [readWord, readNatural_eq_ok_iff.2 ⟨h, hle⟩]
    exact congrArg Except.ok (UInt64.ofNat_toNat ..)

theorem isDigit_of_mem_toDigits {c : Char} (h : c ∈ Nat.toDigits 10 n) : c.isDigit = true :=
  Nat.isDigit_of_mem_toDigits (by decide) (by decide) h

theorem numeral_toDigits (n : Nat) : Numeral (Nat.toDigits 10 n) n :=
  ⟨_, .inl rfl, Nat.toDigits_ne_nil, fun _ => isDigit_of_mem_toDigits, Nat.ofDigitChars_ten_toDigits⟩

end RecursiveMatrix.Decimal
