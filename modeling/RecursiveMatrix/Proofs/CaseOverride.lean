import RecursiveMatrix.CaseCount
import RecursiveMatrix.Proofs.Numerals
import RecursiveMatrix.Proofs.Trimming

namespace RecursiveMatrix.CaseCount

variable {raw : String} {n fallback : Nat} {setting : Setting}

/-- A text asks for a number of cases if it is a numeral with blanks around it, of 32 bits and above
zero. -/
def Asks (raw : String) (n : Nat) : Prop :=
  ∃ mid, Text.Trimmed raw.toList mid ∧ Decimal.Numeral mid n ∧ 1 ≤ n ∧ n ≤ 2 ^ 32 - 1

/-- Only text asks for anything. -/
def Demands : Setting → Nat → Prop
  | .text raw, n => Asks raw n
  | .unset, _ | .raw _, _ => False

theorem asks_iff :
    Asks raw n ↔ Decimal.readNatural 0xFFFFFFFF (Text.trim raw.toList) = .ok n ∧ n ≠ 0 := by
  rw [Decimal.readNatural_eq_ok_iff]
  constructor
  · rintro ⟨mid, hmid, hnumeral, hpos, hle⟩
    rw [Text.trim_eq_iff.2 hmid]
    exact ⟨⟨hnumeral, hle⟩, Nat.ne_of_gt hpos⟩
  · rintro ⟨⟨hnumeral, hle⟩, hne⟩
    exact ⟨_, Text.trimmed_trim _, hnumeral, Nat.pos_of_ne_zero hne, hle⟩

theorem parse_eq_ok_iff : parse raw = .ok n ↔ Asks raw n := by
  rw [asks_iff, parse]
  split
  next e he => simp [he]
  next hzero =>
    rw [hzero]
    constructor
    · intro h
      cases h
    · rintro ⟨h, hn⟩
      cases h
      exact absurd rfl hn
  next m hm hread =>
    simp only [hread, Except.ok.injEq]
    constructor
    · rintro rfl
      exact ⟨rfl, hm⟩
    · exact And.left

theorem load_of_demands (fallback : Nat) (h : Demands setting n) : load fallback setting = (n, []) := by
  cases setting with
  | text raw => simp only [load, parse_eq_ok_iff.2 h]
  | unset => exact h.elim
  | raw bytes => exact h.elim

theorem load_fst_of_not_demands (fallback : Nat) (h : ∀ n, ¬ Demands setting n) :
    (load fallback setting).1 = fallback := by
  cases setting with
  | unset => rfl
  | raw bytes => rfl
  | text raw =>
      rw [load]
      cases hparse : parse raw with
      | ok n => exact absurd (parse_eq_ok_iff.1 hparse) (h n)
      | error reason => rfl

theorem demands_pos (h : Demands setting n) : 0 < n := by
  cases setting with
  | text raw => exact h.choose_spec.2.2.1
  | unset => exact h.elim
  | raw bytes => exact h.elim

theorem load_fst_pos (hfallback : 0 < fallback) : 0 < (load fallback setting).1 := by
  by_cases h : ∃ n, Demands setting n
  · obtain ⟨n, hn⟩ := h
    rw [load_of_demands fallback hn]
    exact demands_pos hn
  · rw [load_fst_of_not_demands fallback (not_exists.1 h)]
    exact hfallback

/-- A text is read as a number of cases if and only if it asks for that number. Whatever the setting
holds, it decides how many cases are run if it asks for a number, else the fallback does, and no fallback
above zero leads to none at all. -/
theorem cases_as_asked :
    (∀ raw n, parse raw = .ok n ↔ Asks raw n) ∧
    ∀ (fallback : Nat) (setting : Setting),
      (∀ n, Demands setting n → (load fallback setting).1 = n) ∧
      ((∀ n, ¬ Demands setting n) → (load fallback setting).1 = fallback) ∧
      (1 ≤ fallback → (load fallback setting).1 ≠ 0) := by
  refine ⟨fun _ _ => parse_eq_ok_iff, fun fallback setting => ⟨fun n hn => ?_, ?_, fun h => ?_⟩⟩
  · rw [load_of_demands fallback hn]
  · exact load_fst_of_not_demands fallback
  · exact Nat.ne_of_gt (load_fst_pos h)

example : (load 64 (.text " +007 ")).1 = 7 := by decide

end RecursiveMatrix.CaseCount
