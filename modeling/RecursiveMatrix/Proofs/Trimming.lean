import Mathlib.Data.List.DropRight
import RecursiveMatrix.Text.Blank

namespace RecursiveMatrix.Text

variable {c : Char} {cs mid : List Char}

/-- `mid` is what is left of a text without the blanks at its two ends. -/
structure Trimmed (cs mid : List Char) : Prop where
  padded : ∃ before after, cs = before ++ mid ++ after ∧ (∀ c ∈ before, isBlank c = true) ∧
    ∀ c ∈ after, isBlank c = true
  head : ∀ c ∈ mid.head?, isBlank c = false
  last : ∀ c ∈ mid.getLast?, isBlank c = false

theorem trimLeft_append {before : List Char} (h : ∀ c ∈ before, isBlank c = true) (cs : List Char) :
    trimLeft (before ++ cs) = trimLeft cs := List.dropWhile_append_of_pos h

theorem trimLeft_of_blank (h : ∀ c ∈ cs, isBlank c = true) : trimLeft cs = [] :=
  List.dropWhile_eq_nil_iff.2 h

theorem trimLeft_of_head (h : ∀ c ∈ cs.head?, isBlank c = false) : trimLeft cs = cs := by
  cases cs with
  | nil => rfl
  | cons c cs =>
      have hc : isBlank c = false := h c rfl
      exact List.dropWhile_cons_of_neg (Bool.eq_false_iff.1 hc)

theorem head_trimLeft (cs : List Char) : ∀ c ∈ (trimLeft cs).head?, isBlank c = false := by
  intro c hc
  have hnot := List.head?_dropWhile_not isBlank cs
  rw [← trimLeft, Option.mem_def.1 hc] at hnot
  simpa using hnot

/-- There are blanks in front of what `trimLeft` leaves, and nothing else. -/
theorem exists_trimLeft (cs : List Char) :
    ∃ before, cs = before ++ trimLeft cs ∧ ∀ c ∈ before, isBlank c = true :=
  ⟨cs.takeWhile isBlank, List.takeWhile_append_dropWhile.symm, fun _ hc => List.mem_takeWhile_imp hc⟩

theorem trimmed_trim (cs : List Char) : Trimmed cs (trim cs) := by
  obtain ⟨before, hbefore, hblank⟩ := exists_trimLeft cs
  obtain ⟨after, hafter, hblank'⟩ := exists_trimLeft (trimLeft cs).reverse
  have hsplit : trimLeft cs = trim cs ++ after.reverse := by
    rw [trim, ← List.reverse_append, ← hafter, List.reverse_reverse]
  constructor
  case padded =>
    refine ⟨before, after.reverse, ?_, hblank, fun c hc => hblank' c (List.mem_reverse.1 hc)⟩
    rw [List.append_assoc, ← hsplit]
    exact hbefore
  case head =>
    intro c hc
    apply head_trimLeft cs c
    rw [hsplit, List.head?_append, Option.mem_def.1 hc]
    rfl
  case last =>
    rw [trim, List.getLast?_reverse]
    exact head_trimLeft _

theorem trim_eq_iff : trim cs = mid ↔ Trimmed cs mid := by
  constructor
  · rintro rfl
    exact trimmed_trim cs
  · rintro ⟨⟨before, after, rfl, hbefore, hafter⟩, hhead, hlast⟩
    rw [trim, List.append_assoc, trimLeft_append hbefore]
    cases mid with
    | nil =>
        rw [List.nil_append, trimLeft_of_blank hafter]
        rfl
    | cons c mid =>
        have hrest : trimLeft (c :: mid ++ after) = c :: mid ++ after := trimLeft_of_head hhead
        have hafter' : ∀ c ∈ after.reverse, isBlank c = true := fun c hc => hafter c (List.mem_reverse.1 hc)
        have hend : trimLeft (c :: mid).reverse = (c :: mid).reverse :=
          trimLeft_of_head (by rwa [List.head?_reverse])
        rw [hrest, List.reverse_append, trimLeft_append hafter', hend, List.reverse_reverse]

end RecursiveMatrix.Text
