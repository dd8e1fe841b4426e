import Mathlib.Data.List.Nodup
import Mathlib.Data.List.Perm.Subperm
import RecursiveMatrix.Graph

namespace RecursiveMatrix

variable {edges : List Edge} {v : UInt64}

theorem mem_foldl_insert (edges : List Edge) (seen : Std.TreeSet UInt64) (v : UInt64) :
    v ∈ edges.foldl (fun seen e => (seen.insert e.source).insert e.target) seen ↔
      v ∈ seen ∨ ∃ e ∈ edges, v = e.source ∨ v = e.target := by
  induction edges generalizing seen with
  | nil => simp
  | cons e edges ih =>
      simp only [List.foldl_cons, ih, Std.TreeSet.mem_insert, Std.LawfulEqCmp.compare_eq_iff_eq,
        List.exists_mem_cons_iff]
      constructor
      · rintro ((rfl | rfl | h) | h)
        · exact .inr (.inl (.inr rfl))
        · exact .inr (.inl (.inl rfl))
        · exact .inl h
        · exact .inr (.inr h)
      · rintro (h | (rfl | rfl) | h)
        · exact .inl (.inr (.inr h))
        · exact .inl (.inr (.inl rfl))
        · exact .inl (.inl rfl)
        · exact .inr h

theorem mem_vertexSet_iff : v ∈ vertexSet edges ↔ ∃ e ∈ edges, v = e.source ∨ v = e.target := by
  rw [vertexSet, Std.TreeSet.mem_toList, mem_foldl_insert]
  exact or_iff_right Std.TreeSet.not_mem_emptyc

theorem vertexSet_ascending (edges : List Edge) : (vertexSet edges).Pairwise (· < ·) :=
  Std.TreeSet.ordered_toList.imp fun h => by
    rwa [Std.compare_eq_lt] at h

theorem vertexSet_nodup (edges : List Edge) : (vertexSet edges).Nodup :=
  (vertexSet_ascending edges).imp fun h => UInt64.ne_of_lt h

theorem length_vertexSet_le (edges : List Edge) : (vertexSet edges).length ≤ 2 * edges.length := by
  let ends := edges.flatMap fun e => [e.source, e.target]
  have hsub : vertexSet edges ⊆ ends := by
    intro v hv
    obtain ⟨e, he, hv⟩ := mem_vertexSet_iff.1 hv
    exact List.mem_flatMap.2 ⟨e, he, by simpa using hv⟩
  have hlen : ends.length = 2 * edges.length := by
    simp [ends, List.length_flatMap, Nat.mul_comm]
  rw [← hlen]
  exact (List.subperm_of_subset (vertexSet_nodup edges) hsub).length_le

/-- Ids below a bound leave no room for more of them. -/
theorem length_vertexSet_le_of_lt {bound : UInt64}
    (h : ∀ e ∈ edges, e.source < bound ∧ e.target < bound) :
    (vertexSet edges).length ≤ bound.toNat := by
  have hsub : (vertexSet edges).map UInt64.toNat ⊆ List.range bound.toNat := by
    intro n hn
    obtain ⟨v, hv, rfl⟩ := List.mem_map.1 hn
    obtain ⟨e, he, rfl | rfl⟩ := mem_vertexSet_iff.1 hv
    · exact List.mem_range.2 (UInt64.lt_iff_toNat_lt.1 (h e he).1)
    · exact List.mem_range.2 (UInt64.lt_iff_toNat_lt.1 (h e he).2)
  have hnodup : ((vertexSet edges).map UInt64.toNat).Nodup :=
    (vertexSet_nodup edges).map fun _ _ => UInt64.toNat_inj.1
  have hlen := (List.subperm_of_subset hnodup hsub).length_le
  rwa [List.length_map, List.length_range] at hlen

end RecursiveMatrix
