import Mathlib.Algebra.Order.BigOperators.Group.List
import Mathlib.Algebra.Order.Ring.Nat
import RecursiveMatrix.Proofs.OutputContract
import RecursiveMatrix.Proofs.Tally

namespace RecursiveMatrix

namespace Sampler

variable {σ : Type} [Source σ] {z z' : Sampler} {s : σ} {e : Edge} {k n : Nat}

/-- Both make the same candidates, and what the first takes of them the second takes as well. -/
structure Widens (z z' : Sampler) : Prop where
  candidates : z.SameCandidates z'
  vertexCount : z.vertexCount.val ≤ z'.vertexCount.val

theorem Widens.contains (h : Widens z z') (he : z.contains e = true) : z'.contains e = true := by
  have hle := h.vertexCount
  rw [contains_iff] at he ⊢
  simp only [UInt64.le_iff_toNat_le, UInt64.lt_iff_toNat_lt] at *
  omega

theorem Widens.rejects (h : Widens z z') (hr : z'.Rejects n s) : z.Rejects n s := by
  intro i hi
  have hout := hr i hi
  rw [← h.candidates.nth_eq] at hout
  by_contra hin
  rw [h.contains (Bool.of_not_eq_false hin)] at hout
  exact Bool.noConfusion hout

theorem Widens.exists_accepts (h : Widens z z') (ha : z.Accepts k s e) :
    ∃ k' ≤ k, ∃ e', z'.Accepts k' s e' := by
  have hsoon : ¬ z'.Rejects (k + 1) s := fun hr => ha.not_rejects k.lt_succ_self (h.rejects hr)
  obtain ⟨k', e', hk, ha'⟩ := not_rejects_iff.1 hsoon
  exact ⟨k', Nat.le_of_lt_succ hk, e', ha'⟩

theorem Widens.accepts (h : Widens z z') (ha : z'.Accepts k s e) (he : z.contains e = true) :
    z.Accepts k s e :=
  ⟨h.rejects ha.rejects, (h.candidates.nth_eq k s).trans ha.nth_eq, he⟩

theorem Widens.rejections_le (h : Widens z z') (ha : z.Accepts k s e) :
    z'.rejections s ≤ z.rejections s := by
  obtain ⟨k', hk, e', ha'⟩ := h.exists_accepts ha
  rw [rejections_of_accepts ha, rejections_of_accepts ha']
  exact hk

end Sampler

namespace Generator

open Sampler

variable {g : Generator} {v : Positive} {host : Host} {edges edges' : List Edge}

/-- The same generator for another number of vertices. -/
def withVertices (g : Generator) (v : Positive) : Generator :=
  { g with sampler := { g.sampler with vertexCount := v } }

theorem widens_withVertices (hle : g.vertexCount.val ≤ v.val) (hbits : idBits g.vertexCount = idBits v) :
    g.sampler.Widens (g.withVertices v).sampler :=
  ⟨⟨hbits, rfl, .inl rfl⟩, hle⟩

theorem outOfRange_withVertices_le (hz : g.sampler.Widens (g.withVertices v).sampler)
    (h : (g.generateEdges host).outcome = .ok edges) :
    (g.withVertices v).outOfRange ≤ g.outOfRange := by
  refine List.sum_le_sum fun j hj => ?_
  obtain ⟨e, ha⟩ := accepts_of_generateEdges h (List.mem_range.1 hj)
  exact hz.rejections_le ha

theorem generateEdges_withVertices (hz : g.sampler.Widens (g.withVertices v).sampler)
    (h : (g.generateEdges host).outcome = .ok edges) :
    ∃ edges', ((g.withVertices v).generateEdges host).outcome = .ok edges' := by
  have hw := hasWorkers_of_generateEdges h
  have hhope := ((generateEdges_eq_ok_iff hw).1 h).1
  have hw' : (g.withVertices v).HasWorkers host := hw
  exact generateEdges_of_hopeful hw' fun j hj hr => hhope j hj (hz.rejects hr)

theorem rejected_withVertices_le (hz : g.sampler.Widens (g.withVertices v).sampler)
    (h : (g.generateEdges host).outcome = .ok edges)
    (h' : ((g.withVertices v).generateEdges host).outcome = .ok edges') :
    ((g.withVertices v).generateEdges host).counters.rejected ≤
      (g.generateEdges host).counters.rejected := by
  rw [generateEdges_counters_of_ok h, generateEdges_counters_of_ok h']
  exact outOfRange_withVertices_le hz h

theorem getElem?_withVertices (hz : g.sampler.Widens (g.withVertices v).sampler)
    (h : (g.generateEdges host).outcome = .ok edges)
    (h' : ((g.withVertices v).generateEdges host).outcome = .ok edges') {j : Nat} {e : Edge}
    (hj : edges'[j]? = some e) (he : g.sampler.contains e = true) : edges[j]? = some e := by
  have hlt : j < g.edgeCount.val.toNat := by
    have hlen := (enumerates_of_generateEdges h').length
    rw [← show edges'.length = g.edgeCount.val.toNat from hlen]
    exact (List.getElem?_eq_some_iff.1 hj).1
  rw [(enumerates_of_generateEdges h').getElem? hlt] at hj
  rw [(enumerates_of_generateEdges h).getElem? hlt]
  obtain ⟨k, ha⟩ := edgeAt_eq_some_iff.1 hj
  exact edgeAt_eq_some_iff.2 ⟨k, hz.accepts ha he⟩

/-- More vertices whose ids take no more bits never make an element wait longer for its edge. An edge
between the vertices there are already is found either way, after the same candidates, and a run that
succeeds does so with the others as well, rejecting no more. -/
theorem wider_range_no_later (g : Generator) (v : Positive) (hle : g.vertexCount.val ≤ v.val)
    (hbits : idBits g.vertexCount = idBits v) :
    (∀ j k e, g.sampler.Accepts k (freshAt g.seed j) e →
      ∃ k' ≤ k, ∃ e', (g.withVertices v).sampler.Accepts k' (freshAt g.seed j) e') ∧
    (∀ j k e, (g.withVertices v).sampler.Accepts k (freshAt g.seed j) e →
      e.source < g.vertexCount.val → e.target < g.vertexCount.val →
      g.sampler.Accepts k (freshAt g.seed j) e) ∧
    (∀ host edges, (g.generateEdges host).outcome = .ok edges →
      ∃ edges', ((g.withVertices v).generateEdges host).outcome = .ok edges' ∧
        ((g.withVertices v).generateEdges host).counters.rejected ≤
          (g.generateEdges host).counters.rejected ∧
        ∀ (j : Nat) (e : Edge), edges'[j]? = some e → e.source < g.vertexCount.val → e.target < g.vertexCount.val →
          edges[j]? = some e) ∧
    ∀ host x, (g.generate host).outcome = .ok x →
      ∃ x', ((g.withVertices v).generate host).outcome = .ok x' ∧
        ((g.withVertices v).generate host).counters.rejected ≤ (g.generate host).counters.rejected := by
  have hz := widens_withVertices hle hbits
  refine ⟨fun j k e => hz.exists_accepts, fun j k e ha hs ht => hz.accepts ha (contains_iff.2 ⟨hs, ht⟩),
    fun host edges h => ?_, fun host x h => ?_⟩
  · obtain ⟨edges', h'⟩ := generateEdges_withVertices hz h
    exact ⟨edges', h', rejected_withVertices_le hz h h', fun j e hj hs ht =>
      getElem?_withVertices hz h h' hj (contains_iff.2 ⟨hs, ht⟩)⟩
  · obtain ⟨edges, hedges⟩ := exists_generateEdges_of_generate h
    obtain ⟨edges', hedges'⟩ := generateEdges_withVertices hz hedges
    refine ⟨Graph.ofEdges edges', ?_, ?_⟩
    · rw [generate_outcome, hedges']
      rfl
    · rw [generate_counters, generate_counters]
      exact rejected_withVertices_le hz hedges hedges'

/-- The fourth edge is found after two rejections between five vertices, and between seven after one. -/
theorem wider_range_no_later_seven :
    let g := five ⟨2, by decide⟩
    let v : Positive := ⟨7, by decide⟩
    (∃ k' ≤ 2, ∃ e', (g.withVertices v).sampler.Accepts k' (freshAt g.seed 3) e') ∧
    g.sampler.Accepts 0 (freshAt g.seed 1) ⟨4, 0⟩ ∧
    ∃ edges edges', (g.generateEdges {}).outcome = .ok edges ∧
      ((g.withVertices v).generateEdges {}).outcome = .ok edges' ∧
      ((g.withVertices v).generateEdges {}).counters.rejected ≤ (g.generateEdges {}).counters.rejected ∧
      edges'[1]? = some ⟨4, 0⟩ ∧ edges[1]? = some ⟨4, 0⟩ := by
  intro g v
  obtain ⟨hsooner, hsame, hrun, -⟩ := wider_range_no_later g v (by decide) (by decide +kernel)
  have hfourth : g.sampler.Accepts 2 (freshAt g.seed 3) ⟨0, 0⟩ :=
    ⟨by decide +kernel, by decide +kernel, by decide +kernel⟩
  have hsecond : (g.withVertices v).sampler.Accepts 0 (freshAt g.seed 1) ⟨4, 0⟩ :=
    ⟨by decide +kernel, by decide +kernel, by decide +kernel⟩
  have hok : ∃ edges, (g.generateEdges {}).outcome = .ok edges :=
    generateEdges_of_hopeful (.inl rfl) (by decide +kernel)
  obtain ⟨edges, hedges⟩ := hok
  obtain ⟨edges', hedges', hrejected, hinside⟩ := hrun {} edges hedges
  have hlt : 1 < (g.withVertices v).edgeCount.val.toNat := by decide
  have hat : (g.withVertices v).sampler.edgeAt g.seed 1 = some ⟨4, 0⟩ :=
    edgeAt_eq_some_iff.2 ⟨0, accepts_streamAt_iff.2 hsecond⟩
  have hget := ((enumerates_of_generateEdges hedges').getElem? hlt).trans hat
  exact ⟨hsooner 3 2 _ hfourth, hsame 1 0 _ hsecond (by decide) (by decide), edges, edges', hedges, hedges',
    hrejected, hget, hinside 1 _ hget (by decide) (by decide)⟩

end Generator

end RecursiveMatrix
