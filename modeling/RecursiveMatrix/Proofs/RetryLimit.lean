import RecursiveMatrix.Proofs.LayoutFree

namespace RecursiveMatrix

namespace Sampler

variable {z : Sampler} {seed : UInt64} {patience hi i lo j : Nat} {blocks : List (Block KeyedStream)}

theorem runBlocks_of_hopeful (ht : Block.Tiles (KeyedStream.positioned seed) hi i lo blocks)
    (h : ∀ j, lo ≤ j → j < hi → ¬ z.Rejects (z.budget patience) (streamAt seed j)) (p : Progress) :
    ∃ edges, (z.runBlocks patience blocks p).outcome = .ok edges := by
  induction ht generalizing p with
  | nil i => exact ⟨_, rfl⟩
  | @cons b bs source rest ih =>
      have hle := rest.le
      obtain ⟨batch, hb, -⟩ := sample_keyed source fun j hj =>
        h j hj.1 (Nat.lt_of_lt_of_le hj.2 hle)
      obtain ⟨p', -, hrun⟩ := runBlocks_of_ok (p := p) hb
      rw [hrun]
      exact ih (fun j hlo hlt => h j (by omega) hlt) p'

theorem runBlocks_of_first_hopeless
    (ht : Block.Tiles (KeyedStream.positioned seed) hi i lo blocks) (hlo : lo ≤ j) (hhi : j < hi)
    (hj : z.Rejects (z.budget patience) (streamAt seed j))
    (hmin : ∀ i, lo ≤ i → i < j → ¬ z.Rejects (z.budget patience) (streamAt seed i)) (p : Progress) :
    ∃ b ∈ blocks, b.Covers j ∧ (z.runBlocks patience blocks p).outcome = .error (z.stop b) := by
  induction ht generalizing p with
  | nil i => omega
  | @cons b bs source rest ih =>
      by_cases hlt : j < b.firstElement.toNat + b.elementCount.val.toNat
      · have hcov : b.Covers j := ⟨hlo, hlt⟩
        exact ⟨b, List.mem_cons_self, hcov, runBlocks_of_error (sample_stuck source hcov hj)⟩
      · obtain ⟨batch, hb, -⟩ := sample_keyed source fun i hi =>
          hmin i hi.1 (Nat.lt_of_lt_of_le hi.2 (Nat.le_of_not_lt hlt))
        obtain ⟨p', -, hrun⟩ := runBlocks_of_ok (p := p) hb
        obtain ⟨b', hb', hcov, herr⟩ := ih (Nat.le_of_not_lt hlt)
          (fun i hi hij => hmin i (by omega) hij) p'
        exact ⟨b', List.mem_cons_of_mem _ hb', hcov, hrun.trans herr⟩

end Sampler

namespace Generator

open Sampler

variable {g : Generator} {host : Host} {edges : List Edge}

def limited (g : Generator) (limit : Option Positive) : Generator :=
  { g with sampler := { g.sampler with retryLimit := limit } }

theorem limited_alike (g : Generator) (limit : Option Positive) :
    g.sampler.Alike (g.limited limit).sampler := ⟨rfl, rfl, .inl rfl⟩

theorem generateEdges_of_hopeful (hw : g.HasWorkers host)
    (h : ∀ j < g.edgeCount.val.toNat,
      ¬ g.sampler.Rejects (g.sampler.budget host.patience) (freshAt g.seed j)) :
    ∃ edges, (g.generateEdges host).outcome = .ok edges := by
  obtain ⟨blocks, hblocks⟩ := g.exists_blocks
  rw [generateEdges_outcome hw, runBlocks_outcome hblocks]
  exact runBlocks_of_hopeful (blocks_tile hblocks)
    (fun j _ hlt hr => h j hlt (rejects_streamAt_iff.1 hr)) {}

theorem generateEdges_of_first_hopeless (hw : g.HasWorkers host) {j : Nat}
    (hlt : j < g.edgeCount.val.toNat)
    (hj : g.sampler.Rejects (g.sampler.budget host.patience) (freshAt g.seed j))
    (hmin : ∀ i < j, ¬ g.sampler.Rejects (g.sampler.budget host.patience) (freshAt g.seed i)) :
    ∃ blocks b, g.blocks = .ok blocks ∧ b ∈ blocks ∧ b.Covers j ∧
      (g.generateEdges host).outcome = .error (g.sampler.stop b) := by
  obtain ⟨blocks, hblocks⟩ := g.exists_blocks
  obtain ⟨b, hb, hcov, herr⟩ := runBlocks_of_first_hopeless (blocks_tile hblocks) j.zero_le hlt
    (rejects_streamAt_iff.2 hj) (fun i _ hij hr => hmin i hij (rejects_streamAt_iff.1 hr)) {}
  refine ⟨blocks, b, hblocks, hb, hcov, ?_⟩
  rw [generateEdges_outcome hw, runBlocks_outcome hblocks, herr]

/-- A run comes to edges exactly when every element finds one within the budget, and the edges are
the same whatever the budget. -/
theorem generateEdges_eq_ok_iff (hw : g.HasWorkers host) :
    (g.generateEdges host).outcome = .ok edges ↔
      (∀ j < g.edgeCount.val.toNat,
        ¬ g.sampler.Rejects (g.sampler.budget host.patience) (freshAt g.seed j)) ∧
      g.sampler.Enumerates g.seed g.edgeCount.val.toNat edges := by
  constructor
  · intro h
    refine ⟨?_, enumerates_of_generateEdges h⟩
    intro j
    -- the first element to be rejected throughout would have stopped the run
    induction j using Nat.strongRecOn with
    | ind j ih =>
        intro hlt hr
        obtain ⟨blocks, b, -, -, -, herr⟩ := generateEdges_of_first_hopeless hw hlt hr
          fun i hij => ih i hij (Nat.lt_trans hij hlt)
        rw [h] at herr
        exact nomatch herr
  · rintro ⟨h, he⟩
    obtain ⟨edges', h'⟩ := generateEdges_of_hopeful hw h
    rw [h', he.unique (enumerates_of_generateEdges h')]

/-- Every candidate that the limit allows for element `j` falls outside. -/
def Hopeless (g : Generator) (limit : Positive) (j : Nat) : Prop :=
  g.sampler.Rejects (limit.val.toNat + 1) (freshAt g.seed j)

instance (g : Generator) (limit : Positive) (j : Nat) : Decidable (g.Hopeless limit j) :=
  inferInstanceAs (Decidable (g.sampler.Rejects _ _))

variable {limit : Positive} {n : Nat}

theorem exists_first_hopeless (h : ∃ j < n, g.Hopeless limit j) :
    ∃ j < n, g.Hopeless limit j ∧ ∀ i < j, ¬ g.Hopeless limit i := by
  refine ⟨Nat.find h, (Nat.find_spec h).1, (Nat.find_spec h).2, fun i hi hg => ?_⟩
  exact Nat.find_min h hi ⟨Nat.lt_trans hi (Nat.find_spec h).1, hg⟩

theorem generateEdges_limited_iff (hl : g.sampler.retryLimit = some limit) (hw : g.HasWorkers host) :
    (g.generateEdges host).outcome = .ok edges ↔
      (∀ j < g.edgeCount.val.toNat, ¬ g.Hopeless limit j) ∧
      g.sampler.Enumerates g.seed g.edgeCount.val.toNat edges := by
  rw [generateEdges_eq_ok_iff hw, budget_of_limit hl]
  rfl

theorem generateEdges_of_hopeless (hl : g.sampler.retryLimit = some limit) (hw : g.HasWorkers host)
    {j : Nat} (hlt : j < g.edgeCount.val.toNat) (hj : g.Hopeless limit j)
    (hmin : ∀ i < j, ¬ g.Hopeless limit i) :
    ∃ blocks b, g.blocks = .ok blocks ∧ b ∈ blocks ∧ b.Covers j ∧
      (g.generateEdges host).outcome = .error (.failed (.retriesExhausted b.index limit.val)) := by
  rw [Hopeless, ← budget_of_limit hl host.patience] at hj
  simp only [Hopeless, ← budget_of_limit hl host.patience] at hmin
  obtain ⟨blocks, b, hblocks, hb, hcov, herr⟩ := generateEdges_of_first_hopeless hw hlt hj hmin
  rw [stop_of_limit hl] at herr
  exact ⟨blocks, b, hblocks, hb, hcov, herr⟩

theorem retriesExhausted_iff (hl : g.sampler.retryLimit = some limit) (hw : g.HasWorkers host) :
    (∃ block l, (g.generateEdges host).outcome = .error (.failed (.retriesExhausted block l))) ↔
      ∃ j < g.edgeCount.val.toNat, g.Hopeless limit j := by
  constructor
  · rintro ⟨block, l, herr⟩
    by_contra h
    simp only [not_exists, not_and] at h
    obtain ⟨edges, hok⟩ := generateEdges_of_hopeful hw (by rw [budget_of_limit hl]; exact h)
    rw [hok] at herr
    exact nomatch herr
  · intro h
    obtain ⟨j, hlt, hj, hmin⟩ := exists_first_hopeless h
    obtain ⟨-, b, -, -, -, herr⟩ := generateEdges_of_hopeless hl hw hlt hj hmin
    exact ⟨b.index, limit.val, herr⟩

theorem generateEdges_unlimited (hl : g.sampler.retryLimit = some limit) (hw : g.HasWorkers host)
    (h : (g.generateEdges host).outcome = .ok edges) (host' : Host) (hw' : g.HasWorkers host')
    (hp : limit.val.toNat < host'.patience) :
    ((g.limited none).generateEdges host').outcome = .ok edges := by
  obtain ⟨hhope, he⟩ := (generateEdges_limited_iff hl hw).1 h
  have hw'' : (g.limited none).HasWorkers host' := hw'
  refine (generateEdges_eq_ok_iff hw'').2 ⟨fun j hlt hr => ?_, he.alike (g.limited_alike none)⟩
  rw [budget_of_none rfl, ← (g.limited_alike none).rejects_iff] at hr
  exact hhope j hlt (hr.mono hp)

theorem generateEdges_larger {limit' : Positive} (hl : g.sampler.retryLimit = some limit)
    (hw : g.HasWorkers host) (hle : limit.val ≤ limit'.val)
    (h : (g.generateEdges host).outcome = .ok edges) :
    ((g.limited (some limit')).generateEdges host).outcome = .ok edges := by
  obtain ⟨hhope, he⟩ := (generateEdges_limited_iff hl hw).1 h
  have hl' : (g.limited (some limit')).sampler.retryLimit = some limit' := rfl
  have hw' : (g.limited (some limit')).HasWorkers host := hw
  refine (generateEdges_limited_iff hl' hw').2 ⟨fun j hlt hr => ?_, he.alike (g.limited_alike _)⟩
  rw [Hopeless, ← (g.limited_alike (some limit')).rejects_iff] at hr
  have hle := UInt64.le_iff_toNat_le.1 hle
  exact hhope j hlt (hr.mono (by omega))

/-- With a retry limit a run fails exactly when some element has more candidates outside, one after
the other from its first, than the limit allows, and then names the block of the first such element.
Neither the blocks nor the limit change an edge. -/
theorem retry_limit_exact (g : Generator) (limit : Positive) (host : Host)
    (hl : g.sampler.retryLimit = some limit) (hw : g.HasWorkers host) :
    ((∃ block l, (g.generateEdges host).outcome = .error (.failed (.retriesExhausted block l))) ↔
      ∃ j < g.edgeCount.val.toNat, g.Hopeless limit j) ∧
    (∀ j < g.edgeCount.val.toNat, g.Hopeless limit j → (∀ i < j, ¬ g.Hopeless limit i) →
      ∃ blocks b, g.blocks = .ok blocks ∧ b ∈ blocks ∧ b.Covers j ∧
        (g.generateEdges host).outcome = .error (.failed (.retriesExhausted b.index limit.val))) ∧
    ((∀ j < g.edgeCount.val.toNat, ¬ g.Hopeless limit j) →
      ∃ edges, (g.generateEdges host).outcome = .ok edges ∧ edges.length = g.edgeCount.val.toNat ∧
        (∀ j < g.edgeCount.val.toNat, ∃ k ≤ limit.val.toNat, ∃ e, edges[j]? = some e ∧
          g.sampler.Accepts k (freshAt g.seed j) e) ∧
        ∀ host', g.HasWorkers host' → limit.val.toNat < host'.patience →
          ((g.limited none).generateEdges host').outcome = .ok edges) ∧
    (g.generate host).outcome = Graph.ofEdges <$> (g.generateEdges host).outcome ∧
    (∀ ceiling edges,
      ({ g with maxBlockCount := ceiling }.generateEdges host).outcome = .ok edges ↔
        (g.generateEdges host).outcome = .ok edges) ∧
    ∀ limit' edges, limit.val ≤ limit'.val → (g.generateEdges host).outcome = .ok edges →
      ((g.limited (some limit')).generateEdges host).outcome = .ok edges := by
  refine ⟨retriesExhausted_iff hl hw, fun j => generateEdges_of_hopeless hl hw, ?_,
    g.generate_outcome host, ?_, fun limit' edges => generateEdges_larger hl hw⟩
  · intro h
    obtain ⟨edges, hok⟩ := generateEdges_of_hopeful hw (by rw [budget_of_limit hl]; exact h)
    have he := enumerates_of_generateEdges hok
    refine ⟨edges, hok, he.length, fun j hj => ?_, fun host' => generateEdges_unlimited hl hw hok host'⟩
    obtain ⟨k, e, hk, ha⟩ := not_rejects_iff.1 (h j hj)
    refine ⟨k, Nat.le_of_lt_succ hk, e, ?_, ha⟩
    rw [he.getElem? hj, edgeAt, firstInside_of_accepts ha]
  · intro ceiling edges
    let g' : Generator := { g with maxBlockCount := ceiling }
    have hl' : g'.sampler.retryLimit = some limit := hl
    have hw' : g'.HasWorkers host := hw
    exact (generateEdges_limited_iff hl' hw').trans (generateEdges_limited_iff hl hw).symm

/-- Two rejections are one too many for a limit of one, and just what a limit of two allows. -/
theorem retry_limit_exact_five :
    (∃ blocks b, (five .one).blocks = .ok blocks ∧ b ∈ blocks ∧ b.Covers 3 ∧
      ((five .one).generateEdges {}).outcome = .error (.failed (.retriesExhausted b.index 1))) ∧
    ∃ edges, ((five ⟨2, by decide⟩).generateEdges {}).outcome = .ok edges ∧ edges.length = 7 := by
  have hfail := (retry_limit_exact (five .one) .one {} rfl (.inl rfl)).2.1
  have hok := (retry_limit_exact (five ⟨2, by decide⟩) ⟨2, by decide⟩ {} rfl (.inl rfl)).2.2.1
  refine ⟨hfail 3 (by decide) (by decide +kernel) (by decide +kernel), ?_⟩
  obtain ⟨edges, h, hlen, -⟩ := hok (by decide +kernel)
  exact ⟨edges, h, hlen⟩

end Generator

end RecursiveMatrix
