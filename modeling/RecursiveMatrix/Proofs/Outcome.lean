import Mathlib.Data.List.Forall2
import RecursiveMatrix.Generator
import RecursiveMatrix.Proofs.Sweep

namespace RecursiveMatrix

open Trace

namespace Run

variable {α β : Type}

@[simp] theorem outcome_bind (r : Run α) (f : α → Run β) :
    (r >>= f).outcome = r.outcome >>= fun a => (f a).outcome := by
  obtain ⟨outcome, signals, counters⟩ := r
  cases outcome with
  | error e => rfl
  | ok a => rfl

@[simp] theorem outcome_map (f : α → β) (r : Run α) : (f <$> r).outcome = f <$> r.outcome := by
  change (r >>= fun a => pure (f a)).outcome = _
  rw [outcome_bind]
  cases r.outcome with
  | error e => rfl
  | ok a => rfl

@[simp] theorem outcome_within (id : Nat) (span : Span) (r : Run α) :
    (within id span r).outcome = r.outcome := rfl

end Run

namespace Sampler

variable {σ : Type} [Source σ] {z : Sampler} {patience : Nat} {b : Block σ} {bs : List (Block σ)}
  {p : Progress} {stop : Stop} {batch : Batch}

theorem runBlocks_of_ok (h : z.sample patience b = .ok batch) :
    ∃ p' : Progress, p'.edges.toList = p.edges.toList ++ batch.edges ∧
      (z.runBlocks patience (b :: bs) p).outcome = (z.runBlocks patience bs p').outcome := by
  have hr : (z.report b (z.sweep patience b)).outcome = .ok batch := h
  rw [runBlocks]
  simp only [hr]
  exact ⟨_, by simp, rfl⟩

theorem runBlocks_of_error (h : z.sample patience b = .error stop) :
    (z.runBlocks patience (b :: bs) p).outcome = .error stop := by
  have hr : (z.report b (z.sweep patience b)).outcome = .error stop := h
  rw [runBlocks]
  simp only [hr]

theorem runBlocks_eq_ok_iff {edges : List Edge} :
    (z.runBlocks patience bs p).outcome = .ok edges ↔
      ∃ batches, List.Forall₂ (fun b batch => z.sample patience b = .ok batch) bs batches ∧
        edges = p.edges.toList ++ batches.flatMap Batch.edges := by
  induction bs generalizing p with
  | nil => simp [runBlocks, eq_comm]
  | cons b bs ih =>
      simp only [List.forall₂_cons_left_iff]
      cases hb : z.sample patience b with
      | error stop =>
          rw [runBlocks_of_error hb]
          constructor
          · exact fun h => nomatch h
          · rintro ⟨_, ⟨batch, _, hok, _⟩, _⟩
            exact nomatch hok
      | ok batch =>
          obtain ⟨p', hp', hrun⟩ := runBlocks_of_ok (p := p) hb
          rw [hrun, ih, hp']
          constructor
          · rintro ⟨batches, hall, rfl⟩
            refine ⟨batch :: batches, ⟨batch, batches, rfl, hall, rfl⟩, ?_⟩
            rw [List.flatMap_cons, List.append_assoc]
          · rintro ⟨_, ⟨batch', batches, hok, hall, rfl⟩, rfl⟩
            cases hok
            refine ⟨batches, hall, ?_⟩
            rw [List.flatMap_cons, List.append_assoc]

theorem runBlocks_eq_error_iff :
    (z.runBlocks patience bs p).outcome = .error stop ↔
      ∃ before b after, bs = before ++ b :: after ∧
        (∀ b' ∈ before, ∃ batch, z.sample patience b' = .ok batch) ∧
        z.sample patience b = .error stop := by
  induction bs generalizing p with
  | nil => simp [runBlocks]
  | cons b bs ih =>
      cases hb : z.sample patience b with
      | error stop' =>
          rw [runBlocks_of_error hb]
          constructor
          · rintro ⟨⟩
            exact ⟨[], b, bs, rfl, fun _ h => absurd h List.not_mem_nil, hb⟩
          · rintro ⟨before, b', after, hbs, hok, herr⟩
            cases before with
            | nil =>
                cases hbs
                cases hb.symm.trans herr
                rfl
            | cons c before =>
                cases hbs
                obtain ⟨batch, hc⟩ := hok b List.mem_cons_self
                rw [hb] at hc
                exact nomatch hc
      | ok batch =>
          obtain ⟨p', -, hrun⟩ := runBlocks_of_ok (p := p) hb
          rw [hrun, ih]
          constructor
          · rintro ⟨before, b', after, rfl, hok, herr⟩
            refine ⟨b :: before, b', after, rfl, fun c hc => ?_, herr⟩
            rcases List.mem_cons.1 hc with rfl | hc
            · exact ⟨batch, hb⟩
            · exact hok c hc
          · rintro ⟨before, b', after, hbs, hok, herr⟩
            cases before with
            | nil =>
                cases hbs
                rw [hb] at herr
                exact nomatch herr
            | cons c before =>
                cases hbs
                exact ⟨before, b', after, rfl, fun c hc => hok c (List.mem_cons_of_mem _ hc), herr⟩

theorem exists_of_runBlocks_error (h : (z.runBlocks patience bs p).outcome = .error stop) :
    ∃ b ∈ bs, stop = z.stop b ∧ z.sample patience b = .error stop := by
  obtain ⟨before, b, after, rfl, -, herr⟩ := runBlocks_eq_error_iff.1 h
  exact ⟨b, List.mem_append_right before List.mem_cons_self, (sample_eq_error_iff.1 herr).2, herr⟩

end Sampler

namespace Generator

variable {g : Generator} {host : Host} {blocks : List (Block KeyedStream)}

/-- Someone is there to do the work: the caller, or a pool that can be started. -/
def HasWorkers (g : Generator) (host : Host) : Prop := g.parallelism = none ∨ host.poolFault = none

theorem exists_blocks (g : Generator) : ∃ blocks, g.blocks = .ok blocks :=
  let ⟨blocks, h, _⟩ := Block.partition_tiles (KeyedStream.positioned g.seed) g.edgeCount.pos
    g.cyclesPerEdge.toUInt64 g.maxBlockCount
  ⟨blocks, h⟩

theorem blocks_tile (h : g.blocks = .ok blocks) :
    Block.Tiles (KeyedStream.positioned g.seed) g.edgeCount.val.toNat 0 0 blocks :=
  Block.tiles_of_partition h

theorem length_blocks (h : g.blocks = .ok blocks) : blocks.length = g.blockCount.toNat :=
  Block.length_of_partition h

theorem index_lt_blockCount (h : g.blocks = .ok blocks) {b : Block KeyedStream} (hb : b ∈ blocks) :
    b.index < g.blockCount := by
  have hindex := ((blocks_tile h).index_of_mem hb).2
  rwa [length_blocks h, Nat.zero_add, ← UInt64.lt_iff_toNat_lt] at hindex

theorem inShared_eq {α : Type} (host : Host) (n : Nat) (work : Run α) :
    inShared host n work = work ∨ inShared host n work = work.relay := by
  unfold inShared
  split
  · exact .inr rfl
  · exact .inl rfl

theorem inShared_outcome {α : Type} (host : Host) (n : Nat) (work : Run α) :
    (inShared host n work).outcome = work.outcome := by
  rcases inShared_eq host n work with h | h
  · rw [h]
  · rw [h, Run.relay]

theorem runBlocks_outcome (h : g.blocks = .ok blocks) :
    (g.runBlocks host).outcome = (g.sampler.runBlocks host.patience blocks {}).outcome := by
  rw [runBlocks, h]
  simp only [Run.outcome_bind, inShared_outcome]
  change ((g.sampler.runBlocks host.patience blocks {}).outcome >>= fun edges => _) = _
  cases (g.sampler.runBlocks host.patience blocks {}).outcome with
  | error stop => rfl
  | ok edges => rfl

theorem inPool_eq {α : Type} (h : g.HasWorkers host) (work : Run α) :
    g.inPool host work = work ∨ g.inPool host work = work.relay := by
  unfold inPool
  split
  · exact .inl rfl
  · exact .inr rfl
  · rcases h with hp | hf
    · simp_all
    · simp_all

theorem inPool_outcome {α : Type} (h : g.HasWorkers host) (work : Run α) :
    (g.inPool host work).outcome = work.outcome := by
  rcases inPool_eq h work with h | h
  · rw [h]
  · rw [h, Run.relay]

theorem inPool_cases {α : Type} (g : Generator) (host : Host) :
    g.HasWorkers host ∨ ∃ threads reason, g.parallelism = some threads ∧ host.poolFault = some reason ∧
      ∀ work : Run α, g.inPool host work = { outcome := .error (.failed (.workerPool reason)) } := by
  by_cases h : g.HasWorkers host
  · exact .inl h
  · simp only [HasWorkers, not_or] at h
    obtain ⟨threads, hp⟩ := Option.ne_none_iff_exists'.1 h.1
    obtain ⟨reason, hf⟩ := Option.ne_none_iff_exists'.1 h.2
    exact .inr ⟨threads, reason, hp, hf, fun work => by rw [inPool, hp, hf]⟩

theorem generateEdges_outcome (h : g.HasWorkers host) :
    (g.generateEdges host).outcome = (g.runBlocks host).outcome := by
  rw [generateEdges, Run.outcome_within, inPool_outcome h]

theorem generate_outcome (g : Generator) (host : Host) :
    (g.generate host).outcome = Graph.ofEdges <$> (g.generateEdges host).outcome := by
  have hpool : (g.inPool host (Graph.ofEdges <$> g.runBlocks host)).outcome =
      Graph.ofEdges <$> (g.inPool host (g.runBlocks host)).outcome := by
    by_cases h : g.HasWorkers host
    · rw [inPool_outcome h, inPool_outcome h, Run.outcome_map]
    · unfold inPool
      split
      · exact Run.outcome_map ..
      · exact Run.outcome_map ..
      · rfl
  rw [generate, generateEdges, Run.outcome_within, Run.outcome_within]
  simp only [Run.outcome_bind, hpool]
  cases (g.inPool host (g.runBlocks host)).outcome with
  | error stop => rfl
  | ok edges => rfl

theorem hasWorkers_of_generateEdges {edges : List Edge} (h : (g.generateEdges host).outcome = .ok edges) :
    g.HasWorkers host := by
  rcases g.inPool_cases (α := List Edge) host with hw | ⟨threads, reason, -, -, hf⟩
  · exact hw
  · rw [generateEdges, Run.outcome_within, hf] at h
    exact nomatch h

theorem runBlocks_of_generateEdges {edges : List Edge} (h : (g.generateEdges host).outcome = .ok edges) :
    (g.runBlocks host).outcome = .ok edges := by
  rw [← generateEdges_outcome (hasWorkers_of_generateEdges h), h]

end Generator

end RecursiveMatrix
