import RecursiveMatrix.Proofs.RetryLimit
import RecursiveMatrix.Proofs.Validation
import RecursiveMatrix.Proofs.VertexSet

namespace RecursiveMatrix

namespace Sampler

variable {σ : Type} [Source σ] {z : Sampler} {edges : List Edge}

theorem contains_iff {e : Edge} :
    z.contains e = true ↔ e.source < z.vertexCount.val ∧ e.target < z.vertexCount.val := by
  simp [contains]

theorem produces_sound {sourceAt : UInt64 → σ} {hi i lo : Nat} {blocks : List (Block σ)}
    (ht : Block.Tiles sourceAt hi i lo blocks) (hp : z.Produces blocks edges) :
    edges.length = hi - lo ∧ ∀ e ∈ edges, z.contains e = true := by
  obtain ⟨batches, hall, rfl⟩ := hp
  induction ht generalizing batches with
  | nil i =>
      cases hall
      exact ⟨(Nat.sub_self hi).symm, fun _ he => absurd he List.not_mem_nil⟩
  | @cons b bs source rest ih =>
      obtain ⟨batch, batches, ⟨patience, hb⟩, hbs, rfl⟩ := List.forall₂_cons_left_iff.1 hall
      obtain ⟨hlen, hin⟩ := sample_sound hb
      obtain ⟨hlen', hin'⟩ := ih batches hbs
      have hle := rest.le
      rw [List.flatMap_cons]
      refine ⟨?_, fun e he => ?_⟩
      · rw [List.length_append, hlen, hlen']
        omega
      · rcases List.mem_append.1 he with he | he
        · exact hin e he
        · exact hin' e he

end Sampler

namespace Graph

/-- A graph of so many edges between ids below a bound, whose vertices are the ends of its edges. -/
structure Fits (x : Graph) (vertexCount edgeCount : UInt64) : Prop where
  edgeCount_eq : x.edgeCount = edgeCount.toNat
  inside : ∀ e ∈ x.edges, e.source < vertexCount ∧ e.target < vertexCount
  ascending : x.vertices.Pairwise (· < ·)
  mem_vertices_iff : ∀ v, v ∈ x.vertices ↔ ∃ e ∈ x.edges, v = e.source ∨ v = e.target
  vertexCount_le : x.vertexCount ≤ min vertexCount.toNat (2 * edgeCount.toNat)

theorem ofEdges_fits {edges : List Edge} {vertexCount edgeCount : UInt64}
    (hlen : edges.length = edgeCount.toNat)
    (hin : ∀ e ∈ edges, e.source < vertexCount ∧ e.target < vertexCount) :
    (ofEdges edges).Fits vertexCount edgeCount where
  edgeCount_eq := hlen
  inside := hin
  ascending := vertexSet_ascending edges
  mem_vertices_iff _ := mem_vertexSet_iff
  vertexCount_le := by
    have htwice := length_vertexSet_le edges
    rw [hlen] at htwice
    exact Nat.le_min.2 ⟨length_vertexSet_le_of_lt hin, htwice⟩

end Graph

namespace Generator

open Sampler

variable {g : Generator} {host : Host}

theorem fits_of_produces {σ : Type} [Source σ] {s : Config} (h : s.validate = .ok g)
    {sourceAt : UInt64 → σ} {blocks : List (Block σ)} {edges : List Edge}
    (ht : Block.Tiles sourceAt s.edgeCount.toNat 0 0 blocks) (hp : g.sampler.Produces blocks edges) :
    (Graph.ofEdges edges).Fits s.vertexCount s.edgeCount := by
  obtain ⟨hlen, hin⟩ := produces_sound ht hp
  refine Graph.ofEdges_fits hlen fun e he => ?_
  rw [← (Config.validate_settles h).vertexCount]
  exact contains_iff.1 (hin e he)

/-- A graph from a configuration that was found valid is as large as was asked for, and is made of
the edges that are to be had alone. No edge lies outside whatever a source draws, numbers or not. -/
theorem output_contract (s : Config) (g : Generator) (h : s.validate = .ok g) (host : Host) :
    (∀ x, (g.generate host).outcome = .ok x →
      x.Fits s.vertexCount s.edgeCount ∧ (g.generateEdges host).outcome = .ok x.edges) ∧
    (∀ stop, (g.generate host).outcome = .error stop ↔
      (g.generateEdges host).outcome = .error stop) ∧
    ∀ (σ : Type) [Source σ] (sourceAt : UInt64 → σ) cycles ceiling patience blocks edges,
      Block.partition sourceAt s.edgeCount cycles ceiling = .ok blocks →
      (g.sampler.runBlocks patience blocks {}).outcome = .ok edges →
      (Graph.ofEdges edges).Fits s.vertexCount s.edgeCount := by
  rw [g.generate_outcome host]
  refine ⟨?_, ?_, ?_⟩
  · intro x hx
    cases ho : (g.generateEdges host).outcome with
    | error stop =>
        rw [ho] at hx
        exact nomatch hx
    | ok edges =>
        rw [ho] at hx
        cases hx
        obtain ⟨blocks, hblocks⟩ := g.exists_blocks
        have hrun := runBlocks_of_generateEdges ho
        rw [runBlocks_outcome hblocks] at hrun
        have ht := blocks_tile hblocks
        rw [(Config.validate_settles h).edgeCount] at ht
        exact ⟨fits_of_produces h ht (produces_of_runBlocks hrun), rfl⟩
  · intro stop
    cases (g.generateEdges host).outcome with
    | error stop' =>
        constructor
        · rintro ⟨⟩
          rfl
        · rintro ⟨⟩
          rfl
    | ok edges => exact ⟨(nomatch ·), (nomatch ·)⟩
  · intro σ _ sourceAt cycles ceiling patience blocks edges hb hrun
    exact fits_of_produces h (Block.tiles_of_partition hb) (produces_of_runBlocks hrun)

theorem output_contract_five :
    ∃ x, ((five ⟨2, by decide⟩).generate {}).outcome = .ok x ∧ x.Fits 5 7 ∧
      ((five ⟨2, by decide⟩).generateEdges {}).outcome = .ok x.edges := by
  have hl : (five ⟨2, by decide⟩).sampler.retryLimit = some ⟨2, by decide⟩ := rfl
  have hw : (five ⟨2, by decide⟩).HasWorkers {} := .inl rfl
  have hhope : ∀ j < (five ⟨2, by decide⟩).edgeCount.val.toNat,
      ¬ (five ⟨2, by decide⟩).Hopeless ⟨2, by decide⟩ j := by decide +kernel
  obtain ⟨edges, hedges⟩ := generateEdges_of_hopeful hw (by rw [budget_of_limit hl]; exact hhope)
  have hx : ((five ⟨2, by decide⟩).generate {}).outcome = .ok (Graph.ofEdges edges) := by
    rw [generate_outcome, hedges]
    rfl
  have hs : Config.validate
      { vertexCount := 5, edgeCount := 7, seed := 7, maxBlockCount := 1, retryLimit := some 2 } =
        .ok (five ⟨2, by decide⟩) := rfl
  exact ⟨_, hx, (output_contract _ _ hs {}).1 _ hx⟩

end Generator

end RecursiveMatrix
