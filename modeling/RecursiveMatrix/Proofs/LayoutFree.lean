import RecursiveMatrix.Proofs.Outcome

namespace RecursiveMatrix

namespace Sampler

section AnySource

variable {σ : Type} [Source σ] {z : Sampler} {blocks : List (Block σ)} {edges : List Edge}

/-- The edges that the blocks come to, put together in the order of the blocks. -/
def Produces (z : Sampler) (blocks : List (Block σ)) (edges : List Edge) : Prop :=
  ∃ batches, List.Forall₂ (fun b batch => ∃ patience, z.sample patience b = .ok batch) blocks batches ∧
    edges = batches.flatMap Batch.edges

theorem produces_of_runBlocks {patience : Nat}
    (h : (z.runBlocks patience blocks {}).outcome = .ok edges) : z.Produces blocks edges := by
  obtain ⟨batches, hall, rfl⟩ := runBlocks_eq_ok_iff.1 h
  exact ⟨batches, hall.imp fun _ _ hb => ⟨patience, hb⟩, rfl⟩

end AnySource

variable {z z' : Sampler} {seed : UInt64} {m n : Nat} {edges edges' : List Edge}

/-- The edges of the first `n` elements, each found on a stream of its own. -/
def Enumerates (z : Sampler) (seed : UInt64) (n : Nat) (edges : List Edge) : Prop :=
  edges.map some = (List.range n).map (z.edgeAt seed)

theorem Enumerates.length (h : z.Enumerates seed n edges) : edges.length = n := by
  have hlen := congrArg List.length h
  rwa [List.length_map, List.length_map, List.length_range] at hlen

theorem Enumerates.getElem? (h : z.Enumerates seed n edges) {j : Nat} (hj : j < n) :
    edges[j]? = z.edgeAt seed j := by
  have hget := congrArg (fun l => l[j]?) h
  simp only [List.getElem?_map, List.getElem?_range hj, Option.map_some] at hget
  cases he : edges[j]? with
  | none => rw [he] at hget; exact nomatch hget
  | some e => rw [he] at hget; exact Option.some.inj hget

theorem Enumerates.alike (hz : z.Alike z') (h : z.Enumerates seed n edges) :
    z'.Enumerates seed n edges := by
  have hedge : z.edgeAt seed = z'.edgeAt seed := funext fun _ => hz.firstInside_eq _
  rw [Enumerates, h, hedge]

theorem Enumerates.take (h : z.Enumerates seed m edges) (h' : z.Enumerates seed n edges')
    (hmn : m ≤ n) : edges = edges'.take m := by
  apply List.map_injective_iff.2 fun _ _ => Option.some.inj
  rw [List.map_take, h, h', ← List.map_take, List.take_range, Nat.min_eq_left hmn]

theorem Enumerates.unique (h : z.Enumerates seed n edges) (h' : z.Enumerates seed n edges') :
    edges = edges' := by
  rw [h.take h' (Nat.le_refl n), List.take_of_length_le (Nat.le_of_eq h'.length)]

theorem edges_of_tiles {hi i lo : Nat} {blocks : List (Block KeyedStream)}
    (ht : Block.Tiles (KeyedStream.positioned seed) hi i lo blocks) (hp : z.Produces blocks edges) :
    edges.map some = (List.range' lo (hi - lo)).map (z.edgeAt seed) := by
  obtain ⟨batches, hall, rfl⟩ := hp
  induction ht generalizing batches with
  | nil i =>
      cases hall
      rw [Nat.sub_self]
      rfl
  | @cons b bs source rest ih =>
      obtain ⟨batch, batches, ⟨patience, hb⟩, hbs, rfl⟩ := List.forall₂_cons_left_iff.1 hall
      have hle := rest.le
      have hsplit : hi - b.firstElement.toNat = b.elementCount.val.toNat +
          (hi - (b.firstElement.toNat + b.elementCount.val.toNat)) := by omega
      rw [List.flatMap_cons, List.map_append, sample_edges source hb, ih batches hbs, hsplit,
        ← List.map_append, List.range'_append_1]

theorem enumerates_of_tiles {blocks : List (Block KeyedStream)}
    (ht : Block.Tiles (KeyedStream.positioned seed) n 0 0 blocks) (hp : z.Produces blocks edges) :
    z.Enumerates seed n edges := by
  rw [Enumerates, List.range_eq_range']
  exact edges_of_tiles ht hp

end Sampler

namespace Generator

theorem enumerates_of_generateEdges {g : Generator} {host : Host} {edges : List Edge}
    (h : (g.generateEdges host).outcome = .ok edges) :
    g.sampler.Enumerates g.seed g.edgeCount.val.toNat edges := by
  obtain ⟨blocks, hblocks⟩ := g.exists_blocks
  have hrun := runBlocks_of_generateEdges h
  rw [runBlocks_outcome hblocks] at hrun
  exact Sampler.enumerates_of_tiles (blocks_tile hblocks) (Sampler.produces_of_runBlocks hrun)

/-- Seven edges between five vertices, in one block. The fourth is found after two rejections. -/
def five (limit : Positive) : Generator :=
  ⟨⟨7, by decide⟩, ⟨⟨5, by decide⟩, default, default, some limit⟩, 7, none, .one⟩

end Generator

open Sampler

/-- How the elements are split into blocks, who works on them and how many draws each was thought to
take shows nowhere in the edges. -/
theorem layout_free (z : Sampler) (seed : UInt64) :
    (∀ (n cycles : UInt64) (ceiling : Positive), 0 < n →
      ∃ blocks, Block.partition (KeyedStream.positioned seed) n cycles ceiling = .ok blocks ∧
        ∀ edges, z.Produces blocks edges → z.Enumerates seed n.toNat edges) ∧
    (∀ (z' : Sampler) (m n cycles cycles' : UInt64) (ceiling ceiling' : Positive) blocks blocks'
        edges edges', z.Alike z' → m ≤ n →
      Block.partition (KeyedStream.positioned seed) m cycles ceiling = .ok blocks →
      Block.partition (KeyedStream.positioned seed) n cycles' ceiling' = .ok blocks' →
      z.Produces blocks edges → z'.Produces blocks' edges' → edges = edges'.take m.toNat) ∧
    (∀ (g : Generator) host edges, g.sampler = z → g.seed = seed →
      (g.generateEdges host).outcome = .ok edges →
      z.Enumerates seed g.edgeCount.val.toNat edges) ∧
    ∀ (g g' : Generator) host host' edges edges', g.sampler = z → z.Alike g'.sampler →
      g.seed = seed → g'.seed = seed → g.edgeCount.val ≤ g'.edgeCount.val →
      (g.generateEdges host).outcome = .ok edges → (g'.generateEdges host').outcome = .ok edges' →
      edges = edges'.take g.edgeCount.val.toNat ∧ (g.edgeCount = g'.edgeCount → edges = edges') := by
  refine ⟨?_, ?_, ?_, ?_⟩
  · intro n cycles ceiling hn
    obtain ⟨blocks, hb, ht⟩ := Block.partition_tiles (KeyedStream.positioned seed) hn cycles ceiling
    exact ⟨blocks, hb, fun edges hp => enumerates_of_tiles ht hp⟩
  · intro z' m n cycles cycles' ceiling ceiling' blocks blocks' edges edges' hz hmn hb hb' hp hp'
    have h := enumerates_of_tiles (Block.tiles_of_partition hb) hp
    have h' := enumerates_of_tiles (Block.tiles_of_partition hb') hp'
    exact (h.alike hz).take h' (UInt64.le_iff_toNat_le.1 hmn)
  · rintro g host edges rfl rfl h
    exact Generator.enumerates_of_generateEdges h
  · rintro g g' host host' edges edges' rfl hz rfl hseed hmn h h'
    have he := (Generator.enumerates_of_generateEdges h).alike hz
    have he' := Generator.enumerates_of_generateEdges h'
    rw [hseed] at he'
    refine ⟨he.take he' (UInt64.le_iff_toNat_le.1 hmn), fun hn => ?_⟩
    rw [hn] at he
    exact he.unique he'

theorem layout_free_five :
    ∃ blocks edges,
      Block.partition (KeyedStream.positioned 7) 4 0x100000 ⟨2, by decide⟩ = .ok blocks ∧
      (Generator.five ⟨2, by decide⟩).sampler.Produces blocks edges ∧
      (Generator.five ⟨2, by decide⟩).sampler.Enumerates 7 4 edges ∧
      blocks.length = 2 ∧ edges = [⟨0, 0⟩, ⟨4, 0⟩, ⟨0, 0⟩, ⟨0, 0⟩] := by
  have hp : (Generator.five ⟨2, by decide⟩).sampler.Produces
      [⟨0, 2, 0, ⟨2, by decide⟩, KeyedStream.positioned 7 0⟩,
        ⟨1, 2, 2, ⟨2, by decide⟩, KeyedStream.positioned 7 2⟩]
      [⟨0, 0⟩, ⟨4, 0⟩, ⟨0, 0⟩, ⟨0, 0⟩] := by
    refine ⟨[⟨[⟨0, 0⟩, ⟨4, 0⟩], 0⟩, ⟨[⟨0, 0⟩, ⟨0, 0⟩], 2⟩], .cons ⟨0, ?_⟩ (.cons ⟨0, ?_⟩ .nil), rfl⟩
    · exact sample_eq_ok_iff.2 ⟨by decide +kernel, rfl⟩
    · exact sample_eq_ok_iff.2 ⟨by decide +kernel, rfl⟩
  obtain ⟨blocks, hb, h⟩ := (layout_free (Generator.five ⟨2, by decide⟩).sampler 7).1 4 0x100000
    ⟨2, by decide⟩ (by decide)
  obtain rfl := Except.ok.inj hb
  exact ⟨_, _, hb, hp, h _ hp, rfl, rfl⟩

end RecursiveMatrix
