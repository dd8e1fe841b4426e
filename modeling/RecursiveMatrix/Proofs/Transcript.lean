import RecursiveMatrix.Proofs.Phases
import RecursiveMatrix.Proofs.Recording
import RecursiveMatrix.Proofs.Tally

namespace RecursiveMatrix

open Trace

namespace Run

variable {α : Type} {r : Run α} {id : Nat} {span : Span} {us : List SpanRecord}

def fault (target : String) (e : Error) : Event := ⟨.error, target, [("error", .shown e.message)]⟩

theorem relay_quiet (h : ∀ s ∈ r.signals, s.quiet = true) : ∀ s ∈ r.relay.signals, s.quiet = true := by
  intro s hs
  obtain ⟨s', hs', rfl⟩ := List.mem_map.1 hs
  exact s'.quiet_relay.trans (h s' hs')

theorem telling_quiet {f : α → Event} (h : ∀ s ∈ r.signals, s.quiet = true)
    (hf : ∀ a, (f a).level ≠ .error) : ∀ s ∈ (r.telling f).signals, s.quiet = true := by
  cases ho : r.outcome with
  | error stop =>
      rw [telling_of_error ho]
      exact h
  | ok a =>
      rw [telling_of_ok ho]
      intro s hs
      rcases List.mem_append.1 hs with hs | hs
      · exact h s hs
      · rw [List.mem_singleton.1 hs]
        exact decide_eq_true (hf a)

end Run

namespace Sampler

variable {σ : Type} [Source σ] {z : Sampler} {patience : Nat} {b : Block σ} {stop : Stop}

theorem runBlocks_quiet (z : Sampler) (patience : Nat) (blocks : List (Block σ)) :
    ∀ s ∈ (z.runBlocks patience blocks {}).signals, s.quiet = true := by
  have hfinished (done : List (Block σ × Batch)) :
      ∀ s ∈ done.map (Signal.emitted <| finished ·), s.quiet = true := by
    intro s hs
    obtain ⟨d, -, rfl⟩ := List.mem_map.1 hs
    rfl
  rcases z.completes_or_stops patience blocks with
    ⟨done, rfl, hdone⟩ | ⟨done, b, after, stop, rfl, hdone, hb⟩
  · rw [runBlocks_of_completes hdone]
    exact hfinished done
  · rw [runBlocks_of_stop hdone hb]
    intro s hs
    rcases List.mem_append.1 hs with hs | hs
    · exact hfinished done s hs
    · cases hl : z.retryLimit with
      | none =>
          rw [signals, (sample_eq_error_iff.1 hb).1, hl] at hs
          exact absurd hs List.not_mem_nil
      | some limit =>
          rw [signals_of_limit hl hb] at hs
          rw [List.mem_singleton.1 hs]
          rfl

end Sampler

namespace Generator

open Sampler

variable {g : Generator} {host : Host}

theorem inPool_quiet {α : Type} {work : Run α} (h : ∀ s ∈ work.signals, s.quiet = true) :
    ∀ s ∈ (g.inPool host work).signals, s.quiet = true := by
  unfold inPool
  split
  · exact h
  · exact Run.relay_quiet h
  · exact fun s hs => absurd hs List.not_mem_nil

theorem inShared_quiet {α : Type} {work : Run α} (host : Host) (n : Nat)
    (h : ∀ s ∈ work.signals, s.quiet = true) :
    ∀ s ∈ (inShared host n work).signals, s.quiet = true := by
  unfold inShared
  split
  · exact Run.relay_quiet h
  · exact h

theorem runBlocks_quiet (g : Generator) (host : Host) :
    ∀ s ∈ (g.runBlocks host).signals, s.quiet = true := by
  obtain ⟨blocks, hblocks⟩ := g.exists_blocks
  have hquiet := inShared_quiet host blocks.length
    (g.sampler.runBlocks_quiet host.patience blocks)
  cases h : (g.sampler.runBlocks host.patience blocks {}).outcome with
  | error stop =>
      rw [runBlocks_eq_of_error hblocks h]
      exact hquiet
  | ok edges =>
      rw [runBlocks_eq_of_ok hblocks h]
      intro s hs
      rcases List.mem_append.1 hs with hs | hs
      · exact hquiet s hs
      · rw [List.mem_singleton.1 hs]
        rfl

theorem graph_quiet (g : Generator) (host : Host) :
    ∀ s ∈ ((g.inPool host (Graph.ofEdges <$> g.runBlocks host)).telling drawn).signals,
      s.quiet = true := by
  refine Run.telling_quiet (inPool_quiet ?_) fun _ => nofun
  rw [Run.map_eq]
  exact g.runBlocks_quiet host

variable {blocks after : List (Block KeyedStream)} {done : List (Block KeyedStream × Batch)}
  {b : Block KeyedStream} {edges : List Edge} {e : Error} {limit : Positive}

theorem exists_completes (h : (g.generateEdges host).outcome = .ok edges) :
    ∃ done, g.blocks = .ok (done.map Prod.fst) ∧ g.sampler.Completes host.patience done ∧
      done.map (·.1.index.toNat) = List.range done.length := by
  obtain ⟨blocks, hblocks⟩ := g.exists_blocks
  have hrun := runBlocks_of_generateEdges h
  rcases g.sampler.completes_or_stops host.patience blocks with
    ⟨done, rfl, hdone⟩ | ⟨done, b, after, stop, rfl, hdone, hstop⟩
  · have hindices := (blocks_tile hblocks).indices
    rw [List.map_map, List.length_map, ← List.range_eq_range'] at hindices
    exact ⟨done, hblocks, hdone, hindices⟩
  · rw [runBlocks_outcome hblocks, runBlocks_of_stop hdone hstop] at hrun
    cases hrun

end Generator

namespace CommandLine.Generate

open Generator

variable {c : Generate} {g : Generator} {host : Host} {e : Error} {stop : Stop} {x : Graph}

def completed (g : Generator) (x : Graph) : Event :=
  .note .info CommandLine.target "command completed" [("vertices", .natural x.vertexCount),
    ("edges", .natural x.edgeCount), ("blocks", .natural g.blockCount.toNat)]

theorem generate_of_invalid (h : c.config.validate = .error e) :
    c.generate host = Run.within 1 c.span ⟨.error (.failed e), [], {}⟩ := by
  rw [generate, h]
  rfl

theorem generate_of_ok (h : c.config.validate = .ok g) (hx : (g.generate host).outcome = .ok x) :
    ∃ counters, c.generate host = Run.within 1 c.span
      ⟨.ok ⟨c.format, g.scale, g.blockCount, g.seed, x⟩,
        (g.generate host).signals ++ [.emitted (completed g x)], counters⟩ := by
  rw [generate, h, Run.bind_of_ok (a := g) rfl, Run.bind_of_ok hx]
  exact ⟨_, rfl⟩

theorem generate_of_error (h : c.config.validate = .ok g)
    (hstop : (g.generate host).outcome = .error stop) :
    ∃ counters, c.generate host = Run.within 1 c.span
      ⟨.error stop, (g.generate host).signals, counters⟩ := by
  rw [generate, h, Run.bind_of_ok (a := g) rfl, Run.bind_of_error hstop]
  exact ⟨_, rfl⟩

end CommandLine.Generate

open Generator Sampler CommandLine

/-- The command for seven edges between five vertices, with or without a pool of one worker. -/
def CommandLine.Generate.five (vertexCount : UInt64) (parallelism : Option UInt64) : Generate where
  vertexCount
  edgeCount := 7
  a := Probabilities.defaultA
  b := Probabilities.defaultB
  c := Probabilities.defaultC
  noise := none
  seed := 7
  parallelism
  format := .summary

end RecursiveMatrix
