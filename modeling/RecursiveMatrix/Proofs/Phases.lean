import RecursiveMatrix.CommandLine.Generate
import RecursiveMatrix.Proofs.RetryLimit
import RecursiveMatrix.Proofs.Schedule
import RecursiveMatrix.Proofs.Validation

namespace RecursiveMatrix

namespace Generator

variable {g : Generator} {host : Host} {stop : Stop}

/-- How a run may end without a result. -/
inductive Stops (g : Generator) (host : Host) : Stop → Prop
  | retries {block : UInt64} {limit : Positive} (hl : g.sampler.retryLimit = some limit)
      (hb : block < g.blockCount) : Stops g host (.failed (.retriesExhausted block limit.val))
  | pool {threads : Positive} {reason : String} (hp : g.parallelism = some threads)
      (hf : host.poolFault = some reason) : Stops g host (.failed (.workerPool reason))
  | endless (hl : g.sampler.retryLimit = none) : Stops g host .unfinished

theorem stops_of_block {blocks : List (Block KeyedStream)} (h : g.blocks = .ok blocks)
    {b : Block KeyedStream} (hb : b ∈ blocks) : g.Stops host (g.sampler.stop b) := by
  cases hl : g.sampler.retryLimit with
  | none =>
      rw [Sampler.stop_of_none hl]
      exact .endless hl
  | some limit =>
      rw [Sampler.stop_of_limit hl]
      exact .retries hl (index_lt_blockCount h hb)

theorem stops_of_generateEdges (h : (g.generateEdges host).outcome = .error stop) :
    g.Stops host stop := by
  rcases g.inPool_cases (α := List Edge) host with hw | ⟨threads, reason, hp, hf, hpool⟩
  · obtain ⟨blocks, hblocks⟩ := g.exists_blocks
    rw [generateEdges_outcome hw, runBlocks_outcome hblocks] at h
    obtain ⟨b, hb, rfl, -⟩ := Sampler.exists_of_runBlocks_error h
    exact stops_of_block hblocks hb
  · rw [generateEdges, Run.outcome_within, hpool] at h
    cases h
    exact .pool hp hf

theorem stops_of_generate (h : (g.generate host).outcome = .error stop) : g.Stops host stop := by
  rw [generate_outcome] at h
  cases he : (g.generateEdges host).outcome with
  | error stop' =>
      rw [he] at h
      cases h
      exact stops_of_generateEdges he
  | ok edges =>
      rw [he] at h
      exact nomatch h

theorem stops_of_collected {blocks : List (Block KeyedStream)} (hb : g.blocks = .ok blocks)
    {ts : List (Work KeyedStream)} (h : Reaches g.sampler (blocks.map .start) ts) {e : Error}
    (hc : Collected ts (.error e)) : g.Stops host (.failed e) := by
  obtain ⟨limit, hl, b, hmem, rfl, -⟩ := sample_of_collected h.isolated hc
  exact .retries hl (index_lt_blockCount hb hmem)

end Generator

namespace CommandLine.Generate

open Generator

variable {c : Generate} {g : Generator} {host : Host} {stop : Stop}

theorem outcome_of_invalid {e : Error} (h : c.config.validate = .error e) :
    (c.run host).outcome = .error (.failed e) := by
  rw [run, Run.outcome_within, Run.outcome_bind]
  change (c.generate host).outcome = _
  rw [generate, Run.outcome_within, h]
  rfl

theorem outcome_of_valid (h : c.config.validate = .ok g) :
    (c.run host).outcome = (fun x => (⟨c.format, g.scale, g.blockCount, g.seed, x⟩ : Summary)) <$>
      (g.generate host).outcome := by
  rw [run, Run.outcome_within, Run.outcome_bind]
  change (c.generate host).outcome = _
  rw [generate, Run.outcome_within, h]
  change (g.generate host >>= _).outcome = _
  rw [Run.outcome_bind]
  cases (g.generate host).outcome with
  | error stop => rfl
  | ok x => rfl

theorem stop_of_run (h : (c.run host).outcome = .error stop) :
    (∃ e, c.config.validate = .error e ∧ stop = .failed e) ∨
      ∃ g, c.config.validate = .ok g ∧ g.Stops host stop := by
  cases hv : c.config.validate with
  | error e =>
      rw [outcome_of_invalid hv] at h
      cases h
      exact .inl ⟨e, rfl, rfl⟩
  | ok g =>
      rw [outcome_of_valid hv] at h
      cases ho : (g.generate host).outcome with
      | error stop' =>
          rw [ho] at h
          cases h
          exact .inr ⟨g, rfl, stops_of_generate ho⟩
      | ok x =>
          rw [ho] at h
          exact nomatch h

end CommandLine.Generate

open Generator CommandLine

/-- What a generator from these settings may come to lies outside the configuration. -/
inductive RunFault (s : Config) (g : Generator) : Error → Prop
  | retries {block limit : UInt64} (hl : s.retryLimit = some limit) (hb : block < g.blockCount) :
      RunFault s g (.retriesExhausted block limit)
  | pool {threads : UInt64} (hp : s.parallelism = some threads) (reason : String) :
      RunFault s g (.workerPool reason)

theorem RunFault.not_configuration {s : Config} {g : Generator} {e : Error} (h : RunFault s g e) :
    e.isConfiguration = false ∧ e ≠ .emptyWorkload := by
  cases h with
  | retries => exact ⟨rfl, nofun⟩
  | pool => exact ⟨rfl, nofun⟩

theorem RunFault.of_stops {s : Config} {g : Generator} {host : Host} {e : Error}
    (hs : s.Settles g) (h : g.Stops host (.failed e)) : RunFault s g e := by
  cases h with
  | retries hl hb =>
      have hlimit := hs.retryLimit
      rw [hl] at hlimit
      exact .retries hlimit.symm hb
  | pool hp hf =>
      have hpool := hs.parallelism
      rw [hp] at hpool
      exact .pool hpool.symm _

/-- Whatever changes led to a configuration, what is wrong with it is found before any work begins,
and nothing else goes wrong then. What goes wrong later, in whatever order the blocks are worked on, is
the limit on rejections, if one was set, or the pool of workers, if one was asked for. -/
theorem errors_by_phase (s : Config) :
    (∀ e, s.validate = .error e → e.isConfiguration = true) ∧
    (∀ g, s.validate = .ok g →
      (∃ blocks, g.blocks = .ok blocks ∧ blocks.length = g.blockCount.toNat ∧
        ∀ ts e, Reaches g.sampler (blocks.map .start) ts → Collected ts (.error e) → RunFault s g e) ∧
      ∀ host,
        (∀ e, (g.generateEdges host).outcome = .error (.failed e) ∨
            (g.generate host).outcome = .error (.failed e) →
          RunFault s g e ∧ e.isConfiguration = false ∧ e ≠ .emptyWorkload) ∧
        ((g.generateEdges host).outcome = .error .unfinished ∨
            (g.generate host).outcome = .error .unfinished → s.retryLimit = none)) ∧
    ∀ (c : Generate) host e, (c.run host).outcome = .error (.failed e) →
      (e.isConfiguration = true ∧ c.config.validate = .error e) ∨
        ∃ reason threads, e = .workerPool reason ∧ c.parallelism = some threads := by
  refine ⟨s.checks_validate, ?_, ?_⟩
  · intro g hg
    have hset := Config.validate_settles hg
    obtain ⟨blocks, hblocks⟩ := g.exists_blocks
    refine ⟨⟨blocks, hblocks, length_blocks hblocks, fun ts e hts hc => ?_⟩, fun host => ⟨?_, ?_⟩⟩
    · have hstop : g.Stops {} (.failed e) := stops_of_collected hblocks hts hc
      exact .of_stops hset hstop
    · intro e he
      have hf : RunFault s g e := .of_stops hset (he.elim stops_of_generateEdges stops_of_generate)
      exact ⟨hf, hf.not_configuration⟩
    · intro he
      have hlimit := hset.retryLimit
      cases he.elim stops_of_generateEdges stops_of_generate with
      | endless hl =>
          rw [hl] at hlimit
          exact hlimit.symm
  · intro c host e h
    rcases Generate.stop_of_run h with ⟨_, hv, ⟨⟩⟩ | ⟨g, hv, hstop⟩
    · exact .inl ⟨c.config.checks_validate e hv, hv⟩
    · cases RunFault.of_stops (Config.validate_settles hv) hstop with
      | retries hl => exact nomatch hl
      | pool hp reason => exact .inr ⟨reason, _, rfl, hp⟩

/-- Seven edges between five vertices, none of them after more than one rejection. -/
def Config.five : Config where
  vertexCount := 5
  edgeCount := 7
  seed := 7
  maxBlockCount := 1
  retryLimit := some 1

theorem errors_by_phase_five :
    (∃ e, { Config.five with vertexCount := 0 }.validate = .error e ∧ e.isConfiguration = true) ∧
      ∃ g e, Config.five.validate = .ok g ∧ (g.generateEdges {}).outcome = .error (.failed e) ∧
        RunFault Config.five g e ∧ e.isConfiguration = false := by
  have hnone : { Config.five with vertexCount := 0 }.validate = .error (.vertexCount 0) := rfl
  have hfive : Config.five.validate = .ok (five .one) := rfl
  have hw : (five .one).HasWorkers {} := .inl rfl
  have hlt : 3 < (five .one).edgeCount.val.toNat := by decide
  obtain ⟨-, b, -, -, -, hfail⟩ :=
    generateEdges_of_hopeless rfl hw hlt (by decide +kernel) (by decide +kernel)
  obtain ⟨hfault, hconf, -⟩ := (((errors_by_phase _).2.1 _ hfive).2 {}).1 _ (.inl hfail)
  exact ⟨⟨_, hnone, (errors_by_phase _).1 _ hnone⟩, _, _, hfive, hfail, hfault, hconf⟩

end RecursiveMatrix
