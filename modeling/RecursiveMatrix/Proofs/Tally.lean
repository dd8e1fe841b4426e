import RecursiveMatrix.Proofs.Account
import RecursiveMatrix.Proofs.RetryLimit
import RecursiveMatrix.Proofs.Schedule

namespace RecursiveMatrix

theorem Block.Tiles.sum_eq {σ α : Type} {sourceAt : UInt64 → σ} {hi i lo : Nat}
    {blocks : List (Block σ)} {xs : List α} {amount : α → Nat} {f : Nat → Nat}
    (ht : Tiles sourceAt hi i lo blocks)
    (h : List.Forall₂ (fun b x => amount x =
      ((List.range' b.firstElement.toNat b.elementCount.val.toNat).map f).sum) blocks xs) :
    (xs.map amount).sum = ((List.range' lo (hi - lo)).map f).sum := by
  induction ht generalizing xs with
  | nil i =>
      cases h
      rw [Nat.sub_self]
      rfl
  | @cons b bs source rest ih =>
      obtain ⟨x, xs, hx, hxs, rfl⟩ := List.forall₂_cons_left_iff.1 h
      have hle := rest.le
      have hsplit : hi - b.firstElement.toNat = b.elementCount.val.toNat +
          (hi - (b.firstElement.toNat + b.elementCount.val.toNat)) := by omega
      rw [List.map_cons, List.sum_cons, hx, ih hxs, hsplit, ← List.range'_append_1, List.map_append,
        List.sum_append]

namespace Sampler

section AnySource

variable {σ : Type} [Source σ] {z : Sampler} {B n k r patience : Nat} {p : UInt64} {es : Array Edge}
  {s : σ} {e : Edge} {b : Block σ} {batch : Batch}

/-- The candidates of one element, up to the first inside or to the end of the budget. -/
def tries (z : Sampler) : (budget : Nat) → σ → List Edge
  | 0, _ => []
  | budget + 1, s =>
    (z.candidate s).1 ::
      if z.contains (z.candidate s).1 then [] else tries z budget (z.candidate s).2

/-- The candidates of `n` elements, up to the first that finds no edge. -/
def trail (z : Sampler) (budget : Nat) : (n : Nat) → (position : UInt64) → σ → List Edge
  | 0, _, _ => []
  | n + 1, position, s =>
    let drawn := z.tries budget (beginElement s position)
    drawn ++ if drawn.any z.contains
      then trail z budget n (position + 1) (z.after drawn.length (beginElement s position)) else []

/-- All the candidates that are drawn for a block. -/
def drawnFor (z : Sampler) (patience : Nat) (b : Block σ) : List Edge :=
  z.trail (z.budget patience) b.elementCount.val.toNat b.firstElement b.source

def outside (z : Sampler) (e : Edge) : Bool := !z.contains e

theorem tries_of_rejects (h : z.Rejects B s) :
    (z.tries B s).length = B ∧ (z.tries B s).any z.contains = false ∧
      (z.tries B s).filter z.contains = [] ∧ (z.tries B s).countP z.outside = B := by
  induction B generalizing s with
  | zero => exact ⟨rfl, rfl, rfl, rfl⟩
  | succ B ih =>
      obtain ⟨h0, h⟩ := rejects_succ.1 h
      obtain ⟨hlen, hany, hfilter, hcount⟩ := ih h
      simp [tries, outside, h0, hlen, hany, hfilter]
      exact hcount

theorem tries_of_accepts (h : z.Accepts k s e) (hk : k < B) :
    (z.tries B s).length = k + 1 ∧ (z.tries B s).any z.contains = true ∧
      (z.tries B s).filter z.contains = [e] ∧ (z.tries B s).countP z.outside = k := by
  induction k generalizing B s with
  | zero =>
      obtain ⟨B, rfl⟩ := Nat.exists_eq_succ_of_ne_zero (Nat.ne_zero_of_lt hk)
      have he : (z.candidate s).1 = e := h.nth_eq
      simp [tries, outside, he, h.inside]
  | succ k ih =>
      obtain ⟨B, rfl⟩ := Nat.exists_eq_succ_of_ne_zero (Nat.ne_zero_of_lt hk)
      obtain ⟨h0, h⟩ := accepts_succ.1 h
      obtain ⟨hlen, hany, hfilter, hcount⟩ := ih h (Nat.lt_of_succ_lt_succ hk)
      simp [tries, outside, h0, hlen, hany, hfilter]
      exact hcount

/-- Complete or not, a sweep keeps the candidates inside, in the order they are drawn, and counts the
others, each once. -/
theorem sweepFrom_trail (z : Sampler) (B n : Nat) (p : UInt64) (es : Array Edge) (r : Nat) (s : σ) :
    (z.sweepFrom B n p es r s).edges.toList = es.toList ++ (z.trail B n p s).filter z.contains ∧
      (z.sweepFrom B n p es r s).rejected = r + (z.trail B n p s).countP z.outside := by
  induction n generalizing p es r s with
  | zero => exact ⟨(List.append_nil _).symm, rfl⟩
  | succ n ih =>
      rcases rejects_or_accepts z B (beginElement s p) with hr | ⟨k, e, hk, ha⟩
      · obtain ⟨-, hany, hfilter, hcount⟩ := tries_of_rejects hr
        rw [sweepFrom_of_rejects hr, trail, hany, if_neg Bool.false_ne_true, List.append_nil, hfilter,
          hcount, List.append_nil]
        exact ⟨rfl, rfl⟩
      · obtain ⟨hlen, hany, hfilter, hcount⟩ := tries_of_accepts ha hk
        obtain ⟨hedges, hrejected⟩ := ih (p + 1) (es.push e) (r + k)
          (z.after (k + 1) (beginElement s p))
        rw [sweepFrom_of_accepts ha hk, trail, hany, if_pos rfl, hlen, List.filter_append, hfilter,
          List.countP_append, hcount, hedges, hrejected, Array.toList_push]
        exact ⟨List.append_assoc .., Nat.add_assoc ..⟩

theorem sample_drawn (h : z.sample patience b = .ok batch) :
    batch.edges = (z.drawnFor patience b).filter z.contains ∧
      batch.rejected = (z.drawnFor patience b).countP z.outside := by
  obtain ⟨-, rfl⟩ := sample_eq_ok_iff.1 h
  obtain ⟨hedges, hrejected⟩ := sweepFrom_trail z (z.budget patience) b.elementCount.val.toNat
    b.firstElement #[] 0 b.source
  exact ⟨hedges, hrejected.trans (Nat.zero_add _)⟩

end AnySource

variable {z : Sampler} {seed : UInt64} {hi i lo patience : Nat} {blocks : List (Block KeyedStream)}

theorem sum_ones (lo n : Nat) : n = ((List.range' lo n).map fun _ => 1).sum := by
  rw [List.map_const', List.length_range', List.sum_replicate_nat, Nat.mul_one]

theorem total_of_tiles {done : List (Block KeyedStream × Batch)}
    (ht : Block.Tiles (KeyedStream.positioned seed) hi i lo (done.map Prod.fst))
    (h : z.Completes patience done) :
    total done = ⟨hi - lo, ((List.range' lo (hi - lo)).map (z.rejectionsAt seed)).sum, 0⟩ := by
  have hgenerated : (done.map fun d => d.1.elementCount.val.toNat).sum = hi - lo := by
    rw [sum_ones lo (hi - lo)]
    exact ht.sum_eq (List.forall₂_map_left_iff.2 (List.forall₂_same.2 fun d _ => sum_ones ..))
  have hrejected : (done.map fun d => d.2.rejected).sum =
      ((List.range' lo (hi - lo)).map (z.rejectionsAt seed)).sum := by
    refine ht.sum_eq (List.forall₂_map_left_iff.2 (List.forall₂_same.2 fun d hd => ?_))
    exact sample_rejected (ht.source_of_mem (List.mem_map_of_mem hd)) (h d hd)
  rw [total, hgenerated, hrejected]

open Work in
/-- Whoever has done the work and in whatever order, once it is done the elements have been counted
one by one. -/
theorem finished_of_tiles {ts : List (Work KeyedStream)}
    (ht : Block.Tiles (KeyedStream.positioned seed) hi i lo blocks)
    (hs : List.Forall₂ (Isolated z) blocks ts) (h : ∀ t ∈ ts, t.phase = .finished) :
    (ts.map (·.edges.size)).sum = hi - lo ∧
      (ts.map (·.rejected)).sum = ((List.range' lo (hi - lo)).map (z.rejectionsAt seed)).sum := by
  have hended : List.Forall₂ (fun b t => b.source = .positioned seed b.firstElement ∧
      t.phase = .finished ∧ Isolated z b t) blocks ts := by
    have hfinished := (List.forall₂_and_left _ _).2 ⟨h, List.Forall₂.flip hs⟩
    exact (List.forall₂_and_left _ _).2 ⟨fun b hb => ht.source_of_mem hb, hfinished.flip⟩
  constructor
  · rw [sum_ones lo (hi - lo)]
    refine ht.sum_eq (hended.imp fun b t hb => ?_)
    obtain ⟨-, hfinished, hiso⟩ := hb
    obtain ⟨patience, batch, hbatch, hedges, -⟩ := hiso.of_finished hfinished
    rw [← Array.length_toList, hedges, (sample_sound hbatch).1]
    exact sum_ones ..
  · refine ht.sum_eq (hended.imp fun b t hb => ?_)
    obtain ⟨hsource, hfinished, hiso⟩ := hb
    obtain ⟨patience, batch, hbatch, -, hrejected⟩ := hiso.of_finished hfinished
    rw [hrejected, sample_rejected hsource hbatch]

end Sampler

namespace Generator

open Sampler

variable {g g' : Generator} {host : Host} {edges : List Edge} {stop : Stop}

/-- The candidates that fall outside before each element finds its edge, over all the elements. -/
noncomputable def outOfRange (g : Generator) : Nat :=
  ((List.range g.edgeCount.val.toNat).map (g.sampler.rejectionsAt g.seed)).sum

noncomputable def tally (g : Generator) : Counters :=
  ⟨g.edgeCount.val.toNat, g.outOfRange, g.blockCount.toNat⟩

theorem outOfRange_alike (hz : g.sampler.Alike g'.sampler) (hseed : g.seed = g'.seed)
    (hn : g.edgeCount = g'.edgeCount) : g.outOfRange = g'.outOfRange := by
  have hrejections : g.sampler.rejectionsAt g.seed = g'.sampler.rejectionsAt g'.seed := by
    rw [hseed]
    exact funext fun _ => hz.rejections_eq _
  rw [outOfRange, outOfRange, hrejections, hn]

theorem runBlocks_counters_of_ok (h : (g.runBlocks host).outcome = .ok edges) :
    (g.runBlocks host).counters = g.tally := by
  obtain ⟨blocks, hblocks⟩ := g.exists_blocks
  have hrun := (runBlocks_outcome hblocks).symm.trans h
  rw [runBlocks_eq_of_ok hblocks hrun]
  rcases completes_or_stops g.sampler host.patience blocks with
    ⟨done, rfl, hdone⟩ | ⟨done, b, after, stop, rfl, hdone, hb⟩
  · rw [runBlocks_of_completes hdone, total_of_tiles (blocks_tile hblocks) hdone, tally, outOfRange,
      length_blocks hblocks, Nat.sub_zero, List.range_eq_range']
    exact congrArg (Counters.mk _ _) (Nat.zero_add _)
  · rw [runBlocks_of_stop hdone hb] at hrun
    cases hrun

theorem runBlocks_counters_of_error (h : (g.runBlocks host).outcome = .error stop) :
    (g.runBlocks host).counters.blocks = 0 := by
  obtain ⟨blocks, hblocks⟩ := g.exists_blocks
  have hrun := (runBlocks_outcome hblocks).symm.trans h
  rw [runBlocks_eq_of_error hblocks hrun]
  rcases completes_or_stops g.sampler host.patience blocks with
    ⟨done, rfl, hdone⟩ | ⟨done, b, after, stop', rfl, hdone, hb⟩
  · rw [runBlocks_of_completes hdone] at hrun
    cases hrun
  · rw [runBlocks_of_stop hdone hb]
    rfl

theorem generate_counters (g : Generator) (host : Host) :
    (g.generate host).counters = (g.generateEdges host).counters := by
  have hcount (r : Run Graph) : (r.telling drawn).counters = r.counters := by
    cases h : r.outcome with
    | error stop => rw [Run.telling_of_error h]
    | ok x => rw [Run.telling_of_ok h]
  rw [generate_eq]
  change (Run.telling drawn _).counters = (g.inPool host (g.runBlocks host)).counters
  rw [hcount]
  unfold inPool
  split
  · rw [Run.map_eq]
  · rw [Run.map_eq]
    rfl
  · rfl

theorem generateEdges_counters_of_ok (h : (g.generateEdges host).outcome = .ok edges) :
    (g.generateEdges host).counters = g.tally :=
  (inPool_counters (hasWorkers_of_generateEdges h) _).trans
    (runBlocks_counters_of_ok (runBlocks_of_generateEdges h))

theorem generateEdges_counters_of_error (h : (g.generateEdges host).outcome = .error stop) :
    (g.generateEdges host).counters.blocks = 0 := by
  rcases g.inPool_cases (α := List Edge) host with hw | ⟨threads, reason, -, -, hpool⟩
  · rw [generateEdges_outcome hw] at h
    exact (congrArg Counters.blocks (inPool_counters hw _)).trans (runBlocks_counters_of_error h)
  · change (g.inPool host (g.runBlocks host)).counters.blocks = 0
    rw [hpool]

theorem exists_generateEdges_of_generate {x : Graph} (h : (g.generate host).outcome = .ok x) :
    ∃ edges, (g.generateEdges host).outcome = .ok edges := by
  rw [generate_outcome] at h
  cases he : (g.generateEdges host).outcome with
  | ok edges => exact ⟨edges, rfl⟩
  | error stop =>
      rw [he] at h
      cases h

theorem generateEdges_of_generate_error (h : (g.generate host).outcome = .error stop) :
    (g.generateEdges host).outcome = .error stop := by
  rw [generate_outcome] at h
  cases he : (g.generateEdges host).outcome with
  | error stop' =>
      rw [he] at h
      cases h
      rfl
  | ok edges =>
      rw [he] at h
      cases h

theorem accepts_of_generateEdges (h : (g.generateEdges host).outcome = .ok edges) {j : Nat}
    (hj : j < g.edgeCount.val.toNat) :
    ∃ e, g.sampler.Accepts (g.sampler.rejectionsAt g.seed j) (freshAt g.seed j) e := by
  have hget := (enumerates_of_generateEdges h).getElem? hj
  rw [List.getElem?_eq_getElem ((enumerates_of_generateEdges h).length.symm ▸ hj)] at hget
  obtain ⟨k, ha⟩ := edgeAt_eq_some_iff.1 hget.symm
  exact ⟨_, (rejectionsAt_of_accepts ha).symm ▸ accepts_streamAt_iff.1 ha⟩

end Generator

open Generator Sampler

/-- A block that is finished counts its edges and the candidates drawn for it that fall outside, one
that is not counts nothing, and neither counts blocks. A run counts the blocks only when it succeeds.
What it counts then hangs on the elements alone, but for the number of blocks. -/
theorem counters_agree_with_work :
    (∀ (σ : Type) [Source σ] (z : Sampler) (b : Block σ) (patience : Nat),
      let r := z.report b (z.sweep patience b)
      (∀ batch, r.outcome = .ok batch →
        batch.edges = (z.drawnFor patience b).filter z.contains ∧
        batch.edges.length = b.elementCount.val.toNat ∧
        r.counters = ⟨batch.edges.length, (z.drawnFor patience b).countP z.outside, 0⟩) ∧
      ∀ stop, r.outcome = .error stop → r.counters = {}) ∧
    ∀ (g : Generator) (host : Host),
      ((∃ edges, (g.generateEdges host).outcome = .ok edges) ∨
          (∃ x, (g.generate host).outcome = .ok x) →
        (∀ j < g.edgeCount.val.toNat,
          ∃ e, g.sampler.Accepts (g.sampler.rejectionsAt g.seed j) (freshAt g.seed j) e) ∧
        (g.generateEdges host).counters = ⟨g.edgeCount.val.toNat, g.outOfRange, g.blockCount.toNat⟩ ∧
        (g.generate host).counters = ⟨g.edgeCount.val.toNat, g.outOfRange, g.blockCount.toNat⟩) ∧
      (∀ stop, (g.generateEdges host).outcome = .error stop ∨ (g.generate host).outcome = .error stop →
        (g.generateEdges host).counters.blocks = 0 ∧ (g.generate host).counters.blocks = 0) ∧
      (∀ (g' : Generator) host' edges edges', g.sampler.Alike g'.sampler → g.seed = g'.seed →
        g.edgeCount = g'.edgeCount → (g.generateEdges host).outcome = .ok edges →
        (g'.generateEdges host').outcome = .ok edges' →
        (g.generateEdges host).counters.generated = (g'.generateEdges host').counters.generated ∧
        (g.generateEdges host).counters.rejected = (g'.generateEdges host').counters.rejected) ∧
      ∀ blocks ts, g.blocks = .ok blocks → Reaches g.sampler (blocks.map .start) ts →
        (∀ t ∈ ts, t.phase = .finished) →
        (ts.map (·.edges.size)).sum = g.edgeCount.val.toNat ∧
        (ts.map (·.rejected)).sum = g.outOfRange := by
  refine ⟨?_, fun g host => ⟨?_, ?_, ?_, ?_⟩⟩
  · intro σ _ z b patience
    refine ⟨fun batch hbatch => ?_, fun stop hstop => (report_of_error hstop).2⟩
    have hsample : z.sample patience b = .ok batch := hbatch
    obtain ⟨hedges, hrejected⟩ := sample_drawn hsample
    have hlen := (sample_sound hsample).1
    refine ⟨hedges, hlen, ?_⟩
    rw [report_of_ok hsample, hlen, hrejected]
  · intro h
    obtain ⟨edges, hedges⟩ : ∃ edges, (g.generateEdges host).outcome = .ok edges :=
      h.elim id fun ⟨x, hx⟩ => exists_generateEdges_of_generate hx
    rw [g.generate_counters]
    have hcount := generateEdges_counters_of_ok hedges
    exact ⟨fun j hj => accepts_of_generateEdges hedges hj, hcount, hcount⟩
  · intro stop h
    have hstop : (g.generateEdges host).outcome = .error stop := h.elim id generateEdges_of_generate_error
    rw [g.generate_counters]
    have hcount := generateEdges_counters_of_error hstop
    exact ⟨hcount, hcount⟩
  · intro g' host' edges edges' hz hseed hn h h'
    rw [generateEdges_counters_of_ok h, generateEdges_counters_of_ok h', tally, tally,
      outOfRange_alike hz hseed hn, hn]
    exact ⟨rfl, rfl⟩
  · intro blocks ts hblocks hreach hfinished
    rw [outOfRange, List.range_eq_range']
    exact finished_of_tiles (blocks_tile hblocks) hreach.isolated hfinished

def Generator.lone : Block KeyedStream := ⟨0, 1, 0, (five .one).edgeCount, .positioned 7 0⟩

/-- Two candidates fall outside, and with a limit of one the second of them is the end. -/
theorem counters_agree_with_work_five :
    ∃ edges, (five ⟨2, by decide⟩).blocks = .ok [lone] ∧
      ((five ⟨2, by decide⟩).generateEdges {}).outcome = .ok edges ∧
      ((five ⟨2, by decide⟩).sampler.report lone ((five ⟨2, by decide⟩).sampler.sweep 0 lone)).counters =
        ⟨7, 2, 0⟩ ∧
      ((five .one).sampler.report lone ((five .one).sampler.sweep 0 lone)).counters = {} ∧
      ((five ⟨2, by decide⟩).generateEdges {}).counters = ⟨7, (five ⟨2, by decide⟩).outOfRange, 1⟩ ∧
      ((five .one).generateEdges {}).counters.blocks = 0 ∧
      ((five ⟨2, by decide⟩).generateEdges {}).counters.rejected =
        ((five ⟨3, by decide⟩).generateEdges {}).counters.rejected ∧
      ∃ t, Reaches (five ⟨2, by decide⟩).sampler [.start lone] [t] ∧ t.phase = .finished ∧
        t.rejected = (five ⟨2, by decide⟩).outOfRange := by
  have hblocks : (five ⟨2, by decide⟩).blocks = .ok [lone] := rfl
  have hcomplete : ((five ⟨2, by decide⟩).sampler.sweep 0 lone).complete = true := by decide +kernel
  have hshort : ((five .one).sampler.sweep 0 lone).complete = false := by decide +kernel
  have hout : ((five ⟨2, by decide⟩).sampler.drawnFor 0 lone).countP
      (five ⟨2, by decide⟩).sampler.outside = 2 := by decide +kernel
  have hsample := sample_eq_ok_iff.2 ⟨hcomplete, rfl⟩
  have hedges : ∃ edges, ((five ⟨2, by decide⟩).generateEdges {}).outcome = .ok edges := by
    refine generateEdges_of_hopeful (.inl rfl) ?_
    decide +kernel
  have hedges' : ∃ edges, ((five ⟨3, by decide⟩).generateEdges {}).outcome = .ok edges := by
    refine generateEdges_of_hopeful (.inl rfl) ?_
    decide +kernel
  obtain ⟨edges, hedges⟩ := hedges
  obtain ⟨edges', hedges'⟩ := hedges'
  have hw : (five .one).HasWorkers {} := .inl rfl
  have hlt : 3 < (five .one).edgeCount.val.toNat := by decide
  obtain ⟨-, stuck, -, -, -, hfail⟩ :=
    generateEdges_of_hopeless rfl hw hlt (by decide +kernel) (by decide +kernel)
  obtain ⟨hblock, hruns⟩ := counters_agree_with_work
  have hreport : ((five ⟨2, by decide⟩).sampler.report lone
      ((five ⟨2, by decide⟩).sampler.sweep 0 lone)).outcome = .ok _ := hsample
  obtain ⟨-, hlen, hcounters⟩ := (hblock _ _ lone 0).1 _ hreport
  obtain ⟨hok, -, hsame, hwork⟩ := hruns (five ⟨2, by decide⟩) {}
  obtain ⟨-, herror, -⟩ := hruns (five .one) {}
  have halike : (five ⟨2, by decide⟩).sampler.Alike (five ⟨3, by decide⟩).sampler := ⟨rfl, rfl, .inl rfl⟩
  obtain ⟨-, hrejected⟩ := hsame _ {} _ _ halike rfl rfl hedges hedges'
  obtain ⟨k, hphase, -⟩ := Work.finished_of_sample hsample
  have hreach := reaches_iterate (z := (five ⟨2, by decide⟩).sampler) k (.start lone) []
  obtain ⟨-, hwork⟩ := hwork [lone] _ hblocks hreach fun t ht => List.mem_singleton.1 ht ▸ hphase
  refine ⟨edges, hblocks, hedges, ?_, ?_, (hok (.inl ⟨edges, hedges⟩)).2.1,
    (herror _ (.inl hfail)).1, hrejected, _, hreach, hphase, hwork⟩
  · rw [hcounters, hlen, hout]
    rfl
  · exact (hblock _ (five .one).sampler lone 0).2 _ (sample_eq_error_iff.2 ⟨hshort, rfl⟩)

end RecursiveMatrix
