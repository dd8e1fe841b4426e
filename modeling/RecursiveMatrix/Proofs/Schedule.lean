import Mathlib.Logic.Relation
import RecursiveMatrix.Proofs.LayoutFree
import RecursiveMatrix.Proofs.Work

namespace RecursiveMatrix

variable {σ : Type}

namespace Work

variable [Source σ] {z : Sampler} {b : Block σ} {t : Work σ}

/-- The work is where its block gets to when no other is worked on. -/
def Isolated (z : Sampler) (b : Block σ) (t : Work σ) : Prop := ∃ k, (step z)^[k] (start b) = t

theorem Isolated.step (h : Isolated z b t) : Isolated z b (t.step z) := by
  obtain ⟨k, rfl⟩ := h
  exact ⟨k + 1, Function.iterate_succ_apply' ..⟩

theorem Isolated.finished {patience : Nat} {batch : Batch} (h : Isolated z b t) (ht : t.Ended)
    (hs : z.sample patience b = .ok batch) :
    t.phase = .finished ∧ t.edges.toList = batch.edges ∧ t.rejected = batch.rejected := by
  obtain ⟨k, rfl⟩ := h
  obtain ⟨l, hl, hleft⟩ := finished_of_sample hs
  rw [ended_unique ht (.inl hl)]
  exact ⟨hl, hleft⟩

theorem Isolated.failed {patience : Nat} {fault : Error} (h : Isolated z b t) (ht : t.Ended)
    (hs : z.sample patience b = .error (.failed fault)) : t.phase = .failed fault := by
  obtain ⟨k, rfl⟩ := h
  obtain ⟨l, hl⟩ := failed_of_sample hs
  rw [ended_unique ht (.inr ⟨fault, hl⟩)]
  exact hl

theorem Isolated.of_finished (h : Isolated z b t) (ht : t.phase = .finished) :
    ∃ patience batch, z.sample patience b = .ok batch ∧ t.edges.toList = batch.edges ∧
      t.rejected = batch.rejected := by
  obtain ⟨k, rfl⟩ := id h
  obtain ⟨batch, hbatch⟩ := sample_of_finished ht (Nat.lt_succ_self k)
  exact ⟨k + 1, batch, hbatch, (h.finished (.inl ht) hbatch).2⟩

end Work

open Work (Isolated)

/-- What is collected: all the edges, each block's in its place, or the error of any block that has
failed, wherever the others stand. -/
inductive Collected : List (Work σ) → Except Error (List Edge) → Prop
  | edges {ts} (h : ∀ t ∈ ts, t.phase = .finished) :
      Collected ts (.ok (ts.flatMap fun t => t.edges.toList))
  | fault {ts t e} (ht : t ∈ ts) (h : t.phase = .failed e) : Collected ts (.error e)

theorem exists_related {α β : Type} {R : α → β → Prop} {as : List α} {bs : List β}
    (h : List.Forall₂ R as bs) {a : α} (ha : a ∈ as) : ∃ b ∈ bs, R a b := by
  induction h with
  | nil => exact absurd ha List.not_mem_nil
  | @cons a' b as bs hab _ ih =>
      rcases List.mem_cons.1 ha with rfl | ha
      · exact ⟨b, List.mem_cons_self, hab⟩
      · obtain ⟨b', hb', h⟩ := ih ha
        exact ⟨b', List.mem_cons_of_mem _ hb', h⟩

theorem exists_collected {ts : List (Work σ)} (h : ∀ t ∈ ts, t.Ended) : ∃ r, Collected ts r := by
  by_cases hall : ∀ t ∈ ts, t.phase = .finished
  · exact ⟨_, .edges hall⟩
  · simp only [not_forall] at hall
    obtain ⟨t, ht, hphase⟩ := hall
    obtain ⟨e, he⟩ := (h t ht).resolve_left hphase
    exact ⟨_, .fault ht he⟩

variable [Source σ]

/-- Some worker takes up one block that is not at its end. Which block it is, is left open. -/
inductive Advance (z : Sampler) : List (Work σ) → List (Work σ) → Prop
  | here {t} (ts) (h : ¬ t.Ended) : Advance z (t :: ts) (t.step z :: ts)
  | there (t) {ts ts'} (h : Advance z ts ts') : Advance z (t :: ts) (t :: ts')

def Reaches (z : Sampler) : List (Work σ) → List (Work σ) → Prop := Relation.ReflTransGen (Advance z)

variable {z : Sampler} {ts ts' : List (Work σ)} {blocks : List (Block σ)}

/-- A step on one block leaves each block where it would be on its own. -/
theorem Advance.isolated (h : Advance z ts ts') (hs : List.Forall₂ (Isolated z) blocks ts) :
    List.Forall₂ (Isolated z) blocks ts' := by
  induction h generalizing blocks with
  | here ts hunended =>
      obtain ⟨b, blocks, hb, hrest, rfl⟩ := List.forall₂_cons_right_iff.1 hs
      exact .cons hb.step hrest
  | there t h ih =>
      obtain ⟨b, blocks, hb, hrest, rfl⟩ := List.forall₂_cons_right_iff.1 hs
      exact .cons hb (ih hrest)

theorem Reaches.isolated (h : Reaches z (blocks.map .start) ts) :
    List.Forall₂ (Isolated z) blocks ts := by
  induction h with
  | refl => exact List.forall₂_map_right_iff.2 (List.forall₂_same.2 fun b _ => ⟨0, rfl⟩)
  | tail _ hstep ih => exact hstep.isolated ih

theorem Reaches.there (t : Work σ) (h : Reaches z ts ts') : Reaches z (t :: ts) (t :: ts') :=
  Relation.ReflTransGen.lift (t :: ·) (fun _ _ => Advance.there t) _ _ h

theorem reaches_iterate (k : Nat) (t : Work σ) (ts : List (Work σ)) :
    Reaches z (t :: ts) ((Work.step z)^[k] t :: ts) := by
  induction k generalizing t with
  | zero => exact .refl
  | succ k ih =>
      by_cases ht : t.Ended
      · rw [Function.iterate_fixed (Work.step_ended ht)]
        exact .refl
      · exact .head (.here ts ht) (ih (t.step z))

theorem exists_settled (hs : List.Forall₂ (Isolated z) blocks ts)
    (h : ∀ b ∈ blocks, ∃ k, ((Work.step z)^[k] (.start b)).Ended) :
    ∃ ts', Reaches z ts ts' ∧ ∀ t ∈ ts', t.Ended := by
  induction hs with
  | nil => exact ⟨[], .refl, fun _ ht => absurd ht List.not_mem_nil⟩
  | @cons b t blocks ts hb _ ih =>
      obtain ⟨ts', hreach, hended⟩ := ih fun b' hb' => h b' (List.mem_cons_of_mem _ hb')
      obtain ⟨k, rfl⟩ := hb
      obtain ⟨l, hl⟩ := h b List.mem_cons_self
      refine ⟨_, .trans (reaches_iterate l _ ts) (hreach.there _), ?_⟩
      intro t ht
      rcases List.mem_cons.1 ht with rfl | ht
      · rw [← Function.iterate_add_apply, Work.iterate_ended hl (Nat.le_add_right l k)]
        exact hl
      · exact hended t ht

variable {batches : List Batch} {patience : Nat}

theorem exists_patience (hs : List.Forall₂ (Isolated z) blocks ts) (h : ∀ t ∈ ts, t.phase = .finished) :
    ∃ least, ∀ patience ≥ least, ∃ batches,
      List.Forall₂ (fun b batch => z.sample patience b = .ok batch) blocks batches := by
  induction hs with
  | nil => exact ⟨0, fun _ _ => ⟨[], .nil⟩⟩
  | @cons b t blocks ts hb _ ih =>
      obtain ⟨least, hrest⟩ := ih fun t' ht' => h t' (List.mem_cons_of_mem _ ht')
      obtain ⟨k, rfl⟩ := hb
      -- the slowest block sets the patience that all of them need
      refine ⟨max (k + 1) least, fun patience hp => ?_⟩
      obtain ⟨batches, hbatches⟩ := hrest patience (Nat.le_trans (Nat.le_max_right ..) hp)
      obtain ⟨batch, hbatch⟩ := Work.sample_of_finished (h _ List.mem_cons_self)
        (Nat.le_trans (Nat.le_max_left ..) hp)
      exact ⟨batch :: batches, .cons hbatch hbatches⟩

theorem edges_of_batches (hs : List.Forall₂ (Isolated z) blocks ts) (h : ∀ t ∈ ts, t.phase = .finished)
    (hb : List.Forall₂ (fun b batch => z.sample patience b = .ok batch) blocks batches) :
    (ts.flatMap fun t => t.edges.toList) = batches.flatMap Batch.edges := by
  induction hs generalizing batches with
  | nil =>
      cases hb
      rfl
  | @cons b t blocks ts hiso _ ih =>
      obtain ⟨batch, batches, hbatch, hbatches, rfl⟩ := List.forall₂_cons_left_iff.1 hb
      have hended : t.Ended := .inl (h t List.mem_cons_self)
      rw [List.flatMap_cons, List.flatMap_cons, (hiso.finished hended hbatch).2.1,
        ih (fun t' ht' => h t' (List.mem_cons_of_mem _ ht')) hbatches]

variable {r : Except Error (List Edge)} {edges : List Edge} {e : Error}

theorem runBlocks_of_collected (hs : List.Forall₂ (Isolated z) blocks ts) (h : Collected ts (.ok edges)) :
    ∃ least, ∀ patience ≥ least, (z.runBlocks patience blocks {}).outcome = .ok edges := by
  cases h with
  | edges h =>
      obtain ⟨least, hall⟩ := exists_patience hs h
      refine ⟨least, fun patience hp => Sampler.runBlocks_eq_ok_iff.2 ?_⟩
      obtain ⟨batches, hbatches⟩ := hall patience hp
      exact ⟨batches, hbatches, edges_of_batches hs h hbatches⟩

theorem sample_of_collected (hs : List.Forall₂ (Isolated z) blocks ts) (h : Collected ts (.error e)) :
    ∃ limit, z.retryLimit = some limit ∧ ∃ b ∈ blocks, e = .retriesExhausted b.index limit.val ∧
      ∀ patience, z.sample patience b = .error (.failed e) := by
  cases h with
  | fault ht hphase =>
      obtain ⟨b, hb, k, rfl⟩ := exists_related (List.Forall₂.flip hs) ht
      obtain ⟨limit, hl, he, hfail⟩ := Work.sample_of_failed hphase
      exact ⟨limit, hl, b, hb, he, hfail⟩

theorem collected_of_sample (hs : List.Forall₂ (Isolated z) blocks ts) {b : Block σ} (hb : b ∈ blocks)
    (hfail : z.sample patience b = .error (.failed e)) (h : Collected ts r) : ∃ e', r = .error e' := by
  cases h with
  | edges h =>
      obtain ⟨t, ht, hiso⟩ := exists_related hs hb
      have hphase := hiso.failed (.inl (h t ht)) hfail
      rw [h t ht] at hphase
      exact nomatch hphase
  | fault => exact ⟨_, rfl⟩

theorem collected_of_runBlocks (hs : List.Forall₂ (Isolated z) blocks ts)
    (hrun : (z.runBlocks patience blocks {}).outcome = .ok edges) (h : Collected ts r) :
    r = .ok edges := by
  obtain ⟨batches, hbatches, rfl⟩ := Sampler.runBlocks_eq_ok_iff.1 hrun
  cases h with
  | edges h =>
      rw [edges_of_batches hs h hbatches]
      rfl
  | fault ht hphase =>
      obtain ⟨-, -, b, hb, -, hfail⟩ := sample_of_collected hs (.fault ht hphase)
      obtain ⟨batch, -, hok⟩ := exists_related hbatches hb
      rw [hfail] at hok
      exact nomatch hok

theorem exists_ended_of_runBlocks (h : (z.runBlocks patience blocks {}).outcome ≠ .error .unfinished)
    {b : Block σ} (hb : b ∈ blocks) : ∃ k, ((Work.step z)^[k] (.start b)).Ended := by
  have hsome : z.sample patience b ≠ .error .unfinished := by
    intro hs
    cases hrun : (z.runBlocks patience blocks {}).outcome with
    | ok edges =>
        obtain ⟨batches, hbatches, -⟩ := Sampler.runBlocks_eq_ok_iff.1 hrun
        obtain ⟨batch, -, hok⟩ := exists_related hbatches hb
        rw [hs] at hok
        exact nomatch hok
    | error stop =>
        obtain ⟨b', -, hstop, -⟩ := Sampler.exists_of_runBlocks_error hrun
        have hnone := (Sampler.sample_eq_error_iff.1 hs).2
        cases hlim : z.retryLimit with
        | none =>
            rw [Sampler.stop_of_none hlim] at hstop
            exact h (hstop ▸ hrun)
        | some limit =>
            rw [Sampler.stop_of_limit hlim] at hnone
            exact nomatch hnone
  exact Work.exists_ended hsome

/-- However the work on the blocks is interleaved, what is collected in the end is what the blocks
come to one after the other, and an error is that of a block that fails on its own as well. Unless the
patience runs out on the blocks alone, no interleaving can miss its end. -/
theorem schedule_independent (g : Generator) (blocks : List (Block KeyedStream))
    (hb : g.blocks = .ok blocks) (ts : List (Work KeyedStream))
    (h : Reaches g.sampler (blocks.map .start) ts) :
    (∀ edges, Collected ts (.ok edges) → ∃ least, ∀ host : Host, host.patience ≥ least →
      (g.runBlocks host).outcome = .ok edges) ∧
    (∀ e, Collected ts (.error e) → ∃ limit, g.sampler.retryLimit = some limit ∧
      (∃ b ∈ blocks, e = .retriesExhausted b.index limit.val ∧
        ∀ patience, g.sampler.sample patience b = .error (.failed e)) ∧
      ∀ host, ∃ e', (g.runBlocks host).outcome = .error (.failed e')) ∧
    (∀ host r, Collected ts r →
      (∀ edges, (g.runBlocks host).outcome = .ok edges → r = .ok edges) ∧
      ∀ e, (g.runBlocks host).outcome = .error (.failed e) → ∃ e', r = .error e') ∧
    ((∀ t ∈ ts, t.Ended) → ∃ r, Collected ts r) ∧
    ∀ host, (g.runBlocks host).outcome ≠ .error .unfinished →
      ∃ ts', Reaches g.sampler ts ts' ∧ ∀ t ∈ ts', t.Ended := by
  have hs := h.isolated
  simp only [Generator.runBlocks_outcome hb]
  refine ⟨?_, ?_, ?_, exists_collected, ?_⟩
  · intro edges hc
    obtain ⟨least, hall⟩ := runBlocks_of_collected hs hc
    exact ⟨least, fun host => hall host.patience⟩
  · intro e hc
    obtain ⟨limit, hl, hfail⟩ := sample_of_collected hs hc
    refine ⟨limit, hl, hfail, fun host => ?_⟩
    cases hrun : (g.sampler.runBlocks host.patience blocks {}).outcome with
    | ok edges => exact nomatch collected_of_runBlocks hs hrun hc
    | error stop =>
        obtain ⟨b, -, hstop, -⟩ := Sampler.exists_of_runBlocks_error hrun
        rw [hstop, Sampler.stop_of_limit hl]
        exact ⟨_, rfl⟩
  · intro host r hc
    refine ⟨fun edges hrun => collected_of_runBlocks hs hrun hc, fun e hrun => ?_⟩
    obtain ⟨b, hmem, -, hfail⟩ := Sampler.exists_of_runBlocks_error hrun
    exact collected_of_sample hs hmem hfail hc
  · intro host hrun
    exact exists_settled hs fun b => exists_ended_of_runBlocks hrun

/-- Two blocks of edges that all fall into the last corner, outside. -/
def Generator.outside : Generator where
  edgeCount := ⟨0x80001, by decide⟩
  sampler :=
    { vertexCount := ⟨3, by decide⟩, probabilities := ⟨0, 0, 0, by decide, by decide, by decide⟩,
      noise := .disabled, retryLimit := some .one }
  seed := 7
  parallelism := none
  maxBlockCount := ⟨2, by decide⟩

/-- Here the second block fails first, where one after the other it is not even begun. -/
theorem schedule_independent_outside :
    ∃ blocks ts, Generator.outside.blocks = .ok blocks ∧
      Reaches Generator.outside.sampler (blocks.map .start) ts ∧
      Collected ts (.error (.retriesExhausted 1 1)) ∧
      (∃ b ∈ blocks, Error.retriesExhausted 1 1 = .retriesExhausted b.index 1) ∧
      ∃ e, (Generator.outside.runBlocks {}).outcome = .error (.failed e) := by
  let z := Generator.outside.sampler
  let first : Work KeyedStream := .start ⟨0, 2, 0, ⟨0x40001, by decide⟩, .positioned 7 0⟩
  let second : Work KeyedStream := .start ⟨1, 2, 0x40001, ⟨0x40000, by decide⟩, .positioned 7 0x40001⟩
  have hreach : Reaches z [first, second] [(Work.step z)^[1] first, (Work.step z)^[3] second] :=
    .trans ((reaches_iterate 3 second []).there first) (reaches_iterate 1 first _)
  have hdrawing : ∀ i < 2, z.verdict second.block i = .drawing := fun i hi =>
    z.verdict_of_lt_budget second.block (show i < z.budget 0 from hi)
  have hrejects : z.Rejects 2 second.opened.source := by decide +kernel
  have hphase : ((Work.step z)^[3] second).phase = z.verdict second.block 2 :=
    Work.iterate_stuck rfl rfl hdrawing hrejects
  have hlimit : z.verdict second.block 2 = .failed (.retriesExhausted 1 1) := rfl
  have hc : Collected [(Work.step z)^[1] first, (Work.step z)^[3] second]
      (.error (.retriesExhausted 1 1)) :=
    .fault (List.mem_cons_of_mem _ List.mem_cons_self) (hphase.trans hlimit)
  have hb : Generator.outside.blocks = .ok [first.block, second.block] := rfl
  obtain ⟨limit, hl, ⟨b, hmem, he, -⟩, hfail⟩ :=
    (schedule_independent Generator.outside _ hb _ hreach).2.1 _ hc
  cases hl
  exact ⟨_, _, hb, hreach, hc, ⟨b, hmem, he⟩, hfail {}⟩

end RecursiveMatrix
