import RecursiveMatrix.Proofs.Outcome

namespace RecursiveMatrix

open Trace

namespace Counters

theorem empty_add (c : Counters) : {} + c = c := by
  change (⟨0 + c.generated, 0 + c.rejected, 0 + c.blocks⟩ : Counters) = c
  simp only [Nat.zero_add]

theorem add_assoc (c c' c'' : Counters) : c + c' + c'' = c + (c' + c'') := by
  change (⟨_ + _ + _, _ + _ + _, _ + _ + _⟩ : Counters) = ⟨_ + (_ + _), _ + (_ + _), _ + (_ + _)⟩
  simp only [Nat.add_assoc]

end Counters

namespace Run

variable {α β : Type} {r : Run α}

theorem bind_of_ok {a : α} (h : r.outcome = .ok a) (f : α → Run β) :
    r >>= f = ⟨(f a).outcome, r.signals ++ (f a).signals, r.counters + (f a).counters⟩ := by
  obtain ⟨outcome, signals, counters⟩ := r
  cases h
  rfl

theorem bind_of_error {stop : Stop} (h : r.outcome = .error stop) (f : α → Run β) :
    r >>= f = ⟨.error stop, r.signals, r.counters⟩ := by
  obtain ⟨outcome, signals, counters⟩ := r
  cases h
  rfl

/-- The same run, which tells of its result at the end. -/
def telling (f : α → Event) (r : Run α) : Run α := do
  let a ← r
  emit (f a)
  return a

theorem telling_of_ok {a : α} (h : r.outcome = .ok a) (f : α → Event) :
    r.telling f = ⟨.ok a, r.signals ++ [.emitted (f a)], r.counters⟩ := bind_of_ok h _

theorem telling_of_error {stop : Stop} (h : r.outcome = .error stop) (f : α → Event) :
    r.telling f = ⟨.error stop, r.signals, r.counters⟩ := bind_of_error h _

theorem map_eq (f : α → β) (r : Run α) : f <$> r = ⟨f <$> r.outcome, r.signals, r.counters⟩ := by
  change (r >>= fun a => pure (f a)) = _
  cases h : r.outcome with
  | error stop => exact bind_of_error h _
  | ok a =>
      rw [bind_of_ok h]
      exact congrArg (Run.mk _ · _) (List.append_nil _)

end Run

namespace Sampler

variable {σ : Type}

def finished (d : Block σ × Batch) : Event :=
  .note .debug target "block synthesized" [("block", .natural d.1.index.toNat),
    ("edges", .natural d.1.elementCount.val.toNat), ("rejected", .natural d.2.rejected)]

def exceeded (b : Block σ) (limit : Positive) : Event :=
  .note .warn target "retry limit exceeded while synthesizing block"
    [("block", .natural b.index.toNat), ("limit", .natural limit.val.toNat)]

/-- What finished blocks add to the counters. -/
def total (done : List (Block σ × Batch)) : Counters where
  generated := (done.map fun d => d.1.elementCount.val.toNat).sum
  rejected := (done.map fun d => d.2.rejected).sum

theorem total_cons (d : Block σ × Batch) (done : List (Block σ × Batch)) :
    total (d :: done) =
      { generated := d.1.elementCount.val.toNat, rejected := d.2.rejected } + total done := by
  simp only [total, List.map_cons, List.sum_cons]
  rfl

def Progress.plus (p : Progress) : List (Block σ × Batch) → Progress
  | [] => p
  | d :: done =>
    plus ⟨p.edges.appendList d.2.edges, p.signals.appendList [.emitted (finished d)],
      p.counters + { generated := d.1.elementCount.val.toNat, rejected := d.2.rejected }⟩ done

theorem Progress.plus_eq (p : Progress) (done : List (Block σ × Batch)) :
    (p.plus done).edges.toList = p.edges.toList ++ done.flatMap (·.2.edges) ∧
      (p.plus done).signals.toList = p.signals.toList ++ done.map (.emitted <| finished ·) ∧
      (p.plus done).counters = p.counters + total done := by
  induction done generalizing p with
  | nil => exact ⟨(List.append_nil _).symm, (List.append_nil _).symm, rfl⟩
  | cons d done ih =>
      obtain ⟨hedges, hsignals, hcounters⟩ := ih ⟨p.edges.appendList d.2.edges,
        p.signals.appendList [.emitted (finished d)],
        p.counters + { generated := d.1.elementCount.val.toNat, rejected := d.2.rejected }⟩
      rw [plus, hedges, hsignals, hcounters, total_cons, Counters.add_assoc]
      simp

variable [Source σ] {z : Sampler} {patience : Nat} {b : Block σ} {batch : Batch} {stop : Stop}
  {blocks : List (Block σ)} {done : List (Block σ × Batch)}

theorem report_of_ok (h : z.sample patience b = .ok batch) :
    z.report b (z.sweep patience b) = ⟨.ok batch, [.emitted (finished (b, batch))],
      { generated := b.elementCount.val.toNat, rejected := batch.rejected }⟩ := by
  obtain ⟨hc, rfl⟩ := sample_eq_ok_iff.1 h
  rw [report, resultOf, signals, counters, if_pos hc, if_pos hc, if_pos hc]
  rfl

theorem report_of_error (h : z.sample patience b = .error stop) :
    (z.report b (z.sweep patience b)).outcome = .error stop ∧
      (z.report b (z.sweep patience b)).counters = {} := by
  have hc := (sample_eq_error_iff.1 h).1
  refine ⟨h, ?_⟩
  rw [report, counters, hc]
  rfl

theorem signals_of_limit {limit : Positive} (hl : z.retryLimit = some limit)
    (h : z.sample patience b = .error stop) :
    z.signals b (z.sweep patience b) = [.emitted (exceeded b limit)] := by
  rw [signals, hl, (sample_eq_error_iff.1 h).1]
  rfl

def Completes (z : Sampler) (patience : Nat) (done : List (Block σ × Batch)) : Prop :=
  ∀ d ∈ done, z.sample patience d.1 = .ok d.2

theorem runBlocks_append (h : z.Completes patience done) (rest : List (Block σ)) (p : Progress) :
    z.runBlocks patience (done.map Prod.fst ++ rest) p = z.runBlocks patience rest (p.plus done) := by
  induction done generalizing p with
  | nil => rfl
  | cons d done ih =>
      have hd := report_of_ok (h d List.mem_cons_self)
      rw [List.map_cons, List.cons_append, runBlocks, hd, Progress.plus]
      exact ih (fun d' hd' => h d' (List.mem_cons_of_mem _ hd')) _

theorem runBlocks_of_completes (h : z.Completes patience done) :
    z.runBlocks patience (done.map Prod.fst) {} =
      ⟨.ok (done.flatMap (·.2.edges)), done.map (.emitted <| finished ·), total done⟩ := by
  have hrun := runBlocks_append h [] {}
  obtain ⟨hedges, hsignals, hcounters⟩ := Progress.plus_eq {} done
  rw [List.append_nil, runBlocks, hedges, hsignals, hcounters] at hrun
  rw [hrun]
  exact congrArg (Run.mk _ _) (Counters.empty_add _)

theorem runBlocks_of_stop (h : z.Completes patience done) (hb : z.sample patience b = .error stop)
    (after : List (Block σ)) :
    z.runBlocks patience (done.map Prod.fst ++ b :: after) {} = ⟨.error stop,
      done.map (.emitted <| finished ·) ++ z.signals b (z.sweep patience b), total done⟩ := by
  have hrun := runBlocks_append h (b :: after) {}
  obtain ⟨-, hsignals, hcounters⟩ := Progress.plus_eq {} done
  obtain ⟨houtcome, hcount⟩ := report_of_error hb
  rw [hrun, runBlocks]
  simp only [houtcome, hcount, hcounters, Counters.empty_add,
    Array.appendList_eq_append, Array.toList_appendList, hsignals]
  rfl

/-- Either all the blocks are finished, or some are and the one after them is not. -/
theorem completes_or_stops (z : Sampler) (patience : Nat) (blocks : List (Block σ)) :
    (∃ done, blocks = done.map Prod.fst ∧ z.Completes patience done) ∨
      ∃ done b after stop, blocks = done.map Prod.fst ++ b :: after ∧ z.Completes patience done ∧
        z.sample patience b = .error stop := by
  induction blocks with
  | nil => exact .inl ⟨[], rfl, fun _ hd => absurd hd List.not_mem_nil⟩
  | cons b blocks ih =>
      cases hb : z.sample patience b with
      | error stop =>
          exact .inr ⟨[], b, blocks, stop, rfl, fun _ hd => absurd hd List.not_mem_nil, hb⟩
      | ok batch =>
          have hcons {done : List (Block σ × Batch)} (h : z.Completes patience done) :
              z.Completes patience ((b, batch) :: done) := by
            intro d hd
            rcases List.mem_cons.1 hd with rfl | hd
            · exact hb
            · exact h d hd
          rcases ih with ⟨done, rfl, h⟩ | ⟨done, b', after, stop, rfl, h, hstop⟩
          · exact .inl ⟨(b, batch) :: done, rfl, hcons h⟩
          · exact .inr ⟨(b, batch) :: done, b', after, stop, rfl, hcons h, hstop⟩

end Sampler

namespace Generator

variable {g : Generator} {host : Host} {blocks : List (Block KeyedStream)} {edges : List Edge}
  {stop : Stop}

/-- What is told once all the blocks are finished. -/
def assembled (blockCount : Nat) : Event :=
  .note .info target "blocks synthesized" [("blocks", .natural blockCount)]

/-- What is told once the graph is there. -/
def drawn (x : Graph) : Event :=
  .note .info target "graph generated"
    [("vertices", .natural x.vertexCount), ("edges", .natural x.edgeCount)]

theorem generate_eq (g : Generator) (host : Host) : g.generate host = Run.within spanId g.span
    ((g.inPool host (Graph.ofEdges <$> g.runBlocks host)).telling drawn) := rfl

theorem inShared_counters {α : Type} (host : Host) (n : Nat) (work : Run α) :
    (inShared host n work).counters = work.counters := by
  rcases inShared_eq host n work with h | h
  · rw [h]
  · rw [h, Run.relay]

theorem inPool_counters {α : Type} (h : g.HasWorkers host) (work : Run α) :
    (g.inPool host work).counters = work.counters := by
  rcases inPool_eq h work with h | h
  · rw [h]
  · rw [h, Run.relay]

theorem runBlocks_eq_of_ok (hb : g.blocks = .ok blocks)
    (h : (g.sampler.runBlocks host.patience blocks {}).outcome = .ok edges) :
    g.runBlocks host = ⟨.ok edges,
      (inShared host blocks.length (g.sampler.runBlocks host.patience blocks {})).signals ++
        [.emitted (assembled blocks.length)],
      (g.sampler.runBlocks host.patience blocks {}).counters + { blocks := blocks.length }⟩ := by
  have hshared := (inShared_outcome host blocks.length _).trans h
  rw [runBlocks, hb, Run.bind_of_ok rfl, Run.bind_of_ok hshared, inShared_counters]
  exact congrArg (Run.mk _ _) (Counters.empty_add _)

theorem runBlocks_eq_of_error (hb : g.blocks = .ok blocks)
    (h : (g.sampler.runBlocks host.patience blocks {}).outcome = .error stop) :
    g.runBlocks host = ⟨.error stop,
      (inShared host blocks.length (g.sampler.runBlocks host.patience blocks {})).signals,
      (g.sampler.runBlocks host.patience blocks {}).counters⟩ := by
  have hshared := (inShared_outcome host blocks.length _).trans h
  rw [runBlocks, hb, Run.bind_of_ok rfl, Run.bind_of_error hshared, inShared_counters]
  exact congrArg (Run.mk _ _) (Counters.empty_add _)

end Generator

end RecursiveMatrix
