import Mathlib.Algebra.Ring.Nat
import RecursiveMatrix.Proofs.Keyed
import RecursiveMatrix.Proofs.Tiling

namespace RecursiveMatrix.Sampler

section Limit

variable {σ : Type} {z : Sampler} {limit : Positive}

theorem budget_of_limit (h : z.retryLimit = some limit) (patience : Nat) :
    z.budget patience = limit.val.toNat + 1 := by
  rw [budget, h]

theorem budget_of_none (h : z.retryLimit = none) (patience : Nat) : z.budget patience = patience := by
  rw [budget, h]

theorem stop_of_limit (h : z.retryLimit = some limit) (b : Block σ) :
    z.stop b = .failed (.retriesExhausted b.index limit.val) := by
  rw [stop, h]

theorem stop_of_none (h : z.retryLimit = none) (b : Block σ) : z.stop b = .unfinished := by
  rw [stop, h]

end Limit

section AnySource

variable {σ : Type} [Source σ] {z : Sampler} {B n k r patience : Nat} {p : UInt64} {es : Array Edge}
  {s : σ} {e : Edge} {b : Block σ} {batch : Batch}

theorem sweepFrom_of_accepts (h : z.Accepts k (beginElement s p) e) (hk : k < B) :
    z.sweepFrom B (n + 1) p es r s =
      z.sweepFrom B n (p + 1) (es.push e) (r + k) (z.after (k + 1) (beginElement s p)) := by
  rw [sweepFrom, search_of_accepts h hk]

theorem sweepFrom_of_rejects (h : z.Rejects B (beginElement s p)) :
    z.sweepFrom B (n + 1) p es r s = ⟨es, r + B, z.after B (beginElement s p), false⟩ := by
  rw [sweepFrom, search_of_rejects h]

/-- Whatever is drawn, a sweep that is complete holds an edge for each of its elements, and all its
edges lie inside. -/
theorem sweepFrom_sound (hes : ∀ e ∈ es.toList, z.contains e = true)
    (hc : (z.sweepFrom B n p es r s).complete = true) :
    (z.sweepFrom B n p es r s).edges.toList.length = es.toList.length + n ∧
      ∀ e ∈ (z.sweepFrom B n p es r s).edges.toList, z.contains e = true := by
  induction n generalizing p es r s with
  | zero => exact ⟨rfl, hes⟩
  | succ n ih =>
      rcases rejects_or_accepts z B (beginElement s p) with hr | ⟨k, e, hk, ha⟩
      · rw [sweepFrom_of_rejects hr] at hc
        exact Bool.noConfusion hc
      · rw [sweepFrom_of_accepts ha hk] at hc ⊢
        have hpush : ∀ e' ∈ (es.push e).toList, z.contains e' = true := by
          intro e' he'
          rw [Array.toList_push, List.mem_append, List.mem_singleton] at he'
          rcases he' with he' | rfl
          · exact hes e' he'
          · exact ha.inside
        obtain ⟨hlen, hin⟩ := ih hpush hc
        refine ⟨?_, hin⟩
        rw [hlen, Array.toList_push, List.length_append, List.length_singleton]
        omega

theorem sample_eq_ok_iff :
    z.sample patience b = .ok batch ↔ (z.sweep patience b).complete = true ∧
      batch = ⟨(z.sweep patience b).edges.toList, (z.sweep patience b).rejected⟩ := by
  rw [sample, resultOf]
  cases (z.sweep patience b).complete with
  | false => simp
  | true => simp [eq_comm]

theorem sample_eq_error_iff {stop : Stop} :
    z.sample patience b = .error stop ↔ (z.sweep patience b).complete = false ∧ stop = z.stop b := by
  rw [sample, resultOf]
  cases (z.sweep patience b).complete with
  | false => simp [eq_comm]
  | true => simp

theorem sample_of_rejects {limit : Positive} (hl : z.retryLimit = some limit)
    (h : z.Rejects (limit.val.toNat + 1) (beginElement b.source b.firstElement)) :
    z.sample patience b = .error (.failed (.retriesExhausted b.index limit.val)) := by
  obtain ⟨n, hn⟩ := Nat.exists_eq_succ_of_ne_zero (Nat.ne_of_gt b.elementCount.toNat_pos)
  refine sample_eq_error_iff.2 ⟨?_, (stop_of_limit hl b).symm⟩
  rw [sweep, hn, budget_of_limit hl, sweepFrom_of_rejects h]

theorem sample_sound (h : z.sample patience b = .ok batch) :
    batch.edges.length = b.elementCount.val.toNat ∧ ∀ e ∈ batch.edges, z.contains e = true := by
  obtain ⟨hc, rfl⟩ := sample_eq_ok_iff.1 h
  obtain ⟨hlen, hin⟩ := sweepFrom_sound (fun _ he => absurd he List.not_mem_nil) hc
  refine ⟨?_, hin⟩
  rw [← Nat.zero_add b.elementCount.val.toNat]
  exact hlen

end AnySource

section Keyed

variable {z : Sampler} {seed : UInt64} {B n j patience : Nat} {s : KeyedStream} {b : Block KeyedStream}
  {batch : Batch}

theorem ofNat_succ (j : Nat) : UInt64.ofNat j + 1 = .ofNat (j + 1) := by
  rw [UInt64.ofNat_add]
  rfl

/-- Each element finds its own edge: nothing of the stream it leaves behind reaches the next. -/
theorem sweepFrom_keyed (es : Array Edge) (r : Nat) (hs : s.baseSeed = seed)
    (h : ∀ i, j ≤ i → i < j + n → ¬ z.Rejects B (streamAt seed i)) :
    (z.sweepFrom B n (.ofNat j) es r s).complete = true ∧
      (z.sweepFrom B n (.ofNat j) es r s).edges.toList.map some =
        es.toList.map some ++ (List.range' j n).map (z.edgeAt seed) ∧
      (z.sweepFrom B n (.ofNat j) es r s).rejected =
        r + ((List.range' j n).map (z.rejectionsAt seed)).sum := by
  -- of the stream that an element leaves behind the next one reads the seed alone
  induction n generalizing j es r s with
  | zero => exact ⟨rfl, (List.append_nil _).symm, rfl⟩
  | succ n ih =>
      obtain ⟨k, e, hk, ha⟩ := not_rejects_iff.1 (h j (Nat.le_refl j) (by omega))
      have hbegin : beginElement s (.ofNat j) = streamAt seed j := by
        rw [KeyedStream.beginElement_eq, hs, streamAt]
      have hedge : z.edgeAt seed j = some e := edgeAt_eq_some_iff.2 ⟨k, ha⟩
      have hcount : z.rejectionsAt seed j = k := rejectionsAt_of_accepts ha
      rw [← hbegin] at ha
      have hseed : (z.after (k + 1) (beginElement s (.ofNat j))).baseSeed = seed := by
        rw [after_keeps KeyedStream.baseSeed_keeps, hbegin, streamAt, KeyedStream.positioned]
      have hrest : ∀ i, j + 1 ≤ i → i < j + 1 + n → ¬ z.Rejects B (streamAt seed i) :=
        fun i hi hlt => h i (by omega) (by omega)
      obtain ⟨hc, hedges, hrejected⟩ := ih (es.push e) (r + k) hseed hrest
      rw [sweepFrom_of_accepts ha hk, ofNat_succ]
      refine ⟨hc, ?_, ?_⟩
      · rw [hedges, List.range'_succ, List.map_cons, hedge, Array.toList_push, List.map_append,
          List.append_assoc]
        rfl
      · rw [hrejected, List.range'_succ, List.map_cons, hcount, List.sum_cons, Nat.add_assoc]

theorem sweepFrom_stuck (es : Array Edge) (r : Nat) (hs : s.baseSeed = seed) {i : Nat} (hi : j ≤ i)
    (hlt : i < j + n) (h : z.Rejects B (streamAt seed i)) :
    (z.sweepFrom B n (.ofNat j) es r s).complete = false := by
  induction n generalizing j es r s with
  | zero => omega
  | succ n ih =>
      have hbegin : beginElement s (.ofNat j) = streamAt seed j := by
        rw [KeyedStream.beginElement_eq, hs, streamAt]
      rcases rejects_or_accepts z B (beginElement s (.ofNat j)) with hr | ⟨k, e, hk, ha⟩
      · rw [sweepFrom_of_rejects hr]
      · have hne : j ≠ i := by
          rintro rfl
          rw [hbegin] at ha
          exact ha.not_rejects hk h
        have hseed : (z.after (k + 1) (beginElement s (.ofNat j))).baseSeed = seed := by
          rw [after_keeps KeyedStream.baseSeed_keeps, hbegin, streamAt, KeyedStream.positioned]
        rw [sweepFrom_of_accepts ha hk, ofNat_succ]
        exact ih _ _ hseed (by omega) (by omega)

theorem sample_keyed (hb : b.source = .positioned seed b.firstElement)
    (h : ∀ j, b.Covers j → ¬ z.Rejects (z.budget patience) (streamAt seed j)) :
    ∃ batch, z.sample patience b = .ok batch ∧ batch.edges.map some =
        (List.range' b.firstElement.toNat b.elementCount.val.toNat).map (z.edgeAt seed) ∧
      batch.rejected =
        ((List.range' b.firstElement.toNat b.elementCount.val.toNat).map (z.rejectionsAt seed)).sum := by
  have hs : b.source.baseSeed = seed := by rw [hb, KeyedStream.positioned]
  obtain ⟨hc, hedges, hrejected⟩ := sweepFrom_keyed #[] 0 hs fun i hi hlt => h i ⟨hi, hlt⟩
  rw [UInt64.ofNat_toNat] at hc hedges hrejected
  rw [Nat.zero_add] at hrejected
  exact ⟨_, sample_eq_ok_iff.2 ⟨hc, rfl⟩, hedges, hrejected⟩

theorem sample_stuck (hb : b.source = .positioned seed b.firstElement) (hj : b.Covers j)
    (h : z.Rejects (z.budget patience) (streamAt seed j)) :
    z.sample patience b = .error (z.stop b) := by
  have hs : b.source.baseSeed = seed := by rw [hb, KeyedStream.positioned]
  have hc := sweepFrom_stuck #[] 0 hs hj.1 hj.2 h
  rw [UInt64.ofNat_toNat] at hc
  exact sample_eq_error_iff.2 ⟨hc, rfl⟩

theorem sample_hopeful (hb : b.source = .positioned seed b.firstElement)
    (h : z.sample patience b = .ok batch) {j : Nat} (hj : b.Covers j) :
    ¬ z.Rejects (z.budget patience) (streamAt seed j) := by
  intro hr
  rw [sample_stuck hb hj hr] at h
  exact nomatch h

theorem sample_edges (hb : b.source = .positioned seed b.firstElement)
    (h : z.sample patience b = .ok batch) : batch.edges.map some =
      (List.range' b.firstElement.toNat b.elementCount.val.toNat).map (z.edgeAt seed) := by
  obtain ⟨batch', hok, hedges, -⟩ := sample_keyed hb fun _ => sample_hopeful hb h
  rw [h] at hok
  exact Except.ok.inj hok ▸ hedges

theorem sample_rejected (hb : b.source = .positioned seed b.firstElement)
    (h : z.sample patience b = .ok batch) : batch.rejected =
      ((List.range' b.firstElement.toNat b.elementCount.val.toNat).map (z.rejectionsAt seed)).sum := by
  obtain ⟨batch', hok, -, hrejected⟩ := sample_keyed hb fun _ => sample_hopeful hb h
  rw [h] at hok
  exact Except.ok.inj hok ▸ hrejected

end Keyed

end RecursiveMatrix.Sampler
