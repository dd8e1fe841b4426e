import RecursiveMatrix.Proofs.Demands
import RecursiveMatrix.Proofs.Tally

namespace RecursiveMatrix

open Source

variable {σ : Type}

def Phase.isDrawing : Phase → Bool
  | .drawing => true
  | _ => false

theorem Phase.isDrawing_iff {p : Phase} : p.isDrawing = true ↔ p = .drawing := by
  cases p <;> simp [isDrawing]

namespace Work

variable {z : Sampler} {limit : Positive} {b : Block σ} {t : Work σ} {k n : Nat}

/-- The streaks that may be met in each phase, and whether there are elements left in it. -/
def Allows (limit : Nat) : Phase → (streak remaining : Nat) → Prop
  | .opening, streak, remaining => streak = 0 ∧ 0 < remaining
  | .drawing, streak, remaining => streak ≤ limit ∧ 0 < remaining
  | .finished, streak, remaining => streak = 0 ∧ remaining = 0
  | .failed _, streak, remaining => streak = limit + 1 ∧ 0 < remaining

theorem Allows.streak_le {limit streak remaining : Nat} {p : Phase} (h : Allows limit p streak remaining) :
    streak ≤ limit + 1 ∧ (streak = 0 ∨ 0 < remaining) := by
  cases p with
  | opening => exact ⟨Nat.le_trans (Nat.le_of_eq h.1) (Nat.zero_le _), .inl h.1⟩
  | drawing => exact ⟨Nat.le_succ_of_le h.1, .inr h.2⟩
  | finished => exact ⟨Nat.le_trans (Nat.le_of_eq h.1) (Nat.zero_le _), .inl h.1⟩
  | failed e => exact ⟨Nat.le_of_eq h.1, .inr h.2⟩

/-- Of `n` elements each has its edge or is left, and those that have one were rejected no more often
than the limit allows. -/
structure Within (limit n : Nat) (t : Work σ) : Prop where
  shared : t.edges.size + t.remaining.toNat = n
  rejected_le : t.rejected ≤ t.edges.size * limit + t.streak
  allows : Allows limit t.phase t.streak t.remaining.toNat

theorem within_start (limit : Nat) (b : Block σ) : Within limit b.elementCount.val.toNat (start b) where
  shared := Nat.zero_add _
  rejected_le := Nat.zero_le _
  allows := ⟨rfl, b.elementCount.toNat_pos⟩

theorem Within.allows_at {p : Phase} (h : Within limit.val.toNat n t) (hphase : t.phase = p) :
    Allows limit.val.toNat p t.streak t.remaining.toNat :=
  hphase ▸ h.allows

theorem Within.opening (h : Within limit.val.toNat n t) (hphase : t.phase = .opening) :
    t.streak = 0 ∧ 0 < t.remaining.toNat := h.allows_at hphase

theorem Within.drawing (h : Within limit.val.toNat n t) (hphase : t.phase = .drawing) :
    t.streak ≤ limit.val.toNat ∧ 0 < t.remaining.toNat := h.allows_at hphase

theorem verdict_of_lt_limit (hl : z.retryLimit = some limit) (h : k < limit.val.toNat) (b : Block σ) :
    z.verdict b (k + 1) = .drawing := by
  have hbudget : k + 1 < z.budget 0 := by
    rw [Sampler.budget_of_limit hl]
    exact Nat.succ_lt_succ h
  exact z.verdict_of_lt_budget b hbudget

theorem toNat_remaining_sub (h : 0 < t.remaining.toNat) :
    (t.remaining - 1).toNat = t.remaining.toNat - 1 :=
  UInt64.toNat_sub_of_le _ _ (by rw [UInt64.le_iff_toNat_le, UInt64.toNat_one]; exact h)

theorem Within.accept (h : Within limit.val.toNat n t) (hphase : t.phase = .drawing) (e : Edge) (s : σ) :
    Within limit.val.toNat n (t.accept e s) := by
  have hshared := h.shared
  have hrejected := h.rejected_le
  obtain ⟨hstreak, hpos⟩ := h.drawing hphase
  have hless := toNat_remaining_sub hpos
  constructor
  case shared =>
    change (t.edges.push e).size + (t.remaining - 1).toNat = n
    rw [Array.size_push, hless]
    omega
  case rejected_le =>
    change t.rejected ≤ (t.edges.push e).size * limit.val.toNat + 0
    rw [Array.size_push, Nat.succ_mul]
    omega
  case allows =>
    change Allows _ (if t.remaining - 1 = 0 then .finished else .opening) 0 (t.remaining - 1).toNat
    split
    next hz => exact ⟨rfl, congrArg UInt64.toNat hz⟩
    next hz => exact ⟨rfl, Word.toNat_pos hz⟩

theorem Within.reject (hl : z.retryLimit = some limit) (h : Within limit.val.toNat n t)
    (hphase : t.phase = .drawing) (s : σ) : Within limit.val.toNat n (t.reject z 1 s) := by
  have hrejected := h.rejected_le
  obtain ⟨hstreak, hpos⟩ := h.drawing hphase
  constructor
  case shared => exact h.shared
  case rejected_le =>
    change t.rejected + 1 ≤ t.edges.size * limit.val.toNat + (t.streak + 1)
    omega
  case allows =>
    change Allows _ (z.verdict t.block (t.streak + 1)) (t.streak + 1) t.remaining.toNat
    rcases Nat.lt_or_eq_of_le hstreak with hlt | heq
    · rw [verdict_of_lt_limit hl hlt]
      exact ⟨hlt, hpos⟩
    · rw [heq, Sampler.verdict_of_limit hl]
      exact ⟨rfl, hpos⟩

theorem Within.made_le (h : Within limit.val.toNat n t) :
    t.edges.size + t.rejected ≤ n * (limit.val.toNat + 1) := by
  have hshared := h.shared
  have hrejected := h.rejected_le
  have hroom : t.streak ≤ t.remaining.toNat * (limit.val.toNat + 1) := by
    obtain ⟨hle, hnone | hpos⟩ := h.allows.streak_le
    · rw [hnone]
      exact Nat.zero_le _
    · exact Nat.le_trans hle (Nat.le_mul_of_pos_left _ hpos)
  rw [← hshared, Nat.add_mul, Nat.mul_succ]
  omega

theorem Within.size_lt (h : Within limit.val.toNat n t) {e : Error} (hphase : t.phase = .failed e) :
    t.edges.size < n := by
  have hshared := h.shared
  have hpos := (h.allows_at hphase).2
  omega

/-- The steps that are left at most. An element takes one to begin it and one for each candidate. -/
def stepsLeft (limit : Nat) (t : Work σ) : Nat :=
  match t.phase with
  | .opening => t.remaining.toNat * (limit + 2)
  | .drawing => t.remaining.toNat * (limit + 2) - (t.streak + 1)
  | .finished | .failed _ => 0

theorem stepsLeft_opening (limit : Nat) (h : t.phase = .opening) :
    t.stepsLeft limit = t.remaining.toNat * (limit + 2) := by
  rw [stepsLeft, h]

theorem stepsLeft_drawing (limit : Nat) (h : t.phase = .drawing) :
    t.stepsLeft limit = t.remaining.toNat * (limit + 2) - (t.streak + 1) := by
  rw [stepsLeft, h]

theorem stepsLeft_ended (limit : Nat) (h : t.Ended) : t.stepsLeft limit = 0 := by
  rcases h with h | ⟨e, h⟩ <;> rw [stepsLeft, h]

theorem lt_stepsLeft_drawing (h : Within limit.val.toNat n t) (hphase : t.phase = .drawing) :
    (t.remaining.toNat - 1) * (limit.val.toNat + 2) < t.stepsLeft limit.val.toNat := by
  obtain ⟨hstreak, hpos⟩ := h.drawing hphase
  obtain ⟨r, hr⟩ := Nat.exists_eq_add_one_of_ne_zero (Nat.ne_of_gt hpos)
  rw [stepsLeft_drawing _ hphase, hr, Nat.add_sub_cancel, Nat.succ_mul]
  omega

theorem stepsLeft_accept_lt (h : Within limit.val.toNat n t) (hphase : t.phase = .drawing) (e : Edge)
    (s : σ) : (t.accept e s).stepsLeft limit.val.toNat < t.stepsLeft limit.val.toNat := by
  have hless := lt_stepsLeft_drawing h hphase
  by_cases hz : t.remaining - 1 = 0
  · have hended : (t.accept e s).Ended := .inl (if_pos hz)
    rw [stepsLeft_ended _ hended]
    exact Nat.zero_lt_of_lt hless
  · have hopening : (t.accept e s).phase = .opening := if_neg hz
    have hremaining : (t.accept e s).remaining.toNat = t.remaining.toNat - 1 :=
      toNat_remaining_sub (h.drawing hphase).2
    rw [stepsLeft_opening _ hopening, hremaining]
    exact hless

theorem stepsLeft_reject_lt (hl : z.retryLimit = some limit) (h : Within limit.val.toNat n t)
    (hphase : t.phase = .drawing) (s : σ) :
    (t.reject z 1 s).stepsLeft limit.val.toNat < t.stepsLeft limit.val.toNat := by
  have hless := lt_stepsLeft_drawing h hphase
  rcases Nat.lt_or_eq_of_le (h.drawing hphase).1 with hlt | heq
  · have hdrawing : (t.reject z 1 s).phase = .drawing := verdict_of_lt_limit hl hlt t.block
    rw [stepsLeft_drawing _ hdrawing, stepsLeft_drawing _ hphase] at *
    change t.remaining.toNat * (limit.val.toNat + 2) - (t.streak + 1 + 1) < _
    omega
  · have hended : (t.reject z 1 s).Ended := by
      refine .inr ⟨.retriesExhausted t.block.index limit.val, ?_⟩
      rw [← Sampler.verdict_of_limit hl, ← heq]
      rfl
    rw [stepsLeft_ended _ hended]
    exact Nat.zero_lt_of_lt hless

variable [Source σ]

theorem Within.step (hl : z.retryLimit = some limit) (h : Within limit.val.toNat n t) :
    Within limit.val.toNat n (t.step z) := by
  cases hphase : t.phase with
  | opening =>
      obtain ⟨hstreak, hpos⟩ := h.opening hphase
      rw [step_opening hphase]
      exact ⟨h.shared, h.rejected_le, Nat.le_trans (Nat.le_of_eq hstreak) (Nat.zero_le _), hpos⟩
  | drawing =>
      rw [step_drawing hphase]
      split
      · exact h.accept hphase _ _
      · exact h.reject hl hphase _
  | finished =>
      rw [step_ended (.inl hphase)]
      exact h
  | failed e =>
      rw [step_ended (.inr ⟨e, hphase⟩)]
      exact h

theorem Within.iterate (hl : z.retryLimit = some limit) (h : Within limit.val.toNat n t) (k : Nat) :
    Within limit.val.toNat n ((Work.step z)^[k] t) := by
  induction k with
  | zero => exact h
  | succ k ih =>
      rw [Function.iterate_succ_apply']
      exact ih.step hl

theorem stepsLeft_step_lt (hl : z.retryLimit = some limit) (h : Within limit.val.toNat n t)
    (hunended : ¬ t.Ended) :
    (t.step z).stepsLeft limit.val.toNat < t.stepsLeft limit.val.toNat := by
  cases hphase : t.phase with
  | opening =>
      have hdrawing : t.opened.phase = .drawing := rfl
      have hpos : 0 < t.remaining.toNat * (limit.val.toNat + 2) :=
        Nat.mul_pos (h.opening hphase).2 (Nat.succ_pos _)
      rw [step_opening hphase, stepsLeft_opening _ hphase, stepsLeft_drawing _ hdrawing]
      change t.remaining.toNat * (limit.val.toNat + 2) - (t.streak + 1) < _
      omega
  | drawing =>
      rw [step_drawing hphase]
      split
      · exact stepsLeft_accept_lt h hphase _ _
      · exact stepsLeft_reject_lt hl h hphase _
  | finished => exact absurd (.inl hphase) hunended
  | failed e => exact absurd (.inr ⟨e, hphase⟩) hunended

theorem ended_of_stepsLeft_le (hl : z.retryLimit = some limit) (h : Within limit.val.toNat n t)
    (hk : t.stepsLeft limit.val.toNat ≤ k) : ((step z)^[k] t).Ended := by
  -- the steps that are left drop with each step, so they run out before `k` does
  induction k generalizing t with
  | zero =>
      by_contra hunended
      exact Nat.not_lt_zero _ (Nat.lt_of_lt_of_le (stepsLeft_step_lt hl h hunended) hk)
  | succ k ih =>
      by_cases hended : t.Ended
      · rw [Function.iterate_fixed (step_ended hended)]
        exact hended
      · have hless := stepsLeft_step_lt hl h hended
        rw [Function.iterate_succ_apply]
        exact ih (h.step hl) (Nat.le_of_lt_succ (Nat.lt_of_lt_of_le hless hk))

/-- How many candidates the next `k` steps make. -/
def candidates (z : Sampler) (k : Nat) (t : Work σ) : Nat :=
  (List.range k).countP fun i => ((step z)^[i] t).phase.isDrawing

theorem candidates_succ (z : Sampler) (k : Nat) (t : Work σ) : candidates z (k + 1) t =
    candidates z k t + if ((step z)^[k] t).phase.isDrawing then 1 else 0 := by
  rw [candidates, List.range_succ, List.countP_append, List.countP_singleton, candidates]

theorem step_of_not_drawing (h : t.phase.isDrawing = false) : t.step z = t.opened ∨ t.step z = t := by
  cases hphase : t.phase with
  | opening => exact .inl (step_opening hphase)
  | drawing =>
      rw [hphase] at h
      exact Bool.noConfusion h
  | finished => exact .inr (step_ended (.inl hphase))
  | failed e => exact .inr (step_ended (.inr ⟨e, hphase⟩))

/-- A candidate is kept or counted as rejected, and nothing else is. -/
theorem made_step (z : Sampler) (t : Work σ) : (t.step z).edges.size + (t.step z).rejected =
    t.edges.size + t.rejected + if t.phase.isDrawing then 1 else 0 := by
  cases h : t.phase.isDrawing with
  | false => rcases step_of_not_drawing (z := z) h with hstep | hstep <;> rw [hstep] <;> rfl
  | true =>
      rw [step_drawing (Phase.isDrawing_iff.1 h), if_pos rfl]
      split
      · change (t.edges.push _).size + t.rejected = _
        rw [Array.size_push]
        omega
      · rfl

theorem made_iterate (z : Sampler) (k : Nat) (t : Work σ) :
    ((step z)^[k] t).edges.size + ((step z)^[k] t).rejected =
      t.edges.size + t.rejected + candidates z k t := by
  induction k with
  | zero => rfl
  | succ k ih => rw [Function.iterate_succ_apply', made_step, ih, candidates_succ, Nat.add_assoc]

theorem made_start (z : Sampler) (k : Nat) (b : Block σ) :
    candidates z k (start b) =
      ((step z)^[k] (start b)).edges.size + ((step z)^[k] (start b)).rejected := by
  rw [made_iterate]
  exact (Nat.zero_add _).symm

/-- The same work, without the record of what the source was asked for. -/
def unlogged (t : Work (Logged σ)) : Work σ :=
  ⟨⟨t.block.index, t.block.blockCount, t.block.firstElement, t.block.elementCount, t.block.source.source⟩,
    t.phase, t.position, t.remaining, t.edges, t.rejected, t.streak, t.source.source⟩

theorem unlogged_step (z : Sampler) (t : Work (Logged σ)) : (t.step z).unlogged = t.unlogged.step z := by
  cases hphase : t.phase with
  | opening =>
      have hopening : t.unlogged.phase = .opening := hphase
      rw [step_opening hphase, step_opening hopening]
      rfl
  | drawing =>
      have hdrawing : t.unlogged.phase = .drawing := hphase
      have hcand : z.candidate t.unlogged.source =
          ((z.candidate t.source).1, (z.candidate t.source).2.source) :=
        Sampler.candidate_follows Logged.source_follows t.source
      rw [step_drawing hphase, step_drawing hdrawing, hcand]
      split <;> rfl
  | finished =>
      have hfinished : t.unlogged.phase = .finished := hphase
      rw [step_ended (.inl hphase), step_ended (.inl hfinished)]
  | failed e =>
      have hfailed : t.unlogged.phase = .failed e := hphase
      rw [step_ended (.inr ⟨e, hphase⟩), step_ended (.inr ⟨e, hfailed⟩)]

theorem unlogged_iterate (z : Sampler) (k : Nat) (t : Work (Logged σ)) :
    ((step z)^[k] t).unlogged = (step z)^[k] t.unlogged := by
  induction k with
  | zero => rfl
  | succ k ih => rw [Function.iterate_succ_apply', unlogged_step, ih, Function.iterate_succ_apply']

theorem asked_step (z : Sampler) (t : Work (Logged σ)) : (t.step z).source.asked.count .draw =
    t.source.asked.count .draw + if t.phase.isDrawing then z.cyclesPerEdge else 0 := by
  cases h : t.phase.isDrawing with
  | false =>
      rcases step_of_not_drawing (z := z) h with hstep | hstep
      · have hbegun : (t.step z).source.asked = t.source.asked ++ [.beginElement t.position] := by
          rw [hstep]
          exact Logged.asked_beginElement ..
        rw [hbegun, List.count_append]
        rfl
      · rw [hstep]
        rfl
  | true =>
      have hsource : (t.step z).source = (z.candidate t.source).2 := by
        rw [step_drawing (Phase.isDrawing_iff.1 h)]
        split <;> rfl
      have hdrawn : (z.candidate t.source).2.asked = _ := z.draws_candidate t.source
      rw [hsource, hdrawn, List.count_append, List.count_replicate_self, if_pos rfl]

theorem asked_start (z : Sampler) (k : Nat) (b : Block σ) :
    ((step z)^[k] (start b.logged)).source.asked.count .draw =
      candidates z k (start b) * z.cyclesPerEdge := by
  induction k with
  | zero => exact (Nat.zero_mul _).symm
  | succ k ih =>
      have hphase : ((step z)^[k] (start b.logged)).phase = ((step z)^[k] (start b)).phase :=
        congrArg phase (unlogged_iterate z k (start b.logged))
      rw [Function.iterate_succ_apply', asked_step, ih, candidates_succ, hphase, Nat.add_mul]
      split
      · rw [Nat.one_mul]
      · rw [Nat.zero_mul]

end Work

namespace Sampler

variable [Source σ] {z : Sampler} {limit : Positive} {b : Block σ} {patience : Nat}

theorem length_tries_le (z : Sampler) (B : Nat) (s : σ) : (z.tries B s).length ≤ B := by
  rcases rejects_or_accepts z B s with hr | ⟨k, e, hk, ha⟩
  · exact Nat.le_of_eq (tries_of_rejects hr).1
  · exact Nat.le_trans (Nat.le_of_eq (tries_of_accepts ha hk).1) hk

theorem length_trail_le (z : Sampler) (B n : Nat) (p : UInt64) (s : σ) :
    (z.trail B n p s).length ≤ n * B := by
  induction n generalizing p s with
  | zero => exact Nat.zero_le _
  | succ n ih =>
      have htries := length_tries_le z B (beginElement s p)
      rw [trail, List.length_append, Nat.succ_mul]
      split
      · have hrest := ih (p + 1) (z.after (z.tries B (beginElement s p)).length (beginElement s p))
        omega
      · rw [List.length_nil]
        omega

theorem length_drawnFor_le (hl : z.retryLimit = some limit) (b : Block σ) (patience : Nat) :
    (z.drawnFor patience b).length ≤ b.elementCount.val.toNat * (limit.val.toNat + 1) := by
  rw [drawnFor, budget_of_limit hl]
  exact length_trail_le ..

theorem length_drawnFor (z : Sampler) (b : Block σ) (patience : Nat) : (z.drawnFor patience b).length =
    (z.sweep patience b).edges.size + (z.sweep patience b).rejected := by
  obtain ⟨hedges, hrejected⟩ := sweepFrom_trail z (z.budget patience) b.elementCount.val.toNat
    b.firstElement #[] 0 b.source
  rw [Nat.zero_add] at hrejected
  rw [sweep, ← Array.length_toList, hedges, hrejected, drawnFor,
    List.length_eq_countP_add_countP z.contains, List.countP_eq_length_filter, List.nil_append]
  exact congrArg (_ + ·) (List.countP_congr fun e _ => by simp [outside])

theorem asked_le (hl : z.retryLimit = some limit) (b : Block σ) (patience : Nat) :
    (z.sweep patience b.logged).source.asked.count .draw ≤
      b.elementCount.val.toNat * (limit.val.toNat + 1) * z.cyclesPerEdge := by
  have hedges := congrArg Sweep.edges (z.sweep_logged b patience)
  have hrejected := congrArg Sweep.rejected (z.sweep_logged b patience)
  rw [count_asked, ← hedges, ← hrejected, ← length_drawnFor, Nat.mul_comm]
  exact Nat.mul_le_mul_right _ (length_drawnFor_le hl b patience)

theorem size_edges_lt {stop : Stop} (h : z.sample patience b = .error stop) :
    (z.sweep patience b).edges.size < b.elementCount.val.toNat := by
  obtain ⟨found, s', -, hedges, hcourse⟩ := z.sweep_course b patience
  have hincomplete : (z.sweep patience b.logged).complete = false := by
    rw [← sample_logged] at h
    exact (sample_eq_error_iff.1 h).1
  rw [z.sweep_logged b patience, ← Array.length_toList, hedges, List.length_map]
  cases hcourse with
  | finished hc => exact Bool.noConfusion (hincomplete.symm.trans hc)
  | stuck _ hlen => exact hlen

theorem sample_ne_unfinished (hl : z.retryLimit = some limit) (b : Block σ) (patience : Nat) :
    z.sample patience b ≠ .error .unfinished := by
  intro h
  have hstop := (sample_eq_error_iff.1 h).2
  rw [stop_of_limit hl] at hstop
  exact nomatch hstop

open Work in
/-- With a retry limit the work on a block comes to an end whatever is drawn for it, and every element
accounts for as many candidates as the limit and one more. An element is never rejected oftener than that
in a row, and a block that fails is short of an edge. -/
theorem retry_limit_bounds_work (hl : z.retryLimit = some limit) (b : Block σ) :
    let n := b.elementCount.val.toNat
    let l := limit.val.toNat
    ((step z)^[n * (l + 2)] (start b)).Ended ∧
    (∀ k, let t := (step z)^[k] (start b)
      t.streak ≤ l + 1 ∧ candidates z k (start b) ≤ n * (l + 1) ∧
      ((step z)^[k] (start b.logged)).unlogged = t ∧
      ((step z)^[k] (start b.logged)).source.asked.count .draw ≤ n * (l + 1) * z.cyclesPerEdge ∧
      ∀ e, t.phase = .failed e → t.edges.size < n) ∧
    ∀ patience, z.sample patience b ≠ .error .unfinished ∧
      (z.drawnFor patience b).length ≤ n * (l + 1) ∧
      (z.sweep patience b.logged).source.asked.count .draw ≤ n * (l + 1) * z.cyclesPerEdge ∧
      ∀ stop, z.sample patience b = .error stop → (z.sweep patience b).edges.size < n := by
  intro n l
  have hstart : Within l n (start b) := within_start l b
  refine ⟨?_, fun k => ?_, fun patience => ?_⟩
  · exact ended_of_stepsLeft_le hl hstart (Nat.le_of_eq (stepsLeft_opening l rfl))
  · have hwithin := hstart.iterate hl k
    have hcandidates : candidates z k (start b) ≤ n * (l + 1) := by
      rw [made_start]
      exact hwithin.made_le
    refine ⟨hwithin.allows.streak_le.1, hcandidates, unlogged_iterate z k (start b.logged), ?_, ?_⟩
    · rw [asked_start]
      exact Nat.mul_le_mul_right _ hcandidates
    · exact fun e he => hwithin.size_lt he
  · exact ⟨sample_ne_unfinished hl b patience, length_drawnFor_le hl b patience,
      asked_le hl b patience, fun stop h => size_edges_lt h⟩

/-- Four elements that are rejected once each take all the candidates there are to them. Where the script
goes on instead, the second of them is the end after one edge. -/
theorem retry_limit_bounds_work_scripted :
    (five.drawnFor 0 (four true)).length = 8 ∧ (five.drawnFor 0 (four true)).length ≤ 4 * (1 + 1) ∧
    ((Work.step five)^[4 * (1 + 2)] (.start (four true))).Ended ∧
    five.sample 0 (four false) = .error (.failed (.retriesExhausted 0 1)) ∧
    (five.sweep 0 (four false)).edges.size < 4 := by
  have hl : five.retryLimit = some .one := rfl
  have hstuck : five.sample 0 (four false) = .error (.failed (.retriesExhausted 0 1)) :=
    sample_eq_error_iff.2 ⟨by decide +kernel, rfl⟩
  obtain ⟨hended, -, hall⟩ := retry_limit_bounds_work hl (four true)
  obtain ⟨-, -, hfailing⟩ := retry_limit_bounds_work hl (four false)
  exact ⟨by decide +kernel, (hall 0).2.1, hended, hstuck, (hfailing 0).2.2.2 _ hstuck⟩

end Sampler

end RecursiveMatrix
