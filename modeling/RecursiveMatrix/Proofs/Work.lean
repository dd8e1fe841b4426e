import Mathlib.Logic.Function.Iterate
import RecursiveMatrix.Proofs.Sweep

namespace RecursiveMatrix

/-- Where the work on a block stands: before the next element, among its candidates, or at an end. -/
inductive Phase
  | opening
  | drawing
  | finished
  | failed (e : Error)

/-- The work on a block, part of the way. The elements from `position` on remain, and of the current
one `streak` candidates have been rejected; as in `Search` both counts are natural numbers. -/
structure Work (σ : Type) where
  block : Block σ
  phase : Phase
  position : UInt64
  remaining : UInt64
  edges : Array Edge
  rejected : Nat
  streak : Nat
  source : σ

/-- What so many rejections of one element come to. -/
def Sampler.verdict {σ : Type} (z : Sampler) (b : Block σ) (streak : Nat) : Phase :=
  match z.retryLimit with
  | some limit =>
    if limit.val.toNat < streak then .failed (.retriesExhausted b.index limit.val) else .drawing
  | none => .drawing

theorem Sampler.verdict_zero {σ : Type} (z : Sampler) (b : Block σ) : z.verdict b 0 = .drawing := by
  unfold verdict
  split
  · rw [if_neg (Nat.not_lt_zero _)]
  · rfl

theorem Sampler.verdict_of_none {σ : Type} {z : Sampler} {b : Block σ} {streak : Nat}
    (h : z.retryLimit = none) : z.verdict b streak = .drawing := by
  rw [verdict, h]

theorem Sampler.verdict_of_limit {σ : Type} {z : Sampler} {b : Block σ} {limit : Positive}
    (h : z.retryLimit = some limit) :
    z.verdict b (limit.val.toNat + 1) = .failed (.retriesExhausted b.index limit.val) := by
  rw [verdict, h]
  exact if_pos (Nat.lt_succ_self _)

theorem Sampler.verdict_of_lt_budget {σ : Type} (z : Sampler) (b : Block σ) {patience i : Nat}
    (hi : i < z.budget patience) : z.verdict b i = .drawing := by
  cases hlim : z.retryLimit with
  | none => exact verdict_of_none hlim
  | some limit =>
      rw [budget_of_limit hlim] at hi
      rw [verdict, hlim]
      exact if_neg (Nat.not_lt_of_le (Nat.le_of_lt_succ hi))

namespace Work

variable {σ : Type}

def start (b : Block σ) : Work σ :=
  ⟨b, .opening, b.firstElement, b.elementCount.val, #[], 0, 0, b.source⟩

def accept (t : Work σ) (e : Edge) (s : σ) : Work σ :=
  { t with
    phase := if t.remaining - 1 = 0 then .finished else .opening
    position := t.position + 1
    remaining := t.remaining - 1
    edges := t.edges.push e
    streak := 0
    source := s }

def reject (z : Sampler) (t : Work σ) (k : Nat) (s : σ) : Work σ :=
  { t with
    phase := z.verdict t.block (t.streak + k)
    rejected := t.rejected + k
    streak := t.streak + k
    source := s }

theorem reject_zero {z : Sampler} {t : Work σ} (h : t.phase = z.verdict t.block t.streak) :
    t.reject z 0 t.source = t := by
  cases t
  simp only [reject, Nat.add_zero, ← h]

variable [Source σ]

def opened (t : Work σ) : Work σ :=
  { t with phase := .drawing, source := beginElement t.source t.position }

/-- Begins the next element, or makes one candidate of the current one. At an end nothing is done. -/
def step (z : Sampler) (t : Work σ) : Work σ :=
  match t.phase with
  | .opening => t.opened
  | .drawing =>
    let (e, s) := z.candidate t.source
    if z.contains e then t.accept e s else t.reject z 1 s
  | .finished | .failed _ => t

def Ended (t : Work σ) : Prop := t.phase = .finished ∨ ∃ e, t.phase = .failed e

variable {z : Sampler} {t : Work σ} {e : Edge} {B k l n : Nat}

theorem step_opening (h : t.phase = .opening) : t.step z = t.opened := by
  rw [step, h]

theorem step_drawing (h : t.phase = .drawing) :
    t.step z = if z.contains (z.candidate t.source).1
      then t.accept (z.candidate t.source).1 (z.candidate t.source).2
      else t.reject z 1 (z.candidate t.source).2 := by
  rw [step, h]

theorem step_ended (h : t.Ended) : t.step z = t := by
  rcases h with h | ⟨e, h⟩ <;> rw [step, h]

theorem iterate_ended (h : ((step z)^[k] t).Ended) (hkl : k ≤ l) : (step z)^[l] t = (step z)^[k] t := by
  rw [← Nat.sub_add_cancel hkl, Function.iterate_add_apply]
  exact Function.iterate_fixed (step_ended h) _

theorem ended_unique (hk : ((step z)^[k] t).Ended) (hl : ((step z)^[l] t).Ended) :
    (step z)^[k] t = (step z)^[l] t := by
  rcases Nat.le_total k l with h | h
  · exact (iterate_ended hk h).symm
  · exact iterate_ended hl h

theorem iterate_rejects (h : t.phase = z.verdict t.block t.streak)
    (hk : ∀ i < k, z.verdict t.block (t.streak + i) = .drawing) (hr : z.Rejects k t.source) :
    (step z)^[k] t = t.reject z k (z.after k t.source) := by
  induction k with
  | zero => exact (reject_zero h).symm
  | succ k ih =>
      have hprev := ih (fun i hi => hk i (Nat.lt_succ_of_lt hi)) (hr.mono k.le_succ)
      have hphase : (t.reject z k (z.after k t.source)).phase = .drawing := hk k k.lt_succ_self
      have hout : z.contains (z.candidate (z.after k t.source)).1 = false := hr k k.lt_succ_self
      have hafter : z.after (k + 1) t.source = (z.candidate (z.after k t.source)).2 :=
        Sampler.after_add z k 1 t.source
      rw [Function.iterate_succ_apply', hprev, step_drawing hphase, hafter]
      exact if_neg (Bool.eq_false_iff.1 hout)

theorem verdict_opened (h0 : t.streak = 0) (i : Nat) :
    z.verdict t.opened.block (t.opened.streak + i) = z.verdict t.block i := by
  change z.verdict t.block (t.streak + i) = z.verdict t.block i
  rw [h0, Nat.zero_add]

theorem iterate_opened (h0 : t.streak = 0) (hk : ∀ i < k, z.verdict t.block i = .drawing)
    (hr : z.Rejects k t.opened.source) :
    (step z)^[k] t.opened = t.opened.reject z k (z.after k t.opened.source) := by
  have hphase : t.opened.phase = z.verdict t.opened.block t.opened.streak :=
    (z.verdict_zero t.block).symm.trans (verdict_opened h0 0).symm
  exact iterate_rejects hphase (fun i hi => (verdict_opened h0 i).trans (hk i hi)) hr

theorem iterate_element (ho : t.phase = .opening) (h0 : t.streak = 0)
    (ha : z.Accepts k t.opened.source e) (hk : ∀ i ≤ k, z.verdict t.block i = .drawing) :
    (step z)^[k + 2] t = (t.opened.reject z k (z.after k t.opened.source)).accept e
      (z.after (k + 1) t.opened.source) := by
  have hrej := iterate_opened h0 (fun i hi => hk i (Nat.le_of_lt hi)) ha.rejects
  have hphase : (t.opened.reject z k (z.after k t.opened.source)).phase = .drawing :=
    (verdict_opened h0 k).trans (hk k k.le_refl)
  have hcand : (z.candidate (t.opened.reject z k (z.after k t.opened.source)).source).1 = e := ha.nth_eq
  have hafter : z.after (k + 1) t.opened.source = (z.candidate (z.after k t.opened.source)).2 :=
    Sampler.after_add z k 1 _
  rw [Function.iterate_succ_apply, step_opening ho, Function.iterate_succ_apply', hrej,
    step_drawing hphase, hcand, if_pos ha.inside, hafter]
  rfl

theorem iterate_stuck (ho : t.phase = .opening) (h0 : t.streak = 0)
    (hB : ∀ i < B, z.verdict t.block i = .drawing)
    (hr : z.Rejects B t.opened.source) :
    ((step z)^[B + 1] t).phase = z.verdict t.block B := by
  rw [Function.iterate_succ_apply, step_opening ho, iterate_opened h0 hB hr]
  exact verdict_opened h0 B

/-- Step by step the work gets to where the sweep over its elements ends. -/
theorem iterate_sweep (n : Nat) (t : Work σ) (hn : t.remaining.toNat = n) (h0 : t.streak = 0)
    (hp : t.phase = if t.remaining = 0 then .finished else .opening)
    (hB : ∀ i < B, z.verdict t.block i = .drawing) :
    let r := z.sweepFrom B n t.position t.edges t.rejected t.source
    (r.complete = true → ∃ k, ((step z)^[k] t).phase = .finished ∧
        ((step z)^[k] t).edges = r.edges ∧ ((step z)^[k] t).rejected = r.rejected) ∧
      (r.complete = false → ∃ k, B ≤ k ∧ ((step z)^[k] t).phase = z.verdict t.block B) := by
  -- before each element the streak is zero, and `n` elements remain to both
  induction n generalizing t with
  | zero =>
      have hnone : t.remaining = 0 := UInt64.toNat_inj.1 hn
      rw [if_pos hnone] at hp
      exact ⟨fun _ => ⟨0, hp, rfl, rfl⟩, (nomatch ·)⟩
  | succ n ih =>
      have hsome : t.remaining ≠ 0 := by
        rintro hz
        rw [hz] at hn
        exact nomatch hn
      rw [if_neg hsome] at hp
      rcases Sampler.rejects_or_accepts z B t.opened.source with hr | ⟨k, e, hk, ha⟩
      · rw [Sampler.sweepFrom_of_rejects hr]
        exact ⟨(nomatch ·), fun _ => ⟨B + 1, B.le_succ, iterate_stuck hp h0 hB hr⟩⟩
      · have hrun := iterate_element hp h0 ha fun i hi => hB i (Nat.lt_of_le_of_lt hi hk)
        have hless : (t.remaining - 1).toNat = n := by
          rw [UInt64.toNat_sub_of_le _ _ (by rw [UInt64.le_iff_toNat_le, hn]; simp), hn]
          rfl
        rw [Sampler.sweepFrom_of_accepts ha hk]
        let t' := (t.opened.reject z k (z.after k t.opened.source)).accept e
          (z.after (k + 1) t.opened.source)
        have hjoin (l : Nat) : (step z)^[l + (k + 2)] t = (step z)^[l] t' := by
          rw [Function.iterate_add_apply, hrun]
        obtain ⟨hc, hs⟩ := ih t' hless rfl rfl hB
        refine ⟨fun h => ?_, fun h => ?_⟩
        · obtain ⟨l, hl⟩ := hc h
          exact ⟨l + (k + 2), by rw [hjoin]; exact hl⟩
        · obtain ⟨l, hle, hl⟩ := hs h
          exact ⟨l + (k + 2), Nat.le_add_right_of_le hle, by rw [hjoin]; exact hl⟩

theorem iterate_start (z : Sampler) (b : Block σ) (patience : Nat) :
    let r := z.sweep patience b
    (r.complete = true → ∃ k, ((step z)^[k] (start b)).phase = .finished ∧
        ((step z)^[k] (start b)).edges = r.edges ∧ ((step z)^[k] (start b)).rejected = r.rejected) ∧
      (r.complete = false → ∃ k, z.budget patience ≤ k ∧
        ((step z)^[k] (start b)).phase = z.verdict b (z.budget patience)) := by
  have hsome : (start b).remaining ≠ 0 := by
    intro hz
    exact Nat.ne_of_gt b.elementCount.toNat_pos (congrArg UInt64.toNat hz)
  exact iterate_sweep _ (start b) rfl rfl (if_neg hsome).symm fun i hi => z.verdict_of_lt_budget b hi

variable {b : Block σ} {batch : Batch} {patience : Nat} {fault : Error}

theorem finished_of_sample (h : z.sample patience b = .ok batch) :
    ∃ k, ((step z)^[k] (start b)).phase = .finished ∧
      ((step z)^[k] (start b)).edges.toList = batch.edges ∧
      ((step z)^[k] (start b)).rejected = batch.rejected := by
  obtain ⟨hc, rfl⟩ := Sampler.sample_eq_ok_iff.1 h
  obtain ⟨k, hphase, hedges, hrejected⟩ := (iterate_start z b patience).1 hc
  exact ⟨k, hphase, congrArg Array.toList hedges, hrejected⟩

theorem failed_of_sample (h : z.sample patience b = .error (.failed fault)) :
    ∃ k, ((step z)^[k] (start b)).phase = .failed fault := by
  obtain ⟨hc, hstop⟩ := Sampler.sample_eq_error_iff.1 h
  obtain ⟨k, -, hphase⟩ := (iterate_start z b patience).2 hc
  cases hlim : z.retryLimit with
  | none =>
      rw [Sampler.stop_of_none hlim] at hstop
      exact nomatch hstop
  | some limit =>
      rw [Sampler.stop_of_limit hlim] at hstop
      obtain rfl := Stop.failed.inj hstop
      rw [Sampler.budget_of_limit hlim, Sampler.verdict_of_limit hlim] at hphase
      exact ⟨k, hphase⟩

/-- A candidate is one step at least, so the steps of finished work are patience enough. -/
theorem sample_of_finished (h : ((step z)^[k] (start b)).phase = .finished) (hp : k < patience) :
    ∃ batch, z.sample patience b = .ok batch := by
  cases hs : z.sample patience b with
  | ok batch => exact ⟨batch, rfl⟩
  | error stop =>
      obtain ⟨hc, rfl⟩ := Sampler.sample_eq_error_iff.1 hs
      cases hlim : z.retryLimit with
      | none =>
          obtain ⟨l, hle, hl⟩ := (iterate_start z b patience).2 hc
          rw [Sampler.budget_of_none hlim] at hle
          rw [iterate_ended (.inl h) (Nat.le_of_lt (Nat.lt_of_lt_of_le hp hle)), h,
            Sampler.verdict_of_none hlim] at hl
          exact nomatch hl
      | some limit =>
          rw [Sampler.stop_of_limit hlim] at hs
          obtain ⟨l, hl⟩ := failed_of_sample hs
          rw [← ended_unique (.inl h) (.inr ⟨_, hl⟩), h] at hl
          exact nomatch hl

theorem sample_of_failed (h : ((step z)^[k] (start b)).phase = .failed fault) :
    ∃ limit, z.retryLimit = some limit ∧ fault = .retriesExhausted b.index limit.val ∧
      ∀ patience, z.sample patience b = .error (.failed fault) := by
  have herr (patience : Nat) : z.sample patience b = .error (z.stop b) := by
    cases hs : z.sample patience b with
    | error stop => rw [(Sampler.sample_eq_error_iff.1 hs).2]
    | ok batch =>
        obtain ⟨l, hl, -⟩ := finished_of_sample hs
        rw [ended_unique (.inl hl) (.inr ⟨fault, h⟩), h] at hl
        exact nomatch hl
  cases hlim : z.retryLimit with
  | none =>
      obtain ⟨l, hle, hl⟩ := (iterate_start z b (k + 1)).2 (Sampler.sample_eq_error_iff.1 (herr _)).1
      rw [Sampler.budget_of_none hlim] at hle
      rw [iterate_ended (.inr ⟨fault, h⟩) (Nat.le_of_succ_le hle), h, Sampler.verdict_of_none hlim] at hl
      exact nomatch hl
  | some limit =>
      simp only [Sampler.stop_of_limit hlim] at herr
      obtain ⟨l, hl⟩ := failed_of_sample (herr 0)
      rw [← ended_unique (.inr ⟨fault, h⟩) (.inr ⟨_, hl⟩), h] at hl
      obtain rfl := Phase.failed.inj hl
      exact ⟨limit, rfl, rfl, herr⟩

theorem exists_ended (h : z.sample patience b ≠ .error .unfinished) :
    ∃ k, ((step z)^[k] (start b)).Ended := by
  cases hs : z.sample patience b with
  | ok batch =>
      obtain ⟨k, hk, -⟩ := finished_of_sample hs
      exact ⟨k, .inl hk⟩
  | error stop =>
      cases stop with
      | unfinished => exact absurd hs h
      | failed fault =>
          obtain ⟨k, hk⟩ := failed_of_sample hs
          exact ⟨k, .inr ⟨fault, hk⟩⟩

end Work

end RecursiveMatrix
