import Mathlib.Data.Nat.Find
import RecursiveMatrix.Sampler

namespace RecursiveMatrix.Sampler

variable {σ : Type} [Source σ] {z z' : Sampler} {s : σ} {e : Edge} {k n r : Nat}

def shake (z : Sampler) (w : Weights) (s : σ) : Weights × σ :=
  if z.noise.enabled then w.perturb z.noise.magnitude s else (w, s)

theorem descend_succ (z : Sampler) (n : Nat) (w : Weights) (s : σ) :
    z.descend (n + 1) w s =
      (Quadrant.select (draw s).1 w.a w.b w.c ::
          (z.descend n (z.shake w (draw s).2).1 (z.shake w (draw s).2).2).1,
        (z.descend n (z.shake w (draw s).2).1 (z.shake w (draw s).2).2).2) := rfl

def after (z : Sampler) : Nat → σ → σ
  | 0, s => s
  | k + 1, s => z.after k (z.candidate s).2

/-- The candidate that comes after `k` others. -/
def nth (z : Sampler) (k : Nat) (s : σ) : Edge := (z.candidate (z.after k s)).1

def Rejects (z : Sampler) (k : Nat) (s : σ) : Prop := ∀ i < k, z.contains (z.nth i s) = false

instance (z : Sampler) (k : Nat) (s : σ) : Decidable (z.Rejects k s) :=
  inferInstanceAs (Decidable (∀ i < k, z.contains (z.nth i s) = false))

/-- The first candidate inside is `e`, and `k` others come before it. -/
structure Accepts (z : Sampler) (k : Nat) (s : σ) (e : Edge) : Prop where
  rejects : z.Rejects k s
  nth_eq : z.nth k s = e
  inside : z.contains e = true

theorem after_add (z : Sampler) (i k : Nat) (s : σ) : z.after (i + k) s = z.after k (z.after i s) := by
  induction i generalizing s with
  | zero => rw [Nat.zero_add, after]
  | succ i ih => rw [Nat.succ_add, after, ih, after]

theorem rejects_succ :
    z.Rejects (n + 1) s ↔ z.contains (z.candidate s).1 = false ∧ z.Rejects n (z.candidate s).2 := by
  constructor
  · intro h
    exact ⟨h 0 n.succ_pos, fun i hi => h (i + 1) (Nat.succ_lt_succ hi)⟩
  · rintro ⟨h0, h⟩ i hi
    cases i with
    | zero => exact h0
    | succ i => exact h i (Nat.lt_of_succ_lt_succ hi)

theorem Rejects.mono (h : z.Rejects n s) (hk : k ≤ n) : z.Rejects k s :=
  fun i hi => h i (Nat.lt_of_lt_of_le hi hk)

theorem accepts_succ :
    z.Accepts (k + 1) s e ↔ z.contains (z.candidate s).1 = false ∧ z.Accepts k (z.candidate s).2 e := by
  constructor
  · rintro ⟨hr, he, hi⟩
    rw [rejects_succ] at hr
    exact ⟨hr.1, hr.2, he, hi⟩
  · rintro ⟨h0, hr, he, hi⟩
    exact ⟨rejects_succ.2 ⟨h0, hr⟩, he, hi⟩

theorem Accepts.not_rejects (h : z.Accepts k s e) (hk : k < n) : ¬ z.Rejects n s := by
  intro hr
  have hc := hr k hk
  rw [h.nth_eq, h.inside] at hc
  exact Bool.noConfusion hc

theorem Accepts.unique {k' : Nat} {e' : Edge} (h : z.Accepts k s e) (h' : z.Accepts k' s e') :
    k = k' ∧ e = e' := by
  have hk : k = k' := by
    rcases Nat.lt_trichotomy k k' with hlt | heq | hgt
    · exact absurd h'.rejects (h.not_rejects hlt)
    · exact heq
    · exact absurd h.rejects (h'.not_rejects hgt)
  subst hk
  exact ⟨rfl, h.nth_eq.symm.trans h'.nth_eq⟩

theorem accepts_find (h : ∃ i, z.contains (z.nth i s) = true) :
    z.Accepts (Nat.find h) s (z.nth (Nat.find h) s) where
  rejects _ hi := Bool.eq_false_iff.2 (Nat.find_min h hi)
  nth_eq := rfl
  inside := Nat.find_spec h

theorem rejects_or_accepts (z : Sampler) (n : Nat) (s : σ) :
    z.Rejects n s ∨ ∃ k e, k < n ∧ z.Accepts k s e := by
  by_cases h : z.Rejects n s
  · exact .inl h
  · simp only [Rejects, not_forall, Bool.not_eq_false] at h
    obtain ⟨i, hi, hc⟩ := h
    have hex : ∃ i, z.contains (z.nth i s) = true := ⟨i, hc⟩
    exact .inr ⟨_, _, Nat.lt_of_le_of_lt (Nat.find_min' hex hc) hi, accepts_find hex⟩

theorem not_rejects_iff : ¬ z.Rejects n s ↔ ∃ k e, k < n ∧ z.Accepts k s e := by
  constructor
  · exact (rejects_or_accepts z n s).resolve_left
  · rintro ⟨k, e, hk, ha⟩
    exact ha.not_rejects hk

theorem search_succ (z : Sampler) (n r : Nat) (s : σ) :
    z.search (n + 1) r s =
      if z.contains (z.candidate s).1 then ⟨some (z.candidate s).1, r, (z.candidate s).2⟩
      else z.search n (r + 1) (z.candidate s).2 := rfl

theorem search_of_rejects (h : z.Rejects n s) : z.search n r s = ⟨none, r + n, z.after n s⟩ := by
  induction n generalizing r s with
  | zero => rfl
  | succ n ih =>
      obtain ⟨h0, h⟩ := rejects_succ.1 h
      rw [search_succ, h0, if_neg Bool.false_ne_true, ih h, after]
      congr 1
      omega

theorem search_of_accepts (h : z.Accepts k s e) (hk : k < n) :
    z.search n r s = ⟨some e, r + k, z.after (k + 1) s⟩ := by
  induction k generalizing n r s with
  | zero =>
      obtain ⟨n, rfl⟩ := Nat.exists_eq_succ_of_ne_zero (Nat.ne_zero_of_lt hk)
      have he : (z.candidate s).1 = e := h.nth_eq
      rw [search_succ, he, if_pos h.inside]
      rfl
  | succ k ih =>
      obtain ⟨n, rfl⟩ := Nat.exists_eq_succ_of_ne_zero (Nat.ne_zero_of_lt hk)
      obtain ⟨h0, h⟩ := accepts_succ.1 h
      rw [search_succ, h0, if_neg Bool.false_ne_true, ih h (Nat.lt_of_succ_lt_succ hk)]
      simp only [after]
      congr 1
      omega

open Classical in
/-- The first candidate inside, if there ever is one. -/
noncomputable def firstInside (z : Sampler) (s : σ) : Option Edge :=
  if h : ∃ k, z.contains (z.nth k s) = true then some (z.nth (Nat.find h) s) else none

theorem firstInside_of_accepts (h : z.Accepts k s e) : z.firstInside s = some e := by
  have hex : ∃ k, z.contains (z.nth k s) = true := ⟨k, h.nth_eq ▸ h.inside⟩
  rw [firstInside, dif_pos hex, ((accepts_find hex).unique h).2]

theorem firstInside_eq_some_iff : z.firstInside s = some e ↔ ∃ k, z.Accepts k s e := by
  constructor
  · intro h
    by_cases hex : ∃ k, z.contains (z.nth k s) = true
    · rw [firstInside, dif_pos hex] at h
      exact ⟨_, Option.some.inj h ▸ accepts_find hex⟩
    · rw [firstInside, dif_neg hex] at h
      exact nomatch h
  · rintro ⟨k, h⟩
    exact firstInside_of_accepts h

open Classical in
/-- How many candidates come before the first inside, if there ever is one. -/
noncomputable def rejections (z : Sampler) (s : σ) : Nat :=
  if h : ∃ k, z.contains (z.nth k s) = true then Nat.find h else 0

theorem rejections_of_accepts (h : z.Accepts k s e) : z.rejections s = k := by
  have hex : ∃ k, z.contains (z.nth k s) = true := ⟨k, h.nth_eq ▸ h.inside⟩
  rw [rejections, dif_pos hex, ((accepts_find hex).unique h).1]

/-- Samplers that make the same candidates, whichever of them they take. The width of the noise makes no
difference while there is none. -/
structure SameCandidates (z z' : Sampler) : Prop where
  scale : z.scale = z'.scale
  probabilities : z.probabilities = z'.probabilities
  noise : z.noise = z'.noise ∨ z.noise.enabled = false ∧ z'.noise.enabled = false

theorem SameCandidates.shake_eq (h : SameCandidates z z') (w : Weights) (s : σ) :
    z.shake w s = z'.shake w s := by
  rcases h.noise with hn | ⟨hq, hq'⟩
  · rw [shake, shake, hn]
  · rw [shake, shake, hq, hq', if_neg Bool.false_ne_true, if_neg Bool.false_ne_true]

theorem SameCandidates.descend_eq (h : SameCandidates z z') (n : Nat) (w : Weights) (s : σ) :
    z.descend n w s = z'.descend n w s := by
  induction n generalizing w s with
  | zero => rfl
  | succ n ih => rw [descend_succ, descend_succ, h.shake_eq, ih]

theorem SameCandidates.candidate_eq (h : SameCandidates z z') (s : σ) :
    z.candidate s = z'.candidate s := by
  rw [candidate, candidate, h.descend_eq, h.scale, h.probabilities]

theorem SameCandidates.after_eq (h : SameCandidates z z') (k : Nat) (s : σ) :
    z.after k s = z'.after k s := by
  induction k generalizing s with
  | zero => rfl
  | succ k ih => rw [after, after, h.candidate_eq, ih]

theorem SameCandidates.nth_eq (h : SameCandidates z z') (k : Nat) (s : σ) : z.nth k s = z'.nth k s := by
  rw [nth, nth, h.after_eq, h.candidate_eq]

/-- Samplers that make the same candidates and take the same ones. The width of the noise makes no
difference while there is none, and the retry limit never does. -/
structure Alike (z z' : Sampler) : Prop where
  vertexCount : z.vertexCount = z'.vertexCount
  probabilities : z.probabilities = z'.probabilities
  noise : z.noise = z'.noise ∨ z.noise.enabled = false ∧ z'.noise.enabled = false

theorem Alike.sameCandidates (h : Alike z z') : SameCandidates z z' :=
  ⟨congrArg idBits h.vertexCount, h.probabilities, h.noise⟩

theorem Alike.nth_eq (h : Alike z z') (k : Nat) (s : σ) : z.nth k s = z'.nth k s :=
  h.sameCandidates.nth_eq k s

theorem Alike.contains_eq (h : Alike z z') (e : Edge) : z.contains e = z'.contains e := by
  rw [contains, contains, h.vertexCount]

theorem Alike.rejects_iff (h : Alike z z') : z.Rejects n s ↔ z'.Rejects n s := by
  simp only [Rejects, h.nth_eq, h.contains_eq]

theorem Alike.accepts_iff (h : Alike z z') : z.Accepts k s e ↔ z'.Accepts k s e := by
  constructor
  · rintro ⟨hr, he, hi⟩
    exact ⟨h.rejects_iff.1 hr, (h.nth_eq k s).symm.trans he, (h.contains_eq e).symm.trans hi⟩
  · rintro ⟨hr, he, hi⟩
    exact ⟨h.rejects_iff.2 hr, (h.nth_eq k s).trans he, (h.contains_eq e).trans hi⟩

theorem Alike.rejections_eq (h : Alike z z') (s : σ) : z.rejections s = z'.rejections s := by
  by_cases hex : ∃ k, z.contains (z.nth k s) = true
  · have ha := accepts_find hex
    rw [rejections_of_accepts ha, rejections_of_accepts (h.accepts_iff.1 ha)]
  · have hex' : ¬ ∃ k, z'.contains (z'.nth k s) = true := by
      simpa only [h.nth_eq, h.contains_eq] using hex
    rw [rejections, dif_neg hex, rejections, dif_neg hex']

theorem Alike.firstInside_eq (h : Alike z z') (s : σ) : z.firstInside s = z'.firstInside s := by
  apply Option.ext
  intro e
  simp only [firstInside_eq_some_iff, h.accepts_iff]

end RecursiveMatrix.Sampler
