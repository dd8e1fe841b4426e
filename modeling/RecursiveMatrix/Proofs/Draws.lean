import RecursiveMatrix.Proofs.Addresses

namespace RecursiveMatrix

namespace Source

variable {σ : Type} [Source σ]

def skip (n : Nat) (s : σ) : σ := (fun s => (draw s).2)^[n] s

/-- The draw that comes after `n` others. -/
def upcoming (n : Nat) (s : σ) : Float32 := (draw (skip n s)).1

theorem skip_succ (n : Nat) (s : σ) : skip (n + 1) s = (draw (skip n s)).2 :=
  Function.iterate_succ_apply' _ n s

theorem skip_add (m n : Nat) (s : σ) : skip (m + n) s = skip m (skip n s) :=
  Function.iterate_add_apply _ m n s

theorem upcoming_skip (m n : Nat) (s : σ) : upcoming m (skip n s) = upcoming (m + n) s := by
  rw [upcoming, upcoming, skip_add]

end Source

namespace Sampler

open Source

variable {σ : Type} [Source σ] {z : Sampler}

theorem descend_snd (z : Sampler) (n : Nat) (t : Weights × σ) :
    (z.descend n t.1 t.2).2 = (z.down^[n] t).2 := by
  induction n generalizing t with
  | zero => rfl
  | succ n ih =>
      rw [descend_succ, Function.iterate_succ_apply]
      exact ih (z.down t)

/-- Without noise the configured shares are in force on every level, and a level takes one draw. -/
theorem down_quiet (h : z.noise.enabled = false) (s : σ) (i : Nat) :
    z.down^[i] (z.top s) = (z.probabilities.weights, skip i s) := by
  induction i with
  | zero => rfl
  | succ i ih =>
      rw [Function.iterate_succ_apply', ih, down, shake, if_neg (Bool.eq_false_iff.1 h), skip_succ]

theorem selected_quiet (h : z.noise.enabled = false) (s : σ) (i : Nat) :
    z.selected s i =
      .select (upcoming i s) z.probabilities.a z.probabilities.b z.probabilities.c := by
  rw [selected, down_quiet h, pick]
  rfl

theorem candidate_quiet (h : z.noise.enabled = false) (s : σ) : (z.candidate s).2 = skip z.scale s := by
  have hsource := z.descend_snd z.scale (z.top s)
  rw [down_quiet h] at hsource
  exact hsource

theorem after_quiet (h : z.noise.enabled = false) (k : Nat) (s : σ) :
    z.after k s = skip (k * z.scale) s := by
  induction k generalizing s with
  | zero =>
      rw [Nat.zero_mul]
      rfl
  | succ k ih => rw [after, candidate_quiet h, ih, ← skip_add, Nat.succ_mul]

end Sampler

end RecursiveMatrix
