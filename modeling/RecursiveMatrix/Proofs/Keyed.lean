import RecursiveMatrix.Proofs.Candidates
import RecursiveMatrix.Random.KeyedStream

namespace RecursiveMatrix

namespace Source

variable {σ τ : Type} [Source σ] [Source τ]

/-- A view of a source through which its draws can be followed. -/
def Follows (view : σ → τ) : Prop := ∀ s, draw (view s) = ((draw s).1, view (draw s).2)

def Keeps {α : Type} (part : σ → α) : Prop := ∀ s : σ, part (draw s).2 = part s

end Source

open Source

namespace Weights

variable {σ τ : Type} [Source σ] [Source τ]

theorem perturb_follows {view : σ → τ} (h : Follows view) (w : Weights) (m : Float32) (s : σ) :
    w.perturb m (view s) = ((w.perturb m s).1, view (w.perturb m s).2) := by
  simp only [perturb, h _]

theorem perturb_keeps {α : Type} {part : σ → α} (h : Keeps part) (w : Weights) (m : Float32) (s : σ) :
    part (w.perturb m s).2 = part s := by
  simp only [perturb, h _]

end Weights

namespace Sampler

variable {σ τ : Type} [Source σ] [Source τ] {z : Sampler}

theorem shake_follows {view : σ → τ} (h : Follows view) (w : Weights) (s : σ) :
    z.shake w (view s) = ((z.shake w s).1, view (z.shake w s).2) := by
  unfold shake
  split
  · exact Weights.perturb_follows h w _ s
  · rfl

theorem shake_keeps {α : Type} {part : σ → α} (h : Keeps part) (w : Weights) (s : σ) :
    part (z.shake w s).2 = part s := by
  unfold shake
  split
  · exact Weights.perturb_keeps h w _ s
  · rfl

theorem descend_follows {view : σ → τ} (h : Follows view) (n : Nat) (w : Weights) (s : σ) :
    z.descend n w (view s) = ((z.descend n w s).1, view (z.descend n w s).2) := by
  induction n generalizing w s with
  | zero => rfl
  | succ n ih => simp only [descend_succ, h s, shake_follows h, ih]

theorem descend_keeps {α : Type} {part : σ → α} (h : Keeps part) (n : Nat) (w : Weights) (s : σ) :
    part (z.descend n w s).2 = part s := by
  induction n generalizing w s with
  | zero => rfl
  | succ n ih => rw [descend_succ, ih, shake_keeps h, h]

theorem candidate_follows {view : σ → τ} (h : Follows view) (s : σ) :
    z.candidate (view s) = ((z.candidate s).1, view (z.candidate s).2) := by
  simp only [candidate, descend_follows h]

theorem after_follows {view : σ → τ} (h : Follows view) (k : Nat) (s : σ) :
    z.after k (view s) = view (z.after k s) := by
  induction k generalizing s with
  | zero => rfl
  | succ k ih => rw [after, candidate_follows h, ih, after]

theorem after_keeps {α : Type} {part : σ → α} (h : Keeps part) (k : Nat) (s : σ) :
    part (z.after k s) = part s := by
  induction k generalizing s with
  | zero => rfl
  | succ k ih => rw [after, ih]; exact descend_keeps h _ _ _

theorem nth_follows {view : σ → τ} (h : Follows view) (k : Nat) (s : σ) :
    z.nth k (view s) = z.nth k s := by
  rw [nth, after_follows h, candidate_follows h, nth]

theorem rejects_follows {view : σ → τ} (h : Follows view) {k : Nat} {s : σ} :
    z.Rejects k (view s) ↔ z.Rejects k s := by
  simp only [Rejects, nth_follows h]

theorem accepts_follows {view : σ → τ} (h : Follows view) {k : Nat} {s : σ} {e : Edge} :
    z.Accepts k (view s) e ↔ z.Accepts k s e := by
  constructor
  · rintro ⟨hr, he, hi⟩
    exact ⟨(rejects_follows h).1 hr, (nth_follows h k s).symm.trans he, hi⟩
  · rintro ⟨hr, he, hi⟩
    exact ⟨(rejects_follows h).2 hr, (nth_follows h k s).trans he, hi⟩

end Sampler

namespace KeyedStream

theorem generator_follows : Follows generator := fun _ => rfl

theorem baseSeed_keeps : Keeps baseSeed := fun _ => rfl

theorem beginElement_eq (s : KeyedStream) (p : UInt64) : beginElement s p = positioned s.baseSeed p := rfl

end KeyedStream

namespace Sampler

variable {z : Sampler} {seed : UInt64}

/-- A generator that serves element `j` and nothing else. -/
def freshAt (seed : UInt64) (j : Nat) : Xoshiro := .ofSeed (streamSeed seed (.ofNat j))

noncomputable def edgeAt (z : Sampler) (seed : UInt64) (j : Nat) : Option Edge :=
  z.firstInside (freshAt seed j)

/-- The stream that a block begins element `j` with. -/
def streamAt (seed : UInt64) (j : Nat) : KeyedStream := .positioned seed (.ofNat j)

theorem rejects_streamAt_iff {k j : Nat} :
    z.Rejects k (streamAt seed j) ↔ z.Rejects k (freshAt seed j) :=
  (rejects_follows KeyedStream.generator_follows).symm

theorem accepts_streamAt_iff {k j : Nat} {e : Edge} :
    z.Accepts k (streamAt seed j) e ↔ z.Accepts k (freshAt seed j) e :=
  (accepts_follows KeyedStream.generator_follows).symm

/-- How many candidates of element `j` are rejected. -/
noncomputable def rejectionsAt (z : Sampler) (seed : UInt64) (j : Nat) : Nat :=
  z.rejections (freshAt seed j)

theorem rejectionsAt_of_accepts {j k : Nat} {e : Edge} (h : z.Accepts k (streamAt seed j) e) :
    z.rejectionsAt seed j = k :=
  rejections_of_accepts (accepts_streamAt_iff.1 h)

theorem edgeAt_eq_some_iff {j : Nat} {e : Edge} :
    z.edgeAt seed j = some e ↔ ∃ k, z.Accepts k (streamAt seed j) e := by
  simp only [edgeAt, firstInside_eq_some_iff, accepts_streamAt_iff]

end Sampler

end RecursiveMatrix
