import RecursiveMatrix.Proofs.Draws
import RecursiveMatrix.Proofs.Keyed

namespace RecursiveMatrix

open Source

/-- What can be done to one of several sources: something is asked of it, or it is copied. -/
inductive Operation
  | ask (i : ℕ) (d : Demand)
  | copy (i : ℕ)

namespace Pool

variable {σ τ : Type} [Source σ] [Source τ] {pool : List σ} {ops : List Operation} {op : Operation} {j : ℕ}

def reply (s : σ) : Demand → Option Float32
  | .draw => some (draw s).1
  | .beginElement _ => none

def serve (s : σ) : Demand → σ
  | .draw => (draw s).2
  | .beginElement p => beginElement s p

def step (pool : List σ) : Operation → Option Float32 × List σ
  | .ask i d => (pool[i]?.bind (reply · d), pool.modify i (serve · d))
  | .copy i => (none, pool ++ pool[i]?.toList)

/-- One operation after the other, with the draw that each of them makes, if it makes one. -/
def play : List Operation → List σ → List (Option Float32) × List σ
  | [], pool => ([], pool)
  | op :: ops, pool => ((step pool op).1 :: (play ops (step pool op).2).1, (play ops (step pool op).2).2)

theorem length_step_le (pool : List σ) (op : Operation) : pool.length ≤ (step pool op).2.length := by
  cases op with
  | ask i d => exact Nat.le_of_eq (List.length_modify _ _ _).symm
  | copy i =>
      rw [step, List.length_append]
      exact Nat.le_add_right _ _

theorem step_getElem? (hj : j < pool.length) (h : ∀ d, op ≠ .ask j d) : (step pool op).2[j]? = pool[j]? := by
  cases op with
  | ask i d =>
      have hne : i ≠ j := fun hij => h d (hij ▸ rfl)
      rw [step, List.getElem?_modify]
      simp [hne]
  | copy i => exact List.getElem?_append_left hj

theorem play_getElem? (hj : j < pool.length) (h : ∀ d, .ask j d ∉ ops) :
    (play ops pool).2[j]? = pool[j]? := by
  induction ops generalizing pool with
  | nil => rfl
  | cons op ops ih =>
      have hop : ∀ d, op ≠ .ask j d := fun d hd => h d (hd ▸ List.mem_cons_self)
      rw [play, ih (Nat.lt_of_lt_of_le hj (length_step_le pool op)) fun d hd => h d (List.mem_cons_of_mem _ hd),
        step_getElem? hj hop]

section Invariant

variable {P : σ → Prop}

theorem step_forall (hP : ∀ s d, P s → P (serve s d)) (h : ∀ s ∈ pool, P s) (op : Operation) :
    ∀ s ∈ (step pool op).2, P s := by
  intro s hs
  cases op with
  | ask i d =>
      obtain ⟨j, hj⟩ := List.mem_iff_getElem?.1 hs
      rw [step, List.getElem?_modify, Option.map_eq_map, Option.map_eq_some_iff] at hj
      obtain ⟨t, ht, rfl⟩ := hj
      have ht := h t (List.mem_of_getElem? ht)
      split_ifs
      · exact hP t d ht
      · exact ht
  | copy i =>
      rcases List.mem_append.1 hs with hs | hs
      · exact h s hs
      · exact h s (List.mem_of_getElem? (Option.mem_toList.1 hs))

theorem play_forall (hP : ∀ s d, P s → P (serve s d)) (h : ∀ s ∈ pool, P s) (ops : List Operation) :
    ∀ s ∈ (play ops pool).2, P s := by
  induction ops generalizing pool with
  | nil => exact h
  | cons op ops ih => exact ih (step_forall hP h op)

end Invariant

/-- A view of a source that follows all that is asked of it. -/
structure Mirrors (view : σ → τ) : Prop where
  reply : ∀ s d, reply (view s) d = reply s d
  serve : ∀ s d, serve (view s) d = view (serve s d)

section View

variable {view : σ → τ} (h : Mirrors view)
include h

theorem step_view (pool : List σ) (op : Operation) :
    step (pool.map view) op = ((step pool op).1, (step pool op).2.map view) := by
  cases op with
  | ask i d =>
      refine Prod.ext ?_ (List.ext_getElem? fun j => ?_)
      · simp only [step, List.getElem?_map]
        cases pool[i]? with
        | none => rfl
        | some s => exact h.reply s d
      · simp only [step, List.getElem?_map, List.getElem?_modify]
        cases pool[j]? with
        | none => rfl
        | some s =>
            by_cases hij : i = j
            · simp [hij, h.serve]
            · simp [hij]
  | copy i =>
      simp only [step, List.getElem?_map, List.map_append]
      cases pool[i]? <;> rfl

theorem play_view (ops : List Operation) (pool : List σ) :
    play ops (pool.map view) = ((play ops pool).1, (play ops pool).2.map view) := by
  induction ops generalizing pool with
  | nil => rfl
  | cons op ops ih => rw [play, step_view h, ih, play]

end View

end Pool

open Pool

/-- All that was asked of a stream that was first positioned at `first`, latest first. -/
structure History where
  baseSeed : UInt64
  first : UInt64
  demands : List Demand := []

namespace History

def positionAfter (first : UInt64) : List Demand → UInt64
  | [] => first
  | .draw :: ds => positionAfter first ds
  | .beginElement p :: _ => p

def drawsAfter : List Demand → ℕ
  | [] => 0
  | .draw :: ds => drawsAfter ds + 1
  | .beginElement _ :: _ => 0

def position (h : History) : UInt64 := positionAfter h.first h.demands

def drawn (h : History) : ℕ := drawsAfter h.demands

def fresh (h : History) : Xoshiro := .ofSeed (streamSeed h.baseSeed h.position)

/-- A history draws as a generator does that serves its position and nothing else. -/
instance : Source History where
  draw h := (upcoming h.drawn h.fresh, { h with demands := .draw :: h.demands })
  beginElement h p := { h with demands := .beginElement p :: h.demands }

def stream (h : History) : KeyedStream := ⟨h.baseSeed, skip h.drawn h.fresh⟩

theorem stream_start (seed first : UInt64) : stream ⟨seed, first, []⟩ = .positioned seed first := by
  have hstart : stream ⟨seed, first, []⟩ = ⟨seed, skip 0 (fresh ⟨seed, first, []⟩)⟩ := rfl
  rw [hstart]
  rfl

theorem stream_draw (h : History) : draw h.stream = ((draw h).1, (draw h).2.stream) := by
  have hnext : (draw h).2.stream = ⟨h.baseSeed, skip (h.drawn + 1) h.fresh⟩ := rfl
  rw [hnext, skip_succ]
  rfl

theorem stream_beginElement (h : History) (p : UInt64) :
    beginElement h.stream p = (beginElement h p).stream := by
  have hnext : (beginElement h p).stream = ⟨h.baseSeed, skip 0 (beginElement h p).fresh⟩ := rfl
  rw [hnext]
  rfl

theorem stream_mirrors : Mirrors stream where
  reply h d := by
    cases d with
    | draw => exact congrArg (fun r => some r.1) h.stream_draw
    | beginElement p => rfl
  serve h d := by
    cases d with
    | draw => exact congrArg Prod.snd h.stream_draw
    | beginElement p => exact h.stream_beginElement p

end History

theorem baseSeed_serve (s : KeyedStream) (d : Demand) : (serve s d).baseSeed = s.baseSeed := by
  cases d with
  | draw => exact KeyedStream.baseSeed_keeps s
  | beginElement p => rw [serve, KeyedStream.beginElement_eq, KeyedStream.positioned]

/-- However streams that come from one are drawn from, repositioned and copied, each of them draws what a
generator draws that is fresh at the position begun last in its own history. -/
theorem streams_keyed (seed first : UInt64) (ops : List Operation) :
    play ops [KeyedStream.positioned seed first] =
      ((play ops [(⟨seed, first, []⟩ : History)]).1,
        (play ops [(⟨seed, first, []⟩ : History)]).2.map History.stream) ∧
    (∀ s ∈ (play ops [KeyedStream.positioned seed first]).2, ∀ p,
      beginElement s p = .positioned seed p) ∧
    ∀ (pool : List KeyedStream) (j : ℕ), j < pool.length → (∀ d, .ask j d ∉ ops) →
      (play ops pool).2[j]? = pool[j]? := by
  refine ⟨?_, fun s hs p => ?_, fun pool j hj h => play_getElem? hj h⟩
  · rw [← History.stream_start]
    exact play_view History.stream_mirrors ops [⟨seed, first, []⟩]
  · have hseed : s.baseSeed = seed := by
      refine play_forall (fun s d h => (baseSeed_serve s d).trans h) (fun t ht => ?_) ops s hs
      rw [List.mem_singleton.1 ht, KeyedStream.positioned]
    rw [KeyedStream.beginElement_eq, hseed]

/-- A stream and a copy of it both come to position seven, one of them twice. -/
def toSeven : List Operation :=
  [.ask 0 .draw, .copy 0, .ask 1 (.beginElement 7), .ask 1 .draw, .ask 0 .draw, .ask 0 (.beginElement 7),
    .ask 0 .draw, .ask 1 (.beginElement 7), .ask 1 .draw]

theorem streams_keyed_seven :
    let seven := some (some (upcoming 0 (Xoshiro.ofSeed (streamSeed 9 7))))
    let r := play toSeven [KeyedStream.positioned 9 40]
    (r.1[3]? = seven ∧ r.1[6]? = seven ∧ r.1[8]? = seven) ∧
      (∀ s ∈ r.2, beginElement s 7 = .positioned 9 7) ∧
      (play [.ask 0 .draw] r.2).2[1]? = r.2[1]? := by
  obtain ⟨hdraws, hbegun, -⟩ := streams_keyed 9 40 toSeven
  obtain ⟨-, -, hothers⟩ := streams_keyed 9 40 [.ask 0 .draw]
  have hlength : 1 < (play toSeven [KeyedStream.positioned 9 40]).2.length := by
    rw [hdraws, List.length_map]
    decide +kernel
  intro seven r
  refine ⟨?_, fun s hs => hbegun s hs 7, hothers _ 1 hlength fun d => by simp⟩
  rw [show r = _ from hdraws]
  decide +kernel

end RecursiveMatrix
