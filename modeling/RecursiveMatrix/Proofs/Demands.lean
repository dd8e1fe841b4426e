import RecursiveMatrix.Proofs.LayoutFree
import RecursiveMatrix.Random.Script

namespace RecursiveMatrix

open Source

variable {σ : Type}

namespace Logged

def asked (l : Logged σ) : List Demand := l.demands.toList

/-- Between the two, so many draws have been asked for and nothing else. -/
def Draws (n : Nat) (l l' : Logged σ) : Prop := l'.asked = l.asked ++ List.replicate n .draw

variable {l l' l'' : Logged σ} {m n : Nat}

theorem draws_zero (l : Logged σ) : Draws 0 l l := (List.append_nil _).symm

theorem Draws.trans (h : Draws m l l') (h' : Draws n l' l'') : Draws (m + n) l l'' := by
  rw [Draws, h', h, List.append_assoc, List.replicate_append_replicate]

variable [Source σ]

theorem source_follows : Follows (source : Logged σ → σ) := fun _ => rfl

theorem source_beginElement (l : Logged σ) (p : UInt64) :
    (beginElement l p).source = beginElement l.source p := rfl

theorem asked_beginElement (l : Logged σ) (p : UInt64) :
    (beginElement l p).asked = l.asked ++ [.beginElement p] :=
  Array.toList_push

theorem draws_draw (l : Logged σ) : Draws 1 l (draw l).2 := Array.toList_push

theorem draws_perturb (w : Weights) (magnitude : Float32) (l : Logged σ) :
    Draws 4 l (w.perturb magnitude l).2 :=
  (((draws_draw l).trans (draws_draw _)).trans (draws_draw _)).trans (draws_draw _)

end Logged

def Block.logged (b : Block σ) : Block (Logged σ) :=
  ⟨b.index, b.blockCount, b.firstElement, b.elementCount, { source := b.source }⟩

namespace Sampler

open Logged

variable [Source σ] {z : Sampler} {B k n p r : Nat} {es : Array Edge} {s s' : σ} {l : Logged σ}
  {found : List (Nat × Edge)}

def drawsPerLevel (z : Sampler) : Nat := if z.noise.enabled then 5 else 1

theorem scale_mul_drawsPerLevel (z : Sampler) : z.scale * z.drawsPerLevel = z.cyclesPerEdge := by
  unfold drawsPerLevel cyclesPerEdge
  split
  · rfl
  · exact Nat.mul_one _

theorem draws_level (z : Sampler) (w : Weights) (l : Logged σ) :
    Draws z.drawsPerLevel l (z.shake w (draw l).2).2 := by
  unfold drawsPerLevel shake
  split
  · exact (draws_draw l).trans (draws_perturb w _ _)
  · exact draws_draw l

theorem draws_descend (z : Sampler) (n : Nat) (w : Weights) (l : Logged σ) :
    Draws (n * z.drawsPerLevel) l (z.descend n w l).2 := by
  induction n generalizing w l with
  | zero =>
      rw [Nat.zero_mul]
      exact draws_zero l
  | succ n ih =>
      rw [descend_succ, Nat.succ_mul, Nat.add_comm]
      exact (z.draws_level w l).trans (ih _ _)

theorem draws_candidate (z : Sampler) (l : Logged σ) : Draws z.cyclesPerEdge l (z.candidate l).2 :=
  z.scale_mul_drawsPerLevel ▸ z.draws_descend z.scale _ l

theorem draws_after (z : Sampler) (k : Nat) (l : Logged σ) :
    Draws (k * z.cyclesPerEdge) l (z.after k l) := by
  induction k generalizing l with
  | zero =>
      rw [Nat.zero_mul]
      exact draws_zero l
  | succ k ih =>
      rw [after, Nat.succ_mul, Nat.add_comm]
      exact (z.draws_candidate l).trans (ih _)

/-- One element asks to be begun, and then for the draws of so many candidates. -/
def elementDemands (z : Sampler) (p candidates : Nat) : List Demand :=
  .beginElement (.ofNat p) :: List.replicate (candidates * z.cyclesPerEdge) .draw

/-- The elements from `p` on, each of which has one candidate more than are rejected. -/
def demandsFrom (z : Sampler) : (p : Nat) → (rejected : List Nat) → List Demand
  | _, [] => []
  | p, k :: ks => z.elementDemands p (k + 1) ++ demandsFrom z (p + 1) ks

theorem asked_element (z : Sampler) (p k : Nat) (l : Logged σ) :
    (z.after k (beginElement l (.ofNat p))).asked = l.asked ++ z.elementDemands p k := by
  rw [z.draws_after k, asked_beginElement, List.append_assoc]
  rfl

theorem count_elementDemands (z : Sampler) (p k : Nat) :
    (z.elementDemands p k).count .draw = z.cyclesPerEdge * k := by
  rw [elementDemands, List.count_cons_of_ne (by simp), List.count_replicate_self, Nat.mul_comm]

theorem count_demandsFrom (z : Sampler) (p : Nat) (rejected : List Nat) :
    (z.demandsFrom p rejected).count .draw = z.cyclesPerEdge * (rejected.length + rejected.sum) := by
  induction rejected generalizing p with
  | nil => rfl
  | cons k ks ih =>
      rw [demandsFrom, List.count_append, count_elementDemands, ih, ← Nat.mul_add, List.length_cons,
        List.sum_cons]
      congr 1
      omega

/-- The elements from `p` on, one after the other. Each is begun where the one before it has left the
source, and its edge is the first candidate inside, after so many others. -/
inductive Serves (z : Sampler) : (p : Nat) → σ → List (Nat × Edge) → σ → Prop
  | nil (p : Nat) (s : σ) : Serves z p s [] s
  | cons {p k : Nat} {s s' : σ} {e : Edge} {found : List (Nat × Edge)}
      (accepts : z.Accepts k (beginElement s (.ofNat p)) e)
      (rest : Serves z (p + 1) (z.after (k + 1) (beginElement s (.ofNat p))) found s') :
      Serves z p s ((k, e) :: found) s'

/-- How a sweep over `n` elements from `p` on ends, and what has been asked for by then. -/
inductive Course (z : Sampler) (B n p r : Nat) (l : Logged σ) (found : List (Nat × Edge)) (s' : σ)
    (t : Sweep (Logged σ)) : Prop
  | finished (complete : t.complete = true) (length : found.length = n)
      (rejected : t.rejected = r + (found.map Prod.fst).sum)
      (asked : t.source.asked = l.asked ++ z.demandsFrom p (found.map Prod.fst))
  | stuck (incomplete : t.complete = false) (length : found.length < n)
      (rejects : z.Rejects B (beginElement s' (.ofNat (p + found.length))))
      (rejected : t.rejected = r + ((found.map Prod.fst).sum + B))
      (asked : t.source.asked =
        l.asked ++ (z.demandsFrom p (found.map Prod.fst) ++ z.elementDemands (p + found.length) B))

theorem Course.cons {k : Nat} {t : Sweep (Logged σ)} (e : Edge)
    (h : z.Course B n (p + 1) (r + k) (z.after (k + 1) (beginElement l (.ofNat p))) found s' t) :
    z.Course B (n + 1) p r l ((k, e) :: found) s' t := by
  cases h with
  | finished hc hlen hrejected hasked =>
      refine .finished hc (congrArg Nat.succ hlen) ?_ ?_
      · rw [hrejected, List.map_cons, List.sum_cons, Nat.add_assoc]
      · rw [hasked, asked_element, List.append_assoc, List.map_cons, demandsFrom]
  | stuck hc hlen hrejects hrejected hasked =>
      have hnext : p + 1 + found.length = p + ((k, e) :: found).length := by
        rw [List.length_cons]
        omega
      rw [hnext] at hrejects hasked
      refine .stuck hc (Nat.succ_lt_succ hlen) hrejects ?_ ?_
      · rw [hrejected, List.map_cons, List.sum_cons]
        omega
      · rw [hasked, asked_element, List.append_assoc, List.map_cons, demandsFrom, List.append_assoc]

theorem sweepFrom_course (z : Sampler) (B n p r : Nat) (es : Array Edge) (l : Logged σ) :
    ∃ found s', z.Serves p l.source found s' ∧
      (z.sweepFrom B n (.ofNat p) es r l).edges.toList = es.toList ++ found.map Prod.snd ∧
      z.Course B n p r l found s' (z.sweepFrom B n (.ofNat p) es r l) := by
  induction n generalizing p r es l with
  | zero =>
      exact ⟨[], l.source, .nil p _, (List.append_nil _).symm,
        .finished rfl rfl rfl (List.append_nil _).symm⟩
  | succ n ih =>
      rcases rejects_or_accepts z B (beginElement l (.ofNat p)) with hr | ⟨k, e, hk, ha⟩
      · have hasked := z.asked_element p B l
        rw [sweepFrom_of_rejects hr]
        refine ⟨[], l.source, .nil p _, (List.append_nil _).symm, .stuck rfl n.succ_pos ?_ ?_ hasked⟩
        · rw [← source_beginElement]
          exact (rejects_follows source_follows).2 hr
        · exact congrArg (r + ·) (Nat.zero_add B).symm
      · obtain ⟨found, s', hserves, hedges, hcourse⟩ :=
          ih (p + 1) (r + k) (es.push e) (z.after (k + 1) (beginElement l (.ofNat p)))
        have ha' := (accepts_follows source_follows).2 ha
        rw [← after_follows source_follows, source_beginElement] at hserves
        rw [source_beginElement] at ha'
        rw [sweepFrom_of_accepts ha hk, ofNat_succ]
        refine ⟨(k, e) :: found, s', .cons ha' hserves, ?_, hcourse.cons e⟩
        rw [hedges, Array.toList_push, List.append_assoc]
        rfl

theorem sweepFrom_follows {τ : Type} [Source τ] {view : σ → τ} (h : Follows view)
    (hbegin : ∀ s p, beginElement (view s) p = view (beginElement s p)) (B n : Nat) (p : UInt64)
    (es : Array Edge) (r : Nat) (s : σ) :
    let t := z.sweepFrom B n p es r s
    z.sweepFrom B n p es r (view s) = ⟨t.edges, t.rejected, view t.source, t.complete⟩ := by
  induction n generalizing p es r s with
  | zero => rfl
  | succ n ih =>
      rcases rejects_or_accepts z B (beginElement s p) with hr | ⟨k, e, hk, ha⟩
      · have hr' := (rejects_follows h).2 hr
        rw [← hbegin] at hr'
        rw [sweepFrom_of_rejects hr, sweepFrom_of_rejects hr', hbegin, after_follows h]
      · have ha' := (accepts_follows h).2 ha
        rw [← hbegin] at ha'
        rw [sweepFrom_of_accepts ha hk, sweepFrom_of_accepts ha' hk, hbegin, after_follows h]
        exact ih _ _ _ _

variable {b : Block σ} {batch : Batch} {patience : Nat}

theorem sweep_logged (z : Sampler) (b : Block σ) (patience : Nat) :
    z.sweep patience b = ⟨(z.sweep patience b.logged).edges, (z.sweep patience b.logged).rejected,
      (z.sweep patience b.logged).source.source, (z.sweep patience b.logged).complete⟩ :=
  sweepFrom_follows (z := z) source_follows (fun _ _ => rfl) (z.budget patience)
    b.elementCount.val.toNat b.firstElement #[] 0 b.logged.source

theorem sample_logged (z : Sampler) (b : Block σ) (patience : Nat) :
    z.sample patience b.logged = z.sample patience b := by
  rw [sample, sample, z.sweep_logged b]
  rfl

theorem sweep_course (z : Sampler) (b : Block σ) (patience : Nat) :
    ∃ found s', z.Serves b.firstElement.toNat b.source found s' ∧
      (z.sweep patience b.logged).edges.toList = found.map Prod.snd ∧
      z.Course (z.budget patience) b.elementCount.val.toNat b.firstElement.toNat 0 b.logged.source
        found s' (z.sweep patience b.logged) := by
  have h := z.sweepFrom_course (z.budget patience) b.elementCount.val.toNat b.firstElement.toNat 0 #[]
    b.logged.source
  rw [UInt64.ofNat_toNat] at h
  exact h

theorem count_asked (z : Sampler) (b : Block σ) (patience : Nat) :
    (z.sweep patience b.logged).source.asked.count .draw =
      z.cyclesPerEdge * ((z.sweep patience b.logged).edges.size + (z.sweep patience b.logged).rejected) := by
  obtain ⟨found, s', -, hedges, hcourse⟩ := z.sweep_course b patience
  rw [← Array.length_toList, hedges, List.length_map]
  cases hcourse with
  | finished hc hlen hrejected hasked =>
      rw [hasked, hrejected, Nat.zero_add]
      exact (z.count_demandsFrom _ _).trans (by rw [List.length_map])
  | stuck hc hlen hrejects hrejected hasked =>
      rw [hasked, hrejected, Nat.zero_add, ← Nat.add_assoc, Nat.mul_add, ← List.length_map Prod.fst,
        ← z.count_demandsFrom b.firstElement.toNat, ← z.count_elementDemands, ← List.count_append]
      rfl

/-- A block begins each of its elements once, in order, and from then on draws for whole candidates
until one of them lies inside. It asks for nothing after the last edge, and where it gives up it does so
after the one candidate more than may be rejected. -/
theorem demands_exact {sourceAt : UInt64 → σ} {elements cycles : UInt64} {maxCount : Positive}
    {blocks : List (Block σ)} (hp : Block.partition sourceAt elements cycles maxCount = .ok blocks)
    (hb : b ∈ blocks) (z : Sampler) (patience : Nat) :
    z.sample patience b.logged = z.sample patience b ∧ b.source = sourceAt b.firstElement ∧
    b.firstElement.toNat + b.elementCount.val.toNat ≤ elements.toNat ∧
    (∀ batch, z.sample patience b = .ok batch → ∃ found s',
      z.Serves b.firstElement.toNat b.source found s' ∧ found.length = b.elementCount.val.toNat ∧
      batch.edges = found.map Prod.snd ∧ batch.rejected = (found.map Prod.fst).sum ∧
      (z.sweep patience b.logged).source.asked =
        z.demandsFrom b.firstElement.toNat (found.map Prod.fst)) ∧
    (∀ e, z.sample patience b = .error (.failed e) → ∃ limit found s',
      z.retryLimit = some limit ∧ e = .retriesExhausted b.index limit.val ∧
      z.Serves b.firstElement.toNat b.source found s' ∧ found.length < b.elementCount.val.toNat ∧
      z.Rejects (limit.val.toNat + 1)
        (beginElement s' (.ofNat (b.firstElement.toNat + found.length))) ∧
      (z.sweep patience b.logged).source.asked =
        z.demandsFrom b.firstElement.toNat (found.map Prod.fst) ++
          z.elementDemands (b.firstElement.toNat + found.length) (limit.val.toNat + 1)) ∧
    (z.sweep patience b.logged).source.asked.count .draw =
      z.cyclesPerEdge *
        ((z.sweep patience b.logged).edges.size + (z.sweep patience b.logged).rejected) := by
  have htiles := Block.tiles_of_partition hp
  obtain ⟨found, s', hserves, hedges, hcourse⟩ := z.sweep_course b patience
  refine ⟨z.sample_logged b patience, htiles.source_of_mem hb, htiles.end_le hb, ?_, ?_,
    z.count_asked b patience⟩
  · intro batch hok
    rw [← sample_logged] at hok
    obtain ⟨hc, rfl⟩ := sample_eq_ok_iff.1 hok
    cases hcourse with
    | finished _ hlen hrejected hasked =>
        exact ⟨found, s', hserves, hlen, hedges, hrejected.trans (Nat.zero_add _), hasked⟩
    | stuck hc' => exact Bool.noConfusion (hc'.symm.trans hc)
  · intro e herror
    rw [← sample_logged] at herror
    obtain ⟨hc, he⟩ := sample_eq_error_iff.1 herror
    cases hl : z.retryLimit with
    | none =>
        rw [stop_of_none hl] at he
        exact nomatch he
    | some limit =>
        rw [stop_of_limit hl] at he
        rw [budget_of_limit hl] at hcourse
        cases hcourse with
        | finished hc' => exact Bool.noConfusion (hc.symm.trans hc')
        | stuck _ hlen hrejects _ hasked =>
            exact ⟨limit, found, s', rfl, Stop.failed.inj he, hserves, hlen, hrejects, hasked⟩

def five : Sampler := (Generator.five .one).sampler

/-- A candidate outside, one inside and two more outside. -/
def outInOutOut (rewinds : Bool) : Script where
  draws := #[0.99, 0.99, 0.99, 0.1, 0.1, 0.1, 0.99, 0.99, 0.99, 0.99, 0.99, 0.99]
  rewinds := rewinds

def four (rewinds : Bool) : Block Script := ⟨0, 1, 0, ⟨4, by decide⟩, outInOutOut rewinds⟩

/-- A script that starts over serves all elements alike, and one that goes on leaves the second stuck. -/
theorem demands_exact_scripted :
    (∃ found s', five.Serves 0 (outInOutOut true) found s' ∧ found.map Prod.snd = List.replicate 4 ⟨0, 0⟩ ∧
      (found.map Prod.fst).sum = 4 ∧
      (five.sweep 0 (four true).logged).source.asked = five.demandsFrom 0 (found.map Prod.fst)) ∧
    ∃ found s', five.Serves 0 (outInOutOut false) found s' ∧ found.length < 4 ∧
      five.Rejects 2 (beginElement s' (.ofNat (0 + found.length))) ∧
      (five.sweep 0 (four false).logged).source.asked =
        five.demandsFrom 0 (found.map Prod.fst) ++ five.elementDemands (0 + found.length) 2 := by
  have hp (rewinds : Bool) :
      Block.partition (fun _ => outInOutOut rewinds) 4 3 .one = .ok [four rewinds] := rfl
  have hok : five.sample 0 (four true) = .ok ⟨List.replicate 4 ⟨0, 0⟩, 4⟩ := by
    have hedges : (five.sweep 0 (four true)).edges.toList = List.replicate 4 ⟨0, 0⟩ := by decide +kernel
    have hrejected : (five.sweep 0 (four true)).rejected = 4 := by decide +kernel
    rw [sample_eq_ok_iff, hedges, hrejected]
    exact ⟨by decide +kernel, rfl⟩
  have hstuck : five.sample 0 (four false) = .error (.failed (.retriesExhausted 0 1)) :=
    sample_eq_error_iff.2 ⟨by decide +kernel, rfl⟩
  constructor
  · obtain ⟨found, s', hserves, -, hedges, hrejected, hasked⟩ :=
      (demands_exact (hp true) (List.mem_singleton_self _) five 0).2.2.2.1 _ hok
    exact ⟨found, s', hserves, hedges.symm, hrejected.symm, hasked⟩
  · obtain ⟨limit, found, s', hl, -, hserves, hlen, hrejects, hasked⟩ :=
      (demands_exact (hp false) (List.mem_singleton_self _) five 0).2.2.2.2.1 _ hstuck
    obtain rfl := Option.some.inj hl
    exact ⟨found, s', hserves, hlen, hrejects, hasked⟩

end Sampler

end RecursiveMatrix
