import RecursiveMatrix.Proofs.Account
import RecursiveMatrix.Proofs.Addresses
import RecursiveMatrix.Proofs.Demands
import RecursiveMatrix.Proofs.OutputContract

namespace RecursiveMatrix.Sampler

open Source Logged

section Cells

variable {z : Sampler} {k : Nat} {path : List Quadrant}

theorem contains_of_two_pow_le (h : 2 ^ path.length ≤ z.vertexCount.val.toNat) :
    z.contains (.ofPath path) = true := by
  obtain ⟨hsource, htarget⟩ := Edge.ofPath_lt path
  rw [contains_iff, UInt64.lt_iff_toNat_lt, UInt64.lt_iff_toNat_lt]
  exact ⟨Nat.lt_of_lt_of_le hsource h, Nat.lt_of_lt_of_le htarget h⟩

theorem two_pow_scale_of_eq (h : z.vertexCount.val.toNat = 2 ^ k) :
    2 ^ z.scale = z.vertexCount.val.toNat := by
  apply Nat.le_antisymm
  · rw [h]
    exact Nat.pow_le_pow_right Nat.two_pos (idBits_le_iff.2 (Nat.le_of_eq h))
  · exact idBits_le_iff.1 (Nat.le_refl z.scale)

/-- The first quadrant decides on the half of the ids, and the first half is inside. -/
theorem contains_topLeft (h : path.length + 1 = z.scale) :
    z.contains (.ofPath (.topLeft :: path)) = true := by
  have hskip : Edge.ofPath (.topLeft :: path) = .ofPath path := rfl
  rw [hskip]
  have hless : path.length < z.scale := by omega
  exact contains_of_two_pow_le (Nat.le_of_lt (lt_idBits_iff.1 hless))

/-- The last cell of the matrix is inside only if the matrix is no larger than it has to be. -/
theorem contains_all_iff (z : Sampler) :
    (∀ path, path.length = z.scale → z.contains (.ofPath path) = true) ↔
      ∃ k, z.vertexCount.val.toNat = 2 ^ k := by
  constructor
  · intro h
    have hscale : z.scale ≤ 64 := idBits_le z.vertexCount
    let last : UInt64 := .ofNat (2 ^ z.scale - 1)
    have hpow : 0 < 2 ^ z.scale := Nat.two_pow_pos z.scale
    have hlast : last.toNat = 2 ^ z.scale - 1 := by
      apply UInt64.toNat_ofNat_of_lt'
      have hle : 2 ^ z.scale ≤ 2 ^ 64 := Nat.pow_le_pow_right Nat.two_pos hscale
      simp only [UInt64.size]
      omega
    have hlt : last.toNat < 2 ^ z.scale := by omega
    have hin := h (Edge.path z.scale ⟨last, last⟩) (by simp [Edge.path])
    rw [Edge.ofPath_path hscale hlt hlt, contains_iff, UInt64.lt_iff_toNat_lt, hlast] at hin
    have htight : z.vertexCount.val.toNat ≤ 2 ^ z.scale := idBits_le_iff.1 (Nat.le_refl z.scale)
    exact ⟨z.scale, by omega⟩
  · rintro ⟨k, hk⟩ path hlen
    exact contains_of_two_pow_le (hlen ▸ Nat.le_of_eq (two_pow_scale_of_eq hk))

end Cells

variable {σ : Type} [Source σ] {z : Sampler} {B k n patience : Nat} {p : UInt64} {s : σ} {b : Block σ}

theorem contains_candidate_of_pow (h : z.vertexCount.val.toNat = 2 ^ k) (s : σ) :
    z.contains (z.candidate s).1 = true := by
  rw [candidate_fst]
  exact (contains_all_iff z).2 ⟨k, h⟩ _ (by simp)

theorem contains_candidate_of_topLeft (h : z.selected s 0 = .topLeft) :
    z.contains (z.candidate s).1 = true := by
  rw [candidate_fst]
  cases hscale : z.scale with
  | zero => exact contains_of_two_pow_le z.vertexCount.toNat_pos
  | succ n =>
      rw [List.range_succ_eq_map, List.map_cons, h]
      exact contains_topLeft (by simp [hscale])

theorem selected_zero (h : (draw s).1 ≤ z.probabilities.a) : z.selected s 0 = .topLeft := if_pos h

/-- The sources that `n` elements from `p` on begin with, if each of them takes one candidate. -/
def openingsFrom (z : Sampler) : (n : Nat) → (p : UInt64) → σ → List σ
  | 0, _, _ => []
  | n + 1, p, s =>
    beginElement s p :: openingsFrom z n (p + 1) (z.candidate (beginElement s p)).2

def firstTries (z : Sampler) (b : Block σ) : List Edge :=
  (z.openingsFrom b.elementCount.val.toNat b.firstElement b.source).map fun t => (z.candidate t).1

theorem length_openingsFrom (z : Sampler) (n : Nat) (p : UInt64) (s : σ) :
    (z.openingsFrom n p s).length = n := by
  induction n generalizing p s with
  | zero => rfl
  | succ n ih => rw [openingsFrom, List.length_cons, ih]

theorem sweepFrom_of_openings (es : Array Edge) (r : Nat) (hB : 0 < B)
    (h : ∀ t ∈ z.openingsFrom n p s, z.contains (z.candidate t).1 = true) :
    (z.sweepFrom B n p es r s).complete = true ∧ (z.sweepFrom B n p es r s).rejected = r ∧
      (z.sweepFrom B n p es r s).edges.toList =
        es.toList ++ (z.openingsFrom n p s).map fun t => (z.candidate t).1 := by
  induction n generalizing p es s with
  | zero => exact ⟨rfl, rfl, (List.append_nil _).symm⟩
  | succ n ih =>
      have ha : z.Accepts 0 (beginElement s p) (z.candidate (beginElement s p)).1 :=
        ⟨fun i hi => absurd hi i.not_lt_zero, rfl, h _ List.mem_cons_self⟩
      have hrest := fun t ht => h t (List.mem_cons_of_mem _ ht)
      obtain ⟨hc, hrejected, hedges⟩ := ih (es.push (z.candidate (beginElement s p)).1) hrest
      rw [sweepFrom_of_accepts ha hB]
      refine ⟨hc, hrejected, hedges.trans ?_⟩
      rw [Array.toList_push, List.append_assoc]
      rfl

/-- Each element of a block takes its first candidate. Nothing is rejected, and the source is asked for no
more draws than these candidates need. -/
structure AtOnce (z : Sampler) (b : Block σ) (patience : Nat) : Prop where
  report : z.report b (z.sweep patience b) =
    ⟨.ok ⟨z.firstTries b, 0⟩, [.emitted (finished (b, ⟨z.firstTries b, 0⟩))],
      { generated := b.elementCount.val.toNat, rejected := 0 }⟩
  draws : (z.sweep patience b.logged).source.asked.count .draw =
    b.elementCount.val.toNat * z.cyclesPerEdge

theorem budget_pos (h : z.retryLimit = none → 0 < patience) : 0 < z.budget patience := by
  cases hl : z.retryLimit with
  | none =>
      rw [budget_of_none hl]
      exact h hl
  | some limit =>
      rw [budget_of_limit hl]
      exact Nat.succ_pos _

theorem atOnce_of_openings (hpatience : z.retryLimit = none → 0 < patience)
    (h : ∀ t ∈ z.openingsFrom b.elementCount.val.toNat b.firstElement b.source,
      z.contains (z.candidate t).1 = true) : z.AtOnce b patience := by
  obtain ⟨hc, hrejected, hedges⟩ := sweepFrom_of_openings #[] 0 (budget_pos hpatience) h
  have hok : z.sample patience b = .ok ⟨z.firstTries b, 0⟩ :=
    sample_eq_ok_iff.2 ⟨hc, congr (congrArg Batch.mk hedges.symm) hrejected.symm⟩
  obtain ⟨-, hlogged⟩ := sample_eq_ok_iff.1 ((z.sample_logged b patience).trans hok)
  obtain ⟨hfirst, hnone⟩ := Batch.mk.inj hlogged
  refine ⟨report_of_ok hok, ?_⟩
  rw [count_asked, ← hnone, ← Array.length_toList, ← hfirst, firstTries, List.length_map,
    length_openingsFrom, Nat.add_zero, Nat.mul_comm]

/-- A number of vertices that is a power of two leaves nothing of the matrix outside, so that whatever is
drawn each element takes its first candidate. With any other some cell is outside, but none whose path
starts at the top left, and candidates that all start with a draw up to the first share do as well. -/
theorem rejection_impossible (z : Sampler) :
    ((∃ k, z.vertexCount.val.toNat = 2 ^ k) ↔
      ∀ path, path.length = z.scale → z.contains (.ofPath path) = true) ∧
    ((∃ k, z.vertexCount.val.toNat = 2 ^ k) → ∀ (σ : Type) [Source σ],
      (∀ s : σ, z.contains (z.candidate s).1 = true) ∧
      ∀ (b : Block σ) patience, (z.retryLimit = none → 0 < patience) → z.AtOnce b patience) ∧
    (∀ path, path.length + 1 = z.scale → z.contains (.ofPath (.topLeft :: path)) = true) ∧
    ∀ (σ : Type) [Source σ],
      (∀ s : σ, z.selected s 0 = .topLeft → z.contains (z.candidate s).1 = true) ∧
      ∀ (b : Block σ) patience, (z.retryLimit = none → 0 < patience) →
        (∀ t ∈ z.openingsFrom b.elementCount.val.toNat b.firstElement b.source,
          (draw t).1 ≤ z.probabilities.a) → z.AtOnce b patience := by
  refine ⟨(contains_all_iff z).symm, ?_, fun path hlen => contains_topLeft hlen, fun σ _ => ⟨?_, ?_⟩⟩
  · rintro ⟨k, hk⟩ σ _
    have hin (s : σ) : z.contains (z.candidate s).1 = true := contains_candidate_of_pow hk s
    exact ⟨hin, fun b patience hpatience => atOnce_of_openings hpatience fun t _ => hin t⟩
  · exact fun s hs => contains_candidate_of_topLeft hs
  · intro b patience hpatience hdraws
    apply atOnce_of_openings hpatience
    intro t ht
    exact contains_candidate_of_topLeft (selected_zero (hdraws t ht))

def noisySixteen : Sampler := ⟨⟨16, by decide⟩, default, ⟨true, 1, by decide, by decide⟩, some .one⟩

/-- Draws that are no numbers. -/
def unordered : Block Script :=
  ⟨0, 1, 0, ⟨6, by decide⟩, { draws := #[.ofBits 0x7FC00000], rewinds := true }⟩

/-- Each time a first draw within the first share, then two far beyond. -/
def topLeftFirst : Block Script :=
  ⟨0, 1, 0, ⟨6, by decide⟩, { draws := #[0.5, 0.99, 0.99], rewinds := true }⟩

theorem rejection_impossible_sixteen : noisySixteen.vertexCount.val.toNat = 2 ^ 4 ∧
    noisySixteen.AtOnce unordered 0 ∧ five.AtOnce topLeftFirst 0 ∧
    five.firstTries topLeftFirst = List.replicate 6 ⟨3, 3⟩ ∧
    five.contains (.ofPath [.topLeft, .bottomRight, .bottomRight]) = true := by
  have hpow : noisySixteen.vertexCount.val.toNat = 2 ^ 4 := rfl
  have hdraws : ∀ t ∈ five.openingsFrom topLeftFirst.elementCount.val.toNat
      topLeftFirst.firstElement topLeftFirst.source, (draw t).1 ≤ five.probabilities.a := by
    decide +kernel
  obtain ⟨-, hsixteen, -⟩ := rejection_impossible noisySixteen
  obtain ⟨-, -, hpath, hfive⟩ := rejection_impossible five
  exact ⟨hpow, (hsixteen ⟨4, hpow⟩ Script).2 unordered 0 nofun,
    (hfive Script).2 topLeftFirst 0 nofun hdraws, by decide +kernel, hpath _ rfl⟩

end RecursiveMatrix.Sampler
