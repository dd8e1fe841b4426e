import Mathlib.Algebra.Ring.Nat
import Mathlib.Data.List.GetD
import Mathlib.Data.List.Induction
import Mathlib.Logic.Function.Iterate
import RecursiveMatrix.Proofs.Candidates
import RecursiveMatrix.Random.Script

namespace RecursiveMatrix

namespace Word

variable {i k n : Nat} {w : UInt64}

theorem bitLength_le_iff : bitLength w ≤ k ↔ w.toNat < 2 ^ k := by
  unfold bitLength
  split
  next h =>
    subst h
    exact iff_of_true (Nat.zero_le k) (Nat.two_pow_pos k)
  next h => exact Nat.log2_lt (Nat.ne_of_gt (toNat_pos h))

/-- The word that is written in these binary digits, the highest of them first. -/
def ofBits (bits : List Bool) : UInt64 := bits.foldl (fun w b => w <<< 1 ||| b.toUInt64) 0

/-- The `n` lowest binary digits of a word, the highest of them first. -/
def bits (n : Nat) (w : UInt64) : List Bool := (List.range n).map fun i => w.toNat.testBit (n - 1 - i)

theorem ofBits_concat (bs : List Bool) (b : Bool) :
    ofBits (bs ++ [b]) = ofBits bs <<< 1 ||| b.toUInt64 := List.foldl_append

theorem testBit_push_zero (w : UInt64) (b : Bool) :
    (w <<< 1 ||| b.toUInt64).toNat.testBit 0 = b := by
  rw [UInt64.toNat_or, Nat.testBit_or, UInt64.toNat_shiftLeft, Nat.testBit_mod_two_pow]
  cases b <;> simp [Bool.toUInt64]

theorem testBit_push_succ (w : UInt64) (b : Bool) (hi : i + 1 < 64) :
    (w <<< 1 ||| b.toUInt64).toNat.testBit (i + 1) = w.toNat.testBit i := by
  rw [UInt64.toNat_or, Nat.testBit_or, UInt64.toNat_shiftLeft, Nat.testBit_mod_two_pow]
  have hb : b.toUInt64.toNat ≤ 1 := by cases b <;> decide
  replace hb := Nat.testBit_lt_two_pow (Nat.lt_of_le_of_lt hb (Nat.one_lt_two_pow i.succ_ne_zero))
  simp [hb, hi]

/-- No digit is lost among the first 64 from the end. -/
theorem testBit_ofBits (bs : List Bool) (hi : i < 64) :
    (ofBits bs).toNat.testBit i = bs.reverse.getD i false := by
  induction bs using List.reverseRecOn generalizing i with
  | nil => simp [ofBits]
  | append_singleton bs b ih =>
      rw [ofBits_concat, List.reverse_concat]
      cases i with
      | zero => exact testBit_push_zero _ b
      | succ i =>
          rw [testBit_push_succ _ b hi, List.getD_cons_succ]
          exact ih (Nat.lt_of_succ_lt hi)

theorem testBit_of_le (hi : 64 ≤ i) : w.toNat.testBit i = false :=
  Nat.testBit_lt_two_pow (Nat.lt_of_lt_of_le w.toNat_lt (Nat.pow_le_pow_right Nat.two_pos hi))

theorem ofBits_lt (bs : List Bool) : (ofBits bs).toNat < 2 ^ bs.length := by
  apply Nat.lt_pow_two_of_testBit
  intro i hi
  by_cases h : i < 64
  · rw [testBit_ofBits bs h, List.getD_eq_default]
    simpa using hi
  · exact testBit_of_le (Nat.le_of_not_lt h)

theorem toNat_ofBits_replicate (hn : n ≤ 64) :
    (ofBits (List.replicate n true)).toNat = 2 ^ n - 1 := by
  apply Nat.eq_of_testBit_eq
  intro i
  rw [Nat.testBit_two_pow_sub_one]
  rcases Nat.lt_or_ge i n with hi | hi
  · rw [testBit_ofBits _ (Nat.lt_of_lt_of_le hi hn), List.reverse_replicate, List.getD_replicate _ hi,
      decide_eq_true hi]
  · have hlt := ofBits_lt (List.replicate n true)
    rw [List.length_replicate] at hlt
    rw [Nat.testBit_lt_two_pow (Nat.lt_of_lt_of_le hlt (Nat.pow_le_pow_right Nat.two_pos hi)),
      decide_eq_false (Nat.not_lt_of_le hi)]

theorem bits_ofBits (bs : List Bool) (h : bs.length ≤ 64) : bits bs.length (ofBits bs) = bs := by
  apply List.ext_getElem
  · simp [bits]
  · intro i hi hlt
    simp only [bits, List.getElem_map, List.getElem_range]
    rw [testBit_ofBits bs (by omega), List.getD_eq_getElem _ _ (by simp; omega), List.getElem_reverse]
    congr 1
    omega

theorem ofBits_bits (hn : n ≤ 64) (h : w.toNat < 2 ^ n) : ofBits (bits n w) = w := by
  apply UInt64.toNat_inj.1
  apply Nat.eq_of_testBit_eq
  intro i
  by_cases hi : i < n
  · rw [testBit_ofBits _ (by omega), List.getD_eq_getElem _ _ (by simpa [bits] using hi),
      List.getElem_reverse]
    simp only [bits, List.getElem_map, List.getElem_range, List.length_map, List.length_range]
    congr 1
    omega
  · have hbits : (ofBits (bits n w)).toNat < 2 ^ n := by simpa [bits] using ofBits_lt (bits n w)
    have hpow : 2 ^ n ≤ 2 ^ i := Nat.pow_le_pow_right Nat.two_pos (Nat.le_of_not_lt hi)
    rw [Nat.testBit_lt_two_pow (Nat.lt_of_lt_of_le hbits hpow),
      Nat.testBit_lt_two_pow (Nat.lt_of_lt_of_le h hpow)]

end Word

open Word

theorem idBits_le_iff {n : Positive} {k : Nat} : idBits n ≤ k ↔ n.val.toNat ≤ 2 ^ k := by
  have hpos := n.toNat_pos
  have hle : (1 : UInt64) ≤ n.val := UInt64.le_iff_toNat_le.2 hpos
  rw [idBits, bitLength_le_iff, UInt64.toNat_sub_of_le _ _ hle, UInt64.toNat_one]
  omega

theorem lt_idBits_iff {n : Positive} {k : Nat} : k < idBits n ↔ 2 ^ k < n.val.toNat := by
  rw [← Nat.not_le, idBits_le_iff, Nat.not_le]

theorem idBits_le (n : Positive) : idBits n ≤ 64 :=
  idBits_le_iff.2 (Nat.le_of_lt n.val.toNat_lt)

namespace Edge

variable {e : Edge} {n : Nat} {qs : List Quadrant}

/-- The path of `n` quadrants that leads to a cell, as the bits of its ids tell it. -/
def path (n : Nat) (e : Edge) : List Quadrant :=
  (List.range n).map fun i =>
    .ofBits (e.source.toNat.testBit (n - 1 - i)) (e.target.toNat.testBit (n - 1 - i))

theorem ofPath_eq (qs : List Quadrant) :
    ofPath qs = ⟨ofBits (qs.map (·.sourceBit)), ofBits (qs.map (·.targetBit))⟩ := by
  induction qs using List.reverseRecOn with
  | nil => rfl
  | append_singleton qs q ih =>
      have hstep : ofPath (qs ++ [q]) = (ofPath qs).append q := List.foldl_append
      rw [hstep, ih, List.map_append, List.map_append]
      simp only [List.map_cons, List.map_nil, ofBits_concat]
      rfl

theorem ofPath_lt (qs : List Quadrant) :
    (ofPath qs).source.toNat < 2 ^ qs.length ∧ (ofPath qs).target.toNat < 2 ^ qs.length := by
  rw [ofPath_eq]
  have hsource := ofBits_lt (qs.map (·.sourceBit))
  have htarget := ofBits_lt (qs.map (·.targetBit))
  rw [List.length_map] at hsource htarget
  exact ⟨hsource, htarget⟩

theorem path_eq_zipWith (n : Nat) (e : Edge) :
    e.path n = List.zipWith .ofBits (bits n e.source) (bits n e.target) := by
  rw [path, bits, bits, List.zipWith_map, List.zipWith_self]

theorem path_ofPath (h : qs.length ≤ 64) : (ofPath qs).path qs.length = qs := by
  have hsource := bits_ofBits (qs.map (·.sourceBit)) (by simpa using h)
  have htarget := bits_ofBits (qs.map (·.targetBit)) (by simpa using h)
  rw [List.length_map] at hsource htarget
  rw [path_eq_zipWith, ofPath_eq, hsource, htarget, List.zipWith_map, List.zipWith_self]
  simp

theorem ofPath_path (hn : n ≤ 64) (hs : e.source.toNat < 2 ^ n) (ht : e.target.toNat < 2 ^ n) :
    ofPath (e.path n) = e := by
  have hsource : (e.path n).map (·.sourceBit) = bits n e.source := by simp [path, bits]
  have htarget : (e.path n).map (·.targetBit) = bits n e.target := by simp [path, bits]
  rw [ofPath_eq, hsource, htarget, ofBits_bits hn hs, ofBits_bits hn ht]

end Edge

namespace Sampler

open Source

variable {σ : Type} [Source σ]

/-- One level of a candidate: the shares in force on it and the source it draws from. -/
def down (z : Sampler) (t : Weights × σ) : Weights × σ := z.shake t.1 (draw t.2).2

def pick (t : Weights × σ) : Quadrant := .select (draw t.2).1 t.1.a t.1.b t.1.c

theorem descend_fst (z : Sampler) (n : Nat) (t : Weights × σ) :
    (z.descend n t.1 t.2).1 = (List.range n).map fun i => pick (z.down^[i] t) := by
  induction n generalizing t with
  | zero => rfl
  | succ n ih =>
      rw [descend_succ, List.range_succ_eq_map, List.map_cons, List.map_map]
      exact congrArg (pick t :: ·) (ih (z.down t))

def top (z : Sampler) (s : σ) : Weights × σ := (z.probabilities.weights, s)

def selected (z : Sampler) (s : σ) (i : Nat) : Quadrant := pick (z.down^[i] (z.top s))

theorem candidate_fst (z : Sampler) (s : σ) :
    (z.candidate s).1 = .ofPath ((List.range z.scale).map (z.selected s)) :=
  congrArg Edge.ofPath (z.descend_fst z.scale (z.top s))

theorem candidate_lt (z : Sampler) (s : σ) : (z.candidate s).1.source.toNat < 2 ^ z.scale ∧
    (z.candidate s).1.target.toNat < 2 ^ z.scale := by
  have hlt := Edge.ofPath_lt ((List.range z.scale).map (z.selected s))
  rwa [List.length_map, List.length_range, ← candidate_fst] at hlt

theorem candidate_path (z : Sampler) (s : σ) :
    (z.candidate s).1.path z.scale = (List.range z.scale).map (z.selected s) := by
  have hlen : ((List.range z.scale).map (z.selected s)).length = z.scale := by simp
  have hpath := Edge.path_ofPath (Nat.le_trans (Nat.le_of_eq hlen) (idBits_le z.vertexCount))
  rwa [hlen, ← candidate_fst] at hpath

theorem testBit_candidate (z : Sampler) (s : σ) {i : Nat} (hi : i < z.scale) :
    (z.candidate s).1.source.toNat.testBit (z.scale - 1 - i) = (z.selected s i).sourceBit ∧
      (z.candidate s).1.target.toNat.testBit (z.scale - 1 - i) = (z.selected s i).targetBit := by
  have hget := congrArg (·[i]?) (z.candidate_path s)
  simp only [Edge.path, List.getElem?_map, List.getElem?_range hi, Option.map_some,
    Option.some.injEq] at hget
  rw [← hget, Quadrant.sourceBit_ofBits, Quadrant.targetBit_ofBits]
  exact ⟨rfl, rfl⟩

/-- The bits of a candidate from the highest down are those of the quadrants that were selected, and from
them alone the quadrants can be told. Each cell of the matrix is reached by one path and no other. -/
theorem growth_lossless (z : Sampler) : z.scale ≤ 64 ∧
    (∀ (σ : Type) [Source σ] (s : σ),
      (z.candidate s).1.source.toNat < 2 ^ z.scale ∧ (z.candidate s).1.target.toNat < 2 ^ z.scale ∧
      (∀ i < z.scale,
        (z.candidate s).1.source.toNat.testBit (z.scale - 1 - i) = (z.selected s i).sourceBit ∧
        (z.candidate s).1.target.toNat.testBit (z.scale - 1 - i) = (z.selected s i).targetBit) ∧
      (z.candidate s).1.path z.scale = (List.range z.scale).map (z.selected s)) ∧
    ∀ e : Edge, e.source.toNat < 2 ^ z.scale ∧ e.target.toNat < 2 ^ z.scale ↔
      ∃! path, path.length = z.scale ∧ Edge.ofPath path = e := by
  have hscale : z.scale ≤ 64 := idBits_le z.vertexCount
  refine ⟨hscale, fun σ _ s => ?_, fun e => ⟨?_, ?_⟩⟩
  · obtain ⟨hsource, htarget⟩ := z.candidate_lt s
    exact ⟨hsource, htarget, fun i hi => z.testBit_candidate s hi, z.candidate_path s⟩
  · rintro ⟨hsource, htarget⟩
    refine ⟨e.path z.scale, ⟨by simp [Edge.path], Edge.ofPath_path hscale hsource htarget⟩, ?_⟩
    rintro path ⟨hlen, rfl⟩
    rw [← hlen] at hscale ⊢
    exact (Edge.path_ofPath hscale).symm
  · rintro ⟨path, ⟨hlen, rfl⟩, -⟩
    exact hlen ▸ Edge.ofPath_lt path

def widest : Sampler := ⟨⟨maximum, by decide⟩, default, default, none⟩

/-- On the first of 64 levels the highest bits are set, and they are still there after the last. -/
theorem growth_lossless_widest : (0 < 64 ∧
      (widest.candidate ({ draws := #[0.99] } : Script)).1.source.toNat.testBit 63 = true) ∧
    ∃! path, path.length = 64 ∧ Edge.ofPath path = ⟨maximum, maximum⟩ := by
  have hscale : widest.scale = 64 := by decide
  have hselected : widest.selected ({ draws := #[0.99] } : Script) 0 = .bottomRight := by
    decide +kernel
  obtain ⟨-, hgrown, hcells⟩ := growth_lossless widest
  rw [hscale] at hcells
  have hbits := (hgrown Script { draws := #[0.99] }).2.2.1 0
  rw [hscale, hselected] at hbits
  exact ⟨⟨by decide, (hbits (by decide)).1⟩, (hcells ⟨maximum, maximum⟩).1 (by decide)⟩

end Sampler

end RecursiveMatrix
