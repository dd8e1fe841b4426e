import RecursiveMatrix.Config

namespace RecursiveMatrix

variable {α β : Type} {x : Except Error α} {f : α → Except Error β}

/-- Something that is asked of a configuration, and the error for where it does not hold. -/
structure Requirement where
  met : Bool
  refusal : Error

namespace Requirement

variable {r : Requirement} {rs rs' : List Requirement} {x : Except Error α}
  {f : α → Except Error β}

def firstUnmet (rs : List Requirement) : Option Error := (rs.find? (!·.met)).map refusal

/-- A check of the requirements one after the other, up to the first that is not met. -/
inductive Checked : List Requirement → Except Error α → Prop
  | all (a : α) : Checked [] (.ok a)
  | met {r : Requirement} {rs : List Requirement} {x : Except Error α} (met : r.met = true)
      (rest : Checked rs x) : Checked (r :: rs) x
  | unmet {r : Requirement} {rs : List Requirement} (unmet : r.met = false) :
      Checked (r :: rs) (.error r.refusal)

theorem Checked.bind (hx : Checked rs x) (hf : ∀ a, Checked rs' (f a)) :
    Checked (rs ++ rs') (x >>= f) := by
  induction hx with
  | all a => exact hf a
  | met hmet rest ih => exact .met hmet ih
  | unmet hunmet => exact .unmet hunmet

/-- What is made of the last result asks for nothing more. -/
theorem Checked.last (hx : Checked rs x) (g : α → β) : Checked rs (x >>= fun a => .ok (g a)) := by
  rw [← List.append_nil rs]
  exact hx.bind fun a => .all (g a)

theorem firstUnmet_cons_of_met (h : r.met = true) : firstUnmet (r :: rs) = firstUnmet rs := by
  rw [firstUnmet, List.find?_cons_of_neg (by simp [h]), firstUnmet]

theorem firstUnmet_cons_of_unmet (h : r.met = false) : firstUnmet (r :: rs) = some r.refusal := by
  rw [firstUnmet, List.find?_cons_of_pos (by simp [h])]
  rfl

theorem Checked.eq_error_iff (h : Checked rs x) (e : Error) :
    x = .error e ↔ firstUnmet rs = some e := by
  induction h with
  | all a => exact ⟨(nomatch ·), (nomatch ·)⟩
  | met hmet rest ih => rw [firstUnmet_cons_of_met hmet, ih]
  | unmet hunmet => rw [firstUnmet_cons_of_unmet hunmet, Except.error.injEq, Option.some.injEq]

theorem Checked.eq_ok_iff (h : Checked rs x) : (∃ a, x = .ok a) ↔ ∀ r ∈ rs, r.met = true := by
  induction h with
  | all a => exact ⟨fun _ => List.forall_mem_nil _, fun _ => ⟨a, rfl⟩⟩
  | met hmet rest ih => rw [ih, List.forall_mem_cons, and_iff_right hmet]
  | unmet hunmet =>
      constructor
      · rintro ⟨a, ha⟩
        cases ha
      · intro hall
        have hmet := hall _ List.mem_cons_self
        exact Bool.noConfusion (hunmet.symm.trans hmet)

end Requirement

namespace Config

open Requirement

theorem bind_eq_ok {b : β} (h : (x >>= f) = .ok b) : ∃ a, x = .ok a ∧ f a = .ok b := by
  cases x with
  | error e => exact nomatch h
  | ok a => exact ⟨a, rfl, h⟩

/-- Whatever goes wrong lies in the configuration. -/
def Checks (x : Except Error α) : Prop := ∀ e, x = .error e → e.isConfiguration = true

variable {refusal : UInt64 → Error}

theorem positive_eq_ok {w : UInt64} {p : Positive} (h : positive refusal w = .ok p) : p.val = w := by
  unfold positive at h
  split at h
  · cases h
    exact Positive.val_of_ofWord? ‹_›
  · exact nomatch h

theorem positive?_eq_ok {w : Option UInt64} {p : Option Positive} (h : positive? refusal w = .ok p) :
    p.map Positive.val = w := by
  cases w with
  | none =>
      cases h
      rfl
  | some w =>
      obtain ⟨q, hq, h⟩ := bind_eq_ok h
      cases h
      exact congrArg some (positive_eq_ok hq)

theorem probabilities_eq_ok {a b c : Float32} {p : Probabilities}
    (h : Probabilities.validate a b c = .ok p) : p.a = a ∧ p.b = b ∧ p.c = c := by
  unfold Probabilities.validate at h
  split at h
  · cases h
    exact ⟨rfl, rfl, rfl⟩
  · exact nomatch h

theorem noise_eq_ok {enabled : Bool} {magnitude : Float32} {n : Noise}
    (h : Noise.validate enabled magnitude = .ok n) : n.enabled = enabled ∧ n.magnitude = magnitude := by
  unfold Noise.validate at h
  split at h
  · cases h
    exact ⟨rfl, rfl⟩
  · exact nomatch h

def atLeastOne (refusal : UInt64 → Error) (w : UInt64) : Requirement := ⟨1 ≤ w, refusal w⟩

/-- What a configuration has to meet, in the order in which it is looked at. The magnitude of noise has
to be fit for use although noise may be off, and nothing is asked of a parallelism or a retry limit that
is not set. -/
def requirements (s : Config) : List Requirement :=
  atLeastOne .vertexCount s.vertexCount ::
  atLeastOne .edgeCount s.edgeCount ::
  ⟨(Probabilities.validate s.a s.b s.c).isOk, .constants s.a s.b s.c⟩ ::
  ⟨(Noise.validate true s.noise).isOk, .noise s.noise⟩ ::
  (s.parallelism.toList.map (atLeastOne .parallelism) ++
    atLeastOne .maxBlockCount s.maxBlockCount ::
    s.retryLimit.toList.map (atLeastOne .retryLimit))

theorem checked_positive (refusal : UInt64 → Error) (w : UInt64) :
    Checked [atLeastOne refusal w] (positive refusal w) := by
  unfold positive
  split
  next p h =>
    refine .met (decide_eq_true ?_) (.all p)
    rw [← Positive.val_of_ofWord? h, UInt64.le_iff_toNat_le]
    exact p.toNat_pos
  next h =>
    rw [Positive.ofWord?_eq_none_iff] at h
    exact .unmet (decide_eq_false (by rw [h]; decide))

theorem checked_positive? (refusal : UInt64 → Error) (w : Option UInt64) :
    Checked (w.toList.map (atLeastOne refusal)) (positive? refusal w) := by
  cases w with
  | none => exact .all none
  | some w => exact (checked_positive refusal w).bind fun p => .all (some p)

theorem checked_probabilities (a b c : Float32) :
    Checked [⟨(Probabilities.validate a b c).isOk, .constants a b c⟩] (Probabilities.validate a b c) := by
  unfold Probabilities.validate
  split
  · exact .met rfl (.all _)
  · exact .unmet rfl

theorem checked_noise (enabled : Bool) (magnitude : Float32) :
    Checked [⟨(Noise.validate true magnitude).isOk, .noise magnitude⟩]
      (Noise.validate enabled magnitude) := by
  unfold Noise.validate
  by_cases h : 0 ≤ magnitude ∧ magnitude ≤ 2
  · rw [dif_pos h, dif_pos h]
    exact .met rfl (.all _)
  · rw [dif_neg h, dif_neg h]
    exact .unmet rfl

theorem checked_validate (s : Config) : Checked s.requirements s.validate :=
  (checked_positive _ _).bind fun _ =>
  (checked_positive _ _).bind fun _ =>
  (checked_probabilities _ _ _).bind fun _ =>
  (checked_noise _ _).bind fun _ =>
  (checked_positive? _ _).bind fun _ =>
  (checked_positive _ _).bind fun _ =>
  (checked_positive? _ _).last _

theorem Checks.of_checked {rs : List Requirement} (h : Checked rs x)
    (hrs : ∀ r ∈ rs, r.refusal.isConfiguration = true) : Checks x := by
  induction h with
  | all a => exact fun _ he => nomatch he
  | met hmet rest ih => exact ih fun r hr => hrs r (List.mem_cons_of_mem _ hr)
  | unmet hunmet =>
      rintro _ ⟨⟩
      exact hrs _ List.mem_cons_self

theorem checks_validate (s : Config) : Checks s.validate := by
  refine .of_checked s.checked_validate ?_
  simp only [requirements, List.forall_mem_cons, List.forall_mem_append, List.forall_mem_map]
  exact ⟨rfl, rfl, rfl, rfl, fun _ _ => rfl, rfl, fun _ _ => rfl⟩

/-- The generator has just the settings that were asked for. -/
structure Settles (s : Config) (g : Generator) : Prop where
  vertexCount : g.vertexCount.val = s.vertexCount
  edgeCount : g.edgeCount.val = s.edgeCount
  constants : g.sampler.probabilities.a = s.a ∧ g.sampler.probabilities.b = s.b ∧
    g.sampler.probabilities.c = s.c
  noise : g.sampler.noise.enabled = s.noiseEnabled ∧ g.sampler.noise.magnitude = s.noise
  seed : g.seed = s.seed
  parallelism : g.parallelism.map Positive.val = s.parallelism
  maxBlockCount : g.maxBlockCount.val = s.maxBlockCount
  retryLimit : g.sampler.retryLimit.map Positive.val = s.retryLimit

theorem validate_settles {s : Config} {g : Generator} (h : s.validate = .ok g) : s.Settles g := by
  obtain ⟨vertexCount, hv, h⟩ := bind_eq_ok h
  obtain ⟨edgeCount, he, h⟩ := bind_eq_ok h
  obtain ⟨probabilities, hc, h⟩ := bind_eq_ok h
  obtain ⟨noise, hn, h⟩ := bind_eq_ok h
  obtain ⟨parallelism, hp, h⟩ := bind_eq_ok h
  obtain ⟨maxBlockCount, hm, h⟩ := bind_eq_ok h
  obtain ⟨retryLimit, hr, h⟩ := bind_eq_ok h
  cases h
  exact ⟨positive_eq_ok hv, positive_eq_ok he, probabilities_eq_ok hc, noise_eq_ok hn, rfl,
    positive?_eq_ok hp, positive_eq_ok hm, positive?_eq_ok hr⟩

end Config

end RecursiveMatrix
