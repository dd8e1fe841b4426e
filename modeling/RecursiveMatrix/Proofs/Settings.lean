import Mathlib.Data.List.Induction
import RecursiveMatrix.Proofs.Validation

namespace RecursiveMatrix

variable {α : Type}

namespace Config

open Requirement

/-- Each setting is valid by itself. -/
structure Valid (s : Config) : Prop where
  vertexCount : 1 ≤ s.vertexCount
  edgeCount : 1 ≤ s.edgeCount
  constants : ∃ p, Probabilities.validate s.a s.b s.c = .ok p
  noise : ∃ n, Noise.validate true s.noise = .ok n
  parallelism : ∀ threads ∈ s.parallelism, 1 ≤ threads
  maxBlockCount : 1 ≤ s.maxBlockCount
  retryLimit : ∀ limit ∈ s.retryLimit, 1 ≤ limit

theorem isOk_iff {x : Except Error α} : x.isOk = true ↔ ∃ a, x = .ok a := by
  cases x with
  | ok a => exact ⟨fun _ => ⟨a, rfl⟩, fun _ => rfl⟩
  | error e => exact ⟨(nomatch ·), fun ⟨_, ha⟩ => nomatch ha⟩

theorem valid_iff {s : Config} : s.Valid ↔ ∀ r ∈ s.requirements, r.met = true := by
  simp only [requirements, List.forall_mem_cons, List.forall_mem_append, List.forall_mem_map,
    Option.mem_toList, atLeastOne, decide_eq_true_eq, isOk_iff]
  constructor
  · rintro ⟨hv, he, hc, hn, hp, hm, hr⟩
    exact ⟨hv, he, hc, hn, hp, hm, hr⟩
  · rintro ⟨hv, he, hc, hn, hp, hm, hr⟩
    exact ⟨hv, he, hc, hn, hp, hm, hr⟩

namespace Change

def constants? : Change → Option (Float32 × Float32 × Float32)
  | .constants a b c => some (a, b, c)
  | _ => none

def noise? : Change → Option (Bool × Float32)
  | .noise enabled magnitude => some (enabled, magnitude)
  | _ => none

def seed? : Change → Option UInt64
  | .seed value => some value
  | _ => none

def parallelism? : Change → Option UInt64
  | .parallelism threads => some threads
  | _ => none

def maxBlockCount? : Change → Option UInt64
  | .maxBlockCount value => some value
  | _ => none

def retryLimit? : Change → Option UInt64
  | .retryLimit value => some value
  | _ => none

end Change

def last? (pick : Change → Option α) (changes : List Change) : Option α :=
  changes.reverse.findSome? pick

/-- Every setting as it was given last, or its default. -/
def latest (vertexCount edgeCount : UInt64) (changes : List Change) : Config :=
  let constants := (last? Change.constants? changes).getD
    (Probabilities.defaultA, Probabilities.defaultB, Probabilities.defaultC)
  let noise := (last? Change.noise? changes).getD (false, Noise.defaultMagnitude)
  { vertexCount, edgeCount
    a := constants.1
    b := constants.2.1
    c := constants.2.2
    noiseEnabled := noise.1
    noise := noise.2
    seed := (last? Change.seed? changes).getD defaultSeed
    parallelism := last? Change.parallelism? changes
    maxBlockCount := (last? Change.maxBlockCount? changes).getD Block.defaultCeiling
    retryLimit := last? Change.retryLimit? changes }

theorem last?_concat (pick : Change → Option α) (cs : List Change) (c : Change) :
    last? pick (cs ++ [c]) = (pick c).or (last? pick cs) := by
  rw [last?, List.reverse_concat, List.findSome?_cons, last?]
  cases pick c <;> rfl

theorem latest_concat (v e : UInt64) (cs : List Change) (c : Change) :
    latest v e (cs ++ [c]) = (latest v e cs).apply c := by
  simp only [latest, last?_concat]
  cases c <;> rfl

theorem foldl_apply (v e : UInt64) (changes : List Change) :
    changes.foldl apply { vertexCount := v, edgeCount := e } = latest v e changes := by
  induction changes using List.reverseRecOn with
  | nil => rfl
  | append_singleton cs c ih =>
      rw [List.foldl_append, ih, latest_concat]
      rfl

/-- A configuration comes to what was asked for last, in whatever order and however often. It is valid
when each of its settings is, and refused for the first that is not, with the value that was given. -/
theorem last_settings_checked (v e : UInt64) (changes : List Change) :
    let built := (changes.foldl apply { vertexCount := v, edgeCount := e }).validate
    let s := latest v e changes
    built = s.validate ∧ ((∃ g, built = .ok g) ↔ s.Valid) ∧
      (∀ refusal, built = .error refusal ↔ firstUnmet s.requirements = some refusal) ∧
      ∀ g, built = .ok g → s.Settles g := by
  intro built s
  have hbuilt : built = s.validate := congrArg validate (foldl_apply v e changes)
  rw [hbuilt]
  have hchecked := s.checked_validate
  exact ⟨rfl, hchecked.eq_ok_iff.trans valid_iff.symm, hchecked.eq_error_iff,
    fun g h => validate_settles h⟩

/-- A retry limit and a magnitude that were wrong at first do no harm, and of three wrong settings the
magnitude is reported, though noise is off and the ceiling was given before it. -/
theorem last_settings_checked_mended :
    (∃ g, ([.retryLimit 0, .seed 3, .noise true 3, .retryLimit 2, .noise false 1, .seed 7].foldl apply
        { vertexCount := 5, edgeCount := 7 }).validate = .ok g ∧
      g.seed = 7 ∧ g.sampler.retryLimit.map Positive.val = some 2) ∧
    ([.retryLimit 0, .maxBlockCount 0, .noise false 3].foldl apply
      { vertexCount := 5, edgeCount := 7 }).validate = .error (.noise 3) := by
  constructor
  · obtain ⟨-, hok, -, hsettles⟩ := last_settings_checked 5 7
      [.retryLimit 0, .seed 3, .noise true 3, .retryLimit 2, .noise false 1, .seed 7]
    have hvalid : (latest 5 7 [.retryLimit 0, .seed 3, .noise true 3, .retryLimit 2, .noise false 1,
        .seed 7]).Valid := valid_iff.2 (by decide +kernel)
    obtain ⟨g, hg⟩ := hok.2 hvalid
    exact ⟨g, hg, (hsettles g hg).seed, (hsettles g hg).retryLimit⟩
  · obtain ⟨-, -, herror, -⟩ := last_settings_checked 5 7 [.retryLimit 0, .maxBlockCount 0, .noise false 3]
    exact (herror _).2 rfl

end Config

end RecursiveMatrix
