import RecursiveMatrix.Log.Setup
import RecursiveMatrix.Proofs.Trimming

namespace RecursiveMatrix.Log

/-- A text that comes to the name of a format without the blanks around it and in lower case. -/
def Spells (name raw : String) : Prop :=
  ∃ mid, Text.Trimmed raw.toList mid ∧ Text.lower mid = name.toList

def Format.name : Format → String
  | .human => "human"
  | .json => "json"

/-- The format that a setting asks for, if it asks for one. What is not set leaves it at `human`. -/
def Names : Setting → Format → Prop
  | .unset, format => format = .human
  | .text raw, format => Spells format.name raw
  | .raw _, _ => False

def Readable (setting : Setting) : Prop := ∃ format, Names setting format

theorem spells_iff {name raw : String} :
    Spells name raw ↔ String.ofList (Text.lower (Text.trim raw.toList)) = name := by
  rw [← String.toList_inj, String.toList_ofList]
  constructor
  · rintro ⟨mid, hmid, hname⟩
    rw [Text.trim_eq_iff.2 hmid, hname]
  · exact fun h => ⟨_, Text.trimmed_trim _, h⟩

theorem parse_eq_ok_iff {raw : String} {format : Format} :
    Format.parse raw = .ok format ↔ Spells format.name raw := by
  rw [spells_iff, Format.parse]
  split
  next h => cases format <;> simp [h, Format.name]
  next h => cases format <;> simp [h, Format.name]
  next hhuman hjson =>
    constructor
    · intro h
      cases h
    · intro h
      cases format with
      | human => exact absurd h hhuman
      | json => exact absurd h hjson

theorem ofSetting_eq_ok_iff {setting : Setting} {format : Format} :
    Format.ofSetting setting = .ok format ↔ Names setting format := by
  cases setting with
  | unset =>
      rw [Format.ofSetting, Except.ok.injEq]
      exact eq_comm
  | text raw => exact parse_eq_ok_iff
  | raw bytes =>
      constructor
      · intro h
        cases h
      · exact False.elim

namespace Setup

/-- What happens to the log of a process: it is set up with what the setting holds by then, or someone
else tries to listen. -/
inductive Move
  | init (setting : Setting)
  | foreign

/-- What comes of setting the log up: what is told about it, or why it cannot be. -/
abbrev Answer := Except SetupError (List String)

def after (s : Setup) : Move → Setup
  | .init setting => (s.init setting).2
  | .foreign => (s.install .foreign).2

def run (s : Setup) (moves : List Move) : Setup := moves.foldl after s

def answer? (s : Setup) : Move → Option Answer
  | .init setting => some (s.init setting).1
  | .foreign => none

def answers : Setup → List Move → List Answer
  | _, [] => []
  | s, m :: ms => (s.answer? m).toList ++ answers (s.after m) ms

/-- The formats that the calls among the moves put in place, in order. -/
def installs : Setup → List Move → List Format
  | _, [] => []
  | s, m :: ms =>
    (if (s.after m).subscriber = s.subscriber then none else (s.after m).format?).toList ++
      installs (s.after m) ms

def Unready (s : Setup) (moves : List Move) : Prop := ∀ told, .ok told ∉ answers s moves

/-- Who listens after a move if nobody does before it. -/
def listener : Move → Option Subscriber
  | .init setting => (Format.ofSetting setting).toOption.map .own
  | .foreign => some .foreign

/-- What a call comes to after these moves of a process that starts with nothing set up. -/
def callAfter (before : List Move) (setting : Setting) : Answer × Setup := (run {} before).init setting

section Step

variable {s : Setup} {setting : Setting}

theorem install_snd (s : Setup) (who : Subscriber) :
    (s.install who).2 = { s with subscriber := s.subscriber.or (some who) } := by
  rcases s with ⟨ready, _ | other⟩ <;> rfl

theorem init_of_ready (h : s.ready = true) (setting : Setting) : s.init setting = (.ok [], s) := by
  rw [init, if_pos h]

theorem init_of_error (h : s.ready = false) {e : SetupError} (he : Format.ofSetting setting = .error e) :
    s.init setting = (.error e, s) := by
  simp only [init, h, Bool.false_eq_true, ↓reduceIte, he]

theorem init_of_ok (h : s.ready = false) {format : Format} (hformat : Format.ofSetting setting = .ok format) :
    s.init setting = (.ok (if (s.install (.own format)).1 then [] else [conflict]),
      { ready := true, subscriber := s.subscriber.or (some (.own format)) }) := by
  simp only [init, h, Bool.false_eq_true, ↓reduceIte, hformat, install_snd]

theorem init_cases (s : Setup) (setting : Setting) :
    (s.ready = true ∧ s.init setting = (.ok [], s)) ∨
    (s.ready = false ∧ ∃ e, Format.ofSetting setting = .error e ∧ s.init setting = (.error e, s)) ∨
    s.ready = false ∧ ∃ format told, Format.ofSetting setting = .ok format ∧
      s.init setting = (.ok told, { ready := true, subscriber := s.subscriber.or (some (.own format)) }) := by
  cases hready : s.ready with
  | true => exact .inl ⟨rfl, init_of_ready hready setting⟩
  | false =>
      right
      cases hformat : Format.ofSetting setting with
      | error e => exact .inl ⟨rfl, e, rfl, init_of_error hready hformat⟩
      | ok format => exact .inr ⟨rfl, format, _, rfl, init_of_ok hready hformat⟩

theorem init_eq_error_iff :
    (∃ e, (s.init setting).1 = .error e) ↔ s.ready = false ∧ ¬ Readable setting := by
  simp only [Readable, ← ofSetting_eq_ok_iff]
  rcases init_cases s setting with ⟨hready, hs⟩ | ⟨hready, e, he, hs⟩ | ⟨hready, format, told, hformat, hs⟩
  · simp [hs, hready]
  · simp [hs, hready, he]
  · simp [hs, hready, hformat]

theorem init_snd_of_error {e : SetupError} (h : (s.init setting).1 = .error e) : (s.init setting).2 = s := by
  rcases init_cases s setting with ⟨-, hs⟩ | ⟨-, other, -, hs⟩ | ⟨-, format, told, -, hs⟩
  · rw [hs]
  · rw [hs]
  · rw [hs] at h
    cases h

theorem init_of_readable (s : Setup) (h : Readable setting) : ∃ told, (s.init setting).1 = .ok told := by
  cases hanswer : (s.init setting).1 with
  | ok told => exact ⟨told, rfl⟩
  | error e => exact absurd h (init_eq_error_iff.1 ⟨e, hanswer⟩).2

variable {m : Move}

theorem after_ready_iff :
    (s.after m).ready = false ↔ s.ready = false ∧ ∀ told, s.answer? m ≠ some (.ok told) := by
  cases m with
  | foreign => simp [after, answer?, install_snd]
  | init setting =>
      rcases init_cases s setting with ⟨hready, hs⟩ | ⟨hready, e, -, hs⟩ | ⟨hready, format, told, -, hs⟩ <;>
        simp [after, answer?, hs, hready]

theorem after_subscriber_of_some {who : Subscriber} (h : s.subscriber = some who) :
    (s.after m).subscriber = some who := by
  cases m with
  | foreign => simp only [after, install_snd, h, Option.some_or]
  | init setting =>
      rcases init_cases s setting with ⟨-, hs⟩ | ⟨-, e, -, hs⟩ | ⟨-, format, told, -, hs⟩ <;>
        simp only [after, hs, h, Option.some_or]

def Attended (s : Setup) : Prop := s.ready = true → s.subscriber ≠ none

theorem after_subscriber (h : s.Attended) : (s.after m).subscriber = s.subscriber.or (listener m) := by
  cases m with
  | foreign => simp only [after, install_snd, listener]
  | init setting =>
      rcases init_cases s setting with ⟨hready, hs⟩ | ⟨-, e, he, hs⟩ | ⟨-, format, told, hformat, hs⟩
      · -- A call that does nothing would have had its own listener here, but someone listens already.
        obtain ⟨who, hwho⟩ := Option.ne_none_iff_exists'.1 (h hready)
        simp only [after, hs, hwho, Option.some_or]
      · simp only [after, hs, listener, he, Except.toOption, Option.map_none, Option.or_none]
      · simp only [after, hs, listener, hformat, Except.toOption, Option.map_some]

theorem Attended.after (h : s.Attended) : (s.after m).Attended := by
  cases m with
  | foreign => simp [Attended, Setup.after, install_snd]
  | init setting =>
      rcases init_cases s setting with ⟨-, hs⟩ | ⟨-, e, -, hs⟩ | ⟨-, format, told, -, hs⟩
      · simpa only [Setup.after, hs] using h
      · simpa only [Setup.after, hs] using h
      · simp [Attended, Setup.after, hs]

/-- Only a call that succeeds puts a format in place, and only the first that does. -/
theorem after_installs {format : Format} (hnew : (s.after m).subscriber ≠ s.subscriber)
    (hformat : (s.after m).format? = some format) :
    ∃ setting, m = .init setting ∧ Format.ofSetting setting = .ok format ∧
      s.ready = false ∧ (s.after m).ready = true := by
  cases m with
  | foreign =>
      cases hs : s.subscriber with
      | some who => exact absurd ((after_subscriber_of_some hs).trans hs.symm) hnew
      | none => simp [after, install_snd, format?, hs] at hformat
  | init setting =>
      refine ⟨setting, rfl, ?_⟩
      rcases init_cases s setting with ⟨-, hs⟩ | ⟨-, e, -, hs⟩ | ⟨hready, other, told, hother, hs⟩
      · exact absurd (by rw [after, hs]) hnew
      · exact absurd (by rw [after, hs]) hnew
      · cases hsub : s.subscriber with
        | some who => exact absurd ((after_subscriber_of_some hsub).trans hsub.symm) hnew
        | none =>
            simp only [after, hs, format?, hsub, Option.none_or, Option.some.injEq] at hformat
            exact ⟨hformat ▸ hother, hready, by rw [after, hs]⟩

end Step

section Run

variable {s : Setup} {ms : List Move}

theorem unready_cons {m : Move} :
    Unready s (m :: ms) ↔ (∀ told, s.answer? m ≠ some (.ok told)) ∧ Unready (s.after m) ms := by
  simp only [Unready, answers, List.mem_append, Option.mem_toList, not_or, forall_and, ne_eq]

theorem run_ready_iff : (run s ms).ready = false ↔ s.ready = false ∧ Unready s ms := by
  induction ms generalizing s with
  | nil => simp [run, Unready, answers]
  | cons m ms ih =>
      rw [run, List.foldl_cons, ← run, ih, after_ready_iff, unready_cons, and_assoc]

theorem run_subscriber_of_some {who : Subscriber} (h : s.subscriber = some who) (ms : List Move) :
    (run s ms).subscriber = some who := by
  induction ms generalizing s with
  | nil => exact h
  | cons m ms ih => exact ih (after_subscriber_of_some h)

theorem run_subscriber (h : s.Attended) (ms : List Move) :
    (run s ms).subscriber = s.subscriber.or (ms.findSome? listener) := by
  induction ms generalizing s with
  | nil => simp [run]
  | cons m ms ih =>
      rw [run, List.foldl_cons, ← run, ih h.after, after_subscriber h, Option.or_assoc]
      congr 1
      cases hm : listener m <;> simp [hm]

theorem installs_of_ready (h : s.ready = true) (ms : List Move) : installs s ms = [] := by
  induction ms generalizing s with
  | nil => rfl
  | cons m ms ih =>
      have hafter : (s.after m).ready = true := by
        cases hready : (s.after m).ready with
        | true => rfl
        | false => simp [(after_ready_iff.1 hready).1] at h
      rw [installs, ih hafter, List.append_nil]
      split
      next => rfl
      next hnew =>
        cases hformat : (s.after m).format? with
        | none => rfl
        | some format =>
            obtain ⟨-, -, -, hready, -⟩ := after_installs hnew hformat
            simp [hready] at h

/-- Either a move puts nothing in place, or it is a call that succeeds and the last to do so. -/
theorem installs_cons (s : Setup) (m : Move) (ms : List Move) :
    installs s (m :: ms) = installs (s.after m) ms ∨
      ∃ setting format, m = .init setting ∧ Format.ofSetting setting = .ok format ∧
        installs s (m :: ms) = [format] := by
  rw [installs]
  split
  next => exact .inl rfl
  next hnew =>
    cases hformat : (s.after m).format? with
    | none => exact .inl rfl
    | some format =>
        obtain ⟨setting, hm, hread, -, hready⟩ := after_installs hnew hformat
        exact .inr ⟨setting, format, hm, hread, by rw [installs_of_ready hready]; rfl⟩

theorem length_installs_le (s : Setup) (ms : List Move) : (installs s ms).length ≤ 1 := by
  induction ms generalizing s with
  | nil => exact Nat.zero_le 1
  | cons m ms ih =>
      rcases installs_cons s m ms with h | ⟨-, format, -, -, h⟩
      · exact h ▸ ih (s.after m)
      · exact h ▸ Nat.le_refl 1

theorem mem_installs {format : Format} (h : format ∈ installs s ms) :
    ∃ earlier setting later, ms = earlier ++ .init setting :: later ∧ Unready s earlier ∧
      Names setting format := by
  induction ms generalizing s with
  | nil => cases h
  | cons m ms ih =>
      rcases installs_cons s m ms with hcons | ⟨setting, other, rfl, hread, hcons⟩
      · rw [hcons] at h
        obtain ⟨earlier, setting, later, hms, hearlier, hread⟩ := ih h
        refine ⟨m :: earlier, setting, later, by rw [hms, List.cons_append], ?_, hread⟩
        -- Once a call has succeeded nothing more is put in place.
        refine unready_cons.2 ⟨fun told htold => ?_, hearlier⟩
        cases hready : (s.after m).ready with
        | true => simp [installs_of_ready hready] at h
        | false => exact (after_ready_iff.1 hready).2 told htold
      · rw [hcons, List.mem_singleton] at h
        exact ⟨[], setting, ms, rfl, fun told htold => List.not_mem_nil htold, ofSetting_eq_ok_iff.1 (h ▸ hread)⟩

end Run

/-- Logging is set up once. A call fails only while none has succeeded and the setting names no format;
it then leaves everything as it is, and any later call whose setting can be read succeeds. After one
success every call succeeds and changes nothing. At most one format is put in place, the one that the
first successful call reads, and only where nobody listens already. -/
theorem logging_set_up_once (before : List Move) (setting : Setting) :
    ((∃ e, (callAfter before setting).1 = .error e) ↔ Unready {} before ∧ ¬ Readable setting) ∧
    (∀ e, (callAfter before setting).1 = .error e →
      (callAfter before setting).2 = run {} before ∧
      ∀ later value, Readable value →
        ∃ told, ((run (callAfter before setting).2 later).init value).1 = .ok told) ∧
    (¬ Unready {} before → callAfter before setting = (.ok [], run {} before)) ∧
    (installs {} before).length ≤ 1 ∧
    (∀ format ∈ installs {} before, ∃ earlier value later, before = earlier ++ .init value :: later ∧
      Unready {} earlier ∧ Names value format) ∧
    (run {} before).subscriber = before.findSome? listener ∧
    ∀ who later, (run {} before).subscriber = some who → (run (run {} before) later).subscriber = some who := by
  have hunready : (run {} before).ready = false ↔ Unready {} before :=
    run_ready_iff.trans (and_iff_right rfl)
  refine ⟨?_, fun e he => ⟨init_snd_of_error he, fun later _ => init_of_readable _⟩, fun hbefore => ?_,
    length_installs_le {} before, fun format => mem_installs, ?_, fun who later h => run_subscriber_of_some h later⟩
  · rw [← hunready]
    exact init_eq_error_iff
  · rw [← hunready, Bool.not_eq_false] at hbefore
    exact init_of_ready hbefore setting
  · have h : Attended {} := fun h => by cases h
    exact (run_subscriber h before).trans (Option.none_or ..)

end Setup

end RecursiveMatrix.Log
