import RecursiveMatrix.Log.Writer
import RecursiveMatrix.Proofs.Transcript

namespace RecursiveMatrix

open Trace

namespace Log

/-- The line of an event outside all spans. -/
def bare (e : Event) : Line where
  level := e.level
  target := e.target
  fields := e.fields

namespace Writer

variable {f : Filter} {id n : Nat} {xs ys : List Signal} {w : Writer} {scope : List OpenSpan}

def Below (n : Nat) (scope : List OpenSpan) : Prop := ∀ o ∈ scope, o.id < n

/-- Inside spans numbered below `n`, these signals leave open what was. -/
def Steady (f : Filter) (n : Nat) (signals : List Signal) : Prop :=
  ∀ w : Writer, Below n w.scope → (signals.foldl (see f) w).scope = w.scope

/-- The spans of `scope` are open, and perhaps one more inside them. -/
def Inside (id : Nat) (scope : List OpenSpan) (w : Writer) : Prop :=
  w.scope = scope ∨ ∃ o, o.id = id ∧ w.scope = scope ++ [o]

@[simp] theorem scope_event (w : Writer) (f : Filter) (around : List OpenSpan) (e : Event) :
    (w.event f around e).scope = w.scope := by
  unfold event
  split <;> rfl

theorem steady_nil (f : Filter) (n : Nat) : Steady f n [] := fun _ _ => rfl

theorem Steady.append (hx : Steady f n xs) (hy : Steady f n ys) : Steady f n (xs ++ ys) := by
  intro w hw
  have hxs := hx w hw
  rw [List.foldl_append, hy _ (hxs.symm ▸ hw), hxs]

theorem steady_emitted (f : Filter) (n : Nat) (e : Event) : Steady f n [.emitted e] :=
  fun w _ => w.scope_event f w.scope e

theorem steady_of_quiet (f : Filter) (n : Nat) (h : ∀ s ∈ xs, s.quiet = true) : Steady f n xs := by
  induction xs with
  | nil => exact steady_nil f n
  | cons s xs ih =>
      have hfirst : Steady f n [s] := by
        cases s with
        | emitted e => exact steady_emitted f n e
        | relayed e => exact fun w _ => w.scope_event f [] e
        | opened id span => simp [Signal.quiet] at h
        | recorded id fields => simp [Signal.quiet] at h
        | closed id => simp [Signal.quiet] at h
      exact hfirst.append (ih fun s hs => h s (List.mem_cons_of_mem _ hs))

theorem inside_opened (f : Filter) (id : Nat) (span : Span) (w : Writer) :
    Inside id w.scope (w.see f (.opened id span)) := by
  by_cases h : f.admitsSpan (limits w.scope) span
  · rw [see, if_pos h]
    exact .inr ⟨_, rfl, rfl⟩
  · rw [see, if_neg h]
    exact .inl rfl

theorem Inside.below (h : Inside id scope w) (hs : Below id scope) : Below (id + 1) w.scope := by
  intro o ho
  rcases h with h | ⟨o', rfl, h⟩
  · exact Nat.lt_succ_of_lt (hs o (h ▸ ho))
  · rw [h, List.mem_append, List.mem_singleton] at ho
    rcases ho with ho | rfl
    · exact Nat.lt_succ_of_lt (hs o ho)
    · exact Nat.lt_succ_self _

theorem Inside.recorded (h : Inside id scope w) (hs : Below id scope) (f : Filter) (fields : Fields) :
    Inside id scope (w.see f (.recorded id fields)) := by
  let written (o : OpenSpan) : OpenSpan :=
    if o.id = id then { o with span.fields := o.span.fields ++ fields } else o
  have hothers : scope.map written = scope := by
    refine (List.map_congr_left fun o ho => ?_).trans (List.map_id _)
    exact if_neg (Nat.ne_of_lt (hs o ho))
  rcases h with h | ⟨o, ho, h⟩
  · refine .inl ?_
    change w.scope.map written = scope
    rw [h, hothers]
  · refine .inr ⟨written o, ?_, ?_⟩
    · simp [written, ho]
    · change w.scope.map written = scope ++ [written o]
      rw [h, List.map_append, hothers, List.map_singleton]

theorem Inside.closed (h : Inside id scope w) (hs : Below id scope) :
    (w.see f (.closed id)).scope = scope := by
  have hkeep : scope.filter (·.id ≠ id) = scope :=
    List.filter_eq_self.2 fun o ho => decide_eq_true (Nat.ne_of_lt (hs o ho))
  rcases h with h | ⟨o, ho, h⟩
  · have hnone : w.scope.find? (·.id = id) = none := by
      rw [h, List.find?_eq_none]
      intro o ho
      simp [Nat.ne_of_lt (hs o ho)]
    rw [see, hnone]
    exact h
  · have hfilter : w.scope.filter (·.id ≠ id) = scope := by
      rw [h, List.filter_append, hkeep, List.filter_cons_of_neg (by simp [ho]), List.filter_nil,
        List.append_nil]
    have hsome : ∃ o', w.scope.find? (·.id = id) = some o' :=
      Option.isSome_iff_exists.1 (List.find?_isSome.2 ⟨o, by simp [h], by simp [ho]⟩)
    obtain ⟨o', ho'⟩ := hsome
    rw [see, ho']
    exact hfilter

/-- Whether or not a span is let through, what happens in it leaves open what was open around it. -/
theorem steady_closed (start : List Signal)
    (hstart : ∀ w : Writer, Below id w.scope → Inside id w.scope (start.foldl (see f) w))
    (h : Steady f (id + 1) xs) : Steady f id (start ++ (xs ++ [.closed id])) := by
  intro w hw
  have hin := hstart w hw
  have hbody := h _ (hin.below hw)
  have hend : Inside id w.scope (xs.foldl (see f) (start.foldl (see f) w)) := by
    rw [Inside, hbody]
    exact hin
  rw [List.foldl_append, List.foldl_append, List.foldl_cons, List.foldl_nil]
  exact hend.closed hw

theorem steady_spanned (span : Span) (h : Steady f (id + 1) xs) : Steady f id (spanned id span xs) :=
  steady_closed [.opened id span] (fun w _ => inside_opened f id span w) h

theorem steady_recorded (span : Span) (fields : Fields) (h : Steady f (id + 1) xs) :
    Steady f id (spanned id span (.recorded id fields :: xs)) :=
  steady_closed [.opened id span, .recorded id fields]
    (fun w hw => (inside_opened f id span w).recorded hw f fields) h

/-- An event that comes after all spans are closed stands outside them. -/
theorem linesOf_emitted (h : Steady f 0 xs) (e : Event) : linesOf f (xs ++ [.emitted e]) =
    linesOf f xs ++ if f.admitsEvent [] e then [bare e] else [] := by
  have hscope : (xs.foldl (see f) {}).scope = [] := h {} fun o ho => absurd ho List.not_mem_nil
  have hlimits : limits [] = [] := rfl
  rw [linesOf, linesOf, List.foldl_append, List.foldl_cons, List.foldl_nil, see, hscope, event, hlimits]
  by_cases he : f.admitsEvent [] e
  · rw [if_pos he, if_pos he]
    exact Array.toList_push
  · rw [if_neg he, if_neg he]
    exact (List.append_nil _).symm

end Writer

end Log

open Log.Writer

variable {f : Log.Filter}

namespace Run

variable {α : Type} {r : Run α} {id : Nat}

theorem steady_errorSignals (f : Log.Filter) (n : Nat) (target : String) (x : Except Stop α) :
    Steady f n (errorSignals target x) := by
  unfold errorSignals
  split
  · exact steady_emitted f n _
  · exact steady_nil f n

theorem steady_within (span : Span) (h : Steady f (id + 1) r.signals) :
    Steady f id (within id span r).signals :=
  steady_spanned span (h.append (steady_errorSignals f _ span.target r.outcome))

end Run

theorem Generator.steady_generate (f : Log.Filter) (g : Generator) (host : Host) :
    Steady f spanId (g.generate host).signals :=
  Run.steady_within g.span (steady_of_quiet f _ (g.graph_quiet host))

namespace CommandLine.Generate

theorem steady_generate (f : Log.Filter) (c : Generate) (host : Host) :
    Steady f 1 (c.generate host).signals := by
  cases hv : c.config.validate with
  | error e =>
      rw [generate_of_invalid hv]
      exact Run.steady_within c.span (steady_nil f _)
  | ok g =>
      have hcore := g.steady_generate f host
      cases ho : (g.generate host).outcome with
      | ok x =>
          obtain ⟨counters, hgenerate⟩ := generate_of_ok hv ho
          rw [hgenerate]
          exact Run.steady_within c.span (hcore.append (steady_emitted f _ _))
      | error stop =>
          obtain ⟨counters, hgenerate⟩ := generate_of_error hv ho
          rw [hgenerate]
          exact Run.steady_within c.span hcore

/-- Whatever the command comes to, all its spans are closed in the end. -/
theorem steady_run (f : Log.Filter) (c : Generate) (host : Host) : Steady f 0 (c.run host).signals := by
  have hbody := (c.steady_generate f host).append
    (Run.steady_errorSignals f 1 runSpan.target (c.generate host).outcome)
  exact steady_recorded runSpan [("command", .shown "generate")] hbody

end CommandLine.Generate

end RecursiveMatrix
