import Mathlib.Data.List.Induction
import RecursiveMatrix.Proofs.FieldRecord
import RecursiveMatrix.Proofs.Recording

namespace RecursiveMatrix.Trace

/-- A span from its opening on: what came before it and what has come since. -/
structure Life where
  before : List Signal
  id : Nat
  span : Span
  inside : List Signal

namespace Signal

/-- What a signal records into the span of that number. -/
def into (id : Nat) : Signal → Fields
  | recorded i fields => if i = id then fields else []
  | _ => []

/-- What a signal makes of the span open under that number. -/
def turns (id : Nat) (u : Option SpanRecord) : Signal → Option SpanRecord
  | opened i span => if i = id then some ⟨span.name, .write [] span.fields⟩ else u
  | recorded i fields => if i = id then u.map fun u => { u with fields := u.fields.write fields } else u
  | closed i => if i = id then none else u
  | emitted _ | relayed _ => u

end Signal

variable {id : Nat} {l m : Life} {s : Signal} {signals xs : List Signal}

namespace Life

def history (l : Life) : List Signal := l.before ++ .opened l.id l.span :: l.inside

/-- What has been recorded for the span, at its opening and since. -/
def fields (l : Life) : Fields := l.span.fields ++ l.inside.flatMap (Signal.into l.id)

def kept (l : Life) : SpanRecord := ⟨l.span.name, .write [] l.fields⟩

/-- At the end of the signals the span is open. -/
def OpenAt (l : Life) (signals : List Signal) : Prop := l.history = signals ∧ .closed l.id ∉ l.inside

/-- In the course of the signals the span is closed. -/
def ClosedIn (l : Life) (signals : List Signal) : Prop :=
  l.history ++ [.closed l.id] <+: signals ∧ .closed l.id ∉ l.inside

def extend (l : Life) (s : Signal) : Life := { l with inside := l.inside ++ [s] }

end Life

/-- No span is opened under the number of one that is open. -/
def NoReuse (signals : List Signal) : Prop :=
  ∀ (l : Life) (span : Span), l.history ++ [.opened l.id span] <+: signals → .closed l.id ∈ l.inside

/-- The spans that are closed in the signals, in the order in which they are. -/
structure Ended (signals : List Signal) (lives : List Life) : Prop where
  mem_iff : ∀ l, l ∈ lives ↔ l.ClosedIn signals
  ordered : lives.Pairwise fun l m => l.history.length < m.history.length

theorem NoReuse.left (h : NoReuse (xs ++ [s])) : NoReuse xs :=
  fun l span hl => h l span (hl.trans (List.prefix_append _ _))

namespace Life

theorem OpenAt.not_opened (hl : l.OpenAt xs) (h : NoReuse (xs ++ [s])) (span : Span) :
    s ≠ .opened l.id span := by
  rintro rfl
  exact hl.2 (h l span (hl.1 ▸ List.prefix_rfl))

theorem OpenAt.extend (hl : l.OpenAt xs) (hs : s ≠ .closed l.id) : (l.extend s).OpenAt (xs ++ [s]) := by
  refine ⟨?_, ?_⟩
  · rw [← hl.1]
    simp [history, Life.extend]
  · change _ ∉ l.inside ++ [s]
    rw [List.mem_append, List.mem_singleton, not_or]
    exact ⟨hl.2, Ne.symm hs⟩

theorem openAt_concat (h : l.OpenAt (xs ++ [s])) :
    l = ⟨xs, l.id, l.span, []⟩ ∧ s = .opened l.id l.span ∨
      ∃ m : Life, m.OpenAt xs ∧ s ≠ .closed m.id ∧ l = m.extend s := by
  obtain ⟨before, id, span, inside⟩ := l
  obtain ⟨hhistory, hopen⟩ := h
  rw [history] at hhistory
  rcases List.eq_nil_or_concat inside with rfl | ⟨inside, t, rfl⟩
  · obtain ⟨rfl, hs⟩ := List.append_inj' hhistory rfl
    exact .inl ⟨rfl, (List.singleton_inj.1 hs).symm⟩
  · rw [List.concat_eq_append] at hhistory hopen
    rw [← List.cons_append, ← List.append_assoc] at hhistory
    obtain ⟨rfl, hs⟩ := List.append_inj' hhistory rfl
    cases List.singleton_inj.1 hs
    rw [List.mem_append, List.mem_singleton, not_or] at hopen
    exact .inr ⟨⟨before, id, span, inside⟩, ⟨rfl, hopen.1⟩, Ne.symm hopen.2, by simp [Life.extend]⟩

theorem closedIn_concat : l.ClosedIn (xs ++ [s]) ↔ l.ClosedIn xs ∨ l.OpenAt xs ∧ s = .closed l.id := by
  rw [ClosedIn, List.prefix_concat_iff, or_comm, or_and_right]
  refine or_congr Iff.rfl ⟨?_, ?_⟩
  · rintro ⟨heq, hopen⟩
    obtain ⟨hhistory, hs⟩ := List.append_inj' heq rfl
    exact ⟨⟨hhistory, hopen⟩, (List.singleton_inj.1 hs).symm⟩
  · rintro ⟨⟨rfl, hopen⟩, rfl⟩
    exact ⟨rfl, hopen⟩

end Life

theorem Signal.turns_eq_some {u : Option SpanRecord} {v : SpanRecord} (h : s.turns id u = some v) :
    (∃ span, s = .opened id span ∧ v = ⟨span.name, .write [] span.fields⟩) ∨
      ∃ w, u = some w ∧ s ≠ .closed id ∧ ∀ span, s ≠ .opened id span := by
  cases s with
  | opened i span =>
      by_cases hi : i = id
      · simp only [turns, if_pos hi, Option.some.injEq] at h
        exact .inl ⟨span, by rw [hi], h.symm⟩
      · simp only [turns, if_neg hi] at h
        exact .inr ⟨v, h, by simp, by simp [hi]⟩
  | recorded i fields =>
      by_cases hi : i = id
      · simp only [turns, if_pos hi, Option.map_eq_some_iff] at h
        obtain ⟨w, hw, -⟩ := h
        exact .inr ⟨w, hw, by simp, by simp⟩
      · simp only [turns, if_neg hi] at h
        exact .inr ⟨v, h, by simp, by simp⟩
  | closed i =>
      by_cases hi : i = id
      · simp [turns, hi] at h
      · simp only [turns, if_neg hi] at h
        exact .inr ⟨v, h, by simp [hi], by simp⟩
  | emitted e | relayed e => exact .inr ⟨v, h, by simp, by simp⟩

namespace Life

theorem turns_kept (hclosed : s ≠ .closed l.id) (hopened : ∀ span, s ≠ .opened l.id span) :
    s.turns l.id (some l.kept) = some (l.extend s).kept := by
  have hfields : (l.extend s).fields = l.fields ++ s.into l.id := by
    simp [fields, extend]
  have hkept : (l.extend s).kept = ⟨l.span.name, l.kept.fields.write (s.into l.id)⟩ := by
    rw [kept, hfields, Record.write_append]
    rfl
  rw [hkept]
  cases s with
  | opened i span =>
      have hi : i ≠ l.id := by
        rintro rfl
        exact hopened span rfl
      exact if_neg hi
  | closed i =>
      have hi : i ≠ l.id := by
        rintro rfl
        exact hclosed rfl
      exact if_neg hi
  | recorded i fields =>
      by_cases hi : i = l.id
      · simp only [Signal.turns, Signal.into, if_pos hi]
        rfl
      · simp only [Signal.turns, Signal.into, if_neg hi]
        rfl
  | emitted e | relayed e => rfl

theorem not_openAt_nil (l : Life) : ¬ l.OpenAt [] := by
  rintro ⟨hhistory, -⟩
  exact List.append_ne_nil_of_right_ne_nil _ (List.cons_ne_nil _ _) hhistory

/-- Of a number that is not reused there is one open span at most. -/
theorem OpenAt.unique (hl : l.OpenAt xs) (hm : m.OpenAt xs) (hid : l.id = m.id) (h : NoReuse xs) :
    l = m := by
  induction xs using List.reverseRecOn generalizing l m with
  | nil => exact absurd hl l.not_openAt_nil
  | append_singleton xs s ih =>
      -- the last signal opened both or neither, since it may not open what is open
      rcases openAt_concat hl with ⟨hl, hs⟩ | ⟨l, hl', hs, rfl⟩ <;>
        rcases openAt_concat hm with ⟨hm, hs'⟩ | ⟨m, hm', hs', rfl⟩
      · rw [hs, Signal.opened.injEq] at hs'
        rw [hl, hm, hid, hs'.2]
      · exact absurd (hs.trans (by rw [hid]; rfl)) (hm'.not_opened h l.span)
      · exact absurd (hs'.trans (by rw [← hid]; rfl)) (hl'.not_opened h m.span)
      · rw [ih hl' hm' hid h.left]

end Life

namespace Ended

variable {lives : List Life}

theorem nil : Ended [] [] where
  mem_iff l := by simp [Life.ClosedIn]
  ordered := .nil

theorem skip (h : Ended xs lives) (hs : ∀ l : Life, l.OpenAt xs → s ≠ .closed l.id) :
    Ended (xs ++ [s]) lives where
  mem_iff l := by
    rw [h.mem_iff, Life.closedIn_concat, or_iff_left]
    rintro ⟨hl, hclosed⟩
    exact hs l hl hclosed
  ordered := h.ordered

theorem close (h : Ended xs lives) (hl : l.OpenAt xs) (hreuse : NoReuse xs) :
    Ended (xs ++ [.closed l.id]) (lives ++ [l]) where
  mem_iff m := by
    rw [List.mem_append, List.mem_singleton, h.mem_iff, Life.closedIn_concat]
    refine or_congr Iff.rfl ⟨?_, ?_⟩
    · rintro rfl
      exact ⟨hl, rfl⟩
    · rintro ⟨hm, hid⟩
      exact hm.unique hl (Signal.closed.inj hid).symm hreuse
  ordered := by
    refine List.pairwise_append.2 ⟨h.ordered, List.pairwise_singleton _ _, fun m hm l' hl' => ?_⟩
    have hlen := ((h.mem_iff m).1 hm).1.length_le
    rw [List.mem_singleton.1 hl', hl.1]
    rw [List.length_append, List.length_singleton] at hlen
    exact hlen

end Ended

namespace Recorder

theorem lookup_map (live : List (Nat × SpanRecord)) (i id : Nat) (f : SpanRecord → SpanRecord) :
    (live.map fun p => if p.1 = i then (p.1, f p.2) else p).lookup id =
      if i = id then (live.lookup id).map f else live.lookup id := by
  induction live with
  | nil => simp
  | cons p live ih =>
      obtain ⟨n, u⟩ := p
      by_cases hn : n = id
      · by_cases hi : i = id
        · simp [hn, hi]
        · simp [hn, Ne.symm hi, hi]
      · by_cases hni : n = i
        · simp [List.lookup_cons, hni, beq_false_of_ne (Ne.symm (hni ▸ hn)), ih]
        · simp [List.lookup_cons, hni, beq_false_of_ne (Ne.symm hn), ih]

theorem lookup_filter (live : List (Nat × SpanRecord)) (i id : Nat) :
    (live.filter (·.1 ≠ i)).lookup id = if i = id then none else live.lookup id := by
  induction live with
  | nil => simp
  | cons p live ih =>
      obtain ⟨n, u⟩ := p
      by_cases hni : n = i
      · rw [List.filter_cons_of_neg (by simpa using hni), ih]
        by_cases hi : i = id
        · rw [if_pos hi, if_pos hi]
        · rw [if_neg hi, if_neg hi, List.lookup_cons, hni, beq_false_of_ne (Ne.symm hi)]
      · rw [List.filter_cons_of_pos (by simpa using hni), List.lookup_cons, List.lookup_cons, ih]
        by_cases hn : id = n
        · have hi : i ≠ id := fun hi => hni (hn.symm.trans hi.symm)
          subst hn
          simp [hi]
        · simp [beq_false_of_ne hn]

/-- Each open span goes its own way: a signal turns it by what it says of its number. -/
theorem lookup_see (r : Recorder) (s : Signal) (id : Nat) :
    (r.see s).live.lookup id = s.turns id (r.live.lookup id) := by
  cases s with
  | opened i span =>
      by_cases hi : i = id
      · simp [see, Signal.turns, hi]
      · simp [see, Signal.turns, List.lookup_cons, hi, beq_false_of_ne (Ne.symm hi)]
  | recorded i fields =>
      exact lookup_map r.live i id fun u => { u with fields := u.fields.write fields }
  | emitted e | relayed e => rfl
  | closed i =>
      rw [see, Signal.turns]
      split
      next hnone =>
        split
        next hi => rw [← hi, hnone]
        next hi => rfl
      next u hsome => exact lookup_filter r.live i id

theorem spans_see_closed (r : Recorder) (id : Nat) :
    (r.see (.closed id)).spans.toList = r.spans.toList ++ (r.live.lookup id).toList := by
  rw [see]
  split
  next hnone => simp [hnone]
  next u hsome => simp [hsome]

theorem ofSignals_concat (xs : List Signal) (s : Signal) : ofSignals (xs ++ [s]) = (ofSignals xs).see s :=
  List.foldl_append

theorem lookup_of_openAt (hl : l.OpenAt signals) (h : NoReuse signals) :
    (ofSignals signals).live.lookup l.id = some l.kept := by
  induction signals using List.reverseRecOn generalizing l with
  | nil => exact absurd hl l.not_openAt_nil
  | append_singleton xs s ih =>
      rw [ofSignals_concat, lookup_see]
      rcases Life.openAt_concat hl with ⟨hnew, rfl⟩ | ⟨m, hm, hs, rfl⟩
      · have hfields : l.fields = l.span.fields := by
          rw [hnew]
          exact List.append_nil _
        rw [Life.kept, hfields]
        exact if_pos rfl
      · change s.turns m.id ((ofSignals xs).live.lookup m.id) = _
        rw [ih hm h.left]
        exact Life.turns_kept hs (hm.not_opened h)

theorem openAt_of_lookup {u : SpanRecord} (h : (ofSignals signals).live.lookup id = some u) :
    ∃ l : Life, l.id = id ∧ l.OpenAt signals ∧ l.kept = u := by
  induction signals using List.reverseRecOn generalizing u with
  | nil => simp [ofSignals] at h
  | append_singleton xs s ih =>
      rw [ofSignals_concat, lookup_see] at h
      rcases Signal.turns_eq_some h with ⟨span, rfl, rfl⟩ | ⟨v, hv, hclosed, hopened⟩
      · exact ⟨⟨xs, id, span, []⟩, rfl, ⟨rfl, List.not_mem_nil⟩, by simp [Life.kept, Life.fields]⟩
      · obtain ⟨l, rfl, hl, rfl⟩ := ih hv
        rw [hv, Life.turns_kept hclosed hopened] at h
        exact ⟨l.extend s, rfl, hl.extend hclosed, Option.some.inj h⟩

/-- Whether a signal opens no span under a number in use. -/
def free (r : Recorder) : Signal → Bool
  | .opened id _ => (r.live.lookup id).isNone
  | _ => true

def allFree : Recorder → List Signal → Bool
  | _, [] => true
  | r, s :: signals => r.free s && (r.see s).allFree signals

theorem noReuse_nil : NoReuse [] := fun l span h => by simp at h

theorem noReuse_concat_iff : NoReuse (xs ++ [s]) ↔ NoReuse xs ∧ (ofSignals xs).free s = true := by
  constructor
  · intro h
    refine ⟨h.left, ?_⟩
    cases s with
    | recorded id fields | emitted e | relayed e | closed id => rfl
    | opened id span =>
        rw [free, Option.isNone_iff_eq_none]
        cases hlookup : (ofSignals xs).live.lookup id with
        | none => rfl
        | some u =>
            obtain ⟨l, rfl, hl, -⟩ := openAt_of_lookup hlookup
            exact absurd rfl (hl.not_opened h span)
  · rintro ⟨h, hfree⟩ l span hl
    rcases List.prefix_concat_iff.1 hl with heq | hl
    · obtain ⟨hhistory, hs⟩ := List.append_inj' heq rfl
      by_contra hopen
      rw [← List.singleton_inj.1 hs, free, lookup_of_openAt ⟨hhistory, hopen⟩ h] at hfree
      cases hfree
    · exact h l span hl

theorem noReuse_append_iff {ys : List Signal} :
    NoReuse (xs ++ ys) ↔ NoReuse xs ∧ (ofSignals xs).allFree ys = true := by
  induction ys generalizing xs with
  | nil => simp [allFree]
  | cons s ys ih =>
      rw [List.append_cons, ih, noReuse_concat_iff, ofSignals_concat, allFree, Bool.and_eq_true, and_assoc]

theorem noReuse_iff_allFree : NoReuse signals ↔ allFree {} signals = true := by
  have happend : NoReuse ([] ++ signals) ↔ NoReuse [] ∧ (ofSignals []).allFree signals = true :=
    noReuse_append_iff
  exact happend.trans (and_iff_right noReuse_nil)

instance : Decidable (NoReuse signals) := decidable_of_iff _ noReuse_iff_allFree.symm

theorem exists_ended (h : NoReuse signals) :
    ∃ lives, Ended signals lives ∧ (ofSignals signals).spans.toList = lives.map Life.kept := by
  induction signals using List.reverseRecOn with
  | nil => exact ⟨[], .nil, rfl⟩
  | append_singleton xs s ih =>
      obtain ⟨lives, hended, hspans⟩ := ih h.left
      rw [ofSignals_concat]
      -- a signal that closes a number without an open span is passed over
      by_cases hclosed : ∃ l : Life, l.OpenAt xs ∧ s = .closed l.id
      · obtain ⟨l, hl, rfl⟩ := hclosed
        refine ⟨lives ++ [l], hended.close hl h.left, ?_⟩
        rw [spans_see_closed, lookup_of_openAt hl h.left, hspans, List.map_append]
        rfl
      · have hopen (l : Life) (hl : l.OpenAt xs) : s ≠ .closed l.id := fun hs => hclosed ⟨l, hl, hs⟩
        refine ⟨lives, hended.skip hopen, ?_⟩
        rw [← hspans]
        cases s with
        | opened id span | recorded id fields | emitted e | relayed e => rfl
        | closed id =>
            cases hlookup : (ofSignals xs).live.lookup id with
            | none => rw [spans_see_closed, hlookup, Option.toList_none, List.append_nil]
            | some u =>
                obtain ⟨l, rfl, hl, -⟩ := openAt_of_lookup hlookup
                exact absurd rfl (hopen l hl)

end Recorder

end RecursiveMatrix.Trace
