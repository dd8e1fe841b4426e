import RecursiveMatrix.Run
import RecursiveMatrix.Trace.Recorder

namespace RecursiveMatrix

namespace Trace

def Event.kept (e : Event) : EventRecord := ⟨e.level, .write [] e.fields⟩

def spanned (id : Nat) (span : Span) (signals : List Signal) : List Signal :=
  .opened id span :: (signals ++ [.closed id])

namespace Signal

/-- An event, seen by the caller or not, that reports no error. -/
def quiet : Signal → Bool
  | emitted e | relayed e => e.level ≠ .error
  | _ => false

theorem quiet_relay (s : Signal) : s.relay.quiet = s.quiet := by
  cases s <;> rfl

end Signal

namespace Recorder

variable {id n : Nat} {xs ys : List Signal} {us vs : List SpanRecord} {r : Recorder}

/-- Above spans numbered below `n`, these signals close `us` in this order and leave open what was. -/
def Leaves (n : Nat) (signals : List Signal) (us : List SpanRecord) : Prop :=
  ∀ r : Recorder, (∀ l ∈ r.live, l.1 < n) → (signals.foldl see r).live = r.live ∧
    (signals.foldl see r).spans.toList = r.spans.toList ++ us

theorem Leaves.append (hx : Leaves n xs us) (hy : Leaves n ys vs) : Leaves n (xs ++ ys) (us ++ vs) := by
  intro r hr
  obtain ⟨hlive, hspans⟩ := hx r hr
  obtain ⟨hlive', hspans'⟩ := hy (xs.foldl see r) (hlive.symm ▸ hr)
  rw [List.foldl_append, hlive', hspans', hlive, hspans, List.append_assoc]
  exact ⟨rfl, rfl⟩

theorem Leaves.ofSignals (h : Leaves n xs us) :
    (ofSignals xs).live = [] ∧ (ofSignals xs).spans.toList = us :=
  h {} fun _ hl => absurd hl List.not_mem_nil

end Recorder

end Trace

end RecursiveMatrix
