import RecursiveMatrix.Trace.Recorder

namespace RecursiveMatrix.Trace

/-- The text last recorded under a name, if there is any. -/
def Fields.last? (fs : Fields) (name : String) : Option String :=
  ((fs.held.filter (·.1 = name)).map (·.2.text)).getLast?

namespace Record

variable {r : Record}

/-- Each name once, with the text last recorded under it. -/
structure Keeps (r : Record) (fs : Fields) : Prop where
  names : (r.map Prod.fst).Nodup
  last : ∀ name, r.get? name = fs.last? name

theorem write_append (r : Record) (fs gs : Fields) : r.write (fs ++ gs) = (r.write fs).write gs := by
  simp only [write, Fields.held, List.filter_append, List.foldl_append]

end Record

end RecursiveMatrix.Trace
