import RecursiveMatrix.Proofs.Numerals
import RecursiveMatrix.Report
import RecursiveMatrix.Word

namespace RecursiveMatrix.Report

/-- The lines of a text, none of them left without a line feed at its end. -/
def lines? (cs : List Char) : Option (List (List Char)) :=
  let parts := cs.splitOn '\n'
  if parts.getLast? = some [] then some parts.dropLast else none

/-- Two decimal numbers and one tab between them. -/
def readEdge (line : List Char) : Option Edge :=
  match line.splitOn '\t' with
  | [source, target] =>
    match Decimal.readWord source, Decimal.readWord target with
    | .ok source, .ok target => some ⟨source, target⟩
    | _, _ => none
  | _ => none

def readEdges (text : String) : Option (List Edge) := do
  let lines ← lines? text.toList
  lines.mapM readEdge

/-- The line of an edge, without its end. -/
def fields (e : Edge) : List Char :=
  Nat.toDigits 10 e.source.toNat ++ '\t' :: Nat.toDigits 10 e.target.toNat

variable {c : Char} {lines : List (List Char)} {s s' : Summary}

theorem toList_edgeLine (e : Edge) : (edgeLine e).toList = fields e ++ ['\n'] := by
  simp [edgeLine, fields]

theorem foldl_edgeLine (text : String) (edges : List Edge) :
    edges.foldl (fun text e => text ++ edgeLine e) text = text ++ edgeList edges := by
  induction edges generalizing text with
  | nil => exact (String.append_empty).symm
  | cons e edges ih =>
      rw [edgeList, List.foldl_cons, List.foldl_cons, ih, ih, String.append_assoc,
        String.empty_append]

theorem edgeList_cons (e : Edge) (edges : List Edge) :
    edgeList (e :: edges) = edgeLine e ++ edgeList edges := by
  rw [edgeList, List.foldl_cons, foldl_edgeLine, String.empty_append]

theorem edgeList_append (edges edges' : List Edge) :
    edgeList (edges ++ edges') = edgeList edges ++ edgeList edges' := by
  rw [edgeList, List.foldl_append, foldl_edgeLine]
  rfl

theorem toList_edgeList (edges : List Edge) :
    (edgeList edges).toList = (edges.map fields).flatMap (· ++ ['\n']) := by
  induction edges with
  | nil => rfl
  | cons e edges ih =>
      rw [edgeList_cons, String.toList_append, toList_edgeLine, ih, List.map_cons, List.flatMap_cons]

theorem not_mem_toDigits (h : c.isDigit = false) (n : Nat) : c ∉ Nat.toDigits 10 n :=
  fun hc => Bool.noConfusion (h.symm.trans (Decimal.isDigit_of_mem_toDigits hc))

theorem newline_not_mem_fields (e : Edge) : '\n' ∉ fields e := by
  simp [fields, not_mem_toDigits]

theorem count_tab_fields (e : Edge) : (fields e).count '\t' = 1 := by
  have hnone (n : Nat) : (Nat.toDigits 10 n).count '\t' = 0 :=
    List.count_eq_zero.2 (not_mem_toDigits rfl n)
  rw [fields, List.count_append, List.count_cons_self, hnone, hnone]

theorem splitOn_flatMap (h : ∀ line ∈ lines, '\n' ∉ line) :
    (lines.flatMap (· ++ ['\n'])).splitOn '\n' = lines ++ [[]] := by
  induction lines with
  | nil => exact List.splitOn_nil _
  | cons line lines ih =>
      obtain ⟨hline, hlines⟩ := List.forall_mem_cons.1 h
      rw [List.flatMap_cons, List.append_assoc, List.singleton_append,
        List.splitOn_append_cons_self_of_not_mem hline, ih hlines, List.cons_append]

theorem lines?_flatMap (h : ∀ line ∈ lines, '\n' ∉ line) :
    lines? (lines.flatMap (· ++ ['\n'])) = some lines := by
  simp only [lines?, splitOn_flatMap h, List.getLast?_concat, if_true, List.dropLast_concat]

theorem readWord_toDigits (w : UInt64) : Decimal.readWord (Nat.toDigits 10 w.toNat) = .ok w :=
  Decimal.readWord_eq_ok_iff.2 (Decimal.numeral_toDigits w.toNat)

theorem readEdge_fields (e : Edge) : readEdge (fields e) = some e := by
  have htab (n : Nat) : '\t' ∉ Nat.toDigits 10 n := not_mem_toDigits rfl n
  rw [readEdge, fields, List.splitOn_append_cons_self_of_not_mem (htab _),
    List.splitOn_eq_singleton (htab _)]
  simp only [readWord_toDigits]

theorem mapM_readEdge (edges : List Edge) : (edges.map fields).mapM readEdge = some edges := by
  induction edges with
  | nil => rfl
  | cons e edges ih => simp [List.mapM_cons, readEdge_fields, ih]

theorem lines?_edgeList (edges : List Edge) :
    lines? (edgeList edges).toList = some (edges.map fields) := by
  rw [toList_edgeList]
  exact lines?_flatMap (List.forall_mem_map.2 fun e _ => newline_not_mem_fields e)

theorem readEdges_edgeList (edges : List Edge) : readEdges (edgeList edges) = some edges := by
  rw [readEdges, lines?_edgeList]
  exact mapM_readEdge edges

theorem render_of_edges (h : s.format = .edges) : render s = edgeList s.graph.edges := by
  rw [render, h]

/-- A printed list of edges is made of whole lines with one tab in each, and the numbers in them are those
of the edges, in order. So the text tells any two lists apart, and one list after another is printed as
one text after another. -/
theorem edge_list_reads_back (h : s.format = .edges) (h' : s'.format = .edges) :
    (∃ lines : List (List Char), (render s).toList = lines.flatMap (· ++ ['\n']) ∧
      (∀ line ∈ lines, '\n' ∉ line ∧ line.count '\t' = 1) ∧ lines.length = s.graph.edgeCount ∧
      lines? (render s).toList = some lines ∧ lines.mapM readEdge = some s.graph.edges) ∧
    readEdges (render s) = some s.graph.edges ∧
    (render s = render s' ↔ s.graph.edges = s'.graph.edges) ∧
    ∀ both : Summary, both.format = .edges → both.graph.edges = s.graph.edges ++ s'.graph.edges →
      render both = render s ++ render s' := by
  rw [render_of_edges h, render_of_edges h']
  refine ⟨?_, readEdges_edgeList _, ?_, ?_⟩
  · refine ⟨s.graph.edges.map fields, toList_edgeList _, ?_, List.length_map _, lines?_edgeList _,
      mapM_readEdge _⟩
    exact List.forall_mem_map.2 fun e _ => ⟨newline_not_mem_fields e, count_tab_fields e⟩
  · constructor
    · intro htext
      have hread := congrArg readEdges htext
      rw [readEdges_edgeList, readEdges_edgeList] at hread
      exact Option.some.inj hread
    · exact congrArg edgeList
  · intro both hboth hedges
    rw [render_of_edges hboth, hedges, edgeList_append]

/-- A summary of these edges alone. -/
def listing (edges : List Edge) : Summary := ⟨.edges, 64, 1, 0, .ofEdges edges⟩

theorem edge_list_reads_back_widest :
    readEdges (render (listing [⟨0, Word.maximum⟩, ⟨7, 7⟩])) = some [⟨0, Word.maximum⟩, ⟨7, 7⟩] ∧
    render (listing [⟨0, Word.maximum⟩, ⟨7, 7⟩]) ≠ render (listing [⟨0, Word.maximum⟩]) ∧
    render (listing ([⟨0, Word.maximum⟩, ⟨7, 7⟩] ++ [⟨1, 23⟩, ⟨12, 3⟩])) =
      render (listing [⟨0, Word.maximum⟩, ⟨7, 7⟩]) ++ render (listing [⟨1, 23⟩, ⟨12, 3⟩]) := by
  have hformat (edges : List Edge) : (listing edges).format = .edges := rfl
  obtain ⟨-, hread, hsame, -⟩ := edge_list_reads_back (hformat [⟨0, Word.maximum⟩, ⟨7, 7⟩])
    (hformat [⟨0, Word.maximum⟩])
  obtain ⟨-, -, -, hboth⟩ := edge_list_reads_back (hformat [⟨0, Word.maximum⟩, ⟨7, 7⟩])
    (hformat [⟨1, 23⟩, ⟨12, 3⟩])
  refine ⟨hread, fun heq => ?_, hboth _ (hformat _) rfl⟩
  exact absurd (hsame.1 heq) (by decide)

end RecursiveMatrix.Report
