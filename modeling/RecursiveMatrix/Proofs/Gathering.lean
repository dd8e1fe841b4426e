import Mathlib.Data.List.Lattice
import Mathlib.Logic.Relation
import RecursiveMatrix.Proofs.VertexSet

namespace RecursiveMatrix

def Touched (edges : List Edge) (v : UInt64) : Prop := ∃ e ∈ edges, v = e.source ∨ v = e.target

def Edge.ends (e : Edge) : List UInt64 := [e.source, e.target]

def Edge.reverse (e : Edge) : Edge := ⟨e.target, e.source⟩

section Listing

variable {edges xs ys : List Edge} {vs : List UInt64} {v : UInt64}

theorem mem_flatMap_ends : v ∈ edges.flatMap Edge.ends ↔ Touched edges v := by
  simp [Edge.ends, Touched]

theorem touched_append : Touched (xs ++ ys) v ↔ Touched xs v ∨ Touched ys v := by
  simp only [Touched, List.mem_append, or_and_right, exists_or]

theorem touched_reverse : Touched (edges.map Edge.reverse) v ↔ Touched edges v := by
  simp [Touched, Edge.reverse, or_comm]

/-- Sorting leaves no choice, as the members are known and none is listed twice. -/
theorem eq_vertexSet_of_sorted (hsorted : vs.Pairwise (· ≤ ·)) (hnodup : vs.Nodup)
    (hmem : ∀ v, v ∈ vs ↔ Touched edges v) : vs = vertexSet edges := by
  have hperm : vs.Perm (vertexSet edges) :=
    (List.perm_ext_iff_of_nodup hnodup (vertexSet_nodup edges)).2 fun v =>
      (hmem v).trans mem_vertexSet_iff.symm
  have hle : (vertexSet edges).Pairwise (· ≤ ·) := (vertexSet_ascending edges).imp UInt64.le_of_lt
  exact hperm.eq_of_pairwise (fun _ _ _ _ => UInt64.le_antisymm) hsorted hle

theorem eq_vertexSet_iff :
    vs = vertexSet edges ↔ vs.Pairwise (· < ·) ∧ ∀ v, v ∈ vs ↔ Touched edges v := by
  constructor
  · rintro rfl
    exact ⟨vertexSet_ascending edges, fun v => mem_vertexSet_iff⟩
  · rintro ⟨hasc, hmem⟩
    exact eq_vertexSet_of_sorted (hasc.imp UInt64.le_of_lt) (hasc.imp UInt64.ne_of_lt) hmem

theorem vertexSet_congr (h : ∀ v, Touched xs v ↔ Touched ys v) : vertexSet xs = vertexSet ys :=
  eq_vertexSet_iff.2 ⟨vertexSet_ascending xs, fun v => mem_vertexSet_iff.trans (h v)⟩

theorem vertexSet_of_same_edges (h : ∀ e, e ∈ xs ↔ e ∈ ys) : vertexSet xs = vertexSet ys :=
  vertexSet_congr fun v => by simp only [Touched, h]

theorem vertexSet_reverse (edges : List Edge) : vertexSet (edges.map Edge.reverse) = vertexSet edges :=
  vertexSet_congr fun _ => touched_reverse

theorem vertexSet_append (xs ys : List Edge) :
    vertexSet (xs ++ ys) = (vertexSet xs ∪ vertexSet ys).mergeSort (· ≤ ·) := by
  let union := vertexSet xs ∪ vertexSet ys
  have hperm := List.mergeSort_perm union (· ≤ ·)
  have hsorted : (union.mergeSort (· ≤ ·)).Pairwise (· ≤ ·) := by
    have htrans : ∀ a b c : UInt64, decide (a ≤ b) = true → decide (b ≤ c) = true →
        decide (a ≤ c) = true := by
      intro a b c hab hbc
      exact decide_eq_true (UInt64.le_trans (of_decide_eq_true hab) (of_decide_eq_true hbc))
    have htotal : ∀ a b : UInt64, (decide (a ≤ b) || decide (b ≤ a)) = true := by
      intro a b
      simpa using UInt64.le_total a b
    exact (List.pairwise_mergeSort htrans htotal union).imp of_decide_eq_true
  have hnodup : (union.mergeSort (· ≤ ·)).Nodup :=
    hperm.nodup_iff.2 (List.Nodup.union _ (vertexSet_nodup ys))
  refine (eq_vertexSet_of_sorted hsorted hnodup fun v => ?_).symm
  rw [hperm.mem_iff, List.mem_union_iff, touched_append]
  exact or_congr mem_vertexSet_iff mem_vertexSet_iff

end Listing

/-- A set that many workers insert into, as far as it can be relied on: it lists each member once, in
whatever order. -/
class SharedSet (S : Type) where
  empty : S
  insert : S → UInt64 → S
  members : S → List UInt64
  not_mem_empty : ∀ v, v ∉ members empty
  mem_insert : ∀ s v w, w ∈ members (insert s v) ↔ w = v ∨ w ∈ members s
  nodup : ∀ s, (members s).Nodup

/-- The vertices on their way into a shared set: the ends of edges that are still to be inserted, and
what has been inserted so far. -/
structure Gathering (S : Type) where
  pending : List UInt64
  seen : S

namespace Gathering

variable {S : Type} [SharedSet S]

open SharedSet (members)

def start (S : Type) [SharedSet S] (edges : List Edge) : Gathering S :=
  ⟨edges.flatMap Edge.ends, SharedSet.empty⟩

/-- One worker inserts one id. Which worker it is and which id it has come to is left open, and so is
how often an id is inserted again. -/
inductive Insertion : Gathering S → Gathering S → Prop
  | first (before after : List UInt64) (v : UInt64) (seen : S) :
      Insertion ⟨before ++ v :: after, seen⟩ ⟨before ++ after, SharedSet.insert seen v⟩
  | again (pending : List UInt64) (v : UInt64) (seen : S) (h : v ∈ members seen) :
      Insertion ⟨pending, seen⟩ ⟨pending, SharedSet.insert seen v⟩

def Reaches : Gathering S → Gathering S → Prop := Relation.ReflTransGen Insertion

/-- Every end of an edge is waiting or has been seen, and nothing else is. -/
def Accounts (edges : List Edge) (t : Gathering S) : Prop :=
  ∀ v, v ∈ t.pending ∨ v ∈ members t.seen ↔ Touched edges v

variable {edges : List Edge} {t t' : Gathering S} {vs : List UInt64}

theorem accounts_start (edges : List Edge) : (start S edges).Accounts edges := by
  intro v
  have hnone : v ∉ members (SharedSet.empty : S) := SharedSet.not_mem_empty v
  rw [start, mem_flatMap_ends]
  exact or_iff_left hnone

theorem Insertion.accounts (h : Insertion t t') (ht : t.Accounts edges) : t'.Accounts edges := by
  intro w
  rw [← ht w]
  cases h with
  | first before after v seen =>
      simp only [List.mem_append, List.mem_cons, SharedSet.mem_insert]
      tauto
  | again pending v seen hv =>
      simp only [SharedSet.mem_insert]
      constructor
      · rintro (hw | rfl | hw)
        · exact .inl hw
        · exact .inr hv
        · exact .inr hw
      · exact Or.imp_right .inr

theorem Reaches.accounts (h : Reaches (start S edges) t) : t.Accounts edges := by
  induction h with
  | refl => exact accounts_start edges
  | tail _ hstep ih => exact hstep.accounts ih

theorem Accounts.mem_seen (h : t.Accounts edges) (hempty : t.pending = []) (v : UInt64) :
    v ∈ members t.seen ↔ Touched edges v := by
  have hnone : v ∉ t.pending := hempty ▸ List.not_mem_nil
  rw [← h v]
  exact (or_iff_right hnone).symm

theorem reaches_foldl (pending : List UInt64) (seen : S) :
    Reaches ⟨pending, seen⟩ ⟨[], pending.foldl SharedSet.insert seen⟩ := by
  induction pending generalizing seen with
  | nil => exact .refl
  | cons v pending ih => exact .head (.first [] pending v seen) (ih (SharedSet.insert seen v))

theorem exists_emptied (t : Gathering S) : ∃ t', Reaches t t' ∧ t'.pending = [] :=
  ⟨_, reaches_foldl t.pending t.seen, rfl⟩

/-- What is listed and sorted once every end has been inserted. -/
def Yields (S : Type) [SharedSet S] (edges : List Edge) (vs : List UInt64) : Prop :=
  ∃ t : Gathering S, Reaches (start S edges) t ∧ t.pending = [] ∧ vs.Perm (members t.seen) ∧
    vs.Pairwise (· ≤ ·)

theorem yields_iff : Yields S edges vs ↔ vs = vertexSet edges := by
  constructor
  · rintro ⟨t, hreach, hempty, hperm, hsorted⟩
    refine eq_vertexSet_of_sorted hsorted (hperm.nodup_iff.2 (SharedSet.nodup _)) fun v => ?_
    exact hperm.mem_iff.trans (hreach.accounts.mem_seen hempty v)
  · rintro rfl
    obtain ⟨t, hreach, hempty⟩ := exists_emptied (start S edges)
    have hperm : (vertexSet edges).Perm (members t.seen) :=
      (List.perm_ext_iff_of_nodup (vertexSet_nodup edges) (SharedSet.nodup _)).2 fun v =>
        mem_vertexSet_iff.trans (hreach.accounts.mem_seen hempty v).symm
    exact ⟨t, hreach, hempty, hperm, (vertexSet_ascending edges).imp UInt64.le_of_lt⟩

end Gathering

open Gathering

/-- In whatever order the ends of the edges get into the shared set and however often, the vertices
come out as the one ascending list of the ids that some edge touches. So neither the order of the edges
nor their number or direction shows in it, edges put together have the vertices of both parts, and a
graph holds that list beside its edges. -/
theorem vertices_any_order (S : Type) [SharedSet S] (edges : List Edge) :
    (∀ vs, Yields S edges vs ↔ vs = vertexSet edges) ∧
    (∀ t, Reaches (start S edges) t → ∃ t', Reaches t t' ∧ t'.pending = []) ∧
    (∀ vs, vs = vertexSet edges ↔
      vs.Pairwise (· < ·) ∧ ∀ v, v ∈ vs ↔ ∃ e ∈ edges, v = e.source ∨ v = e.target) ∧
    (∀ edges', (∀ e, e ∈ edges' ↔ e ∈ edges) → vertexSet edges' = vertexSet edges) ∧
    vertexSet (edges.map Edge.reverse) = vertexSet edges ∧
    (∀ edges', vertexSet (edges ++ edges') = (vertexSet edges ∪ vertexSet edges').mergeSort (· ≤ ·)) ∧
    ∀ vs, Yields S edges vs → Graph.ofEdges edges = ⟨vs, edges⟩ := by
  refine ⟨fun vs => yields_iff, fun t _ => exists_emptied t, fun vs => eq_vertexSet_iff,
    fun edges' => vertexSet_of_same_edges, vertexSet_reverse edges, vertexSet_append edges, ?_⟩
  intro vs h
  rw [yields_iff.1 h, Graph.ofEdges]

abbrev Latest := { ids : List UInt64 // ids.Nodup }

instance : SharedSet Latest where
  empty := ⟨[], List.nodup_nil⟩
  insert s v := ⟨s.1.insert v, s.2.insert⟩
  members s := s.1
  not_mem_empty _ := List.not_mem_nil
  mem_insert _ _ _ := List.mem_insert_iff
  nodup s := s.2

/-- A loop between two edges that share an end. The target of the last one gets in first, and then
once more. -/
theorem vertices_any_order_latest :
    let edges : List Edge := [⟨9, 1⟩, ⟨4, 4⟩, ⟨1, 7⟩]
    Yields Latest edges [1, 4, 7, 9] ∧ vertexSet edges = [1, 4, 7, 9] ∧
      Graph.ofEdges edges = ⟨[1, 4, 7, 9], edges⟩ := by
  intro edges
  let seven : Latest := ⟨[7], by decide⟩
  have hseven : Reaches (start Latest edges) ⟨[9, 1, 4, 4, 1], seven⟩ :=
    .single (.first [9, 1, 4, 4, 1] [] 7 SharedSet.empty)
  have hagain : Insertion ⟨[9, 1, 4, 4, 1], seven⟩ ⟨[9, 1, 4, 4, 1], seven⟩ :=
    .again [9, 1, 4, 4, 1] 7 seven (List.mem_singleton.2 rfl)
  have hrest : Reaches ⟨[9, 1, 4, 4, 1], seven⟩ ⟨[], ⟨[4, 1, 9, 7], by decide⟩⟩ := reaches_foldl _ seven
  have hyields : Yields Latest edges [1, 4, 7, 9] :=
    ⟨_, (hseven.tail hagain).trans hrest, rfl, by decide, by decide⟩
  obtain ⟨hlist, -, -, -, -, -, hgraph⟩ := vertices_any_order Latest edges
  exact ⟨hyields, ((hlist _).1 hyields).symm, hgraph _ hyields⟩

end RecursiveMatrix
