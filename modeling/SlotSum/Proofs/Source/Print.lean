import SlotSum.Proofs.Source.Strip
import SlotSum.Source.Grammar.Path

/-!
Prints of terms in a row. Commas and the order of arguments do not depend on whether the terms are
printed before or after.
-/

namespace SlotSum

namespace Node

theorem treesAll_append (nodes others : List Node) :
    treesAll (nodes ++ others) = treesAll nodes ++ treesAll others := by
  induction nodes with
  | nil => rfl
  | cons first rest ih => simp [treesAll, ih]

theorem treesAll_settle (comma : List Node) (settled : Bool) (parts : List (List Node × Bool)) :
    treesAll (settle comma settled parts) =
      settle (treesAll comma) settled (parts.map fun (part, own) => (treesAll part, own)) := by
  induction parts generalizing settled with
  | nil => rfl
  | cons first rest ih =>
      obtain ⟨part, own⟩ := first
      simp only [settle, List.map_cons, treesAll_append, ih]
      cases settled <;> cases own <;> rfl

theorem treesAll_lifetimesFirst (comma : List Node) (trailing : Bool)
    (parts : List (Bool × List Node)) :
    treesAll (lifetimesFirst comma trailing parts) =
      lifetimesFirst (treesAll comma) trailing
        (parts.map fun (mark, part) => (mark, treesAll part)) := by
  simp only [lifetimesFirst, treesAll_settle, withCommas_map, List.filter_map, List.map_append,
    List.map_map]
  rfl

theorem treesAll_listed (comma : List Node) (trailing : Bool) (parts : List (List Node)) :
    treesAll (listed comma trailing parts) =
      listed (treesAll comma) trailing (parts.map treesAll) := by
  rw [listed, treesAll_settle, listed, withCommas_map]

end Node

/-- Parts behind each of which its comma is put have no others to put in. -/
theorem settle_withCommas (comma : List α) (trailing : Bool) (parts : List (List α)) :
    settle comma true (withCommas trailing parts) =
      (withCommas trailing parts).flatMap fun (part, own) => part ++ if own then comma else [] := by
  induction parts with
  | nil => rfl
  | cons first rest ih =>
      cases rest with
      | nil => simp [withCommas, settle]
      | cons second rest =>
          simp only [withCommas, settle, List.flatMap_cons, if_true, List.nil_append] at ih ⊢
          rw [ih]

theorem Parse.Separated.treesAll_nodes (separated : Separated α) (separator : String)
    (parts : α → List Node) :
    Node.treesAll (separated.nodes separator parts) =
      listed [.leaf separator false] separated.trailing
        (separated.elements.map fun element => Node.treesAll (parts element)) := by
  have shown : separated.nodes separator parts =
      listed [.word separator] separated.trailing (separated.elements.map parts) := by
    rw [listed, settle_withCommas, withCommas_map, List.flatMap_map, nodes]
    congr 1
    funext ⟨part, own⟩
    cases own <;> simp
  rw [shown, Node.treesAll_listed, List.map_map]
  rfl

/-- Arguments that begin with the lifetimes keep their order. -/
theorem lifetimesFirst_sorted (comma : List α) (trailing : Bool) {first rest : List (Bool × List α)}
    (lifetimes : ∀ part ∈ first, part.1 = true) (others : ∀ part ∈ rest, part.1 = false) :
    lifetimesFirst comma trailing (first ++ rest) =
      listed comma trailing ((first ++ rest).map Prod.snd) := by
  obtain ⟨before, after, split, before_, after_⟩ :=
    List.map_eq_append_iff.mp (withCommas_fst trailing (first ++ rest))
  have marked : ∀ part ∈ before, part.1.1 = true := fun part member =>
    lifetimes part.1 (before_ ▸ List.mem_map_of_mem member)
  have unmarked : ∀ part ∈ after, part.1.1 = false := fun part member =>
    others part.1 (after_ ▸ List.mem_map_of_mem member)
  have sorted : (before ++ after).filter (·.1.1) ++ (before ++ after).filter (!·.1.1) =
      before ++ after := by
    simp only [List.filter_append]
    rw [List.filter_eq_self.mpr marked, List.filter_eq_nil_iff.mpr (by simpa using unmarked),
      List.filter_eq_nil_iff.mpr (by simpa using marked),
      List.filter_eq_self.mpr (by simpa using unmarked)]
    simp
  rw [lifetimesFirst, split, sorted, ← split, listed, withCommas_map]

namespace Segment

theorem treesAll_cons (first second : Segment) (rest : List Segment) :
    treesAll (first :: second :: rest) =
      first.trees ++ .leaf "::" false :: treesAll (second :: rest) := by
  rw [treesAll]
  · simp [Tree.seq]
  · simp

theorem treesAll_eq (segments : List Segment) :
    treesAll segments = listed [.leaf "::" false] false (segments.map Segment.trees) := by
  induction segments with
  | nil => rfl
  | cons first rest ih =>
      cases rest with
      | nil => simp [treesAll, listed, withCommas, settle]
      | cons second rest =>
          rw [treesAll_cons, ih]
          simp [listed, withCommas, settle]

theorem treesAll_nodes (segment : Segment) : Node.treesAll segment.nodes = segment.trees := by
  obtain ⟨name, arguments⟩ := segment
  cases arguments with
  | none => simp [nodes, Node.treesAll, Node.trees, trees, Arguments.trees, Tree.seq]
  | angle turbofish arguments trailing =>
      simp [nodes, Node.treesAll, Node.trees, trees, Tree.seq]
  | round parts => simp [nodes, Node.treesAll, Node.trees, trees, Tree.seq]

theorem treesAll_nodesAll (segments : List Segment) :
    Node.treesAll (nodesAll segments) = treesAll segments := by
  induction segments with
  | nil => rfl
  | cons first rest ih =>
      cases rest with
      | nil => simp [nodesAll, treesAll, treesAll_nodes]
      | cons second rest =>
          have eq : nodesAll (first :: second :: rest) =
            first.nodes ++ .word "::" :: nodesAll (second :: rest) := rfl
          rw [eq, Node.treesAll_append, Node.treesAll, ih, treesAll_nodes, treesAll_cons]
          simp [Node.trees]

end Segment

theorem Path.treesAll_nodes (path : Path) :
    Node.treesAll path.nodes = rootMark path.rooted ++ Segment.treesAll path.segments := by
  cases rooted : path.rooted <;>
    simp [nodes, Node.seq, rooted, rootMark, Node.treesAll, Node.trees, Segment.treesAll_nodesAll]

end SlotSum
