import SlotSum.Source.Strip

/-!
What stripping does to the printed form: where an option attribute stands on a declaration the
print gets shorter, and where none does it stays as it is.
-/

namespace SlotSum

/-! ### Sizes -/

mutual

/-- The number of leaves and groups that a tree is made of. -/
def Tree.size : Tree → Nat
  | .leaf _ _ => 1
  | .group _ inner => 1 + Tree.sizes inner

def Tree.sizes : List Tree → Nat
  | [] => 0
  | first :: rest => first.size + Tree.sizes rest

end

@[simp] theorem Tree.sizes_append (first second : List Tree) :
    Tree.sizes (first ++ second) = Tree.sizes first + Tree.sizes second := by
  induction first with
  | nil => simp [Tree.sizes]
  | cons tree rest ih =>
      simp only [List.cons_append, Tree.sizes, ih]
      omega

/-- The second print is shorter if something is removed from the first, and the same otherwise. -/
def Shrinks (removed : Bool) (before after : List Tree) : Prop :=
  if removed then Tree.sizes after < Tree.sizes before else after = before

namespace Shrinks

variable {removed removed' : Bool} {before before' after after' : List Tree}

theorem refl (trees : List Tree) : Shrinks false trees trees := by
  simp [Shrinks]

theorem lt (shrinks : Shrinks true before after) : Tree.sizes after < Tree.sizes before := by
  simpa [Shrinks] using shrinks

theorem eq (shrinks : Shrinks false before after) : after = before := by
  simpa [Shrinks] using shrinks

theorem le (shrinks : Shrinks removed before after) : Tree.sizes after ≤ Tree.sizes before := by
  cases removed with
  | true => exact Nat.le_of_lt shrinks.lt
  | false => exact Nat.le_of_eq (congrArg Tree.sizes shrinks.eq)

theorem eq_iff (shrinks : Shrinks removed before after) : after = before ↔ removed = false := by
  cases removed with
  | true =>
      have shorter := shrinks.lt
      constructor
      · rintro rfl
        omega
      · intro contra
        cases contra
  | false => exact iff_of_true shrinks.eq rfl

theorem append (first : Shrinks removed before after) (second : Shrinks removed' before' after') :
    Shrinks (removed || removed') (before ++ before') (after ++ after') := by
  have le := first.le
  have le' := second.le
  cases removed with
  | true =>
      have shorter := first.lt
      simp only [Shrinks, Bool.true_or, if_true, Tree.sizes_append]
      omega
  | false =>
      obtain rfl := first.eq
      cases removed' with
      | true =>
          have shorter := second.lt
          simp only [Shrinks, Bool.or_true, if_true, Tree.sizes_append]
          omega
      | false =>
          obtain rfl := second.eq
          exact refl _

theorem nil : Shrinks false (Tree.seq []) (Tree.seq []) := refl _

theorem cons {parts parts' : List (List Tree)} (first : Shrinks removed before after)
    (rest : Shrinks removed' (Tree.seq parts) (Tree.seq parts')) :
    Shrinks (removed || removed') (Tree.seq (before :: parts)) (Tree.seq (after :: parts')) := by
  simpa [Tree.seq] using first.append rest

theorem keep (trees : List Tree) {parts parts' : List (List Tree)}
    (rest : Shrinks removed (Tree.seq parts) (Tree.seq parts')) :
    Shrinks removed (Tree.seq (trees :: parts)) (Tree.seq (trees :: parts')) := by
  simpa using (refl trees).cons rest

theorem last (shrinks : Shrinks removed before after) :
    Shrinks removed (Tree.seq [before]) (Tree.seq [after]) := by
  simpa using shrinks.cons nil

theorem group (delimiter : Delimiter) (shrinks : Shrinks removed before after) :
    Shrinks removed [.group delimiter before] [.group delimiter after] := by
  cases removed <;> simp_all [Shrinks, Tree.sizes, Tree.size]

theorem drop (printed : 0 < Tree.sizes before) (shrinks : Shrinks removed before' after') :
    Shrinks true (before ++ before') after' := by
  have le := shrinks.le
  simp only [Shrinks, if_true, Tree.sizes_append]
  omega

end Shrinks

/-! ### Lists with commas -/

section

variable {parts : List γ} {print print' : γ → List Tree}

/-- The sizes of the prints of several parts together. -/
def Tree.total (print : γ → List Tree) (parts : List γ) : Nat :=
  Tree.sizes (parts.flatMap print)

@[simp] theorem Tree.total_cons (part : γ) (parts : List γ) :
    Tree.total print (part :: parts) = Tree.sizes (print part) + Tree.total print parts := by
  simp [Tree.total]

@[simp] theorem Tree.total_append (parts others : List γ) :
    Tree.total print (parts ++ others) = Tree.total print parts + Tree.total print others := by
  simp [Tree.total]

/-- Sorting parts by a mark leaves their sizes together as they are. -/
theorem Tree.total_partition (print : γ → List Tree) (mark : γ → Bool) (parts : List γ) :
    Tree.total print (parts.filter mark ++ parts.filter (!mark ·)) = Tree.total print parts := by
  induction parts with
  | nil => rfl
  | cons part rest ih =>
      simp only [Tree.total_append] at ih
      cases marked : mark part <;> simp [marked] <;> omega

theorem Tree.total_congr (same : ∀ part ∈ parts, print' part = print part) :
    Tree.total print' parts = Tree.total print parts := by
  rw [Tree.total, Tree.total, List.flatMap_def, List.flatMap_def, List.map_congr_left same]

/-- Parts that shrink take less space together, if anything is removed from one of them. -/
theorem Tree.total_lt {removes : γ → Bool}
    (each : ∀ part ∈ parts, Shrinks (removes part) (print part) (print' part))
    (removed : parts.any removes = true) : Tree.total print' parts < Tree.total print parts := by
  induction parts with
  | nil => cases removed
  | cons part rest ih =>
      rw [List.forall_mem_cons] at each
      obtain ⟨first, others⟩ := each
      have least : Tree.total print' rest ≤ Tree.total print rest := by
        cases more : rest.any removes with
        | true => exact Nat.le_of_lt (ih others more)
        | false =>
            refine Nat.le_of_eq (Tree.total_congr fun other member => ?_)
            exact (others other member).eq_iff.mpr
              (by simpa using List.any_eq_false.mp more other member)
      simp only [Tree.total_cons]
      rw [List.any_cons, Bool.or_eq_true] at removed
      rcases removed with here | later
      · have shorter : Tree.sizes (print' part) < Tree.sizes (print part) := by
          simpa [Shrinks, here] using first
        omega
      · have shorter := ih others later
        have le := first.le
        omega

/-- If the prints of all parts shrink, then so does a list of them in which everything besides the
parts takes the same space. -/
theorem Shrinks.of_parts {removes : γ → Bool} {before after : List Tree}
    (each : ∀ part ∈ parts, Shrinks (removes part) (print part) (print' part))
    (balanced : Tree.sizes after + Tree.total print parts =
      Tree.sizes before + Tree.total print' parts)
    (same : (∀ part ∈ parts, print' part = print part) → after = before) :
    Shrinks (parts.any removes) before after := by
  cases removed : parts.any removes with
  | true =>
      have shorter := Tree.total_lt each removed
      simp only [Shrinks, if_true]
      omega
  | false =>
      refine same fun part member => (each part member).eq_iff.mpr ?_
      simpa using List.any_eq_false.mp removed part member

/-- Commas between parts take the same space whatever the parts are. -/
theorem sizes_settle (print print' : γ → List Tree) (comma : List Tree) (settled : Bool)
    (marked : List (γ × Bool)) :
    Tree.sizes (settle comma settled (marked.map fun (part, own) => (print' part, own))) +
        Tree.total print (marked.map Prod.fst) =
      Tree.sizes (settle comma settled (marked.map fun (part, own) => (print part, own))) +
        Tree.total print' (marked.map Prod.fst) := by
  induction marked generalizing settled with
  | nil => rfl
  | cons first rest ih =>
      obtain ⟨part, own⟩ := first
      have rest := ih own
      simp only [List.map_cons, settle, Tree.sizes_append, Tree.total_cons] at rest ⊢
      omega

theorem withCommas_map (change : γ → δ) (trailing : Bool) : (parts : List γ) →
    withCommas trailing (parts.map change) =
      (withCommas trailing parts).map fun (part, own) => (change part, own)
  | [] => rfl
  | [_] => rfl
  | first :: second :: rest => by
      have ih := withCommas_map change trailing (second :: rest)
      simp only [List.map_cons, withCommas] at ih ⊢
      rw [ih]

theorem withCommas_fst (trailing : Bool) : (parts : List γ) →
    (withCommas trailing parts).map Prod.fst = parts
  | [] => rfl
  | [_] => rfl
  | first :: second :: rest => by
      have ih := withCommas_fst trailing (second :: rest)
      simp only [List.map_cons, withCommas] at ih ⊢
      rw [ih]

theorem Shrinks.listed {removes : γ → Bool} (comma : List Tree) (trailing : Bool)
    (each : ∀ part ∈ parts, Shrinks (removes part) (print part) (print' part)) :
    Shrinks (parts.any removes) (listed comma trailing (parts.map print))
      (listed comma trailing (parts.map print')) := by
  refine .of_parts each ?_ fun same => by rw [List.map_congr_left same]
  have balanced := sizes_settle print print' comma true
    (withCommas trailing parts)
  rwa [withCommas_fst, ← withCommas_map, ← withCommas_map] at balanced

/-- Parts with their commas, those with a mark before all others. -/
theorem lifetimesFirst_map (mark : γ → Bool) (comma : List Tree) (trailing : Bool)
    (parts : List γ) :
    lifetimesFirst comma trailing (parts.map fun part => (mark part, print part)) =
      settle comma true
        (((withCommas trailing parts).filter (fun (part, _) => mark part) ++
          (withCommas trailing parts).filter (fun (part, _) => !mark part)).map
            fun (part, own) => (print part, own)) := by
  simp only [lifetimesFirst, withCommas_map, List.filter_map, List.map_append, List.map_map]
  rfl

theorem Shrinks.lifetimesFirst {removes : γ → Bool} (mark : γ → Bool) (comma : List Tree)
    (trailing : Bool)
    (each : ∀ part ∈ parts, Shrinks (removes part) (print part) (print' part)) :
    Shrinks (parts.any removes)
      (lifetimesFirst comma trailing (parts.map fun part => (mark part, print part)))
      (lifetimesFirst comma trailing (parts.map fun part => (mark part, print' part))) := by
  refine .of_parts each ?_ fun same => by
    rw [List.map_congr_left fun part member => by rw [same part member]]
  have balanced := sizes_settle print print' comma true
    ((withCommas trailing parts).filter (fun (part, _) => mark part) ++
      (withCommas trailing parts).filter (fun (part, _) => !mark part))
  have sorted (print : γ → List Tree) :
      Tree.total print (((withCommas trailing parts).filter (fun (part, _) => mark part) ++
        (withCommas trailing parts).filter (fun (part, _) => !mark part)).map Prod.fst) =
      Tree.total print parts := by
    have partition := Tree.total_partition print mark parts
    rw [← withCommas_fst trailing parts, List.filter_map, List.filter_map] at partition
    rw [List.map_append]
    exact partition.trans (by rw [withCommas_fst])
  rw [sorted, sorted, ← lifetimesFirst_map, ← lifetimesFirst_map] at balanced
  exact balanced

end

end SlotSum
