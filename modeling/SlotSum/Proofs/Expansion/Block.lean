import SlotSum.Expand
import SlotSum.Proofs.Result
import SlotSum.Proofs.Source.Strip

/-!
What a block keeps of its items. All items stay in their places, and what has no option attribute
on a declaration in it stays as it is; but an item other than the structure loses the options of
the declarations inside it, although they belong to no expansion of the block.
-/

namespace SlotSum

/-- Stripping leaves a print as it is just where there are no options to remove. -/
theorem Node.treesAll_stripAll_eq_iff (nodes : List Node) :
    Node.treesAll (Node.stripAll nodes) = Node.treesAll nodes ↔
      Node.anyHasOptions nodes = false :=
  (Node.shrinksAll nodes).eq_iff

/-- The parts of an accepted expansion. -/
theorem expandItems_ok {items : List Item} {output : List Tree}
    (accepted : expandItems items = .ok output) :
    ∃ item options added, soleStruct items = .ok item ∧ blockOptions item = .ok options ∧
      synthesize (.ofItems item items) options = .ok added ∧
      output = items.flatMap Item.strippedTrees ++ added := by
  obtain ⟨item, sole, accepted⟩ := bind_eq_ok.mp accepted
  obtain ⟨options, read, accepted⟩ := bind_eq_ok.mp accepted
  obtain ⟨added, synthesized, accepted⟩ := bind_eq_ok.mp accepted
  cases accepted
  exact ⟨item, options, added, sole, read, synthesized, rfl⟩

theorem expandBlock_ok {block : List Token} {output : List Tree}
    (accepted : expandBlock block = .ok output) :
    ∃ items, Source.items block = .ok items ∧ expandItems items = .ok output := by
  obtain ⟨items, parsed, expanded⟩ := bind_eq_ok.mp accepted
  exact ⟨items, mapError_eq_ok.mp parsed, mapError_eq_ok.mp expanded⟩

/-- The items of an accepted block stay in their order, in front of what is added. One that is not
the structure stays as it is just if no option attribute stands on a declaration in it, be it
nested in a module, in a function or in an implementation. -/
theorem expandBlock_items {block : List Token} {output : List Tree}
    (accepted : expandBlock block = .ok output) :
    ∃ items item options added, Source.items block = .ok items ∧
      soleStruct items = .ok item ∧ synthesize (.ofItems item items) options = .ok added ∧
      output = items.flatMap Item.strippedTrees ++ added ∧
      ∀ other ∈ items, other.struct?.isNone = true →
        (other.strippedTrees = Node.treesAll other.nodes ↔
          Node.anyHasOptions other.nodes = false) := by
  obtain ⟨items, parsed, expanded⟩ := expandBlock_ok accepted
  obtain ⟨item, options, added, sole, _, synthesized, printed⟩ := expandItems_ok expanded
  exact ⟨items, item, options, added, parsed, sole, synthesized, printed,
    fun other _ _ => Node.treesAll_stripAll_eq_iff other.nodes⟩

/-- A module with a structure of its own, next to the structure of a block. -/
def nestedBlock : String := "struct S; mod m \x7b #[one_of] struct T \x7b x: Option<u8> \x7d \x7d"

/-- The options of the nested structure are lost. -/
theorem expandBlock_items_nested :
    ((Attempt.lexed nestedBlock).bind fun block =>
        (Attempt.parsed (Source.items block)).map fun items =>
          items.map fun item => Tree.renderAll (Node.treesAll item.nodes)).toOption =
      some ["struct S ;", "mod m \x7b # [one_of] struct T \x7b x : Option < u8 > \x7d \x7d"] ∧
    (expandBlockText nestedBlock).toOption =
      some "struct S ; mod m \x7b struct T \x7b x : Option < u8 > \x7d \x7d" := by
  decide +kernel

theorem expandBlock_items_accepted :
    ∃ block output, Attempt.lexed nestedBlock = .ok block ∧ expandBlock block = .ok output ∧
      ∃ items item options added, Source.items block = .ok items ∧
        soleStruct items = .ok item ∧ synthesize (.ofItems item items) options = .ok added ∧
        output = items.flatMap Item.strippedTrees ++ added ∧
        ∀ other ∈ items, other.struct?.isNone = true →
          (other.strippedTrees = Node.treesAll other.nodes ↔
            Node.anyHasOptions other.nodes = false) := by
  have computed : ((Attempt.lexed nestedBlock).bind expandBlock).toOption.isSome = true := by
    decide +kernel
  obtain ⟨output, expanded⟩ := Option.isSome_iff_exists.mp computed
  obtain ⟨block, lexed, accepted⟩ := bind_eq_ok.mp (toOption_eq_some.mp expanded)
  exact ⟨block, output, lexed, accepted, expandBlock_items accepted⟩

end SlotSum
