import SlotSum.Proofs.Source.FunctionReading

/-!
Phrases are read back. What a phrase of the grammar is spelled by is read as a term that prints the
phrase, whatever its operators are joined to.
-/

namespace SlotSum

open Token (Look)
open Parse

namespace Grammar

/-! ### Constants -/

theorem takes_negative {text : String} {joint : Bool} {span span' : Span} {rest : List Token}
    (digit : Look.startsWithDigit text = true) :
    Takes literal (.mark '-' joint span :: .literal text span' :: rest) rest (true, text) := by
  intro scope last
  refine ⟨span', ?_⟩
  rw [literal, get_apply]
  simp only [Token.front, Token.unveil, List.cons_append, List.nil_append, digit, if_true]
  rfl

theorem takes_boolean {name : Name} {rest : List Token}
    (boolean : (name.text == "true" || name.text == "false") = true) :
    Takes literal (.word name :: rest) rest (false, name.text) := by
  intro scope last
  refine ⟨name.span, ?_⟩
  rw [literal, get_apply]
  simp only [Token.front, Token.unveil, List.cons_append, List.nil_append, boolean, if_true]
  rfl

theorem takes_constArgument {part : List Symbol} {tokens : List Token} {n : Nat}
    (rest : List Token) (isConstant : IsConstant part) (spells : Spells part tokens) (size : Token.sizes tokens ≤ n) :
    Look.lifetime (tokens ++ rest) = false ∧
      (Look.literal (tokens ++ rest) || Look.group .brace (tokens ++ rest)) = true ∧
      ∃ nodes, Node.treesAll nodes = Symbol.trees part ∧
        Takes (constArgument (.level (n + 1))) (tokens ++ rest) rest nodes := by
  cases isConstant with
  | literal text =>
      cases spells with
      | literal span none_ =>
          cases none_
          refine ⟨rfl, rfl, [.literal [] false text], ?_, ?_⟩
          · simp [Node.treesAll, Node.trees, Tree.seq, Symbol.trees, Symbol.tree]
          · rw [constArgument, takes_peek_bind]
            exact (takes_literal text span).bind (takes_pure _ _)
  | @negative text digit =>
      obtain ⟨joint, span, after, rfl, others⟩ := spells.of_sign (c := '-') rfl
      cases others with
      | literal span' none_ =>
          cases none_
          have negated : Look.literal (.mark '-' joint span :: .literal text span' :: rest) = true :=
            digit
          refine ⟨by simp, ?_, [.literal [] true text], ?_, ?_⟩
          · rw [Bool.or_eq_true]
            exact .inl negated
          · simp [Node.treesAll, Node.trees, Tree.seq, Symbol.trees, Symbol.tree]
          · rw [constArgument, takes_peek_bind]
            change Takes (if Look.literal (.mark '-' joint span :: .literal text span' :: rest) then _
              else _) _ _ _
            rw [negated, if_pos rfl]
            exact (takes_negative digit).bind (takes_pure _ _)
  | @boolean text member =>
      cases spells with
      | word _ span none_ =>
          cases none_
          have boolean : (text == "true" || text == "false") = true := by simpa using member
          refine ⟨rfl, ?_, [.literal [] false text], ?_, ?_⟩
          · rw [Bool.or_eq_true]
            exact .inl boolean
          · simp [Node.treesAll, Node.trees, Tree.seq, Symbol.trees, Symbol.tree]
          · rw [constArgument, takes_peek_bind]
            change Takes (if Look.literal (.word ⟨text, span⟩ :: rest) then _ else _) _ _ _
            rw [Look.literal_word, boolean, if_pos rfl]
            exact (takes_boolean boolean).bind (takes_pure _ _)
  | @block inner reads =>
      obtain ⟨block, shown, taken⟩ := reads tokens rest n spells size trivial
      cases spells with
      | @group _ _ contents _ _ visible opening closing inside none_ =>
          cases none_
          have brace : Look.group .brace (.group .brace contents opening closing :: rest) = true :=
            Look.group_group visible
          refine ⟨Look.lifetime_group visible, ?_, [block], ?_, ?_⟩
          · rw [Bool.or_eq_true]
            exact .inr brace
          · simp [Node.treesAll, shown, Symbol.trees]
          · rw [constArgument, takes_peek_bind]
            simp only [List.cons_append, List.nil_append, Look.literal_group visible,
              Bool.false_eq_true, if_false, takes_peek_bind, Look.identifier_group visible,
              takes_peekGroup_bind, brace, if_true]
            exact Takes.bind taken (takes_pure _ _)

/-! ### Arguments -/

theorem readsArgument_type {part : List Symbol} (reads : ReadsType true part) (front : Front part) :
    ReadsArgument part := by
  intro tokens rest n spells size ends
  have sees := front.sees spells rest
  obtain ⟨type_, shown, taken⟩ := reads tokens rest n spells size ends.stops
  refine ⟨.type type_, ⟨(not_lifetime (.inl front)).symm, ?_⟩, ?_⟩
  · simp [Argument.trees, Argument.treesEach, shown]
  · have equals : Look.mark "=" rest = false := ends.other (c := '=') (by decide) []
    have colon : Look.mark ":" rest = false := ends.other (c := ':') (by decide) []
    beta_reduce
    rw [argument]
    simp only [takes_peek_bind, sees.lifetime, Bool.false_and, Bool.false_eq_true, if_false,
      sees.literal, takes_peekGroup_bind, sees.brace, Bool.or_self]
    refine Takes.bind taken ?_
    split
    · exact takes_pure _ _
    · simp [equals, colon]
      exact takes_pure _ _
    · exact takes_pure _ _

theorem readsArgument_constant {part : List Symbol} (isConstant : IsConstant part) :
    ReadsArgument part := by
  intro tokens rest n spells size ends
  obtain ⟨lifetime, constant, nodes, shown, taken⟩ :=
    takes_constArgument rest isConstant spells size
  refine ⟨.const nodes, ⟨(not_lifetime (.inr (.inl isConstant))).symm, ?_⟩, ?_⟩
  · simp [Argument.trees, Argument.treesEach, shown]
  · beta_reduce
    rw [argument]
    simp only [takes_peek_bind, lifetime, Bool.false_and, Bool.false_eq_true, if_false,
      takes_peekGroup_bind, constant, if_true]
    exact Takes.bind taken (takes_pure _ _)

/-- A sole name is read before what it is bound to. -/
theorem takes_head {part : List Symbol} {tokens rest : List Token} {n : Nat}
    (reads : ReadsSegment false part) (named : Named part) (spells : Spells part tokens)
    (size : Token.sizes tokens ≤ n) (stops : Stops true rest) :
    ∃ head, Segment.Spelled part head ∧ ∀ {rest' value},
      Takes (do
        if ← mark? "=" then
          if (← peek Look.literal) || (← peekGroup .brace) then
            return Argument.binding
              (Node.seq [head.nodes, "=", ← constArgument (.level (n + 1))])
          else
            return Argument.binding
              (Node.seq [head.nodes, "=", ← (Rules.level (n + 1)).type .whole])
        else if ← mark? ":" then
          let bounds ← boundsUntil (.level (n + 1)) fun tokens =>
            Look.mark "," tokens || Look.mark ">" tokens
          return Argument.binding (Node.seq [head.nodes, ":", boundNodes bounds])
        else
          return Argument.type (.path false [head])) rest rest' value →
      Takes (argument (.level (n + 1))) (tokens ++ rest) rest' value := by
  have sees := (Front.named named).sees spells rest
  have alone : Spells (Symbol.root false ++ Symbol.path [part]) tokens := by
    simpa [Symbol.root, Symbol.path] using spells
  obtain ⟨segments, spelled, taken⟩ := takes_pathType (by simpa using reads)
    (by simpa [PhraseKind.Begins] using named) (by simp) alone size stops
  cases spelled with
  | @cons _ head _ _ own none_ =>
      cases none_
      refine ⟨head, own, fun last => ?_⟩
      rw [argument]
      simp only [takes_peek_bind, sees.lifetime, Bool.false_and, Bool.false_eq_true, if_false,
        sees.literal, takes_peekGroup_bind, sees.brace, Bool.or_self]
      refine Takes.bind taken ?_
      obtain ⟨name, arguments⟩ := head
      cases arguments with
      | none | angle => exact last
      | round parts => exact absurd rfl (own.2 parts)

section

variable {name part : List Symbol} (reads : ReadsSegment false name) (named : Named name)
include reads named

theorem readsArgument_binding (type : ReadsType true part) (front : Front part) :
    ReadsArgument (name ++ .operator "=" :: part) := by
  intro tokens rest n spells size ends
  obtain ⟨before, after, rfl, own, others⟩ := spells.of_append
  obtain ⟨joint, span, after, rfl, next⟩ := others.of_sign (c := '=') rfl
  simp only [Token.sizes, Token.size, Token.sizes_append] at size
  obtain ⟨head, spelled, whole⟩ := takes_head (n := n) reads named own (by omega)
    (stops_mark (c := '=') (by decide) joint span (after ++ rest))
  obtain ⟨type_, shown, taken⟩ := type.within (n := n + 1) next (by omega) ends.stops
  have sees := front.sees next rest
  refine ⟨.binding (Node.seq [head.nodes, "=", type_]), ⟨?_, ?_⟩, ?_⟩
  · exact (not_lifetime (.inr (.inr (named.steps.append _)))).symm
  · simp [Argument.trees, Argument.treesEach, Node.seq, Node.treesAll_append, Node.treesAll,
      Node.trees, Segment.treesAll_nodes, spelled.1, shown, Symbol.trees_append, Symbol.trees,
      Symbol.tree]
  · rw [List.append_assoc]
    refine whole ((takes_sign? (c := '=') rfl (by decide)).bind ?_)
    simp only [if_true, takes_peek_bind, sees.literal, takes_peekGroup_bind, sees.brace, Bool.or_self,
      Bool.false_eq_true, if_false]
    exact taken.bind (takes_pure _ _)

theorem readsArgument_constantBinding (isConstant : IsConstant part) :
    ReadsArgument (name ++ .operator "=" :: part) := by
  intro tokens rest n spells size ends
  obtain ⟨before, after, rfl, own, others⟩ := spells.of_append
  obtain ⟨joint, span, after, rfl, next⟩ := others.of_sign (c := '=') rfl
  simp only [Token.sizes, Token.size, Token.sizes_append] at size
  obtain ⟨head, spelled, whole⟩ := takes_head (n := n) reads named own (by omega)
    (stops_mark (c := '=') (by decide) joint span (after ++ rest))
  obtain ⟨-, constant, nodes, shown, taken⟩ :=
    takes_constArgument (n := n) rest isConstant next (by omega)
  refine ⟨.binding (Node.seq [head.nodes, "=", nodes]), ⟨?_, ?_⟩, ?_⟩
  · exact (not_lifetime (.inr (.inr (named.steps.append _)))).symm
  · simp [Argument.trees, Argument.treesEach, Node.seq, Node.treesAll_append, Node.treesAll,
      Node.trees, Segment.treesAll_nodes, spelled.1, shown, Symbol.trees_append, Symbol.trees,
      Symbol.tree]
  · rw [List.append_assoc]
    refine whole ((takes_sign? (c := '=') rfl (by decide)).bind ?_)
    simp only [if_true, takes_peek_bind, takes_peekGroup_bind, constant]
    exact taken.bind (takes_pure _ _)

theorem readsArgument_constraint {parts : List (List Symbol)}
    (bounds : ∀ part ∈ parts, ReadsBound part)
    (begins : ∀ part ∈ parts, PhraseKind.bound.Begins part) (some_ : parts ≠ [])
    (apart : ∀ rest, parts.head? ≠ some (.operator "::" :: rest)) :
    ReadsArgument (name ++ .operator ":" :: Symbol.sum parts) := by
  intro tokens rest n spells size ends
  obtain ⟨before, after, rfl, own, others⟩ := spells.of_append
  obtain ⟨joint, span, after, rfl, next⟩ := others.of_sign (c := ':') rfl
  simp only [Token.sizes, Token.size, Token.sizes_append] at size
  have single : Look.mark ":" (after ++ rest) = false := by
    obtain ⟨first, later, rfl⟩ := List.exists_cons_of_ne_nil some_
    obtain ⟨tail, eq⟩ := exists_listed [.operator "+"] false first later
    rw [Symbol.sum, eq] at next
    obtain ⟨front, back, rfl, own, -⟩ := next.of_append
    rw [List.append_assoc]
    exact sees_single (begins first List.mem_cons_self) (fun rest eq => apart rest (by simp [eq]))
      own _
  have stops : Stops true (.mark ':' joint span :: (after ++ rest)) := by
    have unfolded : Look.mark "::" (.mark ':' joint span :: (after ++ rest)) =
      (joint && Look.mark ":" (after ++ rest)) := rfl
    exact ⟨⟨rfl, by rw [unfolded, single, Bool.and_false]⟩, rfl, rfl, rfl, fun _ => rfl⟩
  obtain ⟨head, spelled, whole⟩ := takes_head (n := n) reads named own (by omega) stops
  have asked (tokens : List Token) : Takes
      (peek fun tokens => Look.mark "," tokens || Look.mark ">" tokens) tokens tokens
      (Look.mark "," tokens || Look.mark ">" tokens) := fun _ last => ⟨last, rfl⟩
  have goesOn (tokens : List Token) (sees : SeesBound tokens) :
      (Look.mark "," tokens || Look.mark ">" tokens) = false := by
    have comma : Look.mark "," tokens = false := sees.marks ',' [] (by decide)
    have close : Look.mark ">" tokens = false := sees.marks '>' [] (by decide)
    rw [comma, close]
    rfl
  obtain ⟨found, spelled', taken⟩ : ∃ found, List.Forall₂ Bound.Spelled parts found ∧
      Takes (chainLoop "+" (peek fun tokens => Look.mark "," tokens || Look.mark ">" tokens)
          (peekMark "+") (bound (.level (n + 1)) false true) (Token.sizes (after ++ rest) + 1))
        (after ++ rest) rest ⟨found, false⟩ :=
    takes_bounds asked goesOn bounds begins some_ ends.stops next (by omega)
      (by rw [Token.sizes_append]; omega)
  refine ⟨.binding (Node.seq [head.nodes, ":", boundNodes ⟨found, false⟩]), ⟨?_, ?_⟩, ?_⟩
  · exact (not_lifetime (.inr (.inr (named.steps.append _)))).symm
  · simp [Argument.trees, Argument.treesEach, Node.seq, Node.treesAll_append, Node.treesAll,
      Node.trees, Segment.treesAll_nodes, spelled.1, treesAll_boundNodes spelled',
      Symbol.trees_append, Symbol.trees, Symbol.tree]
  · rw [List.append_assoc]
    refine whole ?_
    rw [takes_mark?_bind rfl]
    simp only [Bool.false_eq_true, if_false]
    refine (takes_sign? (c := ':') rfl (by decide)).bind ?_
    rw [if_pos rfl]
    refine Takes.bind ?_ (takes_pure _ _)
    rw [boundsUntil, chain, takes_budget_bind]
    exact taken.bind (takes_pure _ _)

end

end Grammar

/-! ### Phrases -/

open Grammar

/-- What is read of a phrase. -/
def PhraseKind.Read : PhraseKind → List Symbol → Prop
  | .type plus, symbols => ReadsType plus symbols
  | .plain plus, symbols => ReadsPlain plus symbols
  | .path, symbols => ∃ parts, parts ≠ [] ∧ symbols = Symbol.path parts ∧
      (∀ part ∈ parts, ReadsSegment false part) ∧ ∀ part ∈ parts, PhraseKind.segment.Begins part
  | .segment, symbols => ReadsSegment false symbols
  | .argument, symbols => ReadsArgument symbols
  | .bounds plus, symbols => ReadsBounds plus symbols
  | .bound, symbols => ReadsBound symbols
  | .trait, symbols => ReadsTrait symbols
  | .input, symbols => ReadsInput symbols ∧ BeginsInput symbols
  | .output, symbols => ReadsOutput symbols

theorem Phrase.read {kind : PhraseKind} {symbols : List Symbol} (phrase : Phrase kind symbols) :
    kind.Read symbols := by
  induction phrase with
  | bare _ ih => exact ih.type
  | paren inner ih => exact readsType_paren ih inner.begins
  | path rooted _ ih =>
      obtain ⟨parts, some_, rfl, reads, begins⟩ := ih
      exact readsPlain_path reads begins some_
  | projection _ _ subject ih =>
      obtain ⟨parts, some_, rfl, reads, begins⟩ := ih
      exact readsPlain_projection reads begins some_ subject
  | qualified rooted _ _ _ subject owner ih =>
      obtain ⟨parts, some_, rfl, reads, begins⟩ := ih
      obtain ⟨owners, some', rfl, reads', begins'⟩ := owner
      exact readsPlain_qualified reads begins some_ subject reads' begins' some'
  | reference lifetime mutable inner ih => exact readsPlain_reference lifetime mutable ih inner.begins
  | slice _ ih => exact readsPlain_slice ih
  | array _ isLength ih => exact readsPlain_array ih isLength
  | unit => exact readsPlain_unit
  | tuple first each trailing comma ih ihs =>
      exact readsPlain_tuple ih first.begins ihs (fun part member => (each part member).begins) comma
  | never => exact readsPlain_never
  | inferred => exact readsPlain_inferred
  | pointer mutable _ ih => exact readsPlain_pointer mutable ih
  | function bound isUnsafe abi text each trailing _ ihs output =>
      exact readsPlain_function text (fun part member => (ihs part member).1)
        (fun part member => (ihs part member).2) output
  | object bounds ih => exact readsPlain_object ih bounds.begins
  | existential _ ih => exact readsPlain_existential ih
  | segments some_ each ihs =>
      exact ⟨_, some_, rfl, ihs, fun part member => (each part member).begins⟩
  | step isStep => exact readsSegment_step isStep
  | angle isName turbofish trailing names each ihs =>
      exact readsSegment_angle isName ihs fun part member => (each part member).begins
  | typeArgument type ih => exact readsArgument_type ih type.begins
  | constant isConstant => exact readsArgument_constant isConstant
  | binding head type ih ih' => exact readsArgument_binding ih head.begins ih' type.begins
  | constantBinding head isConstant ih => exact readsArgument_constantBinding ih head.begins isConstant
  | constraint head some_ each apart ih ihs =>
      exact readsArgument_constraint ih head.begins ihs
        (fun part member => (each part member).begins) some_ apart
  | oneBound trait ih => exact readsBounds_one ih trait.begins
  | severalBounds each member trait ihs =>
      exact readsBounds_several ihs (fun part member => (each part member).begins) member trait.begins
  | outlives name => exact readsBound_lifetime name
  | traitBound trait ih => exact readsBound_trait ih trait.begins
  | traitPath relaxed bound rooted _ ih =>
      obtain ⟨parts, some_, rfl, reads, begins⟩ := ih
      exact readsTrait_path reads begins some_
  | traitCall relaxed bound rooted steps isName each trailing _ ihs ihs' output =>
      exact readsTrait_call ihs (fun part member => (steps part member).begins) isName ihs'
        (fun part member => (each part member).begins) output
  | input type ih => exact ⟨readsInput_type ih type.begins, beginsInput_type type.begins⟩
  | namedInput plain type apart ih =>
      exact ⟨readsInput_named plain type.begins ih apart, beginsInput_named plain type.begins⟩
  | noOutput => exact readsOutput_none
  | output _ ih => exact readsOutput_some ih

end SlotSum
