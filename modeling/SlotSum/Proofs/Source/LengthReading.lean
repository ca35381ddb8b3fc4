import SlotSum.Proofs.Source.TypeReading

/-!
Lengths that are literals or paths are read back. They are operands that nothing follows.
-/

namespace SlotSum

open Token (Look)
open Parse

namespace Grammar

section

variable {rules : Rules} {structures : Bool} {tokens : List Token} {expr : Expr}

/-! ### Operands that nothing follows -/

theorem takes_trailers_nil (subject : Expr) : Takes (trailers rules subject) [] [] subject :=
  fun _ last => ⟨last, rfl⟩

theorem takes_continued_nil (left : Expr) :
    Takes (continued rules structures left Precedence.lowest) [] [] left := by
  obtain ⟨nodes, shape, ends⟩ := left
  intro scope last
  cases shape <;> exact ⟨last, rfl⟩

/-- What is seen where an operand begins with neither a sign nor an attribute. -/
structure SeesOperand (tokens : List Token) : Prop where
  visible : Look.invisible tokens = false
  plain : ∀ c ∈ ['#', '&', '*', '!', '-'], Look.marks [c] tokens = false

theorem takes_operand (sees : SeesOperand tokens)
    (taken : Takes (atom rules structures) tokens [] expr) :
    Takes (operand rules structures) tokens [] expr := by
  have number : Look.mark "#" tokens = false := sees.plain '#' (by simp)
  have reference : Look.mark "&" tokens = false := sees.plain '&' (by simp)
  have signs : (["*", "!", "-"].find? fun sign => Look.mark sign tokens) = none := by
    have star : Look.mark "*" tokens = false := sees.plain '*' (by simp)
    have bang : Look.mark "!" tokens = false := sees.plain '!' (by simp)
    have minus : Look.mark "-" tokens = false := sees.plain '-' (by simp)
    simp [star, bang, minus]
  have unmarked : Takes (expressionAttributes rules) tokens tokens [] := by
    rw [expressionAttributes, many, takes_budget_bind, whileLoop]
    simp only [bind_assoc, takes_peek_bind, takes_peekMark_bind, number, Bool.and_false, pure_bind]
    exact takes_pure _ _
  rw [operand]
  refine unmarked.bind ?_
  rw [takes_peek_bind, sees.visible]
  simp only [Bool.false_eq_true, if_false]
  rw [takes_mark?_bind reference]
  refine Takes.get_bind fun cursor same => ?_
  subst same
  simp only [signs]
  rw [trailedAtom]
  refine taken.bind ((takes_trailers_nil expr).bind ?_)
  simp only [List.isEmpty_nil, Bool.not_true, Bool.and_false, Bool.false_eq_true, if_false]
  exact takes_pure _ _

end

/-- An atom is a length. -/
theorem isLength_of_atom {symbols : List Symbol}
    (each : ∀ tokens n, Spells symbols tokens → Token.sizes tokens ≤ n → SeesOperand tokens ∧
      ∃ expr : Expr, Node.treesAll expr.nodes = Symbol.trees symbols ∧
        Takes (atom (.level n) true) tokens [] expr) : IsLength symbols := by
  rintro tokens rest n spells size rfl
  obtain ⟨sees, expr, shown, taken⟩ := each tokens n spells size
  refine ⟨expr, shown, ?_⟩
  beta_reduce
  rw [List.append_nil, expression]
  exact Takes.bind (takes_operand sees taken) (takes_continued_nil expr)

theorem isLength_literal (text : String) : IsLength [.literal text] := by
  refine isLength_of_atom fun tokens n spells _ => ?_
  cases spells with
  | literal span none_ =>
      cases none_
      refine ⟨⟨rfl, fun _ _ => rfl⟩, .plain [.literal [] false text], ?_, ?_⟩
      · simp [Expr.plain, Node.treesAll, Node.trees, Tree.seq, Symbol.trees, Symbol.tree]
      · rw [atom]
        simp only [takes_peek_bind, Look.invisible_literal, Look.literal_literal, Bool.false_eq_true,
          if_false, if_true]
        exact (takes_literal text span).bind (takes_pure _ _)

/-! ### Paths -/

section

variable {rules : Rules} {tokens : List Token} {expr : Expr}

/-- What is seen where a path begins as an operand. -/
structure SeesPath (tokens : List Token) : Prop extends SeesOperand tokens where
  literal : Look.literal tokens = false
  async : Look.word "async" tokens = false
  try_ : Look.word "try" tokens = false
  closure : beginsClosure tokens = false
  builtin : (Look.word "builtin" tokens && Look.second (Look.mark "#") tokens) = false
  path : beginsPathExpression tokens = true
  less : Look.mark "<" tokens = false

theorem takes_atom (sees : SeesPath tokens) (taken : Takes (pathExpression rules true) tokens [] expr) :
    Takes (atom rules true) tokens [] expr := by
  have async : beginsAsyncBlock tokens = false := by
    rw [beginsAsyncBlock, sees.async, Bool.false_and]
  rw [atom]
  simp only [takes_peek_bind, takes_peekWord_bind, sees.visible, sees.literal, async, sees.try_,
    sees.closure, sees.builtin, sees.path, Bool.false_and, Bool.false_eq_true, if_false, if_true]
  exact taken

theorem seesPath_named {symbols : List Symbol} (named : Named symbols)
    (spells : Spells symbols tokens) : SeesPath tokens := by
  obtain ⟨name, others, eq, isStep⟩ := named.steps
  have other {word : String} (keyword : Token.isKeyword word = true)
      (other : word ∉ ["Self", "super", "self", "crate"]) : (name == word) = false :=
    beq_false_of_ne (isStep.ne_of_keyword word keyword other)
  have closure : ∀ word ∈ ["move", "for", "const", "static", "async"], (name == word) = false := by
    have keywords : ∀ word ∈ ["move", "for", "const", "static", "async"],
        Token.isKeyword word = true ∧ word ∉ ["Self", "super", "self", "crate"] := by decide
    exact fun word member => other (keywords word member).1 (keywords word member).2
  have number : Look.second (Look.mark "#") tokens = false := by
    cases named with
    | alone =>
        cases spells with
        | word plain span none_ =>
            cases none_
            rfl
    | more _ sign =>
        cases spells with
        | word plain span later =>
            simp only [List.mem_cons, List.not_mem_nil, or_false] at sign
            rcases sign with rfl | rfl
            · obtain ⟨span, joint, span', after, rfl, -⟩ := later.of_signs (c := ':') (d := ':') rfl
              rfl
            · obtain ⟨joint, span, after, rfl, -⟩ := later.of_sign (c := '<') rfl
              rfl
  subst eq
  cases spells with
  | @word _ _ tokens _ span later =>
      have mark : Look.mark "|" (.word ⟨name, span⟩ :: tokens) = false := rfl
      refine ⟨⟨rfl, fun _ _ => rfl⟩, ?_, other (by decide) (by decide), other (by decide) (by decide),
        ?_, ?_, ?_, rfl⟩
      · have plain := isStep.sees
        simp_all
      · simp [beginsClosure, closure, mark]
      · rw [number, Bool.and_false]
      · rcases isStep with (plain | rfl) | member
        · simp [beginsPathExpression, plain]
        · simp [beginsPathExpression]
        · simp only [List.mem_cons, List.not_mem_nil, or_false] at member
          rcases member with rfl | rfl | rfl <;> simp [beginsPathExpression]

theorem seesPath_root {symbols : List Symbol}
    (spells : Spells (.operator "::" :: symbols) tokens) : SeesPath tokens := by
  obtain ⟨span, joint, span', after, rfl, -⟩ := spells.of_signs (c := ':') (d := ':') rfl
  refine ⟨⟨rfl, fun c member => ?_⟩, rfl, rfl, rfl, rfl, rfl, rfl, rfl⟩
  have differ : ':' ≠ c := by rintro rfl; simp at member
  simp [differ]

end

theorem isLength_path {rooted : Bool} {parts : List (List Symbol)}
    (reads : ∀ part ∈ parts, ReadsSegment true part)
    (begins : ∀ part ∈ parts, PhraseKind.segment.Begins part) (some_ : parts ≠ []) :
    IsLength (Symbol.root rooted ++ Symbol.path parts) := by
  refine isLength_of_atom fun tokens n spells size => ?_
  have sees : SeesPath tokens := by
    cases rooted with
    | true => exact seesPath_root spells
    | false =>
        obtain ⟨first, others, rfl⟩ := List.exists_cons_of_ne_nil some_
        exact seesPath_named (named_listed (begins first List.mem_cons_self)) spells
  have ends : EndsPath [] := ⟨rfl, rfl⟩
  obtain ⟨segments, spelled, taken⟩ := takes_path reads begins ends some_ spells size
  rw [List.append_nil] at taken
  refine ⟨sees.toSeesOperand, ⟨(Path.mk rooted segments).nodes,
    .path false (Ty.path rooted segments).isPlainPath, false⟩, ?_, takes_atom sees ?_⟩
  · simp [Path.treesAll_nodes, Segment.treesAll_spelled spelled, Symbol.trees_append,
      Symbol.trees_root]
  · rw [pathExpression]
    have path : Takes (qualifiedPath (.level n) true) tokens [] (.path rooted segments) := by
      rw [qualifiedPath, takes_peekMark_bind, sees.less]
      exact taken.bind (takes_pure _ _)
    exact path.bind fun _ last => ⟨last, rfl⟩

end Grammar

end SlotSum
