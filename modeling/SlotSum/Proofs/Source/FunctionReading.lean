import SlotSum.Proofs.Source.TypeReading

/-!
Function types are read back. A parameter may have a name, which stands before a single colon; where a
type begins with a name, no single colon follows that.
-/

namespace SlotSum

open Token (Look)
open Parse

namespace Grammar

/-! ### Where parameters begin and end -/

/-- A comma follows, or nothing. -/
def EndsInput (rest : List Token) : Prop :=
  rest = [] ∨ ∃ joint span after, rest = .mark ',' joint span :: after

theorem EndsInput.stops {rest : List Token} (ends : EndsInput rest) : Stops true rest := by
  rcases ends with rfl | ⟨joint, span, after, rfl⟩
  · exact stops_nil true
  · exact stops_mark (by decide) joint span after

theorem EndsInput.other {rest : List Token} (ends : EndsInput rest) {c : Char} (other : c ≠ ',')
    (chars : List Char) : Look.marks (c :: chars) rest = false := by
  rcases ends with rfl | ⟨joint, span, after, rfl⟩
  · rfl
  · simp [Ne.symm other]

/-- A name stands here, with a single colon behind it. -/
def looksNamed (first : Bool) : Look := fun tokens =>
  (Look.identifier tokens || Look.word "_" tokens || (first && Look.word "self" tokens)) &&
    Look.second (Look.mark ":") tokens && !Look.second (Look.mark "::") tokens

/-- What is seen where a parameter begins. -/
structure SeesInput (tokens : List Token) : Prop where
  some_ : tokens.isEmpty = false
  hash : Look.mark "#" tokens = false
  mutable : Look.word "mut" tokens = false
  variadic : isVariadic tokens = false

theorem unnamed_word {name : Name} {rest : List Token} (colon : Look.mark ":" rest = false)
    (first : Bool) : looksNamed first (.word name :: rest) = false ∧
      isVariadic (.word name :: rest) = false := by
  have second : Look.second (Look.mark ":") (.word name :: rest) = false := by
    rw [Look.second_word, colon]
  constructor
  · rw [looksNamed, second, Bool.and_false, Bool.false_and]
  · rw [isVariadic, second, Bool.and_false, Bool.false_and]
    rfl

/-- A type is not taken for a named parameter. -/
theorem front_unnamed {part : List Symbol} {tokens rest : List Token} (front : Front part)
    (spells : Spells part tokens) (ends : EndsInput rest) (first : Bool) :
    looksNamed first (tokens ++ rest) = false ∧ isVariadic (tokens ++ rest) = false := by
  have unworded {tokens : List Token} (word : Look.identifier tokens = false)
      (blank : Look.word "_" tokens = false) (self : Look.word "self" tokens = false)
      (dots : Look.mark "..." tokens = false) :
      looksNamed first tokens = false ∧ isVariadic tokens = false := by
    rw [looksNamed, isVariadic, word, blank, self, dots]
    simp
  have dots := (front.sees spells rest).marks '.' ['.', '.'] (by decide)
  cases front with
  | keyword member =>
      cases spells with
      | word =>
          have keywords : ∀ word ∈ ["for", "unsafe", "extern", "fn", "dyn", "impl"],
              Token.isKeyword word = true ∧ word ≠ "_" ∧ word ≠ "self" := by decide
          obtain ⟨keyword, blank, self⟩ := keywords _ member
          exact unworded (by simp [keyword]) (by simpa using blank) (by simpa using self) dots
  | named named =>
      cases named with
      | alone =>
          cases spells with
          | word plain span none_ =>
              cases none_
              exact unnamed_word (ends.other (c := ':') (by decide) []) first
      | more isStep sign =>
          cases spells with
          | word plain span others =>
              simp only [List.mem_cons, List.not_mem_nil, or_false] at sign
              rcases sign with rfl | rfl
              · obtain ⟨span, joint, span', after, rfl, -⟩ :=
                  others.of_signs (c := ':') (d := ':') rfl
                simp [looksNamed, isVariadic, Look.mark]
              · obtain ⟨joint, span, after, rfl, -⟩ := others.of_sign (c := '<') rfl
                exact unnamed_word rfl first
  | inferred =>
      cases spells with
      | word plain span none_ =>
          cases none_
          exact unnamed_word (ends.other (c := ':') (by decide) []) first
  | root =>
      obtain ⟨span, joint, span', after, rfl, -⟩ := spells.of_signs (c := ':') (d := ':') rfl
      exact unworded rfl rfl rfl dots
  | angle =>
      obtain ⟨joint, span, after, rfl, -⟩ := spells.of_sign (c := '<') rfl
      exact unworded rfl rfl rfl dots
  | sign =>
      obtain ⟨marks, after, rfl, joined, -⟩ := spells.of_operator
      obtain ⟨c, joint, span, rest', rfl⟩ := joined.head
      exact unworded rfl rfl rfl dots
  | group =>
      cases spells with
      | group visible =>
          exact unworded (Look.identifier_group visible) (Look.word_group visible)
            (Look.word_group visible) dots

/-! ### Parameters -/

/-- A parameter is read as one that prints the symbols, one level further out. -/
def ReadsInput (part : List Symbol) : Prop :=
  ∀ first, ReadsBack (fun rules => functionTypeInput (.above fun _ => rules) first) EndsInput
    (fun nodes => Node.treesAll nodes = Symbol.trees part) part

/-- Wherever a parameter ends, this is seen where it begins. -/
def BeginsInput (part : List Symbol) : Prop :=
  ∀ tokens rest, Spells part tokens → EndsInput rest → SeesInput (tokens ++ rest)

theorem beginsInput_type {part : List Symbol} (front : Front part) : BeginsInput part := by
  intro tokens rest spells ends
  have sees := front.sees spells rest
  exact ⟨sees.some_, sees.marks '#' [] (by decide), sees.mutable,
    (front_unnamed front spells ends false).2⟩

theorem readsInput_type {part : List Symbol} (reads : ReadsType true part) (front : Front part) :
    ReadsInput part := by
  intro first tokens rest n spells size ends
  have sees := beginsInput_type front tokens rest spells ends
  obtain ⟨unnamed, -⟩ := front_unnamed front spells ends first
  obtain ⟨type_, shown, taken⟩ := reads tokens rest n spells size ends.stops
  refine ⟨[.type type_], by simp [Node.treesAll, Node.trees, shown], ?_⟩
  beta_reduce
  rw [functionTypeInput]
  refine (takes_outerAttributes sees.hash).bind (Takes.get_bind fun _ _ => ?_)
  rw [looksNamed] at unnamed
  simp [sees.mutable, unnamed]
  exact Takes.map _ taken

/-- A colon is not joined to the type behind it, unless that begins with a double colon. -/
theorem single_colon {part : List Symbol} {tokens : List Token} (front : Front part)
    (apart : ∀ rest, part ≠ .operator "::" :: rest) (spells : Spells part tokens) (joint : Bool)
    (span : Span) (rest : List Token) :
    Look.mark "::" (.mark ':' joint span :: (tokens ++ rest)) = false := by
  have unfolded : Look.mark "::" (.mark ':' joint span :: (tokens ++ rest)) =
    (joint && Look.mark ":" (tokens ++ rest)) := rfl
  have colon : Look.mark ":" (tokens ++ rest) = false := by
    cases front with
    | keyword | inferred =>
        cases spells with
        | word => rfl
    | named named =>
        obtain ⟨name, others, rfl, -⟩ := named.steps
        cases spells with
        | word => rfl
    | root others => exact absurd rfl (apart others)
    | angle =>
        obtain ⟨joint, span, after, rfl, -⟩ := spells.of_sign (c := '<') rfl
        rfl
    | sign member =>
        simp only [List.mem_cons, List.not_mem_nil, or_false] at member
        rcases member with rfl | rfl | rfl
        · obtain ⟨joint, span, after, rfl, -⟩ := spells.of_sign (c := '&') rfl
          rfl
        · obtain ⟨joint, span, after, rfl, -⟩ := spells.of_sign (c := '*') rfl
          rfl
        · obtain ⟨joint, span, after, rfl, -⟩ := spells.of_sign (c := '!') rfl
          rfl
    | group =>
        cases spells with
        | group visible => exact Look.marks_group visible
  rw [unfolded, colon, Bool.and_false]

section

variable {name : String} {part : List Symbol} (plain : Token.isKeyword name = false ∨ name = "_")
  (front : Front part)
include plain front

theorem beginsInput_named : BeginsInput (.word name :: .operator ":" :: part) := by
  intro tokens rest spells ends
  cases spells with
  | word _ span others =>
      obtain ⟨joint, span', after, rfl, own⟩ := others.of_sign (c := ':') rfl
      have dots : Look.mark "..." (after ++ rest) = false :=
        (front.sees own rest).marks '.' ['.', '.'] (by decide)
      have mutable : name ≠ "mut" := by
        rintro rfl
        exact absurd plain (by decide)
      refine ⟨rfl, rfl, by simpa using mutable, ?_⟩
      simp only [isVariadic, List.cons_append, Look.third_word,
        Look.skip?_mark (show ':' ≠ '\'' by decide), Option.any_some, dots, Bool.and_false]
      rfl

theorem readsInput_named (reads : ReadsType true part)
    (apart : ∀ rest, part ≠ .operator "::" :: rest) :
    ReadsInput (.word name :: .operator ":" :: part) := by
  intro first tokens rest n spells size ends
  have sees := beginsInput_named plain front tokens rest spells ends
  cases spells with
  | word _ span others =>
      obtain ⟨joint, span', after, rfl, own⟩ := others.of_sign (c := ':') rfl
      simp only [Token.sizes, Token.size] at size
      obtain ⟨type_, shown, taken⟩ := reads after rest n own (by omega) ends.stops
      have named : looksNamed first (.word ⟨name, span⟩ :: .mark ':' joint span' :: (after ++ rest)) =
          true := by
        have single := single_colon front apart own joint span' rest
        have colon : Look.mark ":" (.mark ':' joint span' :: (after ++ rest)) = true := rfl
        rcases plain with plain | rfl
        · simp [looksNamed, plain, single, colon]
        · simp [looksNamed, single, colon]
      refine ⟨[.word name, .word ":", .type type_], ?_, ?_⟩
      · simp [Node.treesAll, Node.trees, shown, Symbol.trees, Symbol.tree]
      · beta_reduce
        rw [functionTypeInput]
        refine (takes_outerAttributes sees.hash).bind (Takes.get_bind fun _ _ => ?_)
        have sees_ := sees.mutable
        rw [looksNamed] at named
        simp at sees_ named
        simp [sees_, named]
        refine (takes_anyWord _).bind ((takes_sign (c := ':') rfl (by decide)).bind ?_)
        exact Takes.map _ taken

end

theorem takes_ahead {rules : Rules} {tokens : List Token} (sees : SeesInput tokens) :
    Takes (attempt do
      let start ← get
      let _ ← outerAttributes rules
      let found ← peek isVariadic
      set start
      return found) tokens tokens (some false) := by
  intro scope last
  have production : (do
      let start ← get
      let _ ← outerAttributes rules
      let found ← peek isVariadic
      set start
      return found : Parse Bool) ⟨tokens, scope, last⟩ = .ok (false, ⟨tokens, scope, last⟩) := by
    have none_ : Takes (outerAttributes rules) tokens tokens [] := takes_outerAttributes sees.hash
    obtain ⟨last', read⟩ := none_ scope last
    rw [get_apply, bind_ok read, ← sees.variadic]
    rfl
  refine ⟨last, ?_⟩
  rw [attempt, production]

theorem takes_functionTypeInputs {parts : List (List Symbol)} {trailing : Bool}
    {tokens : List Token} {n turns : Nat} (reads : ∀ part ∈ parts, ReadsInput part)
    (begins : ∀ part ∈ parts, BeginsInput part)
    (spells : Spells (Symbol.commas trailing parts) tokens) (size : Token.sizes tokens ≤ n)
    (enough : Token.sizes tokens < turns) (first : Bool) :
    ∃ nodes, Node.treesAll nodes = Symbol.trees (Symbol.commas trailing parts) ∧
      Takes (functionTypeInputs (.level (n + 1)) first turns) tokens [] nodes := by
  induction parts generalizing tokens turns first with
  | nil =>
      cases spells
      obtain ⟨turns, rfl⟩ : ∃ before, turns = before + 1 := ⟨turns - 1, by omega⟩
      refine ⟨[], rfl, ?_⟩
      rw [functionTypeInputs, takes_isEmpty_bind]
      exact takes_pure _ _
  | cons part parts ih =>
      obtain ⟨turns, rfl⟩ : ∃ before, turns = before + 1 := ⟨turns - 1, by omega⟩
      by_cases more : parts ≠ [] ∨ trailing = true
      · rw [Symbol.commas, listed_separated more] at spells ⊢
        obtain ⟨before, after, rfl, own, others⟩ := spells.of_append
        obtain ⟨joint, span, after, rfl, next⟩ := others.of_sign (c := ',') rfl
        simp only [Token.sizes, Token.size, Token.sizes_append] at size enough
        have ends : EndsInput (.mark ',' joint span :: after) := .inr ⟨joint, span, after, rfl⟩
        have sees := begins part List.mem_cons_self before _ own ends
        obtain ⟨nodes, shown, taken⟩ := reads part List.mem_cons_self first before _ n own (by omega) ends
        obtain ⟨nodes', shown', taken'⟩ : ∃ nodes,
            Node.treesAll nodes = Symbol.trees (Symbol.commas trailing parts) ∧
              Takes (functionTypeInputs (.level (n + 1)) false turns) after [] nodes :=
          ih (fun part member => reads part (List.mem_cons_of_mem _ member))
            (fun part member => begins part (List.mem_cons_of_mem _ member)) next (by omega)
            (by omega) false
        refine ⟨Node.seq [nodes, ",", nodes'], ?_, ?_⟩
        · rw [Symbol.commas] at shown'
          simp [Node.seq, Node.treesAll_append, Node.treesAll, Node.trees, shown, shown',
            Symbol.trees_append, Symbol.trees, Symbol.tree]
        · rw [functionTypeInputs, takes_isEmpty_bind, sees.some_]
          simp only [Bool.false_eq_true, if_false]
          refine (takes_ahead sees).bind ?_
          simp only [Option.getD_some, Bool.false_eq_true, if_false]
          refine taken.bind ?_
          rw [takes_isEmpty_bind]
          exact (takes_sign (c := ',') rfl (by decide)).bind (taken'.bind (takes_pure _ _))
      · obtain ⟨rfl, rfl⟩ : parts = [] ∧ trailing = false := by simpa using more
        have own : Spells part tokens := by simpa [Symbol.commas] using spells
        have sees := begins part List.mem_cons_self tokens [] own (.inl rfl)
        obtain ⟨nodes, shown, taken⟩ :=
          reads part List.mem_cons_self first tokens [] n own size (.inl rfl)
        rw [List.append_nil] at sees taken
        refine ⟨nodes, by simpa [Symbol.commas] using shown, ?_⟩
        rw [functionTypeInputs, takes_isEmpty_bind, sees.some_]
        simp only [Bool.false_eq_true, if_false]
        refine (takes_ahead sees).bind ?_
        simp only [Option.getD_some, Bool.false_eq_true, if_false]
        refine taken.bind ?_
        rw [takes_isEmpty_bind]
        exact takes_pure _ _

/-! ### Function types -/

theorem takes_convention {abi : Option (Option String)} {symbols : List Symbol}
    {tokens : List Token} (rest : List Token) (text : ∀ name, abi = some (some name) → IsText name)
    (spells : Spells (Symbol.convention abi ++ .word "fn" :: symbols) tokens) :
    ∃ after nodes, Spells (.word "fn" :: symbols) after ∧ Token.sizes after ≤ Token.sizes tokens ∧
      Node.treesAll nodes = Symbol.trees (Symbol.convention abi) ∧
      Takes convention? (tokens ++ rest) (after ++ rest) nodes := by
  rcases abi with _ | _ | name
  · have spells : Spells (.word "fn" :: symbols) tokens := spells
    refine ⟨tokens, [], spells, Nat.le_refl _, rfl, ?_⟩
    rw [convention?, takes_word?_bind]
    · exact takes_pure _ _
    · cases spells with
      | word => rfl
  · have spells : Spells (.word "extern" :: .word "fn" :: symbols) tokens := spells
    cases spells with
    | @word _ _ after _ span others =>
        refine ⟨after, ["extern"], others, ?_, rfl, ?_⟩
        · simp only [Token.sizes]
          omega
        · have unnamed : Look.string (after ++ rest) = false := by
            cases others with
            | word => rfl
          rw [convention?, List.cons_append]
          refine (takes_word? "extern" span).bind ?_
          rw [if_pos rfl, takes_peek_bind, unnamed]
          exact takes_pure _ _
  · have spells : Spells (.word "extern" :: .literal name :: .word "fn" :: symbols) tokens := spells
    cases spells with
    | @word _ _ after _ span others =>
        cases others with
        | @literal _ after _ span' others =>
            have named : Look.string (.literal name span' :: (after ++ rest)) = true := by
              obtain ⟨c, head, quote⟩ := text name rfl
              obtain ⟨more, eq⟩ : ∃ more, name.toList = c :: more :=
                List.head?_eq_some_iff.mp head
              rcases quote with rfl | rfl <;> simp [Look.string, Token.front, Token.unveil, eq]
            refine ⟨after, Node.seq ["extern", name], others, ?_, ?_, ?_⟩
            · simp only [Token.sizes]
              omega
            · simp [Node.seq, Node.treesAll, Node.trees, Symbol.convention, Symbol.trees, Symbol.tree]
            · rw [convention?, List.cons_append, List.cons_append]
              refine (takes_word? "extern" span).bind ?_
              rw [if_pos rfl, takes_peek_bind, named]
              exact (takes_literal name span').bind (takes_pure _ _)

section

variable {plus isUnsafe trailing : Bool} {abi : Option (Option String)}
  {parts : List (List Symbol)} {symbols : List Symbol}
  (text : ∀ name, abi = some (some name) → IsText name) (reads : ∀ part ∈ parts, ReadsInput part)
  (begins : ∀ part ∈ parts, BeginsInput part) (output : ReadsOutput symbols)
include text reads begins output

theorem takes_functionType (lifetimes : List Node) {tokens rest : List Token} {n : Nat}
    (spells : Spells (Symbol.modifier isUnsafe "unsafe" ++ (Symbol.convention abi ++
      .word "fn" :: .group .paren (Symbol.commas trailing parts) :: symbols)) tokens)
    (size : Token.sizes tokens ≤ n) (stops : Stops false rest) :
    ∃ nodes, Node.treesAll nodes = Node.treesAll lifetimes ++
        Symbol.trees (Symbol.modifier isUnsafe "unsafe" ++ (Symbol.convention abi ++
          .word "fn" :: .group .paren (Symbol.commas trailing parts) :: symbols)) ∧
      Takes (functionType (.level n) lifetimes) (tokens ++ rest) rest
        (.composite .function nodes) := by
  obtain ⟨middle, own, fewer, unsafe_⟩ := takes_modifier rest spells (by
    intro tokens spells
    rcases abi with _ | _ | name <;> cases spells <;> rfl)
  obtain ⟨after, convention, fn, fewer', shown, abi_⟩ := takes_convention rest text own
  cases fn with
  | word _ span grouped =>
      cases grouped with
      | @group _ _ inner _ behind visible opening closing inside others =>
          simp only [Token.sizes, Token.size] at fewer'
          obtain ⟨n, rfl⟩ : ∃ below, n = below + 1 := ⟨n - 1, by omega⟩
          obtain ⟨inputs, shown', taken⟩ := takes_functionTypeInputs (n := n) reads begins inside
            (by omega) (Nat.lt_succ_self _) true
          obtain ⟨result, shown'', taken'⟩ := output behind rest (n + 1) others (by omega) stops
          refine ⟨Node.seq [lifetimes, if isUnsafe then "unsafe" else [], convention, "fn",
            Node.group .paren inputs, result], ?_, ?_⟩
          · cases isUnsafe <;>
              simp [Node.seq, Node.treesAll_append, Node.treesAll, Node.trees, Symbol.modifier, shown,
                shown', shown'', Symbol.trees_append, Symbol.trees, Symbol.tree, Tree.parens]
          · rw [functionType]
            refine unsafe_.bind (abi_.bind ?_)
            rw [List.cons_append, List.cons_append]
            refine (takes_word "fn" span).bind ((takes_group visible ?_).bind
              (taken'.bind (takes_pure _ _)))
            rw [takes_budget_bind]
            exact taken

theorem readsPlain_function {bound : Option (List String × Bool)} :
    ReadsPlain plus (Symbol.binder bound ++ (Symbol.modifier isUnsafe "unsafe" ++
      (Symbol.convention abi ++ .word "fn" :: .group .paren (Symbol.commas trailing parts) ::
        symbols))) := by
  intro tokens rest n spells size stops
  have starts (tokens : List Token) (spells : Spells (Symbol.modifier isUnsafe "unsafe" ++
      (Symbol.convention abi ++ .word "fn" :: .group .paren (Symbol.commas trailing parts) ::
        symbols)) tokens) :
      ∃ name after, tokens = .word name :: after ∧ name.text ∈ ["fn", "unsafe", "extern"] := by
    cases isUnsafe with
    | true =>
        cases spells with
        | word => exact ⟨_, _, rfl, by simp⟩
    | false =>
        rcases abi with _ | _ | name
        all_goals
          cases spells with
          | word => exact ⟨_, _, rfl, by simp⟩
  obtain ⟨after, lifetimes, own, fewer, shown, -, binder⟩ :=
    takes_binder (.level n) rest spells (by
      intro tokens spells
      obtain ⟨name, after, rfl, member⟩ := starts tokens spells
      have other : ∀ word ∈ ["fn", "unsafe", "extern"], word ≠ "for" := by decide
      simpa using other name.text member)
  obtain ⟨nodes, shown', taken⟩ := takes_functionType (n := n) text reads begins output lifetimes
    own (by omega) { stops with plus := nofun }
  have visible : Look.invisible (tokens ++ rest) = false := by
    cases bound with
    | none =>
        obtain ⟨name, after, rfl, -⟩ := starts tokens spells
        rfl
    | some bound =>
        cases spells with
        | word => rfl
  refine ⟨.composite .function nodes, ⟨?_, rfl⟩, takes_type visible ?_⟩
  · rw [Ty.trees, shown', shown, ← Symbol.trees_append]
  · rw [visibleType]
    refine Takes.get_bind fun _ _ => binder.bind ?_
    obtain ⟨name, after, rfl, member⟩ := starts after own
    have goesOn : (pathStart (.word name :: (after ++ rest)) ||
        ["fn", "unsafe", "extern"].any fun word => Look.word word (.word name :: (after ++ rest))) =
          true := by
      have here : (["fn", "unsafe", "extern"].any fun word =>
          Look.word word (.word name :: (after ++ rest))) = true :=
        List.any_eq_true.mpr ⟨name.text, member, by simp⟩
      rw [here, Bool.or_true]
    have keyword : pathKeyword ["fn", "unsafe", "extern"] (.word name :: (after ++ rest)) = true := by
      rw [pathKeyword_word, decide_eq_true member]
    cases lifetimes.isEmpty with
    | true =>
        simp only [Bool.not_true, Bool.false_eq_true, if_false, List.cons_append,
          takes_peekGroup_bind, Look.group_word, takes_peek_bind, keyword, if_true]
        exact taken
    | false =>
        simp only [Bool.not_false, if_true, List.cons_append, takes_peek_bind, goesOn,
          takes_peekGroup_bind, Look.group_word, Bool.false_eq_true, if_false, keyword]
        exact taken

end

end Grammar

end SlotSum
