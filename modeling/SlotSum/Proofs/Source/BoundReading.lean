import SlotSum.Proofs.Source.PathReading

/-!
Bounds are read back: lifetimes and traits, traits that are called like functions among them, alone
or with plus signs between them.
-/

namespace SlotSum

open Token (Look)
open Parse

/-- A type is read as one that prints the symbols. -/
def ReadsType (plus : Bool) (part : List Symbol) : Prop :=
  ReadsBack (fun rules => Grammar.type rules ⟨plus, true⟩) (Stops plus)
    (fun type => type.trees = Symbol.trees part) part

/-- A type is read inside of another production. -/
theorem ReadsType.within {plus : Bool} {part : List Symbol} {tokens rest : List Token} {n : Nat}
    (reads : ReadsType plus part) (spells : Spells part tokens) (size : Token.sizes tokens < n)
    (stops : Stops plus rest) :
    ∃ type : Ty, type.trees = Symbol.trees part ∧
      Takes ((Rules.level n).type ⟨plus, true⟩) (tokens ++ rest) rest type := by
  obtain ⟨n, rfl⟩ : ∃ below, n = below + 1 := ⟨n - 1, by omega⟩
  exact reads tokens rest n spells (Nat.le_of_lt_succ size) stops

/-- Elements print their symbols with separators between them. -/
theorem Parse.Separated.treesAll_spelled (print : α → List Node) {parts : List (List Symbol)}
    {elements : List α} (separator : String) (trailing : Bool)
    (spelled : List.Forall₂ (fun part element => Node.treesAll (print element) = Symbol.trees part)
      parts elements) :
    Node.treesAll ((⟨elements, trailing && !parts.isEmpty⟩ : Separated α).nodes separator print) =
      Symbol.trees (listed [.operator separator] trailing parts) := by
  have each : elements.map (fun element => Node.treesAll (print element)) =
      parts.map Symbol.trees := by
    induction spelled with
    | nil => rfl
    | cons first _ ih => rw [List.map_cons, List.map_cons, first, ih]
  have settled := listed_some [Tree.leaf separator false] trailing
    (parts.map Symbol.trees)
  rw [List.isEmpty_map] at settled
  rw [Separated.treesAll_nodes, each, Symbol.trees_listed, settled]

namespace Grammar

/-! ### Lists of types -/

theorem takes_types {parts : List (List Symbol)} {trailing : Bool} {tokens : List Token} {n : Nat}
    (reads : ∀ part ∈ parts, ReadsType true part) (fronts : ∀ part ∈ parts, Front part)
    (spells : Spells (Symbol.commas trailing parts) tokens) (size : Token.sizes tokens < n) :
    ∃ types : List Ty, List.Forall₂ (fun part type => type.trees = Symbol.trees part) parts types ∧
      Takes (separated "," ((Rules.level n).type .whole)) tokens []
        ⟨types, trailing && !parts.isEmpty⟩ := by
  have read : PartsRead ((Rules.level n).type .whole) List.isEmpty (Stops true)
      (fun part (type : Ty) => type.trees = Symbol.trees part) (Token.sizes tokens) "," parts := by
    refine ⟨fun part member tokens rest spells size' stops => ?_, fun marks rest joined => ?_,
      by decide⟩
    · exact ⟨((fronts part member).sees spells rest).some_,
        (reads part member).within spells (by omega) stops⟩
    · obtain ⟨joint, span, rfl⟩ := joined_one joined
      exact ⟨rfl, stops_mark (by decide) joint span rest⟩
  have asked (tokens : List Token) : Takes isEmpty tokens tokens tokens.isEmpty :=
    fun _ last => ⟨last, rfl⟩
  obtain ⟨types, spelled, taken⟩ :=
    takes_separatedUntil _ asked read rfl (stops_nil true) spells (Nat.le_refl _)
  rw [List.append_nil] at taken
  exact ⟨types, spelled, taken⟩

/-! ### Lifetimes that are bound -/

theorem takes_outerAttributes {rules : Rules} {tokens : List Token}
    (absent : Look.mark "#" tokens = false) : Takes (outerAttributes rules) tokens tokens [] := by
  rw [outerAttributes, many, takes_budget_bind, whileLoop, takes_peekMark_bind, absent]
  exact takes_pure _ _

theorem partsRead_lifetimes (rules : Rules) (names : List String) (bound : Nat) :
    PartsRead (do
        let attributes ← outerAttributes rules
        let name ← lifetime
        return attributes ++ [Node.word name])
      (Look.mark ">") (fun _ => True) (fun part nodes => Node.treesAll nodes = Symbol.trees part)
      bound "," (Symbol.lifetimes names) := by
  refine ⟨fun part member tokens rest spells _ _ => ?_, fun marks rest joined => ?_, by decide⟩
  · obtain ⟨name, -, rfl⟩ := List.mem_map.mp member
    obtain ⟨span, span', after, rfl, none_⟩ := spells.of_lifetime
    cases none_
    refine ⟨rfl, [.word ("'" ++ name)], rfl, ?_⟩
    exact (takes_outerAttributes rfl).bind (takes_lifetime.bind (takes_pure _ _))
  · obtain ⟨joint, span, rfl⟩ := joined_one joined
    exact ⟨rfl, trivial⟩

theorem takes_boundLifetimes_none {rules : Rules} {tokens : List Token}
    (absent : Look.word "for" tokens = false) : Takes (boundLifetimes? rules) tokens tokens [] := by
  rw [boundLifetimes?, takes_peekWord_bind, absent]
  exact takes_pure _ _

theorem takes_binder (rules : Rules) {bound : Option (List String × Bool)} {symbols : List Symbol}
    {tokens : List Token} (rest : List Token) (spells : Spells (Symbol.binder bound ++ symbols) tokens)
    (apart : ∀ tokens, Spells symbols tokens → Look.word "for" (tokens ++ rest) = false) :
    ∃ after nodes, Spells symbols after ∧ Token.sizes after ≤ Token.sizes tokens ∧
      Node.treesAll nodes = Symbol.trees (Symbol.binder bound) ∧ nodes.isEmpty = bound.isNone ∧
      Takes (boundLifetimes? rules) (tokens ++ rest) (after ++ rest) nodes := by
  cases bound with
  | none =>
      exact ⟨tokens, [], spells, Nat.le_refl _, rfl, rfl,
        takes_boundLifetimes_none (apart tokens spells)⟩
  | some bound =>
      obtain ⟨names, trailing⟩ := bound
      have opened : Spells (.word "for" :: .operator "<" ::
          (Symbol.commas trailing (Symbol.lifetimes names) ++ .operator ">" :: symbols)) tokens := by
        simpa [Symbol.binder] using spells
      cases opened with
      | @word _ _ tokens plain span others =>
          obtain ⟨joint, span', after, rfl, enclosed⟩ := others.of_sign (c := '<') rfl
          obtain ⟨inner, after, rfl, own, closed⟩ := enclosed.of_append
          obtain ⟨joint', span'', after, rfl, next⟩ := closed.of_sign (c := '>') rfl
          have asked (tokens : List Token) :
              Takes (peekMark ">") tokens tokens (Look.mark ">" tokens) := fun _ last => ⟨last, rfl⟩
          obtain ⟨nodes, spelled, taken⟩ :=
            takes_separatedUntil (.mark '>' joint' span'' :: (after ++ rest)) asked
              (partsRead_lifetimes rules names _) rfl trivial own (Nat.le_refl _)
          have shown := Separated.treesAll_spelled id "," trailing spelled
          refine ⟨after, Node.seq ["for", "<", Separated.nodes
            ⟨nodes, trailing && !(Symbol.lifetimes names).isEmpty⟩ "," id, ">"], next, ?_, ?_, rfl, ?_⟩
          · simp only [Token.sizes, Token.sizes_append]
            omega
          · simp [Symbol.binder, Symbol.commas, Symbol.trees_append, Symbol.trees, Symbol.tree, shown,
              Node.seq, Node.treesAll_append, Node.treesAll, Node.trees]
          · rw [boundLifetimes?, takes_peekWord_bind]
            simp only [List.append_assoc, List.cons_append, Look.word_word, beq_self_eq_true, if_true]
            rw [boundLifetimes]
            refine (takes_word "for" span).bind ((takes_sign (c := '<') rfl (by decide)).bind ?_)
            exact taken.bind ((takes_sign (c := '>') rfl (by decide)).bind (takes_pure _ _))

/-! ### Outputs -/

/-- The type behind an arrow, or nothing. -/
def ReadsOutput (part : List Symbol) : Prop :=
  ReadsBack (fun rules => returnType rules .withoutPlus) (Stops false)
    (fun nodes => Node.treesAll nodes = Symbol.trees part) part

theorem readsOutput_none : ReadsOutput [] := by
  intro tokens rest n spells _ stops
  cases spells
  refine ⟨[], rfl, ?_⟩
  beta_reduce
  rw [returnType, List.nil_append, takes_mark?_bind stops.arrow]
  exact takes_pure _ _

theorem readsOutput_some {part : List Symbol} (reads : ReadsType false part) :
    ReadsOutput (.operator "->" :: part) := by
  intro tokens rest n spells size stops
  obtain ⟨marks, after, rfl, joined, others⟩ := spells.of_operator
  have some_ := joined.some_
  rw [Token.sizes_append, joined.sizes] at size
  obtain ⟨type, shown, taken⟩ := reads.within (n := n) others (by omega) stops
  refine ⟨Node.seq ["->", type], ?_, ?_⟩
  · simp [Node.seq, Node.treesAll, Node.trees, shown, Symbol.trees, Symbol.tree]
  · beta_reduce
    rw [returnType, List.append_assoc]
    exact (takes_mark? joined (by decide)).bind (taken.bind (takes_pure _ _))

/-! ### Traits -/

/-- A trait with its modifiers is read as one that prints the symbols. -/
def ReadsTrait (part : List Symbol) : Prop :=
  ∀ consts, ReadsBack (fun rules => traitBound rules consts) (Stops false)
    (fun found => Node.treesAll found.1 = Symbol.trees part ∧ found.2 = false) part

/-- The modifiers in front of the path of a trait. -/
theorem takes_modifiers (rules : Rules) {relaxed rooted : Bool}
    {bound : Option (List String × Bool)} {symbols : List Symbol} {tokens : List Token}
    (rest : List Token) (steps : Steps symbols)
    (spells : Spells ((if relaxed then [.operator "?"] else []) ++
      (Symbol.binder bound ++ (Symbol.root rooted ++ symbols))) tokens) :
    ∃ middle middle' after first lifetimes,
      Spells (Symbol.root rooted ++ symbols) after ∧ Token.sizes after ≤ Token.sizes tokens ∧
      Node.treesAll lifetimes = Symbol.trees (Symbol.binder bound) ∧
      Takes (boundLifetimes? rules) (tokens ++ rest) middle first ∧
      Look.group .bracket middle = false ∧ Look.word "const" middle = false ∧
      Takes (mark? "?") middle middle' relaxed ∧
      Takes (if relaxed && first.isEmpty then boundLifetimes? rules else pure first) middle'
        (after ++ rest) lifetimes := by
  have sees (word : String) (keyword : Token.isKeyword word = true)
      (other : word ∉ ["Self", "super", "self", "crate"]) (tokens : List Token)
      (spells : Spells (Symbol.root rooted ++ symbols) tokens) :
      Look.word word (tokens ++ rest) = false ∧ Look.group .bracket (tokens ++ rest) = false ∧
        Look.mark "?" (tokens ++ rest) = false := by
    cases rooted with
    | true =>
        obtain ⟨span, joint, span', after, rfl, -⟩ := spells.of_signs (c := ':') (d := ':') rfl
        exact ⟨rfl, rfl, rfl⟩
    | false =>
        obtain ⟨name, others, rfl, isStep⟩ := steps
        cases spells with
        | word => exact ⟨by simpa using isStep.ne_of_keyword word keyword other, rfl, rfl⟩
  have unbound (tokens : List Token) (spells : Spells (Symbol.root rooted ++ symbols) tokens) :
      Look.word "for" (tokens ++ rest) = false :=
    (sees "for" (by decide) (by decide) tokens spells).1
  cases relaxed with
  | true =>
      obtain ⟨joint, span, tokens, rfl, others⟩ := spells.of_sign (c := '?') rfl
      obtain ⟨after, nodes, own, fewer, shown, -, taken⟩ := takes_binder rules rest others unbound
      refine ⟨_, _, after, [], nodes, own, ?_, shown, takes_boundLifetimes_none rfl, rfl, rfl,
        takes_sign? rfl (by decide), taken⟩
      simp only [Token.sizes]
      omega
  | false =>
      obtain ⟨after, nodes, own, fewer, shown, -, taken⟩ := takes_binder rules rest spells unbound
      obtain ⟨isConst, bracket, question⟩ :=
        sees "const" (by decide) (by decide) after own
      refine ⟨_, _, after, nodes, nodes, own, fewer, shown, taken, bracket, isConst, ?_,
        takes_pure _ _⟩
      rw [← bind_pure (mark? "?"), takes_mark?_bind question]
      exact takes_pure _ _

theorem readsTrait_path {relaxed rooted : Bool} {bound : Option (List String × Bool)}
    {parts : List (List Symbol)} (reads : ∀ part ∈ parts, ReadsSegment false part)
    (begins : ∀ part ∈ parts, PhraseKind.segment.Begins part) (some_ : parts ≠ []) :
    ReadsTrait ((if relaxed then [.operator "?"] else []) ++
      (Symbol.binder bound ++ (Symbol.root rooted ++ Symbol.path parts))) := by
  intro consts tokens rest n spells size stops
  have steps : Steps (Symbol.path parts) := by
    obtain ⟨first, others, rfl⟩ := List.exists_cons_of_ne_nil some_
    exact (named_listed (begins first List.mem_cons_self)).steps
  obtain ⟨middle, middle', after, first, lifetimes, own, fewer, shown, taken, bracket, isConst,
    question, taken'⟩ := takes_modifiers (.level n) rest steps spells
  obtain ⟨segments, spelled, path_⟩ :=
    takes_path (n := n) reads begins stops.toEndsPath some_ own (by omega)
  have uncalled : (Look.group .paren rest ||
      (Look.mark "::" rest && Look.third (Look.group .paren) rest)) = false := by
    rw [stops.paren, stops.colons]
    rfl
  refine ⟨(Node.seq [if relaxed then "?" else [], lifetimes, (Path.mk rooted segments).nodes], false),
    ⟨?_, rfl⟩, ?_⟩
  · cases relaxed <;>
      simp [Node.seq, Node.treesAll_append, Node.treesAll, Node.trees, Path.treesAll_nodes,
        Segment.treesAll_spelled spelled, shown, Symbol.trees_append, Symbol.trees_root, Symbol.trees,
        Symbol.tree]
  · beta_reduce
    rw [traitBound]
    refine taken.bind ?_
    simp only [takes_peekGroup_bind, takes_peekWord_bind, bracket, isConst, Bool.false_eq_true,
      if_false, Bool.or_false, Bool.false_and]
    refine question.bind (taken'.ite_bind (path_.bind ?_))
    rw [takes_peek_bind, uncalled]
    simp only [Bool.and_false, Bool.false_eq_true, if_false]
    exact takes_pure _ _

theorem takes_roundArguments {parts : List (List Symbol)} {symbols : List Symbol} {trailing : Bool}
    {tokens rest : List Token} {n : Nat} (reads : ∀ part ∈ parts, ReadsType true part)
    (fronts : ∀ part ∈ parts, Front part) (output : ReadsOutput symbols)
    (spells : Spells (.group .paren (Symbol.commas trailing parts) :: symbols) tokens)
    (size : Token.sizes tokens ≤ n) (stops : Stops false rest) :
    ∃ nodes, Node.treesAll nodes =
        Symbol.trees (.group .paren (Symbol.commas trailing parts) :: symbols) ∧
      Takes (roundArguments (.level n)) (tokens ++ rest) rest (.round nodes) := by
  cases spells with
  | @group _ _ inner _ after visible opening closing own others =>
      simp only [Token.sizes, Token.size] at size
      obtain ⟨types, spelled, inputs⟩ := takes_types (n := n) reads fronts own (by omega)
      obtain ⟨nodes, shown, taken⟩ := output after rest n others (by omega) stops
      have types_ : List.Forall₂
          (fun part (type : Ty) => Node.treesAll [.type type] = Symbol.trees part) parts types :=
        spelled.imp fun _ type eq => by simpa [Node.treesAll, Node.trees] using eq
      have shown' := Separated.treesAll_spelled (fun type : Ty => [Node.type type]) "," trailing types_
      refine ⟨_, ?_, (takes_group visible inputs).bind (taken.bind (takes_pure _ _))⟩
      simp [Node.treesAll, Node.trees, shown, shown', Symbol.trees, Symbol.tree, Symbol.commas,
        Tree.parens]

theorem Segment.eq_of_spelled_word {name : String} {segment : Segment}
    (spelled : Segment.Spelled [.word name] segment) : segment = .mk name .none := by
  obtain ⟨shown, bare⟩ := spelled
  cases segment with
  | mk own arguments =>
      cases arguments with
      | none =>
          simp [Segment.trees, Arguments.trees, Tree.seq, Symbol.trees, Symbol.tree] at shown
          rw [shown]
      | angle turbofish arguments trailing =>
          simp [Segment.trees, Arguments.trees, Tree.seq, Symbol.trees, Symbol.tree] at shown
      | round parts => exact absurd rfl (bare parts)

/-- What is put behind the last part stands behind the whole list. -/
theorem listed_snoc (comma : List α) (parts : List (List α)) (last after : List α) :
    listed comma false (parts ++ [last ++ after]) = listed comma false (parts ++ [last]) ++ after := by
  induction parts with
  | nil => simp
  | cons first rest ih =>
      obtain ⟨second, others, eq⟩ : ∃ second others, rest ++ [last] = second :: others :=
        List.exists_cons_of_ne_nil (by simp)
      obtain ⟨second', others', eq'⟩ : ∃ second others, rest ++ [last ++ after] = second :: others :=
        List.exists_cons_of_ne_nil (by simp)
      rw [List.cons_append, List.cons_append, eq, eq', listed_cons, listed_cons, ← eq, ← eq', ih]
      simp

theorem forall₂_snoc {R : α → β → Prop} {before : List α} {last : α} {list : List β}
    (related : List.Forall₂ R (before ++ [last]) list) :
    ∃ firsts final, list = firsts ++ [final] ∧ List.Forall₂ R before firsts ∧ R last final := by
  induction before generalizing list with
  | nil =>
      cases related with
      | cons own none_ =>
          cases none_
          exact ⟨[], _, rfl, .nil, own⟩
  | cons first rest ih =>
      cases related with
      | cons own others =>
          obtain ⟨firsts, final, rfl, related, last⟩ := ih others
          exact ⟨_ :: firsts, final, rfl, .cons own related, last⟩

theorem readsTrait_call {relaxed rooted trailing : Bool} {bound : Option (List String × Bool)}
    {name : String} {before parts : List (List Symbol)} {symbols : List Symbol}
    (reads : ∀ part ∈ before, ReadsSegment false part)
    (begins : ∀ part ∈ before, PhraseKind.segment.Begins part) (isName : IsName name)
    (types : ∀ part ∈ parts, ReadsType true part) (fronts : ∀ part ∈ parts, Front part)
    (output : ReadsOutput symbols) :
    ReadsTrait ((if relaxed then [.operator "?"] else []) ++
      (Symbol.binder bound ++ (Symbol.root rooted ++
        (Symbol.path (before ++ [[.word name]]) ++
          .group .paren (Symbol.commas trailing parts) :: symbols)))) := by
  intro consts tokens rest n spells size stops
  have reads' : ∀ part ∈ before ++ [[.word name]], ReadsSegment false part := by
    intro part member
    rcases List.mem_append.mp member with own | own
    · exact reads part own
    · rw [List.mem_singleton.mp own]
      exact readsSegment_step (.inl isName)
  have begins' : ∀ part ∈ before ++ [[.word name]], PhraseKind.segment.Begins part := by
    intro part member
    rcases List.mem_append.mp member with own | own
    · exact begins part own
    · rw [List.mem_singleton.mp own]
      exact .alone (.inl isName)
  have steps : Steps (Symbol.path (before ++ [[.word name]])) := by
    obtain ⟨first, others, eq⟩ := List.exists_cons_of_ne_nil
      (show before ++ [[Symbol.word name]] ≠ [] by simp)
    rw [eq] at begins' ⊢
    exact (named_listed (begins' first List.mem_cons_self)).steps
  obtain ⟨middle, middle', after, first, lifetimes, own, fewer, shown, taken, bracket, isConst,
    question, taken'⟩ := takes_modifiers (.level n) rest (steps.append _) spells
  rw [← List.append_assoc] at own
  obtain ⟨front, call, rfl, front_, called⟩ := own.of_append
  rw [Token.sizes_append] at fewer
  obtain ⟨ends, paren⟩ : EndsPath (call ++ rest) ∧ Look.group .paren (call ++ rest) = true := by
    cases called with
    | group => exact ⟨⟨rfl, rfl⟩, rfl⟩
  obtain ⟨nodes, shown', round⟩ :=
    takes_roundArguments (n := n) types fronts output called (by omega) stops
  obtain ⟨segments, spelled, path_⟩ :=
    takes_path (n := n) reads' begins' ends (by simp) front_ (by omega)
  obtain ⟨firsts, last, rfl, -, last_⟩ := forall₂_snoc spelled
  obtain rfl := Segment.eq_of_spelled_word last_
  refine ⟨(Node.seq [if relaxed then "?" else [], lifetimes,
    (Path.mk rooted (firsts ++ [.mk name (.round nodes)])).nodes], false), ⟨?_, rfl⟩, ?_⟩
  · have named : Segment.treesAll (firsts ++ [.mk name (.round nodes)]) =
        Segment.treesAll (firsts ++ [.mk name .none]) ++ Node.treesAll nodes := by
      rw [Segment.treesAll_eq, Segment.treesAll_eq, List.map_append, List.map_append]
      have snoc := listed_snoc [.leaf "::" false] (firsts.map Segment.trees) [.leaf name false]
        (Node.treesAll nodes)
      simpa [Segment.trees, Arguments.trees, Tree.seq] using snoc
    rw [Segment.treesAll_spelled spelled, shown'] at named
    cases relaxed <;>
      simp [Node.seq, Node.treesAll_append, Node.treesAll, Node.trees, Path.treesAll_nodes,
        named, shown, Symbol.trees_append, Symbol.trees_root, Symbol.trees, Symbol.tree]
  · beta_reduce
    rw [traitBound]
    refine taken.bind ?_
    simp only [takes_peekGroup_bind, takes_peekWord_bind, bracket, isConst, Bool.false_eq_true,
      if_false, Bool.or_false, Bool.false_and]
    rw [List.append_assoc] at taken'
    refine question.bind (taken'.ite_bind (path_.bind ?_))
    have bare : (Segment.mk name .none).arguments.isEmpty = true := rfl
    rw [takes_peek_bind, paren]
    simp only [List.getLast?_concat, Option.any_some, bare, Bool.true_or, Bool.and_self, if_true,
      List.dropLast_concat, Option.map_some, Option.toList_some, pure_bind]
    rw [takes_mark?_bind ends.colons]
    exact round.bind (takes_pure _ _)

theorem exists_of_forall₂ {R : α → β → Prop} {list : List α} {others : List β} {a : α}
    (related : List.Forall₂ R list others) (member : a ∈ list) : ∃ b ∈ others, R a b := by
  induction related with
  | nil => cases member
  | cons own _ ih =>
      rcases List.mem_cons.mp member with rfl | later
      · exact ⟨_, List.mem_cons_self, own⟩
      · obtain ⟨b, among, own⟩ := ih later
        exact ⟨b, List.mem_cons_of_mem _ among, own⟩

/-! ### Bounds -/

/-- What a bound prints; it is a trait unless it is a lifetime. -/
def Bound.Spelled (part : List Symbol) (bound : Bound) : Prop :=
  Node.treesAll bound.nodes = Symbol.trees part ∧
    (bound.kind = .trait ∨ Symbol.isLifetime part = true)

/-- A bound is read as one that prints the symbols. -/
def ReadsBound (part : List Symbol) : Prop :=
  ∀ captures consts, ReadsBack (fun rules => bound rules captures consts) (Stops false)
    (Bound.Spelled part) part

theorem readsBound_lifetime (name : String) : ReadsBound [.lifetime name] := by
  intro captures consts tokens rest n spells _ _
  obtain ⟨span, span', after, rfl, none_⟩ := spells.of_lifetime
  cases none_
  refine ⟨⟨[.word ("'" ++ name)], .lifetime⟩, ⟨rfl, .inr rfl⟩, ?_⟩
  beta_reduce
  rw [bound, takes_peek_bind]
  exact takes_lifetime.bind (takes_pure _ _)

/-- What is seen where a bound begins. -/
structure SeesBound (tokens : List Token) : Prop where
  goesOn : ∀ consts, continuesBounds consts tokens = true
  marks : ∀ c chars, c ∉ [':', '?', '\''] → Look.marks (c :: chars) tokens = false

/-- What is seen where a trait begins. -/
structure SeesTrait (tokens : List Token) : Prop extends SeesBound tokens where
  lifetime : Look.lifetime tokens = false
  use : Look.word "use" tokens = false
  paren : Look.group .paren tokens = false

theorem sees_trait {part : List Symbol} {tokens : List Token} (front : TraitFront part)
    (spells : Spells part tokens) (rest : List Token) : SeesTrait (tokens ++ rest) := by
  cases front with
  | relaxed =>
      obtain ⟨joint, span, after, rfl, -⟩ := spells.of_sign (c := '?') rfl
      refine ⟨⟨fun _ => ?_, fun c chars other => ?_⟩, rfl, rfl, rfl⟩
      · simp [continuesBounds, Look.mark]
      · have differ : '?' ≠ c := by rintro rfl; simp at other
        simp [differ]
  | binder =>
      cases spells with
      | word => exact ⟨⟨fun _ => rfl, fun _ _ _ => rfl⟩, rfl, rfl, rfl⟩
  | root =>
      obtain ⟨span, joint, span', after, rfl, -⟩ := spells.of_signs (c := ':') (d := ':') rfl
      refine ⟨⟨fun _ => ?_, fun c chars other => ?_⟩, rfl, rfl, rfl⟩
      · simp [continuesBounds, Look.mark]
      · have differ : ':' ≠ c := by rintro rfl; simp at other
        simp [differ]
  | step isStep =>
      cases spells with
      | word =>
          refine ⟨⟨fun _ => rfl, fun _ _ _ => rfl⟩, rfl, ?_, rfl⟩
          simpa using isStep.ne_of_keyword "use" (by decide) (by decide)

theorem sees_bound {part : List Symbol} {tokens : List Token}
    (begins : PhraseKind.bound.Begins part) (spells : Spells part tokens) (rest : List Token) :
    SeesBound (tokens ++ rest) := by
  rcases begins with front | ⟨name, others, rfl⟩
  · exact (sees_trait front spells rest).toSeesBound
  · obtain ⟨span, span', after, rfl, -⟩ := spells.of_lifetime
    exact ⟨fun _ => by simp [continuesBounds], fun c chars other => by simp⟩

/-- A bound begins with a colon only where it begins with two. -/
theorem sees_single {part : List Symbol} {tokens : List Token}
    (begins : PhraseKind.bound.Begins part) (apart : ∀ rest, part ≠ .operator "::" :: rest)
    (spells : Spells part tokens) (rest : List Token) : Look.mark ":" (tokens ++ rest) = false := by
  rcases begins with front | ⟨name, others, rfl⟩
  · cases front with
    | relaxed =>
        obtain ⟨joint, span, after, rfl, -⟩ := spells.of_sign (c := '?') rfl
        rfl
    | binder =>
        cases spells with
        | word => rfl
    | root own => exact absurd rfl (apart own)
    | step =>
        cases spells with
        | word => rfl
  · obtain ⟨span, span', after, rfl, -⟩ := spells.of_lifetime
    rfl

theorem readsBound_trait {part : List Symbol} (reads : ReadsTrait part) (front : TraitFront part) :
    ReadsBound part := by
  intro captures consts tokens rest n spells size stops
  obtain ⟨⟨nodes, isConst⟩, ⟨shown, rfl⟩, taken⟩ := reads consts tokens rest n spells size stops
  have sees := sees_trait front spells rest
  refine ⟨⟨nodes, .trait⟩, ⟨shown, .inl rfl⟩, ?_⟩
  beta_reduce
  rw [bound, takes_peek_bind, sees.lifetime]
  simp only [Bool.false_eq_true, if_false]
  rw [takes_peekWord_bind, sees.use]
  simp only [Bool.false_eq_true, if_false]
  refine Takes.get_bind fun cursor _ => ?_
  rw [takes_peekGroup_bind, sees.paren]
  simp only [Bool.false_eq_true, if_false]
  exact taken.bind (takes_pure _ _)

theorem stops_plus (joint : Bool) (span : Span) (rest : List Token) :
    Stops false (.mark '+' joint span :: rest) :=
  ⟨⟨rfl, rfl⟩, rfl, rfl, rfl, nofun⟩

theorem partsRead_bounds {parts : List (List Symbol)} (reads : ∀ part ∈ parts, ReadsBound part)
    (captures consts : Bool) (n : Nat) :
    PartsRead (bound (.level n) captures consts) (fun _ => false) (Stops false) Bound.Spelled n "+"
      parts := by
  refine ⟨fun part member tokens rest spells size stops =>
    ⟨rfl, reads part member captures consts tokens rest n spells size stops⟩, ?_, by decide⟩
  intro marks rest joined
  obtain ⟨joint, span, rfl⟩ := joined_one joined
  exact ⟨rfl, stops_plus joint span rest⟩

/-- Bounds with plus signs between them, up to where something else follows. -/
theorem takes_bounds {parts : List (List Symbol)} {tokens rest : List Token} {n turns : Nat}
    {stop : Parse Bool} {asks : List Token → Bool} {captures consts : Bool}
    (asked : ∀ tokens, Takes stop tokens tokens (asks tokens))
    (goesOn : ∀ tokens, SeesBound tokens → asks tokens = false)
    (reads : ∀ part ∈ parts, ReadsBound part)
    (begins : ∀ part ∈ parts, PhraseKind.bound.Begins part) (some_ : parts ≠ [])
    (stops : Stops true rest) (spells : Spells (Symbol.sum parts) tokens)
    (size : Token.sizes tokens ≤ n) (enough : Token.sizes tokens < turns) :
    ∃ bounds, List.Forall₂ Bound.Spelled parts bounds ∧
      Takes (chainLoop "+" stop (peekMark "+") (bound (.level n) captures consts) turns)
        (tokens ++ rest) rest ⟨bounds, false⟩ :=
  takes_chainLoop _ asked (partsRead_bounds reads captures consts n)
    (fun part member _ rest spells => goesOn _ (sees_bound (begins part member) spells rest)) some_
    (stops.plus rfl) { stops with plus := nofun } spells size enough

theorem treesAll_boundNodes {parts : List (List Symbol)} {bounds : List Bound}
    (spelled : List.Forall₂ Bound.Spelled parts bounds) :
    Node.treesAll (boundNodes ⟨bounds, false⟩) = Symbol.trees (Symbol.sum parts) :=
  Separated.treesAll_spelled Bound.nodes "+" false (spelled.imp fun _ _ own => own.1)

/-- Bounds, a trait among them, are read as ones that print the symbols. -/
def ReadsBounds (plus : Bool) (part : List Symbol) : Prop :=
  ∀ captures consts, ReadsBack (fun rules => objectBounds rules plus captures consts) (Stops plus)
    (fun bounds => Node.treesAll (boundNodes bounds) = Symbol.trees part) part

theorem takes_objectBounds {rules : Rules} {plus captures consts : Bool} {tokens rest : List Token}
    {bounds : List Bound} (trait : ∃ bound ∈ bounds, bound.kind = .trait)
    (taken : Takes (boundList rules plus captures consts) tokens rest ⟨bounds, false⟩) :
    Takes (objectBounds rules plus captures consts) tokens rest ⟨bounds, false⟩ := by
  have found : (bounds.any fun bound => bound.kind = .trait || bound.kind = .verbatim) = true := by
    obtain ⟨bound, member, kind⟩ := trait
    exact List.any_eq_true.mpr ⟨bound, member, by simp [kind]⟩
  rw [objectBounds]
  refine taken.bind ?_
  rw [found]
  exact takes_pure _ _

theorem readsBounds_one {plus : Bool} {part : List Symbol} (reads : ReadsTrait part)
    (front : TraitFront part) : ReadsBounds plus part := by
  intro captures consts tokens rest n spells size stops
  obtain ⟨bound_, spelled, taken⟩ := readsBound_trait reads front captures consts tokens rest n spells
    size { stops with plus := nofun }
  have kind : bound_.kind = .trait := spelled.2.resolve_right (by cases front <;> nofun)
  refine ⟨⟨[bound_], false⟩, ?_, takes_objectBounds ⟨bound_, by simp, kind⟩ ?_⟩
  · simpa [Symbol.sum] using treesAll_boundNodes (.cons spelled .nil)
  · rw [boundList]
    refine taken.bind ?_
    cases plus with
    | false => exact takes_pure _ _
    | true =>
        rw [if_pos rfl, moreBounds, takes_mark?_bind (stops.plus rfl)]
        exact takes_pure _ _

theorem readsBounds_several {parts : List (List Symbol)} {part : List Symbol}
    (reads : ∀ part ∈ parts, ReadsBound part)
    (begins : ∀ part ∈ parts, PhraseKind.bound.Begins part) (member : part ∈ parts)
    (trait : TraitFront part) : ReadsBounds true (Symbol.sum parts) := by
  intro captures consts tokens rest n spells size stops
  obtain ⟨bounds, spelled, taken⟩ : ∃ bounds, List.Forall₂ Bound.Spelled parts bounds ∧
      Takes (boundList (.level n) true captures consts) (tokens ++ rest) rest ⟨bounds, false⟩ := by
    obtain ⟨first, others, rfl⟩ := List.exists_cons_of_ne_nil (List.ne_nil_of_mem member)
    rw [boundList]
    cases others with
    | nil =>
        obtain ⟨bound_, spelled, taken⟩ := reads first List.mem_cons_self captures consts tokens rest
          n (by simpa [Symbol.sum] using spells) size { stops with plus := nofun }
        refine ⟨[bound_], .cons spelled .nil, taken.bind ?_⟩
        rw [if_pos rfl, moreBounds, takes_mark?_bind (stops.plus rfl)]
        exact takes_pure _ _
    | cons second others =>
        rw [Symbol.sum, listed_cons] at spells
        obtain ⟨before, after, rfl, own, joined⟩ := spells.of_append
        obtain ⟨joint, span, after, rfl, next⟩ := joined.of_sign (c := '+') rfl
        simp only [Token.sizes, Token.size, Token.sizes_append] at size
        obtain ⟨bound_, spelled, taken⟩ := reads first List.mem_cons_self captures consts before
          (.mark '+' joint span :: (after ++ rest)) n own (by omega) (stops_plus joint span _)
        have asked (tokens : List Token) : Takes (do return !(← peek (continuesBounds consts)))
            tokens tokens (!continuesBounds consts tokens) := fun _ last => ⟨last, rfl⟩
        obtain ⟨bounds, spelled', taken'⟩ : ∃ bounds,
            List.Forall₂ Bound.Spelled (second :: others) bounds ∧
            Takes (chainLoop "+" (do return !(← peek (continuesBounds consts))) (peekMark "+")
                (bound (.level n) captures consts) (Token.sizes (after ++ rest) + 1))
              (after ++ rest) rest ⟨bounds, false⟩ := takes_bounds asked
          (fun tokens sees => by rw [sees.goesOn consts]; rfl)
          (fun part member => reads part (List.mem_cons_of_mem first member))
          (fun part member => begins part (List.mem_cons_of_mem first member)) (by simp) stops next
          (by omega) (by rw [Token.sizes_append]; omega)
        refine ⟨bound_ :: bounds, .cons spelled spelled', ?_⟩
        rw [List.append_assoc]
        refine taken.bind ?_
        rw [if_pos rfl, moreBounds]
        refine (takes_sign? (c := '+') rfl (by decide)).bind ?_
        simp only [if_true, takes_budget_bind]
        exact taken'.bind (takes_pure _ _)
  have kind : ∃ bound ∈ bounds, bound.kind = .trait := by
    obtain ⟨bound_, among, own⟩ := exists_of_forall₂ spelled member
    exact ⟨bound_, among, own.2.resolve_right (by cases trait <;> nofun)⟩
  exact ⟨_, treesAll_boundNodes spelled, takes_objectBounds kind taken⟩

end Grammar

end SlotSum
