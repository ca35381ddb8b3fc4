import SlotSum.Proofs.Source.BoundReading

/-!
Types are read back from the symbols that they print, one kind after the other.
-/

namespace SlotSum

open Token (Look)
open Parse

/-- A type that stands in no parentheses is read as one that prints the symbols. -/
def ReadsPlain (plus : Bool) (part : List Symbol) : Prop :=
  ReadsBack (fun rules => Grammar.type rules ⟨plus, true⟩) (Stops plus)
    (fun type => type.trees = Symbol.trees part ∧ type.bare = type) part

theorem ReadsPlain.type {plus : Bool} {part : List Symbol} (reads : ReadsPlain plus part) :
    ReadsType plus part := by
  intro tokens rest n spells size stops
  obtain ⟨type, ⟨shown, -⟩, taken⟩ := reads tokens rest n spells size stops
  exact ⟨type, shown, taken⟩

namespace Grammar

section

variable {rules : Rules} {mode : TypeMode} {tokens rest : List Token} {type_ : Ty}

theorem takes_type (visible : Look.invisible tokens = false)
    (taken : Takes (visibleType rules mode) tokens rest type_) :
    Takes (type rules mode) tokens rest type_ := by
  rw [type, takes_peek_bind, visible]
  exact taken

end

/-- A keyword that may be there is taken if it is. -/
theorem takes_modifier {present : Bool} {keyword : String} {symbols : List Symbol}
    {tokens : List Token} (rest : List Token) (spells : Spells (Symbol.modifier present keyword ++ symbols) tokens)
    (apart : ∀ tokens, Spells symbols tokens → Look.word keyword (tokens ++ rest) = false) :
    ∃ after, Spells symbols after ∧ Token.sizes after ≤ Token.sizes tokens ∧
      Takes (word? keyword) (tokens ++ rest) (after ++ rest) present := by
  cases present with
  | true =>
      cases spells with
      | word plain span others =>
          refine ⟨_, others, ?_, takes_word? keyword span⟩
          simp only [Token.sizes]
          omega
  | false =>
      refine ⟨tokens, spells, Nat.le_refl _, ?_⟩
      rw [← bind_pure (word? keyword), takes_word?_bind (apart tokens spells)]
      exact takes_pure _ _

/-! ### Signs in front -/

section

variable {plus : Bool} {part : List Symbol}

theorem readsPlain_reference (lifetime : Option String) (mutable : Bool)
    (reads : ReadsType false part) (front : Front part) :
    ReadsPlain plus (.operator "&" :: (lifetime.toList.map .lifetime ++
      (Symbol.modifier mutable "mut" ++ part))) := by
  intro tokens rest n spells size stops
  obtain ⟨joint, span, tokens, rfl, others⟩ := spells.of_sign (c := '&') rfl
  simp only [Token.sizes, Token.size] at size
  have modified {tokens : List Token} (spells : Spells (Symbol.modifier mutable "mut" ++ part) tokens) :
      Look.lifetime (tokens ++ rest) = false := by
    cases mutable with
    | true =>
        cases spells with
        | word => rfl
    | false => exact (front.sees spells rest).lifetime
  obtain ⟨middle, spells', fewer, lifetime_⟩ : ∃ middle,
      Spells (Symbol.modifier mutable "mut" ++ part) middle ∧
        Token.sizes middle ≤ Token.sizes tokens ∧
          Takes lifetime? (tokens ++ rest) (middle ++ rest) (lifetime.map ("'" ++ ·)) := by
    cases lifetime with
    | some name =>
        obtain ⟨span, span', after, rfl, next⟩ := others.of_lifetime
        refine ⟨after, next, ?_, takes_lifetime?⟩
        simp only [Token.sizes]
        omega
    | none =>
        refine ⟨tokens, others, Nat.le_refl _, ?_⟩
        rw [← bind_pure lifetime?, takes_lifetime?_bind (modified others)]
        exact takes_pure _ _
  obtain ⟨after, own, fewer', mutable_⟩ :=
    takes_modifier rest spells' fun tokens spells => (front.sees spells rest).mutable
  obtain ⟨inner, shown, taken⟩ :=
    reads.within (n := n) own (by omega) { stops with plus := nofun }
  refine ⟨.reference (lifetime.map ("'" ++ ·)) mutable inner, ⟨?_, rfl⟩, takes_type rfl ?_⟩
  · cases lifetime <;> cases mutable <;>
      simp [Ty.trees, Tree.seq, Symbol.trees, Symbol.tree, Symbol.modifier, shown]
  · rw [visibleType]
    refine Takes.get_bind fun _ _ => (takes_boundLifetimes_none rfl).bind ?_
    simp [Look.mark, pathStart, pathKeyword]
    refine (takes_sign? (c := '&') rfl (by decide)).bind ?_
    exact lifetime_.bind (mutable_.bind (taken.map _))

theorem readsPlain_pointer (mutable : Bool) (reads : ReadsType false part) :
    ReadsPlain plus (.operator "*" :: .word (if mutable then "mut" else "const") :: part) := by
  intro tokens rest n spells size stops
  obtain ⟨joint, span, tokens, rfl, others⟩ := spells.of_sign (c := '*') rfl
  cases others with
  | word plain span' others =>
      simp only [Token.sizes, Token.size] at size
      obtain ⟨inner, shown, taken⟩ :=
        reads.within (n := n) others (by omega) { stops with plus := nofun }
      refine ⟨.composite .pointer (Node.seq ["*", if mutable then "mut" else "const", inner]),
        ⟨?_, rfl⟩, takes_type rfl ?_⟩
      · cases mutable <;>
          simp [Ty.trees, Node.seq, Node.treesAll, Node.trees, Symbol.trees, Symbol.tree, shown]
      · rw [visibleType]
        refine Takes.get_bind fun _ _ => (takes_boundLifetimes_none rfl).bind ?_
        simp [Look.mark, pathStart, pathKeyword]
        refine (takes_sign (c := '*') rfl (by decide)).bind ?_
        cases mutable with
        | true => exact (takes_word? "mut" span').bind (taken.map _)
        | false =>
            simp
            exact (takes_word "const" span').bind (taken.map _)

theorem readsPlain_never : ReadsPlain plus [.operator "!"] := by
  intro tokens rest n spells _ stops
  obtain ⟨joint, span, tokens, rfl, none_⟩ := spells.of_sign (c := '!') rfl
  cases none_
  refine ⟨.never, ⟨rfl, rfl⟩, takes_type rfl ?_⟩
  rw [visibleType]
  refine Takes.get_bind fun _ _ => (takes_boundLifetimes_none rfl).bind ?_
  simp [Look.mark, pathStart, pathKeyword]
  exact (takes_sign (c := '!') rfl (by decide)).map _

/-! ### Keywords in front -/

theorem readsPlain_inferred : ReadsPlain plus [.word "_"] := by
  intro tokens rest n spells _ stops
  cases spells with
  | word plain span none_ =>
      cases none_
      have keyword : Token.isKeyword "_" = true := by decide
      refine ⟨.composite .inferred ["_"], ⟨rfl, rfl⟩, takes_type rfl ?_⟩
      rw [visibleType]
      refine Takes.get_bind fun _ _ => (takes_boundLifetimes_none rfl).bind ?_
      simp [Look.mark, pathStart, keyword]
      exact (takes_word? "_" span).bind (takes_pure _ _)

theorem readsPlain_object (reads : ReadsBounds plus part)
    (begins : (PhraseKind.bounds plus).Begins part) : ReadsPlain plus (.word "dyn" :: part) := by
  intro tokens rest n spells size stops
  cases spells with
  | @word _ _ tokens plain span others =>
      simp only [Token.sizes, Token.size] at size
      have keyword : Token.isKeyword "dyn" = true := by decide
      obtain ⟨bounds, shown, taken⟩ :=
        reads false false tokens rest n others (by omega) stops
      refine ⟨.composite .traitObject (Node.seq ["dyn", boundNodes bounds]), ⟨?_, rfl⟩,
        takes_type rfl ?_⟩
      · simp [Ty.trees, Node.seq, Node.treesAll, Node.trees, Symbol.trees, Symbol.tree, shown]
      · rw [visibleType]
        refine Takes.get_bind fun _ _ => (takes_boundLifetimes_none rfl).bind ?_
        simp [Look.mark, pathStart, keyword]
        refine (takes_word? "dyn" span).bind ?_
        have star := (sees_bound begins others rest).marks '*' [] (by decide)
        simp [Look.mark, star]
        exact taken.map _

theorem readsPlain_existential (reads : ReadsBounds plus part) :
    ReadsPlain plus (.word "impl" :: part) := by
  intro tokens rest n spells size stops
  cases spells with
  | @word _ _ tokens plain span others =>
      simp only [Token.sizes, Token.size] at size
      have keyword : Token.isKeyword "impl" = true := by decide
      obtain ⟨bounds, shown, taken⟩ := reads true true tokens rest n others (by omega) stops
      refine ⟨.composite .existential (Node.seq ["impl", boundNodes bounds]), ⟨?_, rfl⟩,
        takes_type rfl ?_⟩
      · simp [Ty.trees, Node.seq, Node.treesAll, Node.trees, Symbol.trees, Symbol.tree, shown]
      · rw [visibleType]
        refine Takes.get_bind fun _ _ => (takes_boundLifetimes_none rfl).bind ?_
        simp [Look.mark, pathStart, keyword]
        exact (takes_word? "impl" span).bind (taken.map _)

end

/-! ### Groups -/

section

variable {rules : Rules} {mode : TypeMode} {inner rest : List Token} {opening closing : Span}
  {type_ : Ty}

theorem takes_bracketed
    (taken : Takes (do
      let element ← rules.type .whole
      if ← mark? ";" then return .array element (← rules.expression true).nodes
      else return .slice element) inner [] type_) :
    Takes (type rules mode) (.group .bracket inner opening closing :: rest) rest type_ := by
  have visible : Delimiter.bracket ≠ .invisible := by decide
  refine takes_type rfl ?_
  rw [visibleType]
  refine Takes.get_bind fun _ _ => (takes_boundLifetimes_none (Look.word_group visible)).bind ?_
  simp [Look.mark, pathStart, pathKeyword, Look.group_group visible, Look.word_group visible,
    Look.identifier_group visible, Look.marks_group visible]
  exact takes_group visible (by simpa using taken)

theorem takes_enclosed {enter : Parse Enclosed} {next : Enclosed → Parse Ty} (enclosed : Enclosed)
    (first : Takes enter inner [] enclosed) (second : Takes (next enclosed) rest rest type_) :
    Takes (group .paren enter >>= next) (.group .paren inner opening closing :: rest) rest type_ :=
  (takes_group (by decide) first).bind second

theorem takes_parenthesized
    (taken : Takes (parenthesized rules mode) (.group .paren inner opening closing :: rest) rest
      type_) :
    Takes (type rules mode) (.group .paren inner opening closing :: rest) rest type_ := by
  have visible : Delimiter.paren ≠ .invisible := by decide
  refine takes_type rfl ?_
  rw [visibleType]
  refine Takes.get_bind fun _ _ => (takes_boundLifetimes_none (Look.word_group visible)).bind ?_
  simp [Look.group_group visible]
  exact taken

end

section

variable {plus : Bool} {part : List Symbol}

theorem readsPlain_slice (reads : ReadsType true part) : ReadsPlain plus [.group .bracket part] := by
  intro tokens rest n spells size stops
  cases spells with
  | group visible opening closing own none_ =>
      cases none_
      simp only [Token.sizes, Token.size] at size
      obtain ⟨type_, shown, taken⟩ := reads.within (n := n) own (by omega) (stops_nil true)
      rw [List.append_nil] at taken
      refine ⟨.slice type_, ⟨?_, rfl⟩, takes_bracketed (taken.bind ?_)⟩
      · simp [Ty.trees, Symbol.trees, Symbol.tree, Tree.brackets, shown]
      · rw [takes_mark?_bind rfl]
        exact takes_pure _ _

theorem readsPlain_array {length : List Symbol} (reads : ReadsType true part)
    (isLength : IsLength length) :
    ReadsPlain plus [.group .bracket (part ++ .operator ";" :: length)] := by
  intro tokens rest n spells size stops
  cases spells with
  | group visible opening closing own none_ =>
      cases none_
      obtain ⟨element, after, rfl, element_, others⟩ := own.of_append
      obtain ⟨joint, span, after, rfl, length_⟩ := others.of_sign (c := ';') rfl
      simp only [Token.sizes, Token.size, Token.sizes_append] at size
      obtain ⟨n, rfl⟩ : ∃ below, n = below + 2 := ⟨n - 2, by omega⟩
      obtain ⟨type_, shown, taken⟩ := reads.within (n := n + 2) element_ (by omega)
        (stops_mark (c := ';') (by decide) joint span after)
      obtain ⟨expr, shown', taken'⟩ := isLength after [] n length_ (by omega) rfl
      rw [List.append_nil] at taken'
      refine ⟨.array type_ expr.nodes, ⟨?_, rfl⟩, takes_bracketed (taken.bind ?_)⟩
      · simp [Ty.trees, Symbol.trees, Symbol.tree, Symbol.trees_append, Tree.brackets, Tree.seq, shown,
          shown']
      · refine (takes_sign? (c := ';') rfl (by decide)).bind ?_
        rw [if_pos rfl]
        exact Takes.bind taken' (takes_pure _ _)

theorem readsPlain_unit : ReadsPlain plus [.group .paren []] := by
  intro tokens rest n spells _ stops
  cases spells with
  | group visible opening closing own none_ =>
      cases none_
      cases own
      refine ⟨.tuple [] false, ⟨rfl, rfl⟩, takes_parenthesized ?_⟩
      rw [parenthesized]
      refine takes_enclosed (.done (.tuple [] false)) ?_ (takes_pure _ _)
      rw [takes_isEmpty_bind]
      exact takes_pure _ _

theorem readsType_paren (reads : ReadsType true part) (front : Front part) :
    ReadsType plus [.group .paren part] := by
  intro tokens rest n spells size stops
  cases spells with
  | @group _ _ inner _ _ visible opening closing own none_ =>
      cases none_
      simp only [Token.sizes, Token.size] at size
      have sees := front.sees own []
      obtain ⟨type_, shown, taken⟩ := reads.within (n := n) own (by omega) (stops_nil true)
      rw [List.append_nil] at sees taken
      refine ⟨.paren type_, by simp [Ty.trees, Symbol.trees, Symbol.tree, Tree.parens, shown],
        takes_parenthesized ?_⟩
      have question : Look.mark "?" inner = false := sees.marks '?' [] (by decide)
      rw [parenthesized]
      refine takes_enclosed (.one type_) ?_ ?_
      · simp only [takes_isEmpty_bind, sees.some_, takes_peek_bind, sees.lifetime,
          takes_peekMark_bind, question, Bool.false_eq_true, if_false]
        refine taken.bind ?_
        rw [takes_mark?_bind rfl]
        exact takes_pure _ _
      · have ends : (plus && Look.mark "+" rest) = false := by
          cases plus with
          | true => exact stops.plus rfl
          | false => rfl
        change Takes _ rest rest _
        simp only [takes_peekMark_bind, ends, Bool.false_eq_true, if_false]
        exact takes_pure _ _

theorem readsPlain_tuple {parts : List (List Symbol)} {trailing : Bool}
    (reads : ReadsType true part) (front : Front part)
    (each : ∀ part ∈ parts, ReadsType true part) (fronts : ∀ part ∈ parts, Front part)
    (comma : parts = [] → trailing = true) :
    ReadsPlain plus [.group .paren (Symbol.commas trailing (part :: parts))] := by
  intro tokens rest n spells size stops
  cases spells with
  | @group _ _ inner _ _ visible opening closing own none_ =>
      cases none_
      have more : parts ≠ [] ∨ trailing = true := by
        by_cases none_ : parts = []
        · exact .inr (comma none_)
        · exact .inl none_
      rw [Symbol.commas, listed_separated more] at own
      obtain ⟨before, after, rfl, first, others⟩ := own.of_append
      obtain ⟨joint, span, after, rfl, next⟩ := others.of_sign (c := ',') rfl
      simp only [Token.sizes, Token.size, Token.sizes_append] at size
      obtain ⟨type_, shown, taken⟩ := reads.within (n := n) first (by omega)
        (stops_mark (c := ',') (by decide) joint span after)
      obtain ⟨types, spelled, taken'⟩ := takes_types (n := n) each fronts next (by omega)
      have sees := front.sees first (.mark ',' joint span :: after)
      have question : Look.mark "?" (before ++ .mark ',' joint span :: after) = false :=
        sees.marks '?' [] (by decide)
      have trailing_ : (types.isEmpty || (trailing && !parts.isEmpty)) = trailing := by
        cases spelled with
        | nil => simp [comma rfl]
        | cons => simp
      have shown' : types.map Ty.trees = parts.map Symbol.trees := by
        clear more comma fronts each next own others taken' trailing_ size
        induction spelled with
        | nil => rfl
        | cons own _ ih => rw [List.map_cons, List.map_cons, own, ih]
      refine ⟨.tuple (type_ :: types) trailing, ⟨?_, rfl⟩, takes_parenthesized ?_⟩
      · simp [Ty.trees, Ty.treesEach_eq, Symbol.trees, Symbol.tree, Symbol.commas,
          Symbol.trees_listed, Tree.parens, shown, shown']
      · rw [parenthesized]
        refine takes_enclosed (.done (.tuple (type_ :: types) trailing)) ?_ (takes_pure _ _)
        simp only [takes_isEmpty_bind, sees.some_, takes_peek_bind, sees.lifetime,
          takes_peekMark_bind, question, Bool.false_eq_true, if_false]
        refine taken.bind ((takes_sign? (c := ',') rfl (by decide)).bind ?_)
        rw [if_pos rfl]
        refine taken'.bind ?_
        rw [trailing_]
        exact takes_pure _ _

end

/-! ### Paths -/

theorem pathStart_step {name : String} (isStep : IsStep name) (span : Span) (rest : List Token) :
    pathStart (.word ⟨name, span⟩ :: rest) = true := by
  rcases isStep with (plain | rfl) | member
  · simp [pathStart, plain]
  · simp [pathStart]
  · simp only [List.mem_cons, List.not_mem_nil, or_false] at member
    rcases member with rfl | rfl | rfl <;> simp [pathStart]

section

variable {rules : Rules} {plus : Bool} {tokens rest : List Token} {type_ : Ty}

theorem takes_namedType (taken : Takes (qualifiedPath rules false) tokens rest type_)
    (stops : Stops plus rest) : Takes (namedType rules ⟨plus, true⟩ []) tokens rest type_ := by
  rw [namedType]
  refine taken.bind ?_
  cases type_.isQualified with
  | true => exact takes_pure _ _
  | false =>
      cases plus with
      | true =>
          simp [stops.bang, stops.plus rfl]
          exact takes_pure _ _
      | false =>
          simp [stops.bang]
          exact takes_pure _ _

theorem takes_pathType_step {name : String} {span : Span} (isStep : IsStep name)
    (taken : Takes (qualifiedPath rules false) (.word ⟨name, span⟩ :: tokens) rest type_)
    (stops : Stops plus rest) :
    Takes (type rules ⟨plus, true⟩) (.word ⟨name, span⟩ :: tokens) rest type_ := by
  have unbound : Look.word "for" (.word ⟨name, span⟩ :: tokens) = false := by
    simpa using isStep.ne_of_keyword "for" (by decide) (by decide)
  have other : name ∉ ["fn", "unsafe", "extern"] := by
    intro member
    have keywords : ∀ word ∈ ["fn", "unsafe", "extern"],
        Token.isKeyword word = true ∧ word ∉ ["Self", "super", "self", "crate"] := by decide
    obtain ⟨keyword, apart⟩ := keywords name member
    exact isStep.ne_of_keyword _ keyword apart rfl
  refine takes_type rfl ?_
  rw [visibleType]
  refine Takes.get_bind fun _ _ => (takes_boundLifetimes_none unbound).bind ?_
  simp only [List.isEmpty_nil, Bool.not_true, Bool.false_eq_true, if_false, takes_peekGroup_bind,
    Look.group_word, takes_peek_bind, pathKeyword_word, other, decide_false, pathStart_step isStep,
    Bool.true_or, if_true]
  exact takes_namedType taken stops

theorem takes_pathType_mark {c : Char} {joint : Bool} {span : Span}
    (start : Look.mark "::" (.mark c joint span :: tokens) = true ∨
      Look.mark "<" (.mark c joint span :: tokens) = true)
    (taken : Takes (qualifiedPath rules false) (.mark c joint span :: tokens) rest type_)
    (stops : Stops plus rest) :
    Takes (type rules ⟨plus, true⟩) (.mark c joint span :: tokens) rest type_ := by
  refine takes_type rfl ?_
  rw [visibleType]
  refine Takes.get_bind fun _ _ => (takes_boundLifetimes_none rfl).bind ?_
  simp [pathKeyword, pathStart]
  rw [if_pos start]
  exact takes_namedType taken stops

end

section

variable {parts : List (List Symbol)} {rooted plus : Bool} {tokens rest : List Token} {n : Nat}
  (reads : ∀ part ∈ parts, ReadsSegment false part)
  (begins : ∀ part ∈ parts, PhraseKind.segment.Begins part) (some_ : parts ≠ [])
include reads begins some_

/-- A path is read as a type that is made of the segments. -/
theorem takes_pathType (spells : Spells (Symbol.root rooted ++ Symbol.path parts) tokens)
    (size : Token.sizes tokens ≤ n) (stops : Stops plus rest) :
    ∃ segments, List.Forall₂ Segment.Spelled parts segments ∧
      Takes (type (.level n) ⟨plus, true⟩) (tokens ++ rest) rest (.path rooted segments) := by
  obtain ⟨segments, spelled, taken⟩ :=
    takes_path (n := n) reads begins stops.toEndsPath some_ spells size
  refine ⟨segments, spelled, ?_⟩
  have whole (less : Look.mark "<" (tokens ++ rest) = false) :
      Takes (qualifiedPath (.level n) false) (tokens ++ rest) rest (.path rooted segments) := by
    rw [qualifiedPath, takes_peekMark_bind, less]
    exact taken.bind (takes_pure _ _)
  cases rooted with
  | true =>
      obtain ⟨span, joint, span', after, rfl, -⟩ := spells.of_signs (c := ':') (d := ':') rfl
      exact takes_pathType_mark (.inl rfl) (whole rfl) stops
  | false =>
      obtain ⟨first, others, rfl⟩ := List.exists_cons_of_ne_nil some_
      obtain ⟨name, own, eq, isStep⟩ := (named_listed (begins first List.mem_cons_self)).steps
      rw [eq] at spells
      cases spells with
      | word => exact takes_pathType_step isStep (whole rfl) stops

theorem readsPlain_path : ReadsPlain plus (Symbol.root rooted ++ Symbol.path parts) := by
  intro tokens rest n spells size stops
  obtain ⟨segments, spelled, taken⟩ := takes_pathType reads begins some_ spells size stops
  refine ⟨.path rooted segments, ⟨?_, rfl⟩, taken⟩
  simp [Ty.trees, Tree.seq, Segment.treesAll_spelled spelled, Symbol.trees_append, Symbol.trees_root]

/-- What stands behind the bracket that closes around the subject of a path. -/
theorem takes_behind (spells : Spells (.operator ">" :: .operator "::" :: Symbol.path parts) tokens)
    (size : Token.sizes tokens ≤ n) (ends : EndsPath rest) :
    ∃ first others, List.Forall₂ Segment.Spelled parts (first :: others) ∧
      ∀ {α : Type} (next : Segment → List Segment → Parse α) (value : α),
        Takes (next first others) rest rest value →
        Takes (do
          mark ">"
          mark "::"
          let first ← segment (.level n) false
          let others ← many (peekMark "::") (do mark "::"; segment (.level n) false)
          next first others) (tokens ++ rest) rest value := by
  obtain ⟨joint, span, tokens, rfl, others⟩ := spells.of_sign (c := '>') rfl
  obtain ⟨span', joint', span'', tokens, rfl, own⟩ := others.of_signs (c := ':') (d := ':') rfl
  simp only [Token.sizes, Token.size] at size
  have asked (tokens : List Token) :
      Takes (peekMark "::") tokens tokens (Look.mark "::" tokens) := fun _ last => ⟨last, rfl⟩
  obtain ⟨first, others, middle, spelled, taken, taken'⟩ :=
    takes_segments (n := n) reads begins asked (fun _ _ _ _ _ => rfl) ends ends.colons some_ own
      (by omega)
  refine ⟨first, others, spelled, fun next value last => ?_⟩
  refine (takes_sign (c := '>') rfl (by decide)).bind ?_
  refine (takes_signs (c := ':') (d := ':') rfl (by decide)).bind ?_
  exact taken.bind (taken'.bind last)

theorem readsPlain_projection {inner : List Symbol} (subject : ReadsType true inner) :
    ReadsPlain plus (.operator "<" ::
      (inner ++ .operator ">" :: .operator "::" :: Symbol.path parts)) := by
  intro tokens rest n spells size stops
  obtain ⟨joint, span, tokens, rfl, enclosed⟩ := spells.of_sign (c := '<') rfl
  obtain ⟨before, after, rfl, own, others⟩ := enclosed.of_append
  simp only [Token.sizes, Token.size, Token.sizes_append] at size
  have closes : Stops true (after ++ rest) ∧ Look.word "as" (after ++ rest) = false := by
    obtain ⟨joint, span, after, rfl, -⟩ := others.of_sign (c := '>') rfl
    exact ⟨stops_mark (by decide) joint span _, rfl⟩
  obtain ⟨type_, shown, taken⟩ := subject.within (n := n) own (by omega) closes.1
  obtain ⟨first, more, spelled, behind⟩ :=
    takes_behind (n := n) reads begins some_ others (by omega) stops.toEndsPath
  have whole : Takes (qualifiedPath (.level n) false)
      (.mark '<' joint span :: (before ++ (after ++ rest))) rest
      (.projection type_ false true [] (first :: more)) := by
    rw [qualifiedPath, takes_peekMark_bind]
    refine (takes_sign (c := '<') rfl (by decide)).bind (taken.bind ?_)
    rw [takes_word?_bind closes.2]
    exact behind _ _ (takes_pure _ _)
  refine ⟨.projection type_ false true [] (first :: more), ⟨?_, rfl⟩, ?_⟩
  · simp [Ty.trees, Tree.seq, Segment.treesAll_spelled spelled, Symbol.trees_append, Symbol.trees,
      Symbol.tree, shown]
  · rw [List.cons_append, List.append_assoc]
    exact takes_pathType_mark (.inr rfl) whole stops

theorem readsPlain_qualified {inner : List Symbol} {owners : List (List Symbol)}
    (subject : ReadsType true inner) (reads' : ∀ part ∈ owners, ReadsSegment false part)
    (begins' : ∀ part ∈ owners, PhraseKind.segment.Begins part) (some' : owners ≠ []) :
    ReadsPlain plus (.operator "<" :: (inner ++ .word "as" :: (Symbol.root rooted ++
      (Symbol.path owners ++ .operator ">" :: .operator "::" :: Symbol.path parts)))) := by
  intro tokens rest n spells size stops
  obtain ⟨joint, span, tokens, rfl, enclosed⟩ := spells.of_sign (c := '<') rfl
  obtain ⟨before, after, rfl, own, others⟩ := enclosed.of_append
  rw [← List.append_assoc] at others
  cases others with
  | word plain span' others =>
      obtain ⟨owner, after, rfl, owner_, closing⟩ := others.of_append
      simp only [Token.sizes, Token.size, Token.sizes_append] at size
      have closes : EndsPath (after ++ rest) := by
        obtain ⟨joint, span, after, rfl, -⟩ := closing.of_sign (c := '>') rfl
        exact ⟨rfl, rfl⟩
      obtain ⟨type_, shown, taken⟩ := subject.within (n := n) own (by omega)
        (stops_word ⟨"as", span'⟩ (owner ++ (after ++ rest)))
      obtain ⟨segments, spelled', taken'⟩ :=
        takes_path (n := n) reads' begins' closes some' owner_ (by omega)
      obtain ⟨first, more, spelled, behind⟩ :=
        takes_behind (n := n) reads begins some_ closing (by omega) stops.toEndsPath
      have whole : Takes (qualifiedPath (.level n) false)
          (.mark '<' joint span :: (before ++ (.word ⟨"as", span'⟩ :: (owner ++ (after ++ rest)))))
          rest (.projection type_ true rooted segments (first :: more)) := by
        rw [qualifiedPath, takes_peekMark_bind]
        refine (takes_sign (c := '<') rfl (by decide)).bind (taken.bind ?_)
        refine (takes_word? "as" span').bind ((taken'.map some).bind ?_)
        exact behind _ _ (takes_pure _ _)
      refine ⟨.projection type_ true rooted segments (first :: more), ⟨?_, rfl⟩, ?_⟩
      · simp [Ty.trees, Tree.seq, Segment.treesAll_spelled spelled, Segment.treesAll_spelled spelled',
          Symbol.trees_append, Symbol.trees_root, Symbol.trees, Symbol.tree, shown]
      · simp only [List.cons_append, List.append_assoc]
        exact takes_pathType_mark (.inr rfl) whole stops

end

end Grammar

end SlotSum
