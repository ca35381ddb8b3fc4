import SlotSum.Proofs.Source.Phrase

/-!
How phrases begin. The first symbols of a phrase tell a production what it has before it, and what it
has not.
-/

namespace SlotSum

open Token (Look)

/-! ### Signs -/

section

variable {text : String} {c d : Char} {symbols : List Symbol} {tokens : List Token}

theorem Spells.of_sign (spells : Spells (.operator text :: symbols) tokens) (sign : text.toList = [c]) :
    ∃ joint span rest, tokens = .mark c joint span :: rest ∧ Spells symbols rest := by
  obtain ⟨marks, rest, rfl, joined, others⟩ := spells.of_operator
  rw [sign] at joined
  obtain ⟨joint, span, rfl⟩ := joined_one joined
  exact ⟨joint, span, rest, rfl, others⟩

theorem Spells.of_signs (spells : Spells (.operator text :: symbols) tokens)
    (signs : text.toList = [c, d]) :
    ∃ span joint span' rest,
      tokens = .mark c true span :: .mark d joint span' :: rest ∧ Spells symbols rest := by
  obtain ⟨marks, rest, rfl, joined, others⟩ := spells.of_operator
  rw [signs] at joined
  obtain ⟨span, joint, span', rfl⟩ := joined_two joined
  exact ⟨span, joint, span', rest, rfl, others⟩

theorem Spells.of_lifetime {name : String} (spells : Spells (.lifetime name :: symbols) tokens) :
    ∃ span span' rest, tokens = .mark '\'' true span :: .word ⟨name, span'⟩ :: rest ∧
      Spells symbols rest := by
  cases spells with
  | lifetime plain span span' rest => exact ⟨span, span', _, rfl, rest⟩

end

/-! ### Names -/

/-- The first symbol is a name. -/
def Steps (symbols : List Symbol) : Prop :=
  ∃ name rest, symbols = .word name :: rest ∧ IsStep name

theorem Steps.append {symbols : List Symbol} (steps : Steps symbols) (rest : List Symbol) :
    Steps (symbols ++ rest) := by
  obtain ⟨name, own, rfl, isStep⟩ := steps
  exact ⟨name, own ++ rest, rfl, isStep⟩

/-- The symbols begin with a name as those of a path do. -/
inductive Named : List Symbol → Prop
  | alone (isStep : IsStep name) : Named [.word name]
  | more (isStep : IsStep name) (sign : text ∈ ["::", "<"]) (rest : List Symbol) :
      Named (.word name :: .operator text :: rest)

theorem Named.goes_on {symbols : List Symbol} (named : Named symbols) (rest : List Symbol) :
    Named (symbols ++ .operator "::" :: rest) := by
  cases named with
  | alone isStep => exact .more isStep (by simp) rest
  | more isStep sign rest' => exact .more isStep sign _

theorem IsStep.ne_of_keyword {name : String} (isStep : IsStep name) (word : String)
    (keyword : Token.isKeyword word = true) (other : word ∉ ["Self", "super", "self", "crate"]) :
    name ≠ word := by
  rintro rfl
  rcases isStep with (plain | rfl) | member
  · rw [plain] at keyword
    cases keyword
  · simp at other
  · exact other (List.mem_cons_of_mem _ member)

theorem IsName.not_step {name : String} (isName : IsName name) :
    name ∉ ["super", "self", "crate", "try"] := by
  intro member
  have keywords : ∀ word ∈ ["super", "self", "crate", "try"],
      Token.isKeyword word = true ∧ word ≠ "Self" := by decide
  obtain ⟨keyword, other⟩ := keywords name member
  rcases isName with plain | rfl
  · rw [plain] at keyword
    cases keyword
  · exact other rfl

/-! ### Types -/

/-- The symbols begin as those of a type do. -/
inductive Front : List Symbol → Prop
  | keyword (member : name ∈ ["for", "unsafe", "extern", "fn", "dyn", "impl"])
      (rest : List Symbol) : Front (.word name :: rest)
  | named (named : Named symbols) : Front symbols
  | inferred : Front [.word "_"]
  | root (rest : List Symbol) : Front (.operator "::" :: rest)
  | angle (inside : Front contents) (rest : List Symbol) : Front (.operator "<" :: (contents ++ rest))
  | sign (member : text ∈ ["&", "*", "!"]) (rest : List Symbol) : Front (.operator text :: rest)
  | group (delimiters : delimiter = .paren ∨ delimiter = .bracket) (inner rest : List Symbol) :
      Front (.group delimiter inner :: rest)

/-- What is seen where a type begins. -/
structure SeesType (tokens : List Token) : Prop where
  some_ : tokens.isEmpty = false
  visible : Look.invisible tokens = false
  lifetime : Look.lifetime tokens = false
  literal : Look.literal tokens = false
  brace : Look.group .brace tokens = false
  mutable : Look.word "mut" tokens = false
  marks : ∀ c chars, c ∉ [':', '<', '&', '*', '!'] → Look.marks (c :: chars) tokens = false
  atMost : Look.mark "<=" tokens = false

section

variable {symbols : List Symbol} {tokens : List Token}

theorem SeesType.word {name : Name} (rest : List Token)
    (other : name.text ∉ ["true", "false", "mut"]) : SeesType (.word name :: rest) := by
  simp only [List.mem_cons, List.not_mem_nil, or_false, not_or] at other
  refine ⟨rfl, rfl, rfl, ?_, rfl, ?_, fun _ _ _ => rfl, rfl⟩
  · simp [other.1, other.2.1]
  · simp [other.2.2]

theorem IsStep.sees {name : String} (isStep : IsStep name) :
    name ∉ ["true", "false", "mut"] := by
  intro member
  have keywords : ∀ word ∈ ["true", "false", "mut"],
      Token.isKeyword word = true ∧ word ∉ ["Self", "super", "self", "crate"] := by decide
  obtain ⟨keyword, other⟩ := keywords name member
  exact isStep.ne_of_keyword _ keyword other rfl

theorem Named.steps (named : Named symbols) : Steps symbols := by
  cases named with
  | alone isStep => exact ⟨_, _, rfl, isStep⟩
  | more isStep => exact ⟨_, _, rfl, isStep⟩

theorem Front.sees (front : Front symbols) (spells : Spells symbols tokens) (rest : List Token) :
    SeesType (tokens ++ rest) := by
  have sign {c : Char} {joint : Bool} {span : Span} {rest : List Token}
      (member : c ∈ [':', '<', '&', '*', '!'])
      (next : c = '<' → Look.mark "=" rest = false) :
      SeesType (.mark c joint span :: rest) := by
    refine ⟨rfl, rfl, ?_, ?_, rfl, rfl, fun d chars other => ?_, ?_⟩
    · have plain : ∀ d ∈ [':', '<', '&', '*', '!'], d ≠ '\'' := List.all_iff_forall_prop.mp (by decide)
      simp [plain c member]
    · have plain : ∀ d ∈ [':', '<', '&', '*', '!'],
          Look.literal (.mark d joint span :: rest) = false := by
        intro d member
        simp only [List.mem_cons, List.not_mem_nil, or_false] at member
        rcases member with rfl | rfl | rfl | rfl | rfl <;> rfl
      exact plain c member
    · have differ : c ≠ d := by rintro rfl; exact other member
      simp [differ]
    · have unfolded : Look.mark "<=" (.mark c joint span :: rest) =
          (c == '<' && c != '\'' && (joint && Look.mark "=" rest)) := rfl
      by_cases less : c = '<'
      · rw [unfolded, next less, Bool.and_false, Bool.and_false]
      · rw [unfolded, beq_false_of_ne less, Bool.false_and, Bool.false_and]
  induction front generalizing tokens rest with
  | keyword member =>
      cases spells with
      | word =>
          have plain : ∀ word ∈ ["for", "unsafe", "extern", "fn", "dyn", "impl"],
              word ∉ ["true", "false", "mut"] := by decide
          exact .word _ (plain _ member)
  | named named =>
      obtain ⟨name, rest', rfl, isStep⟩ := named.steps
      cases spells with
      | word => exact .word _ isStep.sees
  | inferred =>
      cases spells with
      | word => exact .word _ (show "_" ∉ ["true", "false", "mut"] by decide)
  | root =>
      obtain ⟨span, joint, span', after, rfl, -⟩ := spells.of_signs (c := ':') (d := ':') rfl
      exact sign (by simp) (by simp)
  | angle inside rest' ih =>
      obtain ⟨joint, span, after, rfl, others⟩ := spells.of_sign (c := '<') rfl
      obtain ⟨first, second, rfl, inner, -⟩ := others.of_append
      have sees := ih inner (second ++ rest)
      rw [← List.append_assoc] at sees
      exact sign (by simp) fun _ => sees.marks '=' [] (by decide)
  | sign member =>
      simp only [List.mem_cons, List.not_mem_nil, or_false] at member
      rcases member with rfl | rfl | rfl
      · obtain ⟨joint, span, after, rfl, -⟩ := spells.of_sign (c := '&') rfl
        exact sign (by simp) (by simp)
      · obtain ⟨joint, span, after, rfl, -⟩ := spells.of_sign (c := '*') rfl
        exact sign (by simp) (by simp)
      · obtain ⟨joint, span, after, rfl, -⟩ := spells.of_sign (c := '!') rfl
        exact sign (by simp) (by simp)
  | group delimiters =>
      cases spells with
      | group visible opening closing =>
          refine ⟨rfl, ?_, Look.lifetime_group visible, Look.literal_group visible, ?_,
            Look.word_group visible, fun _ _ _ => Look.marks_group visible,
            Look.marks_group visible⟩
          · rcases delimiters with rfl | rfl <;> rfl
          · rcases delimiters with rfl | rfl <;> rfl

end

/-! ### Bounds and arguments -/

/-- The symbols begin as those of a trait do. -/
inductive TraitFront : List Symbol → Prop
  | relaxed (rest : List Symbol) : TraitFront (.operator "?" :: rest)
  | binder (rest : List Symbol) : TraitFront (.word "for" :: rest)
  | root (rest : List Symbol) : TraitFront (.operator "::" :: rest)
  | step (isStep : IsStep name) (rest : List Symbol) : TraitFront (.word name :: rest)

/-- What phrases of a kind begin with. -/
def PhraseKind.Begins : PhraseKind → List Symbol → Prop
  | .type _, symbols | .plain _, symbols => Front symbols
  | .path, symbols | .segment, symbols => Named symbols
  | .argument, symbols => Front symbols ∨ IsConstant symbols ∨ Steps symbols
  | .trait, symbols => TraitFront symbols
  | .bounds _, symbols | .bound, symbols =>
    TraitFront symbols ∨ ∃ name rest, symbols = .lifetime name :: rest
  | .input, symbols => Front symbols ∨ ∃ name rest, symbols = .word name :: .operator ":" :: rest
  | .output, _ => True

theorem named_listed {first : List Symbol} {rest : List (List Symbol)} (named : Named first) :
    Named (Symbol.path (first :: rest)) := by
  cases rest with
  | nil => simpa [Symbol.path] using named
  | cons second rest =>
      rw [Symbol.path, listed_cons]
      exact named.goes_on _

theorem traitFront_path {symbols : List Symbol} (relaxed : Bool)
    (bound : Option (List String × Bool)) (rooted : Bool) (steps : Steps symbols) :
    TraitFront ((if relaxed then [.operator "?"] else []) ++
      (Symbol.binder bound ++ (Symbol.root rooted ++ symbols))) := by
  cases relaxed with
  | true => exact .relaxed _
  | false =>
      cases bound with
      | some bound => exact .binder _
      | none =>
          cases rooted with
          | true => exact .root _
          | false =>
              obtain ⟨name, rest, rfl, isStep⟩ := steps
              exact .step isStep rest

theorem TraitFront.append {symbols : List Symbol} (front : TraitFront symbols)
    (rest : List Symbol) : TraitFront (symbols ++ rest) := by
  cases front with
  | relaxed => exact .relaxed _
  | binder => exact .binder _
  | root => exact .root _
  | step isStep => exact .step isStep _

theorem begins_sum {parts : List (List Symbol)} {plus : Bool} (some_ : parts ≠ [])
    (each : ∀ part ∈ parts, PhraseKind.bound.Begins part) :
    (PhraseKind.bounds plus).Begins (Symbol.sum parts) := by
  obtain ⟨first, rest, rfl⟩ := List.exists_cons_of_ne_nil some_
  obtain ⟨tail, eq⟩ := exists_listed [.operator "+"] false first rest
  rw [Symbol.sum, eq]
  rcases each first List.mem_cons_self with front | ⟨name, own, rfl⟩
  · exact .inl (front.append tail)
  · exact .inr ⟨name, own ++ tail, rfl⟩

theorem Phrase.begins {kind : PhraseKind} {symbols : List Symbol} (phrase : Phrase kind symbols) :
    kind.Begins symbols := by
  induction phrase with
  | bare _ ih => exact ih
  | paren => exact .group (.inl rfl) _ _
  | path rooted _ ih =>
      cases rooted with
      | true => exact .root _
      | false => exact .named ih
  | projection _ _ ih => exact .angle ih _
  | qualified _ _ _ _ ih => exact .angle ih _
  | reference => exact .sign (by simp) _
  | slice => exact .group (.inr rfl) _ _
  | array => exact .group (.inr rfl) _ _
  | unit => exact .group (.inl rfl) _ _
  | tuple => exact .group (.inl rfl) _ _
  | never => exact .sign (by simp) _
  | inferred => exact .inferred
  | pointer => exact .sign (by simp) _
  | function bound isUnsafe abi =>
      cases bound with
      | some bound => exact .keyword (by simp) _
      | none =>
          cases isUnsafe with
          | true => exact .keyword (by simp) _
          | false =>
              rcases abi with _ | _ | abi
              all_goals exact .keyword (by simp) _
  | object => exact .keyword (by simp) _
  | existential => exact .keyword (by simp) _
  | segments some_ _ ih =>
      obtain ⟨first, rest, rfl⟩ := List.exists_cons_of_ne_nil some_
      exact named_listed (ih first List.mem_cons_self)
  | step isStep => exact .alone isStep
  | angle isName turbofish =>
      cases turbofish with
      | true => exact .more (.inl isName) (by simp) _
      | false => exact .more (.inl isName) (by simp) _
  | typeArgument _ ih => exact .inl ih
  | constant isConstant => exact .inr (.inl isConstant)
  | binding _ _ ih | constantBinding _ _ ih | constraint _ _ _ _ ih =>
      exact .inr (.inr (ih.steps.append _))
  | oneBound _ ih => exact .inl ih
  | severalBounds _ member _ ih => exact begins_sum (List.ne_nil_of_mem member) ih
  | outlives name => exact .inr ⟨name, [], rfl⟩
  | traitBound _ ih => exact .inl ih
  | traitPath relaxed bound rooted _ ih => exact traitFront_path relaxed bound rooted ih.steps
  | @traitCall before name _ _ relaxed bound rooted _ isName _ _ _ ih =>
      refine traitFront_path relaxed bound rooted (Steps.append ?_ _)
      cases before with
      | nil => exact ⟨name, [], by simp [Symbol.path], .inl isName⟩
      | cons first rest => exact (named_listed (ih first List.mem_cons_self)).steps
  | input _ ih => exact .inl ih
  | namedInput => exact .inr ⟨_, _, rfl⟩
  | noOutput => trivial
  | output => trivial

end SlotSum
