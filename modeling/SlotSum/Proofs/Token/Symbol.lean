import SlotSum.Proofs.Token.Leaf

/-!
Symbols: printed trees that know what kind their leaves are of. A text lays symbols out if it spells
them one after the other, with spaces wherever it likes but where two leaves would become one. Such a
text is read as tokens that spell the same symbols.
-/

namespace SlotSum

open Ty (isLoose Breaks)

/-- A printed tree with the kind of its leaves. -/
inductive Symbol where
  | word (name : String)
  | lifetime (name : String)
  | operator (text : String)
  | literal (text : String)
  | group (delimiter : Delimiter) (inner : List Symbol)

namespace Symbol

mutual

def tree : Symbol → Tree
  | word name => .leaf name false
  | lifetime name => .leaf ("'" ++ name) false
  | operator text => .leaf text false
  | literal text => .leaf text false
  | group delimiter inner => .group delimiter (trees inner)

def trees : List Symbol → List Tree
  | [] => []
  | first :: rest => first.tree :: trees rest

end

theorem trees_eq_map (symbols : List Symbol) : trees symbols = symbols.map tree := by
  induction symbols with
  | nil => rfl
  | cons first rest ih => rw [trees, ih, List.map_cons]

theorem trees_append (before after : List Symbol) :
    trees (before ++ after) = trees before ++ trees after := by
  simp [trees_eq_map]

end Symbol

/-- An operator of marks, in which a slash is followed by nothing that would begin a comment. -/
structure IsOperator (text : List Char) : Prop where
  some_ : text ≠ []
  marks : ∀ c ∈ text, Lexeme.IsMark c
  slash : '/' ∉ text.dropLast

/-- A literal that is read as one wherever the text breaks off behind it. -/
structure IsLiteral (text : List Char) : Prop where
  begins : ∃ c rest, text = c :: rest ∧ (Text.isIdentifierPart c = true ∨ c = '"' ∨ c = '\'')
  reads : ∀ after, Breaks after → Lexeme.literal (text ++ after) = some (text, after)

/-- The characters around the contents of a group. -/
def Delimiter.signs : Delimiter → Char × Char
  | .paren => ('(', ')')
  | .bracket => ('[', ']')
  | .brace => ('\x7b', '\x7d')
  | .invisible => (' ', ' ')

/-- The first text lays out some symbols in front of the second. -/
inductive Laid : List Symbol → List Char → List Char → Prop
  | done (tail : List Char) : Laid [] tail tail
  | blank (laid : Laid symbols text tail) : Laid symbols (' ' :: text) tail
  | word (isWord : IsWord name.toList) (plain : name ≠ "__group") (breaks : Breaks text)
      (laid : Laid symbols text tail) : Laid (.word name :: symbols) (name.toList ++ text) tail
  | lifetime (isWord : IsWord name.toList) (plain : name ≠ "__group") (breaks : Breaks text)
      (laid : Laid symbols text tail) :
      Laid (.lifetime name :: symbols) ('\'' :: (name.toList ++ text)) tail
  | operator (isOperator : IsOperator spelling.toList)
      (breaks : (∃ c ∈ spelling.toList.getLast?, isLoose c = false) → Breaks text)
      (laid : Laid symbols text tail) :
      Laid (.operator spelling :: symbols) (spelling.toList ++ text) tail
  | literal (isLiteral : IsLiteral spelling.toList) (breaks : Breaks text)
      (laid : Laid symbols text tail) :
      Laid (.literal spelling :: symbols) (spelling.toList ++ text) tail
  | group (visible : delimiter ≠ .invisible)
      (inside : Laid contents text (delimiter.signs.2 :: after)) (laid : Laid symbols after tail) :
      Laid (.group delimiter contents :: symbols) (delimiter.signs.1 :: text) tail

/-- Marks for the characters of an operator, each joined to the next one. -/
inductive Joined : List Char → List Token → Prop
  | last (c : Char) (joint : Bool) (span : Span) : Joined [c] [.mark c joint span]
  | more (span : Span) (rest : Joined (d :: chars) marks) :
      Joined (c :: d :: chars) (.mark c true span :: marks)

/-- The tokens spell the symbols. -/
inductive Spells : List Symbol → List Token → Prop
  | nil : Spells [] []
  | word (plain : name ≠ "__group") (span : Span) (rest : Spells symbols tokens) :
      Spells (.word name :: symbols) (.word ⟨name, span⟩ :: tokens)
  | lifetime (plain : name ≠ "__group") (span span' : Span) (rest : Spells symbols tokens) :
      Spells (.lifetime name :: symbols) (.mark '\'' true span :: .word ⟨name, span'⟩ :: tokens)
  | operator (joined : Joined text.toList marks) (rest : Spells symbols tokens) :
      Spells (.operator text :: symbols) (marks ++ tokens)
  | literal (span : Span) (rest : Spells symbols tokens) :
      Spells (.literal text :: symbols) (.literal text span :: tokens)
  | group (visible : delimiter ≠ .invisible) (opening closing : Span)
      (inside : Spells contents tokens) (rest : Spells symbols tokens') :
      Spells (.group delimiter contents :: symbols)
        (.group delimiter tokens opening closing :: tokens')

/-! ### Fronts of texts -/

/-- No comment begins here, nor a byte order mark. -/
structure Begins (text : List Char) : Prop where
  noComment : Lexeme.NoComment text
  noOrder : ∀ c ∈ text.head?, c.toNat ≠ 0xFEFF

theorem begins_of_head {c : Char} (rest : List Char) (other : c ≠ '/') (noOrder : c.toNat ≠ 0xFEFF) :
    Begins (c :: rest) :=
  ⟨Lexeme.noComment_of_head rest other, by simpa using noOrder⟩

theorem apart_of_part {c : Char} (part : Text.isIdentifierPart c = true) :
    c ≠ '/' ∧ c.toNat ≠ 0xFEFF ∧ Lexeme.isSpace c = false ∧ c ∉ "([\x7b)]\x7d".toList := by
  refine ⟨?_, fun order => ?_, Lexeme.isSpace_of_part part, fun member => ?_⟩
  · rintro rfl
    cases part
  · have none_ : Text.isIdentifierPart (Char.ofNat 0xFEFF) = false := by decide +kernel
    rw [← Char.ofNat_toNat c, order, none_] at part
    cases part
  · have none_ : ∀ d ∈ "([\x7b)]\x7d".toList, Text.isIdentifierPart d = false :=
      List.all_iff_forall_prop.mp (by decide)
    rw [none_ c member] at part
    cases part

theorem IsWord.head {text : List Char} (isWord : IsWord text) :
    ∃ c rest, text = c :: rest ∧ c ≠ '/' ∧ c.toNat ≠ 0xFEFF ∧ Lexeme.isSpace c = false ∧
      c ∉ "([\x7b)]\x7d".toList := by
  obtain ⟨c, rest, eq, starts⟩ := isWord.cases_head
  exact ⟨c, rest, eq, apart_of_part (Text.isIdentifierPart_of_isIdentifierStart starts)⟩

theorem IsLiteral.head {text : List Char} (isLiteral : IsLiteral text) :
    ∃ c rest, text = c :: rest ∧ c ≠ '/' ∧ c.toNat ≠ 0xFEFF ∧ Lexeme.isSpace c = false ∧
      c ∉ "([\x7b)]\x7d".toList := by
  obtain ⟨c, rest, eq, kind⟩ := isLiteral.begins
  refine ⟨c, rest, eq, ?_⟩
  rcases kind with part | rfl | rfl
  · exact apart_of_part part
  · decide
  · decide

theorem noComment_of_breaks {text : List Char} (breaks : Breaks text) (c : Char) :
    Lexeme.NoComment (c :: text) := by
  have stops : ∀ d ∈ text.head?, d ≠ '/' ∧ d ≠ '*' := by
    intro d member
    constructor <;> rintro rfl <;> exact absurd (breaks _ member) (by decide)
  cases text with
  | nil => exact ⟨by simp, by simp⟩
  | cons d rest =>
      have other := stops d rfl
      exact ⟨by simp [other.1.symm], by simp [other.2.symm]⟩

theorem IsOperator.noComment {text after : List Char} (isOperator : IsOperator text)
    (breaks : (∃ c ∈ text.getLast?, isLoose c = false) → Breaks after) :
    Lexeme.NoComment (text ++ after) := by
  obtain ⟨some_, marks, slash⟩ := isOperator
  cases text with
  | nil => exact absurd rfl some_
  | cons c rest =>
      by_cases other : c = '/'
      · subst other
        cases rest with
        | nil => exact noComment_of_breaks (breaks ⟨'/', rfl, by decide⟩) '/'
        | cons d rest => exact absurd List.mem_cons_self slash
      · exact Lexeme.noComment_of_head _ other

theorem IsOperator.tail {c d : Char} {text : List Char} (isOperator : IsOperator (c :: d :: text)) :
    IsOperator (d :: text) :=
  ⟨by simp, fun e member => isOperator.marks e (List.mem_cons_of_mem c member),
    fun member => isOperator.slash (List.mem_cons_of_mem c member)⟩

theorem Laid.begins {symbols : List Symbol} {text tail : List Char}
    (laid : Laid symbols text tail) (end_ : Begins tail) : Begins text := by
  cases laid with
  | done => exact end_
  | blank => exact begins_of_head _ (by decide) (by decide)
  | word isWord =>
      obtain ⟨c, rest, eq, slash, order, -⟩ := isWord.head
      rw [eq]
      exact begins_of_head _ slash order
  | lifetime => exact begins_of_head _ (by decide) (by decide)
  | operator isOperator breaks =>
      refine ⟨isOperator.noComment breaks, fun c member => ?_⟩
      have each : ∀ d ∈ Lexeme.marks, d.toNat ≠ 0xFEFF := List.all_iff_forall_prop.mp (by decide)
      obtain ⟨d, rest, eq⟩ := List.exists_cons_of_ne_nil isOperator.some_
      rw [eq, List.cons_append, List.head?_cons, Option.mem_some_iff] at member
      exact member ▸ each d (isOperator.marks d (by simp [eq])).1
  | literal isLiteral =>
      obtain ⟨c, rest, eq, slash, order, -⟩ := isLiteral.head
      rw [eq]
      exact begins_of_head _ slash order
  | @group delimiter _ _ _ _ _ visible =>
      cases delimiter with
      | invisible => exact absurd rfl visible
      | paren | bracket | brace => exact begins_of_head _ (by decide) (by decide)

/-! ### Reading -/

namespace Token

variable (turns : Nat) (here : Position) (groups : List OpenGroup) (done : List Token)

theorem lexFrom_blank (rest : List Char) : ∃ here',
    lexFrom (turns + 1) here groups done (' ' :: rest) = lexFrom turns here' groups done rest := by
  have space : Lexeme.blank (' ' :: rest) = some ([' '], rest) := by
    rw [(Lexeme.noComment_of_head rest (by decide)).blank, if_pos (by decide)]
  refine ⟨here.advance [' '], ?_⟩
  rw [lexFrom, space]

theorem lexFrom_leaf {c : Char} {rest taken after : List Char} {token : Token}
    (noComment : Lexeme.NoComment (c :: rest)) (space : Lexeme.isSpace c = false)
    (other : c ∉ "([\x7b)]\x7d".toList) (leaf : leaf? here (c :: rest) = some (token, taken, after)) :
    lexFrom (turns + 1) here groups done (c :: rest) =
      lexFrom turns (here.advance taken) groups (token :: done) after := by
  have blank : Lexeme.blank (c :: rest) = none := by
    rw [noComment.blank, if_neg (by simp [space])]
  have signs : c ≠ '(' ∧ c ≠ '[' ∧ c ≠ '\x7b' ∧ c ≠ ')' ∧ c ≠ ']' ∧ c ≠ '\x7d' := by
    simpa using other
  have opening : openingOf? (c :: rest) = none := by
    rw [openingOf?] <;> simp [signs]
  have closing : closingOf? (c :: rest) = none := by
    rw [closingOf?] <;> simp [signs]
  rw [lexFrom]
  simp only [blank, noComment.comment?, opening, closing, leaf]

theorem lexFrom_open {delimiter : Delimiter} {rest : List Char} (visible : delimiter ≠ .invisible)
    (noComment : Lexeme.NoComment rest) :
    lexFrom (turns + 1) here groups done (delimiter.signs.1 :: rest) =
      lexFrom turns (here.after delimiter.signs.1) (⟨delimiter, here, done⟩ :: groups) [] rest := by
  have failure : Lexeme.startsWith failureMark ('(' :: rest) = false := by
    refine Lexeme.startsWith_eq_false _ fun begins => noComment.block ?_
    obtain ⟨after, eq⟩ := begins
    exact ⟨"ERROR*/)".toList ++ after, (List.cons.inj eq).2⟩
  obtain ⟨slash, space, opening⟩ : delimiter.signs.1 ≠ '/' ∧
      Lexeme.isSpace delimiter.signs.1 = false ∧
      openingOf? (delimiter.signs.1 :: rest) = some delimiter := by
    cases delimiter with
    | invisible => exact absurd rfl visible
    | paren => exact ⟨by decide, by decide, by simp [openingOf?, Delimiter.signs, failure]⟩
    | bracket | brace => exact ⟨by decide, by decide, rfl⟩
  have outside := Lexeme.noComment_of_head rest slash
  have blank : Lexeme.blank (delimiter.signs.1 :: rest) = none := by
    rw [outside.blank, if_neg (by simp [space])]
  rw [lexFrom]
  simp only [blank, outside.comment?, opening]

theorem lexFrom_close {delimiter : Delimiter} (before : List Token) (start : Position)
    (rest : List Char) (visible : delimiter ≠ .invisible) : ∃ opening closing here',
    lexFrom (turns + 1) here (⟨delimiter, start, before⟩ :: groups) done (delimiter.signs.2 :: rest) =
      lexFrom turns here' groups (group delimiter done.reverse opening closing :: before) rest := by
  obtain ⟨slash, space, opening, closing⟩ : delimiter.signs.2 ≠ '/' ∧
      Lexeme.isSpace delimiter.signs.2 = false ∧
      openingOf? (delimiter.signs.2 :: rest) = none ∧
      closingOf? (delimiter.signs.2 :: rest) = some delimiter := by
    cases delimiter with
    | invisible => exact absurd rfl visible
    | paren | bracket | brace => exact ⟨by decide, by decide, rfl, rfl⟩
  have outside := Lexeme.noComment_of_head rest slash
  have blank : Lexeme.blank (delimiter.signs.2 :: rest) = none := by
    rw [outside.blank, if_neg (by simp [space])]
  refine ⟨⟨start, start.after '('⟩, ⟨here, here.after delimiter.signs.2⟩,
    here.after delimiter.signs.2, ?_⟩
  rw [lexFrom]
  simp only [blank, outside.comment?, opening, closing, if_true]

variable {turns}

/-- A turn is left for a character that is. -/
theorem exists_turn {c : Char} (rest : List Char) (enough : (c :: rest).length ≤ turns) :
    ∃ before, turns = before + 1 ∧ rest.length ≤ before :=
  ⟨turns - 1, by simp only [List.length_cons] at enough; omega,
    by simp only [List.length_cons] at enough; omega⟩

/-- A leaf that is taken as a whole. -/
theorem lexFrom_part {part after : List Char} {token : Token}
    (head : ∃ c rest, part = c :: rest ∧ c ≠ '/' ∧ c.toNat ≠ 0xFEFF ∧
      Lexeme.isSpace c = false ∧ c ∉ "([\x7b)]\x7d".toList)
    (leaf : leaf? here (part ++ after) = some (token, part, after))
    (enough : (part ++ after).length ≤ turns) :
    ∃ turns' here', after.length ≤ turns' ∧ lexFrom turns here groups done (part ++ after) =
      lexFrom turns' here' groups (token :: done) after := by
  obtain ⟨c, rest, rfl, slash, -, space, other⟩ := head
  obtain ⟨turns, rfl, left⟩ := exists_turn (rest ++ after) enough
  refine ⟨turns, here.advance (c :: rest), ?_,
    lexFrom_leaf _ here groups done (Lexeme.noComment_of_head _ slash) space other leaf⟩
  rw [List.length_append] at left
  omega

/-- The marks of an operator, one after the other. -/
theorem lexFrom_operator {operator after : List Char} (isOperator : IsOperator operator)
    (breaks : (∃ c ∈ operator.getLast?, isLoose c = false) → Breaks after)
    (enough : (operator ++ after).length ≤ turns) :
    ∃ marks turns' here', Joined operator marks ∧ after.length ≤ turns' ∧
      lexFrom turns here groups done (operator ++ after) =
        lexFrom turns' here' groups (marks.reverse ++ done) after := by
  induction operator generalizing turns here done with
  | nil => exact absurd rfl isOperator.some_
  | cons c rest ih =>
      obtain ⟨turns, rfl, left⟩ := exists_turn (rest ++ after) enough
      have mark := isOperator.marks c List.mem_cons_self
      obtain ⟨-, -, space, other⟩ := mark.apart
      have noComment := isOperator.noComment breaks
      have step : lexFrom (turns + 1) here groups done (c :: (rest ++ after)) =
          lexFrom turns (here.advance [c]) groups
            (.mark c (Lexeme.markChar? (rest ++ after)).isSome ⟨here, here.after c⟩ :: done)
            (rest ++ after) :=
        lexFrom_leaf turns here groups done noComment space other (leaf?_mark mark noComment)
      cases rest with
      | nil => exact ⟨_, _, _, .last c _ _, left, step⟩
      | cons d rest =>
          have breaks' : (∃ c ∈ (d :: rest).getLast?, isLoose c = false) → Breaks after := breaks
          have joint : Lexeme.markChar? (d :: (rest ++ after)) = some (d, rest ++ after) :=
            Lexeme.markChar?_eq_some (isOperator.marks d (by simp)).1
              (isOperator.tail.noComment breaks')
          rw [List.cons_append, joint, Option.isSome_some] at step
          obtain ⟨marks, turns', here', joined, enough', eq⟩ :=
            ih (here.advance [c]) (.mark c true ⟨here, here.after c⟩ :: done) isOperator.tail
              breaks' left
          refine ⟨_, turns', here', .more ⟨here, here.after c⟩ joined, enough', ?_⟩
          rw [List.cons_append, List.cons_append, step, ← List.cons_append, eq]
          simp

/-- A text that lays symbols out is read as tokens that spell them, whatever stands around it. -/
theorem lexFrom_laid {symbols : List Symbol} {text tail : List Char}
    (laid : Laid symbols text tail) (end_ : Begins tail) (enough : text.length ≤ turns) :
    ∃ tokens turns' here', Spells symbols tokens ∧ tail.length ≤ turns' ∧
      lexFrom turns here groups done text =
        lexFrom turns' here' groups (tokens.reverse ++ done) tail := by
  induction laid generalizing turns here groups done with
  | done => exact ⟨[], turns, here, .nil, enough, rfl⟩
  | @blank symbols text tail laid ih =>
      obtain ⟨turns, rfl, left⟩ := exists_turn _ enough
      obtain ⟨here', step⟩ := lexFrom_blank turns here groups done text
      rw [step]
      exact ih here' groups done end_ left
  | @word name text symbols tail isWord plain breaks laid ih =>
      obtain ⟨turns', here', enough', step⟩ :=
        lexFrom_part here groups done isWord.head (leaf?_word isWord breaks) enough
      obtain ⟨tokens, turns'', here'', spells, enough'', eq⟩ := ih here' groups _ end_ enough'
      rw [step, eq]
      exact ⟨_, turns'', here'', .word plain ⟨here, here.advance name.toList⟩ spells, enough'',
        by simp⟩
  | @lifetime name text symbols tail isWord plain breaks laid ih =>
      obtain ⟨turns, rfl, left⟩ := exists_turn _ enough
      have step := lexFrom_leaf turns here groups done (Lexeme.noComment_of_head _ (by decide))
        (by decide) (by decide) (leaf?_lifetime isWord breaks)
      obtain ⟨turns', here', enough', step'⟩ :=
        lexFrom_part (here.advance ['\'']) groups _ isWord.head (leaf?_word isWord breaks) left
      obtain ⟨tokens, turns'', here'', spells, enough'', eq⟩ := ih here' groups _ end_ enough'
      rw [step, step', eq]
      exact ⟨_, turns'', here'', .lifetime plain ⟨here, here.after '\''⟩
        ⟨here.advance ['\''], (here.advance ['\'']).advance name.toList⟩ spells, enough'', by simp⟩
  | @operator text symbols tail spelling isOperator breaks laid ih =>
      obtain ⟨marks, turns', here', joined, enough', eq⟩ :=
        lexFrom_operator here groups done isOperator breaks enough
      obtain ⟨tokens, turns'', here'', spells, enough'', eq'⟩ :=
        ih here' groups (marks.reverse ++ done) end_ enough'
      refine ⟨_, turns'', here'', .operator joined spells, enough'', ?_⟩
      rw [eq, eq']
      simp
  | @literal text symbols tail spelling isLiteral breaks laid ih =>
      have leaf : leaf? here (spelling.toList ++ text) =
          some (.literal spelling ⟨here, here.advance spelling.toList⟩, spelling.toList, text) := by
        rw [leaf?, isLiteral.reads text breaks]
        simp
      obtain ⟨turns', here', enough', step⟩ :=
        lexFrom_part here groups done isLiteral.head leaf enough
      obtain ⟨tokens, turns'', here'', spells, enough'', eq⟩ := ih here' groups _ end_ enough'
      rw [step, eq]
      exact ⟨_, turns'', here'', .literal ⟨here, here.advance spelling.toList⟩ spells, enough'',
        by simp⟩
  | @group delimiter inner text after symbols tail visible inside laid ih ih' =>
      obtain ⟨turns, rfl, left⟩ := exists_turn _ enough
      have close : Begins (delimiter.signs.2 :: after) := by
        cases delimiter with
        | invisible => exact absurd rfl visible
        | paren | bracket | brace => exact begins_of_head _ (by decide) (by decide)
      rw [lexFrom_open turns here groups done visible (inside.begins close).noComment]
      obtain ⟨tokens, turns', here', spells, enough', eq⟩ :=
        ih (here.after delimiter.signs.1) (⟨delimiter, here, done⟩ :: groups) [] close left
      obtain ⟨turns', rfl, left'⟩ := exists_turn _ enough'
      obtain ⟨opening, closing, here'', step⟩ :=
        lexFrom_close turns' here' groups (tokens.reverse ++ []) done here after visible
      obtain ⟨tokens', turns'', last, spells', enough'', eq'⟩ := ih' here'' groups _ end_ left'
      rw [eq, step, eq']
      refine ⟨_, turns'', last, .group visible opening closing spells spells', enough'', ?_⟩
      simp

/-! ### Invisible groups -/

theorem consInvisible_eq (first : Token) (rest : List Token)
    (plain : ∀ span, first ≠ .word ⟨"__group", span⟩) :
    consInvisible first rest = first :: rest := by
  rw [consInvisible]
  intro span _ _ _ _ _ _ eq
  exact absurd eq (plain span)

theorem withInvisibleAll_joined {chars : List Char} {marks : List Token}
    (joined : Joined chars marks) (tokens : List Token) :
    withInvisibleAll (marks ++ tokens) = marks ++ withInvisibleAll tokens := by
  induction joined with
  | last c joint span => exact consInvisible_eq _ _ nofun
  | more span _ ih =>
      rw [List.cons_append, withInvisibleAll, ih]
      exact consInvisible_eq _ _ nofun

/-- No invisible group is spelled by the tokens of symbols. -/
theorem withInvisibleAll_of_spells {symbols : List Symbol} {tokens : List Token}
    (spells : Spells symbols tokens) : withInvisibleAll tokens = tokens := by
  induction spells with
  | nil => rfl
  | word plain span _ ih =>
      rw [withInvisibleAll, ih]
      exact consInvisible_eq _ _ fun span eq => plain (congrArg Name.text (Token.word.inj eq))
  | @lifetime name symbols tokens plain span span' _ ih =>
      have tail := consInvisible_eq (.word ⟨name, span'⟩) tokens
        fun span eq => plain (congrArg Name.text (Token.word.inj eq))
      simp only [withInvisibleAll, withInvisible, ih, tail]
      exact consInvisible_eq _ _ nofun
  | operator joined _ ih => rw [withInvisibleAll_joined joined, ih]
  | literal span _ ih =>
      rw [withInvisibleAll, ih]
      exact consInvisible_eq _ _ nofun
  | group visible opening closing _ _ ih ih' =>
      rw [withInvisibleAll, withInvisible, ih, ih']
      exact consInvisible_eq _ _ nofun

/-- A text that lays out symbols is a token list that spells them. -/
theorem lex_of_laid {symbols : List Symbol} {text : String} (laid : Laid symbols text.toList []) :
    ∃ tokens, lex text = .ok tokens ∧ Spells symbols tokens := by
  have begins : Begins text.toList := laid.begins ⟨⟨by simp, by simp⟩, by simp⟩
  obtain ⟨tokens, turns, here, spells, -, eq⟩ :=
    lexFrom_laid .start [] [] laid ⟨⟨by simp, by simp⟩, by simp⟩ (Nat.le_refl _)
  refine ⟨tokens, ?_, spells⟩
  have read : lexFrom text.toList.length .start [] [] text.toList = .ok tokens := by
    rw [eq]
    simp [lexFrom]
  rw [lex]
  cases chars : text.toList with
  | nil =>
      rw [chars] at read
      simp only [read]
      exact congrArg Except.ok (withInvisibleAll_of_spells spells)
  | cons c rest =>
      rw [chars] at read
      simp only [begins.noOrder c (by simp [chars]), if_false, read]
      exact congrArg Except.ok (withInvisibleAll_of_spells spells)

end Token

end SlotSum
