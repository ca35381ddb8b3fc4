import SlotSum.Proofs.Token.Symbol

/-!
Shown texts. What a type is shown by still lays out the symbols that it prints, but for its literals:
they are tightened like everything else.
-/

namespace SlotSum

open Ty (isLoose Breaks tighten Tightening)

/-- A literal that stays one when it is tightened. -/
structure IsShowable (literal : List Char) : Prop where
  first : ∀ c ∈ literal.head?, isLoose c = false
  last : ∀ c ∈ literal.getLast?, isLoose c = false
  isLiteral : IsLiteral (tighten literal)

namespace Symbol

mutual

def tightened : Symbol → Symbol
  | word name => word name
  | lifetime name => lifetime name
  | operator text => operator text
  | literal text => literal (String.ofList (tighten text.toList))
  | group delimiter inner => group delimiter (tightenedAll inner)

def tightenedAll : List Symbol → List Symbol
  | [] => []
  | first :: rest => first.tightened :: tightenedAll rest

end

theorem joint_tree (symbol : Symbol) : symbol.tree.joint = false := by
  cases symbol <;> rfl

end Symbol

/-- The leaves of the symbols are what they are taken for, and no group is invisible. -/
inductive AreShowable : List Symbol → Prop
  | nil : AreShowable []
  | word (isWord : IsWord name.toList) (plain : name ≠ "__group") (rest : AreShowable symbols) :
      AreShowable (.word name :: symbols)
  | lifetime (isWord : IsWord name.toList) (plain : name ≠ "__group") (rest : AreShowable symbols) :
      AreShowable (.lifetime name :: symbols)
  | operator (isOperator : IsOperator text.toList) (rest : AreShowable symbols) :
      AreShowable (.operator text :: symbols)
  | literal (isShowable : IsShowable text.toList) (rest : AreShowable symbols) :
      AreShowable (.literal text :: symbols)
  | group (visible : delimiter ≠ .invisible) (inside : AreShowable contents)
      (rest : AreShowable symbols) : AreShowable (.group delimiter contents :: symbols)

/-! ### Firm leaves -/

theorem isLoose_of_part {c : Char} (part : Text.isIdentifierPart c = true) : isLoose c = false := by
  cases loose : isLoose c with
  | false => rfl
  | true =>
      rw [(isLoose_apart loose).1] at part
      cases part

theorem IsWord.firm {word : List Char} (isWord : IsWord word) : ∀ c ∈ word, isLoose c = false := by
  intro c member
  rcases isWord.part c member with part | rfl
  · exact isLoose_of_part part
  · decide

theorem IsWord.exists_last {word : List Char} (isWord : IsWord word) :
    ∃ c ∈ word.getLast?, isLoose c = false := by
  obtain ⟨c, rest, eq, -⟩ := isWord.cases_head
  have last := List.getLast?_eq_some_getLast (l := word) (by simp [eq])
  exact ⟨_, last, isWord.firm _ (List.getLast_mem _)⟩

theorem not_mem_of_firm {text : List Char} (firm : ∀ c ∈ text, isLoose c = false) : ' ' ∉ text :=
  fun member => absurd (firm ' ' member) (by decide)

theorem IsOperator.unspaced {text : List Char} (isOperator : IsOperator text) : ' ' ∉ text :=
  fun member => absurd (isOperator.marks ' ' member).1 (by decide)

theorem fresh_of_last {part : List Char} {fresh : Bool}
    (last : ∃ c ∈ part.getLast?, isLoose c = false) :
    part.foldl (fun _ c => !isLoose c) fresh = true := by
  obtain ⟨c, member, firm⟩ := last
  obtain ⟨before, rfl⟩ := List.getLast?_eq_some_iff.mp member
  simp [firm]

/-! ### Laying out -/

/-- Spaces may stand at the end as well. -/
theorem Laid.untail {symbols : List Symbol} {text tail : List Char}
    (laid : Laid symbols text (' ' :: tail)) : Laid symbols text tail := by
  generalize eq : ' ' :: tail = tail' at laid
  induction laid with
  | done =>
      subst eq
      exact .blank (.done tail)
  | blank _ ih => exact .blank (ih eq)
  | word isWord plain breaks _ ih => exact .word isWord plain breaks (ih eq)
  | lifetime isWord plain breaks _ ih => exact .lifetime isWord plain breaks (ih eq)
  | operator isOperator breaks _ ih => exact .operator isOperator breaks (ih eq)
  | literal isLiteral breaks _ ih => exact .literal isLiteral breaks (ih eq)
  | group visible inside _ _ ih => exact .group visible inside (ih eq)

namespace Symbol

/-- What follows the first of several symbols where they print. -/
def behind (first : Symbol) (rest : List Symbol) (tail : List Char) : List Char :=
  (Tree.gap first.tree (trees rest) ++ Tree.renderAll (trees rest)).toList ++ tail

theorem behind_nil (first : Symbol) (tail : List Char) : first.behind [] tail = tail := by
  simp [behind, trees, Tree.gap, Tree.renderAll]

theorem behind_cons (first second : Symbol) (rest : List Symbol) (tail : List Char) :
    first.behind (second :: rest) tail =
      ' ' :: ((Tree.renderAll (trees (second :: rest))).toList ++ tail) := by
  simp [behind, trees, Tree.gap, joint_tree]

theorem renderAll_cons (first : Symbol) (rest : List Symbol) (tail : List Char) :
    (Tree.renderAll (trees (first :: rest))).toList ++ tail =
      first.tree.render.toList ++ first.behind rest tail := by
  simp [behind, trees, Tree.renderAll]

theorem render_word (name : String) : (word name).tree.render = name := by
  rw [tree, Tree.render]

theorem render_lifetime (name : String) : (lifetime name).tree.render = "'" ++ name := by
  rw [tree, Tree.render]

theorem render_operator (text : String) : (operator text).tree.render = text := by
  rw [tree, Tree.render]

theorem render_literal (text : String) : (literal text).tree.render = text := by
  rw [tree, Tree.render]

theorem breaks_behind {first : Symbol} {rest : List Symbol} {tail : List Char}
    (stops : Breaks tail) : Breaks (first.behind rest tail) := by
  cases rest with
  | nil => rwa [behind_nil]
  | cons second rest =>
      rw [behind_cons]
      intro c member
      obtain rfl : ' ' = c := by simpa using member
      decide

/-- The space between two symbols may be there or not. -/
theorem laid_behind {first : Symbol} {rest shown : List Symbol} {tail tight : List Char}
    {fresh : Bool} (between : Tightening fresh (first.behind rest tail) tight)
    (next : ∀ {fresh tight},
      Tightening fresh ((Tree.renderAll (trees rest)).toList ++ tail) tight →
        ∃ tail' fresh', Laid shown tight tail' ∧ Tightening fresh' tail tail') :
    ∃ tail' fresh', Laid shown tight tail' ∧ Tightening fresh' tail tail' := by
  cases rest with
  | nil =>
      rw [behind_nil] at between
      exact next (by simpa [trees, Tree.renderAll] using between)
  | cons second rest =>
      rw [behind_cons] at between
      rcases between.blank with ⟨tight', rfl, left⟩ | left
      · obtain ⟨tail', fresh', laid, left'⟩ := next left
        exact ⟨tail', fresh', .blank laid, left'⟩
      · exact next left

/-- A group whose contents are laid out. -/
theorem laid_group {delimiter : Delimiter} {inner shown : List Symbol} {after tight : List Char}
    {fresh : Bool} (visible : delimiter ≠ .invisible)
    (contents : ∀ {tail tight : List Char} {fresh : Bool}, Breaks tail →
      Tightening fresh ((Tree.renderAll (trees inner)).toList ++ tail) tight →
        ∃ tail' fresh', Laid shown tight tail' ∧ Tightening fresh' tail tail')
    (between : Tightening fresh ((group delimiter inner).tree.render.toList ++ after) tight) :
    ∃ tight' fresh', (∀ {symbols tail}, Laid symbols tight' tail →
        Laid (.group delimiter shown :: symbols) tight tail) ∧ Tightening fresh' after tight' := by
  have plain (signs : Char × Char) (own : signs = delimiter.signs)
      (loose : isLoose signs.1 = true ∧ isLoose signs.2 = true ∧ signs.1 ≠ ' ' ∧ signs.2 ≠ ' ')
      (text : (group delimiter inner).tree.render.toList ++ after =
        signs.1 :: ((Tree.renderAll (trees inner)).toList ++ signs.2 :: after)) :
      ∃ tight' fresh', (∀ {symbols tail}, Laid symbols tight' tail →
        Laid (.group delimiter shown :: symbols) tight tail) ∧ Tightening fresh' after tight' := by
    subst own
    rw [text] at between
    obtain ⟨tight, rfl, inside⟩ := between.mark loose.1 loose.2.2.1
    obtain ⟨tail', _, laid, close⟩ := contents (by simpa [Breaks] using loose.2.1) inside
    obtain ⟨tight', rfl, next⟩ := close.mark loose.2.1 loose.2.2.2
    exact ⟨tight', _, fun rest => .group visible laid rest, next⟩
  cases delimiter with
  | invisible => exact absurd rfl visible
  | paren => exact plain ('(', ')') rfl (by decide) (by simp [tree, Tree.render, Tree.enclose])
  | bracket => exact plain ('[', ']') rfl (by decide) (by simp [tree, Tree.render, Tree.enclose])
  | brace =>
      have open_ : ∃ text, (group .brace inner).tree.render.toList ++ after = ['\x7b'] ++ text ∧
          (text = ' ' :: ((Tree.renderAll (trees inner)).toList ++ (' ' :: '\x7d' :: after)) ∨
            text = (Tree.renderAll (trees inner)).toList ++ (' ' :: '\x7d' :: after)) := by
        cases inner with
        | nil =>
            exact ⟨' ' :: '\x7d' :: after, by simp [tree, trees, Tree.render, Tree.enclose],
              .inr (by simp [trees, Tree.renderAll])⟩
        | cons first rest =>
            exact ⟨_, by simp [tree, trees, Tree.render, Tree.enclose], .inl rfl⟩
      obtain ⟨text, eq, spaced⟩ := open_
      rw [eq] at between
      obtain ⟨tight, rfl, inside⟩ := between.keep _ (by simp)
      obtain ⟨tail', fresh', laid, close⟩ : ∃ tail' fresh', Laid shown tight tail' ∧
          Tightening fresh' (' ' :: '\x7d' :: after) tail' := by
        have stops : Breaks (' ' :: '\x7d' :: after) := by simp [Breaks]; decide
        rcases spaced with rfl | rfl
        · rcases inside.blank with ⟨tight', rfl, left⟩ | left
          · obtain ⟨tail', fresh', laid, close⟩ := contents stops left
            exact ⟨tail', fresh', .blank laid, close⟩
          · exact contents stops left
        · exact contents stops inside
      have sign {fresh : Bool} {tail : List Char} (close : Tightening fresh ('\x7d' :: after) tail) :=
        close.keep ['\x7d'] (by simp)
      rcases close.blank with ⟨tail'', rfl, left⟩ | left
      · obtain ⟨tight', rfl, next⟩ := sign left
        exact ⟨tight', _, fun rest => .group visible laid.untail rest, next⟩
      · obtain ⟨tight', rfl, next⟩ := sign left
        exact ⟨tight', _, fun rest => .group visible laid rest, next⟩

theorem laid_tightened {symbols : List Symbol} (showable : AreShowable symbols)
    {tail tight : List Char} {fresh : Bool} (stops : Breaks tail)
    (between : Tightening fresh ((Tree.renderAll (trees symbols)).toList ++ tail) tight) :
    ∃ tail' fresh', Laid (tightenedAll symbols) tight tail' ∧ Tightening fresh' tail tail' := by
  induction showable generalizing fresh tail tight with
  | nil =>
      exact ⟨tight, fresh, .done tight, by simpa [trees, Tree.renderAll] using between⟩
  | @word name rest isWord plain _ ih =>
      rw [renderAll_cons, render_word] at between
      obtain ⟨tight, rfl, next⟩ := between.keep _ (not_mem_of_firm isWord.firm)
      have breaks : Breaks tight := by
        rw [fresh_of_last isWord.exists_last] at next
        exact next.breaks (breaks_behind stops)
      obtain ⟨tail', fresh', laid, left⟩ := laid_behind next (ih stops)
      exact ⟨tail', fresh', .word isWord plain breaks laid, left⟩
  | @lifetime name rest isWord plain _ ih =>
      rw [renderAll_cons, render_lifetime, String.toList_append] at between
      have unspaced : ' ' ∉ "'".toList ++ name.toList := by
        simp [not_mem_of_firm isWord.firm]
      obtain ⟨tight, rfl, next⟩ := between.keep _ unspaced
      have breaks : Breaks tight := by
        rw [List.foldl_append, fresh_of_last isWord.exists_last] at next
        exact next.breaks (breaks_behind stops)
      obtain ⟨tail', fresh', laid, left⟩ := laid_behind next (ih stops)
      exact ⟨tail', fresh', .lifetime isWord plain breaks laid, left⟩
  | @operator rest text isOperator _ ih =>
      rw [renderAll_cons, render_operator] at between
      obtain ⟨tight, rfl, next⟩ := between.keep _ isOperator.unspaced
      have breaks (last : ∃ c ∈ text.toList.getLast?, isLoose c = false) : Breaks tight := by
        rw [fresh_of_last last] at next
        exact next.breaks (breaks_behind stops)
      obtain ⟨tail', fresh', laid, left⟩ := laid_behind next (ih stops)
      exact ⟨tail', fresh', .operator isOperator breaks laid, left⟩
  | @literal rest text isShowable _ ih =>
      rw [renderAll_cons, render_literal] at between
      have some_ : text.toList ≠ [] := by
        intro none_
        obtain ⟨c, rest, eq, -⟩ := isShowable.isLiteral.begins
        rw [none_, Ty.tighten_nil] at eq
        cases eq
      obtain ⟨tight, eq, next⟩ := between.firm _ isShowable.first isShowable.last some_
      rw [eq]
      obtain ⟨tail', fresh', laid, left⟩ := laid_behind next (ih stops)
      have isLiteral : IsLiteral (String.ofList (tighten text.toList)).toList := by
        rw [String.toList_ofList]
        exact isShowable.isLiteral
      have whole := Laid.literal isLiteral (next.breaks (breaks_behind stops)) laid
      rw [String.toList_ofList] at whole
      exact ⟨tail', fresh', whole, left⟩
  | @group delimiter inner rest visible _ _ ih ih' =>
      rw [renderAll_cons] at between
      obtain ⟨tight', fresh', inside, next⟩ := laid_group visible ih between
      obtain ⟨tail', fresh', laid, left⟩ := laid_behind next (ih' stops)
      exact ⟨tail', fresh', inside laid, left⟩

end Symbol

/-- What a type is shown by is a token list, which spells the symbols that the type prints with their
literals tightened. -/
theorem Ty.lex_display {type : Ty} {symbols : List Symbol} (showable : AreShowable symbols)
    (prints : type.bare.trees = Symbol.trees symbols) :
    ∃ tokens, Token.lex type.display = .ok tokens ∧
      Spells (Symbol.tightenedAll symbols) tokens := by
  have between := Tightening.begin_ type.key.toList
  have key : type.key.toList = (Tree.renderAll (Symbol.trees symbols)).toList ++ [] := by
    rw [List.append_nil, Ty.key, Ty.text, prints]
  rw [key] at between
  obtain ⟨tail, fresh, laid, left⟩ := Symbol.laid_tightened showable (by simp [Breaks]) between
  rw [left.nil, ← key] at laid
  exact Token.lex_of_laid (by rwa [Ty.display_eq, String.toList_ofList])

end SlotSum
