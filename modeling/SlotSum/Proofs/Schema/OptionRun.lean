import SlotSum.Proofs.Source.Front
import SlotSum.Schema.Options

/-!
The loop that reads a list of options, told without its bound: how each list is read to its end, or
what fault it ends with.
-/

namespace SlotSum

open Token (Look)

theorem optionAt?_eq_some {choices : List String} {tokens rest : List Token} {name : Name}
    (here : Token.front tokens = .word name :: rest) (known : name.text ∈ choices) :
    optionAt? choices tokens = some name.text := by
  rw [optionAt?]
  cases found : choices.find? fun choice => Look.word choice tokens with
  | none =>
      exact absurd (Look.word_eq_true_iff.mpr ⟨name, rest, here, rfl⟩)
        (List.find?_eq_none.mp found _ known)
  | some choice =>
      have word := List.find?_some (p := fun choice => Look.word choice tokens) found
      obtain ⟨other, _, there, rfl⟩ := Look.word_eq_true_iff.mp word
      cases here.symm.trans there
      rfl

theorem optionAt?_eq_none {choices : List String} {tokens : List Token}
    (unknown : ∀ name rest, Token.front tokens = .word name :: rest → name.text ∉ choices) :
    optionAt? choices tokens = none := by
  refine List.find?_eq_none.mpr fun choice member there => ?_
  obtain ⟨name, rest, here, rfl⟩ := Look.word_eq_true_iff.mp there
  exact unknown name rest here member

/-- The words that may stand here, as they are listed in a message. -/
def quoted (choices : List String) : List String := choices.map fun choice => "`" ++ choice ++ "`"

/-- How a list of options is read: a word that is known and has not been `seen`, a comma, and so on
to the end. -/
inductive OptionRun (choices : List String) :
    List String → List Token → Except Fault (List Name) → Prop
  | ended : OptionRun choices seen [] (.ok [])
  | unknown (unknown : ∀ name rest', Token.front (first :: rest) = .word name :: rest' →
      name.text ∉ choices) :
      OptionRun choices seen (first :: rest)
        (.error ⟨.expected (quoted choices), false, first.opening⟩)
  | repeated (here : Token.front tokens = .word name :: rest) (known : name.text ∈ choices)
      (already : name.text ∈ seen) :
      OptionRun choices seen tokens (.error ⟨.repeated name.text, false, name.span⟩)
  | last (here : Token.front tokens = [.word name]) (known : name.text ∈ choices)
      (fresh : name.text ∉ seen) : OptionRun choices seen tokens (.ok [name])
  | missing (here : Token.front tokens = .word name :: first :: rest) (known : name.text ∈ choices)
      (fresh : name.text ∉ seen)
      (missing : ∀ joint span rest', Token.front (first :: rest) ≠ .mark ',' joint span :: rest') :
      OptionRun choices seen tokens (.error ⟨.expected ["`,`"], false, first.opening⟩)
  | more (here : Token.front tokens = .word name :: next) (known : name.text ∈ choices)
      (fresh : name.text ∉ seen) (comma : Token.front next = .mark ',' joint span :: rest)
      (later : OptionRun choices (name.text :: seen) rest (.ok names)) :
      OptionRun choices seen tokens (.ok (name :: names))
  | stuck (here : Token.front tokens = .word name :: next) (known : name.text ∈ choices)
      (fresh : name.text ∉ seen) (comma : Token.front next = .mark ',' joint span :: rest)
      (later : OptionRun choices (name.text :: seen) rest (.error fault)) :
      OptionRun choices seen tokens (.error fault)

section

variable {choices seen : List String} {turns : Nat} {first : Token} {rest : List Token}
  {scope last : Span}

/-- What is done behind a word that is known: the end of the list, or a comma and another turn. -/
def behindWord (choices seen : List String) (turns : Nat) (choice : String) (name : Name) :
    Parse (List Name) := do
  if seen.contains choice then
    throw ⟨.repeated choice, false, name.span⟩
  if ← Parse.isEmpty then return [name]
  Parse.mark ","
  return name :: (← optionWordsLoop choices (choice :: seen) turns)

theorem optionWordsLoop_cons :
    optionWordsLoop choices seen (turns + 1) ⟨first :: rest, scope, last⟩ =
      (match optionAt? choices (first :: rest) with
        | none => Parse.fail (.expected (quoted choices))
        | some choice => Parse.word choice >>= behindWord choices seen turns choice)
      ⟨first :: rest, scope, last⟩ := rfl

theorem optionWordsLoop_unknown
    (unknown : ∀ name rest', Token.front (first :: rest) = .word name :: rest' →
      name.text ∉ choices) :
    optionWordsLoop choices seen (turns + 1) ⟨first :: rest, scope, last⟩ =
      .error ⟨.expected (quoted choices), false, first.opening⟩ := by
  rw [optionWordsLoop_cons, optionAt?_eq_none unknown]
  rfl

theorem optionWordsLoop_known {name : Name} {next : List Token}
    (here : Token.front (first :: rest) = .word name :: next) (known : name.text ∈ choices) :
    optionWordsLoop choices seen (turns + 1) ⟨first :: rest, scope, last⟩ =
      behindWord choices seen turns name.text name ⟨next, scope, name.span⟩ := by
  rw [optionWordsLoop_cons, optionAt?_eq_some here known]
  have taken : Parse.word name.text ⟨first :: rest, scope, last⟩ =
      .ok (name, ⟨next, scope, name.span⟩) := Parse.word_ok here
  exact Parse.bind_ok taken

end

section

variable {choices seen : List String} {turns : Nat} {name : Name} {cursor : Cursor}

theorem behindWord_repeated (already : name.text ∈ seen) :
    behindWord choices seen turns name.text name cursor =
      .error ⟨.repeated name.text, false, name.span⟩ := by
  have contains : seen.contains name.text = true := List.contains_iff_mem.mpr already
  simp only [behindWord, contains, if_true]
  rfl

theorem behindWord_fresh (fresh : name.text ∉ seen) :
    behindWord choices seen turns name.text name cursor =
      if cursor.tokens.isEmpty then .ok ([name], cursor)
      else (do
        Parse.mark ","
        return name :: (← optionWordsLoop choices (name.text :: seen) turns)) cursor := by
  have contains : seen.contains name.text = false := by simpa using fresh
  have asked : Parse.isEmpty cursor = .ok (cursor.tokens.isEmpty, cursor) := rfl
  simp only [behindWord, contains, Bool.false_eq_true, if_false]
  refine (Parse.bind_ok asked).trans ?_
  split <;> rfl

end

/-- A result comes of a run. If there are words, the list has been read to its end. -/
inductive Ran (choices seen : List String) (tokens : List Token) :
    Except Fault (List Name × Cursor) → Prop
  | read (run : OptionRun choices seen tokens (.ok names)) (left : after.tokens = []) :
      Ran choices seen tokens (.ok (names, after))
  | failed (run : OptionRun choices seen tokens (.error fault)) :
      Ran choices seen tokens (.error fault)

theorem ran_behindWord {choices seen : List String} {turns : Nat} {name : Name}
    {tokens next : List Token} {scope : Span} (here : Token.front tokens = .word name :: next)
    (known : name.text ∈ choices)
    (later : ∀ joint span rest, Token.front next = .mark ',' joint span :: rest →
      Ran choices (name.text :: seen) rest
        (optionWordsLoop choices (name.text :: seen) turns ⟨rest, scope, span⟩)) :
    Ran choices seen tokens
      (behindWord choices seen turns name.text name ⟨next, scope, name.span⟩) := by
  by_cases already : name.text ∈ seen
  · rw [behindWord_repeated already]
    exact .failed (.repeated here known already)
  rw [behindWord_fresh already]
  cases next with
  | nil => exact .read (.last here known already) rfl
  | cons first rest =>
      rw [if_neg (by simp)]
      by_cases comma : ∃ joint span rest',
          Token.front (first :: rest) = .mark ',' joint span :: rest'
      · obtain ⟨joint, span, rest', comma⟩ := comma
        rw [Parse.bind_ok (Parse.comma_ok comma)]
        have ran := later joint span rest' comma
        generalize found : optionWordsLoop choices (name.text :: seen) turns ⟨rest', scope, span⟩ =
          result at ran
        cases ran with
        | read run left =>
            rw [Parse.bind_ok found]
            exact .read (.more here known already comma run) left
        | failed run =>
            rw [Parse.bind_error found]
            exact .failed (.stuck here known already comma run)
      · have missing joint span rest' :
            Token.front (first :: rest) ≠ .mark ',' joint span :: rest' :=
          fun there => comma ⟨joint, span, rest', there⟩
        rw [Parse.bind_error (Parse.comma_error missing)]
        exact .failed (.missing here known already missing)

/-- The loop reads a list in this way. -/
theorem ran_optionWordsLoop {choices seen : List String} {turns : Nat} {cursor : Cursor}
    (enough : Token.sizes cursor.tokens < turns) :
    Ran choices seen cursor.tokens (optionWordsLoop choices seen turns cursor) := by
  induction turns generalizing seen cursor with
  | zero => exact absurd enough (Nat.not_lt_zero _)
  | succ turns ih =>
      obtain ⟨tokens, scope, last⟩ := cursor
      cases tokens with
      | nil => exact .read .ended rfl
      | cons first rest =>
          by_cases word : ∃ name next, Token.front (first :: rest) = .word name :: next ∧
              name.text ∈ choices
          · obtain ⟨name, next, here, known⟩ := word
            rw [optionWordsLoop_known here known]
            refine ran_behindWord here known fun joint span rest' comma => ?_
            have fewer :=
              Nat.lt_trans (Token.sizes_lt_of_front comma) (Token.sizes_lt_of_front here)
            exact @ih _ ⟨rest', scope, span⟩ (Nat.lt_of_lt_of_le fewer (Nat.le_of_lt_succ enough))
          · have unknown name rest' (here : Token.front (first :: rest) = .word name :: rest') :
                name.text ∉ choices := fun member => word ⟨name, rest', here, member⟩
            rw [optionWordsLoop_unknown unknown]
            exact .failed (.unknown unknown)

end SlotSum
