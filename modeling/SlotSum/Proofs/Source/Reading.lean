import Mathlib.Data.List.Forall2
import SlotSum.Proofs.Source.Taking

/-!
Symbols that productions read. A production reads symbols if it takes the tokens that spell them, at
every level of the grammar that has room for so many tokens. Lists of symbols are read by the loops,
part by part.
-/

namespace SlotSum

open Token (Look)
open Parse

/-! ### Spelled symbols -/

theorem Spells.of_append {before after : List Symbol} {tokens : List Token}
    (spells : Spells (before ++ after) tokens) :
    ∃ first second, tokens = first ++ second ∧ Spells before first ∧ Spells after second := by
  induction before generalizing tokens with
  | nil => exact ⟨[], tokens, rfl, .nil, spells⟩
  | cons symbol before ih =>
      cases spells with
      | word plain span rest =>
          obtain ⟨first, second, rfl, spells, spells'⟩ := ih rest
          exact ⟨_ :: first, second, rfl, .word plain span spells, spells'⟩
      | lifetime plain span span' rest =>
          obtain ⟨first, second, rfl, spells, spells'⟩ := ih rest
          exact ⟨_ :: _ :: first, second, rfl, .lifetime plain span span' spells, spells'⟩
      | operator joined rest =>
          obtain ⟨first, second, rfl, spells, spells'⟩ := ih rest
          exact ⟨_ ++ first, second, (List.append_assoc ..).symm, .operator joined spells, spells'⟩
      | literal span rest =>
          obtain ⟨first, second, rfl, spells, spells'⟩ := ih rest
          exact ⟨_ :: first, second, rfl, .literal span spells, spells'⟩
      | group visible opening closing inside rest =>
          obtain ⟨first, second, rfl, spells, spells'⟩ := ih rest
          exact ⟨_ :: first, second, rfl, .group visible opening closing inside spells, spells'⟩

theorem Spells.of_operator {text : String} {symbols : List Symbol} {tokens : List Token}
    (spells : Spells (.operator text :: symbols) tokens) :
    ∃ marks rest, tokens = marks ++ rest ∧ Joined text.toList marks ∧ Spells symbols rest := by
  cases spells with
  | operator joined rest => exact ⟨_, _, rfl, joined, rest⟩

theorem Joined.sizes {chars : List Char} {marks : List Token} (joined : Joined chars marks) :
    Token.sizes marks = chars.length := by
  induction joined with
  | last => rfl
  | more _ _ ih => simp [Token.sizes, Token.size, ih, Nat.add_comm]

theorem Joined.some_ {chars : List Char} {marks : List Token} (joined : Joined chars marks) :
    0 < chars.length := by
  cases joined <;> simp

theorem Joined.head {chars : List Char} {marks : List Token} (joined : Joined chars marks) :
    ∃ c joint span rest, marks = .mark c joint span :: rest := by
  cases joined <;> exact ⟨_, _, _, _, rfl⟩

/-- Symbols that there are take up tokens. -/
theorem Spells.some_ {symbols : List Symbol} {tokens : List Token} (spells : Spells symbols tokens)
    (some_ : symbols ≠ []) : 0 < Token.sizes tokens := by
  cases spells with
  | nil => exact absurd rfl some_
  | operator joined _ =>
      have := joined.some_
      rw [Token.sizes_append, joined.sizes]
      omega
  | word | lifetime | literal | group =>
      simp only [Token.sizes, Token.size]
      omega

theorem joined_one {c : Char} {marks : List Token} (joined : Joined [c] marks) :
    ∃ joint span, marks = [.mark c joint span] := by
  cases joined with
  | last _ joint span => exact ⟨joint, span, rfl⟩

theorem joined_two {c d : Char} {marks : List Token} (joined : Joined [c, d] marks) :
    ∃ span joint span', marks = [.mark c true span, .mark d joint span'] := by
  cases joined with
  | more span rest =>
      obtain ⟨joint, span', rfl⟩ := joined_one rest
      exact ⟨span, joint, span', rfl⟩

/-! ### Lists -/

section

variable {comma : List α} {trailing : Bool} {first second : List α} {rest : List (List α)}

@[simp] theorem listed_nil : listed comma trailing [] = [] := rfl

@[simp] theorem listed_one :
    listed comma trailing [first] = first ++ if trailing then comma else [] := by
  simp [listed, withCommas, settle]

/-- A separator behind the first of several parts, or behind the only one. -/
theorem listed_separated (more : rest ≠ [] ∨ trailing = true) :
    listed comma trailing (first :: rest) = first ++ (comma ++ listed comma trailing rest) := by
  cases rest with
  | nil =>
      have trailing_ : trailing = true := more.resolve_left (absurd rfl)
      simp [trailing_]
  | cons second rest => simp [listed, withCommas, settle]

/-- An empty list has nothing at its end. -/
theorem listed_some (comma : List α) (trailing : Bool) (parts : List (List α)) :
    listed comma (trailing && !parts.isEmpty) parts = listed comma trailing parts := by
  cases parts with
  | nil => rfl
  | cons first rest => simp

@[simp] theorem listed_cons : listed comma trailing (first :: second :: rest) =
    first ++ (comma ++ listed comma trailing (second :: rest)) := by
  simp [listed, withCommas, settle]

/-- A list begins with its first part. -/
theorem exists_listed (comma : List α) (trailing : Bool) (first : List α) (rest : List (List α)) :
    ∃ tail, listed comma trailing (first :: rest) = first ++ tail := by
  cases rest with
  | nil => exact ⟨_, listed_one⟩
  | cons second rest => exact ⟨_, listed_cons⟩

end

theorem Symbol.trees_listed (operator : String) (trailing : Bool) (parts : List (List Symbol)) :
    Symbol.trees (listed [.operator operator] trailing parts) =
      listed [.leaf operator false] trailing (parts.map Symbol.trees) := by
  induction parts with
  | nil => rfl
  | cons first rest ih =>
      cases rest with
      | nil => cases trailing <;> simp [Symbol.trees_append, Symbol.trees, Symbol.tree]
      | cons second rest => simpa [Symbol.trees_append, Symbol.trees, Symbol.tree] using ih

/-! ### Loops -/

section

variable {element : Parse α} {stop : Parse Bool} {asks : List Token → Bool}
  {follows : List Token → Prop} {good : List Symbol → α → Prop} {bound : Nat}
  {parts : List (List Symbol)} {trailing : Bool} {tokens rest : List Token} {separator : String}

/-- What a loop over separated parts needs of each of them. -/
structure PartsRead (element : Parse α) (asks : List Token → Bool) (follows : List Token → Prop)
    (good : List Symbol → α → Prop) (bound : Nat) (separator : String)
    (parts : List (List Symbol)) : Prop where
  each : ∀ part ∈ parts, ∀ tokens rest, Spells part tokens → Token.sizes tokens ≤ bound →
    follows rest → asks (tokens ++ rest) = false ∧
      ∃ value, good part value ∧ Takes element (tokens ++ rest) rest value
  separated : ∀ marks rest, Joined separator.toList marks →
    asks (marks ++ rest) = false ∧ follows (marks ++ rest)
  plain : '\'' ∉ separator.toList

theorem PartsRead.tail {first : List Symbol} {rest : List (List Symbol)}
    (read : PartsRead element asks follows good bound separator (first :: rest)) :
    PartsRead element asks follows good bound separator rest :=
  ⟨fun part member => read.each part (List.mem_cons_of_mem first member), read.separated, read.plain⟩

theorem takes_separatedLoop (turns : Nat)
    (asked : ∀ tokens, Takes stop tokens tokens (asks tokens))
    (read : PartsRead element asks follows good bound separator parts)
    (ends : asks rest = true) (follows_ : follows rest)
    (spells : Spells (listed [.operator separator] trailing parts) tokens)
    (size : Token.sizes tokens ≤ bound) (enough : Token.sizes tokens < turns) :
    ∃ values, List.Forall₂ good parts values ∧
      Takes (separatedLoop (mark separator) stop element turns) (tokens ++ rest) rest
        ⟨values, parts.isEmpty || trailing⟩ := by
  induction parts generalizing tokens turns with
  | nil =>
      cases spells
      obtain ⟨turns, rfl⟩ : ∃ before, turns = before + 1 := ⟨turns - 1, by omega⟩
      refine ⟨[], .nil, ?_⟩
      rw [separatedLoop]
      refine (asked rest).bind ?_
      rw [ends]
      exact takes_pure _ _
  | cons first others ih =>
      obtain ⟨turns, rfl⟩ : ∃ before, turns = before + 1 := ⟨turns - 1, by omega⟩
      rw [separatedLoop]
      by_cases more : others ≠ [] ∨ trailing = true
      · rw [listed_separated more] at spells
        obtain ⟨before, after, rfl, own, spells⟩ := spells.of_append
        obtain ⟨marks, after, rfl, joined, spells⟩ := spells.of_operator
        have left : Token.sizes (before ++ (marks ++ after)) =
            Token.sizes before + (separator.toList.length + Token.sizes after) := by
          rw [Token.sizes_append, Token.sizes_append, joined.sizes]
        have some_ := joined.some_
        obtain ⟨here, next⟩ := read.separated marks (after ++ rest) joined
        obtain ⟨starts, value, good_, taken⟩ :=
          read.each first List.mem_cons_self before (marks ++ (after ++ rest)) own (by omega) next
        obtain ⟨values, goods, taken'⟩ := ih turns read.tail spells (by omega) (by omega)
        refine ⟨value :: values, .cons good_ goods, ?_⟩
        simp only [List.append_assoc]
        refine (asked _).bind ?_
        rw [starts]
        refine taken.bind ((asked _).bind ?_)
        rw [here]
        refine (takes_mark joined read.plain).bind (taken'.bind ?_)
        have settled : (others.isEmpty || trailing) = trailing := by
          rcases more with more | rfl
          · simp [more]
          · simp
        rw [settled]
        exact takes_pure _ _
      · obtain ⟨rfl, rfl⟩ : others = [] ∧ trailing = false := by simpa using more
        obtain ⟨starts, value, good_, taken⟩ :=
          read.each first List.mem_cons_self tokens rest (by simpa using spells) size follows_
        refine ⟨[value], .cons good_ .nil, (asked _).bind ?_⟩
        rw [starts]
        refine taken.bind ((asked _).bind ?_)
        rw [ends]
        exact takes_pure _ _

/-- Parts up to where a question is answered with yes. -/
theorem takes_separatedUntil (rest : List Token)
    (asked : ∀ tokens, Takes stop tokens tokens (asks tokens))
    (read : PartsRead element asks follows good bound separator parts)
    (ends : asks rest = true) (follows_ : follows rest)
    (spells : Spells (listed [.operator separator] trailing parts) tokens)
    (size : Token.sizes tokens ≤ bound) :
    ∃ values, List.Forall₂ good parts values ∧
      Takes (separatedUntil separator stop element) (tokens ++ rest) rest
        ⟨values, trailing && !parts.isEmpty⟩ := by
  have enough : Token.sizes tokens < Token.sizes (tokens ++ rest) + 1 := by
    rw [Token.sizes_append]
    omega
  obtain ⟨values, goods, taken⟩ :=
    takes_separatedLoop _ asked read ends follows_ spells size enough
  refine ⟨values, goods, ?_⟩
  rw [separatedUntil, takes_budget_bind]
  refine taken.bind ?_
  have none_ : values.isEmpty = parts.isEmpty := by cases goods <;> rfl
  have trailing_ : ((parts.isEmpty || trailing) && !values.isEmpty) =
      (trailing && !parts.isEmpty) := by
    rw [none_]
    cases parts.isEmpty <;> simp
  rw [trailing_]
  exact takes_pure _ _

/-- A loop over parts that each begin with what the loop looks for. -/
theorem takes_whileLoop {goOn : Parse Bool} (turns : Nat)
    (asked : ∀ tokens, Takes goOn tokens tokens (asks tokens))
    (some_ : ∀ part ∈ parts, part ≠ [])
    (each : ∀ part ∈ parts, ∀ tokens rest, Spells part tokens → Token.sizes tokens ≤ bound →
      follows rest → asks (tokens ++ rest) = true ∧ follows (tokens ++ rest) ∧
        ∃ value, good part value ∧ Takes element (tokens ++ rest) rest value)
    (ends : asks rest = false) (follows_ : follows rest) (spells : Spells parts.flatten tokens)
    (size : Token.sizes tokens ≤ bound) (enough : Token.sizes tokens < turns) :
    ∃ values, List.Forall₂ good parts values ∧ follows (tokens ++ rest) ∧
      Takes (whileLoop goOn element turns) (tokens ++ rest) rest values := by
  induction parts generalizing tokens turns with
  | nil =>
      cases spells
      obtain ⟨turns, rfl⟩ : ∃ before, turns = before + 1 := ⟨turns - 1, by omega⟩
      refine ⟨[], .nil, follows_, ?_⟩
      rw [whileLoop]
      refine (asked rest).bind ?_
      rw [ends]
      exact takes_pure _ _
  | cons first others ih =>
      obtain ⟨turns, rfl⟩ : ∃ before, turns = before + 1 := ⟨turns - 1, by omega⟩
      obtain ⟨before, after, rfl, own, spells⟩ := spells.of_append
      have used := own.some_ (some_ first List.mem_cons_self)
      rw [Token.sizes_append] at size enough
      obtain ⟨values, goods, next, taken'⟩ :=
        ih turns (fun part member => some_ part (List.mem_cons_of_mem first member))
          (fun part member => each part (List.mem_cons_of_mem first member)) spells (by omega)
          (by omega)
      obtain ⟨starts, follows', value, good_, taken⟩ :=
        each first List.mem_cons_self before (after ++ rest) own (by omega) next
      rw [List.append_assoc]
      refine ⟨value :: values, .cons good_ goods, follows', ?_⟩
      rw [whileLoop]
      refine (asked _).bind ?_
      rw [starts]
      exact taken.bind (taken'.bind (takes_pure _ _))

/-- A chain of parts that ends where no separator follows. -/
theorem takes_chainLoop (turns : Nat)
    (asked : ∀ tokens, Takes stop tokens tokens (asks tokens))
    (read : PartsRead element (fun _ => false) follows good bound separator parts)
    (starts : ∀ part ∈ parts, ∀ tokens rest, Spells part tokens → asks (tokens ++ rest) = false)
    (some_ : parts ≠ []) (ends : Look.mark separator rest = false) (follows_ : follows rest)
    (spells : Spells (listed [.operator separator] false parts) tokens)
    (size : Token.sizes tokens ≤ bound) (enough : Token.sizes tokens < turns) :
    ∃ values, List.Forall₂ good parts values ∧
      Takes (chainLoop separator stop (peekMark separator) element turns) (tokens ++ rest) rest
        ⟨values, false⟩ := by
  induction parts generalizing tokens turns with
  | nil => exact absurd rfl some_
  | cons first others ih =>
      obtain ⟨turns, rfl⟩ : ∃ before, turns = before + 1 := ⟨turns - 1, by omega⟩
      have begins := starts first List.mem_cons_self
      rw [chainLoop]
      cases others with
      | nil =>
          simp only [listed_one, Bool.false_eq_true, if_false, List.append_nil] at spells
          obtain ⟨-, value, good_, taken⟩ :=
            read.each first List.mem_cons_self tokens rest spells size follows_
          refine ⟨[value], .cons good_ .nil, (asked _).bind ?_⟩
          rw [begins tokens rest spells]
          refine taken.bind ?_
          rw [takes_peekMark_bind, ends]
          exact takes_pure _ _
      | cons second others =>
          rw [listed_cons] at spells
          obtain ⟨before, after, rfl, own, spells⟩ := spells.of_append
          obtain ⟨marks, after, rfl, joined, spells⟩ := spells.of_operator
          rw [Token.sizes_append, Token.sizes_append, joined.sizes] at size enough
          have used := joined.some_
          obtain ⟨-, next⟩ := read.separated marks (after ++ rest) joined
          obtain ⟨-, value, good_, taken⟩ :=
            read.each first List.mem_cons_self before (marks ++ (after ++ rest)) own (by omega) next
          obtain ⟨values, goods, taken'⟩ :=
            ih turns read.tail (fun part member => starts part (List.mem_cons_of_mem first member))
              (by simp) spells (by omega) (by omega)
          refine ⟨value :: values, .cons good_ goods, ?_⟩
          simp only [List.append_assoc]
          refine (asked _).bind ?_
          rw [begins _ _ own]
          refine taken.bind ?_
          have here : Look.mark separator (marks ++ (after ++ rest)) = true :=
            marks_of_joined joined read.plain _
          rw [takes_peekMark_bind, here]
          exact (takes_mark joined read.plain).bind (taken'.bind (takes_pure _ _))

end

end SlotSum
