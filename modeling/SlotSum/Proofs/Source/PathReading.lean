import SlotSum.Proofs.Source.Beginning
import SlotSum.Proofs.Source.Print

/-!
Paths are read back. A segment ends where no arguments follow it, and a path where no segment does.
-/

namespace SlotSum

open Token (Look)
open Parse

/-! ### Where productions stop -/

/-- No arguments follow. -/
structure EndsSegment (rest : List Token) : Prop where
  less : Look.mark "<" rest = false
  turbofish : (Look.mark "::" rest && Look.third (Look.mark "<") rest) = false

/-- Neither arguments nor a segment follow. -/
structure EndsPath (rest : List Token) : Prop where
  less : Look.mark "<" rest = false
  colons : Look.mark "::" rest = false

/-- A type ends here; `plus` tells that it could go on with further bounds. -/
structure Stops (plus : Bool) (rest : List Token) : Prop extends EndsPath rest where
  bang : Look.mark "!" rest = false
  arrow : Look.mark "->" rest = false
  paren : Look.group .paren rest = false
  plus : plus = true → Look.mark "+" rest = false

theorem EndsPath.segment {rest : List Token} (ends : EndsPath rest) : EndsSegment rest :=
  ⟨ends.less, by rw [ends.colons, Bool.false_and]⟩

theorem stops_nil (plus : Bool) : Stops plus [] := ⟨⟨rfl, rfl⟩, rfl, rfl, rfl, fun _ => rfl⟩

theorem stops_mark {plus : Bool} {c : Char} (other : c ∉ [':', '<', '!', '-', '+']) (joint : Bool)
    (span : Span) (rest : List Token) : Stops plus (.mark c joint span :: rest) := by
  simp only [List.mem_cons, List.not_mem_nil, or_false, not_or] at other
  obtain ⟨colon, less, bang, minus, plus⟩ := other
  refine ⟨⟨?_, ?_⟩, ?_, ?_, rfl, fun _ => ?_⟩ <;> simp [Look.mark, *]

theorem stops_word {plus : Bool} (name : Name) (rest : List Token) :
    Stops plus (.word name :: rest) :=
  ⟨⟨rfl, rfl⟩, rfl, rfl, rfl, fun _ => rfl⟩

/-- A comma follows, or the bracket that closes. -/
def EndsArgument (rest : List Token) : Prop :=
  ∃ c joint span after, rest = .mark c joint span :: after ∧ (c = ',' ∨ c = '>')

theorem EndsArgument.stops {plus : Bool} {rest : List Token} (ends : EndsArgument rest) :
    Stops plus rest := by
  obtain ⟨c, joint, span, after, rfl, rfl | rfl⟩ := ends
  · exact stops_mark (by decide) joint span after
  · exact stops_mark (by decide) joint span after

theorem EndsArgument.other {rest : List Token} (ends : EndsArgument rest) {c : Char}
    (other : c ∉ [',', '>']) (chars : List Char) : Look.marks (c :: chars) rest = false := by
  simp only [List.mem_cons, List.not_mem_nil, or_false, not_or] at other
  obtain ⟨d, joint, span, after, rfl, rfl | rfl⟩ := ends
  · simp [Ne.symm other.1]
  · simp [Ne.symm other.2]

/-! ### Prints -/

namespace Symbol

theorem trees_root (rooted : Bool) : trees (root rooted) = rootMark rooted := by
  cases rooted <;> rfl

/-- The symbols are those of a lifetime. -/
def isLifetime : List Symbol → Bool
  | [lifetime _] => true
  | _ => false

end Symbol

/-- What an argument prints, and whether it is a lifetime. -/
def Argument.Spelled (part : List Symbol) (argument : Argument) : Prop :=
  argument.isLifetime = Symbol.isLifetime part ∧ argument.trees = Symbol.trees part

theorem Argument.treesEach_spelled {parts : List (List Symbol)} {arguments : List Argument}
    (spelled : List.Forall₂ Argument.Spelled parts arguments) :
    Argument.treesEach arguments =
      parts.map fun part => (Symbol.isLifetime part, Symbol.trees part) := by
  rw [Argument.treesEach_eq]
  induction spelled with
  | nil => rfl
  | cons first _ ih => rw [List.map_cons, List.map_cons, ih, first.1, first.2]

/-- What a segment prints, which takes no arguments in parentheses. -/
def Segment.Spelled (part : List Symbol) (segment : Segment) : Prop :=
  segment.trees = Symbol.trees part ∧ ∀ parts, segment.arguments ≠ .round parts

theorem Segment.treesAll_spelled {parts : List (List Symbol)} {segments : List Segment}
    (spelled : List.Forall₂ Segment.Spelled parts segments) :
    Segment.treesAll segments = Symbol.trees (Symbol.path parts) := by
  have each : segments.map Segment.trees = parts.map Symbol.trees := by
    induction spelled with
    | nil => rfl
    | cons first _ ih => rw [List.map_cons, List.map_cons, first.1, ih]
  rw [Segment.treesAll_eq, each, Symbol.path, Symbol.trees_listed]

/-- Lifetimes that come first are printed first. -/
theorem Arguments.trees_angle {turbofish trailing : Bool} {names : List String}
    {parts : List (List Symbol)} {arguments : List Argument}
    (others : ∀ part ∈ parts, Symbol.isLifetime part = false)
    (spelled : List.Forall₂ Argument.Spelled (Symbol.lifetimes names ++ parts) arguments) :
    (Arguments.angle turbofish arguments
        (trailing && !(Symbol.lifetimes names ++ parts).isEmpty)).trees =
      Symbol.trees (Symbol.root turbofish ++ .operator "<" ::
        (Symbol.commas trailing (Symbol.lifetimes names ++ parts) ++ [.operator ">"])) := by
  have sorted (trailing : Bool) : lifetimesFirst [.leaf "," false] trailing
      (Argument.treesEach arguments) =
        listed [.leaf "," false] trailing ((Symbol.lifetimes names ++ parts).map Symbol.trees) := by
    rw [Argument.treesEach_spelled spelled, List.map_append, lifetimesFirst_sorted,
      List.map_append, List.map_append, List.map_map, List.map_map]
    · rfl
    · simp [Symbol.lifetimes, Symbol.isLifetime]
    · simpa using others
  have settled := listed_some [Tree.leaf "," false] trailing
    ((Symbol.lifetimes names ++ parts).map Symbol.trees)
  rw [List.isEmpty_map] at settled
  simp only [Arguments.trees, Symbol.trees_append, Symbol.trees_root, Symbol.trees, Symbol.commas,
    Symbol.trees_listed, Symbol.tree]
  rw [sorted, settled]
  simp [Tree.seq]

namespace Grammar

/-! ### Segments -/

@[simp] theorem pathKeyword_word {words : List String} {name : Name} {rest : List Token} :
    pathKeyword words (.word name :: rest) = decide (name.text ∈ words) := by
  induction words with
  | nil => rfl
  | cons first words ih =>
      have unfolded : pathKeyword (first :: words) (.word name :: rest) =
        (name.text == first || pathKeyword words (.word name :: rest)) := rfl
      rw [unfolded, ih]
      simp [beq_eq_decide]

section

variable {rules : Rules} {name : String} {span : Span} {tokens rest : List Token}
  {inExpression : Bool}

/-- Arguments of a segment follow. -/
def argumentsFollow (inExpression : Bool) (tokens : List Token) : Bool :=
  (!inExpression &&
      (Look.mark "<" tokens && !Look.mark "<=" tokens && !Look.mark "<<=" tokens)) ||
    (Look.mark "::" tokens && Look.third (Look.mark "<") tokens)

theorem takes_segment {value : Segment} (isName : IsName name)
    (taken : Takes (if argumentsFollow inExpression tokens then Segment.mk name <$> rules.arguments
      else pure (.mk name .none)) tokens rest value) :
    Takes (segment rules inExpression) (.word ⟨name, span⟩ :: tokens) rest value := by
  have plain : pathKeyword ["super", "self", "crate", "try"] (.word ⟨name, span⟩ :: tokens) = false :=
    pathKeyword_word.trans (decide_eq_false isName.not_step)
  rw [segment, takes_peek_bind, plain]
  simp only [Bool.false_eq_true, if_false, takes_peekWord_bind, Look.word_word, beq_iff_eq]
  split
  next =>
    refine (takes_anyWord _).bind ?_
    cases inExpression <;> simpa [argumentsFollow] using taken
  next other =>
    refine (takes_identifier (isName.resolve_right other)).bind ?_
    cases inExpression <;> simpa [argumentsFollow] using taken

theorem takes_segment_bare (isStep : IsStep name) (ends : EndsSegment rest) :
    Takes (segment rules inExpression) (.word ⟨name, span⟩ :: rest) rest (.mk name .none) := by
  by_cases isName : IsName name
  · refine takes_segment isName ?_
    rw [argumentsFollow, ends.less, ends.turbofish]
    simp only [Bool.false_and, Bool.and_false, Bool.or_false, Bool.false_eq_true, if_false]
    exact takes_pure _ _
  · have keyword : pathKeyword ["super", "self", "crate", "try"] (.word ⟨name, span⟩ :: rest) = true :=
      pathKeyword_word.trans (decide_eq_true (by
        have := isStep.resolve_left isName
        simp only [List.mem_cons, List.not_mem_nil, or_false] at this ⊢
        tauto))
    rw [segment, takes_peek_bind, keyword, if_pos rfl]
    exact (takes_anyWord _).bind (takes_pure _ _)

end

/-! ### Arguments in brackets -/

/-- What is seen where an argument begins. -/
structure SeesArgument (tokens : List Token) : Prop where
  close : Look.mark ">" tokens = false
  equals : Look.mark "=" tokens = false
  atMost : Look.mark "<=" tokens = false

theorem SeesArgument.of_marks {tokens : List Token}
    (marks : ∀ c chars, c ∉ [':', '&', '*', '!', '-', '\''] → Look.marks (c :: chars) tokens = false) :
    SeesArgument tokens :=
  ⟨marks '>' [] (by decide), marks '=' [] (by decide), marks '<' ['='] (by decide)⟩

theorem sees_argument {part : List Symbol} {tokens : List Token}
    (begins : PhraseKind.argument.Begins part) (spells : Spells part tokens) (rest : List Token) :
    SeesArgument (tokens ++ rest) := by
  rcases begins with front | isConstant | ⟨name, others, rfl, -⟩
  · have sees := front.sees spells rest
    exact ⟨sees.marks '>' [] (by decide), sees.marks '=' [] (by decide), sees.atMost⟩
  · cases isConstant with
    | literal =>
        cases spells with
        | literal => exact .of_marks fun _ _ _ => rfl
    | negative =>
        obtain ⟨joint, span, after, rfl, -⟩ := spells.of_sign (c := '-') rfl
        refine .of_marks fun c chars other => ?_
        have differ : '-' ≠ c := by rintro rfl; simp at other
        simp [differ]
    | boolean =>
        cases spells with
        | word => exact .of_marks fun _ _ _ => rfl
    | block =>
        cases spells with
        | group visible => exact .of_marks fun _ _ _ => Look.marks_group visible
  · cases spells with
    | word => exact .of_marks fun _ _ _ => rfl

theorem not_lifetime {part : List Symbol} (begins : PhraseKind.argument.Begins part) :
    Symbol.isLifetime part = false := by
  rcases begins with front | isConstant | ⟨name, others, rfl, -⟩
  · cases front with
    | named named => obtain ⟨name, rest, rfl, -⟩ := named.steps; rfl
    | _ => rfl
  · cases isConstant <;> rfl
  · rfl

theorem takes_lifetimeArgument {rules : Rules} {name : Name} {joint : Bool} {span : Span}
    {rest : List Token} (ends : EndsArgument rest) :
    Takes (argument rules) (.mark '\'' joint span :: .word name :: rest) rest
      (.lifetime ("'" ++ name.text)) := by
  have single : Look.second (Look.mark "+") (.mark '\'' joint span :: .word name :: rest) = false :=
    ends.other (c := '+') (by decide) []
  rw [argument, takes_peek_bind, takes_peek_bind, single, Look.lifetime_mark]
  exact takes_lifetime.bind (takes_pure _ _)

/-- An argument that is not a lifetime is read, one level further out. -/
def ReadsArgument : List Symbol → Prop := fun part =>
  ReadsBack (fun rules => argument (.above fun _ => rules)) EndsArgument (Argument.Spelled part) part

theorem partsRead_arguments {names : List String} {parts : List (List Symbol)} {n : Nat}
    (reads : ∀ part ∈ parts, ReadsArgument part)
    (begins : ∀ part ∈ parts, PhraseKind.argument.Begins part) :
    PartsRead (argument (.level (n + 1))) (Look.mark ">") EndsArgument Argument.Spelled n ","
      (Symbol.lifetimes names ++ parts) := by
  refine ⟨fun part member tokens rest spells size ends => ?_, fun marks rest joined => ?_,
    by decide⟩
  · rcases List.mem_append.mp member with own | own
    · obtain ⟨name, -, rfl⟩ := List.mem_map.mp own
      obtain ⟨span, span', after, rfl, none_⟩ := spells.of_lifetime
      cases none_
      exact ⟨rfl, _, ⟨rfl, rfl⟩, takes_lifetimeArgument ends⟩
    · exact ⟨(sees_argument (begins part own) spells rest).close,
        reads part own tokens rest n spells size ends⟩
  · obtain ⟨joint, span, rfl⟩ := joined_one joined
    exact ⟨rfl, ',', joint, span, rest, rfl, .inl rfl⟩

/-- A double colon that may be there is taken if it is. -/
theorem takes_root {rooted : Bool} {symbols : List Symbol} {tokens : List Token}
    (rest : List Token) (spells : Spells (Symbol.root rooted ++ symbols) tokens)
    (apart : ∀ tokens, Spells symbols tokens → Look.mark "::" (tokens ++ rest) = false) :
    ∃ after, Spells symbols after ∧ Token.sizes after ≤ Token.sizes tokens ∧
      Takes (mark? "::") (tokens ++ rest) (after ++ rest) rooted := by
  cases rooted with
  | true =>
      obtain ⟨marks, after, rfl, joined, spells⟩ := spells.of_operator
      refine ⟨after, spells, by rw [Token.sizes_append]; omega, ?_⟩
      rw [List.append_assoc]
      exact takes_mark? joined (by decide)
  | false =>
      refine ⟨tokens, spells, Nat.le_refl _, ?_⟩
      rw [← bind_pure (mark? "::"), takes_mark?_bind (apart tokens spells)]
      exact takes_pure _ _

theorem takes_angleArguments {turbofish trailing : Bool} {names : List String}
    {parts : List (List Symbol)} {tokens : List Token} {n : Nat} (rest : List Token)
    (reads : ∀ part ∈ parts, ReadsArgument part)
    (begins : ∀ part ∈ parts, PhraseKind.argument.Begins part)
    (spells : Spells (Symbol.root turbofish ++ .operator "<" ::
      (Symbol.commas trailing (Symbol.lifetimes names ++ parts) ++ [.operator ">"])) tokens)
    (size : Token.sizes tokens ≤ n + 2) :
    ∃ arguments, List.Forall₂ Argument.Spelled (Symbol.lifetimes names ++ parts) arguments ∧
      Takes (angleArguments (.level (n + 1))) (tokens ++ rest) rest
        (.angle turbofish arguments (trailing && !(Symbol.lifetimes names ++ parts).isEmpty)) := by
  obtain ⟨tokens, spells, fewer, turbofish_⟩ := takes_root rest spells (by
    intro tokens spells
    obtain ⟨joint, span, after, rfl, -⟩ := spells.of_sign (c := '<') rfl
    rfl)
  obtain ⟨joint, span, after, rfl, enclosed⟩ := spells.of_sign (c := '<') rfl
  obtain ⟨inner, closing, rfl, own, closed⟩ := enclosed.of_append
  obtain ⟨joint', span', none_, rfl, nil_⟩ := closed.of_sign (c := '>') rfl
  cases nil_
  simp only [Token.sizes, Token.size, Token.sizes_append] at fewer
  have asked (tokens : List Token) :
      Takes (peekMark ">") tokens tokens (Look.mark ">" tokens) := fun _ last => ⟨last, rfl⟩
  obtain ⟨arguments, spelled, taken⟩ :=
    takes_separatedUntil (.mark '>' joint' span' :: rest) asked
      (partsRead_arguments (n := n) reads begins) rfl
      ⟨'>', joint', span', rest, rfl, .inr rfl⟩ own (by omega)
  refine ⟨arguments, spelled, ?_⟩
  rw [angleArguments]
  refine turbofish_.bind ?_
  simp only [List.append_assoc, List.nil_append, List.cons_append]
  refine (takes_sign (c := '<') rfl (by decide)).bind (taken.bind ?_)
  exact (takes_sign (c := '>') rfl (by decide)).bind (takes_pure _ _)

section

variable {turbofish trailing : Bool} {names : List String} {parts : List (List Symbol)}
  {tokens : List Token} (rest : List Token)
  (begins : ∀ part ∈ parts, PhraseKind.argument.Begins part)
include begins

theorem sees_arguments
    (spells : Spells (Symbol.commas trailing (Symbol.lifetimes names ++ parts) ++ [.operator ">"])
      tokens) :
    Look.mark "=" (tokens ++ rest) = false ∧ Look.mark "<=" (tokens ++ rest) = false := by
  have each : ∀ part ∈ Symbol.lifetimes names ++ parts, ∀ tokens rest, Spells part tokens →
      SeesArgument (tokens ++ rest) := by
    intro part member tokens rest spells
    rcases List.mem_append.mp member with own | own
    · obtain ⟨name, -, rfl⟩ := List.mem_map.mp own
      obtain ⟨span, span', after, rfl, -⟩ := spells.of_lifetime
      exact ⟨rfl, rfl, rfl⟩
    · exact sees_argument (begins part own) spells rest
  cases all : Symbol.lifetimes names ++ parts with
  | nil =>
      rw [all] at spells
      obtain ⟨joint, span, after, rfl, -⟩ := Spells.of_sign (c := '>') spells rfl
      exact ⟨rfl, rfl⟩
  | cons first others =>
      obtain ⟨tail, eq⟩ := exists_listed [.operator ","] trailing first others
      rw [all, Symbol.commas, eq, List.append_assoc] at spells
      obtain ⟨before, after, rfl, own, -⟩ := spells.of_append
      have sees := each first (by simp [all]) before (after ++ rest) own
      rw [← List.append_assoc] at sees
      exact ⟨sees.equals, sees.atMost⟩

theorem argumentsFollow_angle (spells : Spells (Symbol.root turbofish ++ .operator "<" ::
      (Symbol.commas trailing (Symbol.lifetimes names ++ parts) ++ [.operator ">"])) tokens) :
    argumentsFollow false (tokens ++ rest) = true := by
  cases turbofish with
  | true =>
      obtain ⟨span, joint, span', after, rfl, others⟩ := spells.of_signs (c := ':') (d := ':') rfl
      obtain ⟨joint', span'', after', rfl, -⟩ := others.of_sign (c := '<') rfl
      simp [argumentsFollow, Look.mark]
  | false =>
      obtain ⟨joint, span, after, rfl, others⟩ := spells.of_sign (c := '<') rfl
      obtain ⟨equals, atMost⟩ := sees_arguments rest begins others
      have one : Look.mark "<=" (.mark '<' joint span :: (after ++ rest)) =
        (joint && Look.mark "=" (after ++ rest)) := rfl
      have two : Look.mark "<<=" (.mark '<' joint span :: (after ++ rest)) =
        (joint && Look.mark "<=" (after ++ rest)) := rfl
      have less : Look.mark "<" (.mark '<' joint span :: (after ++ rest)) = true := rfl
      rw [List.cons_append, argumentsFollow, one, two, equals, atMost, less, Bool.and_false]
      rfl

end

/-- A segment is read as one that prints the symbols. -/
def ReadsSegment (inExpression : Bool) (part : List Symbol) : Prop :=
  ReadsBack (fun rules => segment rules inExpression) EndsSegment (Segment.Spelled part) part

theorem readsSegment_step {inExpression : Bool} {name : String} (isStep : IsStep name) :
    ReadsSegment inExpression [.word name] := by
  intro tokens rest n spells _ ends
  cases spells with
  | word plain span none_ =>
      cases none_
      refine ⟨.mk name .none, ⟨by simp [Segment.trees, Arguments.trees, Tree.seq, Symbol.trees,
        Symbol.tree], nofun⟩, takes_segment_bare isStep ends⟩

theorem readsSegment_angle {name : String} {turbofish trailing : Bool} {names : List String}
    {parts : List (List Symbol)} (isName : IsName name)
    (reads : ∀ part ∈ parts, ReadsArgument part)
    (begins : ∀ part ∈ parts, PhraseKind.argument.Begins part) :
    ReadsSegment false (.word name :: (Symbol.root turbofish ++ .operator "<" ::
      (Symbol.commas trailing (Symbol.lifetimes names ++ parts) ++ [.operator ">"]))) := by
  intro tokens rest n spells size _
  cases spells with
  | @word _ _ tokens plain span others =>
      obtain ⟨n, rfl⟩ : ∃ below, n = below + 2 := ⟨n - 2, by
        obtain ⟨first, second, rfl, -, some_⟩ := others.of_append
        have := some_.some_ (by simp)
        simp only [Token.sizes, Token.size, Token.sizes_append] at size
        omega⟩
      have fewer : Token.sizes tokens ≤ n + 2 := by
        simp only [Token.sizes, Token.size] at size
        omega
      obtain ⟨arguments, spelled, taken⟩ :=
        takes_angleArguments rest reads begins others fewer
      have follow := argumentsFollow_angle rest begins others
      have whole : Takes (segment (.level (n + 2)) false) (.word ⟨name, span⟩ :: (tokens ++ rest)) rest
          (.mk name (.angle turbofish arguments
            (trailing && !(Symbol.lifetimes names ++ parts).isEmpty))) :=
        takes_segment isName (by rw [follow]; exact taken.map (Segment.mk name))
      refine ⟨_, ⟨?_, fun parts eq => by cases eq⟩, whole⟩
      rw [Segment.trees,
        Arguments.trees_angle (fun part own => not_lifetime (begins part own)) spelled]
      simp [Tree.seq, Symbol.trees, Symbol.tree]

/-! ### Paths -/

theorem path_cons (first : List Symbol) (rest : List (List Symbol)) :
    Symbol.path (first :: rest) = first ++ (rest.map (.operator "::" :: ·)).flatten := by
  induction rest generalizing first with
  | nil => simp [Symbol.path]
  | cons second rest ih =>
      simp only [Symbol.path] at ih ⊢
      rw [listed_cons, ih]
      simp

section

variable {parts : List (List Symbol)} {tokens rest : List Token} {n : Nat}
  {inExpression : Bool} (reads : ∀ part ∈ parts, ReadsSegment inExpression part)
  (begins : ∀ part ∈ parts, PhraseKind.segment.Begins part)
include reads begins

/-- Segments behind double colons are taken by any loop that goes on at a double colon before a
name. -/
theorem takes_moreSegments {goOn : Parse Bool} {asks : List Token → Bool}
    (asked : ∀ tokens, Takes goOn tokens tokens (asks tokens))
    (goes : ∀ span joint span' name rest,
      asks (.mark ':' true span :: .mark ':' joint span' :: .word name :: rest) = true)
    (ends : EndsPath rest) (stops : asks rest = false)
    (spells : Spells (parts.map (.operator "::" :: ·)).flatten tokens)
    (size : Token.sizes tokens ≤ n) :
    ∃ segments, List.Forall₂ Segment.Spelled parts segments ∧ EndsSegment (tokens ++ rest) ∧
      Takes (many goOn (do mark "::"; segment (.level n) inExpression)) (tokens ++ rest) rest segments := by
  have each : ∀ part ∈ parts.map (.operator "::" :: ·), ∀ tokens rest, Spells part tokens →
      Token.sizes tokens ≤ n → EndsSegment rest →
        asks (tokens ++ rest) = true ∧ EndsSegment (tokens ++ rest) ∧
          ∃ segment_, Segment.Spelled part.tail segment_ ∧
            Takes (do mark "::"; segment (.level n) inExpression) (tokens ++ rest) rest segment_ := by
    intro part member tokens rest spells size ends
    obtain ⟨own, among, rfl⟩ := List.mem_map.mp member
    obtain ⟨span, joint, span', after, rfl, others⟩ := spells.of_signs (c := ':') (d := ':') rfl
    have fewer : Token.sizes after ≤ n := by
      simp only [Token.sizes] at size
      omega
    obtain ⟨value, spelled, taken⟩ := reads own among after rest n others fewer ends
    obtain ⟨name, own', rfl, -⟩ := (begins own among).steps
    cases others with
    | word plain span'' others =>
        exact ⟨goes .., ⟨rfl, by simp [Look.mark]⟩, value, spelled,
          (takes_signs rfl (by decide)).bind taken⟩
  obtain ⟨segments, spelled, ends', taken⟩ := takes_whileLoop
    (Token.sizes (tokens ++ rest) + 1) asked (by simp) each stops ends.segment spells size
    (by rw [Token.sizes_append]; omega)
  rw [List.forall₂_map_left_iff] at spelled
  exact ⟨segments, spelled, ends', taken⟩

/-- Segments with double colons between them. -/
theorem takes_segments {goOn : Parse Bool} {asks : List Token → Bool}
    (asked : ∀ tokens, Takes goOn tokens tokens (asks tokens))
    (goes : ∀ span joint span' name rest,
      asks (.mark ':' true span :: .mark ':' joint span' :: .word name :: rest) = true)
    (ends : EndsPath rest) (stops : asks rest = false) (some_ : parts ≠ [])
    (spells : Spells (Symbol.path parts) tokens) (size : Token.sizes tokens ≤ n) :
    ∃ first others middle, List.Forall₂ Segment.Spelled parts (first :: others) ∧
      Takes (segment (.level n) inExpression) (tokens ++ rest) middle first ∧
      Takes (many goOn (do mark "::"; segment (.level n) inExpression)) middle rest others := by
  obtain ⟨first, parts, rfl⟩ := List.exists_cons_of_ne_nil some_
  rw [path_cons] at spells
  obtain ⟨before, after, rfl, own, others⟩ := spells.of_append
  rw [Token.sizes_append] at size
  obtain ⟨segments, spelled, ends', taken⟩ :=
    takes_moreSegments (n := n) (fun part member => reads part (List.mem_cons_of_mem first member))
      (fun part member => begins part (List.mem_cons_of_mem first member)) asked goes ends stops
      others (by omega)
  obtain ⟨segment_, spelled', taken'⟩ :=
    reads first List.mem_cons_self before (after ++ rest) n own (by omega) ends'
  rw [List.append_assoc]
  exact ⟨segment_, segments, after ++ rest, .cons spelled' spelled, taken', taken⟩

theorem takes_path {rooted : Bool} (ends : EndsPath rest) (some_ : parts ≠ [])
    (spells : Spells (Symbol.root rooted ++ Symbol.path parts) tokens)
    (size : Token.sizes tokens ≤ n) :
    ∃ segments, List.Forall₂ Segment.Spelled parts segments ∧
      Takes (path (.level n) inExpression) (tokens ++ rest) rest ⟨rooted, segments⟩ := by
  obtain ⟨after, own, fewer, root⟩ := takes_root rest spells (by
    intro tokens spells
    obtain ⟨first, parts, rfl⟩ := List.exists_cons_of_ne_nil some_
    obtain ⟨name, others, eq, -⟩ := (named_listed (begins first List.mem_cons_self)).steps
    rw [eq] at spells
    cases spells with
    | word => rfl)
  have asked (tokens : List Token) :
      Takes (do return (← peekMark "::") && !(← peek (Look.third (Look.group .paren)))) tokens tokens
        (Look.mark "::" tokens && !Look.third (Look.group .paren) tokens) :=
    fun _ last => ⟨last, rfl⟩
  obtain ⟨first, others, middle, spelled, taken, taken'⟩ :=
    takes_segments (n := n) reads begins asked (fun _ _ _ _ _ => by simp [Look.mark]) ends
      (by rw [ends.colons, Bool.false_and]) some_ own (by omega)
  refine ⟨_, spelled, ?_⟩
  rw [path]
  exact root.bind (taken.bind (taken'.bind (takes_pure _ _)))

end

end Grammar

end SlotSum
