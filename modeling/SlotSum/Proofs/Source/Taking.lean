import SlotSum.Proofs.Source.Front
import SlotSum.Proofs.Token.Symbol

/-!
What productions take. A production takes tokens if it reads them from the front of a list, gives a
value for them and leaves the rest, whatever stands around. Productions that are put together take one
after the other what their parts take.
-/

namespace SlotSum

open Token (Look)

/-! ### Looking at the first token -/

namespace Token

variable {text : String} {name : Name} {span : Span} {joint : Bool} {c d : Char} {cs : List Char}
  {rest : List Token} {delimiter other : Delimiter} {inner : List Token} {opening closing : Span}

theorem front_group (visible : delimiter ≠ .invisible) :
    front (.group delimiter inner opening closing :: rest) =
      .group delimiter inner opening closing :: rest := by
  cases delimiter with
  | paren | bracket | brace => rfl
  | invisible => exact absurd rfl visible

namespace Look

@[simp] theorem word_nil : Look.word text [] = false := rfl

@[simp] theorem word_word : Look.word text (.word name :: rest) = (name.text == text) := rfl

@[simp] theorem word_mark : Look.word text (.mark c joint span :: rest) = false := rfl

@[simp] theorem word_literal {literal : String} :
    Look.word text (.literal literal span :: rest) = false := rfl

@[simp] theorem anyWord_nil : Look.anyWord [] = false := rfl

@[simp] theorem anyWord_word : Look.anyWord (.word name :: rest) = true := rfl

@[simp] theorem anyWord_mark : Look.anyWord (.mark c joint span :: rest) = false := rfl

@[simp] theorem identifier_nil : Look.identifier [] = false := rfl

@[simp] theorem identifier_word :
    Look.identifier (.word name :: rest) = !isKeyword name.text := rfl

@[simp] theorem identifier_mark : Look.identifier (.mark c joint span :: rest) = false := rfl

@[simp] theorem identifier_literal :
    Look.identifier (.literal text span :: rest) = false := rfl

@[simp] theorem marks_nil : Look.marks (c :: cs) [] = false := rfl

@[simp] theorem marks_word : Look.marks (c :: cs) (.word name :: rest) = false := rfl

@[simp] theorem marks_literal : Look.marks (c :: cs) (.literal text span :: rest) = false := rfl

@[simp] theorem marks_mark : Look.marks (d :: cs) (.mark c joint span :: rest) =
    (c == d && c != '\'' && (cs.isEmpty || (joint && marks cs rest))) := rfl

@[simp] theorem group_nil : Look.group delimiter [] = false := rfl

@[simp] theorem group_word : Look.group delimiter (.word name :: rest) = false := rfl

@[simp] theorem group_mark : Look.group delimiter (.mark c joint span :: rest) = false := rfl

@[simp] theorem group_literal : Look.group delimiter (.literal text span :: rest) = false := rfl

@[simp] theorem invisible_nil : Look.invisible [] = false := rfl

@[simp] theorem invisible_word : Look.invisible (.word name :: rest) = false := rfl

@[simp] theorem invisible_mark : Look.invisible (.mark c joint span :: rest) = false := rfl

@[simp] theorem invisible_literal : Look.invisible (.literal text span :: rest) = false := rfl

@[simp] theorem lifetime_nil : Look.lifetime [] = false := rfl

@[simp] theorem lifetime_word : Look.lifetime (.word name :: rest) = false := rfl

@[simp] theorem lifetime_literal : Look.lifetime (.literal text span :: rest) = false := rfl

@[simp] theorem lifetime_mark : Look.lifetime (.mark c joint span :: rest) =
    (c == '\'' && anyWord rest) := by
  by_cases apostrophe : c = '\''
  · subst apostrophe
    rfl
  · simp [Look.lifetime, front, unveil, apostrophe]

@[simp] theorem literal_nil : Look.literal [] = false := rfl

@[simp] theorem literal_literal : Look.literal (.literal text span :: rest) = true := rfl

@[simp] theorem literal_word : Look.literal (.word name :: rest) =
    (name.text == "true" || name.text == "false") := rfl

@[simp] theorem skip?_nil : skip? [] = none := rfl

@[simp] theorem skip?_word : skip? (.word name :: rest) = some rest := rfl

@[simp] theorem skip?_literal : skip? (.literal text span :: rest) = some rest := rfl

@[simp] theorem skip?_group : skip? (.group delimiter inner opening closing :: rest) = some rest := rfl

@[simp] theorem skip?_mark (plain : c ≠ '\'') : skip? (.mark c joint span :: rest) = some rest := by
  unfold skip?
  split
  next tokens none_ => cases none_
  next => simp_all
  next => simp_all

@[simp] theorem second_word (look : Look) : second look (.word name :: rest) = look rest := rfl

@[simp] theorem second_mark (look : Look) (plain : c ≠ '\'') :
    second look (.mark c joint span :: rest) = look rest := by
  simp [second, after, skips?, plain]

@[simp] theorem second_lifetime (look : Look) :
    second look (.mark '\'' joint span :: .word name :: rest) = look rest := rfl

@[simp] theorem third_word (look : Look) :
    third look (.word name :: rest) = (skip? rest).any look := by
  simp [third, after, skips?]

@[simp] theorem third_mark (look : Look) (plain : c ≠ '\'') :
    third look (.mark c joint span :: rest) = (skip? rest).any look := by
  simp [third, after, skips?, plain]

section

variable (visible : delimiter ≠ .invisible)
include visible

theorem word_group : Look.word text (.group delimiter inner opening closing :: rest) = false := by
  rw [Look.word, front_group visible]

theorem identifier_group :
    Look.identifier (.group delimiter inner opening closing :: rest) = false := by
  rw [Look.identifier, front_group visible]

theorem marks_group :
    Look.marks (c :: cs) (.group delimiter inner opening closing :: rest) = false := by
  rw [Look.marks, front_group visible]

theorem group_group :
    Look.group other (.group delimiter inner opening closing :: rest) = (delimiter == other) := by
  rw [Look.group, front_group visible]

theorem lifetime_group :
    Look.lifetime (.group delimiter inner opening closing :: rest) = false := by
  rw [Look.lifetime, front_group visible]

theorem literal_group :
    Look.literal (.group delimiter inner opening closing :: rest) = false := by
  rw [Look.literal, front_group visible]

end

end Look

end Token

/-! ### Taking -/

namespace Parse

/-- The production takes the tokens in front of others and gives a value for them. -/
def Takes (production : Parse α) (tokens rest : List Token) (value : α) : Prop :=
  ∀ scope last, ∃ last', production ⟨tokens, scope, last⟩ = .ok (value, ⟨rest, scope, last'⟩)

section

variable {production : Parse α} {next : α → Parse β} {tokens middle rest : List Token} {value : α}
  {result : β}

theorem Takes.bind (first : Takes production tokens middle value)
    (second : Takes (next value) middle rest result) :
    Takes (production >>= next) tokens rest result := by
  intro scope last
  obtain ⟨last', read⟩ := first scope last
  rw [bind_ok read]
  exact second scope last'

theorem takes_pure (value : α) (tokens : List Token) : Takes (pure value) tokens tokens value :=
  fun _ last => ⟨last, rfl⟩

theorem Takes.map (change : α → β) (taken : Takes production tokens rest value) :
    Takes (change <$> production) tokens rest (change value) := by
  rw [map_eq_bind]
  exact taken.bind (takes_pure _ _)

/-- What goes on alike behind either of two productions. -/
theorem Takes.ite_bind {holds : Bool} {other : Parse α}
    (first : Takes (if holds then production else other) tokens middle value)
    (second : Takes (next value) middle rest result) :
    Takes (if holds then production >>= next else other >>= next) tokens rest result := by
  cases holds with
  | true => exact first.bind second
  | false => exact first.bind second

/-- Looking takes nothing. -/
@[simp] theorem takes_peek_bind {look : Look} {next : Bool → Parse β} :
    Takes (peek look >>= next) tokens rest result ↔ Takes (next (look tokens)) tokens rest result :=
  Iff.rfl

@[simp] theorem takes_isEmpty_bind {next : Bool → Parse β} :
    Takes (isEmpty >>= next) tokens rest result ↔
      Takes (next tokens.isEmpty) tokens rest result :=
  Iff.rfl

@[simp] theorem takes_budget_bind {next : Nat → Parse β} :
    Takes (budget >>= next) tokens rest result ↔
      Takes (next (Token.sizes tokens + 1)) tokens rest result :=
  Iff.rfl

@[simp] theorem takes_peekWord_bind {text : String} {next : Bool → Parse β} :
    Takes (peekWord text >>= next) tokens rest result ↔
      Takes (next (Look.word text tokens)) tokens rest result :=
  Iff.rfl

@[simp] theorem takes_peekMark_bind {operator : String} {next : Bool → Parse β} :
    Takes (peekMark operator >>= next) tokens rest result ↔
      Takes (next (Look.mark operator tokens)) tokens rest result :=
  Iff.rfl

@[simp] theorem takes_peekGroup_bind {delimiter : Delimiter} {next : Bool → Parse β} :
    Takes (peekGroup delimiter >>= next) tokens rest result ↔
      Takes (next (Look.group delimiter tokens)) tokens rest result :=
  Iff.rfl

theorem Takes.get_bind {next : Cursor → Parse β}
    (each : ∀ cursor : Cursor, cursor.tokens = tokens → Takes (next cursor) tokens rest result) :
    Takes (get >>= next) tokens rest result :=
  fun scope last => each ⟨tokens, scope, last⟩ rfl scope last

/-- What is not there is not taken. -/
theorem takes_word?_bind {text : String} {next : Bool → Parse β}
    (absent : Look.word text tokens = false) :
    Takes (word? text >>= next) tokens rest result ↔ Takes (next false) tokens rest result := by
  rw [word?, bind_assoc, takes_peekWord_bind, absent]
  rfl

theorem takes_mark?_bind {operator : String} {next : Bool → Parse β}
    (absent : Look.mark operator tokens = false) :
    Takes (mark? operator >>= next) tokens rest result ↔ Takes (next false) tokens rest result := by
  rw [mark?, bind_assoc, takes_peekMark_bind, absent]
  rfl

theorem takes_lifetime?_bind {next : Option String → Parse β}
    (absent : Look.lifetime tokens = false) :
    Takes (lifetime? >>= next) tokens rest result ↔ Takes (next none) tokens rest result := by
  rw [lifetime?, bind_assoc, takes_peek_bind, absent]
  rfl

@[simp] theorem takes_word?_absent {text : String} {next : Bool → Parse β}
    (absent : ¬ Look.word text tokens = true) :
    Takes (word? text >>= next) tokens rest result ↔ Takes (next false) tokens rest result :=
  takes_word?_bind ((Bool.not_eq_true _).mp absent)

@[simp] theorem takes_mark?_absent {operator : String} {next : Bool → Parse β}
    (absent : ¬ Look.mark operator tokens = true) :
    Takes (mark? operator >>= next) tokens rest result ↔ Takes (next false) tokens rest result :=
  takes_mark?_bind ((Bool.not_eq_true _).mp absent)

end

/-! ### Single tokens -/

section

variable {tokens rest : List Token} {span : Span} {joint : Bool} {text : String}

theorem takes_anyWord (name : Name) : Takes anyWord (.word name :: rest) rest name :=
  fun _ _ => ⟨name.span, rfl⟩

theorem takes_identifier {name : Name} (plain : Token.isKeyword name.text = false) :
    Takes identifier (.word name :: rest) rest name := by
  intro scope last
  have unfolded : identifier ⟨.word name :: rest, scope, last⟩ =
      (if Token.isKeyword name.text then fail (.keyword name.text)
        else do
          advance (.word name) rest
          return name : Parse Name) ⟨.word name :: rest, scope, last⟩ := rfl
  rw [unfolded, plain]
  exact ⟨name.span, rfl⟩

theorem takes_word (text : String) (span : Span) :
    Takes (word text) (.word ⟨text, span⟩ :: rest) rest ⟨text, span⟩ :=
  fun scope last =>
    have here : Token.front (Cursor.mk (.word ⟨text, span⟩ :: rest) scope last).tokens =
      .word ⟨text, span⟩ :: rest := rfl
    ⟨span, word_ok here⟩

theorem takes_word? (text : String) (span : Span) :
    Takes (word? text) (.word ⟨text, span⟩ :: rest) rest true := by
  rw [word?, takes_peekWord_bind, Look.word_word, beq_self_eq_true, if_pos rfl]
  exact (takes_word text span).bind (takes_pure _ _)

theorem takes_lifetime {name : Name} :
    Takes lifetime (.mark '\'' joint span :: .word name :: rest) rest ("'" ++ name.text) :=
  fun _ _ => ⟨name.span, rfl⟩

theorem takes_lifetime? {name : Name} :
    Takes lifetime? (.mark '\'' joint span :: .word name :: rest) rest
      (some ("'" ++ name.text)) := by
  rw [lifetime?, takes_peek_bind, Look.lifetime_mark]
  exact takes_lifetime.bind (takes_pure _ _)

theorem takes_literal (text : String) (span : Span) :
    Takes literal (.literal text span :: rest) rest (false, text) :=
  fun _ _ => ⟨span, rfl⟩

/-- Marks that spell an operator are found. -/
theorem marks_of_joined {chars : List Char} {marks : List Token} (joined : Joined chars marks)
    (plain : '\'' ∉ chars) (rest : List Token) : Look.marks chars (marks ++ rest) = true := by
  induction joined with
  | last c joint span =>
      have other : c ≠ '\'' := by rintro rfl; simp at plain
      simp [other]
  | more span _ ih =>
      rename_i d chars marks c _
      have other : c ≠ '\'' := by rintro rfl; simp at plain
      simp [other, ih fun member => plain (List.mem_cons_of_mem c member)]

theorem takes_mark {operator : String} {marks : List Token}
    (joined : Joined operator.toList marks) (plain : '\'' ∉ operator.toList) :
    Takes (mark operator) (marks ++ rest) rest () := by
  have taken {chars : List Char} {marks : List Token} (joined : Joined chars marks)
      (plain : '\'' ∉ chars) : Takes (takeMarks operator chars) (marks ++ rest) rest () := by
    induction joined with
    | last c joint span =>
        have other : c ≠ '\'' := by rintro rfl; simp at plain
        intro scope last
        refine ⟨span, ?_⟩
        rw [takeMarks, get_apply]
        simp [Token.front, Token.unveil, other]
        rfl
    | more span _ ih =>
        rename_i d chars marks c _
        have other : c ≠ '\'' := by rintro rfl; simp at plain
        intro scope last
        obtain ⟨last', read⟩ := ih (fun member => plain (List.mem_cons_of_mem c member)) scope span
        refine ⟨last', ?_⟩
        rw [takeMarks, get_apply]
        simp [Token.front, Token.unveil, other]
        exact read
  intro scope last
  have there : Look.mark operator (marks ++ rest) = true := marks_of_joined joined plain rest
  have unfolded : mark operator ⟨marks ++ rest, scope, last⟩ =
      if Look.mark operator (marks ++ rest) then
        takeMarks operator operator.toList ⟨marks ++ rest, scope, last⟩
      else missingMark operator ⟨marks ++ rest, scope, last⟩ := rfl
  rw [unfolded, there, if_pos rfl]
  exact taken joined plain scope last

theorem takes_sign {operator : String} {c : Char} (sign : operator.toList = [c]) (plain : c ≠ '\'') :
    Takes (mark operator) (.mark c joint span :: rest) rest () := by
  have joined : Joined operator.toList [.mark c joint span] := by
    rw [sign]
    exact .last c joint span
  exact takes_mark joined (by simpa [sign] using plain.symm)

theorem takes_signs {operator : String} {c d : Char} {span' : Span}
    (signs : operator.toList = [c, d]) (plain : '\'' ∉ [c, d]) :
    Takes (mark operator) (.mark c true span :: .mark d joint span' :: rest) rest () := by
  have joined : Joined operator.toList [.mark c true span, .mark d joint span'] := by
    rw [signs]
    exact .more span (.last d joint span')
  exact takes_mark joined (by rwa [signs])

theorem takes_sign? {operator : String} {c : Char} (sign : operator.toList = [c]) (plain : c ≠ '\'') :
    Takes (mark? operator) (.mark c joint span :: rest) rest true := by
  have there : Look.mark operator (.mark c joint span :: rest) = true := by
    simp [Look.mark, sign, plain]
  rw [mark?, takes_peekMark_bind, there]
  exact (takes_sign sign plain).bind (takes_pure _ _)

theorem takes_mark? {operator : String} {marks : List Token}
    (joined : Joined operator.toList marks) (plain : '\'' ∉ operator.toList) :
    Takes (mark? operator) (marks ++ rest) rest true := by
  have there : Look.mark operator (marks ++ rest) = true := marks_of_joined joined plain rest
  rw [mark?, takes_peekMark_bind, there]
  exact (takes_mark joined plain).bind (takes_pure _ _)

theorem takes_group {delimiter : Delimiter} {production : Parse α} {inner : List Token} {value : α}
    {opening closing : Span} (visible : delimiter ≠ .invisible)
    (taken : Takes production inner [] value) :
    Takes (group delimiter production) (.group delimiter inner opening closing :: rest) rest
      value := by
  intro scope last
  obtain ⟨last', read⟩ := taken closing last
  refine ⟨closing, ?_⟩
  rw [group, get_apply]
  simp only [Token.front_group visible, if_true]
  have within : inside inner closing production
      ⟨.group delimiter inner opening closing :: rest, scope, last⟩ =
        .ok (value, ⟨.group delimiter inner opening closing :: rest, scope, last⟩) := by
    rw [inside, read]
    rfl
  rw [bind_ok within]
  rfl

end

end Parse

end SlotSum
