import SlotSum.Proofs.Source.Steady
import SlotSum.Source.Strip

/-!
Structures behind one more attribute. What stands behind an attribute is read as if the attribute
were not there, so a structure that is given another attribute is read as before, except that its
attributes begin with that one.
-/

namespace SlotSum.Grammar

open Token (Look)
open Parse (Firm Steady peek peekWord peekMark peekGroup)

variable (rules : Rules)

theorem firm_attributeNode : Firm (attributeNode rules false) := by
  have marked : "#".toList = ['#'] := rfl
  exact (Parse.firm_mark marked).bind.spanned.bind

theorem steady_convention? : Steady convention? :=
  .word? "extern" (Parse.steady_pure [])

theorem steady_qualifiers : Steady (qualifiers false) := by
  refine (Parse.steady_word? "const").bind fun constant => ?_
  refine (Parse.steady_word? "async").bind fun asynchronous => ?_
  refine (Parse.steady_pure false).bind fun trusted => ?_
  have written (unsafety : Bool) : Steady (convention? >>= fun convention => pure
      (Node.seq
        [ if constant then "const" else [], if asynchronous then "async" else [],
          if trusted then "safe" else [], if unsafety then "unsafe" else [], convention ])) :=
    steady_convention?.bind fun convention => Parse.steady_pure _
  cases trusted with
  | true => exact (Parse.steady_pure false).bind written
  | false => exact (Parse.steady_word? "unsafe").bind written

/-- Whether a function begins here is found out without taking anything. -/
theorem beginsFunction_apply (safe : Bool) (cursor : Cursor) : beginsFunction safe cursor =
    match qualifiers safe cursor with
    | .ok (_, after) => .ok (Look.word "fn" after.tokens, cursor)
    | .error _ => .ok (false, cursor) := by
  let probe : Parse Bool := do
    let start ← get
    let _ ← qualifiers safe
    let found ← peekWord "fn"
    set start
    return found
  have probed : probe cursor =
      (qualifiers safe cursor >>= fun (_, after) => .ok (Look.word "fn" after.tokens, cursor)) :=
    rfl
  have tried : beginsFunction safe cursor =
      (Parse.attempt probe cursor >>= fun (found, after) => .ok (found.getD false, after)) := rfl
  rw [tried, Parse.attempt, probed]
  cases qualifiers safe cursor with
  | error fault => rfl
  | ok found => rfl

theorem steady_beginsFunction : Steady (beginsFunction false) := by
  intro cursor last
  simp only [beginsFunction_apply]
  rcases steady_qualifiers cursor last with same | ⟨value, kept, kept'⟩
  · rw [same]
    cases qualifiers false cursor with
    | error fault => exact .inr ⟨_, rfl, rfl⟩
    | ok found => exact .inr ⟨_, rfl, rfl⟩
  · rw [kept, kept']
    exact .inr ⟨_, rfl, rfl⟩

theorem steady_visibility : Steady visibility := by
  unfold visibility
  refine Parse.steady_get (fun _ _ => rfl) fun cursor => ?_
  split
  · exact (Parse.firm_advance _ _).bind.steady
  · exact .word? "pub" (Parse.steady_pure _)

/-! ### Bodies of items -/

/-- A production that never comes to a structure. -/
def NoStruct (production : Parse ItemBody) : Prop :=
  ∀ cursor item after, production cursor ≠ .ok (.struct item, after)

/-- A structure that the first production reads is read by the second one with other attributes,
wherever the last token ended. -/
def Carries (attributes : List Node) (production production' : Parse ItemBody) : Prop :=
  ∀ (cursor : Cursor) (last : Span) item after, production cursor = .ok (.struct item, after) →
    production' { cursor with last } = .ok (.struct { item with attributes }, after)

section

variable {attributes : List Node} {production production' other other' : Parse ItemBody}

theorem NoStruct.bind {first : Parse α} {next : α → Parse ItemBody}
    (each : ∀ value, NoStruct (next value)) : NoStruct (first >>= next) := by
  intro cursor item after read
  obtain ⟨value, there, -, read⟩ := Parse.eq_of_bind_ok read
  exact each value there item after read

theorem noStruct_kept (kept : Kept) : NoStruct (pure (.kept kept)) := nofun

theorem noStruct_impl (item : ImplItem) : NoStruct (pure (.impl item)) := nofun

theorem noStruct_fail (cause : Cause) : NoStruct (Parse.fail cause) := nofun

theorem noStruct_map (production : Parse Kept) : NoStruct (.kept <$> production) :=
  NoStruct.bind fun kept : Kept => noStruct_kept kept

theorem NoStruct.ite {condition : Bool} (yes : NoStruct production) (no : NoStruct other) :
    NoStruct (if condition then production else other) := by
  cases condition with
  | true => exact yes
  | false => exact no

theorem NoStruct.carries (none : NoStruct production) : Carries attributes production production' :=
  fun cursor _ item after read => absurd read (none cursor item after)

theorem Carries.ite {condition : Bool} (yes : Carries attributes production production')
    (no : Carries attributes other other') :
    Carries attributes (if condition then production else other)
      (if condition then production' else other') := by
  cases condition with
  | true => exact yes
  | false => exact no

theorem Carries.bind {first : Parse α} {next next' : α → Parse ItemBody} (steady : Steady first)
    (each : ∀ value, Carries attributes (next value) (next' value)) :
    Carries attributes (first >>= next) (first >>= next') := by
  intro cursor last item after read
  obtain ⟨value, there, taken, read⟩ := Parse.eq_of_bind_ok read
  rcases steady cursor last with same | ⟨_, kept, kept'⟩
  · rw [Parse.bind_ok (same.trans taken)]
    exact each value there there.last item after read
  · rw [kept] at taken
    cases taken
    rw [Parse.bind_ok kept']
    exact each _ cursor last item after read

end

/-- An item of another kind, if what stands here says so. -/
theorem Carries.unless {attributes : List Node} {other other' : Parse ItemBody} {ask : Parse Bool}
    (steady : Steady ask) (production : Parse Kept) (rest : Carries attributes other other') :
    Carries attributes (do if ← ask then .kept <$> production else other)
      (do if ← ask then .kept <$> production else other') :=
  .bind steady fun _ => .ite (noStruct_map production).carries rest

theorem noStruct_implRest (attributes : List Node) (visible : Bool) :
    NoStruct (do
      match ← implRest rules attributes visible with
      | some item => return .impl item
      | none => return .kept .asWritten) := by
  refine .bind fun found => ?_
  cases found with
  | some item => exact noStruct_impl item
  | none => exact noStruct_kept _

theorem noStruct_unsafeItem (attributes : List Node) (visible : Bool) :
    NoStruct (unsafeItem rules attributes visible) := by
  unfold unsafeItem
  refine .bind fun isTrait => .bind fun isAuto => .ite (noStruct_map _) ?_
  refine .bind fun isImpl => .ite (noStruct_implRest rules attributes visible) ?_
  refine .bind fun isForeign => .ite (noStruct_map _) ?_
  exact .bind fun isModule => .ite (noStruct_map _) (noStruct_fail _)

/-- The attributes of a structure are kept, and nothing else is done with them. -/
theorem structRest_eq (attributes : List Node) (visibility : Visibility) :
    structRest rules attributes visibility =
      (fun item => { item with attributes }) <$> structRest rules [] visibility := by
  simp only [structRest, map_bind, map_pure, apply_ite (Functor.map _)]

theorem carries_structRest (attributes attributes' : List Node) (visibility : Visibility) :
    Carries attributes' (.struct <$> structRest rules attributes visibility)
      (.struct <$> structRest rules attributes' visibility) := by
  intro cursor last item after read
  obtain ⟨found, read, own⟩ := Parse.eq_of_map_ok read
  cases own
  rw [structRest_eq] at read ⊢
  obtain ⟨plain, own, rfl⟩ := Parse.eq_of_map_ok read
  have firm : Firm (structRest rules [] visibility) := (Parse.firm_word "struct").bind
  have moved := (firm cursor last).trans own
  rw [Parse.map_ok (Parse.map_ok moved)]

theorem carries_itemBody (attributes attributes' : List Node) (visibility : Visibility) :
    Carries attributes' (itemBody rules attributes visibility)
      (itemBody rules attributes' visibility) := by
  have word (text : String) : Steady (peekWord text) := Parse.steady_peek _
  have second (look : Look) : Steady (peek look) := Parse.steady_peek look
  unfold itemBody
  refine .bind steady_beginsFunction fun isFunction => .ite ?_ ?_
  · refine (NoStruct.bind fun signature => .bind fun ended => .ite ?_ ?_).carries
    · exact noStruct_kept _
    · exact .bind fun body => noStruct_kept _
  refine .unless (word "extern") _ (.unless (word "use") _ (.unless (word "static") _ ?_))
  refine .unless (Parse.steady_word? "const") _ ?_
  refine .bind (word "unsafe") fun isUnsafe => .ite (noStruct_unsafeItem rules _ _).carries ?_
  refine .unless (word "mod") _ (.unless (word "type") _ ?_)
  refine .bind (word "struct") fun isStruct => .ite (carries_structRest rules _ _ _) ?_
  refine .unless (word "enum") _ ?_
  refine .bind (word "union") fun isUnion => .bind (second _) fun named => ?_
  refine .ite (noStruct_map _).carries (.unless (word "trait") _ ?_)
  refine .bind (word "auto") fun isAuto => .bind (second _) fun isTrait => ?_
  refine .ite (noStruct_map _).carries ?_
  refine .bind (word "impl") fun isImpl => .bind (word "default") fun isDefault => ?_
  refine .bind (second _) fun isMacro => .ite (noStruct_implRest rules _ _).carries ?_
  refine .unless (word "macro") _ (.bind (second _) fun beginsMacro => ?_)
  exact .ite (noStruct_map _).carries (noStruct_fail _).carries

/-! ### Items -/

/-- The attributes, the visibility and the body of an item; `before` are its tokens. -/
def itemParts (before : List Token) : Parse Item := do
  let attributes ← outerAttributes rules
  let visibility ← visibility
  let body ← itemBody rules attributes visibility
  match body with
  | .struct item => return Item.struct item
  | .impl item => return .impl item
  | .kept kept =>
    let nodes ← orAsWritten before (attributes ++ visibility.nodes) kept
    return .other nodes .callSite

variable {rules}

theorem item_apply (cursor : Cursor) : item rules cursor =
    (Parse.spanned (itemParts rules cursor.tokens) >>= fun (found, span) => match found with
      | .struct item => return .struct item
      | .impl item => return .impl { item with span }
      | .other nodes _ => return .other nodes span) cursor := rfl

theorem itemParts_struct_iff {before : List Token} {cursor after : Cursor} {found : StructItem} :
    itemParts rules before cursor = .ok (.struct found, after) ↔
      ∃ attributes behind visible there,
        outerAttributes rules cursor = .ok (attributes, behind) ∧
        visibility behind = .ok (visible, there) ∧
        itemBody rules attributes visible there = .ok (.struct found, after) := by
  constructor
  · intro read
    obtain ⟨attributes, behind, first, read⟩ := Parse.eq_of_bind_ok read
    obtain ⟨visible, there, second, read⟩ := Parse.eq_of_bind_ok read
    obtain ⟨body, last, third, read⟩ := Parse.eq_of_bind_ok read
    refine ⟨attributes, behind, visible, there, first, second, ?_⟩
    cases body with
    | struct item =>
        cases read
        exact third
    | impl item => cases read
    | kept kept =>
        obtain ⟨nodes, _, _, read⟩ := Parse.eq_of_bind_ok read
        cases read
  · rintro ⟨attributes, behind, visible, there, first, second, third⟩
    rw [itemParts, Parse.bind_ok first, Parse.bind_ok second, Parse.bind_ok third]
    rfl

/-- The span of a structure is not kept. -/
theorem item_struct_iff {cursor after : Cursor} {found : StructItem} :
    item rules cursor = .ok (.struct found, after) ↔
      itemParts rules cursor.tokens cursor = .ok (.struct found, after) := by
  rw [item_apply]
  constructor
  · intro read
    obtain ⟨⟨parts, span⟩, there, spanned, read⟩ := Parse.eq_of_bind_ok read
    cases parts with
    | struct item =>
        cases read
        exact Parse.eq_of_spanned_ok spanned
    | impl item => cases read
    | other nodes span => cases read
  · intro read
    obtain ⟨span, spanned⟩ := Parse.spanned_ok read
    rw [Parse.bind_ok spanned]
    rfl

/-- A structure behind one more attribute: what is read is the same, but for its attributes. -/
theorem item_attributed {cursor cursor' behind after : Cursor} {found : StructItem}
    {attributes attributes' : List Node} {last : Span}
    (read : item rules cursor = .ok (.struct found, after))
    (first : outerAttributes rules cursor = .ok (attributes, behind))
    (first' : outerAttributes rules cursor' = .ok (attributes', { behind with last })) :
    found.attributes = attributes ∧
      item rules cursor' = .ok (.struct { found with attributes := attributes' }, after) := by
  rw [item_struct_iff, itemParts_struct_iff] at read
  obtain ⟨own, there, visible, next, begun, seen, body⟩ := read
  cases first.symm.trans begun
  constructor
  · have again :=
      carries_itemBody rules attributes attributes visible next next.last found after body
    have same := body.symm.trans again
    simp only [Except.ok.injEq, Prod.mk.injEq, ItemBody.struct.injEq, and_true] at same
    rw [same]
  · obtain ⟨last', moved⟩ := steady_visibility.moved seen last
    have again := carries_itemBody rules attributes attributes' visible next last' found after body
    exact item_struct_iff.mpr (itemParts_struct_iff.mpr
      ⟨attributes', _, visible, _, first', moved, again⟩)

/-! ### Option attributes -/

/-- Where the tokens of an option attribute stand. -/
structure AttributePlace where
  joint : Bool
  mark : Span
  word : Span
  opening : Span
  closing : Span
  outerOpening : Span
  outerClosing : Span

namespace AttributePlace

/-- The tokens of an option attribute with given arguments. -/
def tokens (place : AttributePlace) (options : List Token) : List Token :=
  [ .mark '#' place.joint place.mark,
    .group .bracket
      [.word ⟨optionName, place.word⟩, .group .paren options place.opening place.closing]
      place.outerOpening place.outerClosing ]

/-- What is read of these tokens. -/
def head (place : AttributePlace) (options : List Token) : AttributeHead where
  inner := false
  rooted := false
  path := [⟨optionName, place.word⟩]
  argument := .list .paren options place.closing
  metaSpan := place.word.through place.closing
  span := place.mark.through place.outerClosing

end AttributePlace

variable {place : AttributePlace} {options tokens : List Token} {scope last : Span}

theorem attributeNode_optionAttribute :
    attributeNode rules false ⟨place.tokens options ++ tokens, scope, last⟩ =
      .ok (.attribute (place.head options) [], ⟨tokens, scope, place.outerClosing⟩) := rfl

theorem outerAttributes_attributed {attributes : List Node} {behind : Cursor}
    (read : outerAttributes rules ⟨tokens, scope, last⟩ = .ok (attributes, behind)) :
    ∃ last', outerAttributes rules ⟨place.tokens options ++ tokens, scope, last⟩ =
      .ok (.attribute (place.head options) [] :: attributes, { behind with last := last' }) := by
  let next : Cursor := ⟨tokens, scope, place.outerClosing⟩
  have steady : Steady (Parse.whileLoop (peekMark "#") (attributeNode rules false)
      (Token.sizes tokens + 1)) :=
    Parse.steady_whileLoop (Look.mark "#") (firm_attributeNode rules) _
  obtain ⟨last', moved⟩ := steady.moved read place.outerClosing
  have more : Token.sizes tokens + 1 ≤ Token.sizes (place.tokens options ++ tokens) := by
    simp only [AttributePlace.tokens, List.cons_append, List.nil_append, Token.sizes, Token.size]
    omega
  have again : Parse.whileLoop (peekMark "#") (attributeNode rules false)
      (Token.sizes (place.tokens options ++ tokens)) next =
        .ok (attributes, { behind with last := last' }) :=
    Parse.whileLoop_of_le more moved
  have found : peekMark "#" ⟨place.tokens options ++ tokens, scope, last⟩ =
      .ok (true, ⟨place.tokens options ++ tokens, scope, last⟩) := rfl
  refine ⟨last', ?_⟩
  rw [outerAttributes, Parse.many_apply, Parse.whileLoop, Parse.bind_ok found, if_pos rfl,
    Parse.bind_ok attributeNode_optionAttribute, Parse.bind_ok again]
  rfl

/-! ### Token lists that are one item -/

/-- The tokens of one item, and nothing but it. -/
theorem items_sole_iff {first : Token} {rest : List Token} {found : Item} :
    Source.items (first :: rest) = .ok [found] ↔
      ∃ after, item .whole (Parse.Cursor.start (first :: rest)) = .ok (found, after) ∧
        after.tokens = [] := by
  rw [Source.items, Source.read, Parse.run_eq_ok_iff]
  constructor
  · rintro ⟨after, read, -⟩
    obtain ⟨taken, ended⟩ := Parse.many_sole_iff.mp read
    exact ⟨after, taken, ended⟩
  · rintro ⟨after, taken, ended⟩
    exact ⟨after, Parse.many_sole_iff.mpr ⟨taken, ended⟩, by rw [ended]; rfl⟩

theorem item_of_items {found : Item} (sole : Source.items tokens = .ok [found]) :
    Source.item tokens = .ok found := by
  cases tokens with
  | nil => cases sole
  | cons first rest =>
      obtain ⟨after, read, ended⟩ := items_sole_iff.mp sole
      rw [Source.item, Source.read, Parse.run_eq_ok_iff]
      exact ⟨after, read, by rw [ended]; rfl⟩

/-- The tokens of a structure behind those of an option attribute are the structure with this
attribute in front of its own. -/
theorem items_optionAttribute {found : StructItem}
    (sole : Source.items tokens = .ok [.struct found]) :
    Source.items (place.tokens options ++ tokens) =
      .ok [.struct { found with
        attributes := .attribute (place.head options) [] :: found.attributes }] := by
  cases tokens with
  | nil => cases sole
  | cons first rest =>
      obtain ⟨after, read, ended⟩ := items_sole_iff.mp sole
      have begun := itemParts_struct_iff.mp (item_struct_iff.mp read)
      obtain ⟨attributes, behind, -, -, begun, -⟩ := begun
      obtain ⟨last, begun'⟩ := outerAttributes_attributed begun
      obtain ⟨rfl, again⟩ := item_attributed read begun begun'
      exact items_sole_iff.mpr ⟨after, again, ended⟩

end SlotSum.Grammar
