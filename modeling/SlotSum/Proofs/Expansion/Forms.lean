import SlotSum.Proofs.Expansion.Unread
import SlotSum.Proofs.Source.Attributed
import SlotSum.Proofs.Source.Placeless

/-!
The two places where the options of a structure may stand. Next to the structure they are a text of
their own; on the structure of a block they are the arguments of an attribute. Either way they are
the same words with the same faults, and what is made of the structure is the same.
-/

namespace SlotSum

/-! ### Options wherever they stand -/

namespace Parse

theorem placeless_optionWordsLoop (choices seen : List String) (turns : Nat) :
    Placeless (optionWordsLoop choices seen turns) := by
  induction turns generalizing seen with
  | zero => exact placeless_fail _
  | succ turns ih =>
      refine placeless_isEmpty.bind fun ended => ?_
      cases ended with
      | true => exact placeless_pure []
      | false =>
          refine placeless_get (fun _ _ tokens => by rw [tokens]) fun cursor => ?_
          split
          · exact placeless_fail _
          · rename_i choice _
            refine (placeless_word choice).bind fun name => ?_
            have rest : Placeless (do
                if ← isEmpty then return [name]
                mark ","
                return name :: (← optionWordsLoop choices (choice :: seen) turns)) := by
              refine placeless_isEmpty.bind fun ended => ?_
              cases ended with
              | true => exact placeless_pure [name]
              | false =>
                  refine (placeless_mark ",").bind fun _ => ?_
                  exact (ih (choice :: seen)).bind fun _ => placeless_pure _
            cases repeated : seen.contains choice with
            | true => exact placeless_throw _
            | false => exact rest

theorem placeless_optionsParse : Placeless Options.parse := by
  have budgeted : Placeless (optionWords Options.names) := by
    refine placeless_get (fun _ _ tokens => by rw [tokens]) fun cursor => ?_
    exact placeless_optionWordsLoop _ _ _
  exact budgeted.bind fun words => placeless_pure _

end Parse

/-- Two results are one and the same, or both are rejected with the same messages. -/
inductive Checked.Agrees : Checked α → Checked α → Prop
  | accepted (value : α) : Agrees (.ok value) (.ok value)
  | rejected (messages : diagnostics.map Diagnostic.message = diagnostics'.map Diagnostic.message) :
      Agrees (.error diagnostics) (.error diagnostics')

/-- Options are read of an attribute as they are of a text. -/
theorem options_agree (place : Grammar.AttributePlace) (options : List Token) :
    Checked.Agrees (Options.read options) (place.head options).options := by
  have alike := Parse.placeless_optionsParse.inside options .callSite place.closing
    ⟨[], .callSite, .callSite⟩ ⟨options, place.closing, place.closing⟩
  simp only [Options.read, Parse.run, AttributeHead.options, AttributeHead.readArguments,
    Grammar.AttributePlace.head]
  generalize Parse.inside options .callSite Options.parse _ = found at alike ⊢
  generalize Parse.inside options place.closing Options.parse _ = found' at alike ⊢
  cases alike with
  | @ok found found' same =>
      obtain ⟨value, after⟩ := found
      obtain ⟨value', after'⟩ := found'
      obtain rfl : value = value' := same
      exact .accepted value
  | @error fault fault' cause atEnd =>
      have message : fault.message = fault'.message := by
        rw [Fault.message, Fault.message, cause, atEnd]
      exact .rejected (congrArg (fun text => [text]) message)

/-! ### Both forms -/

/-- Two expansions are one and the same, or both are rejected with the same messages. -/
inductive Attempt.Agrees : Attempt α → Attempt α → Prop
  | expanded (value : α) : Agrees (.ok value) (.ok value)
  | rejected (messages : diagnostics.map Diagnostic.message = diagnostics'.map Diagnostic.message) :
      Agrees (.error (.rejected diagnostics)) (.error (.rejected diagnostics'))

/-- The structure with an option attribute in front of its own attributes. -/
def StructItem.attributed (item : StructItem) (head : AttributeHead) : StructItem :=
  { item with attributes := .attribute head [] :: item.attributes }

section

variable {item : StructItem} {place : Grammar.AttributePlace} {options tokens : List Token}

theorem withoutUnread_attributed {head : AttributeHead} (named : head.isNamed optionName = true) :
    (item.attributed head).withoutUnread = item.withoutUnread := by
  have carries : (Node.attribute head []).carriesOptions = true := by
    simpa [Node.carriesOptions, Node.head?] using named
  simp [StructItem.attributed, StructItem.withoutUnread, carries]

theorem blockOptions_attributed {head : AttributeHead} (named : head.isNamed optionName = true)
    (bare : attributesNamed optionName item.attributes = []) :
    blockOptions (item.attributed head) = head.options := by
  have sole : attributesNamed optionName (item.attributed head).attributes = [head] := by
    rw [attributesNamed] at bare ⊢
    simp [StructItem.attributed, Node.head?, named, bare]
  simp only [blockOptions, sole]
  cases head.options <;> simp only

/-- What becomes of a structure under given options. -/
def StructItem.expanded (item : StructItem) (options : Options) : Checked (List Tree) := do
  let added ← synthesize (.ofStruct item) options
  return (Item.struct item).strippedTrees ++ added

theorem expanded_attributed {head : AttributeHead} (named : head.isNamed optionName = true) :
    (item.attributed head).expanded = item.expanded := by
  have same : (item.attributed head).withoutUnread = item.withoutUnread :=
    withoutUnread_attributed named
  funext options
  have added : synthesize (.ofStruct (item.attributed head)) options =
      synthesize (.ofStruct item) options := by
    rw [← synthesize_withoutUnread, same, synthesize_withoutUnread]
  have printed : (Item.struct (item.attributed head)).strippedTrees =
      (Item.struct item).strippedTrees := by
    rw [← Item.strippedTrees_withoutUnread, same, Item.strippedTrees_withoutUnread]
  rw [StructItem.expanded, StructItem.expanded, added, printed]

/-- A block of one structure is expanded as the structure alone is. -/
theorem expandItems_struct (item : StructItem) :
    expandItems [.struct item] = blockOptions item >>= item.expanded := by
  simp only [expandItems, List.flatMap_singleton]
  rfl

theorem expandItem_struct (parsed : Source.item tokens = .ok (.struct item)) :
    expandItem options tokens = Attempt.checked (Options.read options >>= item.expanded) := by
  rw [expandItem, parsed]
  cases Options.read options with
  | error diagnostics => rfl
  | ok asked =>
      change (Attempt.checked (synthesize (.ofStruct item) asked) >>= fun added =>
          pure ((Item.struct item).strippedTrees ++ added)) =
        Attempt.checked (synthesize (.ofStruct item) asked >>= fun added =>
          pure ((Item.struct item).strippedTrees ++ added))
      cases synthesize (.ofStruct item) asked with
      | error diagnostics => rfl
      | ok added => rfl

theorem Checked.Agrees.expanded {left right : Checked Options} (agree : left.Agrees right)
    (next : Options → Checked α) :
    Attempt.Agrees (Attempt.checked (left >>= next)) (Attempt.checked (right >>= next)) := by
  cases agree with
  | accepted options =>
      have reached : (Except.ok options >>= next) = next options := rfl
      rw [reached]
      cases next options with
      | error diagnostics => exact .rejected rfl
      | ok value => exact .expanded value
  | rejected messages => exact .rejected messages

end

/-- Options next to a structure and the same options on it, in a block that holds nothing else, come
to the same output or to the same messages. -/
theorem forms_agree {options tokens : List Token} {item : StructItem}
    (sole : Source.items tokens = .ok [.struct item])
    (bare : attributesNamed optionName item.attributes = []) (place : Grammar.AttributePlace) :
    Attempt.Agrees (expandItem options tokens) (expandBlock (place.tokens options ++ tokens)) := by
  have named : (place.head options).isNamed optionName = true := by
    simp [Grammar.AttributePlace.head, AttributeHead.isNamed]
  have block : expandBlock (place.tokens options ++ tokens) =
      Attempt.checked ((place.head options).options >>= item.expanded) := by
    rw [expandBlock, Grammar.items_optionAttribute sole, ← blockOptions_attributed named bare,
      ← expanded_attributed named, ← expandItems_struct]
    rfl
  rw [expandItem_struct (Grammar.item_of_items sole), block]
  exact (options_agree place options).expanded item.expanded

/-- A structure with attributes of its own and of a field, and a parameter. -/
def derivedText : String :=
  "#[derive(Clone)] pub struct S<T> \x7b x: Option<T>, y: Option<u8>, #[one_of(skip)] z: Option<u8> \x7d"

theorem forms_agree_derived :
    ∃ options tokens item, Attempt.lexed "serde, eq" = .ok options ∧
      Attempt.lexed derivedText = .ok tokens ∧ Source.items tokens = .ok [.struct item] ∧
      attributesNamed optionName item.attributes = [] ∧
      Attempt.Agrees (expandItem options tokens)
        (expandBlock (Grammar.AttributePlace.tokens ⟨false, .callSite, .callSite, .callSite,
          .callSite, .callSite, .callSite⟩ options ++ tokens)) := by
  have words : (Attempt.lexed "serde, eq").toOption.isSome = true := by decide +kernel
  have declared : ((Attempt.lexed derivedText).toOption.any fun tokens =>
      (Source.items tokens).toOption.any fun items =>
        items.length = 1 && items.all fun item =>
          item.struct?.any fun item => (attributesNamed optionName item.attributes).isEmpty) =
      true := by
    decide +kernel
  obtain ⟨options, asked⟩ := Option.isSome_iff_exists.mp words
  obtain ⟨tokens, lexed, declared⟩ := (Option.any_eq_true _ _).mp declared
  obtain ⟨items, parsed, declared⟩ := (Option.any_eq_true _ _).mp declared
  simp only [Bool.and_eq_true, decide_eq_true_eq, List.all_eq_true] at declared
  obtain ⟨first, rfl⟩ := List.length_eq_one_iff.mp declared.1
  obtain ⟨item, found, bare⟩ := (Option.any_eq_true _ _).mp (declared.2 first (.head _))
  cases first with
  | struct own =>
      cases found
      have sole := toOption_eq_some.mp parsed
      have bare := List.isEmpty_iff.mp bare
      exact ⟨options, tokens, item, toOption_eq_some.mp asked, toOption_eq_some.mp lexed, sole,
        bare, forms_agree sole bare _⟩
  | impl | other => cases found

end SlotSum
