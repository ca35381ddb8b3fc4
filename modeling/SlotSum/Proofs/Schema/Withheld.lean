import SlotSum.Inspect
import SlotSum.Proofs.Payload.Closing
import SlotSum.Proofs.Payload.Numeral
import SlotSum.Proofs.Schema.Conversions

/-!
Conversions are withheld from a schema with two payloads that are alike by their texts. Payloads
that are alike in all but their pointers, function types and trait objects, payloads that become one
when values are chosen for the constants of the owner, and payloads that differ in how their numbers
are spelled may still differ in their texts. Then nothing is withheld because of them.
-/

namespace SlotSum

/-- The names of the parameters that stand for constants. -/
def Generics.constParams (generics : Generics) : List String :=
  generics.params.filterMap fun param => match param with
    | .const _ name _ _ => some name
    | _ => none

namespace Plan

variable {schema : Schema} {options : Options} {plan : Plan}

theorem withheld_of_alike (accepted : analyze schema options = .ok plan) {consts : List String}
    {i j : Nat} {first second : Slot} (differ : i ≠ j) (here : schema.slots[i]? = some first)
    (there : schema.slots[j]? = some second)
    (alike : Ty.Alike schema.typeParams consts (.byText schema.typeParams) first.payload
      second.payload) :
    ∀ conversions ∈ plan.conversions, conversions = ⟨false, false⟩ := by
  rcases Nat.lt_or_gt_of_ne differ with before | before
  · exact withheld_of_overlaps accepted before here there (Ty.overlaps_of_alike alike)
  · exact withheld_of_overlaps accepted before there here (Ty.overlaps_of_alike alike.symm)

/-! ### Pointers, function types and trait objects -/

/-- Types that are alike in all but their pointers, function types and trait objects overlap just if
these are alike by their texts. Then no schema with both of them as payloads has a conversion. -/
theorem texts_decide {params consts : List String} {types : Ty → Ty → Prop} {a b : Ty}
    (alike : Ty.Alike params consts { Matching.byText params with types } a b) :
    (a.overlaps params b = true ↔ Ty.Alike params consts (.byText params) a b) ∧
    (Ty.Alike params consts (.byText params) a b →
      ∀ (schema : Schema) (options : Options) (plan : Plan), analyze schema options = .ok plan →
        schema.typeParams = params →
        ∀ (i j : Nat) (first second : Slot), i ≠ j → schema.slots[i]? = some first →
          schema.slots[j]? = some second → first.payload = a → second.payload = b →
          ∀ conversions ∈ plan.conversions, conversions = ⟨false, false⟩) := by
  refine ⟨Ty.overlaps_iff_alike alike, ?_⟩
  rintro texts schema options plan accepted rfl i j first second differ here there rfl rfl
  exact withheld_of_alike accepted differ here there texts

def pointer (target : Ty) : Ty := .composite .pointer [.word "*", .word "const", .type target]

/-- Parentheses behind a pointer always tell types apart in which no parameter occurs. -/
theorem pointer_paren_apart {params : List String} {target : Ty}
    (noParam : target.mentions params = false) :
    (pointer target).overlaps params (pointer (.paren target)) = false := by
  have opening : "(".length = 1 := rfl
  have space : " ".length = 1 := rfl
  -- the text with parentheses is longer, whatever the target prints as
  have longer : (pointer target).key.length < (pointer (.paren target)).key.length := by
    simp only [pointer, Ty.key, Ty.bare, Ty.text, Ty.trees, Node.treesAll, Node.trees,
      List.append_nil, List.singleton_append, Tree.renderAll, Tree.render, Tree.gap, Tree.joint,
      Tree.parens, Tree.enclose, String.length_append, opening]
    cases target.trees with
    | nil =>
        simp only [Tree.renderAll]
        omega
    | cons first rest =>
        simp only [Bool.false_eq_true, if_false]
        omega
  cases overlap : (pointer target).overlaps params (pointer (.paren target)) with
  | false => rfl
  | true =>
      rcases Ty.overlaps_composite.mp overlap rfl with here | there | texts
      · simp [Ty.mentions, Node.anyMentions, Node.mentions, noParam] at here
      · simp [Ty.mentions, Node.anyMentions, Node.mentions, noParam] at there
      · change (pointer target).key = (pointer (.paren target)).key at texts
        rw [texts] at longer
        exact absurd longer (Nat.lt_irrefl _)

/-- Two slots that hold values in one of two spellings. -/
def respelled (near far : Ty) : Schema :=
  { owner := ⟨"Respelled", .callSite⟩, visibility := .inherited
    generics := ⟨[.const [] "N" (.path false [.mk "usize" .none]) [],
      .const [] "M" (.path false [.mk "usize" .none]) []], false, [], false⟩
    slots := [⟨⟨"near", .callSite⟩, near⟩, ⟨⟨"far", .callSite⟩, far⟩]
    others := [], derives := [], constructor := none }

def byte : Ty := .path false [.mk "u8" .none]

theorem texts_decide_outside :
    let near := pointer (.paren byte)
    let far := Ty.paren near
    near.overlaps [] far = true ∧
      ∃ plan, analyze (respelled near far) .default = .ok plan ∧
        ∀ conversions ∈ plan.conversions, conversions = ⟨false, false⟩ := by
  intro near far
  have alike : Ty.Alike [] [] { Matching.byText [] with types := fun _ _ => True } near far :=
    .composite rfl rfl fun _ => trivial
  have texts : Ty.Alike [] [] (.byText []) near far := .composite rfl rfl fun _ => .inr (.inr rfl)
  obtain ⟨overlap, withheld⟩ := texts_decide alike
  obtain ⟨plan, accepted⟩ : ∃ plan, analyze (respelled near far) .default = .ok plan := ⟨_, rfl⟩
  refine ⟨overlap.mpr texts, plan, accepted, ?_⟩
  exact withheld texts (respelled near far) .default plan accepted rfl 0 1 ⟨_, near⟩ ⟨_, far⟩
    (by decide) rfl rfl rfl rfl

/-- Parentheses, lifetimes, the path of a trait and the order of bounds tell types apart once they
are behind a pointer, in a function type or in a trait object. -/
theorem texts_decide_inside :
    (∀ pair ∈ [("*const u8", "*const (u8)"), ("fn(&'a u8)", "fn(&'b u8)"),
        ("Box<dyn Error>", "Box<dyn std::error::Error>"),
        ("Box<dyn Send + Sync>", "Box<dyn Sync + Send>")],
      ((readType pair.1).bind fun a =>
        (readType pair.2).map fun b => a.overlaps [] b).toOption = some false) ∧
    Ty.Alike [] [] { Matching.byText [] with types := fun _ _ => True } (pointer byte)
      (pointer (.paren byte)) ∧
    (pointer byte).overlaps [] (pointer (.paren byte)) = false ∧
    ∃ plan, analyze (respelled (pointer byte) (pointer (.paren byte))) .default = .ok plan ∧
      plan.conversions = [⟨true, true⟩, ⟨true, true⟩] := by
  obtain ⟨plan, accepted⟩ :
      ∃ plan, analyze (respelled (pointer byte) (pointer (.paren byte))) .default = .ok plan :=
    ⟨_, rfl⟩
  have conversions : plan.conversions = [⟨true, true⟩, ⟨true, true⟩] :=
    (conversions_of_analyze accepted).trans (by decide +kernel)
  refine ⟨by decide +kernel, .composite rfl rfl fun _ => trivial, pointer_paren_apart rfl, plan,
    accepted, conversions⟩

/-! ### Constants -/

/-- Payloads that become one by a choice for all parameters of the owner, constants included,
overlap just if they are alike by their texts. Then the schema has no conversion. -/
theorem constants_decide (accepted : analyze schema options = .ok plan) {i j : Nat}
    {first second : Slot} (differ : i ≠ j) (here : schema.slots[i]? = some first)
    (there : schema.slots[j]? = some second) {left right : Closing}
    (same : Ty.Same (first.payload.close schema.typeParams schema.generics.constParams left)
      (second.payload.close schema.typeParams schema.generics.constParams right)) :
    (first.payload.overlaps schema.typeParams second.payload = true ↔
      Ty.Alike schema.typeParams schema.generics.constParams (.byText schema.typeParams)
        first.payload second.payload) ∧
    (Ty.Alike schema.typeParams schema.generics.constParams (.byText schema.typeParams)
        first.payload second.payload →
      ∀ conversions ∈ plan.conversions, conversions = ⟨false, false⟩) :=
  ⟨Ty.overlaps_iff_alike (Ty.alike_of_close first.payload second.payload same),
    withheld_of_alike accepted differ here there⟩

/-- All constants are three, and no type is chosen. -/
def three : Closing :=
  { param := fun name => .path false [.mk name .none], projection := id
    value := fun _ => [.literal [] false "3"] }

def bytes (length : String) : Ty := .array byte [.word length]

def block (size : Argument) : Ty := .path false [.mk "Block" (.angle false [size] false)]

theorem constants_decide_lengths :
    ∃ plan, analyze (respelled (bytes "N") (bytes "M")) .default = .ok plan ∧
      (bytes "N").close [] ["N", "M"] three = (bytes "M").close [] ["N", "M"] three ∧
      ∀ conversions ∈ plan.conversions, conversions = ⟨false, false⟩ := by
  obtain ⟨plan, accepted⟩ :
      ∃ plan, analyze (respelled (bytes "N") (bytes "M")) .default = .ok plan := ⟨_, rfl⟩
  have closed : (bytes "N").close [] ["N", "M"] three = (bytes "M").close [] ["N", "M"] three := rfl
  have same : Ty.Same ((bytes "N").close [] ["N", "M"] three)
      ((bytes "M").close [] ["N", "M"] three) := Ty.Same.refl _
  have overlap : (bytes "N").overlaps [] (bytes "M") = true := by decide +kernel
  obtain ⟨texts, withheld⟩ := constants_decide (i := 0) (j := 1) accepted (by decide) rfl rfl same
  exact ⟨plan, accepted, closed, withheld (texts.mp overlap)⟩

/-- Values make one type of a type with one parameter and the same type with another one, or with a
number, but their arguments print differently. -/
theorem constants_decide_arguments :
    let near := block (.type (.path false [.mk "N" .none]))
    (∀ text ∈ ["Block<M>", "Block<3>"],
      ((readType "Block<N>").bind fun a =>
        (readType text).map fun b => a.overlaps [] b).toOption = some false) ∧
    ∀ size ∈ [Argument.type (.path false [.mk "M" .none]), .const [.literal [] false "3"]],
      near.close [] ["N", "M"] three = (block size).close [] ["N", "M"] three ∧
      ∃ plan, analyze (respelled near (block size)) .default = .ok plan ∧
        plan.conversions = [⟨true, true⟩, ⟨true, true⟩] := by
  intro near
  have planned : ∀ size ∈ [Argument.type (.path false [.mk "M" .none]),
      .const [.literal [] false "3"]],
      planConversions (respelled near (block size)) = [⟨true, true⟩, ⟨true, true⟩] := by
    decide +kernel
  refine ⟨by decide +kernel, fun size member => ⟨?_, ?_⟩⟩
  · simp only [List.mem_cons, List.not_mem_nil, or_false] at member
    rcases member with rfl | rfl
    · rfl
    · rfl
  · obtain ⟨plan, accepted⟩ :
        ∃ plan, analyze (respelled near (block size)) .default = .ok plan := ⟨_, rfl⟩
    exact ⟨plan, accepted, (conversions_of_analyze accepted).trans (planned size member)⟩

/-! ### Numbers -/

/-- Types that are alike in all but the spelling of their numbers overlap just if they are alike by
their texts. Then no schema with both of them as payloads has a conversion. Two spellings of one
number overlap as arguments only if they are the same, and as lengths also if one of them is not a
plain literal. -/
theorem numerals_decide {params consts : List String} {a b : Ty}
    (alike : Ty.Alike params consts (.byNumber params) a b) :
    (a.overlaps params b = true ↔ Ty.Alike params consts (.byText params) a b) ∧
    (Ty.Alike params consts (.byText params) a b →
      ∀ (schema : Schema) (options : Options) (plan : Plan), analyze schema options = .ok plan →
        schema.typeParams = params →
        ∀ (i j : Nat) (first second : Slot), i ≠ j → schema.slots[i]? = some first →
          schema.slots[j]? = some second → first.payload = a → second.payload = b →
          ∀ conversions ∈ plan.conversions, conversions = ⟨false, false⟩) ∧
    ∀ (first second : Numeral) (number : Int), first.value? = some number →
      second.value? = some number →
      (Ty.argumentOverlaps params (.const first.nodes) (.const second.nodes) = true ↔
        first = second) ∧
      ∀ near far : Ty, near.overlaps params far = true →
        ((Ty.array near first.nodes).overlaps params (.array far second.nodes) = true ↔
          (first.isLiteral = true → second.isLiteral = true → first = second)) := by
  refine ⟨Ty.overlaps_iff_alike alike, ?_, ?_⟩
  · rintro texts schema options plan accepted rfl i j first second differ here there rfl rfl
    exact withheld_of_alike accepted differ here there texts
  · refine fun first second number denotes denotes' =>
      ⟨Numeral.argumentOverlaps_iff denotes denotes', fun near far overlap => ?_⟩
    rw [Ty.overlaps_array, and_iff_left overlap]
    exact Numeral.lengths_iff

def four (text : String) (inBlock : Bool) : Numeral := ⟨false, text, inBlock⟩

def words (length : Numeral) : Ty := .array byte length.nodes

theorem sameNumber_four {text text' : String} {inBlock inBlock' : Bool}
    (denotes : integerValue text = some 4) (denotes' : integerValue text' = some 4) :
    SameNumber (four text inBlock).nodes (four text' inBlock').nodes :=
  ⟨four text inBlock, four text' inBlock', 4, by simp [Numeral.value?, four, denotes],
    by simp [Numeral.value?, four, denotes'], rfl, rfl⟩

theorem alike_byte : Ty.Alike [] [] (.byNumber []) byte byte := by
  refine .path rfl rfl fun place first second here there => ?_
  obtain rfl := Option.some.inj (here.symm.trans there)
  rw [List.mem_singleton.mp (Ty.mem_of_place here)]
  exact .bare

theorem alike_words {length length' : Numeral} (same : SameNumber length.nodes length'.nodes) :
    Ty.Alike [] [] (.byNumber []) (words length) (words length') :=
  .array rfl rfl (.inr same) alike_byte

theorem numerals_decide_block :
    Ty.argumentOverlaps [] (.const (four "4" false).nodes) (.const (four "4" true).nodes) = false ∧
    (words (four "4" false)).overlaps [] (words (four "0x4" true)) = true ∧
    ∃ plan, analyze (respelled (words (four "4" false)) (words (four "0x4" true))) .default =
        .ok plan ∧
      ∀ conversions ∈ plan.conversions, conversions = ⟨false, false⟩ := by
  have value : (four "4" false).value? = some 4 ∧ (four "4" true).value? = some 4 ∧
      (four "0x4" true).value? = some 4 := by decide +kernel
  have same : SameNumber (four "4" false).nodes (four "0x4" true).nodes :=
    sameNumber_four (by decide +kernel) (by decide +kernel)
  obtain ⟨-, -, numerals⟩ := numerals_decide alike_byte
  obtain ⟨texts, withheld, -⟩ := numerals_decide (alike_words same)
  have overlap := ((numerals _ _ 4 value.1 value.2.2).2 byte byte (by decide +kernel)).mpr nofun
  obtain ⟨plan, accepted⟩ : ∃ plan, analyze
      (respelled (words (four "4" false)) (words (four "0x4" true))) .default = .ok plan := ⟨_, rfl⟩
  refine ⟨?_, overlap, plan, accepted, withheld (texts.mp overlap) _ _ plan accepted rfl 0 1 ⟨_, _⟩
    ⟨_, _⟩ (by decide) rfl rfl rfl rfl⟩
  rw [← Bool.not_eq_true, (numerals _ _ 4 value.1 value.2.1).1]
  decide

/-- Another base, separators, the name of the type and a block tell types apart that are one, also
where the number is part of an argument. -/
theorem numerals_decide_spelled :
    (∀ pair ∈ [("[u8; 4]", "[u8; 0x4]"), ("[u8; 1000]", "[u8; 1_000]"), ("[u8; 4]", "[u8; 4usize]"),
        ("Block<4>", "Block<4usize>"), ("Block<4>", "Block<\x7b 4 \x7d>"),
        ("Vec<[Block<4>; 2]>", "Vec<[Block<0b100>; 2]>")],
      ((readType pair.1).bind fun a =>
        (readType pair.2).map fun b => a.overlaps [] b).toOption = some false) ∧
    Ty.Alike [] [] (.byNumber []) (words (four "4" false)) (words (four "0x4" false)) ∧
    (words (four "4" false)).overlaps [] (words (four "0x4" false)) = false ∧
    ∃ plan, analyze (respelled (words (four "4" false)) (words (four "0x4" false))) .default =
        .ok plan ∧
      plan.conversions = [⟨true, true⟩, ⟨true, true⟩] := by
  obtain ⟨plan, accepted⟩ : ∃ plan, analyze
      (respelled (words (four "4" false)) (words (four "0x4" false))) .default = .ok plan := ⟨_, rfl⟩
  refine ⟨by decide +kernel, alike_words ?_, by decide +kernel, plan, accepted, ?_⟩
  · exact sameNumber_four (by decide +kernel) (by decide +kernel)
  · exact (conversions_of_analyze accepted).trans (by decide +kernel)

end Plan

end SlotSum
