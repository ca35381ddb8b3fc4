import SlotSum.Proofs.Source.LengthReading
import SlotSum.Proofs.Source.PhraseReading
import SlotSum.Proofs.Token.Literal

/-!
Ordinary types. They are built from names, whose arguments are lifetimes, types and numbers. What such
a type prints is a phrase, and no literal in it is changed where it is shown.
-/

namespace SlotSum

/-! ### Words -/

/-- A word of letters, digits and underscores, other than the one that makes groups invisible. -/
def isPlainWord (name : String) : Bool :=
  name.toList.head?.any Text.isIdentifierStart && name.toList.all Text.isIdentifierPart &&
    name != "__group"

/-- A name that may have arguments. -/
def isPlainName (name : String) : Bool :=
  isPlainWord name && (!Token.isKeyword name || name == "Self")

def isPlainStep (name : String) : Bool :=
  isPlainName name || isPlainWord name && ["super", "self", "crate"].contains name

/-- The name of a lifetime, with its apostrophe. -/
def isPlainLifetime (text : String) : Bool :=
  text.toList.head? == some '\'' && isPlainWord (String.ofList text.toList.tail)

def isPlainNumber (text : String) : Bool := !text.toList.isEmpty && text.toList.all Char.isDigit

/-- A number with or without a sign. -/
def Node.areNumber : List Node → Bool
  | [.literal [] _ text] => isPlainNumber text
  | _ => false

/-- Words with a sign between any two of them. -/
def Node.areWords (sign : String) (good : String → Bool) : List Node → Bool
  | [.word text] => good text
  | .word text :: .word between :: rest => good text && between == sign && areWords sign good rest
  | _ => false

/-- A number or the path of a constant. -/
def Node.arePlainLength : List Node → Bool
  | [.literal [] false text] => isPlainNumber text
  | nodes => areWords "::" isPlainStep nodes

/-- Traits and lifetimes by name, just one if several are not let in. -/
def Node.arePlainBounds (plus : Bool) (nodes : List Node) : Bool :=
  areWords "+" (fun text => isPlainName text || isPlainLifetime text) nodes &&
    (plus || nodes.length == 1) && nodes.any fun node => match node with
      | .word text => isPlainName text
      | _ => false

/-! ### Types -/

mutual

/-- A type that is built from names; `plus` tells that it may have several bounds. -/
def Ty.isOrdinary (plus : Bool) : Ty → Bool
  | .group inner => inner.isOrdinary plus
  | .paren inner => inner.isOrdinary true
  | .path _ segments => !segments.isEmpty && Segment.areOrdinary segments
  | .projection subject qualified _ owner rest =>
    subject.isOrdinary true && (!qualified || !owner.isEmpty && Segment.areOrdinary owner) &&
      (!rest.isEmpty && Segment.areOrdinary rest)
  | .reference lifetime _ inner => lifetime.all isPlainLifetime && inner.isOrdinary false
  | .slice inner => inner.isOrdinary true
  | .array inner length => inner.isOrdinary true && Node.arePlainLength length
  | .tuple elements trailing => Ty.areOrdinary elements && (elements.length != 1 || trailing)
  | .never => true
  | .composite form parts => Node.areOrdinary plus form parts

def Ty.areOrdinary : List Ty → Bool
  | [] => true
  | first :: rest => first.isOrdinary true && Ty.areOrdinary rest

def Segment.isOrdinary : Segment → Bool
  | .mk name arguments => arguments.areOrdinary name

def Segment.areOrdinary : List Segment → Bool
  | [] => true
  | first :: rest => first.isOrdinary && Segment.areOrdinary rest

/-- Arguments behind a name. -/
def Arguments.areOrdinary (name : String) : Arguments → Bool
  | .none => isPlainStep name
  | .angle _ arguments trailing =>
    isPlainName name && Argument.areOrdinary true arguments && (!trailing || !arguments.isEmpty)
  | .round _ => false

/-- Arguments of which lifetimes come first, if there may be any. -/
def Argument.areOrdinary (lifetimes : Bool) : List Argument → Bool
  | [] => true
  | .lifetime name :: rest => lifetimes && isPlainLifetime name && Argument.areOrdinary true rest
  | .type type :: rest => type.isOrdinary true && Argument.areOrdinary false rest
  | .const nodes :: rest => Node.areNumber nodes && Argument.areOrdinary false rest
  | .binding _ :: _ => false

/-- The parts of a pointer, of a function without names, or of an object. -/
def Node.areOrdinary (plus : Bool) : Form → List Node → Bool
  | .pointer, [.word star, .word quality, .type inner] =>
    star == "*" && (quality == "mut" || quality == "const") && inner.isOrdinary false
  | .function, [.word keyword, .group .paren inputs] => keyword == "fn" && Node.areInputs inputs
  | .function, [.word keyword, .group .paren inputs, .word arrow, .type output] =>
    keyword == "fn" && Node.areInputs inputs && arrow == "->" && output.isOrdinary false
  | .traitObject, .word keyword :: bounds => keyword == "dyn" && Node.arePlainBounds plus bounds
  | .inferred, [.word underscore] => underscore == "_"
  | _, _ => false

/-- Types with commas between them, and possibly one at the end. -/
def Node.areInputs : List Node → Bool
  | [] => true
  | [.type type] => type.isOrdinary true
  | .type type :: .word comma :: rest =>
    type.isOrdinary true && comma == "," && Node.areInputs rest
  | _ => false

end

/-! ### Symbols that are kept -/

theorem isWord_of_plain {name : String} (plain : isPlainWord name = true) :
    IsWord name.toList ∧ name ≠ "__group" := by
  simp only [isPlainWord, Bool.and_eq_true, bne_iff_ne] at plain
  obtain ⟨⟨starts, parts⟩, other⟩ := plain
  refine ⟨?_, other⟩
  cases eq : name.toList with
  | nil => simp [eq] at starts
  | cons c rest =>
      rw [eq] at starts parts
      exact .plain (by simpa using starts) fun d member =>
        List.all_eq_true.mp parts d (List.mem_cons_of_mem c member)

theorem AreShowable.append {symbols others : List Symbol} (showable : AreShowable symbols)
    (showable' : AreShowable others) : AreShowable (symbols ++ others) := by
  induction showable with
  | nil => exact showable'
  | word isWord plain _ ih => exact .word isWord plain ih
  | lifetime isWord plain _ ih => exact .lifetime isWord plain ih
  | operator isOperator _ ih => exact .operator isOperator ih
  | literal isShowable _ ih => exact .literal isShowable ih
  | group visible inside _ _ ih => exact .group visible inside ih

namespace Symbol

/-- The leaves are what they are taken for, and no literal is changed where it is shown. -/
structure AreKept (symbols : List Symbol) : Prop where
  showable : AreShowable symbols
  same : tightenedAll symbols = symbols

section

variable {name : String} {symbols others : List Symbol}

theorem areKept_nil : AreKept [] := ⟨.nil, rfl⟩

theorem AreKept.word (plain : isPlainWord name = true) (kept : AreKept symbols) :
    AreKept (.word name :: symbols) := by
  obtain ⟨isWord, other⟩ := isWord_of_plain plain
  exact ⟨.word isWord other kept.showable, by rw [tightenedAll, kept.same, tightened]⟩

theorem AreKept.lifetime (plain : isPlainWord name = true) (kept : AreKept symbols) :
    AreKept (.lifetime name :: symbols) := by
  obtain ⟨isWord, other⟩ := isWord_of_plain plain
  exact ⟨.lifetime isWord other kept.showable, by rw [tightenedAll, kept.same, tightened]⟩

theorem AreKept.operator {text : String} (isOperator : IsOperator text.toList)
    (kept : AreKept symbols) : AreKept (.operator text :: symbols) :=
  ⟨.operator isOperator kept.showable, by rw [tightenedAll, kept.same, tightened]⟩

theorem AreKept.number {text : String} (isNumber : isPlainNumber text = true)
    (kept : AreKept symbols) : AreKept (.literal text :: symbols) := by
  simp only [isPlainNumber, Bool.and_eq_true, Bool.not_eq_true', List.isEmpty_eq_false_iff,
    List.all_eq_true] at isNumber
  have firm : ∀ d ∈ text.toList, Ty.isLoose d = false := fun d member =>
    isLoose_of_part (Lexeme.part_of_isDigit (isNumber.2 d member))
  refine ⟨.literal (isShowable_digits isNumber.2 isNumber.1) kept.showable, ?_⟩
  rw [tightenedAll, kept.same, tightened, Ty.tighten_of_unspaced (not_mem_of_firm firm),
    String.ofList_toList]

theorem AreKept.group {delimiter : Delimiter} {contents : List Symbol} (inside : AreKept contents)
    (visible : delimiter ≠ .invisible) (kept : AreKept symbols) :
    AreKept (.group delimiter contents :: symbols) :=
  ⟨.group visible inside.showable kept.showable, by
    rw [tightenedAll, kept.same, tightened, inside.same]⟩

theorem tightenedAll_append (symbols others : List Symbol) :
    tightenedAll (symbols ++ others) = tightenedAll symbols ++ tightenedAll others := by
  induction symbols with
  | nil => rfl
  | cons first rest ih => rw [List.cons_append, tightenedAll, tightenedAll, ih, List.cons_append]

theorem AreKept.append (kept : AreKept symbols) (kept' : AreKept others) :
    AreKept (symbols ++ others) :=
  ⟨kept.showable.append kept'.showable, by
    rw [tightenedAll_append, kept.same, kept'.same]⟩

/-- Parts with a separator between them. -/
theorem AreKept.listed {text : String} (isOperator : IsOperator text.toList) (trailing : Bool)
    {parts : List (List Symbol)} (each : ∀ part ∈ parts, AreKept part) :
    AreKept (listed [.operator text] trailing parts) := by
  induction parts with
  | nil => exact areKept_nil
  | cons first rest ih =>
      have own := each first List.mem_cons_self
      have others := ih fun part member => each part (List.mem_cons_of_mem first member)
      cases rest with
      | nil =>
          rw [listed_one]
          cases trailing with
          | true => exact own.append (areKept_nil.operator isOperator)
          | false => exact own.append areKept_nil
      | cons second rest =>
          rw [listed_cons]
          exact own.append (others.operator isOperator)

end

end Symbol

/-- The operators that ordinary types print. -/
theorem isOperator_of_mem {text : String}
    (member : text ∈ ["::", "<", ">", ",", "&", ";", "!", "*", "->", "-", "+"]) :
    IsOperator text.toList := by
  have each : ∀ text ∈ ["::", "<", ">", ",", "&", ";", "!", "*", "->", "-", "+"],
      text.toList ≠ [] ∧ text.toList.all (fun c => Lexeme.marks.contains c && c != '\'') = true ∧
        '/' ∉ text.toList.dropLast := by decide
  obtain ⟨some_, marks, slash⟩ := each text member
  refine ⟨some_, fun c member => ?_, slash⟩
  simpa [Lexeme.IsMark] using List.all_eq_true.mp marks c member

/-! ### What is printed -/

/-- The trees are those of a phrase whose literals are kept. -/
def Prints (kind : PhraseKind) (trees : List Tree) : Prop :=
  ∃ symbols, trees = Symbol.trees symbols ∧ Symbol.AreKept symbols ∧ Phrase kind symbols

/-- Each of the parts is printed as a phrase. -/
def PrintEach (kind : PhraseKind) (parts : List (List Tree)) : Prop :=
  ∃ symbols : List (List Symbol), parts = symbols.map Symbol.trees ∧
    (∀ part ∈ symbols, Symbol.AreKept part) ∧ ∀ part ∈ symbols, Phrase kind part

theorem printEach_nil (kind : PhraseKind) : PrintEach kind [] := ⟨[], rfl, by simp, by simp⟩

theorem PrintEach.cons {kind : PhraseKind} {first : List Tree} {rest : List (List Tree)}
    (own : Prints kind first) (others : PrintEach kind rest) : PrintEach kind (first :: rest) := by
  obtain ⟨part, rfl, kept, phrase⟩ := own
  obtain ⟨parts, rfl, kept', phrases⟩ := others
  exact ⟨part :: parts, rfl, by simpa using ⟨kept, kept'⟩, by simpa using ⟨phrase, phrases⟩⟩

theorem isName_of_plain {name : String} (plain : isPlainName name = true) :
    isPlainWord name = true ∧ IsName name := by
  simpa [isPlainName, IsName] using plain

theorem isStep_of_plain {name : String} (plain : isPlainStep name = true) :
    isPlainWord name = true ∧ IsStep name := by
  rw [isPlainStep, Bool.or_eq_true, Bool.and_eq_true] at plain
  rcases plain with isName | ⟨word, member⟩
  · exact ⟨(isName_of_plain isName).1, .inl (isName_of_plain isName).2⟩
  · exact ⟨word, .inr (by simpa using member)⟩

theorem exists_lifetime_of_plain {text : String} (plain : isPlainLifetime text = true) :
    ∃ name, text = "'" ++ name ∧ isPlainWord name = true := by
  rw [isPlainLifetime, Bool.and_eq_true, beq_iff_eq] at plain
  obtain ⟨sign, word⟩ := plain
  refine ⟨String.ofList text.toList.tail, ?_, word⟩
  rw [← String.toList_inj, String.toList_append, String.toList_ofList]
  cases eq : text.toList with
  | nil => simp [eq] at sign
  | cons c rest =>
      obtain rfl : c = '\'' := by simpa [eq] using sign
      simp

theorem Node.exists_words {sign : String} {good : String → Bool} {nodes : List Node}
    (words : areWords sign good nodes = true) :
    ∃ texts : List String, texts ≠ [] ∧ (∀ text ∈ texts, good text = true) ∧
      texts.length ≤ nodes.length ∧ (∀ text, .word text ∈ nodes → text = sign ∨ text ∈ texts) ∧
      Node.treesAll nodes =
        listed [.leaf sign false] false (texts.map fun text => [.leaf text false]) := by
  fun_induction areWords sign good nodes with
  | case1 text => exact ⟨[text], by simp, by simpa using words, by simp, by simp, rfl⟩
  | case2 text between rest ih =>
      simp only [Bool.and_eq_true, beq_iff_eq] at words
      obtain ⟨⟨own, rfl⟩, others⟩ := words
      obtain ⟨texts, some_, each, fewer, among, shown⟩ := ih others
      refine ⟨text :: texts, by simp, by simpa using ⟨own, each⟩, by simp; omega, ?_, ?_⟩
      · intro other member
        simp only [List.mem_cons, Node.word.injEq] at member
        rcases member with rfl | rfl | member
        · exact .inr List.mem_cons_self
        · exact .inl rfl
        · exact (among other member).imp_right (List.mem_cons_of_mem text)
      · obtain ⟨second, more, rfl⟩ := List.exists_cons_of_ne_nil some_
        simp [Node.treesAll, Node.trees, shown]
  | case3 => cases words

/-- A number, or a path without arguments, is a length. -/
theorem Node.exists_length {nodes : List Node} (plain : arePlainLength nodes = true) :
    ∃ symbols, Node.treesAll nodes = Symbol.trees symbols ∧ Symbol.AreKept symbols ∧
      IsLength symbols := by
  unfold arePlainLength at plain
  split at plain
  · next text =>
      exact ⟨[.literal text], by simp [treesAll, trees, Tree.seq, Symbol.trees, Symbol.tree],
        Symbol.areKept_nil.number plain, Grammar.isLength_literal text⟩
  · obtain ⟨texts, some_, each, -, -, shown⟩ := exists_words plain
    have steps : ∀ part ∈ texts.map fun text => [Symbol.word text],
        Symbol.AreKept part ∧ ∃ name, part = [.word name] ∧ IsStep name := by
      intro part member
      obtain ⟨text, among, rfl⟩ := List.mem_map.mp member
      obtain ⟨word, isStep⟩ := isStep_of_plain (each text among)
      exact ⟨Symbol.areKept_nil.word word, text, rfl, isStep⟩
    refine ⟨Symbol.root false ++ Symbol.path (texts.map fun text => [.word text]), ?_, ?_, ?_⟩
    · rw [shown, Symbol.trees_append, Symbol.trees_root, Symbol.path, Symbol.trees_listed,
        List.map_map]
      rfl
    · exact Symbol.areKept_nil.append (.listed (isOperator_of_mem (by simp)) false
        fun part member => (steps part member).1)
    · refine Grammar.isLength_path (fun part member => ?_) (fun part member => ?_)
        (by simpa using some_)
      · obtain ⟨-, name, rfl, isStep⟩ := steps part member
        exact Grammar.readsSegment_step isStep
      · obtain ⟨-, name, rfl, isStep⟩ := steps part member
        exact (Phrase.step isStep).begins

theorem phrase_path_name {name : String} (isStep : IsStep name) : Phrase .path [.word name] := by
  have segment : Phrase .segment [.word name] := .step isStep
  have path : Phrase .path (Symbol.path [[.word name]]) :=
    .segments (by simp) (by simpa using segment)
  simpa [Symbol.path] using path

theorem phrase_trait_name {name : String} (isName : IsName name) : Phrase .trait [.word name] := by
  simpa [Symbol.binder, Symbol.root] using
    Phrase.traitPath false none false (phrase_path_name (.inl isName))

/-- A trait or a lifetime. -/
def Symbol.ofBound (text : String) : Symbol :=
  if isPlainName text then .word text else .lifetime (String.ofList text.toList.tail)

theorem Symbol.ofBound_kept {text : String}
    (plain : (isPlainName text || isPlainLifetime text) = true) :
    (ofBound text).tree = .leaf text false ∧ AreKept [ofBound text] ∧
      Phrase .bound [ofBound text] := by
  rw [ofBound]
  split
  · next isName =>
      obtain ⟨word, isName⟩ := isName_of_plain isName
      exact ⟨rfl, areKept_nil.word word, .traitBound (phrase_trait_name isName)⟩
  · next other =>
      obtain ⟨name, rfl, word⟩ := exists_lifetime_of_plain (by simpa [other] using plain)
      have tail : String.ofList ("'" ++ name).toList.tail = name := by simp
      rw [tail]
      exact ⟨rfl, areKept_nil.lifetime word, .outlives name⟩

/-- Traits and lifetimes by name are the bounds of an object. -/
theorem Node.prints_bounds {plus : Bool} {nodes : List Node}
    (plain : arePlainBounds plus nodes = true) : Prints (.bounds plus) (Node.treesAll nodes) := by
  simp only [arePlainBounds, Bool.and_eq_true, List.any_eq_true] at plain
  obtain ⟨⟨words, several⟩, node, member, isName⟩ := plain
  obtain ⟨texts, some_, each, fewer, among, shown⟩ := exists_words words
  have parts : ∀ part ∈ texts.map fun text => [Symbol.ofBound text],
      Symbol.AreKept part ∧ Phrase .bound part := by
    intro part member
    obtain ⟨text, own, rfl⟩ := List.mem_map.mp member
    exact (Symbol.ofBound_kept (each text own)).2
  obtain ⟨name, own, trait⟩ : ∃ name ∈ texts, Phrase .trait [Symbol.ofBound name] := by
    cases node with
    | word text =>
        have other : text ≠ "+" := by rintro rfl; revert isName; decide
        refine ⟨text, (among text member).resolve_left other, ?_⟩
        have isName : isPlainName text = true := isName
        rw [Symbol.ofBound, if_pos isName]
        exact phrase_trait_name (isName_of_plain isName).2
    | _ => cases isName
  refine ⟨Symbol.sum (texts.map fun text => [Symbol.ofBound text]), ?_, ?_, ?_⟩
  · rw [shown, Symbol.sum, Symbol.trees_listed, List.map_map]
    congr 1
    refine List.map_congr_left fun text own => ?_
    simp [Symbol.trees, (Symbol.ofBound_kept (each text own)).1]
  · exact .listed (isOperator_of_mem (by simp)) false fun part member => (parts part member).1
  · cases plus with
    | true =>
        exact .severalBounds (fun part member => (parts part member).2)
          (List.mem_map.mpr ⟨name, own, rfl⟩) trait
    | false =>
        have one : nodes.length = 1 := by simpa using several
        obtain ⟨only, rfl⟩ : ∃ only, texts = [only] := List.length_eq_one_iff.mp (by
          have := List.length_pos_iff.mpr some_
          omega)
        obtain rfl : name = only := by simpa using own
        simpa [Symbol.sum] using Phrase.oneBound trait

/-! ### Ordinary types -/

theorem printEach_listed {kind : PhraseKind} {trees : List (List Tree)}
    (each : PrintEach kind trees) (sign : String) (isOperator : IsOperator sign.toList)
    (trailing : Bool) :
    ∃ parts : List (List Symbol), parts.length = trees.length ∧
      listed [.leaf sign false] trailing trees =
        Symbol.trees (listed [.operator sign] trailing parts) ∧
      Symbol.AreKept (listed [.operator sign] trailing parts) ∧
      ∀ part ∈ parts, Phrase kind part := by
  obtain ⟨parts, rfl, kept, phrases⟩ := each
  exact ⟨parts, by simp, (Symbol.trees_listed sign trailing parts).symm,
    .listed isOperator trailing kept, phrases⟩

theorem Segment.prints_path {segments : List Segment} (some_ : segments ≠ [])
    (each : PrintEach .segment (segments.map Segment.trees)) :
    Prints .path (Segment.treesAll segments) := by
  obtain ⟨parts, size, shown, kept, phrases⟩ :=
    printEach_listed each "::" (isOperator_of_mem (by simp)) false
  refine ⟨Symbol.path parts, by rw [Segment.treesAll_eq, shown, Symbol.path], kept,
    .segments ?_ phrases⟩
  rintro rfl
  exact some_ (by simpa using size.symm)

/-- The type prints a phrase, and so does what is left of it without groups and parentheses. -/
def Ty.IsPrinted (plus : Bool) (type : Ty) : Prop :=
  Prints (.type plus) type.trees ∧ (plus = true → Prints (.plain true) type.bare.trees)

theorem Ty.isPrinted_of_plain {plus : Bool} {type : Ty} (bare : type.bare = type)
    (plain : Prints (.plain plus) type.trees) : type.IsPrinted plus := by
  obtain ⟨symbols, shown, kept, phrase⟩ := plain
  refine ⟨⟨symbols, shown, kept, .bare phrase⟩, ?_⟩
  rintro rfl
  exact ⟨symbols, by rw [bare, shown], kept, phrase⟩

theorem Ty.prints_path {plus rooted : Bool} {segments : List Segment}
    (path : Prints .path (Segment.treesAll segments)) :
    Prints (.plain plus) (Ty.path rooted segments).trees := by
  obtain ⟨symbols, shown, kept, phrase⟩ := path
  refine ⟨Symbol.root rooted ++ symbols, ?_, ?_, .path rooted phrase⟩
  · rw [Symbol.trees_append, Symbol.trees_root, ← shown]
    simp [trees, Tree.seq]
  · cases rooted with
    | true => exact kept.operator (isOperator_of_mem (by simp))
    | false => exact kept

theorem Ty.prints_projection {plus qualified rooted : Bool} {subject : Ty}
    {owner rest : List Segment} (own : Prints (.type true) subject.trees)
    (ofOwner : qualified = true → Prints .path (Segment.treesAll owner))
    (path : Prints .path (Segment.treesAll rest)) :
    Prints (.plain plus) (Ty.projection subject qualified rooted owner rest).trees := by
  obtain ⟨inside, shown, kept, phrase⟩ := own
  obtain ⟨behind, shown', kept', phrase'⟩ := path
  have tail : Symbol.AreKept (.operator ">" :: .operator "::" :: behind) :=
    (kept'.operator (isOperator_of_mem (by simp))).operator (isOperator_of_mem (by simp))
  have open_ {symbols : List Symbol} (kept : Symbol.AreKept symbols) :
      Symbol.AreKept (.operator "<" :: (inside ++ symbols)) :=
    Symbol.AreKept.operator (isOperator_of_mem (by simp)) (‹Symbol.AreKept inside›.append kept)
  cases qualified with
  | false =>
      refine ⟨_, ?_, open_ tail, .projection phrase phrase'⟩
      simp [trees, Tree.seq, shown, shown', Symbol.trees, Symbol.trees_append, Symbol.tree]
  | true =>
      obtain ⟨owned, shown'', kept'', phrase''⟩ := ofOwner rfl
      refine ⟨_, ?_, ?_, .qualified rooted phrase phrase'' phrase'⟩
      · simp [trees, Tree.seq, shown, shown', shown'', Symbol.trees, Symbol.trees_append,
          Symbol.tree, Symbol.trees_root]
      · refine open_ (.word (by decide) ?_)
        have mid := kept''.append tail
        cases rooted with
        | true => exact mid.operator (isOperator_of_mem (by simp))
        | false => exact mid

theorem Ty.prints_reference {plus mutable : Bool} {lifetime : Option String} {inner : Ty}
    (plain : lifetime.all isPlainLifetime = true) (own : Prints (.type false) inner.trees) :
    Prints (.plain plus) (Ty.reference lifetime mutable inner).trees := by
  obtain ⟨symbols, shown, kept, phrase⟩ := own
  have modified : Symbol.AreKept (Symbol.modifier mutable "mut" ++ symbols) := by
    cases mutable with
    | true => exact kept.word (by decide)
    | false => exact kept
  cases lifetime with
  | none =>
      refine ⟨_, ?_, modified.operator (isOperator_of_mem (by simp)), .reference none mutable phrase⟩
      cases mutable <;>
        simp [trees, Tree.seq, shown, Symbol.trees, Symbol.tree, Symbol.modifier]
  | some text =>
      obtain ⟨name, rfl, word⟩ := exists_lifetime_of_plain (by simpa using plain)
      refine ⟨_, ?_, (modified.lifetime word).operator (isOperator_of_mem (by simp)),
        .reference (some name) mutable phrase⟩
      cases mutable <;>
        simp [trees, Tree.seq, shown, Symbol.trees, Symbol.tree, Symbol.modifier]

theorem Ty.prints_array {plus : Bool} {inner : Ty} {length : List Node}
    (own : Prints (.type true) inner.trees) (plain : Node.arePlainLength length = true) :
    Prints (.plain plus) (Ty.array inner length).trees := by
  obtain ⟨symbols, shown, kept, phrase⟩ := own
  obtain ⟨symbols', shown', kept', isLength⟩ := Node.exists_length plain
  have inside : Symbol.AreKept (symbols ++ .operator ";" :: symbols') :=
    kept.append (kept'.operator (isOperator_of_mem (by simp)))
  refine ⟨_, ?_, inside.group (by decide) Symbol.areKept_nil, .array phrase isLength⟩
  simp [trees, Tree.seq, Tree.brackets, shown, shown', Symbol.trees, Symbol.trees_append,
    Symbol.tree]

theorem Ty.prints_tuple {plus trailing : Bool} {elements : List Ty}
    (each : PrintEach (.type true) (Ty.treesEach elements))
    (comma : (elements.length != 1 || trailing) = true) :
    Prints (.plain plus) (Ty.tuple elements trailing).trees := by
  obtain ⟨parts, size, shown, kept, phrases⟩ :=
    printEach_listed each "," (isOperator_of_mem (by simp)) trailing
  refine ⟨[.group .paren (Symbol.commas trailing parts)], ?_,
    kept.group (by decide) Symbol.areKept_nil, ?_⟩
  · simp [trees, Tree.parens, shown, Symbol.commas, Symbol.trees, Symbol.tree]
  · cases parts with
    | nil => exact .unit
    | cons first rest =>
        refine .tuple (phrases _ List.mem_cons_self)
          (fun part member => phrases part (List.mem_cons_of_mem first member)) trailing ?_
        rintro rfl
        have one : elements.length = 1 := by simpa [Ty.treesEach_eq] using size.symm
        simpa [one] using comma

theorem Ty.prints_pointer {plus : Bool} {quality : String} {inner : Ty}
    (plain : (quality == "mut" || quality == "const") = true)
    (own : Prints (.type false) inner.trees) :
    Prints (.plain plus) (Ty.composite .pointer [.word "*", .word quality, .type inner]).trees := by
  obtain ⟨symbols, shown, kept, phrase⟩ := own
  have shape (mutable : Bool) : Prints (.plain plus) (Ty.composite .pointer
      [.word "*", .word (if mutable then "mut" else "const"), .type inner]).trees := by
    refine ⟨_, ?_, ?_, .pointer mutable phrase⟩
    · simp [trees, Node.treesAll, Node.trees, shown, Symbol.trees, Symbol.tree]
    · cases mutable <;>
        exact (kept.word (by decide)).operator (isOperator_of_mem (by simp))
  rw [Bool.or_eq_true, beq_iff_eq, beq_iff_eq] at plain
  rcases plain with rfl | rfl
  · exact shape true
  · exact shape false

/-- The inputs of a function are listed, with or without a comma behind the last of them. -/
def Node.PrintInputs (inputs : List Node) : Prop :=
  ∃ parts trailing, Node.treesAll inputs = Symbol.trees (Symbol.commas trailing parts) ∧
    Symbol.AreKept (Symbol.commas trailing parts) ∧ ∀ part ∈ parts, Phrase (.type true) part

theorem Node.PrintInputs.cons {type : Ty} {rest : List Node} (own : Prints (.type true) type.trees)
    (others : PrintInputs rest) : PrintInputs (.type type :: .word "," :: rest) := by
  obtain ⟨symbols, shown, kept, phrase⟩ := own
  obtain ⟨parts, trailing, shown', kept', phrases⟩ := others
  have comma : IsOperator ",".toList := isOperator_of_mem (by simp)
  cases parts with
  | nil =>
      have none_ : Node.treesAll rest = [] := by simpa [Symbol.commas, Symbol.trees] using shown'
      refine ⟨[symbols], true, ?_, ?_, by simpa using phrase⟩
      · simp [Node.treesAll, Node.trees, none_, shown, Symbol.commas, Symbol.trees_append,
          Symbol.trees, Symbol.tree]
      · rw [Symbol.commas, listed_one]
        exact kept.append (Symbol.areKept_nil.operator comma)
  | cons second more =>
      refine ⟨symbols :: second :: more, trailing, ?_, ?_,
        by simpa using ⟨phrase, by simpa using phrases⟩⟩
      · rw [Symbol.commas, listed_cons, ← Symbol.commas]
        simp [Node.treesAll, Node.trees, shown', shown, Symbol.trees_append, Symbol.trees,
          Symbol.tree]
      · rw [Symbol.commas, listed_cons, ← Symbol.commas]
        exact kept.append (kept'.operator comma)

theorem Ty.prints_function {plus : Bool} {inputs output : List Node}
    (each : Node.PrintInputs inputs)
    (result : Prints .output (Node.treesAll output)) :
    Prints (.plain plus)
      (Ty.composite .function (.word "fn" :: .group .paren inputs :: output)).trees := by
  obtain ⟨parts, trailing, shown, kept, phrases⟩ := each
  obtain ⟨symbols, shown', kept', phrase⟩ := result
  have function : Phrase (.plain plus)
      (.word "fn" :: .group .paren (Symbol.commas trailing parts) :: symbols) :=
    .function none false none nofun (fun part member => .input (phrases part member)) trailing phrase
  refine ⟨_, ?_, (kept.group (by decide) kept').word (by decide), function⟩
  simp [trees, Tree.parens, Node.treesAll, Node.trees, shown, shown', Symbol.trees, Symbol.tree]

theorem Ty.prints_object {plus : Bool} {bounds : List Node}
    (plain : Node.arePlainBounds plus bounds = true) :
    Prints (.plain plus) (Ty.composite .traitObject (.word "dyn" :: bounds)).trees := by
  obtain ⟨symbols, shown, kept, phrase⟩ := Node.prints_bounds plain
  refine ⟨_, ?_, kept.word (by decide), .object phrase⟩
  simp [trees, Node.treesAll, Node.trees, shown, Symbol.trees, Symbol.tree]

/-- Arguments that print lifetimes, where there may be any, and then phrases. -/
def Argument.ArePrinted (lifetimes : Bool) (arguments : List Argument) : Prop :=
  ∃ names parts, (lifetimes = false → names = []) ∧ (∀ name ∈ names, isPlainWord name = true) ∧
    (∀ part ∈ parts, Symbol.AreKept part ∧ Phrase .argument part) ∧
    List.Forall₂ Argument.Spelled (Symbol.lifetimes names ++ parts) arguments

theorem Argument.ArePrinted.lifetime {text : String} {rest : List Argument}
    (plain : isPlainLifetime text = true) (others : ArePrinted true rest) :
    ArePrinted true (.lifetime text :: rest) := by
  obtain ⟨name, rfl, word⟩ := exists_lifetime_of_plain plain
  obtain ⟨names, parts, -, words, phrases, spelled⟩ := others
  exact ⟨name :: names, parts, nofun, by simpa using ⟨word, words⟩, phrases,
    .cons ⟨rfl, rfl⟩ spelled⟩

theorem Argument.ArePrinted.other {lifetimes : Bool} {argument : Argument} {rest : List Argument}
    (noLifetime : argument.isLifetime = false) (own : Prints .argument argument.trees)
    (others : ArePrinted false rest) : ArePrinted lifetimes (argument :: rest) := by
  obtain ⟨part, shown, kept, phrase⟩ := own
  obtain ⟨names, parts, none_, -, phrases, spelled⟩ := others
  obtain rfl := none_ rfl
  refine ⟨[], part :: parts, fun _ => rfl, by simp, by simpa using ⟨⟨kept, phrase⟩, phrases⟩, ?_⟩
  exact .cons ⟨by rw [noLifetime, Grammar.not_lifetime phrase.begins], shown⟩ spelled

theorem Argument.prints_number {nodes : List Node} (isNumber : Node.areNumber nodes = true) :
    Prints .argument (Argument.const nodes).trees := by
  unfold Node.areNumber at isNumber
  split at isNumber
  case h_2 => cases isNumber
  case h_1 negative text =>
    have own : Symbol.AreKept [.literal text] := Symbol.areKept_nil.number isNumber
    cases negative with
    | false => exact ⟨[.literal text], rfl, own, .constant (.literal text)⟩
    | true =>
        rw [isPlainNumber, Bool.and_eq_true] at isNumber
        have digit : Token.Look.startsWithDigit text = true := by
          rw [Token.Look.startsWithDigit]
          cases eq : text.toList with
          | nil => simp [eq] at isNumber
          | cons c rest =>
              rw [eq, List.all_cons, Bool.and_eq_true] at isNumber
              simpa using isNumber.2.1
        exact ⟨[.operator "-", .literal text], rfl, own.operator (isOperator_of_mem (by simp)),
          .constant (.negative digit)⟩

theorem Segment.prints_angle {name : String} {turbofish trailing : Bool} {arguments : List Argument}
    (isName : isPlainName name = true) (each : Argument.ArePrinted true arguments)
    (comma : (!trailing || !arguments.isEmpty) = true) :
    Prints .segment (Segment.mk name (.angle turbofish arguments trailing)).trees := by
  obtain ⟨word, isName⟩ := isName_of_plain isName
  obtain ⟨names, parts, -, words, phrases, spelled⟩ := each
  have others : ∀ part ∈ parts, Symbol.isLifetime part = false := fun part member =>
    Grammar.not_lifetime (phrases part member).2.begins
  have shown := @Arguments.trees_angle turbofish trailing _ _ _ others spelled
  have trailing_ : (trailing && !(Symbol.lifetimes names ++ parts).isEmpty) = trailing := by
    have size := spelled.length_eq
    cases trailing with
    | false => rfl
    | true =>
        cases arguments with
        | nil => cases comma
        | cons => cases all : Symbol.lifetimes names ++ parts with
          | nil => simp [all] at size
          | cons => rfl
  rw [trailing_] at shown
  have kept : Symbol.AreKept (Symbol.commas trailing (Symbol.lifetimes names ++ parts) ++
      [.operator ">"]) := by
    refine Symbol.AreKept.append (.listed (isOperator_of_mem (by simp)) trailing ?_)
      (Symbol.areKept_nil.operator (isOperator_of_mem (by simp)))
    intro part member
    rcases List.mem_append.mp member with member | member
    · obtain ⟨own, among, rfl⟩ := List.mem_map.mp member
      exact Symbol.areKept_nil.lifetime (words own among)
    · exact (phrases part member).1
  refine ⟨_, ?_, .word word ?_, .angle isName turbofish trailing names fun part member =>
    (phrases part member).2⟩
  · rw [Segment.trees, shown]
    simp [Tree.seq, Symbol.trees, Symbol.tree]
  · have less : IsOperator "<".toList := isOperator_of_mem (by simp)
    have open_ := kept.operator less
    cases turbofish with
    | true => exact open_.operator (isOperator_of_mem (by simp))
    | false => exact open_

theorem Segment.prints_step {name : String} (isStep : isPlainStep name = true) :
    Prints .segment (Segment.mk name .none).trees := by
  obtain ⟨word, isStep⟩ := isStep_of_plain isStep
  exact ⟨[.word name], by simp [Segment.trees, Arguments.trees, Tree.seq, Symbol.trees, Symbol.tree],
    Symbol.areKept_nil.word word, .step isStep⟩

/-- A type at this place, or inside the group at it, is printed if it is ordinary. -/
def Node.IsPrinted : Node → Prop
  | .type inner => ∀ plus, inner.isOrdinary plus = true → inner.IsPrinted plus
  | .group _ contents =>
    ∀ inner, .type inner ∈ contents → ∀ plus, inner.isOrdinary plus = true → inner.IsPrinted plus
  | _ => True

theorem Node.areInputs_cases {inputs : List Node} (ordinary : areInputs inputs = true) :
    inputs = [] ∨ (∃ inner, inputs = [.type inner] ∧ inner.isOrdinary true = true) ∨
      ∃ inner rest, inputs = .type inner :: .word "," :: rest ∧
        inner.isOrdinary true = true ∧ areInputs rest = true := by
  unfold areInputs at ordinary
  split at ordinary
  · exact .inl rfl
  · next inner => exact .inr (.inl ⟨inner, rfl, ordinary⟩)
  · next inner comma rest =>
      simp only [Bool.and_eq_true, beq_iff_eq] at ordinary
      obtain ⟨⟨own, rfl⟩, others⟩ := ordinary
      exact .inr (.inr ⟨inner, rest, rfl, own, others⟩)
  · cases ordinary

theorem Node.printInputs (inputs : List Node)
    (types : ∀ inner, .type inner ∈ inputs → ∀ plus, inner.isOrdinary plus = true →
      inner.IsPrinted plus)
    (ordinary : areInputs inputs = true) : PrintInputs inputs := by
  rcases areInputs_cases ordinary with rfl | ⟨inner, rfl, own⟩ | ⟨inner, rest, shape, own, others⟩
  · exact ⟨[], false, rfl, Symbol.areKept_nil, by simp⟩
  · obtain ⟨symbols, shown, kept, phrase⟩ := (types inner List.mem_cons_self true own).1
    exact ⟨[symbols], false, by simpa [treesAll, trees, Symbol.commas] using shown,
      by simpa [Symbol.commas] using kept, by simpa using phrase⟩
  · have shorter : rest.length < inputs.length := by rw [shape]; exact Nat.lt_succ_of_lt (Nat.lt_succ_self _)
    have behind := printInputs rest (fun other member => types other (by simp [shape, member])) others
    rw [shape]
    exact .cons (types inner (by simp [shape]) true own).1 behind
termination_by inputs.length

theorem Node.prints_composite {plus : Bool} {form : Form} {parts : List Node}
    (each : ∀ node ∈ parts, node.IsPrinted)
    (ordinary : Node.areOrdinary plus form parts = true) :
    Prints (.plain plus) (Ty.composite form parts).trees := by
  unfold Node.areOrdinary at ordinary
  split at ordinary
  · next star quality inner =>
      simp only [Bool.and_eq_true, beq_iff_eq] at ordinary
      obtain ⟨⟨rfl, plain⟩, own⟩ := ordinary
      exact Ty.prints_pointer plain (each (.type inner) (by simp) false own).1
  · next keyword inputs =>
      simp only [Bool.and_eq_true, beq_iff_eq] at ordinary
      obtain ⟨rfl, inside⟩ := ordinary
      exact Ty.prints_function (Node.printInputs inputs (each (.group .paren inputs) (by simp)) inside)
        ⟨[], rfl, Symbol.areKept_nil, .noOutput⟩
  · next keyword inputs arrow output =>
      simp only [Bool.and_eq_true, beq_iff_eq] at ordinary
      obtain ⟨⟨⟨rfl, inside⟩, rfl⟩, own⟩ := ordinary
      obtain ⟨symbols, shown, kept, phrase⟩ := (each (.type output) (by simp) false own).1
      exact Ty.prints_function (Node.printInputs inputs (each (.group .paren inputs) (by simp)) inside)
        ⟨.operator "->" :: symbols,
          by simp [Node.treesAll, Node.trees, shown, Symbol.trees, Symbol.tree],
          kept.operator (isOperator_of_mem (by simp)), .output phrase⟩
  · next keyword bounds =>
      simp only [Bool.and_eq_true, beq_iff_eq] at ordinary
      obtain ⟨rfl, plain⟩ := ordinary
      exact Ty.prints_object plain
  · next underscore =>
      obtain rfl := beq_iff_eq.mp ordinary
      exact ⟨[.word "_"], rfl, Symbol.areKept_nil.word (by decide), .inferred⟩
  · cases ordinary

-- by recursion on the type, as far as it is ordinary
mutual

theorem Ty.isPrinted {plus : Bool} :
    (type : Ty) → type.isOrdinary plus = true → type.IsPrinted plus
  | .group inner, ordinary => inner.isPrinted ordinary
  | .paren inner, ordinary => by
      obtain ⟨⟨symbols, shown, kept, phrase⟩, bare⟩ : inner.IsPrinted true :=
        inner.isPrinted (by simpa only [Ty.isOrdinary] using ordinary)
      exact ⟨⟨[.group .paren symbols],
        by simp [Ty.trees, Tree.parens, shown, Symbol.trees, Symbol.tree],
        kept.group (by decide) Symbol.areKept_nil, .paren phrase⟩, fun _ => bare rfl⟩
  | .path rooted segments, ordinary => by
      simp only [Ty.isOrdinary, Bool.and_eq_true, Bool.not_eq_true', List.isEmpty_eq_false_iff]
        at ordinary
      exact Ty.isPrinted_of_plain rfl (Ty.prints_path
        (Segment.prints_path ordinary.1 (Segment.printEach segments ordinary.2)))
  | .projection subject qualified rooted owner rest, ordinary => by
      simp only [Ty.isOrdinary, Bool.and_eq_true, Bool.or_eq_true, Bool.not_eq_true',
        List.isEmpty_eq_false_iff] at ordinary
      obtain ⟨⟨own, ofOwner⟩, some_, each⟩ := ordinary
      refine Ty.isPrinted_of_plain rfl (Ty.prints_projection (subject.isPrinted own).1
        (fun isQualified => ?_) (Segment.prints_path some_ (Segment.printEach rest each)))
      obtain ⟨some_, each⟩ := ofOwner.resolve_left (by simp [isQualified])
      exact Segment.prints_path some_ (Segment.printEach owner each)
  | .reference lifetime mutable inner, ordinary => by
      simp only [Ty.isOrdinary, Bool.and_eq_true] at ordinary
      exact Ty.isPrinted_of_plain rfl (Ty.prints_reference ordinary.1 (inner.isPrinted ordinary.2).1)
  | .slice inner, ordinary => by
      obtain ⟨⟨symbols, shown, kept, phrase⟩, -⟩ : inner.IsPrinted true :=
        inner.isPrinted (by simpa only [Ty.isOrdinary] using ordinary)
      exact Ty.isPrinted_of_plain rfl ⟨[.group .bracket symbols],
        by simp [Ty.trees, Tree.brackets, shown, Symbol.trees, Symbol.tree],
        kept.group (by decide) Symbol.areKept_nil, .slice phrase⟩
  | .array inner length, ordinary => by
      simp only [Ty.isOrdinary, Bool.and_eq_true] at ordinary
      exact Ty.isPrinted_of_plain rfl (Ty.prints_array (inner.isPrinted ordinary.1).1 ordinary.2)
  | .tuple elements trailing, ordinary => by
      rw [Ty.isOrdinary, Bool.and_eq_true] at ordinary
      exact Ty.isPrinted_of_plain rfl (Ty.prints_tuple (Ty.printEach elements ordinary.1) ordinary.2)
  | .never, _ => Ty.isPrinted_of_plain rfl
      ⟨[.operator "!"], rfl, Symbol.areKept_nil.operator (isOperator_of_mem (by simp)), .never⟩
  | .composite form parts, ordinary =>
      Ty.isPrinted_of_plain rfl
        (Node.prints_composite (Node.eachPrinted parts) (by simpa only [Ty.isOrdinary] using ordinary))

theorem Ty.printEach : (elements : List Ty) → Ty.areOrdinary elements = true →
    PrintEach (.type true) (Ty.treesEach elements)
  | [], _ => printEach_nil _
  | first :: rest, ordinary => by
      rw [Ty.areOrdinary, Bool.and_eq_true] at ordinary
      exact .cons (first.isPrinted ordinary.1).1 (Ty.printEach rest ordinary.2)

theorem Segment.printed : (segment : Segment) → segment.isOrdinary = true →
    Prints .segment segment.trees
  | .mk name arguments, ordinary =>
      Arguments.prints name arguments (by simpa only [Segment.isOrdinary] using ordinary)

theorem Segment.printEach : (segments : List Segment) → Segment.areOrdinary segments = true →
    PrintEach .segment (segments.map Segment.trees)
  | [], _ => printEach_nil _
  | first :: rest, ordinary => by
      rw [Segment.areOrdinary, Bool.and_eq_true] at ordinary
      exact .cons (first.printed ordinary.1) (Segment.printEach rest ordinary.2)

theorem Arguments.prints (name : String) : (arguments : Arguments) →
    arguments.areOrdinary name = true → Prints .segment (Segment.mk name arguments).trees
  | .none, ordinary => Segment.prints_step (by simpa only [Arguments.areOrdinary] using ordinary)
  | .angle turbofish arguments trailing, ordinary => by
      rw [Arguments.areOrdinary, Bool.and_eq_true, Bool.and_eq_true] at ordinary
      exact Segment.prints_angle ordinary.1.1 (Argument.arePrinted arguments ordinary.1.2) ordinary.2
  | .round _, ordinary => by simp [Arguments.areOrdinary] at ordinary

theorem Argument.arePrinted {lifetimes : Bool} : (arguments : List Argument) →
    Argument.areOrdinary lifetimes arguments = true → Argument.ArePrinted lifetimes arguments
  | [], _ => ⟨[], [], fun _ => rfl, by simp, by simp, .nil⟩
  | .lifetime name :: rest, ordinary => by
      simp only [Argument.areOrdinary, Bool.and_eq_true] at ordinary
      obtain ⟨⟨rfl, plain⟩, others⟩ := ordinary
      exact .lifetime plain (Argument.arePrinted rest others)
  | .type type :: rest, ordinary => by
      simp only [Argument.areOrdinary, Bool.and_eq_true] at ordinary
      obtain ⟨symbols, shown, kept, phrase⟩ := (type.isPrinted ordinary.1).1
      exact .other rfl ⟨symbols, by simpa [Argument.trees, Argument.treesEach] using shown, kept,
        .typeArgument phrase⟩ (Argument.arePrinted rest ordinary.2)
  | .const nodes :: rest, ordinary => by
      simp only [Argument.areOrdinary, Bool.and_eq_true] at ordinary
      exact .other rfl (Argument.prints_number ordinary.1) (Argument.arePrinted rest ordinary.2)
  | .binding _ :: _, ordinary => by simp [Argument.areOrdinary] at ordinary

theorem Node.eachPrinted : (nodes : List Node) → ∀ node ∈ nodes, node.IsPrinted
  | [] => List.forall_mem_nil _
  | first :: rest => List.forall_mem_cons.mpr ⟨Node.printed first, Node.eachPrinted rest⟩

theorem Node.printed : (node : Node) → node.IsPrinted
  | .type inner => fun _ => inner.isPrinted
  | .group _ contents => fun inner member => Node.eachPrinted contents (.type inner) member
  | .word _ | .raw _ | .implied _ | .arguments _ | .literal _ _ _ | .attribute _ _
  | .declared _ _ _ => trivial

end

end SlotSum
