import SlotSum.Source.Term

/-!
Changes in one place. What may be made of a single type or node is made of the term in which it
stands, at any depth: one type or node of the term is changed, and everything around it stays.
-/

namespace SlotSum

/-- What may be made of a type, and what of a node, where it stands. -/
structure Change where
  type : Ty → Ty → Prop
  node : Node → Node → Prop

variable (change : Change)

mutual

/-- The second type is the first one after one change, of the type itself or within it. -/
inductive Ty.Changes : Ty → Ty → Prop
  | here (made : change.type type type') : Ty.Changes type type'
  | group (inside : Ty.Changes type type') : Ty.Changes (.group type) (.group type')
  | paren (inside : Ty.Changes type type') : Ty.Changes (.paren type) (.paren type')
  | path (inside : Segment.ChangesIn segments segments') :
      Ty.Changes (.path rooted segments) (.path rooted segments')
  | subject (inside : Ty.Changes subject subject') :
      Ty.Changes (.projection subject qualified rooted owner rest)
        (.projection subject' qualified rooted owner rest)
  | owner (inside : Segment.ChangesIn owner owner') :
      Ty.Changes (.projection subject qualified rooted owner rest)
        (.projection subject qualified rooted owner' rest)
  | rest (inside : Segment.ChangesIn rest rest') :
      Ty.Changes (.projection subject qualified rooted owner rest)
        (.projection subject qualified rooted owner rest')
  | reference (inside : Ty.Changes type type') :
      Ty.Changes (.reference lifetime mutable type) (.reference lifetime mutable type')
  | slice (inside : Ty.Changes type type') : Ty.Changes (.slice type) (.slice type')
  | element (inside : Ty.Changes type type') :
      Ty.Changes (.array type length) (.array type' length)
  | length (inside : Node.ChangesIn length length') :
      Ty.Changes (.array type length) (.array type length')
  | tuple (inside : Ty.ChangesIn elements elements') :
      Ty.Changes (.tuple elements trailing) (.tuple elements' trailing)
  | composite (inside : Node.ChangesIn parts parts') :
      Ty.Changes (.composite form parts) (.composite form parts')

/-- One of several types is changed. -/
inductive Ty.ChangesIn : List Ty → List Ty → Prop
  | first (inside : Ty.Changes first first') : Ty.ChangesIn (first :: rest) (first' :: rest)
  | later (inside : Ty.ChangesIn rest rest') : Ty.ChangesIn (first :: rest) (first :: rest')

inductive Segment.Changes : Segment → Segment → Prop
  | arguments (inside : Arguments.Changes arguments arguments') :
      Segment.Changes (.mk name arguments) (.mk name arguments')

inductive Segment.ChangesIn : List Segment → List Segment → Prop
  | first (inside : Segment.Changes first first') :
      Segment.ChangesIn (first :: rest) (first' :: rest)
  | later (inside : Segment.ChangesIn rest rest') :
      Segment.ChangesIn (first :: rest) (first :: rest')

inductive Arguments.Changes : Arguments → Arguments → Prop
  | angle (inside : Argument.ChangesIn arguments arguments') :
      Arguments.Changes (.angle turbofish arguments trailing) (.angle turbofish arguments' trailing)
  | round (inside : Node.ChangesIn parts parts') : Arguments.Changes (.round parts) (.round parts')

inductive Argument.Changes : Argument → Argument → Prop
  | type (inside : Ty.Changes type type') : Argument.Changes (.type type) (.type type')
  | const (inside : Node.ChangesIn parts parts') : Argument.Changes (.const parts) (.const parts')
  | binding (inside : Node.ChangesIn parts parts') :
      Argument.Changes (.binding parts) (.binding parts')

inductive Argument.ChangesIn : List Argument → List Argument → Prop
  | first (inside : Argument.Changes first first') :
      Argument.ChangesIn (first :: rest) (first' :: rest)
  | later (inside : Argument.ChangesIn rest rest') :
      Argument.ChangesIn (first :: rest) (first :: rest')

inductive Node.Changes : Node → Node → Prop
  | here (made : change.node node node') : Node.Changes node node'
  | group (inside : Node.ChangesIn parts parts') :
      Node.Changes (.group delimiter parts) (.group delimiter parts')
  | type (inside : Ty.Changes type type') : Node.Changes (.type type) (.type type')
  | implied (inside : Ty.Changes type type') : Node.Changes (.implied type) (.implied type')
  | arguments (inside : Arguments.Changes arguments arguments') :
      Node.Changes (.arguments arguments) (.arguments arguments')
  | literal (inside : Node.ChangesIn attributes attributes') :
      Node.Changes (.literal attributes negative text) (.literal attributes' negative text)
  | attribute (inside : Node.ChangesIn value value') :
      Node.Changes (.attribute head value) (.attribute head value')
  | attributes (inside : Node.ChangesIn attributes attributes') :
      Node.Changes (.declared declared attributes parts) (.declared declared attributes' parts)
  | parts (inside : Node.ChangesIn parts parts') :
      Node.Changes (.declared declared attributes parts) (.declared declared attributes parts')

inductive Node.ChangesIn : List Node → List Node → Prop
  | first (inside : Node.Changes first first') : Node.ChangesIn (first :: rest) (first' :: rest)
  | later (inside : Node.ChangesIn rest rest') : Node.ChangesIn (first :: rest) (first :: rest')

end

variable {change}

/-! ### What no change reaches -/

theorem Arguments.Changes.isNone {arguments arguments' : Arguments}
    (changes : Arguments.Changes change arguments arguments') :
    arguments.isNone = false ∧ arguments'.isNone = false := by
  cases changes with
  | angle => exact ⟨rfl, rfl⟩
  | round => exact ⟨rfl, rfl⟩

theorem Segment.Changes.name {segment segment' : Segment}
    (changes : Segment.Changes change segment segment') : segment'.name = segment.name := by
  cases changes with
  | arguments => rfl

theorem Segment.ChangesIn.names {segments segments' : List Segment}
    (changes : Segment.ChangesIn change segments segments') :
    segments'.map Segment.name = segments.map Segment.name := by
  induction segments generalizing segments' with
  | nil => cases changes
  | cons first rest ih =>
      cases changes with
      | first inside => rw [List.map_cons, inside.name, List.map_cons]
      | later inside => rw [List.map_cons, ih inside, List.map_cons]

theorem Segment.ChangesIn.length {segments segments' : List Segment}
    (changes : Segment.ChangesIn change segments segments') :
    segments'.length = segments.length := by
  simpa using congrArg List.length changes.names

theorem Segment.ChangesIn.exists_cons {segments segments' : List Segment}
    (changes : Segment.ChangesIn change segments segments') :
    (∃ first rest, segments = first :: rest) ∧ ∃ first rest, segments' = first :: rest := by
  cases changes with
  | first => exact ⟨⟨_, _, rfl⟩, _, _, rfl⟩
  | later => exact ⟨⟨_, _, rfl⟩, _, _, rfl⟩

/-- A change within a path is a change within the arguments of a segment, so a path that is a name
and nothing else holds none. -/
theorem Segment.ChangesIn.ne_name {segments segments' : List Segment}
    (changes : Segment.ChangesIn change segments segments') (name : String) :
    segments ≠ [.mk name .none] ∧ segments' ≠ [.mk name .none] := by
  cases changes with
  | first inside =>
      cases inside with
      | arguments inside =>
          obtain ⟨some, some'⟩ := inside.isNone
          constructor
          · rintro ⟨⟩
            cases some
          · rintro ⟨⟩
            cases some'
  | later inside =>
      obtain ⟨⟨_, _, rfl⟩, _, _, rfl⟩ := inside.exists_cons
      exact ⟨nofun, nofun⟩

theorem Ty.ChangesIn.length {elements elements' : List Ty}
    (changes : Ty.ChangesIn change elements elements') : elements'.length = elements.length := by
  induction elements generalizing elements' with
  | nil => cases changes
  | cons first rest ih =>
      cases changes with
      | first inside => rfl
      | later inside => rw [List.length_cons, ih inside, List.length_cons]

theorem Argument.ChangesIn.length {arguments arguments' : List Argument}
    (changes : Argument.ChangesIn change arguments arguments') :
    arguments'.length = arguments.length := by
  induction arguments generalizing arguments' with
  | nil => cases changes
  | cons first rest ih =>
      cases changes with
      | first inside => rfl
      | later inside => rw [List.length_cons, ih inside, List.length_cons]

end SlotSum
