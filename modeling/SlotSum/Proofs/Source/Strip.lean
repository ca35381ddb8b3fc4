import SlotSum.Proofs.Source.Shrink

/-!
Which terms stripping changes: exactly those in which an option attribute stands on a declaration,
at whatever depth. Only what is printed counts: a type that is implied prints nothing, and neither
does a value that its attribute does not assign.
-/

namespace SlotSum

/-- The attribute assigns a value. -/
def AttributeHead.assigns (head : AttributeHead) : Bool :=
  match head.argument with
  | .value _ => true
  | .absent => false
  | .list .. => false

mutual

/-- An option attribute stands on a declaration within the printed type. -/
def Ty.hasOptions : Ty → Bool
  | .group inner => inner.hasOptions
  | .paren inner => inner.hasOptions
  | .path _ segments => Segment.anyHasOptions segments
  | .projection subject qualified _ owner rest =>
    subject.hasOptions || (qualified && Segment.anyHasOptions owner) || Segment.anyHasOptions rest
  | .reference _ _ inner => inner.hasOptions
  | .slice inner => inner.hasOptions
  | .array inner length => inner.hasOptions || Node.anyHasOptions length
  | .tuple elements _ => Ty.anyHasOptions elements
  | .never => false
  | .composite _ parts => Node.anyHasOptions parts

def Ty.anyHasOptions : List Ty → Bool
  | [] => false
  | first :: rest => first.hasOptions || Ty.anyHasOptions rest

def Segment.hasOptions : Segment → Bool
  | .mk _ arguments => arguments.hasOptions

def Segment.anyHasOptions : List Segment → Bool
  | [] => false
  | first :: rest => first.hasOptions || Segment.anyHasOptions rest

def Arguments.hasOptions : Arguments → Bool
  | .none => false
  | .angle _ arguments _ => Argument.anyHasOptions arguments
  | .round parts => Node.anyHasOptions parts

def Argument.hasOptions : Argument → Bool
  | .lifetime _ => false
  | .type type => type.hasOptions
  | .const parts => Node.anyHasOptions parts
  | .binding parts => Node.anyHasOptions parts

def Argument.anyHasOptions : List Argument → Bool
  | [] => false
  | first :: rest => first.hasOptions || Argument.anyHasOptions rest

/-- An option attribute stands on a declaration within the printed node, or on the node itself if it
is a declaration. -/
def Node.hasOptions : Node → Bool
  | .word _ => false
  | .raw _ => false
  | .group _ parts => Node.anyHasOptions parts
  | .type type => type.hasOptions
  | .implied _ => false
  | .arguments arguments => arguments.hasOptions
  | .literal attributes _ _ => Node.anyHasOptions attributes
  | .attribute head value => head.assigns && Node.anyHasOptions value
  | .declared _ attributes parts =>
    attributes.any Node.carriesOptions || Node.anyHasOptions attributes || Node.anyHasOptions parts

def Node.anyHasOptions : List Node → Bool
  | [] => false
  | first :: rest => first.hasOptions || Node.anyHasOptions rest

end

theorem Ty.anyHasOptions_eq (elements : List Ty) :
    Ty.anyHasOptions elements = elements.any Ty.hasOptions := by
  induction elements with
  | nil => rfl
  | cons first rest ih => simp [Ty.anyHasOptions, ih]

theorem Argument.anyHasOptions_eq (arguments : List Argument) :
    Argument.anyHasOptions arguments = arguments.any Argument.hasOptions := by
  induction arguments with
  | nil => rfl
  | cons first rest ih => simp [Argument.anyHasOptions, ih]

/-! ### Prints of several parts -/

theorem Ty.treesEach_eq (elements : List Ty) : Ty.treesEach elements = elements.map Ty.trees := by
  induction elements with
  | nil => rfl
  | cons first rest ih => simp [Ty.treesEach, ih]

theorem Ty.treesEach_stripAll (elements : List Ty) :
    Ty.treesEach (Ty.stripAll elements) = elements.map fun type => type.strip.trees := by
  induction elements with
  | nil => rfl
  | cons first rest ih => simp [Ty.stripAll, Ty.treesEach, ih]

def Argument.isLifetime : Argument → Bool
  | .lifetime _ => true
  | .type _ => false
  | .const _ => false
  | .binding _ => false

theorem Argument.treesEach_eq (arguments : List Argument) :
    Argument.treesEach arguments =
      arguments.map fun argument => (argument.isLifetime, argument.trees) := by
  induction arguments with
  | nil => rfl
  | cons first rest ih =>
      cases first <;> simp [Argument.treesEach, Argument.trees, Argument.isLifetime, ih]

theorem Argument.treesEach_stripAll (arguments : List Argument) :
    Argument.treesEach (Argument.stripAll arguments) =
      arguments.map fun argument => (argument.isLifetime, argument.strip.trees) := by
  induction arguments with
  | nil => rfl
  | cons first rest ih =>
      cases first <;>
        simp [Argument.stripAll, Argument.strip, Argument.treesEach, Argument.trees,
          Argument.isLifetime, ih]

theorem AttributeHead.sizes_enclose (head : AttributeHead) (value : List Tree) :
    0 < Tree.sizes (head.enclose value) := by
  have mark (rest : List (List Tree)) : 0 < Tree.sizes (Tree.seq ("#" :: rest)) := by
    rw [Tree.seq, List.flatten_cons, Tree.sizes_append]
    exact Nat.add_pos_left (by decide) _
  exact mark _

theorem Node.sizes_of_carriesOptions {node : Node} (carries : node.carriesOptions = true) :
    0 < Tree.sizes node.trees := by
  cases isAttribute : node.head? with
  | none => simp [Node.carriesOptions, isAttribute] at carries
  | some head =>
      unfold Node.head? at isAttribute
      split at isAttribute
      · rw [Node.trees]
        exact AttributeHead.sizes_enclose _ _
      · cases isAttribute

theorem Shrinks.enclose {removed : Bool} {before after : List Tree} (head : AttributeHead)
    (shrinks : Shrinks removed before after) :
    Shrinks (head.assigns && removed) (head.enclose before) (head.enclose after) := by
  unfold AttributeHead.assigns AttributeHead.enclose
  cases head.argument with
  | absent => exact .refl _
  | list => exact .refl _
  | value =>
      exact (((shrinks.last.keep "=").last.keep head.pathTrees).group .bracket).last.keep _
        |>.keep "#"

/-! ### Stripping, constructor by constructor -/

mutual

theorem Ty.shrinks : (type : Ty) → Shrinks type.hasOptions type.trees type.strip.trees
  | .group inner => by
      simpa only [Ty.hasOptions, Ty.trees, Ty.strip] using inner.shrinks
  | .paren inner => by
      simp only [Ty.hasOptions, Ty.trees, Ty.strip]
      exact inner.shrinks.group .paren
  | .path rooted segments => by
      simp only [Ty.hasOptions, Ty.trees, Ty.strip]
      exact .keep (rootMark rooted) (Segment.shrinksAll segments).last
  | .projection subject qualified rooted owner rest => by
      simp only [Ty.hasOptions, Ty.trees, Ty.strip, Bool.or_assoc]
      have behind := ((Segment.shrinksAll rest).last.keep "::").keep ">"
      refine .keep "<" (subject.shrinks.cons (.cons ?_ behind))
      cases qualified with
      | false => exact Shrinks.refl []
      | true => exact ((Segment.shrinksAll owner).last.keep (rootMark rooted)).keep "as"
  | .reference lifetime mutable inner => by
      simp only [Ty.hasOptions, Ty.trees, Ty.strip]
      exact ((inner.shrinks.last.keep _).keep _).keep "&"
  | .slice inner => by
      simp only [Ty.hasOptions, Ty.trees, Ty.strip]
      exact inner.shrinks.group .bracket
  | .array inner length => by
      simp only [Ty.hasOptions, Ty.trees, Ty.strip]
      exact (inner.shrinks.cons ((Node.shrinksAll length).last.keep ";")).group .bracket
  | .tuple elements trailing => by
      simp only [Ty.hasOptions, Ty.trees, Ty.strip, Ty.treesEach_eq elements,
        Ty.treesEach_stripAll, Ty.anyHasOptions_eq]
      exact (Shrinks.listed "," trailing (Ty.shrinksEach elements)).group .paren
  | .never => Shrinks.refl _
  | .composite form parts => by
      simpa only [Ty.hasOptions, Ty.trees, Ty.strip] using Node.shrinksAll parts

theorem Ty.shrinksEach : (elements : List Ty) →
    ∀ type ∈ elements, Shrinks type.hasOptions type.trees type.strip.trees
  | [] => by simp
  | first :: rest => by
      rw [List.forall_mem_cons]
      exact ⟨first.shrinks, Ty.shrinksEach rest⟩

theorem Segment.shrinks : (segment : Segment) →
    Shrinks segment.hasOptions segment.trees segment.strip.trees
  | .mk name arguments => by
      simp only [Segment.hasOptions, Segment.trees, Segment.strip]
      exact arguments.shrinks.last.keep name

theorem Segment.shrinksAll : (segments : List Segment) →
    Shrinks (Segment.anyHasOptions segments) (Segment.treesAll segments)
      (Segment.treesAll (Segment.stripAll segments))
  | [] => Shrinks.refl _
  | [last] => by
      simpa [Segment.anyHasOptions, Segment.stripAll, Segment.treesAll] using last.shrinks
  | first :: second :: rest => by
      have later := Segment.shrinksAll (second :: rest)
      simp only [Segment.anyHasOptions, Segment.stripAll, Segment.treesAll] at later ⊢
      exact first.shrinks.cons (later.last.keep "::")

theorem Arguments.shrinks : (arguments : Arguments) →
    Shrinks arguments.hasOptions arguments.trees arguments.strip.trees
  | .none => Shrinks.refl _
  | .angle turbofish arguments trailing => by
      simp only [Arguments.hasOptions, Arguments.trees, Arguments.strip,
        Argument.treesEach_eq arguments, Argument.treesEach_stripAll, Argument.anyHasOptions_eq]
      have inside :=
        Shrinks.lifetimesFirst Argument.isLifetime "," trailing (Argument.shrinksEach arguments)
      simpa using ((inside.cons (Shrinks.nil.keep ">")).keep "<").keep (rootMark turbofish)
  | .round parts => by
      simpa only [Arguments.hasOptions, Arguments.trees, Arguments.strip] using
        Node.shrinksAll parts

theorem Argument.shrinks : (argument : Argument) →
    Shrinks argument.hasOptions argument.trees argument.strip.trees
  | .lifetime name => Shrinks.refl _
  | .type type => by
      simpa [Argument.hasOptions, Argument.trees, Argument.strip, Argument.treesEach] using
        type.shrinks
  | .const parts => by
      simpa [Argument.hasOptions, Argument.trees, Argument.strip, Argument.treesEach] using
        Node.shrinksAll parts
  | .binding parts => by
      simpa [Argument.hasOptions, Argument.trees, Argument.strip, Argument.treesEach] using
        Node.shrinksAll parts

theorem Argument.shrinksEach : (arguments : List Argument) →
    ∀ argument ∈ arguments, Shrinks argument.hasOptions argument.trees argument.strip.trees
  | [] => by simp
  | first :: rest => by
      rw [List.forall_mem_cons]
      exact ⟨first.shrinks, Argument.shrinksEach rest⟩

theorem Node.shrinks : (node : Node) → Shrinks node.hasOptions node.trees node.strip.trees
  | .word text => Shrinks.refl _
  | .raw trees => Shrinks.refl _
  | .group delimiter parts => by
      have inside := Node.shrinksAll parts
      simp only [Node.hasOptions, Node.strip]
      cases delimiter with
      | invisible => simpa only [Node.trees] using inside
      | paren =>
          simp only [Node.trees]
          exact inside.group .paren
      | bracket =>
          simp only [Node.trees]
          exact inside.group .bracket
      | brace =>
          simp only [Node.trees]
          exact inside.group .brace
  | .type type => by simpa only [Node.hasOptions, Node.trees, Node.strip] using type.shrinks
  | .implied type => by
      simpa only [Node.hasOptions, Node.trees, Node.strip] using Shrinks.refl []
  | .arguments arguments => by
      simpa only [Node.hasOptions, Node.trees, Node.strip] using arguments.shrinks
  | .literal attributes negative text => by
      simp only [Node.hasOptions, Node.trees, Node.strip]
      simpa using (Node.shrinksAll attributes).cons ((Shrinks.nil.keep _).keep _)
  | .attribute head value => by
      simpa only [Node.hasOptions, Node.trees, Node.strip] using
        (Node.shrinksAll value).enclose head
  | .declared declared attributes parts => by
      simp only [Node.hasOptions, Node.trees, Node.strip]
      exact (Node.shrinksOptions attributes).cons (Node.shrinksAll parts).last

theorem Node.shrinksAll : (nodes : List Node) →
    Shrinks (Node.anyHasOptions nodes) (Node.treesAll nodes) (Node.treesAll (Node.stripAll nodes))
  | [] => Shrinks.refl _
  | first :: rest => by
      simpa only [Node.anyHasOptions, Node.stripAll, Node.treesAll] using
        first.shrinks.append (Node.shrinksAll rest)

/-- An attribute that carries options is left out; all others stay, without options inside. -/
theorem Node.shrinksOptions : (attributes : List Node) →
    Shrinks (attributes.any Node.carriesOptions || Node.anyHasOptions attributes)
      (Node.treesAll attributes) (Node.treesAll (Node.stripOptions attributes))
  | [] => Shrinks.refl _
  | first :: rest => by
      have later := Node.shrinksOptions rest
      cases carries : first.carriesOptions with
      | true =>
          simpa [Node.anyHasOptions, Node.stripOptions, Node.treesAll, carries] using
            later.drop (Node.sizes_of_carriesOptions carries)
      | false =>
          simpa [Node.anyHasOptions, Node.stripOptions, Node.treesAll, carries,
            Bool.or_left_comm] using first.shrinks.append later

end

end SlotSum
