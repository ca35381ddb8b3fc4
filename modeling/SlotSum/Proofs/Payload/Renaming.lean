import SlotSum.Proofs.Payload.Instance

/-!
Renaming in types. Payloads are compared by the names in their paths as these are spelled, so a
comparison of renamed types says as much as one of the types themselves if the renaming keeps their
names apart, also from the parameters and from the words that stand for something else in a path.
-/

namespace SlotSum

/-! ### Types with other names -/

mutual

/-- The type with every name in it changed. Lifetimes, literals and raw tokens stay as they are. -/
def Ty.rename (change : String → String) : Ty → Ty
  | .group inner => .group (inner.rename change)
  | .paren inner => .paren (inner.rename change)
  | .path rooted segments => .path rooted (Segment.renameAll change segments)
  | .projection subject qualified rooted owner rest =>
    .projection (subject.rename change) qualified rooted (Segment.renameAll change owner)
      (Segment.renameAll change rest)
  | .reference lifetime mutable inner => .reference lifetime mutable (inner.rename change)
  | .slice inner => .slice (inner.rename change)
  | .array inner length => .array (inner.rename change) (Node.renameAll change length)
  | .tuple elements trailing => .tuple (Ty.renameAll change elements) trailing
  | .never => .never
  | .composite form parts => .composite form (Node.renameAll change parts)

def Ty.renameAll (change : String → String) : List Ty → List Ty
  | [] => []
  | first :: rest => first.rename change :: Ty.renameAll change rest

def Segment.rename (change : String → String) : Segment → Segment
  | .mk name arguments => .mk (change name) (arguments.rename change)

def Segment.renameAll (change : String → String) : List Segment → List Segment
  | [] => []
  | first :: rest => first.rename change :: Segment.renameAll change rest

def Arguments.rename (change : String → String) : Arguments → Arguments
  | .none => .none
  | .angle turbofish arguments trailing =>
    .angle turbofish (Argument.renameAll change arguments) trailing
  | .round parts => .round (Node.renameAll change parts)

def Argument.rename (change : String → String) : Argument → Argument
  | .lifetime name => .lifetime name
  | .type type => .type (type.rename change)
  | .const parts => .const (Node.renameAll change parts)
  | .binding parts => .binding (Node.renameAll change parts)

def Argument.renameAll (change : String → String) : List Argument → List Argument
  | [] => []
  | first :: rest => first.rename change :: Argument.renameAll change rest

def Node.rename (change : String → String) : Node → Node
  | .word text => .word (change text)
  | .raw trees => .raw trees
  | .group delimiter parts => .group delimiter (Node.renameAll change parts)
  | .type type => .type (type.rename change)
  | .implied type => .implied (type.rename change)
  | .arguments arguments => .arguments (arguments.rename change)
  | .literal attributes negative text =>
    .literal (Node.renameAll change attributes) negative text
  | .attribute head value => .attribute head (Node.renameAll change value)
  | .declared declared attributes parts =>
    .declared declared (Node.renameAll change attributes) (Node.renameAll change parts)

def Node.renameAll (change : String → String) : List Node → List Node
  | [] => []
  | first :: rest => first.rename change :: Node.renameAll change rest

end

section

variable {change : String → String}

theorem Ty.renameAll_eq_map (elements : List Ty) :
    Ty.renameAll change elements = elements.map (Ty.rename change) := by
  induction elements with
  | nil => rfl
  | cons first rest ih => simp [Ty.renameAll, ih]

theorem Segment.renameAll_eq_map (segments : List Segment) :
    Segment.renameAll change segments = segments.map (Segment.rename change) := by
  induction segments with
  | nil => rfl
  | cons first rest ih => simp [Segment.renameAll, ih]

theorem Argument.renameAll_eq_map (arguments : List Argument) :
    Argument.renameAll change arguments = arguments.map (Argument.rename change) := by
  induction arguments with
  | nil => rfl
  | cons first rest ih => simp [Argument.renameAll, ih]

@[simp] theorem Segment.name_rename (segment : Segment) :
    (segment.rename change).name = change segment.name := by
  cases segment
  rfl

theorem Ty.bare_rename (type : Ty) : (type.rename change).bare = type.bare.rename change := by
  fun_induction Ty.bare type with
  | case1 inner ih => exact ih
  | case2 inner ih => exact ih
  | case3 type noGroup noParen =>
      cases type with
      | group inner => exact absurd rfl (noGroup inner)
      | paren inner => exact absurd rfl (noParen inner)
      | _ => rfl

theorem Ty.kind_rename (type : Ty) : (type.rename change).kind = type.kind := by
  cases type <;> rfl

/-! ### Types with their own names -/

mutual

theorem Ty.rename_id : (type : Ty) → type.rename id = type
  | .group inner | .paren inner | .slice inner | .reference _ _ inner => by
      rw [Ty.rename, Ty.rename_id inner]
  | .path _ segments => by rw [Ty.rename, Segment.renameAll_id segments]
  | .projection subject _ _ owner rest => by
      rw [Ty.rename, Ty.rename_id subject, Segment.renameAll_id owner, Segment.renameAll_id rest]
  | .array inner length => by rw [Ty.rename, Ty.rename_id inner, Node.renameAll_id length]
  | .tuple elements _ => by rw [Ty.rename, Ty.renameAll_id elements]
  | .never => rfl
  | .composite _ parts => by rw [Ty.rename, Node.renameAll_id parts]

theorem Ty.renameAll_id : (elements : List Ty) → Ty.renameAll id elements = elements
  | [] => rfl
  | first :: rest => by rw [Ty.renameAll, Ty.rename_id first, Ty.renameAll_id rest]

theorem Segment.rename_id : (segment : Segment) → segment.rename id = segment
  | .mk _ arguments => by rw [Segment.rename, Arguments.rename_id arguments, id]

theorem Segment.renameAll_id : (segments : List Segment) →
    Segment.renameAll id segments = segments
  | [] => rfl
  | first :: rest => by
      rw [Segment.renameAll, Segment.rename_id first, Segment.renameAll_id rest]

theorem Arguments.rename_id : (arguments : Arguments) → arguments.rename id = arguments
  | .none => rfl
  | .angle _ arguments _ => by rw [Arguments.rename, Argument.renameAll_id arguments]
  | .round parts => by rw [Arguments.rename, Node.renameAll_id parts]

theorem Argument.rename_id : (argument : Argument) → argument.rename id = argument
  | .lifetime _ => rfl
  | .type type => by rw [Argument.rename, Ty.rename_id type]
  | .const parts | .binding parts => by rw [Argument.rename, Node.renameAll_id parts]

theorem Argument.renameAll_id : (arguments : List Argument) →
    Argument.renameAll id arguments = arguments
  | [] => rfl
  | first :: rest => by
      rw [Argument.renameAll, Argument.rename_id first, Argument.renameAll_id rest]

theorem Node.rename_id : (node : Node) → node.rename id = node
  | .word _ | .raw _ => rfl
  | .group _ parts => by rw [Node.rename, Node.renameAll_id parts]
  | .type type | .implied type => by rw [Node.rename, Ty.rename_id type]
  | .arguments arguments => by rw [Node.rename, Arguments.rename_id arguments]
  | .literal attributes _ _ => by rw [Node.rename, Node.renameAll_id attributes]
  | .attribute _ value => by rw [Node.rename, Node.renameAll_id value]
  | .declared _ attributes parts => by
      rw [Node.rename, Node.renameAll_id attributes, Node.renameAll_id parts]

theorem Node.renameAll_id : (nodes : List Node) → Node.renameAll id nodes = nodes
  | [] => rfl
  | first :: rest => by rw [Node.renameAll, Node.rename_id first, Node.renameAll_id rest]

end

/-! ### Simple types stay simple -/

mutual

theorem Ty.isSimple_rename : (type : Ty) → (type.rename change).isSimple = type.isSimple
  | .group inner => Ty.isSimple_rename inner
  | .paren inner => Ty.isSimple_rename inner
  | .path _ segments => Segment.areSimple_rename segments
  | .reference _ _ inner => Ty.isSimple_rename inner
  | .slice inner => Ty.isSimple_rename inner
  | .array inner _ => Ty.isSimple_rename inner
  | .tuple elements _ => Ty.areSimple_rename elements
  | .projection .. | .never | .composite .. => rfl

theorem Ty.areSimple_rename : (elements : List Ty) →
    Ty.areSimple (Ty.renameAll change elements) = Ty.areSimple elements
  | [] => rfl
  | first :: rest => by
      rw [Ty.renameAll, Ty.areSimple, Ty.isSimple_rename first, Ty.areSimple_rename rest,
        Ty.areSimple]

theorem Segment.isSimple_rename : (segment : Segment) →
    (segment.rename change).isSimple = segment.isSimple
  | .mk _ .none => rfl
  | .mk _ (.angle _ arguments _) => Argument.areSimple_rename arguments
  | .mk _ (.round _) => rfl

theorem Segment.areSimple_rename : (segments : List Segment) →
    Segment.areSimple (Segment.renameAll change segments) = Segment.areSimple segments
  | [] => rfl
  | first :: rest => by
      rw [Segment.renameAll, Segment.areSimple, Segment.isSimple_rename first,
        Segment.areSimple_rename rest, Segment.areSimple]

theorem Argument.isSimple_rename : (argument : Argument) →
    (argument.rename change).isSimple = argument.isSimple
  | .type type => type.isSimple_rename
  | .lifetime _ | .const _ | .binding _ => rfl

theorem Argument.areSimple_rename : (arguments : List Argument) →
    Argument.areSimple (Argument.renameAll change arguments) = Argument.areSimple arguments
  | [] => rfl
  | first :: rest => by
      rw [Argument.renameAll, Argument.areSimple, Argument.isSimple_rename first,
        Argument.areSimple_rename rest, Argument.areSimple]

end

end

/-! ### The names in a type -/

mutual

/-- The names in the paths of a type, as far as it is simple. -/
def Ty.names : Ty → List String
  | .group inner => inner.names
  | .paren inner => inner.names
  | .path _ segments => Segment.namesAll segments
  | .reference _ _ inner => inner.names
  | .slice inner => inner.names
  | .array inner _ => inner.names
  | .tuple elements _ => Ty.namesAll elements
  | .projection .. => []
  | .never => []
  | .composite .. => []

def Ty.namesAll : List Ty → List String
  | [] => []
  | first :: rest => first.names ++ Ty.namesAll rest

def Segment.names : Segment → List String
  | .mk name arguments => name :: arguments.names

def Segment.namesAll : List Segment → List String
  | [] => []
  | first :: rest => first.names ++ Segment.namesAll rest

def Arguments.names : Arguments → List String
  | .none => []
  | .angle _ arguments _ => Argument.namesAll arguments
  | .round _ => []

def Argument.names : Argument → List String
  | .lifetime _ => []
  | .type type => type.names
  | .const _ => []
  | .binding _ => []

def Argument.namesAll : List Argument → List String
  | [] => []
  | first :: rest => first.names ++ Argument.namesAll rest

end

theorem Ty.namesAll_subset_iff {known : List String} (elements : List Ty) :
    Ty.namesAll elements ⊆ known ↔ ∀ type ∈ elements, type.names ⊆ known := by
  induction elements with
  | nil => simp [Ty.namesAll]
  | cons first rest ih => simp [Ty.namesAll, List.append_subset, ih]

theorem Segment.namesAll_subset_iff {known : List String} (segments : List Segment) :
    Segment.namesAll segments ⊆ known ↔ ∀ segment ∈ segments, segment.names ⊆ known := by
  induction segments with
  | nil => simp [Segment.namesAll]
  | cons first rest ih => simp [Segment.namesAll, List.append_subset, ih]

theorem Argument.namesAll_subset_iff {known : List String} (arguments : List Argument) :
    Argument.namesAll arguments ⊆ known ↔ ∀ argument ∈ arguments, argument.names ⊆ known := by
  induction arguments with
  | nil => simp [Argument.namesAll]
  | cons first rest ih => simp [Argument.namesAll, List.append_subset, ih]

theorem Ty.names_bare (type : Ty) : type.bare.names = type.names := by
  fun_induction Ty.bare type with
  | case1 inner ih => exact ih
  | case2 inner ih => exact ih
  | case3 => rfl

theorem Segment.name_mem {segment : Segment} {known : List String}
    (within : segment.names ⊆ known) : segment.name ∈ known := by
  cases segment
  exact within List.mem_cons_self

theorem Segment.names_mem {segments : List Segment} {known : List String}
    (within : Segment.namesAll segments ⊆ known) : ∀ segment ∈ segments, segment.name ∈ known :=
  fun segment member => Segment.name_mem ((Segment.namesAll_subset_iff segments).mp within segment
    member)

/-! ### Renaming that keeps names apart -/

/-- The words that stand for something else in a path. -/
def pathWords : List String := ["Self", "crate", "self", "super", "$crate"]

/-- No two of the names have one name afterwards. -/
def KeepsApart (change : String → String) (names : List String) : Prop :=
  ∀ name ∈ names, ∀ other ∈ names, change name = change other → name = other

/-- Known names, the parameters and the words of paths among them, are kept apart, and no word of
paths is changed. -/
structure Renaming (params known : List String) where
  change : String → String
  apart : KeepsApart change known
  params : params ⊆ known
  words : pathWords ⊆ known
  same : ∀ word ∈ pathWords, change word = word

namespace Renaming

theorem params_known (params names : List String) : params ⊆ pathWords ++ params ++ names :=
  fun _ member => List.mem_append_left names (List.mem_append_right pathWords member)

theorem words_known (params names : List String) : pathWords ⊆ pathWords ++ params ++ names :=
  fun _ member => List.mem_append_left names (List.mem_append_left params member)

/-- Every name is known and stays as it is. -/
def identity (params names : List String) : Renaming params (pathWords ++ params ++ names) where
  change := id
  apart _ _ _ _ same := same
  params := params_known params names
  words := words_known params names
  same _ _ := rfl

variable {params known : List String} (names : Renaming params known)

theorem contains_params {name : String} (here : name ∈ known) :
    (params.map names.change).contains (names.change name) = params.contains name := by
  rw [Bool.eq_iff_iff, List.contains_iff_mem, List.contains_iff_mem, List.mem_map]
  constructor
  · rintro ⟨param, member, same⟩
    rwa [← names.apart param (names.params member) name here same]
  · exact fun member => ⟨name, member, rfl⟩

theorem eq_word_iff {name word : String} (here : name ∈ known) (member : word ∈ pathWords) :
    names.change name = word ↔ name = word := by
  constructor
  · intro same
    exact names.apart name here word (names.words member)
      (same.trans (names.same word member).symm)
  · rintro rfl
    exact names.same name member

theorem isLeading {segment : Segment} (here : segment.name ∈ known) :
    Ty.isLeading (segment.rename names.change) = Ty.isLeading segment := by
  have each (word : String) (member : word ∈ pathWords) := names.eq_word_iff here member
  rw [Ty.isLeading, Ty.isLeading, Segment.name_rename, Bool.eq_iff_iff, List.contains_iff_mem,
    List.contains_iff_mem]
  simp only [List.mem_cons, List.not_mem_nil, each "crate" (by decide), each "self" (by decide),
    each "super" (by decide), each "$crate" (by decide)]

theorem dropWhile {segments : List Segment} (here : ∀ segment ∈ segments, segment.name ∈ known) :
    (segments.map (Segment.rename names.change)).dropWhile Ty.isLeading =
      (segments.dropWhile Ty.isLeading).map (Segment.rename names.change) := by
  induction segments with
  | nil => rfl
  | cons first rest ih =>
      rw [List.forall_mem_cons] at here
      rw [List.map_cons, List.dropWhile_cons, List.dropWhile_cons, names.isLeading here.1]
      split
      · exact ih here.2
      · rfl

theorem isOwnName {rooted : Bool} {segments : List Segment}
    (here : ∀ segment ∈ segments, segment.name ∈ known) :
    Ty.isOwnName rooted (segments.map (Segment.rename names.change)) =
      Ty.isOwnName rooted segments := by
  cases segments with
  | nil => rfl
  | cons first rest =>
      cases rest with
      | cons => simp [Ty.isOwnName]
      | nil =>
          obtain ⟨name, arguments⟩ := first
          have word : names.change name = "Self" ↔ name = "Self" :=
            names.eq_word_iff (here (.mk name arguments) List.mem_cons_self) (by decide)
          cases arguments with
          | none =>
              rw [List.map_cons, List.map_nil, Segment.rename, Arguments.rename, Ty.isOwnName,
                Ty.isOwnName, Bool.beq_eq_decide_eq, Bool.beq_eq_decide_eq]
              simp [word]
          | angle | round => rfl

theorem isProjection {segments : List Segment}
    (here : ∀ segment ∈ segments, segment.name ∈ known) :
    Ty.isProjection (params.map names.change) (segments.map (Segment.rename names.change)) =
      Ty.isProjection params segments := by
  cases segments with
  | nil => rfl
  | cons first rest =>
      simp only [Ty.isProjection, List.map_cons, List.length_cons, List.length_map,
        List.head?_cons, Option.any_some, Segment.name_rename,
        names.contains_params (here first (by simp))]

theorem isParam {type : Ty} (within : type.names ⊆ known) :
    (type.rename names.change).isParam (params.map names.change) = type.isParam params := by
  cases type with
  | path rooted segments =>
      cases segments with
      | nil => cases rooted <;> rfl
      | cons first rest =>
          obtain ⟨name, arguments⟩ := first
          have here : name ∈ known := within List.mem_cons_self
          cases rooted with
          | true => rfl
          | false =>
              cases arguments with
              | angle | round => cases rest <;> rfl
              | none =>
                  cases rest with
                  | nil => exact names.contains_params here
                  | cons => rfl
  | _ => rfl

theorem isStructural {type : Ty} (within : type.names ⊆ known) :
    (type.rename names.change).isStructural (params.map names.change) =
      type.isStructural params := by
  cases type with
  | path rooted segments =>
      have projection := names.isProjection (Segment.names_mem within)
      rw [Ty.rename, Segment.renameAll_eq_map, Ty.isStructural, Ty.isStructural, projection]
  | _ => rfl

theorem place {segments : List Segment} (here : ∀ segment ∈ segments, segment.name ∈ known)
    {place : Nat} {segment : Segment}
    (found : (segments.dropWhile Ty.isLeading).reverse[place]? = some segment) :
    ((segments.map (Segment.rename names.change)).dropWhile Ty.isLeading).reverse[place]? =
      some (segment.rename names.change) := by
  rw [names.dropWhile here, ← List.map_reverse, List.getElem?_map, found]
  rfl

end Renaming

end SlotSum
