import SlotSum.Payload.Basic

/-!
Parameters that no type covers. A type shows a parameter if references and wrappers around it come
off and leave the parameter. References and boxes are taken off, and a parameter written from the
root counts as well; a pin is kept as a cover.
-/

namespace SlotSum.Ty

/-- The type is left of another when references and `wrappers` around it come off, each with the
groups and parentheses that stand around it. A wrapper stands around its first argument. -/
inductive Peels (wrappers : List String) (core : Ty) : Ty → Prop
  | self : Peels wrappers core core
  | group (inside : Peels wrappers core type) : Peels wrappers core (.group type)
  | paren (inside : Peels wrappers core type) : Peels wrappers core (.paren type)
  | reference (inside : Peels wrappers core type) :
      Peels wrappers core (.reference lifetime mutable type)
  | wrapper (known : name ∈ wrappers) (inside : Peels wrappers core type) :
      Peels wrappers core
        (.path rooted (before ++ [.mk name (.angle turbofish (.type type :: more) trailing)]))

/-- A name alone, possibly behind a double colon. -/
def parameter (rooted : Bool) (name : String) : Ty := path rooted [.mk name .none]

/-- Taking `wrappers` for no cover, one of the parameters is uncovered. -/
def UncoveredBy (wrappers params : List String) (type : Ty) : Prop :=
  ∃ name ∈ params, Peels wrappers (parameter false name) type

/-- The wrappers that the rules of coherence take for no cover. -/
def fundamental : List String := ["Box", "Pin"]

/-- References and boxes leave a pin, and what it holds is uncovered. -/
def IsPinned (params : List String) (type : Ty) : Prop :=
  ∃ rooted before turbofish content more trailing,
    Peels ["Box"]
      (.path rooted (before ++ [.mk "Pin" (.angle turbofish (.type content :: more) trailing)]))
      type ∧
    content.UncoveredBy fundamental params

/-- References and boxes leave the name of a parameter behind a double colon. -/
def IsRooted (params : List String) (type : Ty) : Prop :=
  ∃ name ∈ params, Peels ["Box"] (parameter true name) type

variable {wrappers wrappers' params : List String} {core middle type : Ty}

namespace Peels

theorem trans (inside : Peels wrappers core middle) (outside : Peels wrappers middle type) :
    Peels wrappers core type := by
  induction outside with
  | self => exact inside
  | group _ ih => exact .group ih
  | paren _ ih => exact .paren ih
  | reference _ ih => exact .reference ih
  | wrapper known _ ih => exact .wrapper known ih

theorem mono (fewer : wrappers ⊆ wrappers') (peels : Peels wrappers core type) :
    Peels wrappers' core type := by
  induction peels with
  | self => exact .self
  | group _ ih => exact .group ih
  | paren _ ih => exact .paren ih
  | reference _ ih => exact .reference ih
  | wrapper known _ ih => exact .wrapper (fewer known) ih

/-- A path is left as it is, or its last segment is a wrapper with the rest inside. -/
theorem of_path {segments : List Segment} (peels : Peels wrappers core (.path rooted segments)) :
    core = .path rooted segments ∨
      ∃ before name turbofish inner more trailing,
        segments = before ++ [.mk name (.angle turbofish (.type inner :: more) trailing)] ∧
        name ∈ wrappers ∧ Peels wrappers core inner := by
  cases peels with
  | self => exact .inl rfl
  | wrapper known inside => exact .inr ⟨_, _, _, _, _, _, rfl, known, inside⟩

theorem eq_parameter {name : String} (peels : Peels wrappers core (parameter rooted name)) :
    core = parameter rooted name := by
  rcases peels.of_path with here | ⟨before, _, _, _, _, _, segments, -, -⟩
  · exact here
  · obtain ⟨-, last⟩ := List.append_inj' (show [] ++ [_] = before ++ [_] from segments) rfl
    cases last

/-- Whatever wrappers come off, one parameter is left at most. -/
theorem parameter_unique {name name' : String}
    (first : Peels wrappers (parameter rooted name) type)
    (second : Peels wrappers' (parameter rooted' name') type) :
    parameter rooted name = parameter rooted' name' := by
  induction first with
  | self => exact second.eq_parameter.symm
  | group _ ih => cases second with | group inside => exact ih inside
  | paren _ ih => cases second with | paren inside => exact ih inside
  | reference _ ih => cases second with | reference inside => exact ih inside
  | wrapper _ _ ih =>
      rcases second.of_path with here | ⟨before, _, _, _, _, _, segments, -, inside⟩
      · injection here with _ segments
        obtain ⟨-, last⟩ := List.append_inj' (show [] ++ [_] = _ ++ [_] from segments) rfl
        cases last
      · obtain ⟨-, last⟩ := List.append_inj' segments rfl
        cases last
        exact ih inside

end Peels

/-! ### What is found uncovered -/

theorem uncoveredPath_false_concat (params : List String) (before : List Segment) (name : String)
    (arguments : Arguments) :
    uncoveredPath params false (before ++ [.mk name arguments]) =
      (name == "Box" && uncoveredArguments params arguments) := by
  induction before with
  | nil => simp [uncoveredPath]
  | cons first rest ih =>
      cases rest <;> simpa only [List.cons_append, List.nil_append, uncoveredPath] using ih

theorem isUncovered_parameter (rooted : Bool) (name : String) :
    (parameter rooted name).isUncovered params = params.contains name := by
  simp [parameter, isUncovered, uncoveredPath, Arguments.isNone]

/-- Only boxes are looked into. -/
theorem isUncovered_wrapper (rooted : Bool) (before : List Segment) (name : String)
    (turbofish trailing : Bool) (inner : Ty) (more : List Argument) :
    (path rooted (before ++
      [.mk name (.angle turbofish (.type inner :: more) trailing)])).isUncovered params =
        (name == "Box" && inner.isUncovered params) := by
  cases before with
  | nil =>
      simp [isUncovered, uncoveredPath, uncoveredArguments, uncoveredArgument, Arguments.isNone]
  | cons first rest =>
      have later := uncoveredPath_false_concat params rest name
        (.angle turbofish (.type inner :: more) trailing)
      cases rest <;>
        simpa only [isUncovered, List.cons_append, List.nil_append, uncoveredPath,
          uncoveredArguments, uncoveredArgument] using later

theorem isUncovered_of_peels (peels : Peels ["Box"] core type) :
    type.isUncovered params = core.isUncovered params := by
  induction peels with
  | self => rfl
  | group _ ih => rw [isUncovered, ih]
  | paren _ ih => rw [isUncovered, ih]
  | reference _ ih => rw [isUncovered, ih]
  | wrapper known _ ih =>
      obtain rfl := List.mem_singleton.mp known
      rw [isUncovered_wrapper, ih, beq_self_eq_true, Bool.true_and]

/-- References and boxes leave the name of a parameter, written in either way. -/
def Shows (params : List String) (type : Ty) : Prop :=
  ∃ rooted, ∃ name ∈ params, Peels ["Box"] (parameter rooted name) type

theorem Shows.of_peels (shows : middle.Shows params) (outside : Peels ["Box"] middle type) :
    type.Shows params := by
  obtain ⟨rooted, name, member, inside⟩ := shows
  exact ⟨rooted, name, member, inside.trans outside⟩

mutual

theorem shows_of_isUncovered : (type : Ty) → type.isUncovered params = true → type.Shows params
  | .group inner, found =>
      (shows_of_isUncovered inner (by simpa only [isUncovered] using found)).of_peels (.group .self)
  | .paren inner, found =>
      (shows_of_isUncovered inner (by simpa only [isUncovered] using found)).of_peels (.paren .self)
  | .reference _ _ inner, found =>
      (shows_of_isUncovered inner (by simpa only [isUncovered] using found)).of_peels
        (.reference .self)
  | .path rooted segments, found =>
      shows_of_uncoveredPath rooted [] segments (by simpa [isUncovered] using found)
  | .projection .., found | .slice _, found | .array .., found | .tuple .., found | .never, found
  | .composite .., found => by simp [isUncovered] at found

/-- The segments that have been passed stand before the others. -/
theorem shows_of_uncoveredPath (rooted : Bool) (before : List Segment) :
    (segments : List Segment) → uncoveredPath params before.isEmpty segments = true →
      (path rooted (before ++ segments)).Shows params
  | [], found => by simp [uncoveredPath] at found
  | [.mk name arguments], found => by
      rw [uncoveredPath] at found
      split at found
      next alone =>
        obtain ⟨rfl, none⟩ : before = [] ∧ arguments.isNone = true := by simpa using alone
        cases arguments with
        | none => exact ⟨rooted, name, by simpa using found, .self⟩
        | angle | round => simp [Arguments.isNone] at none
      next =>
        obtain ⟨rfl, found⟩ : name = "Box" ∧ uncoveredArguments params arguments = true := by
          simpa using found
        obtain ⟨_, inner, _, _, rfl, shows⟩ := shows_of_uncoveredArguments arguments found
        exact shows.of_peels (.wrapper (List.mem_singleton_self _) .self)
  | first :: next :: rest, found => by
      have passed : (before ++ [first]).isEmpty = false := by cases before <;> rfl
      rw [uncoveredPath, ← passed] at found
      have later := shows_of_uncoveredPath rooted (before ++ [first]) (next :: rest) found
      rwa [List.append_assoc] at later

theorem shows_of_uncoveredArguments : (arguments : Arguments) →
    uncoveredArguments params arguments = true →
      ∃ turbofish inner more trailing,
        arguments = .angle turbofish (.type inner :: more) trailing ∧ inner.Shows params
  | .none, found | .round _, found | .angle _ [] _, found => by simp [uncoveredArguments] at found
  | .angle _ (first :: _) _, found => by
      obtain ⟨inner, rfl, shows⟩ :=
        shows_of_uncoveredArgument first (by simpa only [uncoveredArguments] using found)
      exact ⟨_, inner, _, _, rfl, shows⟩

theorem shows_of_uncoveredArgument : (argument : Argument) →
    uncoveredArgument params argument = true →
      ∃ inner, argument = .type inner ∧ inner.Shows params
  | .type inner, found =>
      ⟨inner, rfl, shows_of_isUncovered inner (by simpa only [uncoveredArgument] using found)⟩
  | .lifetime _, found | .const _, found | .binding _, found => by
      simp [uncoveredArgument] at found

end

theorem isUncovered_iff : type.isUncovered params = true ↔ type.Shows params := by
  constructor
  · exact shows_of_isUncovered type
  · rintro ⟨rooted, name, member, peels⟩
    rw [isUncovered_of_peels peels, isUncovered_parameter]
    exact List.contains_iff_mem.mpr member

theorem shows_iff : type.Shows params ↔ type.UncoveredBy ["Box"] params ∨ type.IsRooted params := by
  constructor
  · rintro ⟨_ | _, shown⟩
    · exact .inl shown
    · exact .inr shown
  · rintro (shown | shown)
    · exact ⟨false, shown⟩
    · exact ⟨true, shown⟩

/-! ### What the rules of coherence take for uncovered -/

theorem uncoveredBy_or_isPinned_of_peels (outside : Peels ["Box"] middle type)
    (found : middle.UncoveredBy ["Box"] params ∨ middle.IsPinned params) :
    type.UncoveredBy ["Box"] params ∨ type.IsPinned params := by
  rcases found with ⟨name, member, inside⟩ | ⟨_, _, _, _, _, _, inside, content⟩
  · exact .inl ⟨name, member, inside.trans outside⟩
  · exact .inr ⟨_, _, _, _, _, _, inside.trans outside, content⟩

/-- Only boxes stand on the way to an uncovered parameter, or a pin is met behind them. -/
theorem uncoveredBy_fundamental_iff :
    type.UncoveredBy fundamental params ↔
      type.UncoveredBy ["Box"] params ∨ type.IsPinned params := by
  constructor
  · rintro ⟨name, member, peels⟩
    induction peels with
    | self => exact .inl ⟨name, member, .self⟩
    | group _ ih => exact uncoveredBy_or_isPinned_of_peels (.group .self) ih
    | paren _ ih => exact uncoveredBy_or_isPinned_of_peels (.paren .self) ih
    | reference _ ih => exact uncoveredBy_or_isPinned_of_peels (.reference .self) ih
    | wrapper known inside ih =>
        obtain rfl | rfl : _ = "Box" ∨ _ = "Pin" := by simpa [fundamental] using known
        · exact uncoveredBy_or_isPinned_of_peels (.wrapper (List.mem_singleton_self _) .self) ih
        · exact .inr ⟨_, _, _, _, _, _, .self, name, member, inside⟩
  · have boxes : ["Box"] ⊆ fundamental := by simp [fundamental]
    rintro (⟨name, member, peels⟩ | ⟨_, _, _, _, _, _, outside, name, member, inside⟩)
    · exact ⟨name, member, peels.mono boxes⟩
    · exact ⟨name, member, (Peels.wrapper (by decide) inside).trans (outside.mono boxes)⟩

theorem isUncovered_of_isPinned (pinned : type.IsPinned params) :
    type.isUncovered params = false := by
  obtain ⟨rooted, before, turbofish, content, more, trailing, peels, -⟩ := pinned
  rw [isUncovered_of_peels peels, isUncovered_wrapper]
  rfl

theorem IsRooted.not_uncoveredBy (rooted : type.IsRooted params) :
    ¬ type.UncoveredBy wrappers params := by
  obtain ⟨name, -, behind⟩ := rooted
  rintro ⟨name', -, plain⟩
  cases behind.parameter_unique plain

/-- What is found uncovered is what the rules of coherence take for it, apart from pins and from
parameters written behind a double colon. -/
theorem isUncovered_agrees_iff :
    (type.isUncovered params = true ↔ type.UncoveredBy fundamental params) ↔
      ¬ type.IsPinned params ∧ ¬ type.IsRooted params := by
  have found : type.isUncovered params = true ↔
      type.UncoveredBy ["Box"] params ∨ type.IsRooted params := isUncovered_iff.trans shows_iff
  constructor
  · intro agrees
    refine ⟨fun pinned => ?_, fun rooted => ?_⟩
    · have uncovered := agrees.mpr (uncoveredBy_fundamental_iff.mpr (.inr pinned))
      simp [isUncovered_of_isPinned pinned] at uncovered
    · exact rooted.not_uncoveredBy (agrees.mp (found.mpr (.inr rooted)))
  · rintro ⟨notPinned, notRooted⟩
    rw [found, uncoveredBy_fundamental_iff, or_iff_left notPinned, or_iff_left notRooted]

end SlotSum.Ty
