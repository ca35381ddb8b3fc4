import Mathlib.Data.Bool.AllAny
import Mathlib.Data.List.TakeWhile
import SlotSum.Payload.Basic
import SlotSum.Proofs.Text.Replace

/-!
What tightening does to a text. Spaces are dropped around a few characters only. So a text comes
apart into runs of such characters and what stands between them: runs lose spaces, though never all
that they have, and the rest stays as it is.
-/

namespace SlotSum.Ty

open Text (Sheds)

/-- The space, and the characters around which it may be dropped. -/
def isLoose (c : Char) : Bool := " :<>,&;[]()".toList.contains c

def tighten (text : List Char) : List Char :=
  tightenings.foldl (fun text (loose, tight) => Text.replace loose tight text) text

theorem display_eq (type : Ty) : type.display = String.ofList (tighten type.key.toList) := rfl

/-- A spelling that differs from its tight form in spaces, without being made of them. -/
structure IsTightened (loose tight : List Char) : Prop where
  some_ : tight ≠ []
  isLoose : ∀ c ∈ loose, isLoose c = true
  sheds : Sheds loose tight

theorem IsTightened.some_loose {loose tight : List Char} (tightened : IsTightened loose tight) :
    loose ≠ [] := by
  rintro rfl
  cases tightened.sheds
  exact tightened.some_ rfl

theorem isTightened_tightenings :
    ∀ spelling ∈ tightenings, IsTightened spelling.1.toList spelling.2.toList := by
  intro spelling member
  simp only [tightenings, List.mem_cons, List.not_mem_nil, or_false] at member
  rcases member with rfl | rfl | rfl | rfl | rfl | rfl | rfl | rfl | rfl | rfl | rfl | rfl | rfl
  all_goals
    refine ⟨by decide, List.all_iff_forall_prop.mp (by decide), ?_⟩
    repeat first | exact .nil | refine .keep _ ?_ | refine .drop ?_

/-- What every replacement keeps is kept by all of them. -/
theorem tighten_induction (holds : List Char → List Char → Prop) (refl : ∀ text, holds text text)
    (trans : ∀ {text text' text''}, holds text text' → holds text' text'' → holds text text'')
    (each : ∀ {loose tight}, IsTightened loose tight →
      ∀ text, holds text (Text.replaceFrom loose tight 0 text))
    (text : List Char) : holds text (tighten text) := by
  have all : ∀ spellings : List (String × String), spellings ⊆ tightenings → ∀ text,
      holds text (spellings.foldl (fun text (loose, tight) => Text.replace loose tight text) text) := by
    intro spellings
    induction spellings with
    | nil => exact fun _ text => refl text
    | cons first rest ih =>
        intro subset text
        have own := isTightened_tightenings first (subset List.mem_cons_self)
        exact trans (each own text) (ih (List.subset_of_cons_subset subset) _)
  exact all tightenings (List.Subset.refl _) text

theorem sheds_tighten (text : List Char) : Sheds text (tighten text) :=
  tighten_induction Sheds Sheds.refl Sheds.trans
    (fun tightened text => Text.sheds_replaceFrom tightened.some_loose tightened.sheds text) text

theorem tighten_ne_nil {text : List Char} (some_ : text ≠ []) : tighten text ≠ [] :=
  tighten_induction (fun text text' => text ≠ [] → text' ≠ []) (fun _ => id)
    (fun first second => second ∘ first)
    (fun tightened _ => Text.replaceFrom_ne_nil tightened.some_loose tightened.some_) text some_

@[simp] theorem tighten_nil : tighten [] = [] := by
  have sheds := sheds_tighten []
  generalize tighten [] = tight at sheds
  cases sheds
  rfl

theorem tighten_of_unspaced {text : List Char} (unspaced : ' ' ∉ text) : tighten text = text :=
  (sheds_tighten text).eq_of_unspaced unspaced

/-- Either side of a character that no spelling has is tightened on its own. -/
theorem tighten_around {c : Char} (firm : isLoose c = false) (before after : List Char) :
    tighten (before ++ c :: after) = tighten before ++ c :: tighten after := by
  have all : ∀ spellings : List (String × String), spellings ⊆ tightenings → ∀ before after,
      spellings.foldl (fun text (loose, tight) => Text.replace loose tight text)
          (before ++ c :: after) =
        spellings.foldl (fun text (loose, tight) => Text.replace loose tight text) before ++
          c :: spellings.foldl (fun text (loose, tight) => Text.replace loose tight text) after := by
    intro spellings
    induction spellings with
    | nil => exact fun _ before after => rfl
    | cons first rest ih =>
        intro subset before after
        have own := isTightened_tightenings first (subset List.mem_cons_self)
        have foreign : c ∉ first.1.toList := fun member => by
          rw [own.isLoose c member] at firm
          cases firm
        rw [List.foldl_cons, List.foldl_cons, List.foldl_cons]
        simp only [Text.replace]
        rw [Text.replaceFrom_around own.some_loose foreign]
        exact ih (List.subset_of_cons_subset subset) _ _
  exact all tightenings (List.Subset.refl _) before after

theorem tighten_cons {c : Char} (firm : isLoose c = false) (rest : List Char) :
    tighten (c :: rest) = c :: tighten rest := by
  simpa using tighten_around firm [] rest

/-! ### Somewhere in a text -/

/-- The text begins inside a run of loose characters, or is empty. -/
def Breaks (text : List Char) : Prop := ∀ c ∈ text.head?, isLoose c = true

/-- What is left of a text and of its tight form, where reading has come to the same place of both.
That may be inside of a run of loose characters; `fresh` tells that none of it has been read. -/
structure Tightening (fresh : Bool) (text tight : List Char) : Prop where
  apart : ∃ run run' rest, text = run ++ rest ∧ tight = run' ++ tighten rest ∧
    (∀ c ∈ run, isLoose c = true) ∧ (∀ c ∈ rest.head?, isLoose c = false) ∧ Sheds run run' ∧
    (fresh = true → run ≠ [] → run' ≠ [])

namespace Tightening

variable {fresh : Bool} {c : Char} {text tight : List Char}

theorem begin_ (text : List Char) : Tightening true text (tighten text) := by
  have firm : ∀ c ∈ (text.dropWhile isLoose).head?, isLoose c = false := by
    intro c member
    have stopped := List.head?_dropWhile_not isLoose text
    rw [Option.mem_def.mp member] at stopped
    simpa using stopped
  have both : text.takeWhile isLoose ++ text.dropWhile isLoose = text :=
    List.takeWhile_append_dropWhile
  have split (run rest : List Char) (firm : ∀ c ∈ rest.head?, isLoose c = false) :
      tighten (run ++ rest) = tighten run ++ tighten rest := by
    cases rest with
    | nil => simp
    | cons c after => rw [tighten_around (firm c rfl), tighten_cons (firm c rfl)]
  refine ⟨_, _, _, both.symm, ?_, fun c member => List.mem_takeWhile_imp member, firm,
    sheds_tighten _, fun _ => tighten_ne_nil⟩
  rw [← split _ _ firm, both]

/-- A loose character other than the space is kept. -/
theorem mark (loose : isLoose c = true) (other : c ≠ ' ')
    (between : Tightening fresh (c :: text) tight) :
    ∃ tight', tight = c :: tight' ∧ Tightening false text tight' := by
  obtain ⟨run, run', rest, eq, rfl, own, firm, sheds, -⟩ := between
  cases sheds with
  | nil =>
      obtain rfl : c :: text = rest := eq
      rw [firm c rfl] at loose
      cases loose
  | keep d sheds =>
      obtain ⟨rfl, rfl⟩ := List.cons.inj eq
      exact ⟨_, rfl, _, _, rest, rfl, rfl, fun d member => own d (List.mem_cons_of_mem _ member),
        firm, sheds, nofun⟩
  | drop => exact absurd (List.cons.inj eq).1 other

/-- A space is kept or dropped. -/
theorem blank (between : Tightening fresh (' ' :: text) tight) :
    (∃ tight', tight = ' ' :: tight' ∧ Tightening false text tight') ∨
      Tightening false text tight := by
  obtain ⟨run, run', rest, eq, rfl, own, firm, sheds, -⟩ := between
  cases sheds with
  | nil =>
      obtain rfl : ' ' :: text = rest := eq
      cases firm ' ' rfl
  | keep d sheds =>
      obtain ⟨rfl, rfl⟩ := List.cons.inj eq
      exact .inl ⟨_, rfl, _, _, rest, rfl, rfl,
        fun d member => own d (List.mem_cons_of_mem _ member), firm, sheds, nofun⟩
  | drop sheds =>
      obtain ⟨-, rfl⟩ := List.cons.inj eq
      exact .inr ⟨_, _, rest, rfl, rfl, fun d member => own d (List.mem_cons_of_mem _ member),
        firm, sheds, nofun⟩

/-- What stands between two firm characters is tightened on its own. -/
theorem firm (part : List Char) (first : ∀ c ∈ part.head?, isLoose c = false)
    (last : ∀ c ∈ part.getLast?, isLoose c = false) (some_ : part ≠ [])
    (between : Tightening fresh (part ++ text) tight) :
    ∃ tight', tight = tighten part ++ tight' ∧ Tightening true text tight' := by
  obtain ⟨run, run', rest, eq, rfl, own, -, sheds, -⟩ := between
  obtain rfl : run = [] := by
    cases run with
    | nil => rfl
    | cons d run =>
        cases part with
        | nil => exact absurd rfl some_
        | cons c part =>
            have loose := own d List.mem_cons_self
            rw [← (List.cons.inj eq).1, first c rfl] at loose
            cases loose
  cases sheds
  obtain rfl : part ++ text = rest := eq
  obtain ⟨before, c, rfl⟩ := List.eq_nil_or_concat part |>.resolve_left some_
  have own : isLoose c = false := last c (by simp)
  refine ⟨tighten text, ?_, begin_ text⟩
  rw [List.concat_eq_append, List.append_assoc, List.singleton_append, tighten_around own,
    tighten_around own]
  simp

/-- Nothing is left of one text only. -/
theorem nil (between : Tightening fresh [] tight) : tight = [] := by
  obtain ⟨run, run', rest, eq, rfl, -, -, sheds, -⟩ := between
  obtain ⟨rfl, rfl⟩ := List.append_eq_nil_iff.mp eq.symm
  cases sheds
  rw [tighten_nil, List.append_nil]

/-- What follows a firm character still breaks off there. -/
theorem breaks (between : Tightening true text tight) (breaks : Breaks text) : Breaks tight := by
  obtain ⟨run, run', rest, rfl, rfl, own, firm, sheds, kept⟩ := between
  cases run with
  | nil =>
      cases sheds
      cases rest with
      | nil => simp [Breaks]
      | cons c rest =>
          have loose := breaks c rfl
          rw [firm c rfl] at loose
          cases loose
  | cons c run =>
      have some_ := kept rfl (by simp)
      intro d member
      cases run' with
      | nil => exact absurd rfl some_
      | cons e run' =>
          obtain rfl : e = d := by simpa using member
          exact own e (sheds.subset List.mem_cons_self)

/-- Characters without a space among them are kept, and what follows them begins anew if the last of
them is firm. -/
theorem keep (part : List Char) (unspaced : ' ' ∉ part)
    (between : Tightening fresh (part ++ text) tight) :
    ∃ tight', tight = part ++ tight' ∧
      Tightening (part.foldl (fun _ c => !isLoose c) fresh) text tight' := by
  induction part generalizing fresh tight with
  | nil => exact ⟨tight, rfl, between⟩
  | cons c rest ih =>
      obtain ⟨tight', rfl, next⟩ : ∃ tight', tight = c :: tight' ∧
          Tightening (!isLoose c) (rest ++ text) tight' := by
        cases loose : isLoose c with
        | true =>
            have other : c ≠ ' ' := by rintro rfl; simp at unspaced
            exact mark loose other between
        | false =>
            obtain ⟨tight', eq, next⟩ :=
              firm [c] (by simpa) (by simpa) (by simp) between
            exact ⟨tight', by simpa [tighten_cons loose] using eq, next⟩
      obtain ⟨tight'', rfl, after⟩ :=
        ih (fun member => unspaced (List.mem_cons_of_mem c member)) next
      exact ⟨tight'', rfl, after⟩

end Tightening

end SlotSum.Ty
