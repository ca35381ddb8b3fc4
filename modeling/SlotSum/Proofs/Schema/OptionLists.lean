import SlotSum.Proofs.Schema.OptionRun

/-!
The lists of words that options are. A list is read if words that are known and differ stand in it
with commas between them, and possibly one at the end. Any other list is blamed on the first token
with which no such list goes on.
-/

namespace SlotSum

/-! ### The grammar -/

/-- Words with commas between them and possibly one at the end, through invisible groups that open
in front of a word or of a comma. -/
inductive Reads : List Token → List Name → Prop
  | nil : Reads [] []
  | last (here : Token.front tokens = [.word name]) : Reads tokens [name]
  | more (here : Token.front tokens = .word name :: next)
      (comma : Token.front next = .mark ',' joint span :: rest) (others : Reads rest names) :
      Reads tokens (name :: names)

/-- The words are among the `choices`, differ, and have not been `seen`. -/
structure Fresh (choices seen : List String) (names : List Name) : Prop where
  known : ∀ name ∈ names, name.text ∈ choices
  unseen : ∀ name ∈ names, name.text ∉ seen
  differ : (names.map Name.text).Nodup

theorem fresh_nil (choices seen : List String) : Fresh choices seen [] :=
  ⟨nofun, nofun, List.nodup_nil⟩

theorem fresh_cons {choices seen : List String} {name : Name} {names : List Name} :
    Fresh choices seen (name :: names) ↔
      name.text ∈ choices ∧ name.text ∉ seen ∧ Fresh choices (name.text :: seen) names := by
  constructor
  · rintro ⟨known, unseen, differ⟩
    rw [List.forall_mem_cons] at known unseen
    rw [List.map_cons, List.nodup_cons] at differ
    refine ⟨known.1, unseen.1, known.2, fun other member again => ?_, differ.2⟩
    rcases List.mem_cons.mp again with same | earlier
    · exact differ.1 (same ▸ List.mem_map_of_mem member)
    · exact unseen.2 other member earlier
  · rintro ⟨known, unseen, others⟩
    refine ⟨List.forall_mem_cons.mpr ⟨known, others.known⟩,
      List.forall_mem_cons.mpr ⟨unseen, fun other member earlier => ?_⟩, ?_⟩
    · exact others.unseen other member (List.mem_cons_of_mem _ earlier)
    · rw [List.map_cons, List.nodup_cons]
      refine ⟨fun again => ?_, others.differ⟩
      obtain ⟨other, member, same⟩ := List.mem_map.mp again
      exact others.unseen other member (same ▸ List.mem_cons_self ..)

theorem OptionRun.reads {choices seen : List String} {tokens : List Token} {names : List Name}
    (run : OptionRun choices seen tokens (.ok names)) :
    Reads tokens names ∧ Fresh choices seen names := by
  generalize found : Except.ok names = result at run
  induction run generalizing names with
  | ended =>
      cases found
      exact ⟨.nil, fresh_nil _ _⟩
  | last here known fresh =>
      cases found
      exact ⟨.last here, fresh_cons.mpr ⟨known, fresh, fresh_nil _ _⟩⟩
  | more here known fresh comma _ ih =>
      cases found
      obtain ⟨reads, others⟩ := ih rfl
      exact ⟨.more here comma reads, fresh_cons.mpr ⟨known, fresh, others⟩⟩
  | unknown | repeated | missing | stuck => cases found

/-- Nothing else comes of a list that is made of different words. -/
theorem OptionRun.of_reads {choices seen : List String} {tokens : List Token} {names : List Name}
    {result : Except Fault (List Name)} (reads : Reads tokens names)
    (fresh : Fresh choices seen names) (run : OptionRun choices seen tokens result) :
    result = .ok names := by
  induction reads generalizing seen result with
  | nil =>
      cases run with
      | ended => rfl
      | repeated here | last here | missing here | more here | stuck here => cases here
  | last here =>
      obtain ⟨known, unseen, -⟩ := fresh_cons.mp fresh
      cases run with
      | ended => cases here
      | unknown unknown => exact absurd known (unknown _ _ here)
      | repeated there _ already => cases here.symm.trans there; exact absurd already unseen
      | last there => cases here.symm.trans there; rfl
      | missing there => cases here.symm.trans there
      | more there _ _ comma | stuck there _ _ comma => cases here.symm.trans there; cases comma
  | more here comma _ ih =>
      obtain ⟨known, unseen, others⟩ := fresh_cons.mp fresh
      cases run with
      | ended => cases here
      | unknown unknown => exact absurd known (unknown _ _ here)
      | repeated there _ already => cases here.symm.trans there; exact absurd already unseen
      | last there => cases here.symm.trans there; cases comma
      | missing there _ _ missing =>
          cases here.symm.trans there
          exact absurd comma (missing _ _ _)
      | more there _ _ comma' later =>
          cases here.symm.trans there
          cases comma.symm.trans comma'
          cases ih others later
          rfl
      | stuck there _ _ comma' later =>
          cases here.symm.trans there
          cases comma.symm.trans comma'
          cases ih others later

theorem OptionRun.eq_ok_iff {choices seen : List String} {tokens : List Token} {names : List Name}
    {result : Except Fault (List Name)} (run : OptionRun choices seen tokens result) :
    result = .ok names ↔ Reads tokens names ∧ Fresh choices seen names := by
  constructor
  · rintro rfl
    exact run.reads
  · rintro ⟨reads, fresh⟩
    exact OptionRun.of_reads reads fresh run

/-! ### Where a list stops -/

/-- What stands next in a list. -/
inductive Due where
  | word
  | comma

/-- The beginning of a list, as it is written, with what is due behind it. -/
inductive Listed : Due → List Name → List Token → Prop
  | nil : Listed .word [] []
  | last : Listed .comma [name] [.word name]
  | more (others : Listed due names tokens) :
      Listed due (name :: names) (.word name :: .mark ',' joint span :: tokens)

/-- A list does not go on with a token, because one of the texts is repeated, because something
else than a word of `choices` stands in place of one, or because a comma is missing. -/
inductive Halts (choices : List String) : Due → List String → Token → Fault → Prop
  | repeated (already : name.text ∈ texts) :
      Halts choices .word texts (.word name) ⟨.repeated name.text, false, name.span⟩
  | unknown (unknown : ∀ name, token = .word name → name.text ∉ choices) :
      Halts choices .word texts token ⟨.expected (quoted choices), false, token.opening⟩
  | missing (missing : ∀ joint span, token ≠ .mark ',' joint span) :
      Halts choices .comma texts token ⟨.expected ["`,`"], false, token.opening⟩

/-- Without invisible groups the words and commas are the tokens themselves. -/
theorem reads_iff_listed {tokens : List Token} {names : List Name}
    (visible : Token.AreVisible tokens) :
    Reads tokens names ↔ ∃ due, Listed due names tokens := by
  constructor
  · intro reads
    induction reads with
    | nil => exact ⟨.word, .nil⟩
    | last here =>
        obtain rfl := visible.eq_of_front here
        exact ⟨.comma, .last⟩
    | more here comma _ ih =>
        obtain rfl := visible.eq_of_front here
        obtain rfl := visible.of_cons.eq_of_front comma
        obtain ⟨due, listed⟩ := ih visible.of_cons.of_cons
        exact ⟨due, .more listed⟩
  · rintro ⟨due, listed⟩
    induction listed with
    | nil => exact .nil
    | last => exact .last visible.front
    | more _ ih => exact .more visible.front visible.of_cons.front (ih visible.of_cons.of_cons)

theorem Halts.mono {choices texts texts' : List String} {due : Due} {token : Token} {fault : Fault}
    (halts : Halts choices due texts token fault) (more : texts ⊆ texts') :
    Halts choices due texts' token fault := by
  cases halts with
  | repeated already => exact .repeated (more already)
  | unknown unknown => exact .unknown unknown
  | missing missing => exact .missing missing

theorem Halts.span {choices texts : List String} {due : Due} {token : Token} {fault : Fault}
    (halts : Halts choices due texts token fault) : fault.span = token.opening := by
  cases halts <;> rfl

theorem OptionRun.halts {choices seen : List String} {tokens : List Token} {fault : Fault}
    (run : OptionRun choices seen tokens (.error fault)) (visible : Token.AreVisible tokens) :
    ∃ due names before token after, tokens = before ++ token :: after ∧ Listed due names before ∧
      Fresh choices seen names ∧ Halts choices due (seen ++ names.map Name.text) token fault := by
  generalize found : Except.error fault = result at run
  induction run with
  | ended | last | more => cases found
  | unknown unknown =>
      cases found
      refine ⟨.word, [], [], _, _, rfl, .nil, fresh_nil _ _, .unknown ?_⟩
      rintro name rfl
      exact unknown name _ rfl
  | repeated here _ already =>
      cases found
      obtain rfl := visible.eq_of_front here
      exact ⟨.word, [], [], _, _, rfl, .nil, fresh_nil _ _,
        .repeated (List.mem_append_left _ already)⟩
  | missing here known fresh missing =>
      cases found
      obtain rfl := visible.eq_of_front here
      refine ⟨.comma, [_], [_], _, _, rfl, .last,
        fresh_cons.mpr ⟨known, fresh, fresh_nil _ _⟩, .missing ?_⟩
      rintro joint span rfl
      exact missing joint span _ rfl
  | stuck here known fresh comma _ ih =>
      cases found
      obtain rfl := visible.eq_of_front here
      obtain rfl := visible.of_cons.eq_of_front comma
      obtain ⟨due, names, before, token, after, rfl, listed, others, halts⟩ :=
        ih visible.of_cons.of_cons rfl
      refine ⟨due, _ :: names, _, token, after, rfl, .more listed,
        fresh_cons.mpr ⟨known, fresh, others⟩, halts.mono ?_⟩
      intro text member
      simpa [or_comm, or_left_comm, or_assoc] using member

theorem Listed.visible {due : Due} {names : List Name} {before : List Token}
    (listed : Listed due names before) : Token.AreVisible before := by
  induction listed with
  | nil => exact nofun
  | last => intro inner opening closing member; simp at member
  | more _ ih =>
      intro inner opening closing member
      simp only [List.mem_cons, reduceCtorEq, false_or] at member
      exact ih inner opening closing member

/-- What has been listed before a word is due is read first, and the rest by itself. -/
theorem Listed.reads_word {names names' : List Name} {before rest : List Token} :
    Listed .word names before → Reads (before ++ rest) names' →
      ∃ others, names' = names ++ others ∧ Reads rest others
  | .nil, reads => ⟨names', rfl, reads⟩
  | .more listed, reads => by
      cases reads with
      | last here => cases here
      | more here comma below =>
          cases here
          cases comma
          obtain ⟨others, same, behind⟩ := listed.reads_word below
          exact ⟨others, congrArg _ same, behind⟩

/-- Where a comma is due, a list that goes on goes on with one. -/
theorem Listed.reads_comma {names names' : List Name} {before rest : List Token} :
    Listed .comma names before → Reads (before ++ rest) names' →
      rest = [] ∨ ∃ joint span rest', Token.front rest = .mark ',' joint span :: rest'
  | .last, reads => by
      cases reads with
      | last here => cases here; exact .inl rfl
      | more here comma _ => cases here; exact .inr ⟨_, _, _, comma⟩
  | .more listed, reads => by
      cases reads with
      | last here => cases here
      | more here comma below =>
          cases here
          cases comma
          exact listed.reads_comma below

theorem Reads.begins {token : Token} {more : List Token} {names : List Name}
    (visible : Token.AreVisible [token]) (reads : Reads (token :: more) names) :
    ∃ name others, token = .word name ∧ names = name :: others := by
  cases reads with
  | last here | more here =>
      rw [Token.front_cons more visible] at here
      cases here
      exact ⟨_, _, rfl, rfl⟩

/-- No list of different words goes on with the token on which a list stops. -/
theorem Halts.not_reads {choices : List String} {due : Due} {names names' : List Name}
    {before more : List Token} {token : Token} {fault : Fault}
    (halts : Halts choices due (names.map Name.text) token fault)
    (listed : Listed due names before) (visible : Token.AreVisible [token])
    (fresh : Fresh choices [] names') : ¬ Reads (before ++ token :: more) names' := by
  intro reads
  cases halts with
  | repeated already =>
      obtain ⟨others, rfl, behind⟩ := listed.reads_word reads
      obtain ⟨name, others, same, rfl⟩ := behind.begins visible
      cases same
      have differ := fresh.differ
      rw [List.map_append, List.nodup_append] at differ
      exact differ.2.2 _ already _ (List.mem_cons_self ..) rfl
  | unknown unknown =>
      obtain ⟨others, rfl, behind⟩ := listed.reads_word reads
      obtain ⟨name, others, same, rfl⟩ := behind.begins visible
      exact unknown name same (fresh.known name (by simp))
  | missing missing =>
      rcases listed.reads_comma reads with none | ⟨joint, span, rest, comma⟩
      · cases none
      · rw [Token.front_cons more visible] at comma
        cases comma
        exact missing joint span rfl

/-! ### The options of a structure -/

theorem inside_optionWords (choices : List String) (tokens : List Token) (closing : Span)
    (cursor : Cursor) :
    ∃ result, OptionRun choices [] tokens result ∧
      Parse.inside tokens closing (optionWords choices) cursor =
        result.map fun names => (names, cursor) := by
  have ran : Ran choices [] tokens (optionWords choices ⟨tokens, closing, cursor.last⟩) :=
    @ran_optionWordsLoop _ _ _ ⟨tokens, closing, cursor.last⟩ (Nat.lt_succ_self _)
  rw [Parse.inside]
  generalize optionWords choices ⟨tokens, closing, cursor.last⟩ = found at ran ⊢
  cases ran with
  | read run left =>
      refine ⟨_, run, ?_⟩
      simp only [left]
      rfl
  | failed run => exact ⟨_, run, rfl⟩

theorem Options.run_read (tokens : List Token) :
    ∃ result, OptionRun Options.names [] tokens result ∧
      Options.read tokens =
        (result.map Options.ofWords).mapError fun fault => [.ofFault fault] := by
  obtain ⟨result, run, inside⟩ :=
    inside_optionWords Options.names tokens .callSite ⟨[], .callSite, .callSite⟩
  refine ⟨result, run, ?_⟩
  have parse : Options.parse = Options.ofWords <$> optionWords Options.names := rfl
  rw [Options.read, Parse.run, parse, Parse.inside_map, inside]
  cases result <;> rfl

theorem fresh_nil_iff {choices : List String} {names : List Name} :
    Fresh choices [] names ↔
      (∀ name ∈ names, name.text ∈ choices) ∧ (names.map Name.text).Nodup := by
  constructor
  · rintro ⟨known, -, differ⟩
    exact ⟨known, differ⟩
  · rintro ⟨known, differ⟩
    exact ⟨known, nofun, differ⟩

theorem Options.read_eq_ok_iff {tokens : List Token} {options : Options} :
    Options.read tokens = .ok options ↔
      ∃ names, Reads tokens names ∧ Fresh Options.names [] names ∧
        Options.ofWords names = options := by
  obtain ⟨result, run, read⟩ := Options.run_read tokens
  rw [read, mapError_eq_ok, map_eq_ok]
  simp only [run.eq_ok_iff, and_assoc]

/-- The options are those whose words are listed. Hashing is declined by a word of its own. -/
theorem Options.ofWords_eq_iff {names : List Name} {options : Options} :
    Options.ofWords names = options ↔
      (options.serde = true ↔ "serde" ∈ names.map Name.text) ∧
      (options.eq = true ↔ "eq" ∈ names.map Name.text) ∧
      (options.hash = true ↔ "no_hash" ∉ names.map Name.text) := by
  have listed (text : String) : (names.any fun word => word.text == text) = true ↔
      text ∈ names.map Name.text := by simp
  obtain ⟨serde, eq, noHash⟩ := options
  simp only [Options.ofWords, Options.mk.injEq, Options.hash, ← listed]
  cases serde <;> cases eq <;> cases noHash <;> simp

theorem Options.read_visible_iff {tokens : List Token} {options : Options}
    (visible : Token.AreVisible tokens) :
    Options.read tokens = .ok options ↔
      ∃ due names, Listed due names tokens ∧ (∀ name ∈ names, name.text ∈ Options.names) ∧
        (names.map Name.text).Nodup ∧
        (options.serde = true ↔ "serde" ∈ names.map Name.text) ∧
        (options.eq = true ↔ "eq" ∈ names.map Name.text) ∧
        (options.hash = true ↔ "no_hash" ∉ names.map Name.text) := by
  simp only [read_eq_ok_iff, reads_iff_listed visible, fresh_nil_iff, ofWords_eq_iff, and_assoc]
  constructor
  · rintro ⟨names, ⟨due, listed⟩, fresh⟩
    exact ⟨due, names, listed, fresh⟩
  · rintro ⟨due, names, listed, fresh⟩
    exact ⟨names, ⟨due, listed⟩, fresh⟩

theorem Options.read_visible_error {tokens : List Token} {diagnostics : List Diagnostic}
    (visible : Token.AreVisible tokens) (rejected : Options.read tokens = .error diagnostics) :
    ∃ due names before token after fault, tokens = before ++ token :: after ∧
      Listed due names before ∧ (∃ options, Options.read before = .ok options) ∧
      (∀ more options, Options.read (before ++ token :: more) ≠ .ok options) ∧
      Halts Options.names due (names.map Name.text) token fault ∧
      diagnostics = [⟨.unreadable fault, token.opening⟩] := by
  obtain ⟨result, run, read⟩ := Options.run_read tokens
  cases result with
  | ok names => cases read.symm.trans rejected
  | error fault =>
      cases read.symm.trans rejected
      obtain ⟨due, names, before, token, after, rfl, listed, fresh, halts⟩ := run.halts visible
      have alone : Token.AreVisible [token] := visible.of_subset (by simp)
      refine ⟨due, names, before, token, after, fault, rfl, listed, ?_, ?_, halts, ?_⟩
      · have reads := (reads_iff_listed listed.visible).mpr ⟨due, listed⟩
        exact ⟨_, read_eq_ok_iff.mpr ⟨names, reads, fresh, rfl⟩⟩
      · intro more options accepted
        obtain ⟨names', reads, fresh', -⟩ := read_eq_ok_iff.mp accepted
        exact Halts.not_reads halts listed alone fresh' reads
      · rw [← halts.span]
        rfl

/-! ### The options of fields -/

namespace AttributeHead

variable {head : AttributeHead}

/-- The attribute has arguments, but nothing stands in them. -/
def HoldsNothing (head : AttributeHead) : Prop :=
  ∃ delimiter closing, head.argument = .list delimiter [] closing

/-- The attribute has one `skip` for its arguments, possibly with a comma behind it. An invisible
group may open in front of either. -/
def HoldsSkip (head : AttributeHead) : Prop :=
  ∃ delimiter tokens closing, head.argument = .list delimiter tokens closing ∧
    ∃ name rest, Token.front tokens = .word name :: rest ∧ name.text = "skip" ∧
      (rest = [] ∨ ∃ joint span, Token.front rest = [.mark ',' joint span])

theorem readArguments_eq_ok_iff {choices : List String} {names : List Name} :
    head.readArguments (optionWords choices) = .ok names ↔
      ∃ delimiter tokens closing, head.argument = .list delimiter tokens closing ∧
        Reads tokens names ∧ Fresh choices [] names := by
  unfold readArguments
  cases argument : head.argument with
  | absent | value => simp
  | list delimiter tokens closing =>
      obtain ⟨result, run, inside⟩ :=
        inside_optionWords choices tokens closing ⟨tokens, closing, closing⟩
      have read : result = .ok names ↔
          ∃ delimiter' tokens' closing', AttributeArgument.list delimiter tokens closing =
            .list delimiter' tokens' closing' ∧ Reads tokens' names ∧ Fresh choices [] names := by
        rw [run.eq_ok_iff]
        constructor
        · intro listed
          exact ⟨_, _, _, rfl, listed⟩
        · rintro ⟨_, _, _, same, listed⟩
          cases same
          exact listed
      rw [← read]
      simp only [inside]
      cases result <;> simp [Except.map]

theorem readArguments_eq_nil_iff :
    head.readArguments (optionWords ["skip"]) = .ok [] ↔ head.HoldsNothing := by
  rw [readArguments_eq_ok_iff]
  constructor
  · rintro ⟨delimiter, tokens, closing, argument, reads, -⟩
    cases reads
    exact ⟨delimiter, closing, argument⟩
  · rintro ⟨delimiter, closing, argument⟩
    exact ⟨delimiter, [], closing, argument, .nil, fresh_nil _ _⟩

/-- As all words are alike, there is no more than one. -/
theorem readArguments_eq_cons_iff :
    (∃ word more, head.readArguments (optionWords ["skip"]) = .ok (word :: more)) ↔
      head.HoldsSkip := by
  simp only [readArguments_eq_ok_iff]
  constructor
  · rintro ⟨word, more, delimiter, tokens, closing, argument, reads, fresh⟩
    have skip := List.mem_singleton.mp (fresh.known word (List.mem_cons_self ..))
    refine ⟨delimiter, tokens, closing, argument, word, ?_⟩
    cases reads with
    | last here => exact ⟨[], here, skip, .inl rfl⟩
    | more here comma others =>
        cases others with
        | nil => exact ⟨_, here, skip, .inr ⟨_, _, comma⟩⟩
        | last | more =>
            obtain ⟨-, -, known, unseen, -⟩ := fresh_cons.mp fresh
            simp [skip, List.mem_singleton.mp (known _ (List.mem_cons_self ..))] at unseen
  · rintro ⟨delimiter, tokens, closing, argument, name, rest, here, skip, ended⟩
    have fresh : Fresh ["skip"] [] [name] := fresh_nil_iff.mpr (by simp [skip])
    refine ⟨name, [], delimiter, tokens, closing, argument, ?_, fresh⟩
    rcases ended with rfl | ⟨joint, span, comma⟩
    · exact .last here
    · exact .more here comma .nil

theorem HoldsNothing.not_holdsSkip (nothing : head.HoldsNothing) : ¬ head.HoldsSkip := by
  intro skip
  obtain ⟨word, more, read⟩ := readArguments_eq_cons_iff.mpr skip
  cases (readArguments_eq_nil_iff.mpr nothing).symm.trans read

end AttributeHead

/-- Whatever attributes come first, the others are read if each is empty or opts out, and no two opt
out. -/
theorem skipsFrom_eq_ok_iff {seen skipped : Bool} {heads : List AttributeHead} :
    skipsFrom seen heads = .ok skipped ↔
      (∀ head ∈ heads, head.HoldsNothing ∨ head.HoldsSkip) ∧
      heads.Pairwise (fun first second => ¬ (first.HoldsSkip ∧ second.HoldsSkip)) ∧
      (seen = true → ∀ head ∈ heads, ¬ head.HoldsSkip) ∧
      (skipped = true ↔ seen = true ∨ ∃ head ∈ heads, head.HoldsSkip) := by
  induction heads generalizing seen with
  | nil => simp [skipsFrom]; cases seen <;> cases skipped <;> simp
  | cons head rest ih =>
      rw [skipsFrom, List.forall_mem_cons, List.pairwise_cons, List.forall_mem_cons]
      cases read : head.readArguments (optionWords ["skip"]) with
      | error diagnostics =>
          have notNothing : ¬ head.HoldsNothing := by
            simp [← AttributeHead.readArguments_eq_nil_iff, read]
          have notSkip : ¬ head.HoldsSkip := by
            simp [← AttributeHead.readArguments_eq_cons_iff, read]
          simp [notNothing, notSkip]
      | ok words =>
          cases words with
          | nil =>
              have nothing := AttributeHead.readArguments_eq_nil_iff.mp read
              simp [ih, nothing, nothing.not_holdsSkip]
          | cons word more =>
              have skip := AttributeHead.readArguments_eq_cons_iff.mp ⟨word, more, read⟩
              cases seen with
              | true => simp [skip]
              | false =>
                  simp [ih, skip, and_assoc, and_left_comm]

/-! ### Both kinds of options -/

/-- Without invisible groups, a list of options is read if it is made of known words that differ,
and each option is set by its word wherever it stands. Any other list is blamed on the first token
with which no list goes on that is read: what stands before that token is read. The options of a
field are read if each of them is empty or opts out and no two opt out, and they opt out if one
does. -/
theorem Options.exactly_read :
    (∀ tokens, Token.AreVisible tokens →
      (∀ options, Options.read tokens = .ok options ↔
        ∃ due names, Listed due names tokens ∧ (∀ name ∈ names, name.text ∈ Options.names) ∧
          (names.map Name.text).Nodup ∧
          (options.serde = true ↔ "serde" ∈ names.map Name.text) ∧
          (options.eq = true ↔ "eq" ∈ names.map Name.text) ∧
          (options.hash = true ↔ "no_hash" ∉ names.map Name.text)) ∧
      ∀ diagnostics, Options.read tokens = .error diagnostics →
        ∃ due names before token after fault, tokens = before ++ token :: after ∧
          Listed due names before ∧ (∃ options, Options.read before = .ok options) ∧
          (∀ more options, Options.read (before ++ token :: more) ≠ .ok options) ∧
          Halts Options.names due (names.map Name.text) token fault ∧
          diagnostics = [⟨.unreadable fault, token.opening⟩]) ∧
    ∀ attributes skipped, skips attributes = .ok skipped ↔
      (∀ head ∈ attributesNamed optionName attributes, head.HoldsNothing ∨ head.HoldsSkip) ∧
      (attributesNamed optionName attributes).Pairwise
        (fun first second => ¬ (first.HoldsSkip ∧ second.HoldsSkip)) ∧
      (skipped = true ↔ ∃ head ∈ attributesNamed optionName attributes, head.HoldsSkip) := by
  refine ⟨fun tokens visible => ⟨fun options => read_visible_iff visible, fun _ => ?_⟩, ?_⟩
  · exact read_visible_error visible
  · intro attributes skipped
    simp [skips, skipsFrom_eq_ok_iff]

/-- A word of the first line. -/
def wordAt (column : Nat) (text : String) : Name :=
  ⟨text, ⟨1, column⟩, ⟨1, column + text.length⟩⟩

/-- Two words with a comma behind each are read. A third one that repeats the first is blamed, and
what stands before it is read. An attribute opts out. -/
theorem Options.exactly_read_repeated :
    let comma := Token.mark ',' false .callSite
    let again := wordAt 16 "serde"
    let tokens := [.word (wordAt 0 "serde"), comma, .word (wordAt 7 "no_hash"), comma]
    let skip : AttributeHead :=
      ⟨false, false, [wordAt 2 optionName],
        .list .paren [.word (wordAt 9 "skip"), comma] .callSite, .callSite, .callSite⟩
    Options.read tokens = .ok ⟨true, false, true⟩ ∧
      Options.read (tokens ++ [.word again]) =
        .error [⟨.unreadable ⟨.repeated "serde", false, again.span⟩, again.span⟩] ∧
      (∃ before token after, tokens ++ [.word again] = before ++ token :: after ∧
        token.opening = again.span ∧ ∃ options, Options.read before = .ok options) ∧
      skips [.attribute skip []] = .ok true := by
  intro comma again tokens skip
  have visible : Token.AreVisible (tokens ++ [.word again]) := by
    intro inner opening closing member
    simp [tokens, comma] at member
  have rejected : Options.read (tokens ++ [.word again]) =
      .error [⟨.unreadable ⟨.repeated "serde", false, again.span⟩, again.span⟩] := rfl
  have named : attributesNamed optionName [.attribute skip []] = [skip] := rfl
  have optsOut : skip.HoldsSkip :=
    ⟨_, _, _, rfl, wordAt 9 "skip", [comma], rfl, rfl, .inr ⟨_, _, rfl⟩⟩
  refine ⟨?_, rejected, ?_, ?_⟩
  · refine ((exactly_read.1 tokens (visible.of_subset (by simp))).1 _).mpr ?_
    exact ⟨.word, [_, _], .more (.more .nil), by decide, by decide, by decide, by decide, by decide⟩
  · obtain ⟨_, _, before, token, after, fault, split, -, accepted, -, -, same⟩ :=
      (exactly_read.1 _ visible).2 _ rejected
    have blamed := congrArg Diagnostic.span (List.head_eq_of_cons_eq same)
    exact ⟨before, token, after, split, blamed.symm, accepted⟩
  · refine (exactly_read.2 _ _).mpr ?_
    rw [named]
    simp [optsOut]

end SlotSum
