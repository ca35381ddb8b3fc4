import SlotSum.Token.Lexeme
import SlotSum.Token.Located
import SlotSum.Token.Quoted

/-!
From text to tokens. A text is a token list when its delimiters balance, its literals are complete
and every other character belongs to an identifier, a punctuation mark or a comment. Documenting
comments become attributes. A group written `__group!(…)` is the invisible group around its
contents.
-/

namespace SlotSum

/-- Why a text is no token list. -/
inductive LexFault where
  /-- A delimiter is not closed. -/
  | unclosed (at_ : Position)
  /-- A closing delimiter has no partner of its kind. -/
  | unmatched (at_ : Position)
  /-- Nothing begins with what stands here. -/
  | unreadable (at_ : Position)
  deriving DecidableEq, Repr

namespace Token

/-- What an expansion that failed leaves in place of a value. -/
def failureMark : String := "(/*ERROR*/)"

/-- The attribute that a documenting comment stands for. All its tokens have the comment's extent;
its bracket opens on the first and closes on the last character. -/
def ofComment (comment : Lexeme.Comment) (start : Position) : List Token :=
  let stop := start.advance comment.cut.1
  let span : Span := ⟨start, stop⟩
  let opening : Span := ⟨start, start.advance (comment.cut.1.take 1)⟩
  let closing : Span := ⟨start.advance comment.cut.1.dropLast, stop⟩
  let bang := if comment.inner then [mark '!' false span] else []
  let inner :=
    [word ⟨"doc", span⟩, mark '=' false span,
      literal (Quoted.literal (String.ofList comment.contents)) span]
  mark '#' false span :: (bang ++ [group .bracket inner opening closing])

/-- A token that is no group, from the front of a text. -/
def leaf? (start : Position) (text : List Char) : Option (Token × List Char × List Char) :=
  match Lexeme.literal text with
  | some (taken, rest) =>
    some (literal (String.ofList taken) ⟨start, start.advance taken⟩, taken, rest)
  | none =>
    match Lexeme.mark? text with
    | some (c, joint, rest) => some (mark c joint ⟨start, start.after c⟩, [c], rest)
    | none =>
      match Lexeme.identifier text with
      | some (taken, rest) =>
        some (word ⟨String.ofList taken, ⟨start, start.advance taken⟩⟩, taken, rest)
      | none =>
        (Lexeme.exactly failureMark.toList text).map fun (taken, rest) =>
          (literal failureMark ⟨start, start.advance taken⟩, taken, rest)

/-- A group whose closing delimiter has not been met, with the tokens before it, last first. -/
structure OpenGroup where
  delimiter : Delimiter
  start : Position
  before : List Token

def openingOf? (text : List Char) : Option Delimiter :=
  match text with
  | '(' :: _ => if Lexeme.startsWith failureMark text then none else some .paren
  | '[' :: _ => some .bracket
  | '\x7b' :: _ => some .brace
  | _ => none

def closingOf? : List Char → Option Delimiter
  | ')' :: _ => some .paren
  | ']' :: _ => some .bracket
  | '\x7d' :: _ => some .brace
  | _ => none

/-- Reads tokens to the end of the text. `done` holds the tokens of the innermost open group, last
first. Every turn takes a character, so as many turns as characters are enough. -/
def lexFrom : Nat → Position → List OpenGroup → List Token → List Char →
    Except LexFault (List Token)
  | _, _, [], done, [] => .ok done.reverse
  | _, _, open_ :: _, _, [] => .error (.unclosed open_.start)
  | 0, here, _, _, _ :: _ => .error (.unreadable here)
  | turns + 1, here, groups, done, c :: rest =>
    let text := c :: rest
    match Lexeme.blank text with
    | some (taken, rest) => lexFrom turns (here.advance taken) groups done rest
    | none =>
    match Lexeme.comment? text with
    | some comment =>
      lexFrom turns (here.advance comment.cut.1) groups ((ofComment comment here).reverse ++ done)
        comment.cut.2
    | none =>
    match openingOf? text with
    | some delimiter => lexFrom turns (here.after c) (⟨delimiter, here, done⟩ :: groups) [] rest
    | none =>
    match closingOf? text with
    | some delimiter =>
      match groups with
      | [] => .error (.unmatched here)
      | open_ :: outer =>
        if open_.delimiter = delimiter then
          let opening : Span := ⟨open_.start, open_.start.after '('⟩
          let closing : Span := ⟨here, here.after c⟩
          let token := group delimiter done.reverse opening closing
          lexFrom turns (here.after c) outer (token :: open_.before) rest
        else
          .error (.unmatched here)
    | none =>
    match leaf? here text with
    | some (token, taken, rest) => lexFrom turns (here.advance taken) groups (token :: done) rest
    | none => .error (.unreadable here)

/-- Puts a token in front of others, closing the spelling of an invisible group if it is complete
with that. -/
def consInvisible : Token → List Token → List Token
  | word ⟨"__group", span⟩, mark '!' _ _ :: group .paren inner _ closing :: rest =>
    group .invisible inner span closing :: rest
  | first, rest => first :: rest

mutual

/-- Reads the spelling of invisible groups inside a token. -/
def withInvisible : Token → Token
  | word name => word name
  | mark char joint span => mark char joint span
  | literal text span => literal text span
  | group delimiter inner opening closing =>
    group delimiter (withInvisibleAll inner) opening closing

def withInvisibleAll : List Token → List Token
  | [] => []
  | first :: rest => consInvisible (withInvisible first) (withInvisibleAll rest)

end

/-- A byte order mark in front is passed over; it takes up a column. -/
def lex (text : String) : Except LexFault (List Token) := do
  let (start, chars) :=
    match text.toList with
    | c :: rest => if c.toNat = 0xFEFF then (Position.start.after c, rest) else (.start, c :: rest)
    | [] => (.start, [])
  let tokens ← lexFrom chars.length start [] [] chars
  return withInvisibleAll tokens

end Token

end SlotSum
