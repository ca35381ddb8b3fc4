import SlotSum.Text.Ranges
import SlotSum.Text.Identifier

/-!
Lexemes: what the blanks, comments, identifiers, numbers and quoted literals of a text look like,
character by character. Each reader looks at the front of a text and gives what it takes together
with what is left, or nothing when the text does not begin that way.
-/

namespace SlotSum.Lexeme

/-- The characters a lexeme takes and the characters it leaves. -/
abbrev Cut := List Char × List Char

abbrev Reader := List Char → Option Cut

/-- Puts characters in front of what a cut takes. -/
def Cut.after (taken : List Char) (cut : Cut) : Cut := (taken ++ cut.1, cut.2)

def exactly (front : List Char) : Reader := fun text =>
  if front.isPrefixOf text then some (front, text.drop front.length) else none

def startsWith (front : String) (text : List Char) : Bool := front.toList.isPrefixOf text

def andThen (first second : Reader) : Reader := fun text =>
  match first text with
  | none => none
  | some (taken, rest) => (second rest).map (Cut.after taken)

/-! ### Blanks and comments -/

/-- Direction marks count as blank between tokens. -/
def isSpace (c : Char) : Bool :=
  Text.isBlank c || c.toNat == 0x200E || c.toNat == 0x200F

/-- Up to the end of the line, a carriage return before the line feed included. -/
def line : List Char → Cut
  | [] => ([], [])
  | c :: rest =>
    if c = '\n' then ([], c :: rest)
    else if c = '\r' ∧ rest.head? = some '\n' then ([c], rest)
    else Cut.after [c] (line rest)

/-- A block comment from its first slash, where comments nest; `depth` are open. -/
def blockTail : Nat → Reader
  | _, [] => none
  | depth, '/' :: '*' :: rest => (blockTail (depth + 1) rest).map (Cut.after ['/', '*'])
  | depth, '*' :: '/' :: rest =>
    if depth ≤ 1 then some (['*', '/'], rest)
    else (blockTail (depth - 1) rest).map (Cut.after ['*', '/'])
  | depth, c :: rest => (blockTail depth rest).map (Cut.after [c])

def block : Reader := fun text =>
  if startsWith "/*" text then blockTail 0 text else none

/-- A line comment that documents nothing. -/
def plainLine (text : List Char) : Bool :=
  startsWith "//" text && (!startsWith "///" text || startsWith "////" text)
    && !startsWith "//!" text

/-- A block comment that documents nothing, the empty one apart. -/
def plainBlock (text : List Char) : Bool :=
  startsWith "/*" text && (!startsWith "/**" text || startsWith "/***" text)
    && !startsWith "/*!" text

/-- A blank or a comment that documents nothing. -/
def blank : Reader := fun text =>
  if plainLine text then some (line text)
  else if startsWith "/**/" text then exactly "/**/".toList text
  else if plainBlock text then block text
  else
    match text with
    | [] => none
    | c :: rest => if isSpace c then some ([c], rest) else none

/-- A documenting comment: its contents, whether it documents what encloses it, and its extent. -/
structure Comment where
  contents : List Char
  inner : Bool
  cut : Cut

/-- A carriage return that no line feed follows. -/
def hasBareReturn : List Char → Bool
  | [] => false
  | '\r' :: rest => rest.head? != some '\n' || hasBareReturn rest
  | _ :: rest => hasBareReturn rest

/-- The contents of a line comment after its three-character opening, without the carriage return
that belongs to the line's end. -/
def lineContents (taken rest : List Char) : List Char :=
  let body := taken.drop 3
  if rest.head? = some '\n' ∧ body.getLast? = some '\r' then body.dropLast else body

def lineComment (inner : Bool) (text : List Char) : Comment :=
  let cut := line text
  ⟨lineContents cut.1 cut.2, inner, cut⟩

def blockComment? (inner : Bool) (text : List Char) : Option Comment :=
  (block text).map fun cut => ⟨(cut.1.drop 3).dropLast.dropLast, inner, cut⟩

/-- A documenting comment at the front of a text. -/
def comment? (text : List Char) : Option Comment :=
  let found :=
    if startsWith "//!" text then some (lineComment true text)
    else if startsWith "/*!" text then blockComment? true text
    else if startsWith "///" text then
      if startsWith "////" text then none else some (lineComment false text)
    else if startsWith "/**" text && !startsWith "/***" text then blockComment? false text
    else none
  found.filter fun comment => !hasBareReturn comment.contents

/-! ### Identifiers -/

def plainIdentifier : Reader
  | [] => none
  | c :: rest =>
    if Text.isIdentifierStart c then
      some (c :: rest.takeWhile Text.isIdentifierPart, rest.dropWhile Text.isIdentifierPart)
    else
      none

/-- Words that cannot be written raw. -/
def neverRaw : List (List Char) :=
  ["_", "super", "self", "Self", "crate"].map String.toList

/-- An identifier that may be raw. -/
def rawOrPlainIdentifier : Reader := fun text =>
  if startsWith "r#" text then
    match plainIdentifier (text.drop 2) with
    | none => none
    | some (name, rest) => if neverRaw.contains name then none else some ('r' :: '#' :: name, rest)
  else
    plainIdentifier text

/-- Openings of quoted literals, which no identifier token may begin with. -/
def literalOpenings : List String :=
  ["r\"", "r#\"", "r##", "b\"", "b'", "br\"", "br#", "c\"", "cr\"", "cr#"]

def identifier : Reader := fun text =>
  if literalOpenings.any (startsWith · text) then none else rawOrPlainIdentifier text

/-! ### Escapes -/

def isHexDigit (c : Char) : Bool :=
  c.isDigit || ('a' ≤ c && c ≤ 'f') || ('A' ≤ c && c ≤ 'F')

def hexValue (c : Char) : Nat :=
  if c.isDigit then c.toNat - 48
  else if 'a' ≤ c ∧ c ≤ 'f' then c.toNat - 87
  else c.toNat - 55

/-- What kind of text stands between quotes. It decides which characters and escapes are let in. -/
inductive Content where
  | text
  | bytes
  | terminated
  deriving DecidableEq

namespace Content

/-- Whether a character may stand for itself. -/
def admits : Content → Char → Bool
  | text, _ => true
  | bytes, c => c.val < 128
  | terminated, c => c != '\x00'

/-- Whether two digits after `\x` name an admissible value. -/
def admitsByte : Content → Char → Char → Bool
  | text, high, low => '0' ≤ high && high ≤ '7' && isHexDigit low
  | bytes, high, low => isHexDigit high && isHexDigit low
  | terminated, high, low => isHexDigit high && isHexDigit low && !(high == '0' && low == '0')

/-- Whether a character stands for a simple escape after the backslash. -/
def admitsEscape (content : Content) (c : Char) : Bool :=
  ['n', 'r', 't', '\\', '\'', '"'].contains c || (c == '0' && content != .terminated)

end Content

/-- The digits of a numbered escape up to its closing brace, with the number they write. -/
def numberedTail (value digits : Nat) : List Char → Option (Nat × Cut)
  | [] => none
  | c :: rest =>
    if isHexDigit c then
      if digits = 6 then none
      else (numberedTail (value * 16 + hexValue c) (digits + 1) rest).map
        fun (found, cut) => (found, cut.after [c])
    else if digits = 0 then none
    else if c = '_' then
      (numberedTail value digits rest).map fun (found, cut) => (found, cut.after [c])
    else if c = '\x7d' then some (value, [c], rest)
    else none

def isScalar (value : Nat) : Bool :=
  value < 0xD800 || (0xDFFF < value && value < 0x110000)

/-- A numbered escape after `\u`. -/
def numbered (content : Content) : Reader
  | '\x7b' :: rest =>
    match numberedTail 0 0 rest with
    | some (value, cut) =>
      if isScalar value && (content != .terminated || value != 0) then some (cut.after ['\x7b'])
      else none
    | none => none
  | _ => none

/-- An escape after its backslash, a continued line apart. -/
def escape (content : Content) : Reader
  | 'x' :: high :: low :: rest =>
    if content.admitsByte high low then some (['x', high, low], rest) else none
  | 'u' :: rest => if content = .bytes then none else (numbered content rest).map (Cut.after ['u'])
  | c :: rest => if content.admitsEscape c then some ([c], rest) else none
  | [] => none

/-- The blanks after a backslash that ends its line. `last` is the line end just read; a carriage
return needs its line feed, and something must follow the blanks. -/
def continuation (last : Char) : Reader
  | [] => none
  | c :: rest =>
    if last = '\r' then
      if c = '\n' then
        match rest with
        | [] => none
        | next :: tail =>
          if [' ', '\t', '\n', '\r'].contains next then
            (continuation next tail).map (Cut.after [c, next])
          else
            some ([c], rest)
      else none
    else if [' ', '\t', '\n', '\r'].contains c then (continuation c rest).map (Cut.after [c])
    else some ([], c :: rest)

/-! ### Quoted literals -/

/-- The suffix of a literal: an identifier directly behind it. -/
def suffix (text : List Char) : Cut :=
  (plainIdentifier text).getD ([], text)

/-- The rest of a quoted literal with escapes, up to its closing quote. Every turn takes a
character, so as many turns as characters are enough. -/
def cookedTail (content : Content) : Nat → Reader
  | 0, _ => none
  | _, [] => none
  | _ + 1, '"' :: rest => some (['"'], rest)
  | turns + 1, '\r' :: rest =>
    match rest with
    | '\n' :: tail => (cookedTail content turns tail).map (Cut.after ['\r', '\n'])
    | _ => none
  | turns + 1, '\\' :: rest =>
    let taken :=
      match rest with
      | '\n' :: tail => (continuation '\n' tail).map (Cut.after ['\n'])
      | '\r' :: tail => (continuation '\r' tail).map (Cut.after ['\r'])
      | _ => escape content rest
    match taken with
    | none => none
    | some (escaped, tail) => (cookedTail content turns tail).map (Cut.after ('\\' :: escaped))
  | turns + 1, c :: rest =>
    if content.admits c then (cookedTail content turns rest).map (Cut.after [c]) else none

def cooked (content : Content) : Reader := fun text => cookedTail content (text.length + 1) text

/-- The rest of a raw literal, up to a quote with as many number signs as it was opened with. -/
def rawTail (content : Content) (fence : List Char) : Reader
  | [] => none
  | '"' :: rest =>
    if fence.isPrefixOf rest then some ('"' :: fence, rest.drop fence.length)
    else (rawTail content fence rest).map (Cut.after ['"'])
  | '\r' :: '\n' :: rest => (rawTail content fence rest).map (Cut.after ['\r', '\n'])
  | c :: rest =>
    if c != '\r' && content.admits c then (rawTail content fence rest).map (Cut.after [c]) else none

/-- A raw literal after its letters. At most 255 number signs may fence it. -/
def raw (content : Content) : Reader := fun text =>
  let fence := text.takeWhile (· = '#')
  match text.dropWhile (· = '#') with
  | '"' :: rest =>
    if fence.length ≤ 255 then (rawTail content fence rest).map (Cut.after (fence ++ ['"']))
    else none
  | _ => none

/-- A string in one of its spellings: the cooked and the raw one, after the letters given. -/
def string (content : Content) (letters : String) : Reader := fun text =>
  if startsWith (letters ++ "\"") text then
    andThen (exactly (letters ++ "\"").toList) (cooked content) text
  else
    andThen (exactly (letters ++ "r").toList) (raw content) text

/-- The inside of a character literal. -/
def single (content : Content) : Reader
  | '\\' :: rest => (escape content rest).map (Cut.after ['\\'])
  | c :: rest => if content.admits c then some ([c], rest) else none
  | [] => none

def character : Reader := andThen (exactly ['\'']) (andThen (single .text) (exactly ['\'']))

def byte : Reader := andThen (exactly ['b', '\'']) (andThen (single .bytes) (exactly ['\'']))

/-! ### Numbers -/

/-- A number ends where no identifier character follows. -/
def atWordBreak (cut : Cut) : Option Cut :=
  if cut.2.head?.any Text.isIdentifierPart then none else some cut

def withSuffix (number : Cut) : Option Cut :=
  atWordBreak ((suffix number.2).after number.1)

def isDigitOrScore (c : Char) : Bool := c.isDigit || c == '_'

/-- The exponent after its letter: an optional sign and digits, of which one must be there. -/
def exponent : Reader := fun text =>
  let scores := text.takeWhile (· = '_')
  let (sign, rest) :=
    match text.dropWhile (· = '_') with
    | c :: rest => if c = '+' ∨ c = '-' then (scores ++ [c], rest) else (scores, c :: rest)
    | [] => (scores, [])
  let digits := rest.takeWhile isDigitOrScore
  if digits.any Char.isDigit then some (sign ++ digits, rest.dropWhile isDigitOrScore) else none

/-- Digits, a point and an exponent, of which the point or the exponent must be there. A point
before another point or an identifier is not part of a number. -/
def floatDigits : Reader := fun text =>
  if !text.head?.any Char.isDigit then none
  else
    let whole := text.takeWhile isDigitOrScore
    match text.dropWhile isDigitOrScore with
    | '.' :: rest =>
      if rest.head?.any (fun c => c == '.' || Text.isIdentifierStart c) then none
      else
        let fraction := rest.takeWhile isDigitOrScore
        let taken := whole ++ '.' :: fraction
        let left := rest.dropWhile isDigitOrScore
        match left with
        | c :: tail =>
          if c = 'e' ∨ c = 'E' then
            match exponent tail with
            | some cut => some (cut.after (taken ++ [c]))
            | none => some (taken, left)
          else
            some (taken, left)
        | [] => some (taken, left)
    | c :: tail =>
      if c = 'e' ∨ c = 'E' then (exponent tail).map (Cut.after (whole ++ [c])) else none
    | [] => none

def float : Reader := fun text => (floatDigits text).bind withSuffix

/-- The digits of an integer in a base. A decimal digit that is too large spoils the number; a
letter that is too large ends it. -/
def digitsIn (base : Nat) (seen : Bool) : Reader
  | [] => if seen then some ([], []) else none
  | c :: rest =>
    if c = '_' then
      if !seen && base = 10 then none else (digitsIn base seen rest).map (Cut.after [c])
    else if c.isDigit && base ≤ hexValue c then none
    else if isHexDigit c && hexValue c < base then (digitsIn base true rest).map (Cut.after [c])
    else if seen then some ([], c :: rest) else none

def integerDigits : Reader := fun text =>
  if startsWith "0x" text then andThen (exactly ['0', 'x']) (digitsIn 16 false) text
  else if startsWith "0o" text then andThen (exactly ['0', 'o']) (digitsIn 8 false) text
  else if startsWith "0b" text then andThen (exactly ['0', 'b']) (digitsIn 2 false) text
  else digitsIn 10 false text

def integer : Reader := fun text => (integerDigits text).bind withSuffix

def firstOf (readers : List Reader) : Reader := fun text =>
  readers.findSome? fun reader => reader text

def literal : Reader := fun text =>
  firstOf
    [ fun text => (string .text "" text).map fun cut => (suffix cut.2).after cut.1,
      fun text => (string .bytes "b" text).map fun cut => (suffix cut.2).after cut.1,
      fun text => (string .terminated "c" text).map fun cut => (suffix cut.2).after cut.1,
      fun text => (byte text).map fun cut => (suffix cut.2).after cut.1,
      fun text => (character text).map fun cut => (suffix cut.2).after cut.1,
      float, integer ]
    text

/-! ### Punctuation -/

def marks : List Char := "~!@#$%^&*-=+|;:,<.>/?'".toList

/-- A punctuation character, unless a comment begins here. -/
def markChar? : List Char → Option (Char × List Char)
  | [] => none
  | c :: rest =>
    if startsWith "//" (c :: rest) || startsWith "/*" (c :: rest) then none
    else if marks.contains c then some (c, rest) else none

/-- A punctuation character and whether it is joined to what follows. An apostrophe is joined to
the lifetime name that has to follow it. -/
def mark? (text : List Char) : Option (Char × Bool × List Char) :=
  match markChar? text with
  | none => none
  | some (c, rest) =>
    if c = '\'' then
      match rawOrPlainIdentifier rest with
      | none => none
      | some (_, after) =>
        if after.head? = some '\'' || (after.head? = some '#' && !startsWith "r#" rest) then none
        else some (c, true, rest)
    else
      some (c, (markChar? rest).isSome, rest)

end SlotSum.Lexeme
