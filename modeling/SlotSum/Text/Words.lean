import SlotSum.Text.Case
import SlotSum.Text.Cluster

/-!
The words of an identifier. Underscores, hyphens and spaces part words and are dropped. A word also
ends where letter case or the kind of character changes: before a capital that follows a small
letter, between letters and digits, and before the last capital of a run that a small letter
follows. Words between two separators may be empty.
-/

namespace SlotSum.Text

/-- One user-perceived character. -/
abbrev Piece := List Char

def isDigitPiece (piece : Piece) : Bool := piece.all Char.isDigit

/-- A character that has case and is its own upper case. -/
def isUpperPiece (piece : Piece) : Bool := upper piece != lower piece && piece == upper piece

/-- A character that has case and is its own lower case. -/
def isLowerPiece (piece : Piece) : Bool := upper piece != lower piece && piece == lower piece

def isSeparator (piece : Piece) : Bool := piece == ['_'] || piece == ['-'] || piece == [' ']

/-- Whether a word ends between two neighbouring characters, of which the second may have one more
behind it. -/
def changes (left right : Piece) (next : Option Piece) : Bool :=
  (isLowerPiece left && (isUpperPiece right || isDigitPiece right)) ||
    (isUpperPiece left && isDigitPiece right) ||
    (isDigitPiece left && (isLowerPiece right || isUpperPiece right)) ||
    (isUpperPiece left && isUpperPiece right && next.any isLowerPiece)

/-- Puts a character in front of the first word. -/
def consPiece (piece : Piece) : List (List Char) → List (List Char)
  | [] => [piece]
  | first :: rest => (piece ++ first) :: rest

/-- The words of a row of characters; there is always one. -/
def splitWords : List Piece → List (List Char)
  | [] => [[]]
  | piece :: rest =>
    if isSeparator piece then [] :: splitWords rest
    else
      match rest with
      | [] => consPiece piece (splitWords rest)
      | right :: tail =>
        if changes piece right tail.head? then piece :: splitWords rest
        else consPiece piece (splitWords rest)

/-- The words of a text; an empty text has none. -/
def words (text : List Char) : List (List Char) :=
  if text.isEmpty then [] else splitWords (clusters text)

/-- Words in lower case with underscores between them. -/
def snake (text : List Char) : List Char :=
  ((words text).map lower).intersperse ['_'] |>.flatten

/-- A word with its first character in upper case and all others in lower case. -/
def capital : List Char → List Char
  | [] => []
  | c :: rest => upperChar c ++ lower rest

/-- Words with capitals and nothing between them. -/
def pascal (text : List Char) : List Char :=
  ((words text).map capital).flatten

end SlotSum.Text
