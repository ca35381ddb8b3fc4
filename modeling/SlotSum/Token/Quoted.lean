import SlotSum.Text.Visible

/-!
Text between double quotes. The quote, the backslash and the usual control characters are written
with a backslash; characters that do not stand for themselves are written by their number in
hexadecimal. The apostrophe needs no escape.
-/

namespace SlotSum.Quoted

/-- A character by number, in lower case hexadecimal without leading zeros. -/
def byNumber (c : Char) : String :=
  "\\u\x7b" ++ String.ofList (Nat.toDigits 16 c.toNat) ++ "\x7d"

/-- One character between the quotes. -/
def escape (c : Char) : String :=
  match c with
  | '\x00' => "\\0"
  | '\t' => "\\t"
  | '\n' => "\\n"
  | '\r' => "\\r"
  | '\"' => "\\\""
  | '\\' => "\\\\"
  | _ => if Text.isVisible c then String.singleton c else byNumber c

/-- A text as it is shown inside a message. -/
def shown (text : String) : String :=
  "\"" ++ String.join (text.toList.map escape) ++ "\""

/-- In a literal, a zero before an octal digit takes the two-digit form, so that the digit is not
read as part of the escape. -/
def literalBody : List Char → String
  | [] => ""
  | '\x00' :: rest =>
    (if rest.head?.any (fun c => '0' ≤ c && c ≤ '7') then "\\x00" else "\\0") ++ literalBody rest
  | c :: rest => escape c ++ literalBody rest

def literal (text : String) : String :=
  "\"" ++ literalBody text.toList ++ "\""

end SlotSum.Quoted
