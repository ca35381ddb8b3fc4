/-!
Replacing every occurrence of a text by another, from left to right and without overlaps.
-/

namespace SlotSum.Text

/-- Replacement in what is left of a text, of which the first `skip` characters belong to an
occurrence that has been replaced. -/
def replaceFrom (pattern replacement : List Char) : Nat → List Char → List Char
  | _, [] => []
  | skip + 1, _ :: rest => replaceFrom pattern replacement skip rest
  | 0, c :: rest =>
    if pattern.isPrefixOf (c :: rest) then
      replacement ++ replaceFrom pattern replacement (pattern.length - 1) rest
    else
      c :: replaceFrom pattern replacement 0 rest

def replace (pattern replacement : String) (text : List Char) : List Char :=
  replaceFrom pattern.toList replacement.toList 0 text

end SlotSum.Text
