import SlotSum.Proofs.Wire.Number
import SlotSum.Proofs.Wire.Text

/-!
The scan of written values. Every JSON value that has a text of its own is scanned back from that
text: brackets, commas and keys are no matter of the value, and only numbers have to be read back
one by one.
-/

namespace SlotSum

mutual

/-- A value without faults whose numbers are read back from their texts. -/
def Json.IsFaithful : Json → Prop
  | .null => True
  | .boolean _ => True
  | .number value => value.IsFaithful
  | .text value => value.isSome = true
  | .array items closed => Json.AreFaithful items ∧ closed = true
  | .object entries closed => Json.EntriesFaithful entries ∧ closed = true
  | .broken => False

def Json.AreFaithful : List Json → Prop
  | [] => True
  | first :: rest => first.IsFaithful ∧ Json.AreFaithful rest

def Json.EntriesFaithful : List Entry → Prop
  | [] => True
  | .mk key value :: rest => (key.isSome = true ∧ value.IsFaithful) ∧ Json.EntriesFaithful rest

end

namespace Json

/-- Elements as they stand in a text, with a comma in front of all but the first. -/
def itemsText : Bool → List Json → List Char
  | _, [] => []
  | first, item :: rest =>
    (if first then [] else [',']) ++ (item.write.toList ++ itemsText false rest)

def entriesText : Bool → List Entry → List Char
  | _, [] => []
  | first, .mk key value :: rest =>
    (if first then [] else [',']) ++
      ((quote (key.getD "")).toList ++ ':' :: (value.write.toList ++ entriesText false rest))

theorem toList_writeItems : (items : List Json) →
    (writeItems items).toList = itemsText true items
  | [] => rfl
  | [last] => by simp [writeItems, itemsText]
  | first :: second :: rest => by
      have tail := toList_writeItems (second :: rest)
      simp only [itemsText, if_true, List.nil_append] at tail ⊢
      simp [writeItems, tail]

theorem toList_writeEntries : (entries : List Entry) →
    (writeEntries entries).toList = entriesText true entries
  | [] => rfl
  | [.mk key value] => by simp [writeEntries, entriesText]
  | .mk key value :: .mk key' value' :: rest => by
      have tail := toList_writeEntries (.mk key' value' :: rest)
      simp only [entriesText, if_true, List.nil_append] at tail ⊢
      simp [writeEntries, tail]

theorem toList_array (items : List Json) (closed : Bool) :
    (write (.array items closed)).toList = '[' :: (itemsText true items ++ [']']) := by
  simp [write, toList_writeItems]

theorem toList_object (entries : List Entry) (closed : Bool) :
    (write (.object entries closed)).toList = '\x7b' :: (entriesText true entries ++ ['\x7d']) := by
  simp [write, toList_writeEntries]

end Json

namespace Scan

theorem skipSpace_cons {c : Char} {text : List Char} (visible : isSpace c = false) :
    skipSpace (c :: text) = c :: text := by
  simp [skipSpace, visible]

/-- A character that a value can begin with. -/
def Begins (c : Char) : Prop := isSpace c = false ∧ c ≠ ',' ∧ c ≠ ']'

theorem begins_digit {c : Char} (digit : c.isDigit = true) : Begins c := by
  refine ⟨?_, ?_, ?_⟩
  · cases space : isSpace c with
    | false => rfl
    | true =>
        simp only [isSpace, Bool.or_eq_true, decide_eq_true_eq] at space
        rcases space with ((rfl | rfl) | rfl) | rfl <;> cases digit
  · rintro rfl
    cases digit
  · rintro rfl
    cases digit

/-- The text of a value is not empty, and begins with what is neither space nor a mark. -/
theorem begins_write {json : Json} (faithful : json.IsFaithful) :
    ∃ c tail, json.write.toList = c :: tail ∧ Begins c := by
  cases json with
  | null => exact ⟨'n', "ull".toList, rfl, by decide, by decide, by decide⟩
  | boolean value =>
      cases value with
      | true => exact ⟨'t', "rue".toList, rfl, by decide, by decide, by decide⟩
      | false => exact ⟨'f', "alse".toList, rfl, by decide, by decide, by decide⟩
  | number number =>
      obtain ⟨negative, text, written, scanned⟩ := faithful
      obtain ⟨c, tail, rfl, digit⟩ := isDigit_of_numeral scanned
      cases negative with
      | true => exact ⟨'-', c :: tail, written, by decide, by decide, by decide⟩
      | false => exact ⟨c, tail, written, begins_digit digit⟩
  | text value =>
      exact ⟨'\"', _, by rw [Json.write, Json.toList_quote], by decide, by decide, by decide⟩
  | array items closed =>
      exact ⟨'[', _, Json.toList_array items closed, by decide, by decide, by decide⟩
  | object entries closed =>
      exact ⟨'\x7b', _, Json.toList_object entries closed, by decide, by decide, by decide⟩
  | broken => cases faithful

/-! ### One step of the scan

Each lemma tells what the scan does once the next character is known. -/

section

variable {text rest : List Char} {depth : Nat}

attribute [local simp] value items entries

theorem value_array : value (depth + 1) ('[' :: text) =
    (.array (items depth true text).1 (items depth true text).2.1,
      (items depth true text).2.2) := by
  simp [skipSpace_cons (show isSpace '[' = false by decide)]

theorem value_object : value (depth + 1) ('\x7b' :: text) =
    (.object (entries depth true text).1 (entries depth true text).2.1,
      (entries depth true text).2.2) := by
  simp [skipSpace_cons (show isSpace '\x7b' = false by decide)]

theorem value_string : value (depth + 1) ('\"' :: text) = orBroken .text (string text) := by
  simp [skipSpace_cons (show isSpace '\"' = false by decide)]

theorem value_minus : value (depth + 1) ('-' :: text) = orBroken .number (numeral true text) := by
  simp [skipSpace_cons (show isSpace '-' = false by decide)]

theorem value_digit {c : Char} (digit : c.isDigit = true) :
    value (depth + 1) (c :: text) = orBroken .number (numeral false (c :: text)) := by
  rw [value, skipSpace_cons (begins_digit digit).1]
  split <;> rename_i same <;> cases same
  iterate 4 · cases digit
  rw [if_pos digit]

theorem items_close (first : Bool) : items (depth + 1) first (']' :: rest) = ([], true, rest) := by
  simp [skipSpace_cons (show isSpace ']' = false by decide)]

theorem items_item (first : Bool) {c : Char} (begins : Begins c) :
    items (depth + 1) first ((if first then [] else [',']) ++ c :: text) =
      ((value depth (c :: text)).1 :: (items depth false (value depth (c :: text)).2).1,
        (items depth false (value depth (c :: text)).2).2) := by
  obtain ⟨visible, notComma, notBracket⟩ := begins
  rw [items]
  cases first with
  | true =>
      rw [if_pos rfl, List.nil_append, skipSpace_cons visible]
      split
      · rename_i same
        exact absurd (List.cons.inj same).1 notBracket
      · rename_i same
        exact absurd (List.cons.inj same).1 notComma
      · rfl
  | false =>
      rw [if_neg (by decide), List.singleton_append, skipSpace_cons (by decide)]
      simp only [skipSpace_cons visible, Bool.false_eq_true, if_false]
      split
      · rename_i same
        exact absurd (List.cons.inj same).1 notBracket
      · rfl

theorem entries_close (first : Bool) :
    entries (depth + 1) first ('\x7d' :: rest) = ([], true, rest) := by
  simp [skipSpace_cons (show isSpace '\x7d' = false by decide)]

theorem entries_entry (first : Bool) {key : Option String}
    (keyed : string text = some (key, ':' :: rest)) :
    entries (depth + 1) first ((if first then [] else [',']) ++ '\"' :: text) =
      (.mk key (value depth rest).1 :: (entries depth false (value depth rest).2).1,
        (entries depth false (value depth rest).2).2) := by
  rw [entries]
  cases first with
  | true =>
      rw [if_pos rfl, List.nil_append, skipSpace_cons (by decide)]
      simp [keyed, skipSpace_cons (show isSpace ':' = false by decide)]
  | false =>
      rw [if_neg (by decide), List.singleton_append, skipSpace_cons (by decide)]
      simp [keyed, skipSpace_cons (show isSpace ':' = false by decide),
        skipSpace_cons (show isSpace '\"' = false by decide)]

theorem value_number {number : Number} (faithful : number.IsFaithful) (follows : Follows rest) :
    value (depth + 1) ((Json.write (.number number)).toList ++ rest) = (.number number, rest) := by
  obtain ⟨negative, text, written, scanned⟩ := faithful
  have behind := numeral_append scanned follows
  rw [Json.write, written]
  cases negative with
  | true =>
      rw [if_pos rfl, List.cons_append, value_minus, behind]
      rfl
  | false =>
      obtain ⟨c, tail, rfl, digit⟩ := isDigit_of_numeral scanned
      rw [List.cons_append] at behind
      rw [if_neg (by decide), List.cons_append, value_digit digit, behind]
      rfl

end

/-! ### Whole values -/

theorem follows_itemsText (items : List Json) (rest : List Char) :
    Follows (Json.itemsText false items ++ ']' :: rest) := by
  cases items with
  | nil => exact follows_cons rest (by decide)
  | cons item more => exact follows_cons _ (by decide)

theorem follows_entriesText (entries : List Entry) (rest : List Char) :
    Follows (Json.entriesText false entries ++ '\x7d' :: rest) := by
  match entries with
  | [] => exact follows_cons rest (by decide)
  | .mk key value :: more => exact follows_cons _ (by decide)

mutual

/-- A value is scanned from its text, if the scan may go on for twice as long as the text. -/
theorem value_write : (json : Json) → json.IsFaithful → (depth : Nat) →
    2 * json.write.toList.length ≤ depth → (rest : List Char) → Follows rest →
    value depth (json.write.toList ++ rest) = (json, rest)
  | json, faithful, 0, enough, _, _ => by
      obtain ⟨c, tail, written, -⟩ := begins_write faithful
      rw [written, List.length_cons] at enough
      omega
  | .null, _, depth + 1, _, _, _ => rfl
  | .boolean true, _, depth + 1, _, _, _ => rfl
  | .boolean false, _, depth + 1, _, _, _ => rfl
  | .number _, faithful, depth + 1, _, _, follows => value_number faithful follows
  | .text (some text), _, depth + 1, _, rest, _ => by
      rw [Json.write, Option.getD_some, Json.toList_quote, List.cons_append, List.append_assoc,
        value_string, List.singleton_append, string_quote]
      rfl
  | .array contents closed, faithful, depth + 1, enough, rest, _ => by
      obtain ⟨each, rfl⟩ := faithful
      rw [Json.toList_array] at enough ⊢
      simp only [List.length_cons, List.length_append, List.length_nil] at enough
      rw [List.cons_append, List.append_assoc, List.singleton_append, value_array,
        items_write contents each true depth (by omega) rest]
  | .object contents closed, faithful, depth + 1, enough, rest, _ => by
      obtain ⟨each, rfl⟩ := faithful
      rw [Json.toList_object] at enough ⊢
      simp only [List.length_cons, List.length_append, List.length_nil] at enough
      rw [List.cons_append, List.append_assoc, List.singleton_append, value_object,
        entries_write contents each true depth (by omega) rest]

theorem items_write : (contents : List Json) → Json.AreFaithful contents → (first : Bool) →
    (depth : Nat) → 2 * (Json.itemsText first contents).length + 1 ≤ depth →
    (rest : List Char) →
    items depth first (Json.itemsText first contents ++ ']' :: rest) = (contents, true, rest)
  | [], _, first, depth + 1, _, rest => items_close first
  | item :: more, ⟨faithful, each⟩, first, depth + 1, enough, rest => by
      obtain ⟨c, tail, written, begins⟩ := begins_write faithful
      simp only [Json.itemsText, List.length_append] at enough
      have inside : 0 < item.write.toList.length := by rw [written]; simp
      have scanned := value_write item faithful depth (by omega) _ (follows_itemsText more rest)
      have others := items_write more each false depth (by omega) rest
      rw [written] at scanned
      rw [Json.itemsText, List.append_assoc, List.append_assoc, written, List.cons_append,
        items_item first begins, ← List.cons_append, scanned, others]

theorem entries_write : (contents : List Entry) → Json.EntriesFaithful contents →
    (first : Bool) → (depth : Nat) → 2 * (Json.entriesText first contents).length + 1 ≤ depth →
    (rest : List Char) →
    entries depth first (Json.entriesText first contents ++ '\x7d' :: rest) =
      (contents, true, rest)
  | [], _, first, depth + 1, _, rest => entries_close first
  | .mk (some key) json :: more, ⟨⟨_, faithful⟩, each⟩, first, depth + 1, enough, rest => by
      simp only [Json.entriesText, Option.getD_some, Json.toList_quote, List.length_append,
        List.length_cons, List.length_nil] at enough
      have scanned := value_write json faithful depth (by omega) _ (follows_entriesText more rest)
      have others := entries_write more each false depth (by omega) rest
      have keyed := string_quote key
        (':' :: (json.write.toList ++ (Json.entriesText false more ++ '\x7d' :: rest)))
      rw [Json.entriesText, Option.getD_some, Json.toList_quote]
      simp only [List.append_assoc, List.cons_append, List.nil_append]
      rw [entries_entry first keyed, scanned, others]

end

end Scan

/-- A whole text is scanned back to the value that it was written from. -/
theorem Document.scan_write {json : Json} (faithful : json.IsFaithful) :
    Document.scan json.write = ⟨json, true⟩ := by
  have scanned := Scan.value_write json faithful (2 * json.write.length + 2)
    (by rw [String.length_toList]; omega) [] Scan.follows_nil
  rw [List.append_nil] at scanned
  simp [Document.scan, scanned, Scan.skipSpace]

end SlotSum
