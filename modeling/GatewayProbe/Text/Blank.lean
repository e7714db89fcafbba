/-!
# Blank characters, trimming and words

Blank is the Unicode property of white space, a closed list of twenty-five
characters. Trimming removes the blanks at both ends of a text, and the words of
a text are its maximal runs without a blank. Splitting at a class of characters
is stated once, for every class, and the words are its non-empty pieces.
-/

namespace GatewayProbe.Text

/-- The characters with the Unicode property of white space. -/
def isBlank (c : Char) : Bool :=
  let n := c.toNat
  (9 ≤ n && n ≤ 13) || n == 0x20 || n == 0x85 || n == 0xA0 || n == 0x1680 ||
    (0x2000 ≤ n && n ≤ 0x200A) || n == 0x2028 || n == 0x2029 || n == 0x202F ||
    n == 0x205F || n == 0x3000

/-- The text without the characters of a class at its end. -/
def dropEndWhile (p : Char → Bool) (s : List Char) : List Char :=
  (s.reverse.dropWhile p).reverse

/-- The text without the blanks at its two ends. -/
def trim (s : List Char) : List Char :=
  dropEndWhile isBlank (s.dropWhile isBlank)

/-- A text of blanks alone, the empty text among them. -/
def allBlank (s : List Char) : Bool := s.all isBlank

/-- The pieces between the characters of a class, always at least one. -/
def splitWhere (p : Char → Bool) : List Char → List (List Char)
  | [] => [[]]
  | c :: rest =>
    if p c then [] :: splitWhere p rest
    else
      match splitWhere p rest with
      | [] => [[c]]
      | piece :: pieces => (c :: piece) :: pieces

/-- The maximal runs of characters that are not blank. -/
def words (s : List Char) : List (List Char) :=
  (splitWhere isBlank s).filter (fun w => !w.isEmpty)

/-- The two sides of the first character `sep`, if there is one. -/
def splitFirst (sep : Char) : List Char → Option (List Char × List Char)
  | [] => none
  | c :: rest =>
    if c = sep then some ([], rest)
    else (splitFirst sep rest).map fun (before, after) => (c :: before, after)

/-- The two sides of the last character `sep`, if there is one. -/
def splitLast (sep : Char) (s : List Char) : Option (List Char × List Char) :=
  (splitFirst sep s.reverse).map fun (after, before) => (before.reverse, after.reverse)

/-- The rest of the text after a given beginning, if it begins so. -/
def afterStart : List Char → List Char → Option (List Char)
  | [], s => some s
  | _ :: _, [] => none
  | a :: as, c :: rest => if a = c then afterStart as rest else none

/-- A text that holds another one as a contiguous part. -/
def holds (part : List Char) : List Char → Bool
  | [] => part.isEmpty
  | c :: rest => (afterStart part (c :: rest)).isSome || holds part rest

/-- A string without the blanks at its two ends. -/
def trimmed (s : String) : String := String.ofList (trim s.toList)

/-- A string of blanks alone. -/
def isAllBlank (s : String) : Bool := allBlank s.toList

/-- The words of a string, in order. -/
def wordsOf (s : String) : List String := (words s.toList).map String.ofList

/-- A text that is one of some strings. -/
def isOneOf (names : List String) (s : List Char) : Bool := s ∈ names.map String.toList

/-- A string that holds another one. -/
def holdsText (part s : String) : Bool := holds part.toList s.toList

/-- There is always a first piece, which may be empty. -/
theorem splitWhere_ne_nil (p : Char → Bool) (s : List Char) : splitWhere p s ≠ [] := by
  cases s with
  | nil => simp [splitWhere]
  | cons c rest =>
    simp only [splitWhere]
    split
    · simp
    · split <;> simp

end GatewayProbe.Text
