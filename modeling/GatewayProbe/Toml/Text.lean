import GatewayProbe.Text.Ascii

/-!
# Blanks, line ends and strings of TOML

A string stands between one or three quotes of either kind. Between double quotes there
are escapes, and between three of them a backslash at the end of a line swallows the
line end and the blanks after it. Between single quotes everything stands for itself.
Three quotes may hold line ends, which are all read as one character. Control
characters are allowed nowhere.
-/

namespace GatewayProbe.Toml

open GatewayProbe.Text

/-- What a reader of a part gives: the part and the text after it. -/
abbrev Parsed (α : Type) : Type := Option (α × List Char)

/-- The blanks within a line. -/
def isGap (c : Char) : Bool := c = ' ' || c = '\t'

/-- The text after the blanks at its beginning. -/
def skipGaps (s : List Char) : List Char := s.dropWhile isGap

/-- The text after a line end, if it begins with one. -/
def afterNewline? : List Char → Option (List Char)
  | '\n' :: rest => some rest
  | '\r' :: '\n' :: rest => some rest
  | _ => none

/-- The characters that may stand in a line: the tabulator and all that are no controls. -/
def isPrintable (c : Char) : Bool := c = '\t' || (0x20 ≤ c.toNat && c.toNat ≠ 0x7F)

/-- The text after a comment, if it begins with one. -/
def skipComment : List Char → List Char
  | '#' :: rest => rest.dropWhile isPrintable
  | s => s

/-- The text after the end of a line, where blanks and a comment may stand before it. -/
def afterLine? (s : List Char) : Option (List Char) :=
  match skipComment (skipGaps s) with
  | [] => some []
  | rest => afterNewline? rest

/-- The text after the blanks, comments and line ends at its beginning; `lines` is at least the
number of these lines. -/
def skipLines : Nat → List Char → List Char
  | 0, s => skipGaps s
  | lines + 1, s =>
    let s := skipGaps s
    match afterNewline? (skipComment s) with
    | some rest => skipLines lines rest
    | none => s

/-- The text after all blanks, comments and line ends at its beginning. -/
def skipAllLines (s : List Char) : List Char := skipLines s.length s

/-- The character with a code given in hexadecimal digits. -/
def codedChar? (digits : List Char) : Option Char := do
  let values ← digits.mapM hexValue
  let n := values.foldl (fun n v => n * 16 + v) 0
  if n.isValidChar then some (Char.ofNat n) else none

/-- The character that an escape after its backslash stands for. -/
def escape? : List Char → Parsed Char
  | 'b' :: rest => some ('\x08', rest)
  | 't' :: rest => some ('\t', rest)
  | 'n' :: rest => some ('\n', rest)
  | 'f' :: rest => some ('\x0c', rest)
  | 'r' :: rest => some ('\r', rest)
  | '"' :: rest => some ('"', rest)
  | '\\' :: rest => some ('\\', rest)
  | 'u' :: a :: b :: c :: d :: rest => (codedChar? [a, b, c, d]).map fun x => (x, rest)
  | 'U' :: a :: b :: c :: d :: e :: f :: g :: h :: rest =>
    (codedChar? [a, b, c, d, e, f, g, h]).map fun x => (x, rest)
  | _ => none

/-- Put a character in front of a part. -/
def Parsed.cons (c : Char) (p : Parsed (List Char)) : Parsed (List Char) :=
  p.map fun (text, rest) => (c :: text, rest)

/-- The rest of a string between double quotes; `size` is at least its length. -/
def basicLine? : Nat → List Char → Parsed (List Char)
  | 0, _ => none
  | _ + 1, [] => none
  | size + 1, c :: rest =>
    if c = '"' then some ([], rest)
    else if c = '\\' then
      match escape? rest with
      | some (x, rest) => (basicLine? size rest).cons x
      | none => none
    else if isPrintable c then (basicLine? size rest).cons c
    else none

/-- The rest of a string between single quotes. -/
def literalLine? (s : List Char) : Parsed (List Char) :=
  match s.dropWhile fun c => c ≠ '\'' && isPrintable c with
  | '\'' :: rest => some (s.takeWhile fun c => c ≠ '\'' && isPrintable c, rest)
  | _ => none

/-- The end of a string between three quotes: up to two quotes may stand right before it. -/
def closing? (quote : Char) : List Char → Parsed (List Char)
  | a :: b :: c :: rest =>
    if a = quote ∧ b = quote ∧ c = quote then
      match rest with
      | d :: e :: more =>
        if d = quote ∧ e = quote then some ([quote, quote], more)
        else if d = quote then some ([quote], e :: more)
        else some ([], rest)
      | [d] => if d = quote then some ([quote], []) else some ([], rest)
      | [] => some ([], [])
    else none
  | _ => none

/-- The text after a line end that is swallowed, with the blanks and line ends after it. -/
def afterSwallowed? (s : List Char) : Option (List Char) :=
  (afterNewline? (skipGaps s)).map fun rest =>
    let rec go : Nat → List Char → List Char
      | 0, s => s
      | n + 1, s =>
        let s := skipGaps s
        match afterNewline? s with
        | some rest => go n rest
        | none => s
    go rest.length rest

/-- The rest of a string between three double quotes; `size` is at least its length. -/
def basicBlock? : Nat → List Char → Parsed (List Char)
  | 0, _ => none
  | size + 1, s =>
    match closing? '"' s with
    | some done => some done
    | none =>
      match s with
      | [] => none
      | '\\' :: rest =>
        match afterSwallowed? rest with
        | some rest => basicBlock? size rest
        | none =>
          match escape? rest with
          | some (x, rest) => (basicBlock? size rest).cons x
          | none => none
      | c :: rest =>
        match afterNewline? s with
        | some rest => (basicBlock? size rest).cons '\n'
        | none => if isPrintable c then (basicBlock? size rest).cons c else none

/-- The rest of a string between three single quotes; `size` is at least its length. -/
def literalBlock? : Nat → List Char → Parsed (List Char)
  | 0, _ => none
  | size + 1, s =>
    match closing? '\'' s with
    | some done => some done
    | none =>
      match s with
      | [] => none
      | c :: rest =>
        match afterNewline? s with
        | some rest => (literalBlock? size rest).cons '\n'
        | none => if isPrintable c then (literalBlock? size rest).cons c else none

/-- The text after a line end right behind the opening quotes of a block. -/
def skipFirstNewline (s : List Char) : List Char := (afterNewline? s).getD s

/-- A string between quotes on one line. -/
def lineString? : List Char → Parsed (List Char)
  | '"' :: rest => basicLine? (rest.length + 1) rest
  | '\'' :: rest => literalLine? rest
  | _ => none

/-- A string of any kind. -/
def string? : List Char → Parsed (List Char)
  | '"' :: '"' :: '"' :: rest => basicBlock? (rest.length + 1) (skipFirstNewline rest)
  | '\'' :: '\'' :: '\'' :: rest => literalBlock? (rest.length + 1) (skipFirstNewline rest)
  | s => lineString? s

end GatewayProbe.Toml
