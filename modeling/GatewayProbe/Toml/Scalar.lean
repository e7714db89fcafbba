import GatewayProbe.Data
import GatewayProbe.Decimal.Reading
import GatewayProbe.Toml.Text

/-!
# Numbers, dates and words of TOML

Digits may be divided by single underscores. Whole numbers fit in 64 bits with a sign;
they may be given in other bases without a sign. A decimal number has digits on both
sides of its point, and does not begin with a superfluous zero. Dates and times of day
have to exist; which ones they are does not matter here.
-/

namespace GatewayProbe.Toml

open GatewayProbe.Text

/-- Digits of which single underscores may divide any two, without the underscores. -/
def digitRun? (isDigit : Char → Bool) : List Char → Parsed (List Char)
  | [] => none
  | c :: rest =>
    if isDigit c then
      let rec more : List Char → Parsed (List Char)
        | [] => some ([], [])
        | '_' :: d :: rest => if isDigit d then (more rest).cons d else none
        | d :: rest =>
          if isDigit d then (more rest).cons d
          else if d = '_' then none
          else some ([], d :: rest)
      (more rest).cons c
    else none

/-- The digits before the point of a number: a zero, or digits that do not begin with one. -/
def wholeRun? : List Char → Parsed (List Char)
  | '0' :: rest => some (['0'], rest)
  | s => digitRun? Char.isDigit s

/-- A sign, perhaps. -/
def sign : List Char → List Char × List Char
  | '+' :: rest => ([], rest)
  | '-' :: rest => (['-'], rest)
  | s => ([], s)

/-- An exponent with its mark, perhaps; a mark has to be followed by digits. -/
def exponent? : List Char → Parsed (List Char)
  | c :: rest =>
    if c = 'e' ∨ c = 'E' then
      let (minus, rest) := sign rest
      (digitRun? Char.isDigit rest).map fun (digits, rest) => ('e' :: minus ++ digits, rest)
    else some ([], c :: rest)
  | [] => some ([], [])

/-- A fraction with its point, perhaps; a point has to be followed by digits. -/
def fraction? : List Char → Parsed (List Char)
  | '.' :: rest => (digitRun? Char.isDigit rest).cons '.'
  | s => some ([], s)

/-- A whole number within 64 bits. -/
def integerData? (n : Int) : Option Data :=
  if -(2 ^ 63) ≤ n ∧ n < 2 ^ 63 then some (.integer n) else none

/-- A decimal number. One above all doubles is refused. -/
def decimalNumber? (s : List Char) : Option (Data × List Char) := do
  let (minus, rest) := sign s
  let (whole, rest) ← wholeRun? rest
  let (fraction, rest) ← fraction? rest
  let (exponent, rest) ← exponent? rest
  if fraction.isEmpty && exponent.isEmpty then
    let n := Decimal.digitsValue whole
    let d ← integerData? (if minus.isEmpty then n else -(n : Int))
    return (d, rest)
  else
    let x ← Decimal.parse (minus ++ whole ++ fraction ++ exponent)
    if x == 1.0 / 0.0 then none else return (.real x, rest)

/-- A whole number in a base. -/
def basedNumber? (base : Nat) (s : List Char) : Option (Data × List Char) := do
  let (digits, rest) ← digitRun? (fun c => (baseDigitValue base c).isSome) s
  let n := digits.foldl (fun n c => n * base + (baseDigitValue base c).getD 0) 0
  let d ← integerData? n
  return (d, rest)

/-- An infinity or no number, after a sign perhaps. -/
def specialNumber? (s : List Char) : Parsed Data :=
  let (minus, rest) := sign s
  let signed (x : Float) : Data := .real (if minus.isEmpty then x else -x)
  match rest with
  | 'i' :: 'n' :: 'f' :: rest => some (signed (1.0 / 0.0), rest)
  | 'n' :: 'a' :: 'n' :: rest => some (signed (0.0 / 0.0), rest)
  | _ => none

/-- Two digits of a value from `least` to `greatest`. -/
def pair? (least greatest : Nat) : List Char → Parsed Nat
  | a :: b :: rest =>
    if a.isDigit ∧ b.isDigit then
      let n := Decimal.digitsValue [a, b]
      if least ≤ n ∧ n ≤ greatest then some (n, rest) else none
    else none
  | _ => none

/-- The text after a given character. -/
def after? (c : Char) : List Char → Option (List Char)
  | d :: rest => if d = c then some rest else none
  | [] => none

/-- The number of days in a month. -/
def daysIn (year month : Nat) : Nat :=
  let isLeap : Bool := year % 4 = 0 && (year % 100 ≠ 0 || year % 400 = 0)
  if month = 2 then (if isLeap then 29 else 28)
  else if month = 4 ∨ month = 6 ∨ month = 9 ∨ month = 11 then 30
  else 31

/-- The text after a day of the calendar. -/
def afterDate? : List Char → Option (List Char)
  | a :: b :: c :: d :: '-' :: rest =>
    if [a, b, c, d].all Char.isDigit then do
      let (month, rest) ← pair? 1 12 rest
      let rest ← after? '-' rest
      let (_, rest) ← pair? 1 (daysIn (Decimal.digitsValue [a, b, c, d]) month) rest
      return rest
    else none
  | _ => none

/-- The text after a time of day. -/
def afterTime? (s : List Char) : Option (List Char) := do
  let (_, rest) ← pair? 0 23 s
  let rest ← after? ':' rest
  let (_, rest) ← pair? 0 59 rest
  let rest ← after? ':' rest
  let (_, rest) ← pair? 0 60 rest
  match rest with
  | '.' :: d :: more => return if d.isDigit then more.dropWhile Char.isDigit else rest
  | _ => return rest

/-- The text after an offset from universal time, perhaps; a sign has to be followed by one. -/
def afterOffset? : List Char → Option (List Char)
  | c :: rest =>
    if c = 'Z' ∨ c = 'z' then some rest
    else if c = '+' ∨ c = '-' then do
      let (_, rest) ← pair? 0 23 rest
      let rest ← after? ':' rest
      let (_, rest) ← pair? 0 59 rest
      return rest
    else some (c :: rest)
  | [] => some []

/-- A date, a time of day or both. -/
def date? (s : List Char) : Parsed Data :=
  match afterDate? s with
  | some rest =>
    match rest with
    | c :: more =>
      if c = 'T' ∨ c = 't' ∨ c = ' ' then
        match afterTime? more with
        | some rest => (afterOffset? rest).map fun rest => (.date, rest)
        | none => some (.date, rest)
      else some (.date, rest)
    | [] => some (.date, [])
  | none => (afterTime? s).map fun rest => (.date, rest)

/-- A number or a date. -/
def number? (s : List Char) : Parsed Data :=
  match date? s with
  | some found => some found
  | none =>
    match s with
    | '0' :: 'x' :: rest => basedNumber? 16 rest
    | '0' :: 'o' :: rest => basedNumber? 8 rest
    | '0' :: 'b' :: rest => basedNumber? 2 rest
    | _ => (specialNumber? s).or (decimalNumber? s)

/-- Data that holds no other data. -/
def scalar? (s : List Char) : Parsed Data :=
  match s with
  | 't' :: 'r' :: 'u' :: 'e' :: rest => some (.bool true, rest)
  | 'f' :: 'a' :: 'l' :: 's' :: 'e' :: rest => some (.bool false, rest)
  | '"' :: _ | '\'' :: _ => (string? s).map fun (text, rest) => (.text (String.ofList text), rest)
  | _ => number? s

end GatewayProbe.Toml
