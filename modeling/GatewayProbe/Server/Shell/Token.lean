import GatewayProbe.Text.Ascii
import GatewayProbe.Text.Blank

/-!
# The tokens of a shell script

A script is read into words and marks. A word is put together from text, quoted or not,
and from variables whose values are put in when the word is used. A mark ends or joins
commands, or turns one of their streams to somewhere else.
-/

namespace GatewayProbe.Server.Shell

/-- A part of a word. -/
inductive Piece where
  | text (s : List Char)
  | variable (name : String)
  deriving DecidableEq, Repr

/-- A word. -/
structure Word where
  pieces : List Piece := []
  /-- Whether a part of it was quoted; such a word is no keyword. -/
  isQuoted : Bool := false
  deriving DecidableEq, Repr, Inhabited

/-- What a stream is turned to by the word that follows. -/
inductive Turning where
  /-- A file that is written anew. -/
  | file
  /-- A file that is written on. -/
  | append
  /-- What another stream leads to. -/
  | stream
  /-- A file to be read. -/
  | input
  deriving DecidableEq, Repr

/-- What a script consists of. -/
inductive Token where
  | word (w : Word)
  | mark (m : String)
  | turn (stream : Nat) (turning : Turning)
  deriving DecidableEq, Repr

/-- The text that a part is, whatever the variables are. -/
def Piece.text? : Piece → Option (List Char)
  | .text s => some s
  | .variable _ => none

namespace Word

/-- A word of text. -/
def ofText (s : String) : Word := ⟨[.text s.toList], false⟩

/-- A word with a further part. -/
def add (w : Word) (p : Piece) : Word := { w with pieces := w.pieces ++ [p] }

/-- A word with further quoted parts. -/
def quote (w : Word) (ps : List Piece) : Word := ⟨w.pieces ++ ps, true⟩

/-- The text of a word without quotes and variables. -/
def plain? (w : Word) : Option String :=
  if w.isQuoted then none
  else
    (w.pieces.mapM Piece.text?).map fun parts => String.ofList parts.flatten

end Word

/-- Characters of names. -/
def isNameChar (c : Char) : Bool := c.isAlphanum || c = '_'

/-- A variable after the sign that announces it, and what follows. -/
def readVariable : List Char → Piece × List Char
  | '$' :: rest => (.variable "$", rest)
  | '?' :: rest => (.variable "?", rest)
  | '!' :: rest => (.variable "!", rest)
  | '\x7b' :: rest =>
    let name := rest.takeWhile (· ≠ '\x7d')
    (.variable (String.ofList name), rest.drop (name.length + 1))
  | rest =>
    match rest.takeWhile isNameChar with
    | [] => (.text ['$'], rest)
    | name => (.variable (String.ofList name), rest.drop name.length)

/-- The parts between double quotes, and what follows the closing one. The number bounds the parts
that are read. -/
def readQuoted : Nat → List Piece → List Char → List Piece × List Char
  | 0, seen, rest => (seen.reverse, rest)
  | _ + 1, seen, [] => (seen.reverse, [])
  | n + 1, seen, c :: rest =>
    match c with
    | '"' => (seen.reverse, rest)
    | '$' =>
      let (p, rest) := readVariable rest
      readQuoted n (p :: seen) rest
    | '\\' =>
      match rest with
      | '\n' :: rest => readQuoted n seen rest
      | d :: rest =>
        if d = '"' || d = '\\' || d = '$' then readQuoted n (.text [d] :: seen) rest
        else readQuoted n (.text ['\\', d] :: seen) rest
      | [] => (seen.reverse, [])
    | _ => readQuoted n (.text [c] :: seen) rest

/-- The tokens with the word under way put before them. -/
def flush (word : Option Word) (seen : List Token) : List Token :=
  word.elim seen fun w => .word w :: seen

/-- The stream that a word under way names, or else the usual one, and the tokens before. -/
def turnedStream (usual : Nat) (word : Option Word) (seen : List Token) : Nat × List Token :=
  match word.bind Word.plain? with
  | some "0" => (0, seen)
  | some "1" => (1, seen)
  | some "2" => (2, seen)
  | _ => (usual, flush word seen)

/-- The tokens of a script, the latest first, after those seen and a word under way. The number
bounds the characters that are read. -/
def readTokens : Nat → Option Word → List Token → List Char → List Token
  | 0, word, seen, _ => flush word seen
  | _ + 1, word, seen, [] => flush word seen
  | n + 1, word, seen, c :: rest =>
    let under := word.getD {}
    match c with
    | ' ' | '\t' => readTokens n none (flush word seen) rest
    | '\n' | ';' => readTokens n none (.mark ";" :: flush word seen) rest
    | '(' => readTokens n none (.mark "(" :: flush word seen) rest
    | ')' => readTokens n none (.mark ")" :: flush word seen) rest
    | '\x27' =>
      let inside := rest.takeWhile (· ≠ '\x27')
      readTokens n (some (under.quote [.text inside])) seen (rest.drop (inside.length + 1))
    | '"' =>
      let (pieces, rest) := readQuoted n [] rest
      readTokens n (some (under.quote pieces)) seen rest
    | '\\' =>
      match rest with
      | '\n' :: rest => readTokens n word seen rest
      | d :: rest => readTokens n (some (under.quote [.text [d]])) seen rest
      | [] => flush word seen
    | '$' =>
      let (p, rest) := readVariable rest
      readTokens n (some (under.add p)) seen rest
    | '#' =>
      if word.isNone then readTokens n none seen (rest.dropWhile (· ≠ '\n'))
      else readTokens n (some (under.add (.text [c]))) seen rest
    | '&' =>
      match rest with
      | '&' :: rest => readTokens n none (.mark "&&" :: flush word seen) rest
      | _ => readTokens n none (.mark "&" :: flush word seen) rest
    | '|' =>
      match rest with
      | '|' :: rest => readTokens n none (.mark "||" :: flush word seen) rest
      | _ => readTokens n none (.mark "|" :: flush word seen) rest
    | '>' =>
      let (stream, seen) := turnedStream 1 word seen
      match rest with
      | '>' :: rest => readTokens n none (.turn stream .append :: seen) rest
      | '&' :: rest => readTokens n none (.turn stream .stream :: seen) rest
      | _ => readTokens n none (.turn stream .file :: seen) rest
    | '<' =>
      let (stream, seen) := turnedStream 0 word seen
      readTokens n none (.turn stream .input :: seen) rest
    | _ => readTokens n (some (under.add (.text [c]))) seen rest

/-- The tokens of a script in order. -/
def tokens (script : List Char) : List Token :=
  (readTokens (script.length + 1) none [] script).reverse

end GatewayProbe.Server.Shell
