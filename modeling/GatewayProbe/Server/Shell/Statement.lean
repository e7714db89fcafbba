import GatewayProbe.Server.Shell.Token

/-!
# The statements of a shell script

A statement is a command with its words, or is made of other statements: in a group, one
after another under a condition, again and again, or beside what follows.
-/

namespace GatewayProbe.Server.Shell

/-- A stream turned to what a word names. -/
structure Redirection where
  stream : Nat
  turning : Turning
  target : Word
  deriving DecidableEq, Repr

/-- A statement of a script. -/
inductive Statement where
  /-- A command. -/
  | command (words : List Word) (turned : List Redirection)
  /-- Statements together, perhaps in a process of their own. -/
  | group (isApart : Bool) (body : List Statement) (turned : List Redirection)
  /-- A second statement if the first one succeeds, or if it fails. -/
  | chain (onSuccess : Bool) (first second : Statement)
  /-- A body again and again while a condition succeeds, or fails. -/
  | repetition (onSuccess : Bool) (condition body : List Statement)
  /-- A body for each of some words. -/
  | forEach (name : String) (values : List Word) (body : List Statement)
  /-- One of two bodies. -/
  | branch (condition success failure : List Statement)
  /-- A statement beside what follows. -/
  | beside (body : Statement)
  deriving Inhabited

/-- The keyword that a token is. -/
def keyword? : Token → Option String
  | .word w => w.plain?
  | .mark m => some m
  | .turn .. => none

/-- Whether a list of statements ends before a token. -/
def endsList (t : Token) : Bool :=
  (keyword? t).any fun k => [")", "\x7d", "do", "done", "then", "else", "fi"].contains k

/-- The tokens after a keyword that has to come, or all if it does not. -/
def afterKeyword (k : String) : List Token → List Token
  | [] => []
  | t :: rest => if keyword? t = some k then rest else t :: rest

/-- The tokens without the ends of commands before them. -/
def skipEnds (ts : List Token) : List Token := ts.dropWhile fun t => t = .mark ";"

/-- The words and turned streams of a command, and what follows. -/
def readCommand (words : List Word) (turned : List Redirection) :
    List Token → List Word × List Redirection × List Token
  | .word w :: rest => readCommand (words ++ [w]) turned rest
  | .turn stream turning :: .word w :: rest =>
    readCommand words (turned ++ [⟨stream, turning, w⟩]) rest
  | rest => (words, turned, rest)

mutual

/-- A statement and what follows. The number bounds the depth of reading. -/
def readStatement : Nat → List Token → Statement × List Token
  | 0, ts => (default, ts.drop 1)
  | n + 1, ts =>
    match ts.head?.bind keyword? with
    | some "while" => readLoop n true (ts.drop 1)
    | some "until" => readLoop n false (ts.drop 1)
    | some "if" => readBranch n (ts.drop 1)
    | some "for" => readForEach n (ts.drop 1)
    | some "\x7b" => readGroup n false "\x7d" (ts.drop 1)
    | some "(" => readGroup n true ")" (ts.drop 1)
    | _ =>
      let (words, turned, rest) := readCommand [] [] ts
      (.command words turned, rest)

/-- The rest of a group. -/
def readGroup : Nat → Bool → String → List Token → Statement × List Token
  | 0, _, _, ts => (default, ts)
  | n + 1, isApart, closing, ts =>
    let (body, rest) := readList n [] ts
    let (_, turned, rest) := readCommand [] [] (afterKeyword closing rest)
    (.group isApart body turned, rest)

/-- The rest of a loop. -/
def readLoop : Nat → Bool → List Token → Statement × List Token
  | 0, _, ts => (default, ts)
  | n + 1, onSuccess, ts =>
    let (condition, rest) := readList n [] ts
    let (body, rest) := readList n [] (afterKeyword "do" rest)
    (.repetition onSuccess condition body, afterKeyword "done" rest)

/-- The rest of a loop over words. -/
def readForEach : Nat → List Token → Statement × List Token
  | 0, ts => (default, ts)
  | n + 1, ts =>
    let (words, _, rest) := readCommand [] [] ts
    let name := (words.head?.bind Word.plain?).getD ""
    let (body, rest) := readList n [] (afterKeyword "do" (skipEnds rest))
    (.forEach name (words.drop 2) body, afterKeyword "done" rest)

/-- The rest of a branching. -/
def readBranch : Nat → List Token → Statement × List Token
  | 0, ts => (default, ts)
  | n + 1, ts =>
    let (condition, rest) := readList n [] ts
    let (success, rest) := readList n [] (afterKeyword "then" rest)
    match rest.head?.bind keyword? with
    | some "else" =>
      let (failure, rest) := readList n [] (rest.drop 1)
      (.branch condition success failure, afterKeyword "fi" rest)
    | _ => (.branch condition success [], afterKeyword "fi" rest)

/-- The statements joined to a first one, and what follows. -/
def readChain : Nat → Statement → List Token → Statement × List Token
  | 0, s, ts => (s, ts)
  | n + 1, s, ts =>
    match ts with
    | .mark "&&" :: rest =>
      let (second, rest) := readStatement n (skipEnds rest)
      readChain n (.chain true s second) rest
    | .mark "||" :: rest =>
      let (second, rest) := readStatement n (skipEnds rest)
      readChain n (.chain false s second) rest
    | .mark "|" :: rest => readStatement n (skipEnds rest)
    | _ => (s, ts)

/-- The statements of a list, after those seen, and what follows. -/
def readList : Nat → List Statement → List Token → List Statement × List Token
  | 0, seen, ts => (seen.reverse, ts)
  | n + 1, seen, ts =>
    match skipEnds ts with
    | [] => (seen.reverse, [])
    | t :: rest =>
      if endsList t then (seen.reverse, t :: rest)
      else
        let (s, rest) := readStatement n (t :: rest)
        let (s, rest) := readChain n s rest
        match rest with
        | .mark "&" :: rest => readList n (.beside s :: seen) rest
        | .mark ";" :: rest => readList n (s :: seen) rest
        | rest => (((s :: seen).reverse), rest)

end

/-- The statements of a script. -/
def statements (script : List Char) : List Statement :=
  let ts := tokens script
  (readList (8 * ts.length + 8) [] ts).1

end GatewayProbe.Server.Shell
