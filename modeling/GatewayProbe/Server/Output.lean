import GatewayProbe.Clock
import GatewayProbe.Text.Blank
import GatewayProbe.Text.Utf8

/-!
# The output of a process, line by line

A process writes bytes to its two output streams, and closes each of them at some
moment or never. A reader takes a stream in lines. A line is there when its end has
been written, and a carriage return in front of that is a part of the end; what is left
when a stream is closed is a line too. A reader stops at the first line that is no text.
-/

namespace GatewayProbe.Server

open GatewayProbe.Text

/-- A stream: the pieces written to it, each with its moment, and when it was closed. -/
structure Outflow where
  /-- The pieces in the order in which they were written. -/
  pieces : List (Nat × List UInt8) := []
  closed : Option Nat := none
  deriving DecidableEq, Repr, Inhabited

/-- A line without its end and the moment at which it was complete. -/
structure Line where
  moment : Nat
  bytes : List UInt8
  deriving DecidableEq, Repr

namespace Outflow

/-- The bytes of a stream, each with its moment. -/
def bytes (o : Outflow) : List (Nat × UInt8) :=
  o.pieces.flatMap fun piece => piece.2.map fun b => (piece.1, b)

/-- The byte that ends a line. -/
def lineEnd : UInt8 := 0x0A

/-- The byte that is a part of the end of a line when it stands in front of that. -/
def carriageReturn : UInt8 := 0x0D

/-- The bytes of a line whose end has been written; `seen` holds the bytes before that in
reverse. -/
def endedLine (seen : List UInt8) : List UInt8 :=
  if seen.head? = some carriageReturn then seen.tail.reverse else seen.reverse

/-- The complete lines among bytes, and the bytes after them; `seen` holds the bytes of the line
under way in reverse. -/
def splitLines (seen : List UInt8) : List (Nat × UInt8) → List Line × List UInt8
  | [] => ([], seen.reverse)
  | (moment, b) :: rest =>
    if b = lineEnd then
      let (lines, left) := splitLines [] rest
      (⟨moment, endedLine seen⟩ :: lines, left)
    else splitLines (b :: seen) rest

/-- The lines of a stream. -/
def lines (o : Outflow) : List Line :=
  let (lines, left) := splitLines [] o.bytes
  match o.closed with
  | some moment => if left.isEmpty then lines else lines ++ [⟨moment, left⟩]
  | none => lines

/-- Whether a line is text. -/
def isText (l : Line) : Bool := (stringOf? l.bytes).isSome

/-- The lines that a reader takes. -/
def readLines (o : Outflow) : List Line := o.lines.takeWhile isText

/-- When a reader of the stream ends, if it does. -/
def readerEnd? (o : Outflow) : Option Nat :=
  match o.lines.dropWhile isText with
  | l :: _ => some l.moment
  | [] => o.closed

/-- When the stream breaks: something is written to it after its reader has ended. -/
def brokenAt? (o : Outflow) : Option Nat :=
  match readerEnd? { o with closed := none } with
  | none => none
  | some last => (o.pieces.find? fun piece => last < piece.1).map (·.1)

/-- The stream of a process that ends at a moment. -/
def cutAt (o : Outflow) (moment : Nat) : Outflow :=
  ⟨o.pieces.filter fun piece => piece.1 < moment, some (o.closed.elim moment (min moment))⟩

end Outflow

/-- The text of a line. -/
def Line.text (l : Line) : String := (stringOf? l.bytes).getD ""

/-- Whether a line holds a pattern. -/
def Line.shows (pattern : String) (l : Line) : Bool := holdsText pattern l.text

end GatewayProbe.Server
