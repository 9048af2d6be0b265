import Hysteron.Cluster.Types
import Hysteron.Util.Hex
import Hysteron.Util.Regexp

/-!
How the history of a timeline is read from the server: line by line, with a regular expression that
decides which lines are entries.
-/

namespace Hysteron
namespace Postgres

/-! ## Numbers -/

inductive NumError where
  | invalidSyntax
  | outOfRange
  deriving DecidableEq, Repr

def digitOf (base : Nat) (c : Char) : Option Nat :=
  let digit :=
    if c.isDigit then some (c.toNat - '0'.toNat)
    else if 'a' ≤ c ∧ c ≤ 'f' then some (c.toNat - 'a'.toNat + 10)
    else if 'A' ≤ c ∧ c ≤ 'F' then some (c.toNat - 'A'.toNat + 10)
    else none
  digit.filter (· < base)

def parseDigits (base bits n : Nat) (s : List Char) : Except NumError Nat :=
  match s with
  | [] => .ok n
  | c :: cs =>
    match digitOf base c with
    | none => .error .invalidSyntax
    | some d =>
      if base * n + d < 2 ^ bits then parseDigits base bits (base * n + d) cs
      else .error .outOfRange

def parseUint (base bits : Nat) (s : List Char) : Except NumError Nat :=
  if s = [] then .error .invalidSyntax else parseDigits base bits 0 s

inductive LSNError where
  | badLSN
  | number (err : NumError)
  deriving DecidableEq, Repr

def pgLsnToInt (lsn : List Char) : Except LSNError Nat :=
  match lsn.splitOn '/' with
  | [high, low] =>
    match parseUint 16 32 high, parseUint 16 32 low with
    | .error err, _ => .error (.number err)
    | .ok _, .error err => .error (.number err)
    | .ok a, .ok b => .ok (a * 2 ^ 32 + b)
  | _ => .error .badLSN

/-! ## Lines -/

def isBlank (c : Char) : Bool := c == '\t' || c == '\n' || c == '\x0c' || c == '\r' || c == ' '

def wordPiece : Regexp.Piece := { isIn := fun c => !isBlank c, least := 1, captured := true }

def blankPiece : Regexp.Piece := { isIn := isBlank, least := 1, captured := false }

def restPiece : Regexp.Piece := { isIn := fun c => c != '\n', least := 0, captured := true }

/--
`(\S+)\s+(\S+)\s+(.*)$`
-/
def timelineHistoryLineRegexp : List Regexp.Piece :=
  [wordPiece, blankPiece, wordPiece, blankPiece, restPiece]

/--
The lines of a text, without their line feeds. What is behind the last line feed is a line unless it is
empty.
-/
def linesOf (contents : List Char) : List (List Char) :=
  match contents with
  | [] => []
  | c :: cs =>
    if c = '\n' then
      [] :: linesOf cs
    else
      match linesOf cs with
      | [] => [[c]]
      | line :: lines => (c :: line) :: lines

def dropCR (line : List Char) : List Char :=
  if line.getLast? = some '\r' then line.dropLast else line

def maxScanTokenSize : Nat := 64 * 1024

def byteLength (line : List Char) : Nat := (line.map Char.utf8Size).sum

inductive HistoryError where
  | timelineID (line : List Char) (err : NumError)
  | startLSN (line : List Char) (err : LSNError)
  | tooLong
  deriving DecidableEq, Repr

def parseLine (line : List Char) : Except HistoryError (Option PostgresTimelineHistory) :=
  -- The buffer of the scanner does not hold a longer line.
  if maxScanTokenSize ≤ byteLength line then
    .error .tooLong
  else
    let line := dropCR line
    match Regexp.search timelineHistoryLineRegexp line with
    | some [timeline, lsn, reason] =>
      match parseUint 10 64 timeline with
      | .error err => .error (.timelineID line err)
      | .ok timelineID =>
        match pgLsnToInt lsn with
        | .error err => .error (.startLSN line err)
        | .ok switchPoint =>
          .ok (some { timelineID, switchPoint, reason := String.ofList reason })
    | _ => .ok none

def parseLines (lines : List (List Char)) : Except HistoryError (List PostgresTimelineHistory) :=
  match lines with
  | [] => .ok []
  | line :: lines => do
    let entry ← parseLine line
    let entries ← parseLines lines
    return entry.toList ++ entries

def parseTimelinesHistory (contents : String)
    : Except HistoryError (List PostgresTimelineHistory) :=
  parseLines (linesOf contents.toList)

end Postgres
end Hysteron
