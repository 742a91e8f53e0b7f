/-! Line ends. A text from a file or from standard input may end its lines with a carriage return, a
line feed or both; once read, it has line feeds only. -/

namespace LoxScan.Text

/-- `cs` with every carriage return, and every pair of a carriage return and a line feed, replaced
by a line feed. -/
def unifyLineEnds : List Char → List Char
  | [] => []
  | '\r' :: '\n' :: r => '\n' :: unifyLineEnds r
  | '\r' :: r => '\n' :: unifyLineEnds r
  | c :: r => c :: unifyLineEnds r

/-- How many line feeds a text holds. -/
def lineFeeds (cs : List Char) : Nat := cs.count '\n'

/-- The lines of a text, each with its line feed; the last one may lack it. -/
def linesOf : List Char → List (List Char)
  | [] => []
  | '\n' :: r => ['\n'] :: linesOf r
  | c :: r =>
    match linesOf r with
    | [] => [[c]]
    | line :: lines => (c :: line) :: lines

end LoxScan.Text
