import LoxScan.Segment

/-! A cursor in a source text. It collects tokens and faults as it moves over segments. It can be
moved, given another text, stepped by one segment, or run over the whole text; every fault is told
to a reporter, which may break the run off, and the cursor is then left behind the faulty segment,
ready to go on. -/

namespace LoxScan

/-- A position in a source text with what was found so far. `start` is where the latest segment
began, `current` where the next one begins. -/
structure Cursor where
  source : List Char
  filename : String
  start : Nat
  current : Nat
  line : Int
  tokens : Array Token
  faults : Array Fault
  deriving DecidableEq, Repr

/-- Someone who is told of faults and keeps a state of type `σ`. The cursor that is shown stands
behind the faulty segment and has kept the fault. The answer is the new state, and whether to go
on. -/
abbrev Reporter (σ : Type) := σ → Cursor → Fault → σ × Bool

/-- The reporter that keeps nothing and always goes on. -/
def Reporter.silent : Reporter Unit := fun _ _ _ => ((), true)

/-- A reporter that always goes on. -/
def Reporter.steady {σ : Type} (keep : σ → Fault → σ) : Reporter σ :=
  fun s _ f => (keep s f, true)

namespace Cursor

/-- The cursor at the start of a text, with nothing found. -/
def atStart (source : String) (filename : String) : Cursor :=
  ⟨source.toList, filename, 0, 0, 1, #[], #[]⟩

def rest (c : Cursor) : List Char := c.source.drop c.current

def atEnd (c : Cursor) : Bool := c.source.length ≤ c.current

def hasFaults (c : Cursor) : Bool := !c.faults.isEmpty

def peek? (c : Cursor) : Option Char := c.source[c.current]?

def peekNext? (c : Cursor) : Option Char := c.source[c.current + 1]?

/-- The character under the cursor, over which the cursor moves. At the end of the text there is
none. -/
def advance? (c : Cursor) : Option (Char × Cursor) :=
  c.peek?.map fun x => (x, { c with current := c.current + 1 })

/-- Moves over the character under the cursor if it is `expected`. -/
def accept (c : Cursor) (expected : Char) : Bool × Cursor :=
  if c.peek? = some expected then (true, { c with current := c.current + 1 }) else (false, c)

/-- Moves over a segment and keeps its token or its fault. -/
def consume (c : Cursor) (s : Segment) : Cursor :=
  { c with
    start := c.current
    current := c.current + s.text.length
    line := c.line + s.lineFeeds
    tokens := match s.token? c.line with
      | some t => c.tokens.push t
      | none => c.tokens
    faults := match s.fault? c.filename c.line with
      | some f => c.faults.push f
      | none => c.faults }

/-- Where a run came to, with the reporter's state, and whether it got there without being broken
off. -/
structure Run (σ : Type) where
  cursor : Cursor
  state : σ
  complete : Bool

variable {σ : Type}

/-- Moves over segments one after the other until a reporter breaks off. -/
def follow (report : Reporter σ) (c : Cursor) (s : σ) : List Segment → Run σ
  | [] => ⟨c, s, true⟩
  | segment :: segments =>
    let next := c.consume segment
    match segment.fault? c.filename c.line with
    | none => follow report next s segments
    | some f =>
      match report s next f with
      | (s, true) => follow report next s segments
      | (s, false) => ⟨next, s, false⟩

/-- Moves over one segment. At the end of the text there is none; the cursor then only takes note
of where it stands. -/
def step (report : Reporter σ) (c : Cursor) (s : σ) : Except Cursor (Run σ) :=
  match c.rest with
  | [] => .error { c with start := c.current }
  | x :: r => .ok (c.follow report s [Segment.first x r])

/-- The cursor back at the start of its text, with nothing found. -/
def rewind (c : Cursor) : Cursor :=
  { c with start := 0, current := 0, line := 1, tokens := #[], faults := #[] }

/-- Adds the token of the end of the text. -/
def finish (c : Cursor) : Cursor :=
  { c with tokens := c.tokens.push ⟨.endOfText, "", none, c.line⟩ }

/-- Runs over the whole text from its start. A run that is not broken off ends with the token of the
end of the text. -/
def scan (report : Reporter σ) (c : Cursor) (s : σ) : Run σ :=
  let run := c.rewind.follow report s (Segment.split c.source)
  if run.complete then { run with cursor := run.cursor.finish } else run

end Cursor

end LoxScan
