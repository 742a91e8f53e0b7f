import LoxScan.Scan
import LoxScan.Proofs.Run
import LoxScan.Proofs.Numeral

/-! The cursor moved one character at a time. A walk looks at the character under the cursor and the
one behind it, moves over single characters and jumps behind comments; it may look for characters
behind the end of the text, move on behind it, or hand a text to the reader of numbers that is no
number. None of this happens: each walk over one segment ends as the step of the cursor does, and a
walk over a text as its scan does. -/

namespace LoxScan

open Text

/-- Why a walk stops before its end: it found a fault, wanted a character that is not there or moved
on behind the end of the text, or had a text with no number or no single code point in it. -/
inductive Mishap where
  | fault (f : Fault)
  | outside
  | noNumber (cs : List Char)
  | noCodePoint (length : Nat)

/-- A walk that stopped, and where. -/
structure Stop where
  mishap : Mishap
  cursor : Cursor

abbrev Walk := Except Stop

namespace Cursor

/-- The character under the cursor. At the end of the text there is none, and the null character
stands in its place. -/
def look (c : Cursor) : Char := c.peek?.getD '\x00'

/-- The character behind the one under the cursor. -/
def lookNext (c : Cursor) : Char := c.peekNext?.getD '\x00'

def moveBy (n : Nat) (c : Cursor) : Cursor := { c with current := c.current + n }

/-- Moves over the character under the cursor to the line that `line` tells. -/
def pass (line : Cursor → Int) (c : Cursor) : Cursor :=
  { c with line := line c, current := c.current + 1 }

/-- The line behind the character under the cursor. -/
def lineBehind (c : Cursor) : Int := if c.look = '\n' then c.line + 1 else c.line

/-- The cursor at the start of a segment. -/
def begin (c : Cursor) : Cursor := { c with start := c.current }

/-- The characters from the start of the segment up to the cursor. -/
def covered (c : Cursor) : List Char := (c.source.drop c.start).take (c.current - c.start)

/-- The characters between the quotes of the string behind which the cursor stands. -/
def quoted (c : Cursor) : List Char :=
  (c.source.drop (c.start + 1)).take (c.current - 1 - (c.start + 1))

def keepToken (kind : Kind) (literal : Option Literal) (line : Int) (c : Cursor) : Cursor :=
  { c with tokens := c.tokens.push ⟨kind, String.ofList c.covered, literal, line⟩ }

end Cursor

namespace Walk

/-- Moves over the character under the cursor, whatever it is. -/
def take (c : Cursor) : Walk (Char × Cursor) :=
  match c.advance? with
  | some found => pure found
  | none => throw ⟨.outside, c⟩

/-- Moves over the character under the cursor if it is `expected`; the end of the text is asked for
first. -/
def takeIf (expected : Char) (c : Cursor) : Walk (Bool × Cursor) :=
  if c.atEnd then pure (false, c)
  else match c.peek? with
    | some x => pure (if x = expected then (true, c.moveBy 1) else (false, c))
    | none => throw ⟨.outside, c⟩

/-- Moves over one character after the other, as long as `goOn` says so. -/
def whilst (goOn : Cursor → Bool) (line : Cursor → Int) (c : Cursor) : Walk Cursor :=
  if goOn c then
    if c.atEnd then throw ⟨.outside, c⟩ else whilst goOn line (c.pass line)
  else pure c
termination_by c.source.length - c.current
decreasing_by
  have more : ¬ c.source.length ≤ c.current := by simpa [Cursor.atEnd] using ‹¬ c.atEnd = true›
  simp only [Cursor.pass]
  omega

/-- Digits, or digits, a point and digits. -/
def isPlainNumber (cs : List Char) : Bool :=
  let whole := cs.takeWhile Segment.isDigit
  match cs.dropWhile Segment.isDigit with
  | [] => !whole.isEmpty
  | '.' :: part => !whole.isEmpty && !part.isEmpty && part.all Segment.isDigit
  | _ => false

/-- The number of a literal. Any other text than that of a literal is refused. -/
def readNumber (c : Cursor) : Walk Double :=
  match isPlainNumber c.covered, Double.read? (String.ofList c.covered) with
  | true, some x => pure x
  | _, _ => throw ⟨.noNumber c.covered, c⟩

/-- Moves over digits, and over a point and more digits if a digit stands behind the point. -/
def numeral (c : Cursor) : Walk Cursor := do
  let digits := whilst (fun c => Segment.isDigit c.look) (·.line)
  let c ← digits c
  if c.look = '.' && Segment.isDigit c.lookNext then digits (c.moveBy 1) else pure c

def number (c : Cursor) : Walk Cursor := do
  let c ← numeral c
  let x ← readNumber c
  return c.keepToken .number (some (.number x)) c.line

def word (c : Cursor) : Walk Cursor := do
  let c ← whilst (fun c => Segment.isWordPart c.look) (·.line) c
  return c.keepToken (Kind.ofWord (String.ofList c.covered)) none c.line

/-- The string behind its opening quote. Its token is on the line where it starts. -/
def string (c : Cursor) : Walk Cursor := do
  let opened := c.line
  let c ← whilst (fun c => c.look ≠ '"' && !c.atEnd) (·.lineBehind) c
  if c.atEnd then throw ⟨.fault (.openString ⟨c.filename, c.line⟩), c⟩
  else
    let c := c.moveBy 1
    return c.keepToken .string (some (.text (String.ofList c.quoted))) opened

def lineComment (c : Cursor) : Walk Cursor :=
  whilst (fun c => c.look ≠ '\n' && !c.atEnd) (·.line) c

/-- The comment behind its opening. The cursor jumps behind the close, and the line feeds on the way
are counted. -/
def blockComment (c : Cursor) : Walk Cursor :=
  match Segment.afterClose? c.rest with
  | none => throw ⟨.fault (.openComment ⟨c.filename, c.line⟩),
      { c with line := c.line + lineFeeds c.rest, current := c.source.length }⟩
  | some after =>
    let close := c.source.length - after.length - 2
    let body := (c.source.drop c.current).take (close - c.current)
    pure { c with line := c.line + lineFeeds body, current := close + 2 }

/-- What begins with a slash: a comment or the slash itself. -/
def slash (c : Cursor) : Walk Cursor := do
  let (line, c) ← takeIf '/' c
  if line then lineComment c
  else
    let (block, c) ← takeIf '*' c
    if block then blockComment c else return c.keepToken .slash none c.line

/-- The first character of a segment decides how to go on behind it. -/
def dispatch (x : Char) (c : Cursor) : Walk Cursor := do
  match Kind.ofMark? x, Kind.ofPaired? x with
  | some kind, _ => return c.keepToken kind none c.line
  | none, some (paired, single) =>
    let (both, c) ← takeIf '=' c
    return c.keepToken (if both then paired else single) none c.line
  | none, none =>
    if x = '/' then slash c
    else if Segment.isSpace x then return c
    else if x = '\n' then return { c with line := c.line + 1 }
    else if x = '"' then string c
    else if Segment.isDigit x then number c
    else if isLetter x then word c
    else match Fault.strayText [x] ⟨c.filename, c.line⟩ with
      | .ok f => throw ⟨.fault f, c⟩
      | .error length => throw ⟨.noCodePoint length, c⟩

def segment (c : Cursor) : Walk Cursor := do
  let (x, c) ← take c
  dispatch x c

variable {σ : Type}

/-- One segment; a fault is kept and told to the reporter. -/
def step (report : Reporter σ) (c : Cursor) (s : σ) : Walk (Cursor.Run σ) :=
  tryCatch ((segment c.begin).map fun c => ⟨c, s, true⟩) fun stop =>
    match stop.mishap with
    | .fault f =>
      let c := { stop.cursor with faults := stop.cursor.faults.push f }
      let (s, goOn) := report s c f
      pure ⟨c, s, goOn⟩
    | _ => throw stop

end Walk

namespace Cursor

/-! ### Where the cursor stands -/

@[simp] theorem rest_begin (c : Cursor) : c.begin.rest = c.rest := rfl

@[simp] theorem rest_moveBy (n : Nat) (c : Cursor) : (c.moveBy n).rest = c.rest.drop n := by
  rw [rest, rest, List.drop_drop]
  rfl

theorem rest_moveBy_one (c : Cursor) : (c.moveBy 1).rest = c.rest.tail :=
  (rest_moveBy 1 c).trans List.drop_one

theorem moveBy_moveBy (m n : Nat) (c : Cursor) : (c.moveBy m).moveBy n = c.moveBy (m + n) := by
  simp [moveBy, Nat.add_assoc]

theorem peek?_eq (c : Cursor) : c.peek? = c.rest.head? := by
  rw [peek?, rest, List.head?_drop]

theorem look_eq (c : Cursor) : c.look = c.rest.head?.getD '\x00' := by
  rw [look, peek?_eq]

theorem lookNext_eq (c : Cursor) : c.lookNext = c.rest.tail.head?.getD '\x00' := by
  rw [lookNext, peekNext?, rest, List.tail_drop, List.head?_drop]

end Cursor

namespace Walk

theorem take_eq {c : Cursor} {x : Char} {r : List Char} (h : c.rest = x :: r) :
    take c = pure (x, c.moveBy 1) := by
  rw [take, Cursor.advance?, Cursor.peek?_eq, h]
  rfl

theorem takeIf_eq (expected : Char) (c : Cursor) :
    takeIf expected c =
      pure (if c.rest.head? = some expected then (true, c.moveBy 1) else (false, c)) := by
  cases h : c.rest with
  | nil => rw [takeIf, (Cursor.atEnd_iff c).mpr h]; rfl
  | cons x r =>
    rw [takeIf, Cursor.atEnd_of_cons h, Cursor.peek?_eq, h]
    simp

theorem rest_pass (line : Cursor → Int) (c : Cursor) : (c.pass line).rest = c.rest.tail :=
  Cursor.rest_moveBy_one c

/-- The cursor moves on over the characters of which `p` holds. -/
theorem whilst_eq {goOn : Cursor → Bool} {p : Char → Bool}
    (test : ∀ c x r, c.rest = x :: r → goOn c = p x) (stop : ∀ c, c.rest = [] → goOn c = false)
    (line : Cursor → Int) (c : Cursor) :
    whilst goOn line c = pure ((Cursor.pass line)^[(c.rest.takeWhile p).length] c) := by
  induction h : c.rest generalizing c with
  | nil => rw [whilst, stop c h]; rfl
  | cons x r ih =>
    have below : (c.pass line).rest = r := by rw [rest_pass, h]; rfl
    rw [whilst, test c x r h]
    cases hp : p x with
    | false => simp [hp]
    | true => simp [hp, ih (c.pass line) below, Cursor.atEnd_of_cons h]

theorem iterate_pass_line (n : Nat) (c : Cursor) : (Cursor.pass (·.line))^[n] c = c.moveBy n := by
  induction n generalizing c with
  | zero => rfl
  | succ n ih =>
    have one : c.pass (·.line) = c.moveBy 1 := rfl
    rw [Function.iterate_succ_apply, ih, one, Cursor.moveBy_moveBy, Nat.add_comm]

/-- Moving on as long as `p` holds of the next character. At the end of the text the null character
stands in its place, so `p` must not hold of that. -/
theorem whilst_look {p : Char → Bool} (null : p '\x00' = false) (c : Cursor) :
    whilst (fun c => p c.look) (·.line) c = pure (c.moveBy (c.rest.takeWhile p).length) := by
  rw [← iterate_pass_line]
  refine whilst_eq (fun c x r h => ?_) (fun c h => ?_) _ c
  · rw [Cursor.look_eq, h]; rfl
  · rw [Cursor.look_eq, h]; exact null

end Walk

/-- The cursor behind a segment, before anything is kept. -/
def Cursor.behind (c : Cursor) (s : Segment) : Cursor :=
  { c with
    start := c.current
    current := c.current + s.text.length
    line := c.line + s.lineFeeds }

namespace Walk

/-- How a walk over a segment ends: its fault is raised, or its token is kept. -/
def ending (c : Cursor) (s : Segment) : Walk Cursor :=
  match s.fault? c.filename c.line with
  | some f => throw ⟨.fault f, c.behind s⟩
  | none => pure (c.consume s)

variable {c : Cursor} {x : Char} {r : List Char}

theorem behind_eq_moveBy {s : Segment} (flat : '\n' ∉ s.text) :
    c.behind s = c.begin.moveBy s.text.length := by
  have feeds : s.lineFeeds = 0 := List.count_eq_zero.mpr flat
  simp [Cursor.behind, Cursor.begin, Cursor.moveBy, feeds]

theorem covered_behind {s : Segment} (stands : s.text <+: c.rest) :
    (c.behind s).covered = s.text := by
  have length : c.current + s.text.length - c.current = s.text.length := Nat.add_sub_cancel_left ..
  rw [Cursor.covered]
  simp only [Cursor.behind, length]
  exact (List.prefix_iff_eq_take.mp stands).symm

theorem fault?_of_meaning? {s : Segment} {meaning : Kind × Option Literal}
    (h : s.meaning? = some meaning) (filename : String) (line : Int) :
    s.fault? filename line = none := by
  obtain ⟨form, c, tail⟩ := s
  cases form <;> first | rfl | cases h

/-- A walk that keeps the token of the segment behind which it stands. -/
theorem pure_keepToken {s : Segment} {kind : Kind} {literal : Option Literal}
    (stands : s.text <+: c.rest) (meaning : s.meaning? = some (kind, literal)) :
    pure ((c.behind s).keepToken kind literal c.line) = ending c s := by
  have sound : s.fault? c.filename c.line = none := fault?_of_meaning? meaning _ _
  have token : s.token? c.line = some ⟨kind, String.ofList s.text, literal, c.line⟩ := by
    rw [Segment.token?, meaning]
    rfl
  rw [ending, sound, Cursor.keepToken, covered_behind stands, Cursor.consume, token, sound]
  rfl

/-- A segment that is no line feed and has no body holds no line feed. -/
theorem flat_of_leads {s : Segment} {rest : List Char} (leads : s.Leads rest)
    (plain : s.form.hasBody = false) (other : s.form ≠ .lineFeed) : '\n' ∉ s.text := by
  have word : Segment.isWordPart '\n' = false := by decide +kernel
  have tail := leads.not_mem_tail (x := '\n') plain rfl word (by decide)
  have head : s.head ≠ '\n' := by
    intro head
    have first := leads.first_eq
    rw [head] at first
    exact other (congrArg Segment.form first.symm)
  rw [Segment.text, List.mem_cons, not_or]
  exact ⟨head.symm, tail⟩

theorem moveBy_tail {s : Segment} (flat : '\n' ∉ s.text) (n : Nat) (length : s.tail.length = n) :
    (c.begin.moveBy 1).moveBy n = c.behind s := by
  rw [behind_eq_moveBy flat, Cursor.moveBy_moveBy, ← length, Nat.add_comm]
  rfl

theorem line_behind {s : Segment} (flat : '\n' ∉ s.text) : (c.behind s).line = c.line := by
  rw [behind_eq_moveBy flat]
  rfl

/-! ### Words and numbers -/

variable {s : Segment} {rest : List Char}

theorem rest_behind_head (h : c.rest = x :: r) : (c.begin.moveBy 1).rest = r := by
  rw [Cursor.rest_moveBy_one, Cursor.rest_begin, h]
  rfl

theorem rest_behind (h : c.rest = s.text ++ rest) : (c.behind s).rest = rest := by
  rw [Cursor.rest, Cursor.behind, ← List.drop_drop]
  exact (congrArg (List.drop s.text.length) h).trans List.drop_left

theorem word_eq (leads : s.Leads rest) (form : s.form = .word) (h : c.rest = s.text ++ rest) :
    word (c.begin.moveBy 1) = ending c s := by
  have null : Segment.isWordPart '\x00' = false := by decide +kernel
  have below : (c.begin.moveBy 1).rest = s.tail ++ rest := rest_behind_head h
  have flat := flat_of_leads leads (by rw [form]; rfl) (by rw [form]; nofun)
  cases leads with
  | @word x run _ letter inside stop =>
    rw [word, whilst_look null, below, Segment.takeWhile_run inside stop, pure_bind,
      moveBy_tail flat _ rfl, covered_behind ⟨rest, h.symm⟩, line_behind flat]
    exact pure_keepToken ⟨rest, h.symm⟩ rfl
  | _ => cases form

theorem isPlainNumber_of_leads (leads : s.Leads rest)
    (number : s.form = .number) : isPlainNumber s.text = true := by
  have point : Segment.isDigit '.' = false := rfl
  cases leads with
  | @whole c run _ digit inside =>
    have all : ∀ y ∈ c :: run, Segment.isDigit y = true := List.forall_mem_cons.mpr ⟨digit, inside⟩
    rw [Segment.text, isPlainNumber, List.takeWhile_eq_self_iff.mpr all,
      List.dropWhile_eq_nil_iff.mpr all]
    rfl
  | @fraction c run d part _ digit inside digit' inside' =>
    have all : ∀ y ∈ c :: run, Segment.isDigit y = true := List.forall_mem_cons.mpr ⟨digit, inside⟩
    have stop : ∀ y ∈ ('.' :: d :: part).head?, Segment.isDigit y = false := by
      intro y hy
      obtain rfl : '.' = y := Option.some.inj hy
      exact point
    have whole := Segment.takeWhile_run all stop
    have after := Segment.dropWhile_run all stop
    have digits : (d :: part).all Segment.isDigit = true :=
      List.all_eq_true.mpr (List.forall_mem_cons.mpr ⟨digit', inside'⟩)
    rw [Segment.text, ← List.cons_append, isPlainNumber, whole, after]
    simpa using digits
  | _ => cases number

theorem readNumber_behind (leads : s.Leads rest)
    (number : s.form = .number) (stands : s.text <+: c.rest) :
    readNumber (c.behind s) = pure ((Decimal.ofNumeral s.text).toDouble false) := by
  have value := (Numeral.of_leads leads number).read?_eq
  rw [readNumber, covered_behind stands, isPlainNumber_of_leads leads number, value]

theorem point_test (c : Cursor) : (c.look = '.' && Segment.isDigit c.lookNext) = true ↔
    ∃ d r, c.rest = '.' :: d :: r ∧ Segment.isDigit d = true := by
  rw [Cursor.look_eq, Cursor.lookNext_eq]
  rcases c.rest with _ | ⟨y, _ | ⟨z, r⟩⟩
  · simp
  · have null : Segment.isDigit '\x00' = false := rfl
    simp [null]
  · rw [Bool.and_eq_true]
    constructor
    · intro ⟨point, digit⟩
      obtain rfl : y = '.' := of_decide_eq_true point
      exact ⟨z, r, rfl, digit⟩
    · rintro ⟨d, r, ⟨⟩, digit⟩
      exact ⟨decide_eq_true rfl, digit⟩

theorem numeral_eq (leads : s.Leads rest) (number : s.form = .number) (flat : '\n' ∉ s.text)
    (h : c.rest = s.text ++ rest) : numeral (c.begin.moveBy 1) = pure (c.behind s) := by
  have null : Segment.isDigit '\x00' = false := rfl
  have below : (c.begin.moveBy 1).rest = s.tail ++ rest := rest_behind_head h
  cases leads with
  | @whole x run _ digit inside stop point =>
    have whole : (c.begin.moveBy 1).rest.takeWhile Segment.isDigit = run := by
      rw [below, Segment.takeWhile_run inside stop]
    have after : (c.behind ⟨.number, x, run⟩).rest = rest := rest_behind h
    have no : ¬ ((c.behind ⟨.number, x, run⟩).look = '.' &&
        Segment.isDigit (c.behind ⟨.number, x, run⟩).lookNext) = true := by
      rw [point_test, after]
      rintro ⟨d, r, rfl, hd⟩
      rw [point d r rfl] at hd
      cases hd
    simp only [numeral, whilst_look null, whole, pure_bind, moveBy_tail flat run.length rfl,
      if_neg no]
  | @fraction x run d part _ digit inside digit' inside' stop =>
    have parts : (run ++ '.' :: d :: part) ++ rest = run ++ '.' :: d :: (part ++ rest) := by simp
    have whole : (c.begin.moveBy 1).rest.takeWhile Segment.isDigit = run := by
      rw [below, parts, Segment.takeWhile_run inside]
      intro y hy
      obtain rfl : '.' = y := Option.some.inj hy
      rfl
    have point : ((c.begin.moveBy 1).moveBy run.length).rest = '.' :: d :: (part ++ rest) := by
      rw [Cursor.rest_moveBy, below, parts, List.drop_left]
    have yes := (point_test _).mpr ⟨d, _, point, digit'⟩
    have behind : (((c.begin.moveBy 1).moveBy run.length).moveBy 1).rest =
        (d :: part) ++ rest := by
      rw [Cursor.rest_moveBy, point]
      rfl
    have all : ∀ y ∈ d :: part, Segment.isDigit y = true :=
      List.forall_mem_cons.mpr ⟨digit', inside'⟩
    have reach : (((c.begin.moveBy 1).moveBy run.length).moveBy 1).moveBy (d :: part).length =
        c.behind ⟨.number, x, run ++ '.' :: d :: part⟩ := by
      rw [Cursor.moveBy_moveBy, Cursor.moveBy_moveBy]
      refine moveBy_tail flat _ ?_
      simp only [List.length_append, List.length_cons]
      omega
    simp only [numeral, whilst_look null, whole, pure_bind, if_pos yes, behind,
      Segment.takeWhile_run all stop, reach]
  | _ => cases number

theorem number_eq (leads : s.Leads rest) (form : s.form = .number) (h : c.rest = s.text ++ rest) :
    number (c.begin.moveBy 1) = ending c s := by
  have stands : s.text <+: c.rest := ⟨rest, h.symm⟩
  have flat := flat_of_leads leads (by rw [form]; rfl) (by rw [form]; nofun)
  have meaning : s.meaning? =
      some (.number, some (.number ((Decimal.ofNumeral s.text).toDouble false))) := by
    rw [Segment.meaning?, form]
  rw [number, numeral_eq leads form flat h, pure_bind, readNumber_behind leads form stands,
    pure_bind, line_behind flat]
  exact pure_keepToken stands meaning

/-! ### Comments and strings -/

/-- Moving on up to a character `stop` or the end of the text. -/
theorem whilst_before (stop : Char) (line : Cursor → Int) (c : Cursor) :
    whilst (fun c => c.look ≠ stop && !c.atEnd) line c =
      pure ((Cursor.pass line)^[(c.rest.takeWhile (· != stop)).length] c) := by
  refine whilst_eq (fun c x r h => ?_) (fun c h => ?_) line c
  · have look : c.look = x := by rw [Cursor.look_eq, h]; rfl
    rw [Cursor.atEnd_of_cons h, Bool.not_false, Bool.and_true, look]
    exact decide_not
  · rw [(Cursor.atEnd_iff c).mpr h, Bool.not_true, Bool.and_false]

theorem iterate_pass_lineBehind {run : List Char} (h : c.rest = run ++ rest) :
    (Cursor.pass (·.lineBehind))^[run.length] c =
      { c with line := c.line + lineFeeds run, current := c.current + run.length } := by
  induction run generalizing c with
  | nil => simp [lineFeeds]
  | cons x run ih =>
    have below : (c.pass (·.lineBehind)).rest = run ++ rest := by rw [rest_pass, h]; rfl
    have look : c.look = x := by rw [Cursor.look_eq, h]; rfl
    rw [List.length_cons, Function.iterate_succ_apply, ih below, Cursor.pass, Cursor.lineBehind,
      look]
    by_cases feed : x = '\n'
    · simp [lineFeeds, feed]; omega
    · simp [lineFeeds, feed]; omega

theorem lineComment_eq {body : List Char} (inside : '\n' ∉ body)
    (stop : ∀ x ∈ rest.head?, x = '\n')
    (h : c.rest = Segment.text ⟨.lineComment, '/', '/' :: body⟩ ++ rest) :
    lineComment (c.begin.moveBy 2) = ending c ⟨.lineComment, '/', '/' :: body⟩ := by
  have flat : '\n' ∉ Segment.text ⟨.lineComment, '/', '/' :: body⟩ := by simp [Segment.text, inside]
  have below : (c.begin.moveBy 2).rest.takeWhile (· != '\n') = body := by
    rw [Cursor.rest_moveBy, Cursor.rest_begin, h]
    refine Segment.takeWhile_run (Segment.forall_bne inside) fun x hx => ?_
    rw [stop x hx]
    rfl
  have behind : (c.begin.moveBy 2).moveBy body.length =
      c.behind ⟨.lineComment, '/', '/' :: body⟩ := by
    rw [behind_eq_moveBy flat, Cursor.moveBy_moveBy, Nat.add_comm]
    rfl
  rw [lineComment, whilst_before, below, iterate_pass_line, behind]
  rfl

/-- Whatever follows the characters of a string, the cursor comes behind them as if the string were
not closed. -/
theorem whilst_string {body : List Char} (inside : '"' ∉ body)
    (stop : ∀ x ∈ rest.head?, (x != '"') = false) (h : c.rest = '"' :: (body ++ rest)) :
    whilst (fun c => c.look ≠ '"' && !c.atEnd) (·.lineBehind) (c.begin.moveBy 1) =
      pure (c.behind ⟨.openString, '"', body⟩) := by
  have below := rest_behind_head h
  have feeds : Segment.lineFeeds ⟨.openString, '"', body⟩ = lineFeeds body :=
    show List.count '\n' ('"' :: body) = _ from List.count_cons_of_ne (by decide)
  have length : c.current + (body.length + 1) = c.current + 1 + body.length := by omega
  rw [whilst_before, below, Segment.takeWhile_run (Segment.forall_bne inside) stop,
    iterate_pass_lineBehind below, Cursor.behind, feeds, Segment.text, List.length_cons, length]
  rfl

theorem quoted_behind (stands : s.text <+: c.rest) :
    (c.behind s).quoted = s.tail.dropLast := by
  obtain ⟨rest, text⟩ := stands
  have drop : c.source.drop (c.current + 1) = s.tail ++ rest := by
    rw [← List.drop_drop]
    exact congrArg (List.drop 1) text.symm
  have length : c.current + s.text.length - 1 - (c.current + 1) = s.tail.length - 1 := by
    rw [Segment.text, List.length_cons]
    omega
  simp only [Cursor.quoted, Cursor.behind, drop, length]
  rw [List.take_append_of_le_length (Nat.sub_le _ 1), List.dropLast_eq_take]

theorem string_eq {body : List Char} (inside : '"' ∉ body)
    (h : c.rest = Segment.text ⟨.string, '"', body ++ ['"']⟩ ++ rest) :
    string (c.begin.moveBy 1) = ending c ⟨.string, '"', body ++ ['"']⟩ := by
  have stands : Segment.text ⟨.string, '"', body ++ ['"']⟩ <+: c.rest := ⟨rest, h.symm⟩
  have text : c.rest = '"' :: (body ++ '"' :: rest) := by rw [h]; simp [Segment.text]
  have more : (c.behind ⟨.openString, '"', body⟩).atEnd = false := by
    refine Cursor.atEnd_of_cons (x := '"') (r := rest) (rest_behind ?_)
    rw [text]
    rfl
  have behind : (c.behind ⟨.openString, '"', body⟩).moveBy 1 =
      c.behind ⟨.string, '"', body ++ ['"']⟩ := by
    simp [Cursor.behind, Cursor.moveBy, Segment.text, Segment.lineFeeds, lineFeeds, Nat.add_assoc]
  rw [string, whilst_string inside (by simp) text, pure_bind, more]
  simp only [Bool.false_eq_true, if_false, behind, quoted_behind stands]
  exact pure_keepToken stands rfl

theorem openString_eq {body : List Char} (inside : '"' ∉ body)
    (h : c.rest = Segment.text ⟨.openString, '"', body⟩) :
    string (c.begin.moveBy 1) = ending c ⟨.openString, '"', body⟩ := by
  have text : c.rest = '"' :: (body ++ []) := by rw [h, List.append_nil]; rfl
  have done : (c.behind ⟨.openString, '"', body⟩).atEnd = true :=
    (Cursor.atEnd_iff _).mpr (rest_behind (by rw [h, List.append_nil]))
  rw [string, whilst_string inside (by simp) text, pure_bind, done]
  rfl

/-- The jump behind the first close of a text, with the line feeds before it. -/
theorem blockComment_closed {body : List Char} (inside : ¬ ['*', '/'] <:+: body ++ ['*'])
    (h : c.rest = body ++ '*' :: '/' :: rest) :
    blockComment c =
      pure { c with line := c.line + lineFeeds body, current := c.current + body.length + 2 } := by
  have below : c.source.drop c.current = body ++ '*' :: '/' :: rest := h
  -- the close stands two characters before what follows the comment
  have close : c.source.length - rest.length - 2 = c.current + body.length := by
    have total := congrArg List.length below
    simp only [List.length_drop, List.length_append, List.length_cons] at total
    omega
  have reach : c.current + body.length - c.current = body.length := Nat.add_sub_cancel_left ..
  rw [blockComment, h, Segment.afterClose?_append inside rest]
  simp only [close, reach, below, List.take_left]

/-- A comment that never closes is at fault on the line where it starts. -/
theorem blockComment_open (inside : ¬ ['*', '/'] <:+: c.rest) :
    blockComment c = throw ⟨.fault (.openComment ⟨c.filename, c.line⟩),
      { c with line := c.line + lineFeeds c.rest, current := c.source.length }⟩ := by
  rw [blockComment, Segment.afterClose?_eq_none inside]

theorem blockComment_eq {body : List Char} (inside : ¬ ['*', '/'] <:+: body ++ ['*'])
    (h : c.rest = Segment.text ⟨.blockComment, '/', '*' :: (body ++ ['*', '/'])⟩ ++ rest) :
    blockComment (c.begin.moveBy 2) =
      ending c ⟨.blockComment, '/', '*' :: (body ++ ['*', '/'])⟩ := by
  have below : (c.begin.moveBy 2).rest = body ++ '*' :: '/' :: rest := by
    rw [Cursor.rest_moveBy, Cursor.rest_begin, h]
    simp [Segment.text]
  have feeds : Segment.lineFeeds ⟨.blockComment, '/', '*' :: (body ++ ['*', '/'])⟩ =
      lineFeeds body := by
    simp [Segment.lineFeeds, Segment.text, lineFeeds]
  have length :
      c.current + (Segment.text ⟨.blockComment, '/', '*' :: (body ++ ['*', '/'])⟩).length =
        c.current + 2 + body.length + 2 := by
    simp only [Segment.text, List.length_cons, List.length_append, List.length_nil]
    omega
  have kept : blockComment (c.begin.moveBy 2) =
      pure (c.behind ⟨.blockComment, '/', '*' :: (body ++ ['*', '/'])⟩) := by
    rw [blockComment_closed inside below, Cursor.behind, feeds, length]
    rfl
  rw [kept]
  rfl

theorem openComment_eq {body : List Char} (inside : ¬ ['*', '/'] <:+: body)
    (h : c.rest = Segment.text ⟨.openComment, '/', '*' :: body⟩) :
    blockComment (c.begin.moveBy 2) = ending c ⟨.openComment, '/', '*' :: body⟩ := by
  have below : (c.begin.moveBy 2).rest = body := by
    rw [Cursor.rest_moveBy, Cursor.rest_begin, h]
    rfl
  have feeds : Segment.lineFeeds ⟨.openComment, '/', '*' :: body⟩ = lineFeeds body := by
    simp [Segment.lineFeeds, Segment.text, lineFeeds]
  have length : c.source.length =
      c.current + (Segment.text ⟨.openComment, '/', '*' :: body⟩).length := by
    have total := congrArg List.length h
    simp only [Cursor.rest, Segment.text, List.length_drop, List.length_cons] at total ⊢
    omega
  rw [blockComment_open (by rwa [below]), below, ending, Cursor.behind, feeds, ← length]
  rfl

/-! ### Any segment -/

theorem strayText_singleton (x : Char) (location : Location) :
    Fault.strayText [x] location = .ok (Fault.strayCharacter x location) := by
  by_cases printable : isPrintable x = true
  · simp [Fault.strayText, Fault.strayCharacter, printable]
  · simp [Fault.strayText, printable]

theorem symbol_eq {kind : Kind} (leads : s.Leads rest) (form : s.form = .symbol kind)
    (h : c.rest = s.text ++ rest) (n : Nat) (length : s.text.length = n) :
    pure ((c.begin.moveBy n).keepToken kind none (c.begin.moveBy n).line) = ending c s := by
  have flat := flat_of_leads leads (by rw [form]; rfl) (by rw [form]; nofun)
  have meaning : s.meaning? = some (kind, none) := by rw [Segment.meaning?, form]
  rw [← length, ← behind_eq_moveBy flat, line_behind flat]
  exact pure_keepToken ⟨rest, h.symm⟩ meaning

theorem slash_eq (h : c.rest = '/' :: r) :
    slash (c.begin.moveBy 1) = ending c (Segment.first '/' r) := by
  have below := rest_behind_head h
  have two : (c.begin.moveBy 1).moveBy 1 = c.begin.moveBy 2 := Cursor.moveBy_moveBy 1 1 _
  rw [slash, takeIf_eq, below]
  by_cases line : r.head? = some '/'
  · obtain ⟨r', rfl⟩ : ∃ r', r = '/' :: r' := List.head?_eq_some_iff.mp line
    obtain ⟨body, rest, rfl, inside, stop⟩ := Segment.run_cases (· != '\n') r'
    have flat : '\n' ∉ body := Segment.not_mem_of_forall inside rfl
    have feed : ∀ x ∈ rest.head?, x = '\n' := fun x hx => by simpa using stop x hx
    have first := (Segment.Leads.lineComment flat feed).first_eq
    rw [if_pos line, pure_bind, two]
    exact (lineComment_eq flat feed h).trans (congrArg _ first.symm)
  rw [if_neg line, pure_bind]
  simp only [Bool.false_eq_true, if_false, takeIf_eq, below, two]
  by_cases block : r.head? = some '*'
  · obtain ⟨r', rfl⟩ : ∃ r', r = '*' :: r' := List.head?_eq_some_iff.mp block
    rw [if_pos block, pure_bind]
    rcases Segment.close_cases r' with ⟨body, rest, rfl, inside⟩ | inside
    · have first := (@Segment.Leads.blockComment body rest inside).first_eq
      have same : '*' :: (body ++ '*' :: '/' :: rest) = '*' :: (body ++ ['*', '/']) ++ rest := by
        simp
      rw [same] at h ⊢
      rw [first]
      exact blockComment_eq inside h
    · have first := (Segment.Leads.openComment inside).first_eq
      rw [List.append_nil] at first
      exact (openComment_eq inside h).trans (congrArg _ first.symm)
  · have leads := @Segment.Leads.slash r ⟨line, block⟩
    rw [if_neg block, pure_bind, show Segment.first '/' r = _ from leads.first_eq]
    exact symbol_eq leads rfl h 1 rfl

theorem quote_eq (h : c.rest = '"' :: r) :
    string (c.begin.moveBy 1) = ending c (Segment.first '"' r) := by
  by_cases closes : '"' ∈ r
  · obtain ⟨body, rest, rfl, inside⟩ := List.eq_append_cons_of_mem closes
    have same : body ++ '"' :: rest = (body ++ ['"']) ++ rest := by simp
    rw [same] at h ⊢
    exact (string_eq inside h).trans (congrArg _ (Segment.Leads.string inside).first_eq.symm)
  · have first := (Segment.Leads.openString closes).first_eq
    rw [List.append_nil] at first
    exact (openString_eq closes h).trans (congrArg _ first.symm)

theorem segment_eq (h : c.rest = x :: r) : segment c.begin = ending c (Segment.first x r) := by
  have leads := Segment.leads_first x r
  have text : c.rest = (Segment.first x r).text ++ r.drop (Segment.first x r).tail.length := by
    rw [h, Segment.text_first_append]
  have below := rest_behind_head h
  have taken : take c.begin = pure (x, c.begin.moveBy 1) := take_eq h
  rw [segment, taken, pure_bind]
  dsimp only
  rw [dispatch]
  cases mark : Kind.ofMark? x with
  | some kind =>
    rw [Segment.first_of_ofMark? mark] at leads text ⊢
    exact symbol_eq leads rfl text 1 rfl
  | none =>
  cases pair : Kind.ofPaired? x with
  | some kinds =>
    obtain ⟨paired, single⟩ := kinds
    dsimp only
    rw [takeIf_eq, below, pure_bind]
    rw [Segment.first_of_ofPaired? pair] at leads text ⊢
    by_cases both : r.head? = some '='
    · simp only [if_pos both] at leads text ⊢
      exact symbol_eq leads rfl text 2 rfl
    · simp only [if_neg both] at leads text ⊢
      exact symbol_eq leads rfl text 1 rfl
  | none =>
  dsimp only
  split
  · next slash => exact slash ▸ slash_eq (slash ▸ h)
  split
  · next space =>
    rw [Segment.first_of_isSpace space] at leads ⊢
    exact congrArg pure (behind_eq_moveBy (flat_of_leads leads rfl nofun)).symm
  split
  · next feed =>
    subst feed
    rfl
  split
  · next quote => exact quote ▸ quote_eq (quote ▸ h)
  split
  · next digit => exact number_eq leads (by rw [Segment.first_of_isDigit digit]) text
  split
  · next letter => exact word_eq leads (by rw [Segment.first_of_isLetter letter]) text
  · next slash space feed quote digit letter =>
    have strange : Segment.Strange x :=
      ⟨mark, pair, slash, Bool.eq_false_iff.mpr space, feed, quote, Bool.eq_false_iff.mpr digit,
        Bool.eq_false_iff.mpr letter⟩
    rw [Segment.first_of_strange strange] at leads ⊢
    have flat := flat_of_leads leads rfl nofun
    have behind : c.begin.moveBy 1 = c.behind ⟨.stray, x, []⟩ := (behind_eq_moveBy flat).symm
    rw [strayText_singleton, behind]
    dsimp only
    rw [line_behind flat]
    rfl

/-! ### Runs -/

theorem consume_of_fault {s : Segment} {f : Fault} (fault : s.fault? c.filename c.line = some f) :
    c.consume s = { c.behind s with faults := c.faults.push f } := by
  have token : s.token? c.line = none := by
    cases meaning : s.meaning? with
    | none => rw [Segment.token?, meaning]; rfl
    | some m => cases fault.symm.trans (fault?_of_meaning? meaning _ _)
  rw [Cursor.consume, token, fault]
  rfl

variable {σ : Type} (report : Reporter σ)

/-- One turn of a walk is one step of the cursor; at the end of the text there is no character to
begin with. -/
theorem step_eq (c : Cursor) (s : σ) :
    step report c s = (c.step report s).mapError (⟨.outside, ·⟩) := by
  cases h : c.rest with
  | nil =>
    have none : c.begin.peek? = none := by rw [Cursor.peek?_eq, Cursor.rest_begin, h]; rfl
    rw [step, segment, take, Cursor.advance?, none, Cursor.step, h]
    rfl
  | cons x r =>
  rw [Cursor.step_of_cons report s h, step, segment_eq h, ending]
  cases fault : (Segment.first x r).fault? c.filename c.line with
  | none =>
    rw [Cursor.follow_cons_of_sound _ _ _ fault]
    rfl
  | some f =>
    rw [Cursor.follow_cons_of_fault _ _ _ fault, consume_of_fault fault]
    have answer : ∀ (d : Cursor) (a : σ × Bool),
        (match a with | (s, goOn) => pure ⟨d, s, goOn⟩ : Walk (Cursor.Run σ)) =
          pure (if a.2 then d.follow report a.1 [] else ⟨d, a.1, false⟩) := by
      rintro d ⟨s, _ | _⟩ <;> rfl
    exact answer _ (report s _ f)

theorem step_eq_ok_iff {report : Reporter σ} {c : Cursor} {s : σ} {run : Cursor.Run σ} :
    step report c s = .ok run ↔ c.step report s = .ok run := by
  rw [step_eq]
  cases c.step report s <;> simp [Except.mapError]

/-- One segment after the other, up to the end of the text. -/
def onward (c : Cursor) (s : σ) : Walk (Cursor.Run σ) :=
  if c.atEnd then pure ⟨c, s, true⟩
  else match _ : step report c s with
    | .error stop => throw stop
    | .ok run => if run.complete then onward run.cursor run.state else pure run
termination_by c.rest.length
decreasing_by exact Cursor.length_rest_lt_of_step (step_eq_ok_iff.mp ‹_›)

/-- A whole text from its start. -/
def scan (c : Cursor) (s : σ) : Walk (Cursor.Run σ) := do
  let run ← onward report c.rewind s
  return if run.complete then { run with cursor := run.cursor.finish } else run

theorem onward_of_step {report : Reporter σ} {c : Cursor} {s : σ} {run : Cursor.Run σ}
    (stepped : c.step report s = .ok run) : onward report c s =
      if run.complete then onward report run.cursor run.state else pure run := by
  have walked := step_eq_ok_iff.mpr stepped
  rw [onward, Cursor.atEnd_of_step stepped, if_neg Bool.false_ne_true]
  split
  · next other => cases walked.symm.trans other
  · next other =>
    cases walked.symm.trans other
    rfl

theorem onward_eq (c : Cursor) (s : σ) : onward report c s = .ok (c.onward report s) := by
  fun_induction Cursor.onward report c s with
  | case1 c s d stopped =>
    have done : c.atEnd = true := by
      cases h : c.rest with
      | nil => exact (Cursor.atEnd_iff c).mpr h
      | cons x r => cases stopped.symm.trans (Cursor.step_of_cons report s h)
    rw [onward, if_pos done]
    rfl
  | case2 c s run stepped complete ih => rw [onward_of_step stepped, if_pos complete, ih]
  | case3 c s run stepped broken => rw [onward_of_step stepped, if_neg broken]; rfl

theorem scan_eq (c : Cursor) (s : σ) : scan report c s = .ok (c.scan report s) := by
  rw [scan, onward_eq, Cursor.onward_eq]
  rfl

end Walk

/-! ### How far a run comes, and how much it finds -/

namespace Segment

theorem size_le (filename : String) (line : Int) (segments : List Segment) :
    (tokens line segments).length + (faults filename line segments).length ≤ segments.length := by
  induction segments generalizing line with
  | nil => exact Nat.le_refl 0
  | cons s segments ih =>
    have rest := ih (line + s.lineFeeds)
    -- no segment makes both a token and a fault
    have one : (s.token? line).toList.length + (s.fault? filename line).toList.length ≤ 1 := by
      cases meaning : s.meaning? with
      | none =>
        rw [token?, meaning]
        cases s.fault? filename line <;> simp
      | some m =>
        rw [Walk.fault?_of_meaning? meaning, token?, meaning]
        simp
    rw [tokens_cons, faults_cons, List.length_append, List.length_append, List.length_cons]
    omega

theorem length_le_length_flatMap (segments : List Segment) :
    segments.length ≤ (segments.flatMap text).length := by
  induction segments with
  | nil => exact Nat.le_refl 0
  | cons s segments ih =>
    rw [List.flatMap_cons, List.length_append, text, List.length_cons, List.length_cons]
    omega

end Segment

/-- Passing over segments finds at most one token or fault for each character. -/
theorem Cursor.Passed.size_le {c d : Cursor} {segments : List Segment}
    (h : c.Passed segments d) : d.tokens.size + d.faults.size ≤
      c.tokens.size + c.faults.size + (segments.flatMap Segment.text).length := by
  have found := Segment.size_le c.filename c.line segments
  have few := Segment.length_le_length_flatMap segments
  have tokens := congrArg List.length h.tokens
  have faults := congrArg List.length h.faults
  simp only [List.length_append, Array.length_toList] at tokens faults
  omega

/-- One turn of a walk that is not at the end of its text comes further, and not too far. -/
theorem Walk.exists_step {σ : Type} {report : Reporter σ}
    (steady : ∀ s d f, (report s d f).2 = true) (c : Cursor) (s : σ)
    (more : c.current < c.source.length) :
    ∃ run, Walk.step report c s = .ok run ∧ c.step report s = .ok run ∧ run.complete = true ∧
      run.cursor.source = c.source ∧ c.current < run.cursor.current ∧
      run.cursor.current ≤ c.source.length := by
  cases h : c.rest with
  | nil =>
    have done := List.drop_eq_nil_iff.mp h
    omega
  | cons x r =>
    have passed := Cursor.passed_follow c s steady [Segment.first x r]
    have size := congrArg List.length h
    have within := congrArg List.length (Segment.text_first_append x r)
    have current := passed.current
    simp only [Cursor.rest, List.length_drop, List.length_append, List.length_cons, Segment.text,
      List.flatMap_cons, List.flatMap_nil, List.length_nil] at size within current
    have stepped := Cursor.step_of_cons report s h
    exact ⟨_, step_eq_ok_iff.mpr stepped, stepped, Cursor.complete_follow c s steady _,
      Cursor.source_follow report c s _, by omega, by omega⟩

/-- Moved one character at a time over any text, the cursor comes to the end of it, whatever the
text and whatever a reporter that always goes on does: no walk looks for a character that is not
there, moves on behind the end of the text, hands a text to the reader of numbers that is not digits
or digits, a point and digits, or asks for the code point of more than one character. Each turn of
the scan comes further in the text and not behind its end, and there is at most one token or fault
for each character, and the token of the end. -/
theorem scan_walks {σ : Type} (report : Reporter σ) (steady : ∀ s d f, (report s d f).2 = true)
    (c : Cursor) (s : σ) :
    (∃ run, Walk.scan report c s = .ok run ∧ c.scan report s = run ∧ run.complete = true ∧
      run.cursor.source = c.source ∧ run.cursor.current = c.source.length ∧
      run.cursor.tokens.size + run.cursor.faults.size ≤ c.source.length + 1) ∧
    ∀ (d : Cursor) (t : σ), d.current < d.source.length →
      ∃ run, Walk.step report d t = .ok run ∧ d.step report t = .ok run ∧ run.complete = true ∧
        run.cursor.source = d.source ∧ d.current < run.cursor.current ∧
        run.cursor.current ≤ d.source.length := by
  refine ⟨⟨_, Walk.scan_eq report c s, rfl, ?_⟩, Walk.exists_step steady⟩
  have complete := Cursor.complete_follow c.rewind s steady (Segment.split c.source)
  have source := Cursor.source_follow report c.rewind s (Segment.split c.source)
  have passed := Cursor.passed_follow c.rewind s steady (Segment.split c.source)
  have size := passed.size_le
  have current := passed.current
  rw [Segment.flatMap_text_split] at size current
  have empty : c.rewind.tokens.size + c.rewind.faults.size = 0 := rfl
  rw [Cursor.scan, complete, if_pos rfl]
  refine ⟨rfl, source, current.trans (Nat.zero_add _), ?_⟩
  simp only [Cursor.finish, Array.size_push]
  omega

/-- A text with a null character, a letter beyond ASCII, a point behind a number and a string that
never closes. -/
theorem scan_walks_null : (∀ s d f, (Reporter.silent s d f).2 = true) ∧
    ∃ run, Walk.scan Reporter.silent (Cursor.atStart "\x00é 12.\n\"a" "a.lox") () = .ok run ∧
      run.complete = true ∧ run.cursor.current = 9 ∧
      run.cursor.tokens.size + run.cursor.faults.size ≤ 10 := by
  have steady : ∀ s d f, (Reporter.silent s d f).2 = true := fun _ _ _ => rfl
  obtain ⟨⟨run, walked, -, complete, -, current, size⟩, -⟩ :=
    scan_walks Reporter.silent steady (Cursor.atStart "\x00é 12.\n\"a" "a.lox") ()
  exact ⟨steady, run, walked, complete, current, size⟩

end LoxScan
