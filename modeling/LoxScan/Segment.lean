import LoxScan.Fault
import LoxScan.Text.Letter
import LoxScan.Text.LineEnd

/-! Source text cut into segments. A segment is the longest piece at the start of a text that the
lexical grammar knows: a symbol, a comment, a blank, a line feed, a string, a number, a word, or one
character that is none of these. A string or comment that never closes reaches to the end. What a
segment is depends on the text from its first character on and on nothing before it. -/

namespace LoxScan

open Text

inductive Form where
  | symbol (kind : Kind)
  | lineComment
  | blockComment
  | openComment
  | blank
  | lineFeed
  | string
  | openString
  | number
  | word
  | stray
  deriving DecidableEq, Repr

/-- A piece of source text of one form. It has at least one character. -/
structure Segment where
  form : Form
  head : Char
  tail : List Char
  deriving DecidableEq, Repr

namespace Segment

def text (s : Segment) : List Char := s.head :: s.tail

/-- Whether `c` is one of the ten ASCII digits, which alone make up number literals. -/
def isDigit (c : Char) : Bool := '0' ≤ c && c ≤ '9'

/-- Whether `c` may follow the first letter of a word. -/
def isWordPart (c : Char) : Bool := isLetter c || isDecimalDigit c

/-- Whether `c` separates tokens on a line. -/
def isSpace (c : Char) : Bool := c == ' ' || c == '\r' || c == '\t'

/-- What follows the first `*/` of a text. -/
def afterClose? : List Char → Option (List Char)
  | [] => none
  | '*' :: '/' :: r => some r
  | _ :: r => afterClose? r

/-- The rest of a number literal: more digits, then perhaps a point with digits behind it. A point
without a digit behind it belongs to what follows. -/
def numberTail (r : List Char) : List Char :=
  let whole := r.takeWhile isDigit
  match r.dropWhile isDigit with
  | '.' :: d :: r' => if isDigit d then whole ++ '.' :: d :: r'.takeWhile isDigit else whole
  | _ => whole

theorem numberTail_isPrefix (r : List Char) : numberTail r <+: r := by
  have whole : r.takeWhile isDigit <+: r := List.takeWhile_prefix _
  unfold numberTail
  split
  · next d r' h =>
    split
    · refine ⟨r'.dropWhile isDigit, ?_⟩
      rw [List.append_assoc, List.cons_append, List.cons_append, List.takeWhile_append_dropWhile,
        ← h, List.takeWhile_append_dropWhile]
    · exact whole
  · exact whole

/-- The segment at a slash followed by `r`. -/
def ofSlash (r : List Char) : Segment :=
  match r with
  | '/' :: r' => ⟨.lineComment, '/', '/' :: r'.takeWhile (· != '\n')⟩
  | '*' :: r' =>
    match afterClose? r' with
    | some rest => ⟨.blockComment, '/', '*' :: r'.take (r'.length - rest.length)⟩
    | none => ⟨.openComment, '/', r⟩
  | _ => ⟨.symbol .slash, '/', []⟩

theorem tail_ofSlash_isPrefix (r : List Char) : (ofSlash r).tail <+: r := by
  unfold ofSlash
  split
  · next r' => exact (List.prefix_cons_inj _).2 <| List.takeWhile_prefix _
  · next r' =>
    split
    · exact (List.prefix_cons_inj _).2 <| List.take_prefix _ _
    · exact List.prefix_refl _
  · exact List.nil_prefix

/-- The segment at a quote followed by `r`. -/
def ofQuote (r : List Char) : Segment :=
  match r.dropWhile (· != '"') with
  | [] => ⟨.openString, '"', r⟩
  | _ => ⟨.string, '"', r.takeWhile (· != '"') ++ ['"']⟩

theorem tail_ofQuote_isPrefix (r : List Char) : (ofQuote r).tail <+: r := by
  unfold ofQuote
  split
  · exact List.prefix_refl _
  · next h =>
    cases hd : r.dropWhile (· != '"') with
    | nil => exact absurd hd h
    | cons q rest =>
      have hq := List.head?_dropWhile_not (· != '"') r
      rw [hd] at hq
      have hq : q = '"' := by simpa using hq
      subst hq
      exact ⟨rest, by
        rw [List.append_assoc, List.singleton_append, ← hd, List.takeWhile_append_dropWhile]⟩

/-- The segment at the start of the text `c :: r`. -/
def first (c : Char) (r : List Char) : Segment :=
  match Kind.ofMark? c, Kind.ofPaired? c with
  | some kind, _ => ⟨.symbol kind, c, []⟩
  | none, some (paired, single) =>
    if r.head? = some '=' then ⟨.symbol paired, c, ['=']⟩ else ⟨.symbol single, c, []⟩
  | none, none =>
    if c = '/' then ofSlash r
    else if isSpace c then ⟨.blank, c, []⟩
    else if c = '\n' then ⟨.lineFeed, c, []⟩
    else if c = '"' then ofQuote r
    else if isDigit c then ⟨.number, c, numberTail r⟩
    else if isLetter c then ⟨.word, c, r.takeWhile isWordPart⟩
    else ⟨.stray, c, []⟩

theorem head_first (c : Char) (r : List Char) : (first c r).head = c := by
  unfold first ofSlash ofQuote
  repeat' split
  all_goals simp_all

theorem tail_first_isPrefix (c : Char) (r : List Char) : (first c r).tail <+: r := by
  unfold first
  split
  · exact List.nil_prefix
  · split
    · next h =>
      cases r with
      | nil => simp at h
      | cons x r => simp at h; subst h; exact ⟨r, rfl⟩
    · exact List.nil_prefix
  · split
    · exact tail_ofSlash_isPrefix r
    split
    · exact List.nil_prefix
    split
    · exact List.nil_prefix
    split
    · exact tail_ofQuote_isPrefix r
    split
    · exact numberTail_isPrefix r
    split
    · exact List.takeWhile_prefix _
    · exact List.nil_prefix

/-- A segment and what follows it make up the text. -/
theorem text_first_append (c : Char) (r : List Char) :
    (first c r).text ++ r.drop (first c r).tail.length = c :: r := by
  have h := List.prefix_iff_eq_take.1 (tail_first_isPrefix c r)
  rw [text, head_first, List.cons_append]
  conv => lhs; rw [h]
  rw [List.length_take, Nat.min_eq_left (tail_first_isPrefix c r).length_le, List.take_append_drop]

/-- Adds the segments of a text to those found before it. -/
def splitOnto (found : Array Segment) : List Char → Array Segment
  | [] => found
  | c :: r =>
    let s := first c r
    splitOnto (found.push s) (r.drop s.tail.length)
termination_by cs => cs.length
decreasing_by simp only [List.length_drop, List.length_cons]; omega

/-- The segments of a text, in order. -/
def split (cs : List Char) : List Segment := (splitOnto #[] cs).toList

theorem toList_splitOnto (found : Array Segment) (cs : List Char) :
    (splitOnto found cs).toList = found.toList ++ split cs := by
  induction h : cs.length using Nat.strongRecOn generalizing found cs with
  | _ n ih =>
    cases cs with
    | nil => simp [splitOnto, split]
    | cons c r =>
      have hr : (r.drop (first c r).tail.length).length < n := by
        rw [List.length_drop, ← h, List.length_cons]; omega
      rw [split, splitOnto, splitOnto, ih _ hr _ _ rfl, ih _ hr _ _ rfl]
      simp

@[simp] theorem split_nil : split [] = [] := by simp [split, splitOnto]

/-- The segments of a text are its first one and those of what follows it. -/
theorem split_cons (c : Char) (r : List Char) :
    split (c :: r) = first c r :: split (r.drop (first c r).tail.length) := by
  rw [split, splitOnto, toList_splitOnto]
  rfl

/-- How many line feeds a segment holds. -/
def lineFeeds (s : Segment) : Nat := Text.lineFeeds s.text

/-- The kind and the value of the token that a segment makes, if it makes one. -/
def meaning? (s : Segment) : Option (Kind × Option Literal) :=
  match s.form with
  | .symbol kind => some (kind, none)
  | .string => some (.string, some (.text (String.ofList s.tail.dropLast)))
  | .number => some (.number, some (.number ((Decimal.ofNumeral s.text).toDouble false)))
  | .word => some (Kind.ofWord (String.ofList s.text), none)
  | _ => none

/-- The token of a segment that starts on a given line, if it makes one. -/
def token? (line : Int) (s : Segment) : Option Token :=
  s.meaning?.map fun (kind, literal) => ⟨kind, String.ofList s.text, literal, line⟩

/-- The fault of a segment that starts on a given line, if it is at fault. A string that never
closes is reported on the line that it reaches, a comment on the line where it opens. -/
def fault? (filename : String) (line : Int) (s : Segment) : Option Fault :=
  match s.form with
  | .stray => some (.strayCharacter s.head ⟨filename, line⟩)
  | .openString => some (.openString ⟨filename, line + s.lineFeeds⟩)
  | .openComment => some (.openComment ⟨filename, line⟩)
  | _ => none

end Segment

end LoxScan
