import LoxScan.Script
import LoxScan.Proofs.Run
import LoxScan.Proofs.Utf8

/-! Carriage returns before line feeds. A text whose carriage returns all stand right before a line
feed has the same segments with and without them: a return between segments is a blank, which is
dropped, and the others are inside comments and strings. So the text in memory and the text read
from a file, where each pair has become a line feed, have the same faults and the same tokens up to
the pairs inside strings. -/

namespace LoxScan

namespace Text

/-- Every carriage return has a line feed right behind it. -/
def Paired : List Char → Prop
  | [] => True
  | c :: r => (c = '\r' → r.head? = some '\n') ∧ Paired r

instance decidablePaired : DecidablePred Paired
  | [] => .isTrue trivial
  | c :: r =>
    have := decidablePaired r
    inferInstanceAs (Decidable ((c = '\r' → r.head? = some '\n') ∧ Paired r))

/-- `cs` with each pair of a carriage return and a line feed replaced by a line feed. -/
def joinPairs : List Char → List Char
  | '\r' :: '\n' :: r => '\n' :: joinPairs r
  | c :: r => c :: joinPairs r
  | [] => []

/-- `cs` without its carriage returns. -/
def dropReturns (cs : List Char) : List Char := cs.filter (· != '\r')

@[simp] theorem dropReturns_nil : dropReturns [] = [] := rfl

@[simp] theorem dropReturns_return (r : List Char) : dropReturns ('\r' :: r) = dropReturns r := rfl

theorem dropReturns_cons {c : Char} (h : c ≠ '\r') (r : List Char) :
    dropReturns (c :: r) = c :: dropReturns r :=
  List.filter_cons_of_pos (bne_iff_ne.mpr h)

@[simp] theorem dropReturns_append (a b : List Char) :
    dropReturns (a ++ b) = dropReturns a ++ dropReturns b := List.filter_append ..

theorem dropReturns_eq_self {cs : List Char} (h : '\r' ∉ cs) : dropReturns cs = cs :=
  List.filter_eq_self.mpr fun _ hx => bne_iff_ne.mpr (ne_of_mem_of_not_mem hx h)

theorem mem_of_mem_dropReturns {c : Char} {cs : List Char} (h : c ∈ dropReturns cs) : c ∈ cs :=
  (List.mem_filter.mp h).1

@[simp] theorem lineFeeds_dropReturns (cs : List Char) :
    lineFeeds (dropReturns cs) = lineFeeds cs :=
  List.count_filter (by decide)

theorem Paired.tail {c : Char} {r : List Char} (h : Paired (c :: r)) : Paired r := h.2

theorem Paired.right {a b : List Char} (h : Paired (a ++ b)) : Paired b := by
  induction a with
  | nil => exact h
  | cons c a ih => exact ih h.tail

/-- Before anything but a line feed, no return is left without its line feed. -/
theorem Paired.left {a b : List Char} {x : Char} (h : Paired (a ++ x :: b)) (ne : x ≠ '\n') :
    Paired a := by
  induction a with
  | nil => trivial
  | cons c a ih =>
    refine ⟨fun hc => ?_, ih h.tail⟩
    have next := h.1 hc
    cases a with
    | nil => exact absurd (Option.some.inj next) ne
    | cons d a => exact next

theorem Paired.append {a b : List Char} (ha : Paired a) (hb : Paired b) : Paired (a ++ b) := by
  induction a with
  | nil => exact hb
  | cons c a ih =>
    refine ⟨fun hc => ?_, ih ha.tail⟩
    have next := ha.1 hc
    cases a with
    | nil => cases next
    | cons d a => exact next

theorem paired_of_not_mem {cs : List Char} (h : '\r' ∉ cs) : Paired cs := by
  induction cs with
  | nil => trivial
  | cons c r ih =>
    rw [List.mem_cons, not_or] at h
    exact ⟨fun hc => absurd hc.symm h.1, ih h.2⟩

theorem joinPairs_eq {cs : List Char} (h : Paired cs) : joinPairs cs = dropReturns cs := by
  fun_induction joinPairs cs with
  | case1 r ih => rw [ih h.tail.tail]; rfl
  | case2 c r other ih =>
    have ne : c ≠ '\r' := by
      rintro rfl
      obtain ⟨r', rfl⟩ := List.head?_eq_some_iff.mp (h.1 rfl)
      exact other r' rfl rfl
    rw [ih h.tail, dropReturns_cons ne]
  | case3 => rfl

theorem unifyLineEnds_eq {cs : List Char} (h : Paired cs) : unifyLineEnds cs = dropReturns cs := by
  fun_induction unifyLineEnds cs with
  | case1 => rfl
  | case2 r ih => rw [ih h.tail.tail]; rfl
  | case3 r other ih =>
    obtain ⟨r', rfl⟩ := List.head?_eq_some_iff.mp (h.1 rfl)
    exact absurd rfl (other r')
  | case4 c r _ other ih => rw [ih h.tail, dropReturns_cons other]

/-- Without its returns, a text begins with the same character or with a line feed. -/
theorem head?_dropReturns {cs : List Char} (h : Paired cs) {p : Char → Prop} (feed : p '\n')
    (head : ∀ x ∈ cs.head?, p x) : ∀ x ∈ (dropReturns cs).head?, p x := by
  cases cs with
  | nil => simp
  | cons c r =>
    by_cases hc : c = '\r'
    · subst hc
      obtain ⟨r', rfl⟩ := List.head?_eq_some_iff.mp (h.1 rfl)
      intro x hx
      obtain rfl : '\n' = x := Option.some.inj hx
      exact feed
    · rw [dropReturns_cons hc]
      exact head

/-- The close of a comment is not made by leaving out returns. -/
theorem close_of_dropReturns {cs : List Char} (h : Paired cs)
    (close : ['*', '/'] <:+: dropReturns cs) : ['*', '/'] <:+: cs := by
  induction cs with
  | nil => exact close
  | cons c r ih =>
    by_cases hc : c = '\r'
    · subst hc
      exact (ih h.tail close).trans (List.suffix_cons _ _).isInfix
    rw [dropReturns_cons hc, List.infix_cons_iff] at close
    rcases close with ⟨after, star⟩ | close
    · -- the slash is the next character, since a return before it would bring a line feed
      obtain ⟨rfl, slash⟩ : '*' = c ∧ '/' :: after = dropReturns r := List.cons.inj star
      have next : r.head? = some '/' := by
        by_contra other
        have none := head?_dropReturns (p := (· ≠ '/')) h.tail (by decide)
          (fun x hx same => other (same ▸ hx)) '/'
        rw [← slash] at none
        exact none rfl rfl
      obtain ⟨r', rfl⟩ := List.head?_eq_some_iff.mp next
      exact List.IsPrefix.isInfix ⟨r', rfl⟩
    · exact (ih h.tail close).trans (List.suffix_cons _ _).isInfix

end Text

namespace Segment

open Text

/-- A segment without its carriage returns. -/
def bare (s : Segment) : Segment := { s with tail := dropReturns s.tail }

theorem bare_eq_self {s : Segment} (h : '\r' ∉ s.tail) : s.bare = s := by
  rw [bare, dropReturns_eq_self h]

theorem text_bare {s : Segment} (h : s.head ≠ '\r') : s.bare.text = dropReturns s.text := by
  rw [text, text, dropReturns_cons h]
  rfl

/-- Segments without their carriage returns; a return that is a segment is left out. -/
def bareAll (segments : List Segment) : List Segment :=
  (segments.filter (·.head != '\r')).map bare

theorem noFraction_dropReturns {rest : List Char} (h : Paired rest) (point : NoFraction rest) :
    NoFraction (dropReturns rest) := by
  intro d r same
  have first : rest.head? = some '.' := by
    by_contra other
    have none := head?_dropReturns (p := (· ≠ '.')) h (by decide)
      (fun x hx same => other (same ▸ hx)) '.'
    rw [same] at none
    exact none rfl rfl
  obtain ⟨r', rfl⟩ := List.head?_eq_some_iff.mp first
  rw [dropReturns_cons (by decide)] at same
  refine head?_dropReturns (p := (isDigit · = false)) h.tail rfl (fun x hx => ?_) d ?_
  · obtain ⟨r'', rfl⟩ := List.head?_eq_some_iff.mp (Option.mem_def.mp hx)
    exact point x r'' rfl
  · rw [(List.cons.inj same).2]
    rfl

/-- A segment leads what it led, also without the returns there. -/
theorem Leads.dropReturns_rest {s : Segment} {rest : List Char} (h : Leads s rest)
    (paired : Paired rest) : Leads s (dropReturns rest) := by
  by_cases closed : s.form.isOpen = false
  · exact h.change closed (fun p feed _ => head?_dropReturns paired feed)
      (noFraction_dropReturns paired)
  · cases h with
    | openComment inside => exact .openComment inside
    | openString inside => exact .openString inside
    | _ => exact absurd rfl closed

theorem Leads.return_not_mem_tail {s : Segment} {rest : List Char} (h : Leads s rest)
    (plain : s.form.hasBody = false) : '\r' ∉ s.tail :=
  h.not_mem_tail plain rfl (by decide +kernel) (by decide)

theorem bare_string (body : List Char) : (⟨.string, '"', body ++ ['"']⟩ : Segment).bare =
    ⟨.string, '"', dropReturns body ++ ['"']⟩ := by
  rw [bare, dropReturns_append]
  rfl

/-- A segment that leads a text still leads it when the returns inside the segment go. -/
theorem Leads.bare {s : Segment} {rest : List Char} (h : Leads s rest)
    (paired : Paired (s.text ++ rest)) : Leads s.bare rest := by
  by_cases plain : s.form.hasBody = false
  · rwa [bare_eq_self (h.return_not_mem_tail plain)]
  cases h with
  | lineComment inside stop =>
    exact .lineComment (fun feed => inside (mem_of_mem_dropReturns feed)) stop
  | @blockComment body rest inside =>
    have same : (⟨.blockComment, '/', '*' :: (body ++ ['*', '/'])⟩ : Segment).bare =
        ⟨.blockComment, '/', '*' :: (dropReturns body ++ ['*', '/'])⟩ := by
      rw [Segment.bare, dropReturns_cons (by decide), dropReturns_append]
      rfl
    have parts : ('/' :: '*' :: (body ++ ['*', '/'])) ++ rest =
        ['/', '*'] ++ (body ++ '*' :: '/' :: rest) := by simp
    rw [text, parts] at paired
    have star : Paired ['*'] := by decide
    have pairedBody : Paired (body ++ ['*']) := (paired.right.left (by decide)).append star
    rw [same]
    refine .blockComment fun close => inside (close_of_dropReturns pairedBody ?_)
    rwa [dropReturns_append]
  | @openComment body inside =>
    rw [List.append_nil] at paired
    exact .openComment fun close => inside (close_of_dropReturns paired.tail.tail close)
  | string inside =>
    rw [bare_string]
    exact .string fun quote => inside (mem_of_mem_dropReturns quote)
  | openString inside => exact .openString fun quote => inside (mem_of_mem_dropReturns quote)
  | _ => exact absurd rfl plain

/-- A return at which a segment begins is a blank. -/
theorem Leads.eq_blank {s : Segment} {rest : List Char} (h : Leads s rest) (head : s.head = '\r') :
    s = ⟨.blank, '\r', []⟩ := by
  rw [← h.first_eq, head]
  exact first_of_isSpace rfl _

/-- A text with paired returns is cut in the same way without them. -/
theorem Cut.bareAll {cs : List Char} {segments : List Segment} (cut : Cut cs segments)
    (paired : Paired cs) : Cut (dropReturns cs) (Segment.bareAll segments) := by
  induction cut with
  | nil => exact .nil
  | @cons s rest segments leads _ ih =>
    have below := ih paired.right
    by_cases visible : s.head = '\r'
    · rw [leads.eq_blank visible]
      simpa [Segment.bareAll, text] using below
    · have leads' := (leads.bare paired).dropReturns_rest paired.right
      rw [dropReturns_append, ← text_bare visible]
      simpa [Segment.bareAll, visible] using Cut.cons leads' below

end Segment

/-- A literal with each pair of a return and a line feed replaced by a line feed. -/
def Literal.joined : Literal → Literal
  | text s => text (String.ofList (Text.joinPairs s.toList))
  | number x => number x

/-- A token with each pair of a return and a line feed replaced by a line feed. -/
def Token.joined (t : Token) : Token :=
  { t with
    lexeme := String.ofList (Text.joinPairs t.lexeme.toList)
    literal := t.literal.map Literal.joined }

theorem Token.joined_eq_self {t : Token} (lexeme : '\r' ∉ t.lexeme.toList)
    (literal : ∀ text, t.literal ≠ some (.text text)) : t.joined = t := by
  obtain ⟨kind, lexeme', literal', line⟩ := t
  have first : String.ofList (Text.joinPairs lexeme'.toList) = lexeme' := by
    rw [Text.joinPairs_eq (Text.paired_of_not_mem lexeme), Text.dropReturns_eq_self lexeme,
      String.ofList_toList]
  rw [Token.joined, first]
  match literal' with
  | none | some (.number _) => rfl
  | some (.text text) => exact absurd rfl (literal text)

namespace Segment

open Text

theorem lineFeeds_bare (s : Segment) : s.bare.lineFeeds = s.lineFeeds := by
  have head : s.bare.text = [s.head] ++ dropReturns s.tail := rfl
  have whole : s.text = [s.head] ++ s.tail := rfl
  rw [lineFeeds, head, lineFeeds_append, lineFeeds_dropReturns, ← lineFeeds_append, ← whole,
    lineFeeds]

theorem fault?_bare (s : Segment) (filename : String) (line : Int) :
    s.bare.fault? filename line = s.fault? filename line := by
  have feeds := lineFeeds_bare s
  obtain ⟨form, c, tail⟩ := s
  cases form with
  | openString => rw [fault?, feeds]; rfl
  | _ => rfl

/-- The token of a segment loses its returns with the segment. -/
theorem token?_bare {s : Segment} {rest : List Char} (h : Leads s rest)
    (paired : Paired (s.text ++ rest)) (visible : s.head ≠ '\r') (line : Int) :
    s.bare.token? line = (s.token? line).map Token.joined := by
  by_cases plain : s.form.hasBody = false
  · have tail := h.return_not_mem_tail plain
    rw [bare_eq_self tail]
    have same : ∀ t ∈ s.token? line, t.joined = t := by
      rintro t made
      obtain ⟨⟨kind, literal⟩, meaning, rfl⟩ := Option.map_eq_some_iff.mp made
      refine Token.joined_eq_self ?_ fun text isText => ?_
      · rw [String.toList_ofList, text, List.mem_cons, not_or]
        exact ⟨visible.symm, tail⟩
      · obtain ⟨form, c, tail⟩ := s
        cases form with
        | symbol | number | word =>
          cases meaning
          cases isText
        | string => cases plain
        | _ => cases meaning
    cases made : s.token? line with
    | none => rfl
    | some t => rw [Option.map_some, same t made]
  cases h with
  | @string body rest inside =>
    have parts : ('"' :: (body ++ ['"'])) ++ rest = '"' :: (body ++ '"' :: rest) := by simp
    rw [text, parts] at paired
    have pairedBody : Paired body := paired.tail.left (by decide)
    have quote : Paired ['"'] := by decide
    have whole : joinPairs ('"' :: (body ++ ['"'])) = '"' :: (dropReturns body ++ ['"']) := by
      refine (joinPairs_eq (quote.append (pairedBody.append quote))).trans ?_
      rw [dropReturns_append, dropReturns_append]
      rfl
    rw [bare_string]
    simp [token?, meaning?, text, Token.joined, Literal.joined, whole, joinPairs_eq pairedBody]
  | lineComment | blockComment | openComment | openString => rfl
  | _ => exact absurd rfl plain

theorem bareAll_cons_of_ne {s : Segment} (h : s.head ≠ '\r') (segments : List Segment) :
    bareAll (s :: segments) = s.bare :: bareAll segments := by
  simp [bareAll, h]

theorem bareAll_cons_blank (segments : List Segment) :
    bareAll (⟨.blank, '\r', []⟩ :: segments) = bareAll segments := by
  simp [bareAll]

theorem tokens_bareAll {cs : List Char} {segments : List Segment} (cut : Cut cs segments)
    (paired : Paired cs) (line : Int) :
    tokens line (bareAll segments) = (tokens line segments).map Token.joined := by
  induction cut generalizing line with
  | nil => rfl
  | @cons s rest segments leads _ ih =>
    by_cases visible : s.head = '\r'
    · rw [leads.eq_blank visible, bareAll_cons_blank, ih paired.right]
      have feeds : (⟨.blank, '\r', []⟩ : Segment).lineFeeds = 0 := rfl
      have none : token? line ⟨.blank, '\r', []⟩ = none := rfl
      rw [tokens_cons, none, feeds, Int.natCast_zero, Int.add_zero]
      rfl
    · rw [bareAll_cons_of_ne visible, tokens_cons, tokens_cons, token?_bare leads paired visible,
        lineFeeds_bare, ih paired.right, List.map_append, Option.toList_map]

theorem faults_bareAll {cs : List Char} {segments : List Segment} (cut : Cut cs segments)
    (filename : String) (line : Int) :
    faults filename line (bareAll segments) = faults filename line segments := by
  induction cut generalizing line with
  | nil => rfl
  | @cons s rest segments leads _ ih =>
    by_cases visible : s.head = '\r'
    · rw [leads.eq_blank visible, bareAll_cons_blank, ih]
      have feeds : (⟨.blank, '\r', []⟩ : Segment).lineFeeds = 0 := rfl
      have none : fault? filename line ⟨.blank, '\r', []⟩ = none := rfl
      rw [faults_cons, none, feeds, Int.natCast_zero, Int.add_zero]
      rfl
    · rw [bareAll_cons_of_ne visible, faults_cons, faults_cons, fault?_bare, lineFeeds_bare, ih]

end Segment

open Segment Text

/-- The scan of a text with unified line ends is that of the text, up to the returns in tokens. -/
theorem Scan.ofText_unifyLineEnds {source : String} (paired : Paired source.toList)
    (filename : String) : ofText (String.ofList (unifyLineEnds source.toList)) filename =
      ⟨(ofText source filename).tokens.map Token.joined, (ofText source filename).faults⟩ := by
  have cut := cut_split source.toList
  have endJoined (line : Int) : (endToken line).joined = endToken line := rfl
  rw [ofText_eq, ofText_eq source, String.toList_ofList, unifyLineEnds_eq paired,
    (cut.bareAll paired).split_eq, tokens_bareAll cut paired, faults_bareAll cut,
    lineFeeds_dropReturns, List.map_append, List.map_singleton, endJoined]

/-- A text whose returns all stand before line feeds gives the same when it is scanned from memory
and from a file with its bytes in UTF-8: the same first fault, or else the same tokens, with each
pair of a return and a line feed inside them as a line feed. -/
theorem tokens_of_file {disk : Node} {path source : String} (name : '\x00' ∉ path.toList)
    (held : disk.read path = .ok source.toUTF8.data.toList) (paired : Paired source.toList) :
    Script.tokens disk path "utf-8" =
      match Scan.tokens? source path with
      | .ok found => .tokens (found.map Token.joined)
      | .error fault => .faulty fault := by
  have read : Script.read disk path "utf-8" =
      .ok (String.ofList (unifyLineEnds source.toList)) := by
    have utf8 : Encoding.ofName? "utf-8" = some .utf8 := by decide
    have noNull : path.toList.contains '\x00' = false := by simpa using name
    simp only [Script.read, noNull, held, Script.decode, utf8, Encoding.decode_toUTF8]
    rfl
  simp only [Script.tokens, read, Scan.tokens?, Scan.ofText_unifyLineEnds paired]
  cases (Scan.ofText source path).faults <;> rfl

/-- A string and a comment over two lines each, and a number whose point ends the line. -/
theorem tokens_of_file_two_lines :
    Script.tokens
        (.folder [("t", .file "\"a\r\nb\" // c\r\n1.\r\n5".toUTF8.data.toList)]) "t" "utf-8" =
      match Scan.tokens? "\"a\r\nb\" // c\r\n1.\r\n5" "t" with
      | .ok found => .tokens (found.map Token.joined)
      | .error fault => .faulty fault :=
  tokens_of_file (by decide) (by cbv) (by decide +kernel)

end LoxScan
