import LoxScan.Proofs.Lines
import LoxScan.Proofs.Stability

/-! Bodies of comments and strings. What stands between the marks of a comment, behind those of a
line comment or between quotes is of no concern to the text around it. When another body takes its
place, with as many line feeds, the text is cut as before; only the one segment has another body. So
the scan finds the same tokens and faults on the same lines, and if the body is that of a string,
the token of the string holds the new one. -/

namespace LoxScan

open Segment Grammar

/-- What stands around a body: the mark of a line comment, those of a block comment, or quotes. -/
inductive Enclosure where
  | lineComment
  | blockComment
  | quotes
  deriving DecidableEq, Repr

namespace Enclosure

/-- Whether a body may stand here: what ends it is not inside. -/
def Admits : Enclosure → List Char → Prop
  | lineComment, body => '\n' ∉ body
  | blockComment, body => ¬ ['*', '/'] <:+: body
  | quotes, body => '"' ∉ body

/-- The segment with a given body. -/
def enclose : Enclosure → List Char → Segment
  | lineComment, body => ⟨.lineComment, '/', '/' :: body⟩
  | blockComment, body => ⟨.blockComment, '/', '*' :: (body ++ ['*', '/'])⟩
  | quotes, body => ⟨.string, '"', body ++ ['"']⟩

/-- The tokens of a body on a given line: one for a string, whose value is the body. -/
def tokens : Enclosure → Int → List Char → List Token
  | lineComment, _, _ | blockComment, _, _ => []
  | quotes, line, body =>
    [⟨.string, String.ofList ('"' :: (body ++ ['"'])), some (.text (String.ofList body)), line⟩]

variable (e : Enclosure) {body body' : List Char}

theorem head_enclose (body body' : List Char) : (e.enclose body').head = (e.enclose body).head := by
  cases e <;> rfl

theorem head_enclose_ne_point (body : List Char) : (e.enclose body).head ≠ '.' := by
  cases e <;> simp [enclose]

theorem lineFeeds_enclose (body : List Char) :
    (e.enclose body).lineFeeds = Text.lineFeeds body := by
  cases e <;> simp [enclose, Segment.lineFeeds, text, Text.lineFeeds]

theorem token?_enclose (line : Int) (body : List Char) :
    ((e.enclose body).token? line).toList = e.tokens line body := by
  cases e with
  | lineComment | blockComment => rfl
  | quotes => simp [enclose, tokens, token?, meaning?, text]

theorem fault?_enclose (filename : String) (line : Int) (body : List Char) :
    (e.enclose body).fault? filename line = none := by
  cases e <;> rfl

/-- The star of the close does not make a close with what is before it. -/
theorem not_close_append_star {body : List Char} (h : ¬ ['*', '/'] <:+: body) :
    ¬ ['*', '/'] <:+: body ++ ['*'] := by
  rw [List.infix_concat_iff, not_or]
  refine ⟨?_, h⟩
  rintro ⟨before, same⟩
  have last : (before ++ ['*', '/']).getLast? = some '*' := by simp [same]
  simp at last

/-- What a body leads, with what is around it, another body leads as well. -/
theorem leads_enclose {rest : List Char} (leads : Leads (e.enclose body) rest)
    (admits : e.Admits body') : Leads (e.enclose body') rest := by
  cases e with
  | lineComment =>
    have stop : ∀ x ∈ rest.head?, x = '\n' := by
      cases leads with
      | lineComment _ stop => exact stop
    exact .lineComment admits stop
  | blockComment => exact .blockComment (not_close_append_star admits)
  | quotes => exact .string admits

end Enclosure

namespace Segment

/-- Whether a point with a digit behind it begins a text does not depend on what stands behind a
character that is no point. -/
theorem noFraction_replace {c : Char} (noPoint : c ≠ '.') (before : List Char) {r r' : List Char}
    (h : NoFraction (before ++ c :: r)) : NoFraction (before ++ c :: r') := by
  intro d tail same
  rcases before with _ | ⟨x, _ | ⟨y, before⟩⟩
  · exact absurd (List.cons.inj same).1 noPoint
  · obtain ⟨rfl, below⟩ : x = '.' ∧ c :: r' = d :: tail := List.cons.inj same
    obtain ⟨rfl, -⟩ := List.cons.inj below
    exact h c r rfl
  · obtain ⟨rfl, below⟩ : x = '.' ∧ y :: (before ++ c :: r') = d :: tail := List.cons.inj same
    obtain ⟨rfl, -⟩ := List.cons.inj below
    exact h y (before ++ c :: r) rfl

/-- A closed segment still leads when the text changes behind a character that is no point. -/
theorem Leads.replace {s : Segment} {c : Char} {before r : List Char}
    (h : Leads s (before ++ c :: r)) (noPoint : c ≠ '.') (r' : List Char) :
    Leads s (before ++ c :: r') := by
  refine h.change (h.closed (by simp)) (fun p _ _ head => ?_)
    (noFraction_replace noPoint before)
  cases before <;> exact head

/-- Another segment that begins alike and leads what the old one led takes its place, and all other
segments stay. -/
theorem Cut.replace {cs : List Char} {before after : List Segment} {s t : Segment}
    (cut : Cut cs (before ++ s :: after)) (head : t.head = s.head) (noPoint : s.head ≠ '.')
    (leads : ∀ rest, Leads s rest → Leads t rest) :
    Cut ((before ++ t :: after).flatMap text) (before ++ t :: after) := by
  -- the text of the segments from the changed one on, up to what is behind its first character
  have behind (u : Segment) (between : List Segment) : (between ++ u :: after).flatMap text =
      between.flatMap text ++ u.head :: (u.tail ++ after.flatMap text) := by
    rw [List.flatMap_append, List.flatMap_cons, text, List.cons_append]
  induction before generalizing cs with
  | nil =>
    cases cut with
    | cons leads_s below =>
      rw [List.nil_append, List.flatMap_cons, below.flatMap_text]
      exact .cons (leads _ leads_s) below
  | cons u before ih =>
    cases cut with
    | cons leads_u below =>
      rw [List.cons_append, List.flatMap_cons]
      refine .cons ?_ (ih below)
      rw [← (behind s before).symm.trans below.flatMap_text] at leads_u
      rw [behind, head]
      exact leads_u.replace noPoint _

end Segment

theorem Scan.ofText_of_cut {cs : List Char} {segments : List Segment} (cut : Cut cs segments)
    (filename : String) : ofText (String.ofList cs) filename =
      ⟨Segment.tokens 1 segments ++ [endToken (1 + feeds segments)],
        Segment.faults filename 1 segments⟩ := by
  rw [ofText_eq, String.toList_ofList, ← feeds_split, cut.split_eq]

/-- The bodies of comments and strings do not interfere with the rest of a text. Wherever the
reading of a text has a comment that ends or a string that closes, any other body that is legal
there and has as many line feeds may take the place of its body. The new text is read as before but
for the one segment. Its tokens are the same, except that the token of a string has the new body
between its quotes and for its value, and its faults are the same, with their lines and helps. -/
theorem scan_other_body (e : Enclosure) {source : String} (filename : String)
    {before after : List Segment} {body body' : List Char}
    (reading : Reading source.toList (before ++ e.enclose body :: after))
    (admits : e.Admits body') (feeds : Text.lineFeeds body' = Text.lineFeeds body) :
    let other := String.ofList ((before ++ e.enclose body' :: after).flatMap text)
    let line := lineAt source.toList (before.flatMap text).length
    Reading other.toList (before ++ e.enclose body' :: after) ∧
      (∃ below, (Scan.ofText source filename).tokens =
          Segment.tokens 1 before ++ e.tokens line body ++ below ∧
        (Scan.ofText other filename).tokens =
          Segment.tokens 1 before ++ e.tokens line body' ++ below) ∧
      (Scan.ofText other filename).faults = (Scan.ofText source filename).faults := by
  intro other line
  have cut : Cut source.toList (before ++ e.enclose body :: after) :=
    cut_iff.mpr (reading_iff.mp reading).symm
  have cut' := cut.replace (e.head_enclose body body') (e.head_enclose_ne_point body)
    fun rest leads => e.leads_enclose leads admits
  have old := Scan.ofText_of_cut cut filename
  rw [String.ofList_toList] at old
  have new := Scan.ofText_of_cut cut' filename
  have line_eq : line = 1 + Segment.feeds before := by
    have placed := lineAt_append (before.flatMap text) ((e.enclose body :: after).flatMap text)
    rw [← List.flatMap_append, cut.flatMap_text] at placed
    exact placed
  have lines : (e.enclose body').lineFeeds = (e.enclose body).lineFeeds := by
    rw [e.lineFeeds_enclose, e.lineFeeds_enclose, feeds]
  refine ⟨?_, ⟨Segment.tokens (line + (e.enclose body).lineFeeds) after ++
      [Scan.endToken (1 + Segment.feeds (before ++ e.enclose body :: after))], ?_, ?_⟩, ?_⟩
  · rw [String.toList_ofList]
    exact reading_iff.mpr cut'.split_eq.symm
  · rw [old, tokens_append, tokens_cons, e.token?_enclose, ← line_eq]
    simp only [List.append_assoc]
  · rw [new, tokens_append, tokens_cons, e.token?_enclose, ← line_eq, feeds_append, feeds_append,
      feeds_cons, feeds_cons, lines]
    simp only [List.append_assoc]
  · rw [new, old, faults_append, faults_append, faults_cons, faults_cons, e.fault?_enclose,
      e.fault?_enclose, lines]

/-- A comment between a number and a point, with a body that begins like a comment and ends with a
star in place of one with a quote. -/
theorem scan_other_body_star :
    let before : List Segment := [⟨.number, '1', []⟩]
    let after : List Segment := [⟨.symbol .dot, '.', []⟩, ⟨.number, '5', []⟩, ⟨.stray, '@', []⟩]
    Reading "1/*\"\n*/.5@".toList
        (before ++ Enclosure.blockComment.enclose ['"', '\n'] :: after) ∧
      Enclosure.blockComment.Admits ['/', '*', '\n', '*'] ∧
      (Scan.ofText "1/*/*\n**/.5@" "f").tokens = (Scan.ofText "1/*\"\n*/.5@" "f").tokens ∧
      (Scan.ofText "1/*/*\n**/.5@" "f").faults = (Scan.ofText "1/*\"\n*/.5@" "f").faults := by
  intro before after
  have reading : Reading "1/*\"\n*/.5@".toList
      (before ++ Enclosure.blockComment.enclose ['"', '\n'] :: after) :=
    reading_iff.mpr (by decide +kernel)
  have admits : Enclosure.blockComment.Admits ['/', '*', '\n', '*'] := by
    unfold Enclosure.Admits
    decide
  obtain ⟨-, ⟨below, old, new⟩, faults⟩ :=
    scan_other_body .blockComment "f" reading admits (by decide)
  exact ⟨reading, admits, new.trans old.symm, faults⟩

end LoxScan
