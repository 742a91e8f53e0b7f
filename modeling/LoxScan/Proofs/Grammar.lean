import LoxScan.Proofs.Boundary

/-! The lexical grammar as classes of pieces of text, and its reading by the longest match. A class
says what a piece looks like and, for comments and strings that reach to the end, what may follow
it; it does not say where the piece ends. A text is read by taking, over and over, the longest piece
of any class that stands at its start. There is one such reading of every text: its segments. -/

namespace LoxScan.Grammar

open Text Segment

/-- The spellings of the symbols. -/
def spellings : List (List Char × Kind) :=
  [(['('], .leftParen), ([')'], .rightParen), (['\x7b'], .leftBrace), (['\x7d'], .rightBrace),
    ([','], .comma), (['.'], .dot), (['-'], .minus), (['+'], .plus), ([';'], .semicolon),
    (['*'], .star), (['/'], .slash), (['!'], .bang), (['!', '='], .bangEqual), (['='], .equal),
    (['=', '='], .equalEqual), (['>'], .greater), (['>', '='], .greaterEqual), (['<'], .less),
    (['<', '='], .lessEqual)]

/-- `Class form piece rest`: before `rest`, `piece` is in the class of `form`. The class of stray
characters is left out; it is made of what no other class begins with. -/
inductive Class : Form → List Char → List Char → Prop
  | symbol {piece kind rest} (spelled : (piece, kind) ∈ spellings) :
      Class (.symbol kind) piece rest
  | lineComment {body rest} (inside : '\n' ∉ body) (stop : rest = [] ∨ ∃ r, rest = '\n' :: r) :
      Class .lineComment ('/' :: '/' :: body) rest
  | blockComment {body rest} (firstClose : ¬ ['*', '/'] <:+: body ++ ['*']) :
      Class .blockComment ('/' :: '*' :: (body ++ ['*', '/'])) rest
  | openComment {body} (noClose : ¬ ['*', '/'] <:+: body) :
      Class .openComment ('/' :: '*' :: body) []
  | blank {c rest} (space : c = ' ' ∨ c = '\r' ∨ c = '\t') : Class .blank [c] rest
  | lineFeed {rest} : Class .lineFeed ['\n'] rest
  | string {body rest} (inside : '"' ∉ body) : Class .string ('"' :: (body ++ ['"'])) rest
  | openString {body} (noClose : '"' ∉ body) : Class .openString ('"' :: body) []
  | whole {c run rest} (digits : ∀ x ∈ c :: run, isDigit x = true) :
      Class .number (c :: run) rest
  | fraction {c run d part rest} (digits : ∀ x ∈ c :: run, isDigit x = true)
      (digits' : ∀ x ∈ d :: part, isDigit x = true) :
      Class .number (c :: (run ++ '.' :: d :: part)) rest
  | word {c run rest} (letter : isLetter c = true)
      (parts : ∀ x ∈ run, isLetter x = true ∨ isDecimalDigit x = true) : Class .word (c :: run) rest

/-- `Matches form piece rest`: before `rest`, `piece` is in the class of `form`, which may be any
other single character. -/
def Matches (form : Form) (piece rest : List Char) : Prop :=
  Class form piece rest ∨
    form = .stray ∧ ∃ c, piece = [c] ∧ ∀ other tail rest, ¬ Class other (c :: tail) rest

/-- A match that no other match at the same place is longer than. -/
def Longest (form : Form) (piece rest : List Char) : Prop :=
  Matches form piece rest ∧ ∀ other piece' rest', Matches other piece' rest' →
    piece' ++ rest' = piece ++ rest → piece'.length ≤ piece.length

/-- `Reading cs segments`: the segments make up the text `cs`, and each is the longest match at its
place. -/
inductive Reading : List Char → List Segment → Prop
  | nil : Reading [] []
  | cons {s rest segments} (longest : Longest s.form s.text rest)
      (reading : Reading rest segments) : Reading (s.text ++ rest) (s :: segments)

/-! ### The first characters of the classes -/

theorem mem_spellings_of_ofMark? {c : Char} {kind : Kind} (h : Kind.ofMark? c = some kind) :
    ([c], kind) ∈ spellings := by
  unfold Kind.ofMark? at h
  split at h <;> first | (cases h; decide) | cases h

theorem mem_spellings_of_ofPaired? {c : Char} {paired single : Kind}
    (h : Kind.ofPaired? c = some (paired, single)) :
    ([c, '='], paired) ∈ spellings ∧ ([c], single) ∈ spellings := by
  unfold Kind.ofPaired? at h
  split at h <;> first | (cases h; decide) | cases h

theorem mem_spellings_cases {c : Char} {tail : List Char} {kind : Kind}
    (h : (c :: tail, kind) ∈ spellings) :
    (tail = [] ∧ Kind.ofMark? c = some kind) ∨
      (∃ paired single, Kind.ofPaired? c = some (paired, single) ∧
        (tail = ['='] ∧ kind = paired ∨ tail = [] ∧ kind = single)) ∨
      c = '/' ∧ tail = [] ∧ kind = .slash := by
  simp only [spellings, List.mem_cons, Prod.mk.injEq, List.cons.injEq, List.not_mem_nil,
    or_false] at h
  rcases h with h | h | h | h | h | h | h | h | h | h | h | h | h | h | h | h | h | h | h <;>
    obtain ⟨⟨rfl, rfl⟩, rfl⟩ := h <;> simp [Kind.ofMark?, Kind.ofPaired?]

theorem not_class_of_strange {c : Char} (h : Strange c) (other : Form) (tail rest : List Char) :
    ¬ Class other (c :: tail) rest := by
  rintro hc
  cases hc with
  | symbol spelled =>
    rcases mem_spellings_cases spelled with ⟨-, hm⟩ | ⟨_, _, hp, -⟩ | ⟨hs, -⟩
    · cases h.mark.symm.trans hm
    · cases h.paired.symm.trans hp
    · exact h.slash hs
  | lineComment | blockComment | openComment => exact h.slash rfl
  | blank space =>
    have hs := h.space
    simp [isSpace] at hs
    tauto
  | lineFeed => exact h.lineFeed rfl
  | string | openString => exact h.quote rfl
  | whole digits | fraction digits =>
    exact Bool.false_ne_true (h.digit.symm.trans (digits c (by simp)))
  | word letter => exact Bool.false_ne_true (h.letter.symm.trans letter)

theorem strange_of_not_class {c : Char} (h : ∀ other tail rest, ¬ Class other (c :: tail) rest) :
    Strange c where
  mark := by
    by_contra hm
    obtain ⟨kind, hm⟩ := Option.ne_none_iff_exists'.mp hm
    exact h _ [] [] (.symbol (mem_spellings_of_ofMark? hm))
  paired := by
    by_contra hp
    obtain ⟨kinds, hp⟩ := Option.ne_none_iff_exists'.mp hp
    exact h _ [] [] (.symbol (mem_spellings_of_ofPaired? hp).2)
  slash := by
    rintro rfl
    exact h (.symbol .slash) [] [] (.symbol (by decide))
  space := by
    refine Bool.eq_false_iff.mpr fun hs => h .blank [] [] (.blank ?_)
    simpa [isSpace, or_assoc] using hs
  lineFeed := by
    rintro rfl
    exact h _ [] [] .lineFeed
  quote := by
    rintro rfl
    exact h _ [] [] (.openString (by simp))
  digit := Bool.eq_false_iff.mpr fun hd => h _ [] [] (.whole (by simpa using hd))
  letter := Bool.eq_false_iff.mpr fun hl => h _ [] [] (.word hl (by simp))

/-! ### The longest match is the leading segment -/

theorem matches_of_leads {s : Segment} {rest : List Char} (h : Leads s rest) :
    Matches s.form s.text rest := by
  cases h with
  | mark kinds => exact .inl (.symbol (mem_spellings_of_ofMark? kinds))
  | paired kinds => exact .inl (.symbol (mem_spellings_of_ofPaired? kinds).1)
  | single kinds => exact .inl (.symbol (mem_spellings_of_ofPaired? kinds).2)
  | slash => exact .inl (.symbol (by decide))
  | lineComment inside stop =>
    refine .inl (.lineComment inside ?_)
    cases rest with
    | nil => exact .inl rfl
    | cons x r => exact .inr ⟨r, by rw [stop x rfl]⟩
  | blockComment inside => exact .inl (.blockComment inside)
  | openComment inside => exact .inl (.openComment inside)
  | blank space => exact .inl (.blank (by simpa [isSpace, or_assoc] using space))
  | lineFeed => exact .inl .lineFeed
  | string inside => exact .inl (.string inside)
  | openString inside => exact .inl (.openString inside)
  | whole digit inside => exact .inl (.whole (List.forall_mem_cons.mpr ⟨digit, inside⟩))
  | fraction digit inside digit' inside' =>
    exact .inl (.fraction (List.forall_mem_cons.mpr ⟨digit, inside⟩)
      (List.forall_mem_cons.mpr ⟨digit', inside'⟩))
  | word letter inside =>
    exact .inl (.word letter fun x hx => by simpa [isWordPart] using inside x hx)
  | @stray c _ strange => exact .inr ⟨rfl, c, rfl, not_class_of_strange strange⟩

/-- A longer segment leads some rest of the same text. -/
def Shorter (s : Segment) (rest : List Char) : Prop :=
  ∃ longer rest', Leads longer rest' ∧ longer.text ++ rest' = s.text ++ rest ∧
    s.text.length < longer.text.length

theorem tail_first_slash_pos {r : List Char} (h : r.head? = some '/' ∨ r.head? = some '*') :
    0 < (first '/' r).tail.length := by
  rw [first_slash]
  rcases h with h | h <;> obtain ⟨r', rfl⟩ := List.head?_eq_some_iff.mp h
  · simp [ofSlash]
  · simp only [ofSlash]
    split <;> simp

theorem leads_or_shorter_symbol {c : Char} {tail : List Char} {kind : Kind}
    (spelled : (c :: tail, kind) ∈ spellings) (rest : List Char) :
    Leads ⟨.symbol kind, c, tail⟩ rest ∨ Shorter ⟨.symbol kind, c, tail⟩ rest := by
  rcases mem_spellings_cases spelled with ⟨rfl, hm⟩ | ⟨paired, single, hp, h⟩ | ⟨rfl, rfl, rfl⟩
  · exact .inl (.mark hm)
  · rcases h with ⟨rfl, rfl⟩ | ⟨rfl, rfl⟩
    · exact .inl (.paired hp)
    by_cases stop : rest.head? = some '='
    · obtain ⟨r, rfl⟩ := List.head?_eq_some_iff.mp stop
      exact .inr ⟨_, r, .paired hp, rfl, by simp [text]⟩
    · exact .inl (.single hp stop)
  · -- a slash is short of a comment if a slash or a star follows
    by_cases stop : rest.head? = some '/' ∨ rest.head? = some '*'
    · exact .inr ⟨_, _, leads_first '/' rest, text_first_append '/' rest,
        by simpa [text] using tail_first_slash_pos stop⟩
    · rw [not_or] at stop
      exact .inl (.slash stop)

theorem leads_or_shorter_whole {c : Char} {run : List Char}
    (digits : ∀ x ∈ c :: run, isDigit x = true) (rest : List Char) :
    Leads ⟨.number, c, run⟩ rest ∨ Shorter ⟨.number, c, run⟩ rest := by
  obtain ⟨digit, inside⟩ := List.forall_mem_cons.mp digits
  obtain ⟨more, rest, rfl, inside', stop⟩ := run_cases isDigit rest
  have hrun : ∀ x ∈ run ++ more, isDigit x = true := by
    simpa [or_imp, forall_and] using ⟨inside, inside'⟩
  rcases noFraction_or rest with point | ⟨d, r, rfl, hd⟩
  · have leads := Leads.whole digit hrun stop point
    cases more with
    | nil => exact .inl (by simpa using leads)
    | cons x more => exact .inr ⟨_, rest, leads, by simp [text], by simp [text]⟩
  · -- the digits behind the point make it longer, however many digits stand before the point
    obtain ⟨part, rest, rfl, hpart, stop'⟩ := run_cases isDigit r
    refine .inr ⟨_, rest, .fraction digit hrun hd hpart stop', by simp [text], ?_⟩
    simp only [text, List.length_cons, List.length_append]
    omega

theorem leads_or_shorter_fraction {c d : Char} {run part : List Char}
    (digits : ∀ x ∈ c :: run, isDigit x = true) (digits' : ∀ x ∈ d :: part, isDigit x = true)
    (rest : List Char) :
    Leads ⟨.number, c, run ++ '.' :: d :: part⟩ rest ∨
      Shorter ⟨.number, c, run ++ '.' :: d :: part⟩ rest := by
  obtain ⟨digit, inside⟩ := List.forall_mem_cons.mp digits
  obtain ⟨digit', inside'⟩ := List.forall_mem_cons.mp digits'
  obtain ⟨more, rest, rfl, hmore, stop⟩ := run_cases isDigit rest
  have hpart : ∀ x ∈ part ++ more, isDigit x = true := by
    simpa [or_imp, forall_and] using ⟨inside', hmore⟩
  have leads := Leads.fraction digit inside digit' hpart stop
  cases more with
  | nil => exact .inl (by simpa using leads)
  | cons x more => exact .inr ⟨_, rest, leads, by simp [text], by simp [text]⟩

theorem leads_or_shorter_word {c : Char} {run : List Char} (letter : isLetter c = true)
    (parts : ∀ x ∈ run, isLetter x = true ∨ isDecimalDigit x = true) (rest : List Char) :
    Leads ⟨.word, c, run⟩ rest ∨ Shorter ⟨.word, c, run⟩ rest := by
  obtain ⟨more, rest, rfl, inside, stop⟩ := run_cases isWordPart rest
  have hrun : ∀ x ∈ run ++ more, isWordPart x = true := by
    intro x hx
    rcases List.mem_append.mp hx with hx | hx
    · simpa [isWordPart] using parts x hx
    · exact inside x hx
  have leads := Leads.word letter hrun stop
  cases more with
  | nil => exact .inl (by simpa using leads)
  | cons x more => exact .inr ⟨_, rest, leads, by simp [text], by simp [text]⟩

/-- A match is the leading segment or a shorter piece. -/
theorem leads_or_shorter {form : Form} {piece rest : List Char} (h : Matches form piece rest) :
    ∃ c tail, piece = c :: tail ∧ (Leads ⟨form, c, tail⟩ rest ∨ Shorter ⟨form, c, tail⟩ rest) := by
  rcases h with h | ⟨rfl, c, rfl, other⟩
  · cases h with
    | symbol spelled =>
      cases piece with
      | nil => simp [spellings] at spelled
      | cons c tail => exact ⟨c, tail, rfl, leads_or_shorter_symbol spelled rest⟩
    | lineComment inside stop =>
      refine ⟨_, _, rfl, .inl (.lineComment inside ?_)⟩
      rcases stop with rfl | ⟨r, rfl⟩ <;> simp
    | blockComment firstClose => exact ⟨_, _, rfl, .inl (.blockComment firstClose)⟩
    | openComment noClose => exact ⟨_, _, rfl, .inl (.openComment noClose)⟩
    | blank space => exact ⟨_, _, rfl, .inl (.blank (by simpa [isSpace, or_assoc] using space))⟩
    | lineFeed => exact ⟨_, _, rfl, .inl .lineFeed⟩
    | string inside => exact ⟨_, _, rfl, .inl (.string inside)⟩
    | openString noClose => exact ⟨_, _, rfl, .inl (.openString noClose)⟩
    | whole digits => exact ⟨_, _, rfl, leads_or_shorter_whole digits rest⟩
    | fraction digits digits' => exact ⟨_, _, rfl, leads_or_shorter_fraction digits digits' rest⟩
    | word letter parts => exact ⟨_, _, rfl, leads_or_shorter_word letter parts rest⟩
  · exact ⟨c, [], rfl, .inl (.stray (strange_of_not_class other))⟩

theorem longest_iff_leads {s : Segment} {rest : List Char} :
    Longest s.form s.text rest ↔ Leads s rest := by
  constructor
  · rintro ⟨hm, longest⟩
    obtain ⟨form, head, tail⟩ := s
    obtain ⟨_, _, same, h⟩ := leads_or_shorter hm
    cases same
    rcases h with h | ⟨longer, rest', leads, same, lt⟩
    · exact h
    · exact absurd (longest _ _ _ (matches_of_leads leads) same) (Nat.not_le.mpr lt)
  · intro leads
    refine ⟨matches_of_leads leads, fun other piece rest' hm same => ?_⟩
    obtain ⟨c, tail, rfl, h | ⟨longer, rest'', leads', same', lt⟩⟩ := leads_or_shorter hm
    · rw [leads.unique h same.symm]
      exact Nat.le_refl _
    · rw [leads.unique leads' (same.symm.trans same'.symm)]
      exact Nat.le_of_lt lt

/-- The segments of a text are its one reading. -/
theorem reading_iff {cs : List Char} {segments : List Segment} :
    Reading cs segments ↔ segments = split cs := by
  rw [eq_comm, ← cut_iff]
  constructor
  · intro h
    induction h with
    | nil => exact .nil
    | cons longest _ ih => exact .cons (longest_iff_leads.mp longest) ih
  · intro h
    induction h with
    | nil => exact .nil
    | cons leads _ ih => exact .cons (longest_iff_leads.mpr leads) ih

end LoxScan.Grammar
