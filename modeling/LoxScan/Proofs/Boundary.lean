import LoxScan.Segment
import Mathlib

/-! Where segments end. `Leads s rest` says which segment stands before a given rest of a text, one
case for each form, with what must not follow it. A text begins with the segment `s` if and only if
`s` leads what is left of it, and the segments of a text are the only ones that make it up such that
each leads the rest. -/

namespace LoxScan

/-- Whether segments of this form reach to the end of the text because nothing closes them. -/
def Form.isOpen : Form → Bool
  | openString | openComment => true
  | _ => false

/-- Whether segments of this form have a body in which almost any character may stand. -/
def Form.hasBody : Form → Bool
  | lineComment | blockComment | openComment | string | openString => true
  | _ => false

namespace Segment

open Text

/-! ### The first character decides -/

/-- The ASCII digits. -/
def digits : List Char := ['0', '1', '2', '3', '4', '5', '6', '7', '8', '9']

theorem mem_digits_of_isDigit {c : Char} (h : isDigit c = true) : c ∈ digits := by
  simp only [isDigit, Bool.and_eq_true, decide_eq_true_eq] at h
  have low : 48 ≤ c.toNat := h.1
  have high : c.toNat ≤ 57 := h.2
  rw [← Char.ofNat_toNat c]
  interval_cases c.toNat <;> decide

/-- The characters that begin a segment other than a word or a stray character. -/
def others : List Char :=
  ['(', ')', '\x7b', '\x7d', ',', '.', '-', '+', ';', '*', '!', '=', '<', '>', '/', ' ', '\r', '\t',
    '\n', '"'] ++ digits

theorem not_isLetter_of_mem_others {c : Char} (h : c ∈ others) : isLetter c = false := by
  have all : others.all (!isLetter ·) = true := by decide +kernel
  simpa using List.all_eq_true.mp all c h

theorem not_mem_others_of_isLetter {c : Char} (h : isLetter c = true) : c ∉ others := by
  intro hc
  rw [not_isLetter_of_mem_others hc] at h
  exact Bool.false_ne_true h

theorem ofMark?_eq_none_of_ofPaired? {c : Char} {kinds : Kind × Kind}
    (h : Kind.ofPaired? c = some kinds) : Kind.ofMark? c = none := by
  unfold Kind.ofPaired? at h
  split at h <;> first | rfl | cases h

theorem first_of_ofMark? {c : Char} {kind : Kind} (h : Kind.ofMark? c = some kind) (r : List Char) :
    first c r = ⟨.symbol kind, c, []⟩ := by
  simp [first, h]

theorem first_of_ofPaired? {c : Char} {paired single : Kind}
    (h : Kind.ofPaired? c = some (paired, single)) (r : List Char) :
    first c r =
      if r.head? = some '=' then ⟨.symbol paired, c, ['=']⟩ else ⟨.symbol single, c, []⟩ := by
  simp [first, h, ofMark?_eq_none_of_ofPaired? h]

theorem first_slash (r : List Char) : first '/' r = ofSlash r := rfl

theorem first_of_isSpace {c : Char} (h : isSpace c = true) (r : List Char) :
    first c r = ⟨.blank, c, []⟩ := by
  simp only [isSpace, Bool.or_eq_true, beq_iff_eq] at h
  rcases h with (rfl | rfl) | rfl <;> rfl

theorem first_quote (r : List Char) : first '"' r = ofQuote r := rfl

theorem first_of_isDigit {c : Char} (h : isDigit c = true) (r : List Char) :
    first c r = ⟨.number, c, numberTail r⟩ := by
  have hc := mem_digits_of_isDigit h
  simp only [digits, List.mem_cons, List.not_mem_nil, or_false] at hc
  rcases hc with rfl | rfl | rfl | rfl | rfl | rfl | rfl | rfl | rfl | rfl <;> rfl

/-- A character with which no other form of segment than a stray character begins. -/
structure Strange (c : Char) : Prop where
  mark : Kind.ofMark? c = none
  paired : Kind.ofPaired? c = none
  slash : c ≠ '/'
  space : isSpace c = false
  lineFeed : c ≠ '\n'
  quote : c ≠ '"'
  digit : isDigit c = false
  letter : isLetter c = false

theorem first_of_strange {c : Char} (h : Strange c) (r : List Char) :
    first c r = ⟨.stray, c, []⟩ := by
  simp [first, h.mark, h.paired, h.slash, h.space, h.lineFeed, h.quote, h.digit, h.letter]

theorem first_of_isLetter {c : Char} (h : isLetter c = true) (r : List Char) :
    first c r = ⟨.word, c, r.takeWhile isWordPart⟩ := by
  have hc := not_mem_others_of_isLetter h
  have hm : Kind.ofMark? c = none := by
    unfold Kind.ofMark?
    split <;> first | rfl | exact absurd (by decide) hc
  have hp : Kind.ofPaired? c = none := by
    unfold Kind.ofPaired?
    split <;> first | rfl | exact absurd (by decide) hc
  have hd : isDigit c = false := by
    refine Bool.eq_false_iff.mpr fun hd => hc ?_
    exact List.mem_append_right _ (mem_digits_of_isDigit hd)
  simp only [others, List.cons_append, List.mem_cons, not_or] at hc
  have hs : isSpace c = false := by simp [isSpace, hc]
  simp [first, hm, hp, hd, hs, hc, h]

/-! ### Comments -/

theorem afterClose?_cons {c : Char} {r : List Char} (h : ¬ ['*', '/'] <+: c :: r) :
    afterClose? (c :: r) = afterClose? r := by
  rw [afterClose?]
  rintro r' rfl rfl
  exact h ⟨r', rfl⟩

theorem afterClose?_append {body : List Char} (h : ¬ ['*', '/'] <:+: body ++ ['*'])
    (rest : List Char) : afterClose? (body ++ '*' :: '/' :: rest) = some rest := by
  induction body with
  | nil => rfl
  | cons c body ih =>
    rw [List.cons_append, List.infix_cons_iff, not_or] at h
    rw [List.cons_append, afterClose?_cons, ih h.2]
    intro hp
    apply h.1
    cases body with
    | nil => simp at hp
    | cons d body => simpa using hp

theorem afterClose?_eq_none {cs : List Char} (h : ¬ ['*', '/'] <:+: cs) :
    afterClose? cs = none := by
  induction cs with
  | nil => rfl
  | cons c r ih =>
    rw [List.infix_cons_iff, not_or] at h
    rw [afterClose?_cons h.1, ih h.2]

/-- A text either holds a close of a comment, and then a first one, or none. -/
theorem close_cases (cs : List Char) :
    (∃ body rest, cs = body ++ '*' :: '/' :: rest ∧ ¬ ['*', '/'] <:+: body ++ ['*']) ∨
      ¬ ['*', '/'] <:+: cs := by
  induction cs with
  | nil => exact .inr (by simp)
  | cons c r ih =>
    by_cases hp : ['*', '/'] <+: c :: r
    · obtain ⟨rest, hr⟩ := hp
      exact .inl ⟨[], rest, hr.symm, by decide⟩
    rcases ih with ⟨body, rest, rfl, hb⟩ | hn
    · refine .inl ⟨c :: body, rest, rfl, ?_⟩
      rw [List.cons_append, List.infix_cons_iff, not_or]
      exact ⟨fun h => hp (h.trans ⟨'/' :: rest, by simp⟩), hb⟩
    · exact .inr (by rw [List.infix_cons_iff, not_or]; exact ⟨hp, hn⟩)

/-! ### Runs of characters of one kind -/

section Runs

variable {p : Char → Bool} {run rest : List Char}

theorem takeWhile_run (inside : ∀ x ∈ run, p x = true)
    (stop : ∀ x ∈ rest.head?, p x = false) : (run ++ rest).takeWhile p = run := by
  rw [List.takeWhile_append_of_pos inside]
  cases rest with
  | nil => simp
  | cons x rest => simp [stop x rfl]

theorem dropWhile_run (inside : ∀ x ∈ run, p x = true)
    (stop : ∀ x ∈ rest.head?, p x = false) : (run ++ rest).dropWhile p = rest := by
  rw [List.dropWhile_append_of_pos inside]
  cases rest with
  | nil => rfl
  | cons x rest => simp [stop x rfl]

theorem forall_bne {c : Char} (h : c ∉ run) : ∀ x ∈ run, (x != c) = true :=
  fun _ hx => bne_iff_ne.mpr (ne_of_mem_of_not_mem hx h)

theorem not_mem_of_forall {c : Char} (inside : ∀ x ∈ run, p x = true) (no : p c = false) :
    c ∉ run := by
  intro h
  rw [inside _ h] at no
  cases no

/-- Every text is a run of characters that pass `p` and a rest that does not begin with one. -/
theorem run_cases (p : Char → Bool) (cs : List Char) : ∃ run rest, cs = run ++ rest ∧
    (∀ x ∈ run, p x = true) ∧ ∀ x ∈ rest.head?, p x = false := by
  refine ⟨cs.takeWhile p, cs.dropWhile p, by simp, fun x hx => ?_, fun x hx => ?_⟩
  · exact List.mem_takeWhile_imp hx
  · have hp := List.head?_dropWhile_not p cs
    rw [Option.mem_def.mp hx] at hp
    simpa using hp

/-- No point with a digit behind it begins the text. -/
def NoFraction (cs : List Char) : Prop := ∀ d r, cs = '.' :: d :: r → isDigit d = false

theorem noFraction_or (cs : List Char) :
    NoFraction cs ∨ ∃ d r, cs = '.' :: d :: r ∧ isDigit d = true := by
  by_cases h : ∃ d r, cs = '.' :: d :: r ∧ isDigit d = true
  · exact .inr h
  · exact .inl fun d r hr => Bool.eq_false_iff.mpr fun hd => h ⟨d, r, hr, hd⟩

theorem numberTail_whole (inside : ∀ x ∈ run, isDigit x = true)
    (stop : ∀ x ∈ rest.head?, isDigit x = false) (point : NoFraction rest) :
    numberTail (run ++ rest) = run := by
  unfold numberTail
  rw [takeWhile_run inside stop, dropWhile_run inside stop]
  split
  · next d r => simp [point d r rfl]
  · rfl

theorem numberTail_fraction {d : Char} {part : List Char} (inside : ∀ x ∈ run, isDigit x = true)
    (hd : isDigit d = true) (hpart : ∀ x ∈ part, isDigit x = true)
    (stop : ∀ x ∈ rest.head?, isDigit x = false) :
    numberTail (run ++ '.' :: d :: (part ++ rest)) = run ++ '.' :: d :: part := by
  have hp : ∀ x ∈ ('.' :: d :: (part ++ rest)).head?, isDigit x = false := by
    intro x hx
    obtain rfl : '.' = x := by simpa using hx
    rfl
  unfold numberTail
  rw [takeWhile_run inside hp, dropWhile_run inside hp]
  simp [hd, takeWhile_run hpart stop]

end Runs

/-! ### Leading segments -/

/-- `Leads s rest`: before `rest` stands the segment `s`, whole and in the right form. What a
condition named `stop` or `point` rules out would make the segment longer. -/
inductive Leads : Segment → List Char → Prop
  | mark {c kind rest} (kinds : Kind.ofMark? c = some kind) : Leads ⟨.symbol kind, c, []⟩ rest
  | paired {c paired single rest} (kinds : Kind.ofPaired? c = some (paired, single)) :
      Leads ⟨.symbol paired, c, ['=']⟩ rest
  | single {c paired single rest} (kinds : Kind.ofPaired? c = some (paired, single))
      (stop : rest.head? ≠ some '=') : Leads ⟨.symbol single, c, []⟩ rest
  | slash {rest} (stop : rest.head? ≠ some '/' ∧ rest.head? ≠ some '*') :
      Leads ⟨.symbol .slash, '/', []⟩ rest
  | lineComment {body rest} (inside : '\n' ∉ body) (stop : ∀ x ∈ rest.head?, x = '\n') :
      Leads ⟨.lineComment, '/', '/' :: body⟩ rest
  | blockComment {body rest} (inside : ¬ ['*', '/'] <:+: body ++ ['*']) :
      Leads ⟨.blockComment, '/', '*' :: (body ++ ['*', '/'])⟩ rest
  | openComment {body} (inside : ¬ ['*', '/'] <:+: body) :
      Leads ⟨.openComment, '/', '*' :: body⟩ []
  | blank {c rest} (space : isSpace c = true) : Leads ⟨.blank, c, []⟩ rest
  | lineFeed {rest} : Leads ⟨.lineFeed, '\n', []⟩ rest
  | string {body rest} (inside : '"' ∉ body) : Leads ⟨.string, '"', body ++ ['"']⟩ rest
  | openString {body} (inside : '"' ∉ body) : Leads ⟨.openString, '"', body⟩ []
  | whole {c run rest} (digit : isDigit c = true) (inside : ∀ x ∈ run, isDigit x = true)
      (stop : ∀ x ∈ rest.head?, isDigit x = false) (point : NoFraction rest) :
      Leads ⟨.number, c, run⟩ rest
  | fraction {c run d part rest} (digit : isDigit c = true) (inside : ∀ x ∈ run, isDigit x = true)
      (digit' : isDigit d = true) (inside' : ∀ x ∈ part, isDigit x = true)
      (stop : ∀ x ∈ rest.head?, isDigit x = false) :
      Leads ⟨.number, c, run ++ '.' :: d :: part⟩ rest
  | word {c run rest} (letter : isLetter c = true) (inside : ∀ x ∈ run, isWordPart x = true)
      (stop : ∀ x ∈ rest.head?, isWordPart x = false) : Leads ⟨.word, c, run⟩ rest
  | stray {c rest} (strange : Strange c) : Leads ⟨.stray, c, []⟩ rest

/-- The segment that leads the rest of a text is the first one of the text. -/
theorem Leads.first_eq {s : Segment} {rest : List Char} (h : Leads s rest) :
    first s.head (s.tail ++ rest) = s := by
  cases h with
  | mark kinds => exact first_of_ofMark? kinds _
  | paired kinds => rw [first_of_ofPaired? kinds]; rfl
  | single kinds stop => rw [first_of_ofPaired? kinds, List.nil_append, if_neg stop]
  | slash stop =>
    rw [first_slash, List.nil_append]
    unfold ofSlash
    split
    · exact absurd rfl stop.1
    · exact absurd rfl stop.2
    · rfl
  | @lineComment body rest inside stop =>
    have hb : (body ++ rest).takeWhile (· != '\n') = body := by
      apply takeWhile_run (forall_bne inside)
      intro x hx
      simp [stop x hx]
    rw [first_slash, List.cons_append, ofSlash, hb]
  | @blockComment body rest inside =>
    have hb := afterClose?_append inside rest
    -- the segment takes as many characters as the text has more than what follows the close
    have hl : (body ++ '*' :: '/' :: rest).length - rest.length = (body ++ ['*', '/']).length := by
      simp only [List.length_append, List.length_cons, List.length_nil]
      omega
    have ht : (body ++ '*' :: '/' :: rest).take (body ++ ['*', '/']).length =
        body ++ ['*', '/'] := by
      have whole : body ++ '*' :: '/' :: rest = (body ++ ['*', '/']) ++ rest := by simp
      rw [whole, List.take_left]
    simp only [first_slash, List.cons_append, List.append_assoc, List.nil_append, ofSlash, hb, hl,
      ht]
  | openComment inside => simp [first_slash, ofSlash, afterClose?_eq_none inside]
  | blank space => exact first_of_isSpace space _
  | lineFeed => rfl
  | @string body rest inside =>
    have hq : ∀ x ∈ ('"' :: rest).head?, (x != '"') = false := by simp
    rw [first_quote, List.append_assoc, List.singleton_append, ofQuote,
      dropWhile_run (forall_bne inside) hq, takeWhile_run (forall_bne inside) hq]
  | @openString body inside =>
    have hb : body.dropWhile (· != '"') = [] :=
      List.dropWhile_eq_nil_iff.mpr (forall_bne inside)
    rw [first_quote, List.append_nil, ofQuote, hb]
  | whole digit inside stop point => rw [first_of_isDigit digit, numberTail_whole inside stop point]
  | fraction digit inside digit' inside' stop =>
    rw [first_of_isDigit digit, List.append_assoc, List.cons_append, List.cons_append,
      numberTail_fraction inside digit' inside' stop]
  | word letter inside stop => rw [first_of_isLetter letter, takeWhile_run inside stop]
  | stray strange => exact first_of_strange strange _

/-- A closed segment leads another text as well, if what is ruled out of the first characters of
what it led is ruled out there too. Here `p` stands for what must hold of the character behind
it. -/
theorem Leads.change {s : Segment} {rest more : List Char} (h : Leads s rest)
    (closed : s.form.isOpen = false)
    (head : ∀ p : Char → Prop, p '\n' → s.form = .lineComment ∨ p ' ' →
      (∀ x ∈ rest.head?, p x) → ∀ x ∈ more.head?, p x)
    (point : NoFraction rest → NoFraction more) : Leads s more := by
  have ne {c : Char} (feed : '\n' ≠ c) (space : ' ' ≠ c) (stop : rest.head? ≠ some c) :
      more.head? ≠ some c := fun hx =>
    head (· ≠ c) feed (.inr space) (fun x hx same => stop (same ▸ hx)) c hx rfl
  cases h with
  | mark kinds => exact .mark kinds
  | paired kinds => exact .paired kinds
  | single kinds stop => exact .single kinds (ne (by decide) (by decide) stop)
  | slash stop =>
    exact .slash ⟨ne (by decide) (by decide) stop.1, ne (by decide) (by decide) stop.2⟩
  | lineComment inside stop => exact .lineComment inside (head _ rfl (.inl rfl) stop)
  | blockComment inside => exact .blockComment inside
  | blank space => exact .blank space
  | lineFeed => exact .lineFeed
  | string inside => exact .string inside
  | whole digit inside stop noFraction =>
    exact .whole digit inside (head _ rfl (.inr rfl) stop) (point noFraction)
  | fraction digit inside digit' inside' stop =>
    exact .fraction digit inside digit' inside' (head _ rfl (.inr rfl) stop)
  | word letter inside stop =>
    have feed : isWordPart '\n' = false := by decide +kernel
    have space : isWordPart ' ' = false := by decide +kernel
    exact .word letter inside (head _ feed (.inr space) stop)
  | stray strange => exact .stray strange
  | openComment | openString => cases closed

/-- What is not part of a word, a point or an equals sign stands only at the head of a segment, or
in a body. -/
theorem Leads.not_mem_tail {s : Segment} {rest : List Char} (h : Leads s rest)
    (plain : s.form.hasBody = false) {x : Char} (digit : isDigit x = false)
    (part : isWordPart x = false) (sign : x ∉ ['.', '=']) : x ∉ s.tail := by
  rw [List.mem_pair, not_or] at sign
  cases h with
  | paired => simpa using sign.2
  | whole _ inside => exact not_mem_of_forall inside digit
  | fraction _ inside digit' inside' =>
    have part := not_mem_of_forall (List.forall_mem_cons.mpr ⟨digit', inside'⟩) digit
    rw [List.mem_append, List.mem_cons, not_or, not_or]
    exact ⟨not_mem_of_forall inside digit, sign.1, part⟩
  | word _ inside => exact not_mem_of_forall inside part
  | lineComment | blockComment | openComment | string | openString => cases plain
  | _ => simp

theorem Leads.unique {s t : Segment} {rest rest' : List Char} (hs : Leads s rest)
    (ht : Leads t rest') (same : s.text ++ rest = t.text ++ rest') : s = t := by
  obtain ⟨head, tail⟩ : s.head = t.head ∧ s.tail ++ rest = t.tail ++ rest' := List.cons.inj same
  rw [← hs.first_eq, ← ht.first_eq, head, tail]

/-! ### Every text has a leading segment -/

/-- The text `c :: r` begins with a segment that leads the rest of it. -/
def Begins (c : Char) (r : List Char) : Prop :=
  ∃ s rest, s.head = c ∧ s.tail ++ rest = r ∧ Leads s rest

theorem begins_slash (r : List Char) : Begins '/' r := by
  by_cases line : r.head? = some '/'
  · obtain ⟨r', rfl⟩ : ∃ r', r = '/' :: r' := List.head?_eq_some_iff.mp line
    obtain ⟨body, rest, rfl, inside, stop⟩ := run_cases (· != '\n') r'
    refine ⟨⟨.lineComment, '/', '/' :: body⟩, rest, rfl, rfl, .lineComment (fun hb => ?_) ?_⟩
    · exact absurd (inside '\n' hb) (by decide)
    · exact fun x hx => by simpa using stop x hx
  by_cases block : r.head? = some '*'
  · obtain ⟨r', rfl⟩ : ∃ r', r = '*' :: r' := List.head?_eq_some_iff.mp block
    rcases close_cases r' with ⟨body, rest, rfl, inside⟩ | inside
    · exact ⟨⟨.blockComment, '/', '*' :: (body ++ ['*', '/'])⟩, rest, rfl, by simp,
        .blockComment inside⟩
    · exact ⟨⟨.openComment, '/', '*' :: r'⟩, [], rfl, List.append_nil _, .openComment inside⟩
  · exact ⟨⟨.symbol .slash, '/', []⟩, r, rfl, rfl, .slash ⟨line, block⟩⟩

theorem begins_quote (r : List Char) : Begins '"' r := by
  by_cases closes : '"' ∈ r
  · obtain ⟨body, rest, rfl, inside⟩ := List.eq_append_cons_of_mem closes
    exact ⟨⟨.string, '"', body ++ ['"']⟩, rest, rfl, by simp, .string inside⟩
  · exact ⟨⟨.openString, '"', r⟩, [], rfl, List.append_nil r, .openString closes⟩

theorem begins_digit {c : Char} (h : isDigit c = true) (r : List Char) : Begins c r := by
  obtain ⟨run, rest, rfl, inside, stop⟩ := run_cases isDigit r
  rcases noFraction_or rest with point | ⟨d, r', rfl, hd⟩
  · exact ⟨⟨.number, c, run⟩, rest, rfl, rfl, .whole h inside stop point⟩
  · obtain ⟨part, rest, rfl, inside', stop'⟩ := run_cases isDigit r'
    exact ⟨⟨.number, c, run ++ '.' :: d :: part⟩, rest, rfl, by simp,
      .fraction h inside hd inside' stop'⟩

theorem begins (c : Char) (r : List Char) : Begins c r := by
  cases mark : Kind.ofMark? c with
  | some kind => exact ⟨⟨.symbol kind, c, []⟩, r, rfl, rfl, .mark mark⟩
  | none =>
  cases pair : Kind.ofPaired? c with
  | some kinds =>
    by_cases h : r.head? = some '='
    · obtain ⟨r', rfl⟩ : ∃ r', r = '=' :: r' := List.head?_eq_some_iff.mp h
      exact ⟨⟨.symbol kinds.1, c, ['=']⟩, r', rfl, rfl, .paired pair⟩
    · exact ⟨⟨.symbol kinds.2, c, []⟩, r, rfl, rfl, .single pair h⟩
  | none =>
  by_cases slash : c = '/'
  · exact slash ▸ begins_slash r
  by_cases quote : c = '"'
  · exact quote ▸ begins_quote r
  by_cases lineFeed : c = '\n'
  · exact ⟨⟨.lineFeed, '\n', []⟩, r, lineFeed.symm, rfl, .lineFeed⟩
  cases space : isSpace c with
  | true => exact ⟨⟨.blank, c, []⟩, r, rfl, rfl, .blank space⟩
  | false =>
  cases digit : isDigit c with
  | true => exact begins_digit digit r
  | false =>
  cases letter : isLetter c with
  | true =>
    obtain ⟨run, rest, rfl, inside, stop⟩ := run_cases isWordPart r
    exact ⟨⟨.word, c, run⟩, rest, rfl, rfl, .word letter inside stop⟩
  | false =>
    exact ⟨⟨.stray, c, []⟩, r, rfl, rfl,
      .stray ⟨mark, pair, slash, space, lineFeed, quote, digit, letter⟩⟩

/-- The first segment of a text leads what is left of it. -/
theorem leads_first (c : Char) (r : List Char) :
    Leads (first c r) (r.drop (first c r).tail.length) := by
  obtain ⟨s, rest, rfl, rfl, h⟩ := begins c r
  rw [h.first_eq, List.drop_left]
  exact h

/-! ### Cutting a text -/

/-- `Cut cs segments`: the segments make up the text `cs`, and each leads what follows it. -/
inductive Cut : List Char → List Segment → Prop
  | nil : Cut [] []
  | cons {s rest segments} (leads : Leads s rest) (cut : Cut rest segments) :
      Cut (s.text ++ rest) (s :: segments)

theorem Cut.split_eq {cs : List Char} {segments : List Segment} (h : Cut cs segments) :
    split cs = segments := by
  induction h with
  | nil => exact split_nil
  | @cons s rest segments leads _ ih =>
    rw [text, List.cons_append, split_cons, leads.first_eq, List.drop_left, ih]

theorem cut_split (cs : List Char) : Cut cs (split cs) := by
  -- on the length of the text, since what follows a segment is no tail of it by one constructor
  induction h : cs.length using Nat.strongRecOn generalizing cs with
  | _ n ih =>
    cases cs with
    | nil => rw [split_nil]; exact .nil
    | cons c r =>
      have hr : (r.drop (first c r).tail.length).length < n := by
        rw [← h, List.length_drop, List.length_cons]; omega
      rw [split_cons]
      have cut := Cut.cons (leads_first c r) (ih _ hr _ rfl)
      rwa [text_first_append] at cut

/-- The segments of a text are the only ones that make it up with each leading the rest. -/
theorem cut_iff {cs : List Char} {segments : List Segment} :
    Cut cs segments ↔ split cs = segments :=
  ⟨Cut.split_eq, fun h => h ▸ cut_split cs⟩

theorem Cut.leads_of_mem {cs : List Char} {segments : List Segment} (h : Cut cs segments)
    {s : Segment} (hs : s ∈ segments) : ∃ rest, Leads s rest := by
  induction h with
  | nil => cases hs
  | cons leads _ ih =>
    rcases List.mem_cons.mp hs with rfl | hs
    · exact ⟨_, leads⟩
    · exact ih hs

end Segment

end LoxScan
