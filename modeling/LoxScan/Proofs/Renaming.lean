import LoxScan.Proofs.Meaning

/-! Characters and their classes. The grammar names the letters and digits of ASCII, its marks, the
quote, the blanks and the line feed; of all other characters it asks only whether they are letters
or decimal digits. So when these others are replaced by others of their class, a text is cut as
before, and its scan finds the same tokens with the characters replaced, and the same faults. The
null character is one of them: it is in a body, or it is a stray character. -/

namespace LoxScan

open Text Segment Grammar

/-! ### Classes of characters -/

/-- The characters that the grammar names. -/
def Named (c : Char) : Prop := c.isAlpha = true ∨ c ∈ others

instance : DecidablePred Named := fun c =>
  inferInstanceAs (Decidable (c.isAlpha = true ∨ c ∈ others))

/-- Whether `c` is beyond ASCII. -/
def Beyond (c : Char) : Prop := 128 ≤ c.toNat

instance : DecidablePred Beyond := fun c => inferInstanceAs (Decidable (128 ≤ c.toNat))

/-- The characters that the grammar does not name and that are no letters and no decimal digits
beyond ASCII. -/
def Remaining (c : Char) : Prop :=
  ¬ Named c ∧ ¬ (Beyond c ∧ isLetter c = true) ∧ ¬ (Beyond c ∧ isDecimalDigit c = true)

instance : DecidablePred Remaining := fun c =>
  inferInstanceAs (Decidable
    (¬ Named c ∧ ¬ (Beyond c ∧ isLetter c = true) ∧ ¬ (Beyond c ∧ isDecimalDigit c = true)))

/-- A map of characters that keeps to their classes. The characters that the grammar names stay as
they are. -/
structure Classwise (f : Char → Char) : Prop where
  named : ∀ c, Named c → f c = c
  letter : ∀ c, Beyond c → isLetter c = true → Beyond (f c) ∧ isLetter (f c) = true
  decimal : ∀ c, Beyond c → isDecimalDigit c = true → Beyond (f c) ∧ isDecimalDigit (f c) = true
  remaining : ∀ c, Remaining c → Remaining (f c)

theorem Named.not_beyond {c : Char} (h : Named c) : ¬ Beyond c := by
  rcases h with h | h
  · simp only [Char.isAlpha, Char.isUpper, Char.isLower, Bool.or_eq_true, Bool.and_eq_true,
      decide_eq_true_eq, ge_iff_le, UInt32.le_iff_toNat_le] at h
    change (65 ≤ c.toNat ∧ c.toNat ≤ 90) ∨ (97 ≤ c.toNat ∧ c.toNat ≤ 122) at h
    rw [Beyond]
    omega
  · have ascii : others.all (·.toNat < 128) = true := by decide +kernel
    exact Nat.not_le.mpr (by simpa using List.all_eq_true.mp ascii c h)

/-- Below 128 the letters are those of ASCII, and the decimal digits are its digits. -/
theorem named_of_class {c : Char} (h : isLetter c = true ∨ isDecimalDigit c = true)
    (low : ¬ Beyond c) : Named c := by
  have ascii : ∀ n < 128, letters.contains n = true ∨ decimalDigits.contains n = true →
      Named (Char.ofNat n) := by decide +kernel
  have found := ascii c.toNat (Nat.not_le.mp low) h
  rwa [Char.ofNat_toNat] at found

/-- No letter is a decimal digit. -/
theorem isLetter_eq_false_of_isDecimalDigit {c : Char} (h : isDecimalDigit c = true) :
    isLetter c = false := by
  have apart : (decimalDigits.table.toList.all fun q => letters.table.toList.all fun p =>
      Nat.blt p.2 q.1 || Nat.blt q.2 p.1) = true := by decide +kernel
  refine Bool.eq_false_iff.mpr fun letter => ?_
  obtain ⟨q, hq, low, high⟩ := Ranges.exists_mem_of_contains h
  obtain ⟨p, hp, low', high'⟩ := Ranges.exists_mem_of_contains letter
  have beside := List.all_eq_true.mp (List.all_eq_true.mp apart q (by simpa using hq)) p
    (by simpa using hp)
  simp only [Bool.or_eq_true, Nat.blt_eq] at beside
  omega

namespace Classwise

variable {f : Char → Char} (h : Classwise f)
include h

theorem named_iff (c : Char) : Named (f c) ↔ Named c := by
  refine ⟨fun image => ?_, fun named => (h.named c named).symm ▸ named⟩
  -- of the four classes, only the first one has a named image
  by_contra other
  by_cases letter : Beyond c ∧ isLetter c = true
  · exact image.not_beyond (h.letter c letter.1 letter.2).1
  by_cases decimal : Beyond c ∧ isDecimalDigit c = true
  · exact image.not_beyond (h.decimal c decimal.1 decimal.2).1
  · exact (h.remaining c ⟨other, letter, decimal⟩).1 image

theorem eq_iff {x : Char} (hx : Named x) (c : Char) : f c = x ↔ c = x := by
  constructor
  · intro image
    have named : Named c := (h.named_iff c).mp (image ▸ hx)
    exact (h.named c named).symm.trans image
  · rintro rfl
    exact h.named c hx

/-- What tells apart only named characters does not see the map. -/
theorem congr {α : Type} {g : Char → α} {d : α} (off : ∀ x, ¬ Named x → g x = d) (c : Char) :
    g (f c) = g c := by
  by_cases named : Named c
  · rw [h.named c named]
  · rw [off c named, off (f c) (mt (h.named_iff c).mp named)]

theorem isLetter_eq (c : Char) : isLetter (f c) = isLetter c := by
  by_cases named : Named c
  · rw [h.named c named]
  by_cases letter : isLetter c = true
  · have beyond : Beyond c := by_contra fun low => named (named_of_class (.inl letter) low)
    rw [letter, (h.letter c beyond letter).2]
  rw [Bool.eq_false_iff.mpr letter]
  by_cases decimal : Beyond c ∧ isDecimalDigit c = true
  · exact isLetter_eq_false_of_isDecimalDigit (h.decimal c decimal.1 decimal.2).2
  obtain ⟨unnamed, other, -⟩ := h.remaining c ⟨named, fun both => letter both.2, decimal⟩
  refine Bool.eq_false_iff.mpr fun image => other ⟨?_, image⟩
  exact by_contra fun low => unnamed (named_of_class (.inl image) low)

theorem isDecimalDigit_eq (c : Char) : isDecimalDigit (f c) = isDecimalDigit c := by
  by_cases named : Named c
  · rw [h.named c named]
  by_cases decimal : isDecimalDigit c = true
  · have beyond : Beyond c := by_contra fun low => named (named_of_class (.inr decimal) low)
    rw [decimal, (h.decimal c beyond decimal).2]
  rw [Bool.eq_false_iff.mpr decimal]
  refine Bool.eq_false_iff.mpr fun image => ?_
  by_cases letter : isLetter c = true
  · have still := h.isLetter_eq c
    rw [isLetter_eq_false_of_isDecimalDigit image, letter] at still
    cases still
  · obtain ⟨unnamed, -, other⟩ :=
      h.remaining c ⟨named, fun both => letter both.2, fun both => decimal both.2⟩
    have beyond : Beyond (f c) := by_contra fun low => unnamed (named_of_class (.inr image) low)
    exact other ⟨beyond, image⟩

theorem isWordPart_eq (c : Char) : isWordPart (f c) = isWordPart c := by
  rw [isWordPart, isWordPart, h.isLetter_eq, h.isDecimalDigit_eq]

theorem isDigit_eq (c : Char) : isDigit (f c) = isDigit c :=
  h.congr (fun _ unnamed => Bool.eq_false_iff.mpr fun digit =>
    unnamed (.inr (List.mem_append_right _ (mem_digits_of_isDigit digit)))) c

theorem isSpace_eq (c : Char) : isSpace (f c) = isSpace c := by
  refine h.congr (fun x unnamed => Bool.eq_false_iff.mpr fun space => unnamed (.inr ?_)) c
  simp only [isSpace, Bool.or_eq_true, beq_iff_eq] at space
  rcases space with (rfl | rfl) | rfl <;> decide

theorem ofMark?_eq (c : Char) : Kind.ofMark? (f c) = Kind.ofMark? c := by
  refine h.congr (d := none) (fun x unnamed => ?_) c
  unfold Kind.ofMark?
  split <;> first | rfl | exact absurd (by decide) unnamed

theorem ofPaired?_eq (c : Char) : Kind.ofPaired? (f c) = Kind.ofPaired? c := by
  refine h.congr (d := none) (fun x unnamed => ?_) c
  unfold Kind.ofPaired?
  split <;> first | rfl | exact absurd (by decide) unnamed

end Classwise

/-! ### Segments of a text with its characters replaced -/

namespace Segment

/-- A segment with its characters replaced. -/
def map (f : Char → Char) (s : Segment) : Segment :=
  { s with head := f s.head, tail := s.tail.map f }

theorem text_map (f : Char → Char) (s : Segment) : (s.map f).text = s.text.map f := rfl

/-- What the class of a character decides holds of the first character of the image as well. -/
theorem forall_head?_map {f : Char → Char} {p q : Char → Prop} (image : ∀ x, p x → q (f x))
    {cs : List Char} (head : ∀ x ∈ cs.head?, p x) : ∀ x ∈ (cs.map f).head?, q x := by
  cases cs with
  | nil => simp
  | cons c cs => simpa using image c (head c rfl)

theorem forall_map {f : Char → Char} {p : Char → Bool} (same : ∀ c, p (f c) = p c) {run : List Char}
    (inside : ∀ x ∈ run, p x = true) : ∀ x ∈ run.map f, p x = true := by
  simpa [same] using inside

section

variable {f : Char → Char} (h : Classwise f)
include h

/-- A list of named characters is the image of no other list. -/
theorem map_eq_iff {named : List Char} (all : ∀ x ∈ named, Named x) (cs : List Char) :
    cs.map f = named ↔ cs = named := by
  induction named generalizing cs with
  | nil => exact List.map_eq_nil_iff
  | cons x named ih =>
    rw [List.forall_mem_cons] at all
    cases cs with
    | nil => simp
    | cons c cs =>
      rw [List.map_cons, List.cons.injEq, List.cons.injEq, h.eq_iff all.1, ih all.2]

theorem mem_map_iff {x : Char} (named : Named x) (cs : List Char) : x ∈ cs.map f ↔ x ∈ cs := by
  simp [h.eq_iff named]

theorem head?_map_eq_iff {x : Char} (named : Named x) (cs : List Char) :
    (cs.map f).head? = some x ↔ cs.head? = some x := by
  simp [List.head?_map, Option.map_eq_some_iff, h.eq_iff named]

theorem close_map_iff (cs : List Char) : ['*', '/'] <:+: cs.map f ↔ ['*', '/'] <:+: cs := by
  have close : ∀ x ∈ ['*', '/'], Named x :=
    List.forall_mem_cons.mpr ⟨by decide, List.forall_mem_singleton.mpr (by decide)⟩
  rw [List.infix_map_iff]
  constructor
  · rintro ⟨part, inside, image⟩
    rwa [← (map_eq_iff h close part).mp image.symm]
  · exact fun inside => ⟨_, inside, ((map_eq_iff h close _).mpr rfl).symm⟩

theorem noFraction_map {cs : List Char} (point : NoFraction cs) : NoFraction (cs.map f) := by
  intro d r same
  obtain ⟨x, cs, rfl, hx, below⟩ := List.map_eq_cons_iff.mp same
  obtain ⟨y, cs, rfl, rfl, -⟩ := List.map_eq_cons_iff.mp below
  obtain rfl := (h.eq_iff (by decide) x).mp hx
  rw [h.isDigit_eq]
  exact point y cs rfl

theorem lineFeeds_map (cs : List Char) : Text.lineFeeds (cs.map f) = Text.lineFeeds cs := by
  rw [Text.lineFeeds, Text.lineFeeds, List.count, List.countP_map]
  refine List.countP_congr fun c _ => ?_
  simp [h.eq_iff (x := '\n') (by decide)]

theorem Strange.map {c : Char} (strange : Strange c) : Strange (f c) where
  mark := (h.ofMark?_eq c).trans strange.mark
  paired := (h.ofPaired?_eq c).trans strange.paired
  slash := mt (h.eq_iff (by decide) c).mp strange.slash
  space := (h.isSpace_eq c).trans strange.space
  lineFeed := mt (h.eq_iff (by decide) c).mp strange.lineFeed
  quote := mt (h.eq_iff (by decide) c).mp strange.quote
  digit := (h.isDigit_eq c).trans strange.digit
  letter := (h.isLetter_eq c).trans strange.letter

/-- A segment that leads a text still leads it when the characters of both are replaced. -/
theorem Leads.map {s : Segment} {rest : List Char} (leads : Leads s rest) :
    Leads (s.map f) (rest.map f) := by
  have fixed {x : Char} (named : Named x) : f x = x := h.named x named
  cases leads with
  | mark kinds => exact .mark ((h.ofMark?_eq _).trans kinds)
  | paired kinds =>
    have sign : f '=' = '=' := fixed (by decide)
    simp only [Segment.map, List.map_cons, List.map_nil, sign]
    exact .paired ((h.ofPaired?_eq _).trans kinds)
  | single kinds stop =>
    exact .single ((h.ofPaired?_eq _).trans kinds) (mt (head?_map_eq_iff h (by decide) _).mp stop)
  | slash stop =>
    rw [Segment.map, fixed (by decide)]
    exact .slash ⟨mt (head?_map_eq_iff h (by decide) _).mp stop.1,
      mt (head?_map_eq_iff h (by decide) _).mp stop.2⟩
  | lineComment inside stop =>
    simp only [Segment.map, List.map_cons, fixed (show Named '/' by decide)]
    refine .lineComment (mt (mem_map_iff h (by decide) _).mp inside) ?_
    exact forall_head?_map (fun x hx => (h.eq_iff (by decide) x).mpr hx) stop
  | @blockComment body _ inside =>
    have marks : f '/' = '/' ∧ f '*' = '*' := ⟨fixed (by decide), fixed (by decide)⟩
    simp only [Segment.map, List.map_cons, List.map_append, List.map_nil, marks]
    have close := mt (close_map_iff h (body ++ ['*'])).mp inside
    rw [List.map_append, List.map_singleton, marks.2] at close
    exact .blockComment close
  | openComment inside =>
    simp only [Segment.map, List.map_cons, List.map_nil, fixed (show Named '/' by decide),
      fixed (show Named '*' by decide)]
    exact .openComment (mt (close_map_iff h _).mp inside)
  | blank space => exact .blank ((h.isSpace_eq _).trans space)
  | lineFeed =>
    rw [Segment.map, fixed (by decide)]
    exact .lineFeed
  | string inside =>
    simp only [Segment.map, List.map_append, List.map_cons, List.map_nil,
      fixed (show Named '"' by decide)]
    exact .string (mt (mem_map_iff h (by decide) _).mp inside)
  | openString inside =>
    simp only [Segment.map, List.map_nil, fixed (show Named '"' by decide)]
    exact .openString (mt (mem_map_iff h (by decide) _).mp inside)
  | whole digit inside stop point =>
    refine .whole ((h.isDigit_eq _).trans digit) (forall_map h.isDigit_eq inside) ?_
      (noFraction_map h point)
    exact forall_head?_map (fun x hx => (h.isDigit_eq x).trans hx) stop
  | fraction digit inside digit' inside' stop =>
    simp only [Segment.map, List.map_append, List.map_cons, fixed (show Named '.' by decide)]
    refine .fraction ((h.isDigit_eq _).trans digit) (forall_map h.isDigit_eq inside)
      ((h.isDigit_eq _).trans digit') (forall_map h.isDigit_eq inside') ?_
    exact forall_head?_map (fun x hx => (h.isDigit_eq x).trans hx) stop
  | word letter inside stop =>
    refine .word ((h.isLetter_eq _).trans letter) (forall_map h.isWordPart_eq inside) ?_
    exact forall_head?_map (fun x hx => (h.isWordPart_eq x).trans hx) stop
  | stray strange => exact .stray (strange.map h)

theorem Cut.map {cs : List Char} {segments : List Segment} (cut : Cut cs segments) :
    Cut (cs.map f) (segments.map (Segment.map f)) := by
  induction cut with
  | nil => exact .nil
  | cons leads _ ih =>
    rw [List.map_append, List.map_cons, ← text_map]
    exact .cons (leads.map h) ih

end

end Segment

/-! ### Tokens and faults -/

theorem Text.map_ofList (f : Char → Char) (cs : List Char) :
    (String.ofList cs).map f = String.ofList (cs.map f) := by
  rw [← String.toList_inj]
  simp

/-- A literal with its characters replaced. Numbers stay as they are. -/
def Literal.map (f : Char → Char) : Literal → Literal
  | text s => text (s.map f)
  | number x => number x

/-- A token with the characters of its lexeme and of its value replaced. -/
def Token.map (f : Char → Char) (t : Token) : Token :=
  { t with lexeme := t.lexeme.map f, literal := t.literal.map (Literal.map f) }

/-- A fault without its help: its kind, its place, and how it is reported. -/
def Fault.gist (f : Fault) : FaultKind × Location × String × String :=
  (f.kind, f.diagnostic.location, f.diagnostic.context, f.diagnostic.message)

theorem Fault.gist_strayCharacter (c : Char) (location : Location) :
    (strayCharacter c location).gist = (.strayCharacter, location, "", "Unexpected character.") :=
  rfl

namespace Segment

variable {f : Char → Char} (h : Classwise f)
include h

/-- The reserved words consist of named characters, so no other word becomes one. -/
theorem ofWord_map (cs : List Char) :
    Kind.ofWord (String.ofList (cs.map f)) = Kind.ofWord (String.ofList cs) := by
  have named : ∀ word : Keyword, ∀ x ∈ word.spelling.toList, Named x := by
    intro word x hx
    have letters : word.spelling.toList.all Char.isAlpha = true := by cases word <;> decide
    exact .inl (List.all_eq_true.mp letters x hx)
  have same : Keyword.ofSpelling? (String.ofList (cs.map f)) =
      Keyword.ofSpelling? (String.ofList cs) := by
    ext word
    have image := map_eq_iff h (named word) cs
    rw [ofSpelling?_eq_some_iff, ofSpelling?_eq_some_iff, ← String.toList_inj,
      ← String.toList_inj, String.toList_ofList, String.toList_ofList, image]
  rw [Kind.ofWord, same, Kind.ofWord]

theorem text_map_of_number {s : Segment} {rest : List Char} (leads : Leads s rest)
    (number : s.form = .number) : (s.map f).text = s.text := by
  have named : ('.' :: digits).all (Named ·) = true := by decide +kernel
  have all := (Numeral.of_leads leads number).forall_mem named
  exact (map_eq_iff h (fun x hx => of_decide_eq_true (all x hx)) _).mpr rfl

theorem meaning?_map {s : Segment} {rest : List Char} (leads : Leads s rest) :
    (s.map f).meaning? = s.meaning?.map fun m => (m.1, m.2.map (Literal.map f)) := by
  have number (form : s.form = .number) :
      (s.map f).meaning? = s.meaning?.map fun m => (m.1, m.2.map (Literal.map f)) := by
    have same := text_map_of_number h leads form
    simp only [meaning?, form, show (s.map f).form = s.form from rfl, same]
    rfl
  cases leads with
  | whole | fraction => exact number rfl
  | string => simp [Segment.map, meaning?, Literal.map, Text.map_ofList]
  | @word c run =>
    have same := ofWord_map h (c :: run)
    simp only [meaning?, Segment.map, text]
    exact congrArg (fun kind => some (kind, none)) same
  | _ => rfl

theorem token?_map {s : Segment} {rest : List Char} (leads : Leads s rest) (line : Int) :
    (s.map f).token? line = (s.token? line).map (Token.map f) := by
  rw [token?, token?, meaning?_map h leads, Option.map_map, Option.map_map]
  congr 1
  funext m
  simp only [Function.comp_apply, Token.map, text_map, Text.map_ofList]

theorem lineFeeds_segment_map (s : Segment) : (s.map f).lineFeeds = s.lineFeeds :=
  lineFeeds_map h s.text

theorem gist_fault?_map (s : Segment) (filename : String) (line : Int) :
    ((s.map f).fault? filename line).map Fault.gist =
      (s.fault? filename line).map Fault.gist := by
  have feeds := lineFeeds_segment_map h s
  obtain ⟨form, c, tail⟩ := s
  cases form with
  | stray =>
    exact congrArg some ((Fault.gist_strayCharacter (f c) ⟨filename, line⟩).trans
      (Fault.gist_strayCharacter c ⟨filename, line⟩).symm)
  | openString =>
    exact congrArg (fun n : Nat => some (Fault.openString ⟨filename, line + n⟩).gist) feeds
  | _ => rfl

theorem tokens_map {cs : List Char} {segments : List Segment} (cut : Cut cs segments) (line : Int) :
    tokens line (segments.map (Segment.map f)) = (tokens line segments).map (Token.map f) := by
  induction cut generalizing line with
  | nil => rfl
  | cons leads _ ih =>
    rw [List.map_cons, tokens_cons, tokens_cons, token?_map h leads, lineFeeds_segment_map h, ih,
      List.map_append, Option.toList_map]

theorem gist_faults_map (filename : String) (line : Int) (segments : List Segment) :
    (faults filename line (segments.map (Segment.map f))).map Fault.gist =
      (faults filename line segments).map Fault.gist := by
  induction segments generalizing line with
  | nil => rfl
  | cons s segments ih =>
    rw [List.map_cons, faults_cons, faults_cons, List.map_append, List.map_append,
      lineFeeds_segment_map h, ih, ← Option.toList_map, ← Option.toList_map, gist_fault?_map h]

end Segment

/-! ### Where characters are -/

namespace Segment

/-- Every character of a text is in one of its segments. -/
theorem Cut.exists_around {cs a b : List Char} {x : Char} {segments : List Segment}
    (cut : Cut cs segments) (same : cs = a ++ x :: b) :
    ∃ before s after u v rest, segments = before ++ s :: after ∧ Leads s rest ∧
      before.flatMap text ++ u = a ∧ s.text = u ++ x :: v ∧ v ++ after.flatMap text = b := by
  induction cut generalizing a with
  | nil => simp at same
  | @cons s rest segments leads cut ih =>
    rcases List.append_eq_append_iff.mp same with ⟨a', rfl, below⟩ | ⟨v, here, behind⟩
    · obtain ⟨before, t, after, u, v, rest, rfl, leads, ha, ht, hb⟩ := ih below
      exact ⟨s :: before, t, after, u, v, rest, rfl, leads, by simp [← ha], ht, hb⟩
    cases v with
    | nil =>
      obtain ⟨before, t, after, u, v, rest, rfl, leads, ha, ht, hb⟩ := ih (a := []) behind.symm
      refine ⟨s :: before, t, after, u, v, rest, rfl, leads, ?_, ht, hb⟩
      rw [List.flatMap_cons, List.append_assoc, ha, List.append_nil, here, List.append_nil]
    | cons y v =>
      obtain ⟨rfl, below⟩ := List.cons.inj behind
      refine ⟨[], s, segments, a, v, rest, rfl, leads, rfl, here, ?_⟩
      rw [cut.flatMap_text, below]
      rfl

/-- A null character is in the body of a comment or a string, or a stray character. -/
theorem Leads.null {s : Segment} {rest : List Char} (leads : Leads s rest)
    (null : '\x00' ∈ s.text) : s.form.hasBody = true ∨ s = ⟨.stray, '\x00', []⟩ := by
  by_cases plain : s.form.hasBody = false
  · have tail := leads.not_mem_tail plain (x := '\x00') rfl (by decide +kernel) (by decide)
    have head : '\x00' = s.head := (List.mem_cons.mp null).resolve_right tail
    have strange : Strange '\x00' :=
      ⟨rfl, rfl, by decide, rfl, by decide, by decide, rfl, by decide +kernel⟩
    have first := leads.first_eq
    rw [← head, first_of_strange strange] at first
    exact .inr first.symm
  · exact .inl (by simpa using plain)

end Segment

/-- Scanning sees the characters that the grammar does not name only through their classes. When a
map keeps the named characters, and takes letters beyond ASCII to such letters, decimal digits
beyond ASCII to such digits and every remaining character to a remaining one, then the scan of a
text under the map finds the tokens of the text with their lexemes and strings under the map, and
the same faults but for their helps. The null character is a remaining one. Wherever it stands in a
text, it is in the body of a comment or a string, or it is a stray character, and what follows it is
read. -/
theorem scan_map {f : Char → Char} (classwise : Classwise f) (source filename : String) :
    (Scan.ofText (source.map f) filename).tokens =
        (Scan.ofText source filename).tokens.map (Token.map f) ∧
      (Scan.ofText (source.map f) filename).faults.map Fault.gist =
        (Scan.ofText source filename).faults.map Fault.gist ∧
      ∀ a b, source.toList = a ++ '\x00' :: b →
        ∃ before s after u v, Reading source.toList (before ++ s :: after) ∧
          before.flatMap text ++ u = a ∧ s.text = u ++ '\x00' :: v ∧
          v ++ after.flatMap text = b ∧ (s.form.hasBody = true ∨ s = ⟨.stray, '\x00', []⟩) := by
  have cut := cut_split source.toList
  have image := (cut.map classwise).split_eq
  refine ⟨?_, ?_, fun a b same => ?_⟩
  · have last (line : Int) : (Scan.endToken line).map f = Scan.endToken line := by
      simp [Token.map, Scan.endToken]
    rw [Scan.tokens_ofText, Scan.tokens_ofText, String.toList_map, image, tokens_map classwise cut,
      lineFeeds_map classwise, List.map_append, List.map_singleton, last]
  · rw [Scan.faults_ofText, Scan.faults_ofText, String.toList_map, image, gist_faults_map classwise]
  · obtain ⟨before, s, after, u, v, rest, segments, leads, ha, ht, hb⟩ := cut.exists_around same
    have null : '\x00' ∈ s.text := by simp [ht]
    exact ⟨before, s, after, u, v, reading_iff.mpr segments.symm, ha, ht, hb, leads.null null⟩

/-- Takes the null character to another remaining one and back, a letter to another and a digit to
one of another script. -/
def swapped : Char → Char
  | '\x00' => '#'
  | '#' => '\x00'
  | '\u00e9' => '\u00df'
  | '\u0663' => '\u096b'
  | c => c

theorem classwise_swapped : Classwise swapped where
  named c := by
    unfold swapped
    split
    case h_5 => exact fun _ => rfl
    all_goals decide +kernel
  letter c := by
    unfold swapped
    split
    case h_5 => exact And.intro
    all_goals decide +kernel
  decimal c := by
    unfold swapped
    split
    case h_5 => exact And.intro
    all_goals decide +kernel
  remaining c := by
    unfold swapped
    split
    case h_5 => exact id
    all_goals decide +kernel

/-- A text with null characters behind a word, in a string and in a number. -/
def nullText : String := "if\x00 \u00e9\u0663\"\x00\u00e9\"1\x00.5#"

theorem scan_map_swapped : Classwise swapped ∧
    (Scan.ofText (nullText.map swapped) "f").tokens =
        (Scan.ofText nullText "f").tokens.map (Token.map swapped) ∧
      (Scan.ofText (nullText.map swapped) "f").faults.map Fault.gist =
        (Scan.ofText nullText "f").faults.map Fault.gist := by
  obtain ⟨tokens, faults, -⟩ := scan_map classwise_swapped nullText "f"
  exact ⟨classwise_swapped, tokens, faults⟩

end LoxScan
