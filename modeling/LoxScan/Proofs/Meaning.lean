import LoxScan.Proofs.Grammar
import LoxScan.Proofs.Numeral
import LoxScan.Proofs.Run

/-! The tokens and the faults of a text, read off its reading by the longest match: one token for
each symbol, string, number and word, one fault for each stray character and each string or comment
that never closes, in order, and the token of the end of the text after all others. -/

namespace LoxScan

namespace Form

/-- Whether segments of this form make tokens. -/
def makesToken : Form → Bool
  | symbol _ | string | number | word => true
  | _ => false

/-- Whether segments of this form are at fault. -/
def isFaulty : Form → Bool
  | stray | openString | openComment => true
  | _ => false

end Form

namespace Grammar

open Segment

/-- `Denotes s kind literal`: the segment `s` makes a token of this kind with this value. -/
inductive Denotes : Segment → Kind → Option Literal → Prop
  | symbol {c tail kind} (spelled : (c :: tail, kind) ∈ spellings) :
      Denotes ⟨.symbol kind, c, tail⟩ kind none
  | string {body : List Char} :
      Denotes ⟨.string, '"', body ++ ['"']⟩ .string (some (.text (String.ofList body)))
  | number {c tail x} (value : Double.read? (String.ofList (c :: tail)) = some x) :
      Denotes ⟨.number, c, tail⟩ .number (some (.number x))
  | keyword {c tail} {word : Keyword} (spelled : String.ofList (c :: tail) = word.spelling) :
      Denotes ⟨.word, c, tail⟩ (.keyword word) none
  | identifier {c tail} (free : ∀ word : Keyword, String.ofList (c :: tail) ≠ word.spelling) :
      Denotes ⟨.word, c, tail⟩ .identifier none

/-- `Blames filename s f`: the fault of the segment `s` is `f`, on some line. -/
inductive Blames (filename : String) : Segment → Fault → Prop
  | stray {c tail line} :
      Blames filename ⟨.stray, c, tail⟩ (Fault.strayCharacter c ⟨filename, line⟩)
  | openString {c tail line} :
      Blames filename ⟨.openString, c, tail⟩ (Fault.openString ⟨filename, line⟩)
  | openComment {c tail line} :
      Blames filename ⟨.openComment, c, tail⟩ (Fault.openComment ⟨filename, line⟩)

theorem ofSpelling?_spelling (word : Keyword) : Keyword.ofSpelling? word.spelling = some word := by
  cases word <;> decide

theorem ofSpelling?_eq_some_iff {s : String} {word : Keyword} :
    Keyword.ofSpelling? s = some word ↔ s = word.spelling := by
  constructor
  · intro h
    have found := List.find?_some h
    exact (beq_iff_eq.mp found).symm
  · rintro rfl
    exact ofSpelling?_spelling word

/-- What a leading segment makes is what the grammar says. -/
theorem exists_token_of_leads {s : Segment} {rest : List Char} (h : Leads s rest)
    (token : s.form.makesToken = true) (line : Int) : ∃ t, s.token? line = some t ∧
      t.lexeme = String.ofList s.text ∧ t.line = line ∧ Denotes s t.kind t.literal := by
  cases h with
  | mark kinds => exact ⟨_, rfl, rfl, rfl, .symbol (mem_spellings_of_ofMark? kinds)⟩
  | paired kinds => exact ⟨_, rfl, rfl, rfl, .symbol (mem_spellings_of_ofPaired? kinds).1⟩
  | single kinds => exact ⟨_, rfl, rfl, rfl, .symbol (mem_spellings_of_ofPaired? kinds).2⟩
  | slash => exact ⟨_, rfl, rfl, rfl, .symbol (by decide)⟩
  | string =>
    refine ⟨_, rfl, rfl, rfl, ?_⟩
    simp only [List.dropLast_concat]
    exact .string
  | whole digit inside stop point =>
    have numeral := Numeral.of_leads (.whole digit inside stop point) rfl
    exact ⟨_, rfl, rfl, rfl, .number numeral.read?_eq⟩
  | fraction digit inside digit' inside' stop =>
    have numeral := Numeral.of_leads (.fraction digit inside digit' inside' stop) rfl
    exact ⟨_, rfl, rfl, rfl, .number numeral.read?_eq⟩
  | @word c run =>
    refine ⟨_, rfl, rfl, rfl, ?_⟩
    simp only [text, Kind.ofWord]
    cases h : Keyword.ofSpelling? (String.ofList (c :: run)) with
    | some word => exact .keyword (ofSpelling?_eq_some_iff.mp h)
    | none =>
      refine .identifier fun word spelled => ?_
      rw [spelled, ofSpelling?_spelling] at h
      cases h
  | _ => cases token

theorem token?_eq_none {s : Segment} (token : s.form.makesToken = false) (line : Int) :
    s.token? line = none := by
  obtain ⟨form, c, tail⟩ := s
  cases form <;> first | rfl | cases token

theorem exists_fault {s : Segment} (fault : s.form.isFaulty = true) (filename : String)
    (line : Int) : ∃ f, s.fault? filename line = some f ∧ Blames filename s f ∧
      f.line = if s.form = .openString then line + s.lineFeeds else line := by
  obtain ⟨form, c, tail⟩ := s
  cases form with
  | stray => exact ⟨_, rfl, .stray, rfl⟩
  | openString => exact ⟨_, rfl, .openString, rfl⟩
  | openComment => exact ⟨_, rfl, .openComment, rfl⟩
  | _ => cases fault

theorem fault?_eq_none {s : Segment} (fault : s.form.isFaulty = false) (filename : String)
    (line : Int) : s.fault? filename line = none := by
  obtain ⟨form, c, tail⟩ := s
  cases form <;> first | rfl | cases fault

theorem kind_ne_endOfText {s : Segment} {kind : Kind} {literal : Option Literal}
    (h : Denotes s kind literal) : kind ≠ .endOfText := by
  cases h with
  | symbol spelled =>
    rintro rfl
    simp [spellings] at spelled
  | _ => simp

/-- A list filtered by a test stands beside its image under a partial map that is defined where the
test passes. -/
theorem forall₂_filterMap {α β : Type} {R : α → β → Prop} {p : α → Bool} {f : α → Option β}
    {xs : List α} (yes : ∀ x ∈ xs, p x = true → ∃ y, f x = some y ∧ R x y)
    (no : ∀ x ∈ xs, p x = false → f x = none) : List.Forall₂ R (xs.filter p) (xs.filterMap f) := by
  induction xs with
  | nil => exact .nil
  | cons x xs ih =>
    have rest := ih (fun y hy => yes y (by simp [hy])) (fun y hy => no y (by simp [hy]))
    cases hp : p x with
    | true =>
      obtain ⟨y, hf, hr⟩ := yes x (by simp) hp
      rw [List.filter_cons_of_pos hp, List.filterMap_cons_some hf]
      exact .cons hr rest
    | false =>
      rw [List.filter_cons_of_neg (by simp [hp]), List.filterMap_cons_none (no x (by simp) hp)]
      exact rest

/-- What holds of the located segments that pass a test holds of the segments that pass it. -/
theorem forall₂_of_located {β : Type} {R : Segment → β → Prop} {p : Segment → Bool} {ys : List β}
    (line : Int) {segments : List Segment}
    (h : List.Forall₂ (fun q y => R q.2 y) ((located line segments).filter (p ·.2)) ys) :
    List.Forall₂ R (segments.filter p) ys := by
  rw [← map_snd_located line segments, List.filter_map, List.forall₂_map_left_iff]
  exact h

theorem tokens_denoted {cs : List Char} {segments : List Segment} (h : Cut cs segments)
    (line : Int) :
    List.Forall₂ (fun s t => t.lexeme = String.ofList s.text ∧ Denotes s t.kind t.literal)
      (segments.filter (·.form.makesToken)) (Segment.tokens line segments) := by
  refine forall₂_of_located line (forall₂_filterMap (fun q hq token => ?_) fun q _ => ?_)
  · obtain ⟨rest, leads⟩ := h.leads_of_mem (mem_of_mem_located hq)
    obtain ⟨t, ht, lexeme, -, denotes⟩ := exists_token_of_leads leads token q.1
    exact ⟨t, ht, lexeme, denotes⟩
  · exact fun token => token?_eq_none token q.1

theorem kind_ne_endOfText_of_mem {cs : List Char} {segments : List Segment} (h : Cut cs segments)
    {line : Int} {t : Token} (ht : t ∈ Segment.tokens line segments) : t.kind ≠ .endOfText := by
  obtain ⟨q, hq, made⟩ := List.mem_filterMap.mp ht
  obtain ⟨rest, leads⟩ := h.leads_of_mem (mem_of_mem_located hq)
  cases token : q.2.form.makesToken with
  | true =>
    obtain ⟨t', made', -, -, denotes⟩ := exists_token_of_leads leads token q.1
    cases made.symm.trans made'
    exact kind_ne_endOfText denotes
  | false => cases (token?_eq_none token q.1).symm.trans made

theorem faults_blamed (filename : String) (line : Int) (segments : List Segment) :
    List.Forall₂ (Blames filename) (segments.filter (·.form.isFaulty))
      (Segment.faults filename line segments) := by
  refine forall₂_of_located line (forall₂_filterMap (fun q _ fault => ?_) fun q _ => ?_)
  · obtain ⟨f, hf, blames, -⟩ := exists_fault fault filename q.1
    exact ⟨f, hf, blames⟩
  · exact fun fault => fault?_eq_none fault filename q.1

/-- A text has exactly one reading by the longest match, and the scan of the text holds what the
segments of that reading mean: their tokens in order, then one token of the end of the text, and
their faults in order. -/
theorem scan_reading (source filename : String) :
    ∃ segments, (∀ other, Reading source.toList other ↔ other = segments) ∧
      (∃ tokens line, (Scan.ofText source filename).tokens =
          tokens ++ [⟨.endOfText, "", none, line⟩] ∧
        List.Forall₂ (fun s t => t.lexeme = String.ofList s.text ∧ Denotes s t.kind t.literal)
          (segments.filter (·.form.makesToken)) tokens ∧
        ∀ t ∈ tokens, t.kind ≠ .endOfText) ∧
      List.Forall₂ (Blames filename) (segments.filter (·.form.isFaulty))
        (Scan.ofText source filename).faults := by
  refine ⟨split source.toList, fun _ => reading_iff, ?_, ?_⟩
  · have cut := cut_split source.toList
    exact ⟨_, _, Scan.tokens_ofText source filename, tokens_denoted cut 1,
      fun _ => kind_ne_endOfText_of_mem cut⟩
  · rw [Scan.faults_ofText]
    exact faults_blamed filename 1 _

end Grammar

end LoxScan
