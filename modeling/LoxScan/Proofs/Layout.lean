import LoxScan.Proofs.Meaning

/-! Tokens written out and scanned again. Each token is put on its line, behind line feeds and one
space. Its lexeme ends where the space or line feed of the next token begins, so the scan finds the
same tokens on the same lines, and no fault. -/

namespace LoxScan

/-- `n` line feeds and a space. -/
def gap (n : Nat) : List Char := List.replicate n '\n' ++ [' ']

/-- The text that is written already, with tokens behind it, each on its line. There is no way back
to a line above. -/
def typeset? (written : List Char) : List Token → Option (List Char)
  | [] => some written
  | t :: ts =>
    let down := t.line - (1 + Text.lineFeeds written)
    if 0 ≤ down then typeset? (written ++ gap down.toNat ++ t.lexeme.toList) ts else none

theorem typeset?_cons {written : List Char} {t : Token} {n : Nat}
    (down : t.line = 1 + Text.lineFeeds written + n) (ts : List Token) :
    typeset? written (t :: ts) = typeset? (written ++ gap n ++ t.lexeme.toList) ts := by
  have same : t.line - (1 + Text.lineFeeds written) = n := by omega
  simp only [typeset?, same, Int.natCast_nonneg, if_true, Int.toNat_natCast]

namespace Segment

open Grammar

/-- The segments of line feeds and a space. -/
def gapSegments (n : Nat) : List Segment :=
  List.replicate n ⟨.lineFeed, '\n', []⟩ ++ [⟨.blank, ' ', []⟩]

theorem lineFeeds_gap (n : Nat) : Text.lineFeeds (gap n) = n := by
  rw [gap, lineFeeds_append, Text.lineFeeds, List.count_replicate_self]
  rfl

theorem flatMap_text_gapSegments (n : Nat) : (gapSegments n).flatMap text = gap n := by
  rw [gapSegments, gap, List.flatMap_append, List.flatMap_replicate]
  simp [text, List.flatten_replicate_singleton]

theorem feeds_gapSegments (n : Nat) : feeds (gapSegments n) = n := by
  rw [feeds, flatMap_text_gapSegments, lineFeeds_gap]

theorem Cut.gap {cs : List Char} {segments : List Segment} (cut : Cut cs segments) (n : Nat) :
    Cut (LoxScan.gap n ++ cs) (gapSegments n ++ segments) := by
  induction n with
  | zero => exact .cons (.blank rfl) cut
  | succ n ih => exact .cons .lineFeed ih

theorem mem_gapSegments {n : Nat} {s : Segment} (h : s ∈ gapSegments n) :
    s.form.makesToken = false ∧ s.form.isFaulty = false := by
  rcases List.mem_append.mp h with h | h
  · rw [(List.mem_replicate.mp h).2]
    exact ⟨rfl, rfl⟩
  · rw [List.mem_singleton.mp h]
    exact ⟨rfl, rfl⟩

theorem tokens_eq_nil {line : Int} {segments : List Segment}
    (h : ∀ s ∈ segments, s.form.makesToken = false) : tokens line segments = [] := by
  rw [tokens, List.filterMap_eq_nil_iff]
  exact fun q hq => token?_eq_none (h q.2 (mem_of_mem_located hq)) q.1

theorem faults_eq_nil {filename : String} {line : Int} {segments : List Segment}
    (h : ∀ s ∈ segments, s.form.isFaulty = false) : faults filename line segments = [] := by
  rw [faults, List.filterMap_eq_nil_iff]
  exact fun q hq => fault?_eq_none (h q.2 (mem_of_mem_located hq)) filename q.1

theorem tokens_gapSegments (line : Int) (n : Nat) : Segment.tokens line (gapSegments n) = [] :=
  tokens_eq_nil fun _ hs => (mem_gapSegments hs).1

theorem closed_of_makesToken {form : Form} (h : form.makesToken = true) :
    form.isOpen = false ∧ form.isFaulty = false ∧ form ≠ .lineComment := by
  cases form with
  | symbol | string | number | word => exact ⟨rfl, rfl, by simp⟩
  | _ => cases h

/-- A token segment also leads what begins with a space or a line feed. -/
theorem Leads.separated {s : Segment} {rest more : List Char} (h : Leads s rest)
    (token : s.form.makesToken = true) (separate : ∀ x ∈ more.head?, x = ' ' ∨ x = '\n') :
    Leads s more := by
  obtain ⟨closed, -, noComment⟩ := closed_of_makesToken token
  refine h.change closed (fun p feed space _ x hx => ?_) fun _ d r same => ?_
  · rcases separate x hx with rfl | rfl
    · exact space.resolve_left noComment
    · exact feed
  · rcases separate '.' (by rw [same]; rfl) with point | point <;> cases point

theorem head?_gap (n : Nat) (cs : List Char) :
    ∀ x ∈ (LoxScan.gap n ++ cs).head?, x = ' ' ∨ x = '\n' := by
  intro x hx
  cases n with
  | zero => exact .inl (Option.mem_some.mp hx).symm
  | succ n => exact .inr (Option.mem_some.mp hx).symm

/-- Behind the text `written`, `more` is the text of the tokens `ts` and of the end on line `last`,
and its segments make these tokens on the same lines without fault. -/
structure Relaid (written : List Char) (ts : List Token) (last : Int) (more : List Char)
    (segments : List Segment) : Prop where
  typeset : typeset? written (ts ++ [Scan.endToken last]) = some (written ++ more)
  cut : Cut more segments
  tokens : Segment.tokens (1 + Text.lineFeeds written) segments = ts
  sound : ∀ s ∈ segments, s.form.isFaulty = false
  reaches : 1 + Text.lineFeeds written + Text.lineFeeds more = last
  separate : ∀ x ∈ more.head?, x = ' ' ∨ x = '\n'

theorem relaid_end {written : List Char} {line : Int} (room : 1 + Text.lineFeeds written ≤ line) :
    ∃ more segments, Relaid written [] line more segments := by
  obtain ⟨n, hn⟩ := Int.eq_ofNat_of_zero_le (Int.sub_nonneg_of_le room)
  refine ⟨LoxScan.gap n, gapSegments n, ?_, ?_, ?_, ?_, ?_, ?_⟩
  · have down : line = 1 + Text.lineFeeds written + n := by omega
    rw [List.nil_append, typeset?_cons down]
    simp [typeset?, Scan.endToken]
  · simpa using Cut.nil.gap n
  · exact tokens_gapSegments _ n
  · exact fun s hs => (mem_gapSegments hs).2
  · rw [lineFeeds_gap]
    omega
  · simpa using head?_gap n []

/-- A token set before others. -/
theorem Relaid.cons {written more : List Char} {s : Segment} {rest : List Char} {t : Token}
    {ts : List Token} {last : Int} {segments : List Segment} {n : Nat} (leads : Leads s rest)
    (made : s.token? t.line = some t) (hn : t.line = 1 + Text.lineFeeds written + n)
    (h : Relaid (written ++ LoxScan.gap n ++ s.text) ts last more segments) :
    Relaid written (t :: ts) last (LoxScan.gap n ++ (s.text ++ more))
      (gapSegments n ++ s :: segments) := by
  have token : s.form.makesToken = true := by
    by_contra no
    rw [token?_eq_none (Bool.eq_false_iff.mpr no)] at made
    cases made
  obtain ⟨t', made', lexeme, -, -⟩ := exists_token_of_leads leads token t.line
  cases made.symm.trans made'
  have line : (1 : Int) + Text.lineFeeds (written ++ LoxScan.gap n ++ s.text) =
      t.line + s.lineFeeds := by
    rw [lineFeeds_append, lineFeeds_append, lineFeeds_gap, lineFeeds_text, hn]
    omega
  constructor
  · rw [List.cons_append, typeset?_cons hn, lexeme, String.toList_ofList, h.typeset]
    simp
  · exact (Cut.cons (leads.separated token h.separate) h.cut).gap n
  · rw [tokens_append, tokens_gapSegments, feeds_gapSegments, ← hn, tokens_cons, made, ← line,
      h.tokens]
    rfl
  · intro s' hs'
    rcases List.mem_append.mp hs' with hs' | hs'
    · exact (mem_gapSegments hs').2
    rcases List.mem_cons.mp hs' with rfl | hs'
    · exact (closed_of_makesToken token).2.1
    · exact h.sound s' hs'
  · have reaches := h.reaches
    rw [line] at reaches
    rw [lineFeeds_append, lineFeeds_append, lineFeeds_gap, lineFeeds_text, ← reaches, hn]
    omega
  · exact head?_gap n _

theorem line_of_token? {s : Segment} {line : Int} {t : Token} (made : s.token? line = some t) :
    t.line = line := by
  obtain ⟨_, -, rfl⟩ := Option.map_eq_some_iff.mp made
  rfl

/-- The tokens of segments can be set behind a text that does not reach below their first line. -/
theorem exists_relaid {segments : List Segment} (leads : ∀ s ∈ segments, ∃ rest, Leads s rest)
    {written : List Char} {line : Int} (room : 1 + Text.lineFeeds written ≤ line) :
    ∃ more segments', Relaid written (Segment.tokens line segments) (line + feeds segments) more
      segments' := by
  induction segments generalizing written line with
  | nil => simpa using relaid_end room
  | cons s segments ih =>
    have leads' : ∀ s ∈ segments, ∃ rest, Leads s rest := fun s hs => leads s (by simp [hs])
    rw [tokens_cons, feeds_cons, Int.natCast_add, ← Int.add_assoc]
    cases made : s.token? line with
    | none =>
      -- nothing is written, and there is at least as much room on the lines further down
      exact ih leads' (by omega)
    | some t =>
      obtain ⟨rest, hs⟩ := leads s (by simp)
      have line_t := line_of_token? made
      obtain ⟨n, hn⟩ := Int.eq_ofNat_of_zero_le (Int.sub_nonneg_of_le room)
      have room' : 1 + Text.lineFeeds (written ++ LoxScan.gap n ++ s.text) ≤
          line + s.lineFeeds := by
        rw [lineFeeds_append, lineFeeds_append, lineFeeds_gap, lineFeeds_text]
        omega
      obtain ⟨more, segments', h⟩ := ih leads' room'
      exact ⟨_, _, h.cons hs (by rw [line_t]; exact made) (by omega)⟩

end Segment

open Segment

/-- Every scan can be set: no token stands above what is written before it. The text is scanned to
the same tokens, with their kinds, lexemes, values and lines, and to no fault. -/
theorem scan_typeset (source filename name : String) :
    ∃ text, typeset? [] (Scan.ofText source filename).tokens = some text ∧
      Scan.ofText (String.ofList text) name = ⟨(Scan.ofText source filename).tokens, []⟩ := by
  have cut := cut_split source.toList
  have room : (1 : Int) + Text.lineFeeds [] ≤ 1 := Int.le_refl 1
  obtain ⟨text, segments, h⟩ := exists_relaid (fun s hs => cut.leads_of_mem hs) room
  rw [feeds_split] at h
  refine ⟨text, ?_, ?_⟩
  · rw [Scan.tokens_ofText]
    exact h.typeset
  · rw [Scan.ofText_eq, Scan.tokens_ofText, String.toList_ofList, h.cut.split_eq,
      faults_eq_nil h.sound, ← h.reaches]
    exact congrArg (fun ts => Scan.mk (ts ++ _) []) h.tokens

end LoxScan
