import LoxScan.Proofs.Run

/-! Texts that go on. The two characters behind a segment settle where it ends, and one of them is
enough unless it is a point. So when a text is continued, the tokens with two characters behind them
stay as they were, and so does every stray character, which needs none behind it. -/

namespace LoxScan

namespace Segment

/-- Two characters, or one that is no point, settle where the segment before them ends. -/
def Settles (rest : List Char) : Prop := 2 ≤ rest.length ∨ ∃ c r, rest = c :: r ∧ c ≠ '.'

theorem Settles.ne_nil {rest : List Char} (h : Settles rest) : rest ≠ [] := by
  rintro rfl
  rcases h with h | ⟨c, r, h, -⟩
  · exact absurd h (by decide)
  · cases h

theorem Settles.noFraction_append {rest : List Char} (h : Settles rest) (point : NoFraction rest)
    (more : List Char) : NoFraction (rest ++ more) := by
  intro d r same
  rcases h with h | ⟨c, r', rfl, noPoint⟩
  · obtain ⟨x, y, r', rfl⟩ : ∃ x y r', rest = x :: y :: r' := by
      match rest, h with
      | x :: y :: r', _ => exact ⟨x, y, r', rfl⟩
    obtain ⟨rfl, tail⟩ : x = '.' ∧ y :: (r' ++ more) = d :: r := List.cons.inj same
    obtain ⟨rfl, -⟩ := List.cons.inj tail
    exact point y r' rfl
  · exact absurd (List.cons.inj same).1 noPoint

theorem Leads.closed {s : Segment} {rest : List Char} (h : Leads s rest) (ne : rest ≠ []) :
    s.form.isOpen = false := by
  cases h with
  | openComment | openString => exact absurd rfl ne
  | _ => rfl

/-- A segment whose end is settled still leads when the text goes on. -/
theorem Leads.append_of_settles {s : Segment} {rest : List Char} (h : Leads s rest)
    (settles : Settles rest) (more : List Char) : Leads s (rest ++ more) := by
  refine h.change (h.closed settles.ne_nil) (fun p _ _ head => ?_) fun point =>
    settles.noFraction_append point more
  obtain ⟨c, r, rfl⟩ := List.exists_cons_of_ne_nil settles.ne_nil
  exact head

/-- When a text goes on behind a settled segment, the rest is cut as a text of its own. -/
theorem Leads.split_append {s : Segment} {rest more : List Char} (h : Leads s (rest ++ more)) :
    split (s.text ++ rest ++ more) = s :: split (rest ++ more) := by
  rw [List.append_assoc]
  exact (Cut.cons h (cut_split _)).split_eq

/-- The tokens of segments, each with the position behind its lexeme. The first segment begins at
the position `p` and on the given line. -/
def ended (line : Int) (p : Nat) : List Segment → List (Nat × Token)
  | [] => []
  | s :: segments =>
    ((s.token? line).toList.map fun t => (p + s.text.length, t)) ++
      ended (line + s.lineFeeds) (p + s.text.length) segments

theorem map_snd_ended (line : Int) (p : Nat) (segments : List Segment) :
    (ended line p segments).map Prod.snd = tokens line segments := by
  induction segments generalizing line p with
  | nil => rfl
  | cons s segments ih =>
    rw [ended, List.map_append, ih, tokens_cons]
    simp

theorem lt_of_mem_ended {line : Int} {p : Nat} {segments : List Segment} {q : Nat × Token}
    (h : q ∈ ended line p segments) : p < q.1 := by
  induction segments generalizing line p with
  | nil => cases h
  | cons s segments ih =>
    have pos : 0 < s.text.length := Nat.succ_pos _
    rcases List.mem_append.mp h with h | h
    · obtain ⟨t, -, rfl⟩ := List.mem_map.mp h
      dsimp only
      omega
    · have := ih h
      omega

/-- The lexeme of each token stands before the position given with it. -/
theorem lexeme_of_mem_ended {before rest : List Char} {line : Int} {segments : List Segment}
    (cut : Cut rest segments) {q : Nat × Token} (h : q ∈ ended line before.length segments) :
    q.1 ≤ (before ++ rest).length ∧ q.2.lexeme.toList <:+ (before ++ rest).take q.1 := by
  induction cut generalizing before line with
  | nil => cases h
  | @cons s rest segments _ _ ih =>
    rw [ended, ← List.length_append] at h
    rw [← List.append_assoc]
    rcases List.mem_append.mp h with h | h
    · obtain ⟨t, made, rfl⟩ := List.mem_map.mp h
      obtain ⟨_, -, rfl⟩ := Option.map_eq_some_iff.mp (Option.mem_toList.mp made)
      refine ⟨by simp, before, ?_⟩
      rw [List.take_left, String.toList_ofList]
    · exact ih h

/-- The tokens that two more characters follow are the first tokens of the longer text. -/
theorem tokens_prefix_append {cs : List Char} {segments : List Segment} (cut : Cut cs segments)
    (line : Int) (p : Nat) (more : List Char) :
    ((ended line p segments).filter (·.1 + 2 ≤ p + cs.length)).map Prod.snd <+:
      tokens line (split (cs ++ more)) := by
  induction cut generalizing line p with
  | nil => exact List.nil_prefix
  | @cons s rest segments leads cut ih =>
    have length : p + (s.text ++ rest).length = p + s.text.length + rest.length := by
      rw [List.length_append, Nat.add_assoc]
    by_cases two : 2 ≤ rest.length
    · have kept : ∀ q ∈ (s.token? line).toList.map fun t => (p + s.text.length, t),
          decide (q.1 + 2 ≤ p + s.text.length + rest.length) = true := by
        intro q hq
        obtain ⟨t, -, rfl⟩ := List.mem_map.mp hq
        simpa using two
      rw [ended, List.filter_append, length, List.filter_eq_self.mpr kept, List.map_append,
        (leads.append_of_settles (.inl two) more).split_append, tokens_cons]
      simpa using ih (line + s.lineFeeds) (p + s.text.length)
    · -- every token ends at the end of this segment or behind it
      have none : (ended line p (s :: segments)).filter (·.1 + 2 ≤ p + (s.text ++ rest).length) =
          [] := by
        rw [List.filter_eq_nil_iff]
        intro q hq
        have reach : p + s.text.length ≤ q.1 := by
          rcases List.mem_append.mp hq with hq | hq
          · obtain ⟨t, -, rfl⟩ := List.mem_map.mp hq
            exact Nat.le_refl _
          · exact Nat.le_of_lt (lt_of_mem_ended hq)
        rw [decide_eq_true_eq]
        omega
      rw [none]
      exact List.nil_prefix

/-- Before a text with a stray character the end of a segment is settled: a point alone is no stray
character. -/
theorem settles_of_stray {cs : List Char} {segments : List Segment} (cut : Cut cs segments)
    {t : Segment} (ht : t ∈ segments) (stray : t.form = .stray) : Settles cs := by
  rcases cs with _ | ⟨x, _ | ⟨y, r⟩⟩
  · rw [← cut.split_eq, split_nil] at ht
    cases ht
  · refine .inr ⟨x, [], rfl, ?_⟩
    rintro rfl
    have point : split ['.'] = [⟨.symbol .dot, '.', []⟩] := (Cut.cons (.mark rfl) .nil).split_eq
    rw [← cut.split_eq, point, List.mem_singleton] at ht
    rw [ht] at stray
    cases stray
  · exact .inl (by simp)

/-- The faults of stray characters among the faults of segments. -/
def strays (filename : String) (line : Int) (segments : List Segment) : List Fault :=
  (faults filename line segments).filter (·.kind = .strayCharacter)

theorem stray_of_fault? {s : Segment} {filename : String} {line : Int} {f : Fault}
    (h : s.fault? filename line = some f) (kind : f.kind = .strayCharacter) : s.form = .stray := by
  obtain ⟨form, c, tail⟩ := s
  cases form with
  | stray => rfl
  | openString | openComment =>
    cases h
    cases kind
  | _ => cases h

theorem kind_of_stray {s : Segment} (stray : s.form = .stray) {filename : String} {line : Int}
    {f : Fault} (h : s.fault? filename line = some f) : f.kind = .strayCharacter := by
  obtain ⟨form, c, tail⟩ := s
  cases stray
  cases h
  rfl

theorem exists_stray_of_mem_strays {filename : String} {line : Int} {segments : List Segment}
    {f : Fault} (h : f ∈ strays filename line segments) : ∃ t ∈ segments, t.form = .stray := by
  obtain ⟨hf, kind⟩ := List.mem_filter.mp h
  obtain ⟨q, hq, made⟩ := List.mem_filterMap.mp hf
  exact ⟨q.2, mem_of_mem_located hq, stray_of_fault? made (of_decide_eq_true kind)⟩

theorem Leads.of_stray {s : Segment} {rest : List Char} (h : Leads s rest) (stray : s.form = .stray)
    (more : List Char) : Leads s more := by
  cases h with
  | stray strange => exact .stray strange
  | _ => cases stray

theorem strays_cons (filename : String) (line : Int) (s : Segment) (segments : List Segment) :
    strays filename line (s :: segments) =
      (s.fault? filename line).toList.filter (·.kind = .strayCharacter) ++
        strays filename (line + s.lineFeeds) segments := by
  rw [strays, faults_cons, List.filter_append, strays]

/-- A segment with text behind it has no other fault than that of a stray character. -/
theorem filter_fault?_of_closed {s : Segment} (closed : s.form.isOpen = false) (filename : String)
    (line : Int) : (s.fault? filename line).toList.filter (·.kind = .strayCharacter) =
      (s.fault? filename line).toList := by
  rw [List.filter_eq_self]
  intro f hf
  obtain ⟨form, c, tail⟩ := s
  cases form with
  | stray => exact decide_eq_true (kind_of_stray rfl (Option.mem_toList.mp hf))
  | openString | openComment => cases closed
  | _ => cases hf

/-- The stray characters are at fault before anything else in the longer text. -/
theorem strays_prefix_append {cs : List Char} {segments : List Segment} (cut : Cut cs segments)
    (filename : String) (line : Int) (more : List Char) :
    strays filename line segments <+: faults filename line (split (cs ++ more)) := by
  induction cut generalizing line with
  | nil => exact List.nil_prefix
  | @cons s rest segments leads cut ih =>
    by_cases none : strays filename line (s :: segments) = []
    · rw [none]
      exact List.nil_prefix
    obtain ⟨f, hf⟩ := List.exists_mem_of_ne_nil _ none
    obtain ⟨t, ht, stray⟩ := exists_stray_of_mem_strays hf
    have settled : Leads s (rest ++ more) ∧ s.form.isOpen = false := by
      rcases List.mem_cons.mp ht with rfl | ht
      · exact ⟨leads.of_stray stray _, by rw [stray]; rfl⟩
      · have settles := settles_of_stray cut ht stray
        exact ⟨leads.append_of_settles settles more, leads.closed settles.ne_nil⟩
    rw [strays_cons, filter_fault?_of_closed settled.2, settled.1.split_append, faults_cons]
    exact (List.prefix_append_right_inj _).mpr (ih (line + s.lineFeeds))

end Segment

open Segment

/-- The tokens of a text, without the last, each with the position where its lexeme ends. -/
def endings (source : String) : List (Nat × Token) := ended 1 0 (split source.toList)

/-- What a text has two characters before its end is there to stay. When the text goes on, the
tokens that end two characters before the end of the text, or earlier, are the first tokens of the
longer text, and the stray characters of the text are its first faults. -/
theorem ofText_prefix_append (source more filename : String) :
    (Scan.ofText source filename).tokens =
        (endings source).map Prod.snd ++ [Scan.endToken (1 + Text.lineFeeds source.toList)] ∧
      (∀ q ∈ endings source,
        q.1 ≤ source.length ∧ q.2.lexeme.toList <:+ source.toList.take q.1) ∧
      ((endings source).filter (·.1 + 2 ≤ source.length)).map Prod.snd <+:
        (Scan.ofText (source ++ more) filename).tokens ∧
      (Scan.ofText source filename).faults.filter (·.kind = .strayCharacter) <+:
        (Scan.ofText (source ++ more) filename).faults := by
  have cut := cut_split source.toList
  refine ⟨?_, fun q hq => ?_, ?_, ?_⟩
  · rw [Scan.tokens_ofText, endings, map_snd_ended]
  · have stands := @lexeme_of_mem_ended [] _ _ _ cut q hq
    rwa [List.nil_append, String.length_toList] at stands
  · have stays := tokens_prefix_append cut 1 0 more.toList
    rw [Nat.zero_add, String.length_toList] at stays
    rw [Scan.tokens_ofText, String.toList_append]
    exact stays.trans (List.prefix_append _ _)
  · rw [Scan.faults_ofText, Scan.faults_ofText, String.toList_append]
    exact strays_prefix_append cut filename 1 more.toList

/-- One character behind a number is not enough: the point becomes part of it. -/
example : ¬ ((endings "1.").filter (·.1 + 1 ≤ 2)).map Prod.snd <+:
    (Scan.ofText ("1." ++ "5") "f").tokens := by
  decide +kernel

end LoxScan
