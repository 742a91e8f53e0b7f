import LoxScan.Proofs.Joining
import LoxScan.Proofs.Layout
import LoxScan.Proofs.Resume
import LoxScan.Proofs.Stability

/-! The order of what a scan finds. Neither the tokens nor the faults go back to a line above, and
only the last segment of a text can be open. So a string or a comment that never closes is the last
fault, with no token behind it, and whoever asks for the tokens of a text gets its leftmost
fault. -/

namespace LoxScan

open Segment Grammar

/-! ### Lines -/

namespace Segment

theorem reach_of_mem_located {line : Int} {segments : List Segment} {q : Int × Segment}
    (h : q ∈ located line segments) :
    line ≤ q.1 ∧ q.1 + q.2.lineFeeds ≤ line + feeds segments := by
  induction segments generalizing line with
  | nil => cases h
  | cons s segments ih =>
    rw [feeds_cons]
    rcases List.mem_cons.mp h with rfl | h
    · constructor <;> dsimp only <;> omega
    · obtain ⟨low, high⟩ := ih h
      constructor <;> omega

/-- A segment begins where the one before it ends, or below. -/
theorem pairwise_located (line : Int) (segments : List Segment) :
    (located line segments).Pairwise
      fun p q : Int × Segment => p.1 + p.2.lineFeeds ≤ q.1 := by
  induction segments generalizing line with
  | nil => exact .nil
  | cons s segments ih =>
    apply List.Pairwise.cons
    · intro q hq
      exact (reach_of_mem_located hq).1
    · exact ih (line + s.lineFeeds)

theorem line_of_fault? {s : Segment} {filename : String} {line : Int} {f : Fault}
    (made : s.fault? filename line = some f) : line ≤ f.line ∧ f.line ≤ line + s.lineFeeds := by
  have faulty : s.form.isFaulty = true := by
    rw [Cursor.isFaulty_eq filename line, made, Option.isSome_some]
  obtain ⟨f', made', -, place⟩ := exists_fault faulty filename line
  obtain rfl : f = f' := Option.some.inj (made.symm.trans made')
  rw [place]
  split <;> constructor <;> omega

theorem pairwise_tokens (line : Int) (segments : List Segment) :
    ((tokens line segments ++ [Scan.endToken (line + feeds segments)]).map Token.line).Pairwise
      (· ≤ ·) := by
  rw [List.pairwise_map, List.pairwise_append]
  refine ⟨?_, List.pairwise_singleton _ _, ?_⟩
  · apply (pairwise_located line segments).filterMap
    intro p q below t ht u hu
    rw [line_of_token? ht, line_of_token? hu]
    omega
  · intro t ht u hu
    obtain ⟨q, hq, made⟩ := List.mem_filterMap.mp ht
    have reach := (reach_of_mem_located hq).2
    rw [List.mem_singleton.mp hu, line_of_token? made]
    show q.1 ≤ line + feeds segments
    omega

theorem pairwise_faults (filename : String) (line : Int) (segments : List Segment) :
    ((faults filename line segments).map Fault.line).Pairwise (· ≤ ·) := by
  rw [List.pairwise_map]
  apply (pairwise_located line segments).filterMap
  intro p q below f hf g hg
  have high := (line_of_fault? hf).2
  have low := (line_of_fault? hg).1
  omega

/-! ### The last segment -/

theorem Cut.closed_before {cs : List Char} {before after : List Segment} {s : Segment}
    (cut : Cut cs (before ++ s :: after)) (more : after ≠ []) : s.form.isOpen = false := by
  have behind := cut.of_append
  generalize (s :: after).flatMap text = rest at behind
  cases behind with
  | cons leads cut =>
    apply leads.closed
    rintro rfl
    rw [← cut.split_eq, split_nil] at more
    exact more rfl

/-- All segments of a text are closed, or all but the last one. -/
theorem Cut.closed_or_open_last {cs : List Char} {segments : List Segment}
    (cut : Cut cs segments) : (∀ s ∈ segments, s.form.isOpen = false) ∨
      ∃ before t, segments = before ++ [t] ∧ t.form.isOpen = true ∧
        ∀ s ∈ before, s.form.isOpen = false := by
  rcases segments.eq_nil_or_concat with rfl | ⟨before, t, rfl⟩
  · exact .inl (by simp)
  rw [List.concat_eq_append] at cut ⊢
  have closed : ∀ s ∈ before, s.form.isOpen = false := by
    intro s hs
    obtain ⟨front, back, rfl⟩ := List.append_of_mem hs
    rw [List.append_assoc, List.cons_append] at cut
    exact cut.closed_before (by simp)
  cases last : t.form.isOpen with
  | true => exact .inr ⟨before, t, rfl, last, closed⟩
  | false =>
    left
    intro s hs
    rcases List.mem_append.mp hs with hs | hs
    · exact closed s hs
    · rw [List.mem_singleton.mp hs, last]

theorem ended_append (line : Int) (p : Nat) (a b : List Segment) : ended line p (a ++ b) =
    ended line p a ++ ended (line + feeds a) (p + (a.flatMap text).length) b := by
  induction a generalizing line p with
  | nil => simp [ended]
  | cons s a ih => simp [ended, ih, Int.add_assoc, Nat.add_assoc]

theorem le_of_mem_ended {line : Int} {p : Nat} {segments : List Segment} {q : Nat × Token}
    (h : q ∈ ended line p segments) : q.1 ≤ p + (segments.flatMap text).length := by
  induction segments generalizing line p with
  | nil => cases h
  | cons s segments ih =>
    rw [List.flatMap_cons, List.length_append]
    rcases List.mem_append.mp h with h | h
    · obtain ⟨t, -, rfl⟩ := List.mem_map.mp h
      show p + s.text.length ≤ _
      omega
    · have := ih h
      omega

theorem ended_of_isFaulty {s : Segment} (faulty : s.form.isFaulty = true) (line : Int) (p : Nat) :
    ended line p [s] = [] := by
  have tokens := map_snd_ended line p [s]
  rw [tokens_of_isFaulty faulty] at tokens
  exact List.map_eq_nil_iff.mp tokens

theorem kind_of_mem_faults {segments : List Segment}
    (closed : ∀ s ∈ segments, s.form.isOpen = false) {filename : String} {line : Int} {f : Fault}
    (hf : f ∈ faults filename line segments) : f.kind = .strayCharacter := by
  obtain ⟨q, hq, made⟩ := List.mem_filterMap.mp hf
  have all := filter_fault?_of_closed (closed q.2 (mem_of_mem_located hq)) filename q.1
  have kind := List.filter_eq_self.mp all f (Option.mem_toList.mpr made)
  exact of_decide_eq_true kind

/-! ### The first fault -/

/-- The first fault is that of the first faulty segment. -/
theorem head?_faults_eq_some_iff {filename : String} {line : Int} {segments : List Segment}
    {f : Fault} : (faults filename line segments).head? = some f ↔
      ∃ before t after, segments = before ++ t :: after ∧
        (∀ s ∈ before, s.form.isFaulty = false) ∧
        t.fault? filename (line + feeds before) = some f := by
  constructor
  · intro h
    induction segments generalizing line with
    | nil => cases h
    | cons s segments ih =>
      rw [faults_cons] at h
      cases made : s.fault? filename line with
      | some g =>
        rw [made] at h
        refine ⟨[], s, segments, rfl, by simp, ?_⟩
        rw [feeds_nil, Int.natCast_zero, Int.add_zero, made]
        exact h
      | none =>
        rw [made] at h
        obtain ⟨before, t, after, rfl, sound, fault⟩ := ih h
        have s_sound : s.form.isFaulty = false := by
          rw [Cursor.isFaulty_eq filename line, made, Option.isSome_none]
        refine ⟨s :: before, t, after, rfl, List.forall_mem_cons.mpr ⟨s_sound, sound⟩, ?_⟩
        rw [feeds_cons, Int.natCast_add, ← Int.add_assoc]
        exact fault
  · rintro ⟨before, t, after, rfl, sound, fault⟩
    rw [faults_append, faults_eq_nil sound, faults_cons, fault]
    rfl

theorem faults_eq_nil_iff {filename : String} {line : Int} {segments : List Segment} :
    faults filename line segments = [] ↔ ∀ s ∈ segments, s.form.isFaulty = false := by
  constructor
  · intro none s hs
    obtain ⟨before, after, rfl⟩ := List.append_of_mem hs
    rw [faults_append, List.append_eq_nil_iff, faults_cons, List.append_eq_nil_iff] at none
    rw [Cursor.isFaulty_eq filename (line + feeds before), Option.toList_eq_nil_iff.mp none.2.1,
      Option.isSome_none]
  · exact faults_eq_nil

end Segment

namespace Scan

variable {source filename : String}

theorem tokens?_eq_error_iff {f : Fault} :
    tokens? source filename = .error f ↔ (ofText source filename).faults.head? = some f := by
  simp only [tokens?]
  cases (ofText source filename).faults <;> simp

theorem tokens?_eq_ok_iff {found : List Token} : tokens? source filename = .ok found ↔
    (ofText source filename).faults = [] ∧ (ofText source filename).tokens = found := by
  simp only [tokens?]
  cases (ofText source filename).faults <;> simp

end Scan

/-- The fault `f` is that of an open string or comment, which is the last segment of the text. All
tokens but that of the end of the text end where it begins, or before. -/
structure OpensLast (source filename : String) (segments : List Segment) (f : Fault) : Prop where
  kind : f.kind = .openString ∨ f.kind = .openComment
  last : ∃ before t, segments = before ++ [t] ∧ Blames filename t f ∧
    (Scan.ofText source filename).tokens = (endings source).map Prod.snd ++
      [Scan.endToken (1 + Text.lineFeeds source.toList)] ∧
    ∀ q ∈ endings source, q.1 ≤ (before.flatMap text).length

theorem opensLast_of_split {source : String} {before : List Segment} {t : Segment}
    (segments : split source.toList = before ++ [t]) (isOpen : t.form.isOpen = true)
    (filename : String) : ∃ f, t.fault? filename (1 + feeds before) = some f ∧
      OpensLast source filename (split source.toList) f := by
  have faulty : t.form.isFaulty = true := by
    revert isOpen
    cases t.form <;> simp [Form.isOpen, Form.isFaulty]
  obtain ⟨f, made, kind⟩ := exists_fault_of_isOpen isOpen filename (1 + feeds before)
  obtain ⟨f', made', blames, -⟩ := exists_fault faulty filename (1 + feeds before)
  obtain rfl : f = f' := Option.some.inj (made.symm.trans made')
  refine ⟨f, made, kind, before, t, segments, blames, ?_, ?_⟩
  · rw [Scan.tokens_ofText, endings, map_snd_ended]
  · intro q hq
    rw [endings, segments, ended_append, ended_of_isFaulty faulty, List.append_nil] at hq
    have := le_of_mem_ended hq
    omega

/-- All faults but perhaps the last one are those of stray characters. -/
theorem exists_strays_and_last (source filename : String) :
    ∃ strays last, (Scan.ofText source filename).faults = strays ++ Option.toList last ∧
      (∀ f ∈ strays, f.kind = .strayCharacter) ∧
      ∀ f ∈ last, OpensLast source filename (split source.toList) f := by
  rw [Scan.faults_ofText]
  rcases (cut_split source.toList).closed_or_open_last with
    closed | ⟨before, t, segments, isOpen, closed⟩
  · refine ⟨Segment.faults filename 1 (split source.toList), none, by simp, ?_, by simp⟩
    exact fun f => kind_of_mem_faults closed
  · obtain ⟨f, made, opens⟩ := opensLast_of_split segments isOpen filename
    refine ⟨Segment.faults filename 1 before, some f, ?_, fun g => kind_of_mem_faults closed, ?_⟩
    · rw [segments, faults_append, faults_cons, made]
      rfl
    · rintro g ⟨⟩
      exact opens

theorem Segment.lineAt_of_split {cs : List Char} {before after : List Segment}
    (segments : split cs = before ++ after) :
    lineAt cs (before.flatMap text).length = 1 + feeds before := by
  have line := lineAt_take_split cs before.length
  rwa [segments, List.take_left] at line

/-- Asked for the tokens of a text, one gets the fault of its leftmost faulty segment. -/
theorem tokens?_eq_error_iff_leftmost {source filename : String} {f : Fault} :
    Scan.tokens? source filename = .error f ↔
      ∃ before t after, split source.toList = before ++ t :: after ∧
        (∀ s ∈ before, s.form.isFaulty = false) ∧
        t.fault? filename (lineAt source.toList (before.flatMap text).length) = some f := by
  rw [Scan.tokens?_eq_error_iff, Scan.faults_ofText, head?_faults_eq_some_iff]
  constructor
  · rintro ⟨before, t, after, segments, sound, fault⟩
    refine ⟨before, t, after, segments, sound, ?_⟩
    rw [lineAt_of_split segments]
    exact fault
  · rintro ⟨before, t, after, segments, sound, fault⟩
    refine ⟨before, t, after, segments, sound, ?_⟩
    rw [← lineAt_of_split segments]
    exact fault

theorem eq_singleton_of_not_stray {strays : List Fault} {last : Option Fault} {f : Fault}
    (stray : ∀ g ∈ strays, g.kind = .strayCharacter)
    (first : (strays ++ last.toList).head? = some f) (kind : f.kind ≠ .strayCharacter) :
    strays ++ last.toList = [f] := by
  cases strays with
  | nil =>
    cases last with
    | none => cases first
    | some g =>
      cases first
      rfl
  | cons g strays =>
    cases first
    exact absurd (stray f List.mem_cons_self) kind

/-- What a scan finds is in order. All faults are those of stray characters, but for a last one that
may be the fault of an open string or comment. Lines of faults and of tokens never go back. Asked
for the tokens of a text, one gets the fault of its leftmost faulty segment if it has one, and
otherwise all tokens of its scan; the fault of an open string or comment only if there is no other
fault. -/
theorem scan_ordered (source filename : String) :
    let scan := Scan.ofText source filename
    ∃ segments, Reading source.toList segments ∧
      (∃ strays last, scan.faults = strays ++ Option.toList last ∧
        (∀ f ∈ strays, f.kind = .strayCharacter) ∧
        ∀ f ∈ last, OpensLast source filename segments f) ∧
      (scan.faults.map Fault.line).Pairwise (· ≤ ·) ∧
      (scan.tokens.map Token.line).Pairwise (· ≤ ·) ∧
      (∀ f, Scan.tokens? source filename = .error f ↔
        ∃ before t after, segments = before ++ t :: after ∧
          (∀ s ∈ before, s.form.isFaulty = false) ∧
          t.fault? filename (lineAt source.toList (before.flatMap text).length) = some f) ∧
      (∀ f, Scan.tokens? source filename = .error f → f.kind ≠ .strayCharacter →
        scan.faults = [f]) ∧
      ∀ found, Scan.tokens? source filename = .ok found ↔
        (∀ s ∈ segments, s.form.isFaulty = false) ∧ scan.tokens = found := by
  intro scan
  have shape := exists_strays_and_last source filename
  refine ⟨split source.toList, reading_iff.mpr rfl, shape, ?_, ?_, ?_, ?_, ?_⟩
  · rw [show scan.faults = _ from Scan.faults_ofText source filename]
    exact pairwise_faults filename 1 _
  · have sorted := pairwise_tokens 1 (split source.toList)
    rw [feeds_split] at sorted
    rw [show scan.tokens = _ from Scan.tokens_ofText source filename]
    exact sorted
  · intro f
    exact tokens?_eq_error_iff_leftmost
  · intro f raised kind
    obtain ⟨strays, last, all, stray, -⟩ := shape
    have first := Scan.tokens?_eq_error_iff.mp raised
    rw [all] at first
    show (Scan.ofText source filename).faults = [f]
    rw [all]
    exact eq_singleton_of_not_stray stray first kind
  · intro found
    rw [Scan.tokens?_eq_ok_iff, Scan.faults_ofText, faults_eq_nil_iff]

end LoxScan
