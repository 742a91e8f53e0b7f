import LoxScan.Proofs.Lines

/-! Scans that a reporter breaks off. The cursor is left behind the segment whose fault was told
last, with everything found up to there; it can go on to the end of its text as if nothing had
happened, or start again. -/

namespace LoxScan

open Segment Grammar

variable {σ : Type}

/-- The answers of a reporter that is called again and again, whether to go on. -/
def Reporter.answers (report : Reporter σ) (s : σ) : List (Cursor × Fault) → List Bool
  | [] => []
  | (d, f) :: calls => (report s d f).2 :: answers report (report s d f).1 calls

/-- The reporter that counts the faults and breaks off at the `n`-th. -/
def Reporter.upTo (n : Nat) : Reporter Nat := fun k _ _ => (k + 1, k + 1 != n)

namespace Cursor

/-- What a reporter is told when no one breaks off: the cursor behind each faulty segment, and the
fault. -/
def calls (c : Cursor) : List Segment → List (Cursor × Fault)
  | [] => []
  | s :: segments =>
    (s.fault? c.filename c.line).toList.map (c.consume s, ·) ++ calls (c.consume s) segments

theorem Passed.trans {c d e : Cursor} {a b : List Segment} (first : c.Passed a d)
    (second : d.Passed b e) : c.Passed (a ++ b) e where
  filename := second.filename.trans first.filename
  current := by
    rw [second.current, first.current, List.flatMap_append, List.length_append, Nat.add_assoc]
  line := by rw [second.line, first.line, feeds_append, Int.natCast_add, Int.add_assoc]
  tokens := by
    rw [second.tokens, first.tokens, first.line, tokens_append, List.append_assoc]
  faults := by
    rw [second.faults, first.faults, first.line, first.filename, faults_append, List.append_assoc]

theorem isFaulty_eq (filename : String) (line : Int) (s : Segment) :
    s.form.isFaulty = (s.fault? filename line).isSome := by
  obtain ⟨form, c, tail⟩ := s
  cases form <;> rfl

/-- A reporter that goes on `n` times and then breaks off leaves the cursor behind the segment with
the next fault. -/
theorem follow_broken_off (report : Reporter σ) (c : Cursor) (s : σ) (segments : List Segment)
    (n : Nat) (breaks : (report.answers s (c.calls segments)).take (n + 1) =
      List.replicate n true ++ [false]) :
    (c.follow report s segments).complete = false ∧
      ∃ before t after, segments = before ++ t :: after ∧ t.form.isFaulty = true ∧
        (before.filter (·.form.isFaulty)).length = n ∧
        c.Passed (before ++ [t]) (c.follow report s segments).cursor := by
  induction segments generalizing c s n with
  | nil =>
    have size := congrArg List.length breaks
    simp [calls, Reporter.answers] at size
  | cons segment segments ih =>
    cases fault : segment.fault? c.filename c.line with
    | none =>
      have sound : segment.form.isFaulty = false := by
        rw [isFaulty_eq c.filename c.line, fault, Option.isSome_none]
      simp only [calls, fault, Option.toList_none, List.map_nil, List.nil_append] at breaks
      obtain ⟨complete, before, t, after, rfl, faulty, size, passed⟩ := ih _ s n breaks
      rw [follow_cons_of_sound _ _ _ fault]
      refine ⟨complete, segment :: before, t, after, rfl, faulty, ?_, passed.cons⟩
      rw [List.filter_cons_of_neg (by simp [sound]), size]
    | some f =>
      have faulty : segment.form.isFaulty = true := by
        rw [isFaulty_eq c.filename c.line, fault, Option.isSome_some]
      simp only [calls, fault, Option.toList_some, List.map_cons, List.map_nil, List.cons_append,
        List.nil_append, Reporter.answers, List.take_succ_cons] at breaks
      rw [follow_cons_of_fault _ _ _ fault]
      cases n with
      | zero =>
        obtain ⟨answer, -⟩ := List.cons.inj breaks
        rw [answer]
        exact ⟨rfl, [], segment, segments, rfl, faulty, rfl, (Passed.refl _).cons⟩
      | succ n =>
        obtain ⟨answer, breaks⟩ := List.cons.inj breaks
        obtain ⟨complete, before, t, after, rfl, faulty', size, passed⟩ := ih _ _ n breaks
        rw [answer]
        refine ⟨complete, segment :: before, t, after, rfl, faulty', ?_, passed.cons⟩
        rw [List.filter_cons_of_pos (by simp [faulty]), List.length_cons, size]

end Cursor

theorem Segment.Cut.of_append {cs : List Char} {a b : List Segment} (h : Cut cs (a ++ b)) :
    Cut (b.flatMap text) b := by
  induction a generalizing cs with
  | nil =>
    rw [List.nil_append] at h
    rwa [h.flatMap_text]
  | cons s a ih =>
    cases h with
    | cons _ cut => exact ih cut

theorem Segment.tokens_of_isFaulty {s : Segment} (faulty : s.form.isFaulty = true) (line : Int) :
    Segment.tokens line [s] = [] := by
  have makes : s.form.makesToken = false := by
    obtain ⟨form, c, tail⟩ := s
    cases form <;> first | rfl | cases faulty
  rw [tokens_cons, token?_eq_none makes]
  rfl

/-! ### Behind some first segments of a text -/

section Behind

variable {c d : Cursor} {a b : List Segment}

theorem Segment.Cut.text_append (cut : Cut c.source (a ++ b)) :
    a.flatMap text ++ b.flatMap text = c.source := by
  rw [← List.flatMap_append]
  exact cut.flatMap_text

namespace Cursor

theorem Passed.current_eq (passed : c.rewind.Passed a d) :
    d.current = (a.flatMap text).length :=
  passed.current.trans (Nat.zero_add _)

/-- What is left is cut as it was before. -/
theorem Passed.split_rest (passed : c.rewind.Passed a d) (cut : Cut c.source (a ++ b))
    (source : d.source = c.source) : split d.rest = b := by
  have behind : d.rest = b.flatMap text := by
    rw [rest, passed.current_eq, source, ← cut.text_append]
    exact List.drop_left
  rw [behind]
  exact cut.of_append.split_eq

theorem Passed.line_eq (passed : c.rewind.Passed a d) (cut : Cut c.source (a ++ b)) :
    d.line = lineAt c.source d.current := by
  have line := lineAt_append (a.flatMap text) (b.flatMap text)
  rw [cut.text_append, ← passed.current_eq] at line
  exact passed.line.trans line.symm

/-- Behind any first segments of a text, the steps to its end find what the text holds. -/
theorem Passed.onward_end (passed : c.rewind.Passed a d) (cut : Cut c.source (a ++ b))
    (source : d.source = c.source) {keep : Reporter σ} (steady : ∀ u e f, (keep u e f).2 = true)
    (u : σ) : (d.onward keep u).complete = true ∧
      (d.onward keep u).cursor.current = c.source.length ∧
      Scan.ofCursor (d.onward keep u).cursor.finish =
        Scan.ofText (String.ofList c.source) c.filename := by
  have final := passed.trans (passed_follow d u steady b)
  have current := final.current_eq
  have line : (d.follow keep u b).cursor.line = 1 + feeds (a ++ b) := final.line
  rw [cut.flatMap_text] at current
  rw [feeds, cut.flatMap_text] at line
  rw [onward_eq, passed.split_rest cut source]
  refine ⟨complete_follow d u steady b, current, ?_⟩
  rw [Scan.ofText_eq, String.toList_ofList, cut.split_eq, Scan.ofCursor, finish, Array.toList_push,
    final.tokens, final.faults, line]
  rfl

/-- A scan depends on the text and its name only, and on nothing that was found before. -/
theorem scan_congr (source : d.source = c.source) (filename : d.filename = c.filename)
    (report : Reporter σ) (s : σ) : d.scan report s = c.scan report s := by
  have rewound : d.rewind = c.rewind := by rw [rewind, rewind, source, filename]
  rw [scan, scan, rewound, source]

end Cursor

end Behind

/-- What a scan of the text of `c` leaves behind when its reporter breaks off at the `n`-th fault.
`whole` is what the text holds. -/
structure BrokenOff (c : Cursor) (whole : Scan) (n : Nat) (broken : Cursor) : Prop where
  enough : n ≤ whole.faults.length
  faults : broken.faults.toList = whole.faults.take n
  place : ∃ before t after, Reading c.source (before ++ t :: after) ∧
    t.form.isFaulty = true ∧ (before.filter (·.form.isFaulty)).length = n - 1 ∧
    broken.tokens.toList = Segment.tokens 1 before ∧
    whole.tokens = Segment.tokens 1 before ++ Segment.tokens broken.line after ++
      [Scan.endToken (1 + Text.lineFeeds c.source)] ∧
    broken.current = ((before ++ [t]).flatMap text).length
  line : broken.line = lineAt c.source broken.current
  resumes : ∀ (τ : Type) (keep : Reporter τ) (u : τ), (∀ u d f, (keep u d f).2 = true) →
    (broken.onward keep u).complete = true ∧
      (broken.onward keep u).cursor.current = c.source.length ∧
      Scan.ofCursor (broken.onward keep u).cursor.finish = whole
  restarts : ∀ (τ : Type) (again : Reporter τ) (u : τ),
    broken.scan again u = (Cursor.atStart (String.ofList c.source) c.filename).scan again u

/-- A scan that a reporter breaks off at the `n`-th fault leaves the cursor as it should be,
whatever happened to the cursor before. It has kept the first `n` faults of the text, and the tokens
before the segment with the last of them; it stands behind this segment, on the line of its
position. Going on from there with a reporter that never breaks off finds the other tokens and
faults, each once, and a new scan finds what it finds on a new cursor. -/
theorem scan_broken_off (report : Reporter σ) (c : Cursor) (s : σ) (n : Nat)
    (breaks : (report.answers s (c.rewind.calls (split c.source))).take n =
      List.replicate (n - 1) true ++ [false]) :
    (c.scan report s).complete = false ∧
      BrokenOff c (Scan.ofText (String.ofList c.source) c.filename) n (c.scan report s).cursor := by
  obtain ⟨m, rfl⟩ : ∃ m, n = m + 1 := by
    cases n with
    | zero => cases breaks
    | succ m => exact ⟨m, rfl⟩
  rw [Nat.add_sub_cancel] at breaks
  obtain ⟨incomplete, before, t, after, segments, faulty, size, passed⟩ :=
    Cursor.follow_broken_off report c.rewind s _ m breaks
  have scan : c.scan report s = c.rewind.follow report s (split c.source) := by
    rw [Cursor.scan, incomplete]
    rfl
  have source : (c.scan report s).cursor.source = c.source := by
    rw [scan]
    exact Cursor.source_follow report c.rewind s _
  rw [← scan] at incomplete passed
  have cut : Cut c.source ((before ++ [t]) ++ after) := by
    rw [List.append_assoc, List.singleton_append, ← segments]
    exact cut_split c.source
  have faults : (c.scan report s).cursor.faults.toList =
      Segment.faults c.filename 1 (before ++ [t]) := passed.faults.trans (List.nil_append _)
  have line : (c.scan report s).cursor.line = 1 + feeds (before ++ [t]) := passed.line
  have whole : (Scan.ofText (String.ofList c.source) c.filename).faults =
      Segment.faults c.filename 1 (before ++ [t]) ++
        Segment.faults c.filename (1 + feeds (before ++ [t])) after := by
    rw [Scan.faults_ofText, String.toList_ofList, cut.split_eq, faults_append]
  have told : (Segment.faults c.filename 1 (before ++ [t])).length = m + 1 := by
    have blamed := (faults_blamed c.filename 1 (before ++ [t])).length_eq
    rw [← blamed, List.filter_append, List.length_append, size]
    simp [faulty]
  have reading : Reading c.source (before ++ t :: after) := reading_iff.mpr segments.symm
  refine ⟨incomplete, ?_, ?_, ⟨before, t, after, reading, faulty, size, ?_, ?_, passed.current_eq⟩,
    passed.line_eq cut, fun τ keep u steady => ?_, fun τ again u => ?_⟩
  · rw [whole, List.length_append, told]
    exact Nat.le_add_right ..
  · rw [whole, faults, ← told, List.take_left]
  · rw [passed.tokens, tokens_append, tokens_of_isFaulty faulty, List.append_nil]
    exact List.nil_append _
  · rw [Scan.tokens_ofText, String.toList_ofList, cut.split_eq, line, tokens_append, tokens_append,
      tokens_of_isFaulty faulty, List.append_nil]
  · exact passed.onward_end cut source steady u
  · have fresh : (Cursor.atStart (String.ofList c.source) c.filename).source = c.source :=
      String.toList_ofList
    exact Cursor.scan_congr (source.trans fresh.symm) passed.filename again u

/-- A cursor that has been at work is broken off at the second of three faults. -/
theorem scan_broken_off_second :
    ((Reporter.upTo 2).answers 0 ((Cursor.atStart "a@b\n#c$" "a.lox").finish.rewind.calls
        (split (Cursor.atStart "a@b\n#c$" "a.lox").finish.source))).take 2 = [true, false] ∧
      BrokenOff (Cursor.atStart "a@b\n#c$" "a.lox").finish
        (Scan.ofText (String.ofList "a@b\n#c$".toList) "a.lox") 2
        ((Cursor.atStart "a@b\n#c$" "a.lox").finish.scan (Reporter.upTo 2) 0).cursor := by
  have breaks : ((Reporter.upTo 2).answers 0
      ((Cursor.atStart "a@b\n#c$" "a.lox").finish.rewind.calls
        (split (Cursor.atStart "a@b\n#c$" "a.lox").finish.source))).take 2 = [true, false] := by
    decide +kernel
  exact ⟨breaks, (scan_broken_off _ _ 0 2 breaks).2⟩

end LoxScan
