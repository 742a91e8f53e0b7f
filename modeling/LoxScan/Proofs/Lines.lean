import LoxScan.Proofs.Meaning

/-! The lines that a scan reports. The line of a position is one more than the number of line feeds
before it. A token and a fault bear the line of the position where their segment begins; only a
string that never closes bears the line of the end of the text. The cursor keeps the line of its
position through every run. -/

namespace LoxScan

namespace Segment

open Grammar

/-- The line of the position `p` of a text. -/
def lineAt (cs : List Char) (p : Nat) : Int := 1 + Text.lineFeeds (cs.take p)

/-- Segments with the positions at which they begin, the first one at `p`. -/
def placed (p : Nat) : List Segment → List (Nat × Segment)
  | [] => []
  | s :: segments => (p, s) :: placed (p + s.text.length) segments

theorem lineAt_append (before rest : List Char) :
    lineAt (before ++ rest) before.length = 1 + Text.lineFeeds before := by
  rw [lineAt, List.take_left]

/-- Segments begin on the lines of their positions. -/
theorem located_eq_map_placed {before rest : List Char} {segments : List Segment}
    (cut : Cut rest segments) : located (1 + Text.lineFeeds before) segments =
      (placed before.length segments).map fun q => (lineAt (before ++ rest) q.1, q.2) := by
  induction cut generalizing before with
  | nil => rfl
  | @cons s rest segments _ _ ih =>
    have next := @ih (before ++ s.text)
    rw [lineFeeds_append, Int.natCast_add, ← Int.add_assoc, List.length_append,
      List.append_assoc] at next
    rw [located, placed, List.map_cons, lineAt_append, ← next]
    rfl

/-- A placed segment stands at its position, and if it is a string that never closes, all line
feeds of the text are before it or in it. -/
theorem mem_placed {before rest : List Char} {segments : List Segment} (cut : Cut rest segments)
    {q : Nat × Segment} (hq : q ∈ placed before.length segments) :
    (∃ after, Leads q.2 after) ∧ q.2.text <+: (before ++ rest).drop q.1 ∧
      (q.2.form = .openString →
        lineAt (before ++ rest) q.1 + q.2.lineFeeds = 1 + Text.lineFeeds (before ++ rest)) := by
  induction cut generalizing before with
  | nil => cases hq
  | @cons s rest segments leads _ ih =>
    rcases List.mem_cons.mp hq with rfl | hq
    · refine ⟨⟨rest, leads⟩, by simp, fun isOpen => ?_⟩
      rw [lineAt_append]
      cases leads with
      | openString => simp [Int.add_assoc, Segment.lineFeeds]
      | _ => cases isOpen
    · rw [← List.length_append] at hq
      rw [← List.append_assoc]
      exact ih hq

theorem tokens_eq_filterMap_placed (cs : List Char) : tokens 1 (split cs) =
    (placed 0 (split cs)).filterMap fun q => q.2.token? (lineAt cs q.1) := by
  have h := @located_eq_map_placed [] cs _ (cut_split cs)
  rw [tokens]
  exact (congrArg _ h).trans (List.filterMap_map)

theorem faults_eq_filterMap_placed (filename : String) (cs : List Char) :
    faults filename 1 (split cs) =
      (placed 0 (split cs)).filterMap fun q => q.2.fault? filename (lineAt cs q.1) := by
  have h := @located_eq_map_placed [] cs _ (cut_split cs)
  rw [faults]
  exact (congrArg _ h).trans (List.filterMap_map)

/-- The line behind some first segments of a text. -/
theorem lineAt_take_split (cs : List Char) (n : Nat) :
    lineAt cs (((split cs).take n).flatMap text).length = 1 + feeds ((split cs).take n) := by
  have line := lineAt_append (((split cs).take n).flatMap text) (((split cs).drop n).flatMap text)
  rwa [← List.flatMap_append, List.take_append_drop, flatMap_text_split] at line

end Segment

open Segment Grammar

/-- Whatever a run over the first segments of a text meets, and however it ends, the cursor keeps
the line of its position. -/
theorem Cursor.line_follow {σ : Type} (report : Reporter σ) (s : σ) (source filename : String)
    (n : Nat) :
    let c := ((Cursor.atStart source filename).follow report s
      ((split source.toList).take n)).cursor
    c.line = lineAt source.toList c.current := by
  obtain ⟨m, passed, -⟩ := exists_passed_follow report (Cursor.atStart source filename) s
    ((split source.toList).take n)
  rw [List.take_take] at passed
  intro c
  have current : c.current = (((split source.toList).take (min m n)).flatMap text).length := by
    rw [passed.current]
    exact Nat.zero_add _
  rw [passed.line, current, lineAt_take_split]
  rfl

/-- Every reported line is exact. The tokens, without the last, are those of the token segments of
the reading by the longest match, each on the line of the position at which its lexeme begins; the
last one ends the text on its last line. The faults are those of the faulty segments, each on the
line of the position at which the segment begins, or for a string that never closes on the last line
of the text. Between segments, the cursor of any run is on the line of its position. -/
theorem scan_lines (source filename : String) :
    ∃ segments, Reading source.toList segments ∧
      (∃ tokens, (Scan.ofText source filename).tokens =
          tokens ++ [⟨.endOfText, "", none, 1 + Text.lineFeeds source.toList⟩] ∧
        List.Forall₂ (fun q t => q.2.text <+: source.toList.drop q.1 ∧
            t.lexeme = String.ofList q.2.text ∧ t.line = lineAt source.toList q.1)
          ((placed 0 segments).filter (·.2.form.makesToken)) tokens) ∧
      List.Forall₂ (fun q f => q.2.text <+: source.toList.drop q.1 ∧ Blames filename q.2 f ∧
          f.line = if f.kind = .openString then (1 + Text.lineFeeds source.toList : Int)
            else lineAt source.toList q.1)
        ((placed 0 segments).filter (·.2.form.isFaulty)) (Scan.ofText source filename).faults ∧
      ∀ (σ : Type) (report : Reporter σ) (s : σ) (n : Nat),
        let c := ((Cursor.atStart source filename).follow report s
          ((split source.toList).take n)).cursor
        c.line = lineAt source.toList c.current := by
  have mem := fun q => @mem_placed [] source.toList _ (cut_split source.toList) q
  refine ⟨split source.toList, reading_iff.mpr rfl, ⟨_, Scan.tokens_ofText source filename, ?_⟩, ?_,
    fun σ report s n => Cursor.line_follow report s source filename n⟩
  · rw [tokens_eq_filterMap_placed]
    refine forall₂_filterMap (fun q hq token => ?_) fun q _ token => token?_eq_none token _
    obtain ⟨⟨after, leads⟩, stands, -⟩ := mem q hq
    obtain ⟨t, made, lexeme, line, -⟩ :=
      exists_token_of_leads leads token (lineAt source.toList q.1)
    exact ⟨t, made, stands, lexeme, line⟩
  · rw [Scan.faults_ofText, faults_eq_filterMap_placed]
    refine forall₂_filterMap (fun q hq fault => ?_) fun q _ fault => fault?_eq_none fault _ _
    obtain ⟨-, stands, reaches⟩ := mem q hq
    obtain ⟨f, made, blames, line⟩ := exists_fault fault filename (lineAt source.toList q.1)
    refine ⟨f, made, stands, blames, line.trans ?_⟩
    obtain ⟨p, form, c, tail⟩ := q
    cases blames with
    | openString => exact reaches rfl
    | _ => rfl

end LoxScan
