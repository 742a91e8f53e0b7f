import LoxScan.Proofs.Joining
import LoxScan.Proofs.Walk

/-! Steps and what was before them. A step depends on the text that is left, and on nothing else: it
does what the first step of a new cursor on that text does, only further on, on other lines, and
behind what was found already. This holds of the cursor that moves over one character after the
other as well, although it takes its characters from the whole text. -/

namespace LoxScan

open Segment

namespace Cursor

/-- A new cursor on the text that is left. -/
def afresh (c : Cursor) : Cursor :=
  atStart (String.ofList (c.source.drop c.current)) c.filename

/-- `Alike c e d`: the cursor `d` is `c` with what a new cursor on the text that `c` has left did to
become `e`. It has moved as far and has found the same, which is at most one token or fault, as many
lines below as `c` is below the first line. -/
structure Alike (c e d : Cursor) : Prop where
  source : d.source = c.source
  filename : d.filename = c.filename
  start : d.start = c.current
  current : d.current = c.current + e.current
  line : d.line = c.line + (e.line - 1)
  tokens : d.tokens.toList = c.tokens.toList ++ e.tokens.toList.map (Token.below (c.line - 1))
  faults : d.faults.toList = c.faults.toList ++ e.faults.toList.map (Fault.below (c.line - 1))
  one : e.tokens.size + e.faults.size ≤ 1

theorem rest_afresh (c : Cursor) : c.afresh.rest = c.rest := by
  show (String.ofList (c.source.drop c.current)).toList.drop 0 = c.source.drop c.current
  rw [String.toList_ofList, List.drop_zero]

theorem fault?_afresh (c : Cursor) (s : Segment) :
    s.fault? c.filename c.line =
      (s.fault? c.afresh.filename c.afresh.line).map (Fault.below (c.line - 1)) := by
  have line : c.line = c.afresh.line + (c.line - 1) := by
    show c.line = 1 + (c.line - 1)
    omega
  rw [← fault?_add, ← line]
  rfl

theorem alike_behind (c : Cursor) (s : Segment) : Alike c (c.afresh.behind s) (c.behind s) := by
  constructor
  · rfl
  · rfl
  · rfl
  · show c.current + s.text.length = c.current + (0 + s.text.length)
    omega
  · show c.line + s.lineFeeds = c.line + (1 + s.lineFeeds - 1)
    omega
  · exact (List.append_nil _).symm
  · exact (List.append_nil _).symm
  · exact Nat.zero_le 1

theorem alike_consume (c : Cursor) (s : Segment) : Alike c (c.afresh.consume s) (c.consume s) := by
  have moved := alike_behind c s
  have line : c.line = 1 + (c.line - 1) := by omega
  have old : c.Passed [s] (c.consume s) := (Passed.refl _).cons
  have new : c.afresh.Passed [s] (c.afresh.consume s) := (Passed.refl _).cons
  have tokens : (c.afresh.consume s).tokens.toList = Segment.tokens 1 [s] := new.tokens
  have faults : (c.afresh.consume s).faults.toList = Segment.faults c.filename 1 [s] := new.faults
  refine ⟨rfl, rfl, rfl, moved.current, moved.line, ?_, ?_, ?_⟩
  · rw [tokens, ← tokens_add, ← line, old.tokens]
  · rw [faults, ← faults_add, ← line, old.faults]
  · have size := size_le c.filename 1 [s]
    rwa [← tokens, ← faults, Array.length_toList, Array.length_toList] at size

theorem faults_consume_afresh (c : Cursor) (s : Segment) : (c.afresh.consume s).faults.toList =
    (s.fault? c.afresh.filename c.afresh.line).toList := by
  have passed : c.afresh.Passed [s] (c.afresh.consume s) := (Passed.refl _).cons
  rw [passed.faults, faults_cons, faults_nil, List.append_nil]
  rfl

theorem follow_singleton_of_fault {σ : Type} (report : Reporter σ) {c : Cursor} (s : σ)
    {segment : Segment} {f : Fault} (fault : segment.fault? c.filename c.line = some f) :
    c.follow report s [segment] = ⟨c.consume segment, (report s (c.consume segment) f).1,
      (report s (c.consume segment) f).2⟩ := by
  rw [follow_cons_of_fault _ _ _ fault]
  cases answer : (report s (c.consume segment) f).2 <;> rfl

theorem exists_rest_of_lt {c : Cursor} (more : c.current < c.source.length) :
    ∃ x r, c.rest = x :: r := by
  apply List.exists_cons_of_ne_nil
  rw [rest, ne_eq, List.drop_eq_nil_iff]
  omega

end Cursor

open Cursor

/-- Walks over one segment, the first of a new cursor on the text that `c` has left and the second
of `c` itself: both end with what `Alike` says, or both are stopped by the same fault. -/
inductive Walk.Alike (c : Cursor) : Walk Cursor → Walk Cursor → Prop
  | ends {e d : Cursor} (sound : e.faults = #[]) (alike : c.Alike e d) : Alike c (.ok e) (.ok d)
  | stops {f : Fault} {e d : Cursor} (none : e.tokens = #[] ∧ e.faults = #[])
      (alike : c.Alike e d) :
      Alike c (.error ⟨.fault f, e⟩) (.error ⟨.fault (f.below (c.line - 1)), d⟩)

theorem Walk.segment_afresh {c : Cursor} {x : Char} {r : List Char} (h : c.rest = x :: r) :
    Walk.Alike c (Walk.segment c.afresh.begin) (Walk.segment c.begin) := by
  have fault := fault?_afresh c (Segment.first x r)
  rw [segment_eq h, segment_eq ((rest_afresh c).trans h), ending, ending]
  cases made : (Segment.first x r).fault? c.afresh.filename c.afresh.line with
  | none =>
    have none := faults_consume_afresh c (Segment.first x r)
    rw [made] at fault none
    rw [fault]
    exact .ends (Array.toList_eq_nil_iff.mp none) (alike_consume c _)
  | some f =>
    rw [made] at fault
    rw [fault]
    exact .stops ⟨rfl, rfl⟩ (alike_behind c _)

/-- A step depends only on the text that is left. Wherever a cursor stands in a text, whatever it
has found and however it came there, its step does what the first step of a new cursor on the text
that is left does. The walk over the segment keeps the same token or none, or is stopped by the same
fault, and the step keeps this fault and tells the reporter of it. Lines are further down by as much
as the line of the cursor is below the first. Nothing that was found before is touched. -/
theorem step_alike {σ : Type} (report : Reporter σ) (s : σ) {c : Cursor}
    (more : c.current < c.source.length) :
    Walk.Alike c (Walk.segment c.afresh.begin) (Walk.segment c.begin) ∧
    ∃ e run, c.afresh.step Reporter.silent () = .ok ⟨e, (), true⟩ ∧
      c.step report s = .ok run ∧ c.Alike e run.cursor ∧
      (e.faults.toList = [] → run.state = s ∧ run.complete = true) ∧
      ∀ f ∈ e.faults.toList,
        (run.state, run.complete) = report s run.cursor (f.below (c.line - 1)) := by
  obtain ⟨x, r, h⟩ := exists_rest_of_lt more
  refine ⟨Walk.segment_afresh h, ?_⟩
  have new := step_of_cons Reporter.silent () ((rest_afresh c).trans h)
  have old := step_of_cons report s h
  have fault := fault?_afresh c (Segment.first x r)
  have kept := faults_consume_afresh c (Segment.first x r)
  cases made : (Segment.first x r).fault? c.afresh.filename c.afresh.line with
  | none =>
    rw [made] at fault kept
    rw [follow_cons_of_sound _ _ _ made] at new
    rw [follow_cons_of_sound _ _ _ fault] at old
    refine ⟨_, _, new, old, alike_consume c _, fun _ => ⟨rfl, rfl⟩, ?_⟩
    intro f hf
    rw [kept] at hf
    cases hf
  | some f =>
    rw [made] at fault kept
    rw [follow_singleton_of_fault _ _ made] at new
    rw [follow_singleton_of_fault _ _ fault] at old
    refine ⟨_, _, new, old, alike_consume c _, ?_, ?_⟩
    · intro none
      cases kept.symm.trans none
    · intro g hg
      rw [kept] at hg
      obtain rfl := List.mem_singleton.mp hg
      rfl

/-- A cursor at the closing quote of a string, which the step takes for the opening one. -/
def misplaced : Cursor :=
  ⟨"\"a\nb\" @".toList, "a.lox", 0, 4, 7, #[⟨.identifier, "q", none, 3⟩], #[]⟩

theorem step_alike_misplaced : misplaced.current < misplaced.source.length ∧
    ∃ e run, misplaced.afresh.step Reporter.silent () = .ok ⟨e, (), true⟩ ∧
      misplaced.step Reporter.silent () = .ok run ∧ misplaced.Alike e run.cursor := by
  have more : misplaced.current < misplaced.source.length := by decide
  obtain ⟨-, e, run, new, old, alike, -⟩ := step_alike Reporter.silent () more
  exact ⟨more, e, run, new, old, alike⟩

end LoxScan
