import LoxScan.Scan
import LoxScan.Proofs.Boundary

/-! What a run over segments finds. The tokens and the faults of a list of segments are those of its
members, each on the line that is reached when the member begins. A cursor that has passed over
segments stands behind their text and holds their tokens and faults, whatever the reporter; the scan
of a text passes over all of its segments, and steps taken one after the other pass over all that
are left. -/

namespace LoxScan

namespace Segment

/-- Segments with the lines on which they begin, the first one on `line`. -/
def located (line : Int) : List Segment → List (Int × Segment)
  | [] => []
  | s :: segments => (line, s) :: located (line + s.lineFeeds) segments

/-- The tokens of segments, the first of which begins on `line`. -/
def tokens (line : Int) (segments : List Segment) : List Token :=
  (located line segments).filterMap fun p => p.2.token? p.1

/-- The faults of segments, the first of which begins on `line`. -/
def faults (filename : String) (line : Int) (segments : List Segment) : List Fault :=
  (located line segments).filterMap fun p => p.2.fault? filename p.1

/-- How many line feeds segments hold. -/
def feeds (segments : List Segment) : Nat := Text.lineFeeds (segments.flatMap text)

@[simp] theorem lineFeeds_append (a b : List Char) :
    Text.lineFeeds (a ++ b) = Text.lineFeeds a + Text.lineFeeds b := List.count_append

theorem lineFeeds_text (s : Segment) : Text.lineFeeds s.text = s.lineFeeds := rfl

@[simp] theorem feeds_nil : feeds [] = 0 := rfl

@[simp] theorem feeds_cons (s : Segment) (segments : List Segment) :
    feeds (s :: segments) = s.lineFeeds + feeds segments := by
  rw [feeds, List.flatMap_cons, lineFeeds_append]
  rfl

@[simp] theorem feeds_append (a b : List Segment) : feeds (a ++ b) = feeds a + feeds b := by
  simp [feeds]

theorem located_append (line : Int) (a b : List Segment) :
    located line (a ++ b) = located line a ++ located (line + feeds a) b := by
  induction a generalizing line with
  | nil => simp [located]
  | cons s a ih => simp [located, ih, Int.add_assoc]

theorem map_snd_located (line : Int) (segments : List Segment) :
    (located line segments).map Prod.snd = segments := by
  induction segments generalizing line with
  | nil => rfl
  | cons s segments ih => rw [located, List.map_cons, ih]

theorem mem_of_mem_located {line : Int} {segments : List Segment} {q : Int × Segment}
    (h : q ∈ located line segments) : q.2 ∈ segments := by
  rw [← map_snd_located line segments]
  exact List.mem_map_of_mem h

@[simp] theorem tokens_nil (line : Int) : tokens line [] = [] := rfl

@[simp] theorem tokens_cons (line : Int) (s : Segment) (segments : List Segment) :
    tokens line (s :: segments) =
      (s.token? line).toList ++ tokens (line + s.lineFeeds) segments := by
  cases h : s.token? line <;> simp [tokens, located, h]

@[simp] theorem faults_nil (filename : String) (line : Int) : faults filename line [] = [] := rfl

@[simp] theorem faults_cons (filename : String) (line : Int) (s : Segment)
    (segments : List Segment) :
    faults filename line (s :: segments) =
      (s.fault? filename line).toList ++ faults filename (line + s.lineFeeds) segments := by
  cases h : s.fault? filename line <;> simp [faults, located, h]

@[simp] theorem tokens_append (line : Int) (a b : List Segment) :
    tokens line (a ++ b) = tokens line a ++ tokens (line + feeds a) b := by
  simp [tokens, located_append]

@[simp] theorem faults_append (filename : String) (line : Int) (a b : List Segment) :
    faults filename line (a ++ b) =
      faults filename line a ++ faults filename (line + feeds a) b := by
  simp [faults, located_append]

theorem Cut.flatMap_text {cs : List Char} {segments : List Segment} (h : Cut cs segments) :
    segments.flatMap text = cs := by
  induction h with
  | nil => rfl
  | cons _ _ ih => rw [List.flatMap_cons, ih]

theorem flatMap_text_split (cs : List Char) : (split cs).flatMap text = cs :=
  (cut_split cs).flatMap_text

theorem feeds_split (cs : List Char) : feeds (split cs) = Text.lineFeeds cs := by
  rw [feeds, flatMap_text_split]

end Segment

namespace Cursor

open Segment

theorem atEnd_iff (c : Cursor) : c.atEnd = true ↔ c.rest = [] := by
  rw [atEnd, decide_eq_true_eq, rest, List.drop_eq_nil_iff]

theorem atEnd_of_cons {c : Cursor} {x : Char} {r : List Char} (h : c.rest = x :: r) :
    c.atEnd = false := by
  rw [Bool.eq_false_iff, ne_eq, atEnd_iff, h]
  exact List.cons_ne_nil x r

theorem rest_consume {c : Cursor} {x : Char} {r : List Char} (h : c.rest = x :: r) :
    (c.consume (first x r)).rest = r.drop (first x r).tail.length := by
  have behind : (c.consume (first x r)).rest = c.rest.drop (first x r).text.length :=
    List.drop_drop.symm
  rw [behind, h, text, List.length_cons, List.drop_succ_cons]

theorem length_rest_consume_lt {c : Cursor} {x : Char} {r : List Char} (h : c.rest = x :: r) :
    (c.consume (first x r)).rest.length < c.rest.length := by
  rw [rest_consume h, h, List.length_drop, List.length_cons]
  omega

/-- `Passed c segments d`: the cursor `d` is where `c` comes to when it passes over the segments. -/
structure Passed (c : Cursor) (segments : List Segment) (d : Cursor) : Prop where
  filename : d.filename = c.filename
  current : d.current = c.current + (segments.flatMap text).length
  line : d.line = c.line + feeds segments
  tokens : d.tokens.toList = c.tokens.toList ++ Segment.tokens c.line segments
  faults : d.faults.toList = c.faults.toList ++ Segment.faults c.filename c.line segments

theorem Passed.refl (c : Cursor) : Passed c [] c := by
  constructor <;> simp

theorem Passed.cons {c d : Cursor} {s : Segment} {segments : List Segment}
    (h : Passed (c.consume s) segments d) : Passed c (s :: segments) d where
  filename := h.filename
  current := by rw [h.current, List.flatMap_cons, List.length_append, ← Nat.add_assoc]; rfl
  line := by rw [h.line, feeds_cons, Int.natCast_add, ← Int.add_assoc]; rfl
  tokens := by
    rw [h.tokens, tokens_cons, ← List.append_assoc]
    cases ht : s.token? c.line <;> simp [consume, ht]
  faults := by
    rw [h.faults, faults_cons, ← List.append_assoc]
    cases hf : s.fault? c.filename c.line <;> simp [consume, hf]

variable {σ : Type}

/-- However a run ends, the cursor has passed over the segments up to some point, and over all of
them if the run is complete. -/
theorem exists_passed_follow (report : Reporter σ) (c : Cursor) (s : σ) (segments : List Segment) :
    ∃ n, Passed c (segments.take n) (c.follow report s segments).cursor ∧
      ((c.follow report s segments).complete = true → segments.take n = segments) := by
  induction segments generalizing c s with
  | nil => exact ⟨0, .refl c, fun _ => rfl⟩
  | cons segment segments ih =>
    -- the run that goes on behind the segment, whatever state the reporter is in by then
    have go : ∀ s : σ, ∃ n, Passed c ((segment :: segments).take n)
        ((c.consume segment).follow report s segments).cursor ∧
        (((c.consume segment).follow report s segments).complete = true →
          (segment :: segments).take n = segment :: segments) := fun s => by
      obtain ⟨n, passed, all⟩ := ih (c.consume segment) s
      exact ⟨n + 1, passed.cons, fun h => by rw [List.take_succ_cons, all h]⟩
    simp only [follow]
    cases segment.fault? c.filename c.line with
    | none => exact go s
    | some f =>
      dsimp only
      rcases report s (c.consume segment) f with ⟨s', _ | _⟩
      · exact ⟨1, (Passed.refl _).cons, fun h => absurd h Bool.false_ne_true⟩
      · exact go s'

section Follow

variable (report : Reporter σ) (c : Cursor) (s : σ)

theorem follow_cons_of_sound {segment : Segment}
    (sound : segment.fault? c.filename c.line = none) (segments : List Segment) :
    c.follow report s (segment :: segments) =
      (c.consume segment).follow report s segments := by
  simp only [follow, sound]

/-- Behind a faulty segment the reporter decides whether the run goes on. -/
theorem follow_cons_of_fault {segment : Segment} {f : Fault}
    (fault : segment.fault? c.filename c.line = some f) (segments : List Segment) :
    c.follow report s (segment :: segments) =
      if (report s (c.consume segment) f).2 then
        (c.consume segment).follow report (report s (c.consume segment) f).1 segments
      else ⟨c.consume segment, (report s (c.consume segment) f).1, false⟩ := by
  simp only [follow, fault]
  rcases report s (c.consume segment) f with ⟨s', _ | _⟩ <;> rfl

/-- A run over two lists of segments goes on with the second one unless it was broken off. -/
theorem follow_append (a b : List Segment) :
    c.follow report s (a ++ b) =
      if (c.follow report s a).complete then
        (c.follow report s a).cursor.follow report (c.follow report s a).state b
      else c.follow report s a := by
  induction a generalizing c s with
  | nil => rfl
  | cons segment a ih =>
    cases fault : segment.fault? c.filename c.line with
    | none =>
      rw [List.cons_append, follow_cons_of_sound _ _ _ fault, follow_cons_of_sound _ _ _ fault, ih]
    | some f =>
      rw [List.cons_append, follow_cons_of_fault _ _ _ fault, follow_cons_of_fault _ _ _ fault]
      cases (report s (c.consume segment) f).2 with
      | false => rfl
      | true => exact ih _ _

theorem cursor_follow_singleton (segment : Segment) :
    (c.follow report s [segment]).cursor = c.consume segment := by
  cases fault : segment.fault? c.filename c.line with
  | none => rw [follow_cons_of_sound _ _ _ fault]; rfl
  | some f =>
    rw [follow_cons_of_fault _ _ _ fault]
    split <;> rfl

theorem source_follow (segments : List Segment) :
    (c.follow report s segments).cursor.source = c.source := by
  induction segments generalizing c s with
  | nil => rfl
  | cons segment segments ih =>
    cases fault : segment.fault? c.filename c.line with
    | none => rw [follow_cons_of_sound _ _ _ fault, ih]; rfl
    | some f =>
      rw [follow_cons_of_fault _ _ _ fault]
      split
      · rw [ih]; rfl
      · rfl

/-- A run over what is left of a text begins with its first segment and goes on, unless it was
broken off there, with what is left behind it. -/
theorem follow_split {x : Char} {r : List Char} (h : c.rest = x :: r) :
    c.follow report s (split c.rest) =
      if (c.follow report s [first x r]).complete then
        (c.follow report s [first x r]).cursor.follow report (c.follow report s [first x r]).state
          (split (c.follow report s [first x r]).cursor.rest)
      else c.follow report s [first x r] := by
  rw [cursor_follow_singleton, rest_consume h, h, split_cons, ← List.singleton_append,
    follow_append, cursor_follow_singleton]

/-- A reporter that always goes on never breaks a run off. -/
theorem complete_follow {report : Reporter σ} (steady : ∀ s d f, (report s d f).2 = true)
    (segments : List Segment) : (c.follow report s segments).complete = true := by
  induction segments generalizing c s with
  | nil => rfl
  | cons segment segments ih =>
    cases fault : segment.fault? c.filename c.line with
    | none => rw [follow_cons_of_sound _ _ _ fault, ih]
    | some f => rw [follow_cons_of_fault _ _ _ fault, if_pos (steady _ _ _), ih]

theorem passed_follow {report : Reporter σ} (steady : ∀ s d f, (report s d f).2 = true)
    (segments : List Segment) : Passed c segments (c.follow report s segments).cursor := by
  obtain ⟨n, passed, all⟩ := exists_passed_follow report c s segments
  rwa [all (complete_follow c s steady segments)] at passed

end Follow

theorem step_of_cons (report : Reporter σ) {c : Cursor} (s : σ) {x : Char} {r : List Char}
    (h : c.rest = x :: r) : c.step report s = .ok (c.follow report s [first x r]) := by
  rw [step, h]

theorem atEnd_of_step {report : Reporter σ} {c : Cursor} {s : σ} {run : Run σ}
    (stepped : c.step report s = .ok run) : c.atEnd = false := by
  cases h : c.rest with
  | nil =>
    rw [step, h] at stepped
    cases stepped
  | cons x r => exact atEnd_of_cons h

theorem length_rest_lt_of_step {report : Reporter σ} {c : Cursor} {s : σ} {run : Run σ}
    (stepped : c.step report s = .ok run) : run.cursor.rest.length < c.rest.length := by
  cases h : c.rest with
  | nil =>
    rw [step, h] at stepped
    cases stepped
  | cons x r =>
    have same := Except.ok.inj ((step_of_cons report s h).symm.trans stepped)
    rw [← same, cursor_follow_singleton, ← h]
    exact length_rest_consume_lt h

/-- Takes steps as long as there are any, unless a reporter breaks off. -/
def onward (report : Reporter σ) (c : Cursor) (s : σ) : Run σ :=
  match _ : c.step report s with
  | .error _ => ⟨c, s, true⟩
  | .ok run => if run.complete then onward report run.cursor run.state else run
termination_by c.rest.length
decreasing_by exact length_rest_lt_of_step ‹_›

theorem onward_eq (report : Reporter σ) (c : Cursor) (s : σ) :
    c.onward report s = c.follow report s (split c.rest) := by
  -- on the length of what is left, which each step shortens
  induction size : c.rest.length using Nat.strongRecOn generalizing c s with
  | _ n ih =>
    rw [onward]
    cases h : c.rest with
    | nil =>
      rw [split_nil]
      split
      · rfl
      · next run stepped =>
        rw [step, h] at stepped
        cases stepped
    | cons x r =>
      have cursor := cursor_follow_singleton report c s (first x r)
      have shorter := size ▸ length_rest_consume_lt h
      split
      · next stop stepped => cases stepped.symm.trans (step_of_cons report s h)
      next run stepped =>
      obtain rfl : c.follow report s [first x r] = run :=
        Except.ok.inj ((step_of_cons report s h).symm.trans stepped)
      rw [← h, follow_split _ _ _ h]
      cases (c.follow report s [first x r]).complete with
      | false => rfl
      | true => exact ih _ (cursor ▸ shorter) _ _ rfl

end Cursor

namespace Scan

open Segment

/-- The token of the end of a text. -/
def endToken (line : Int) : Token := ⟨.endOfText, "", none, line⟩

/-- A scan that is not broken off finds what the segments of the text make, whoever is told of the
faults. -/
theorem ofCursor_scan {σ : Type} {report : Reporter σ} (steady : ∀ s d f, (report s d f).2 = true)
    (s : σ) (source filename : String) :
    ofCursor ((Cursor.atStart source filename).scan report s).cursor =
      ⟨Segment.tokens 1 (split source.toList) ++ [endToken (1 + Text.lineFeeds source.toList)],
        Segment.faults filename 1 (split source.toList)⟩ := by
  have passed := Cursor.passed_follow (Cursor.atStart source filename) s steady
    (split source.toList)
  have complete := Cursor.complete_follow (Cursor.atStart source filename) s steady
    (split source.toList)
  have line := passed.line
  rw [feeds_split] at line
  have start : (Cursor.atStart source filename).rewind = Cursor.atStart source filename := rfl
  have text : (Cursor.atStart source filename).source = source.toList := rfl
  simp only [Cursor.scan, start, text, complete, if_true, ofCursor, Cursor.finish,
    Array.toList_push, passed.tokens, passed.faults, line]
  rfl

theorem ofText_eq (source filename : String) :
    ofText source filename =
      ⟨Segment.tokens 1 (split source.toList) ++ [endToken (1 + Text.lineFeeds source.toList)],
        Segment.faults filename 1 (split source.toList)⟩ :=
  ofCursor_scan (fun _ _ _ => rfl) () source filename

theorem tokens_ofText (source filename : String) : (ofText source filename).tokens =
    Segment.tokens 1 (split source.toList) ++ [endToken (1 + Text.lineFeeds source.toList)] := by
  rw [ofText_eq]

theorem faults_ofText (source filename : String) :
    (ofText source filename).faults = Segment.faults filename 1 (split source.toList) := by
  rw [ofText_eq]

end Scan

end LoxScan
