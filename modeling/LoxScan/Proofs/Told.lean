import LoxScan.Proofs.Resume

/-! What a reporter is told during a scan. The calls are fixed by the text: one for each fault, in
order, when the tokens before the faulty segment are kept and none behind it is. As long as the
reporter always goes on, its answers change nothing: the scan finds what it finds without it. -/

namespace LoxScan

open Segment Grammar

variable {σ : Type}

/-- The state that a reporter is left in by calls one after the other. -/
def Reporter.told (report : Reporter σ) (s : σ) (calls : List (Cursor × Fault)) : σ :=
  calls.foldl (fun s call => (report s call.1 call.2).1) s

namespace Cursor

theorem calls_of_sound {c : Cursor} {segment : Segment}
    (sound : segment.fault? c.filename c.line = none) (segments : List Segment) :
    c.calls (segment :: segments) = (c.consume segment).calls segments := by
  rw [calls, sound]
  rfl

theorem calls_of_fault {c : Cursor} {segment : Segment} {f : Fault}
    (fault : segment.fault? c.filename c.line = some f) (segments : List Segment) :
    c.calls (segment :: segments) =
      (c.consume segment, f) :: (c.consume segment).calls segments := by
  rw [calls, fault]
  rfl

theorem map_snd_calls (c : Cursor) (segments : List Segment) :
    (c.calls segments).map Prod.snd = Segment.faults c.filename c.line segments := by
  induction segments generalizing c with
  | nil => rfl
  | cons segment segments ih =>
    have next := ih (c.consume segment)
    cases fault : segment.fault? c.filename c.line with
    | none =>
      rw [calls_of_sound fault, next, faults_cons, fault]
      rfl
    | some f =>
      rw [calls_of_fault fault, List.map_cons, next, faults_cons, fault]
      rfl

/-- A call is made behind the faulty segment, whose fault is told. -/
theorem exists_of_getElem?_calls {c : Cursor} {segments : List Segment} {k : Nat} {d : Cursor}
    {f : Fault} (call : (c.calls segments)[k]? = some (d, f)) :
    ∃ before t after, segments = before ++ t :: after ∧
      (before.filter (·.form.isFaulty)).length = k ∧
      t.fault? c.filename (c.line + feeds before) = some f ∧ c.Passed (before ++ [t]) d := by
  induction segments generalizing c k with
  | nil => cases call
  | cons segment segments ih =>
    have faulty := isFaulty_eq c.filename c.line segment
    -- a later call is made behind `segment` as well
    have later {j : Nat} (call : ((c.consume segment).calls segments)[j]? = some (d, f)) :
        ∃ before t after, segment :: segments = segment :: before ++ t :: after ∧
          (before.filter (·.form.isFaulty)).length = j ∧
          t.fault? c.filename (c.line + feeds (segment :: before)) = some f ∧
          c.Passed (segment :: before ++ [t]) d := by
      obtain ⟨before, t, after, rfl, count, fault, passed⟩ := ih call
      refine ⟨before, t, after, rfl, count, ?_, passed.cons⟩
      rw [feeds_cons, Int.natCast_add, ← Int.add_assoc]
      exact fault
    cases fault : segment.fault? c.filename c.line with
    | none =>
      rw [calls_of_sound fault] at call
      obtain ⟨before, t, after, whole, count, told, passed⟩ := later call
      rw [fault, Option.isSome_none] at faulty
      refine ⟨segment :: before, t, after, whole, ?_, told, passed⟩
      rw [List.filter_cons_of_neg (by simp [faulty]), count]
    | some g =>
      rw [calls_of_fault fault] at call
      rw [fault, Option.isSome_some] at faulty
      cases k with
      | zero =>
        obtain ⟨rfl, rfl⟩ := Prod.mk.inj (Option.some.inj call)
        refine ⟨[], segment, segments, rfl, rfl, ?_, (Passed.refl _).cons⟩
        rw [feeds_nil, Int.natCast_zero, Int.add_zero, fault]
      | succ k =>
        obtain ⟨before, t, after, whole, count, told, passed⟩ := later call
        refine ⟨segment :: before, t, after, whole, ?_, told, passed⟩
        rw [List.filter_cons_of_pos (by simp [faulty]), List.length_cons, count]

/-- A reporter that goes on at each call leaves the cursor to pass over all segments. -/
theorem follow_of_answers {report : Reporter σ} {c : Cursor} {s : σ} {segments : List Segment}
    (goesOn : ∀ a ∈ report.answers s (c.calls segments), a = true) :
    c.follow report s segments =
      ⟨segments.foldl consume c, report.told s (c.calls segments), true⟩ := by
  induction segments generalizing c s with
  | nil => rfl
  | cons segment segments ih =>
    cases fault : segment.fault? c.filename c.line with
    | none =>
      rw [calls_of_sound fault] at goesOn
      rw [follow_cons_of_sound _ _ _ fault, calls_of_sound fault, ih goesOn]
      rfl
    | some f =>
      rw [calls_of_fault fault, Reporter.answers, List.forall_mem_cons] at goesOn
      rw [follow_cons_of_fault _ _ _ fault, if_pos goesOn.1, calls_of_fault fault, ih goesOn.2]
      rfl

theorem answers_of_steady {report : Reporter σ} (steady : ∀ s d f, (report s d f).2 = true)
    (s : σ) (calls : List (Cursor × Fault)) : ∀ a ∈ report.answers s calls, a = true := by
  induction calls generalizing s with
  | nil => intro a ha; cases ha
  | cons call calls ih =>
    rw [Reporter.answers, List.forall_mem_cons]
    exact ⟨steady s call.1 call.2, ih _⟩

theorem scan_of_answers {report : Reporter σ} {c : Cursor} {s : σ}
    (goesOn : ∀ a ∈ report.answers s (c.rewind.calls (split c.source)), a = true) :
    c.scan report s = ⟨((split c.source).foldl consume c.rewind).finish,
      report.told s (c.rewind.calls (split c.source)), true⟩ := by
  rw [scan, follow_of_answers goesOn]
  rfl

end Cursor

theorem Scan.reported_of_answers {report : Reporter σ} {s : σ} {source filename : String}
    (goesOn : ∀ a ∈ report.answers s
      ((Cursor.atStart source filename).calls (split source.toList)), a = true) :
    Scan.reported report s source filename = (some (Scan.ofText source filename),
      report.told s ((Cursor.atStart source filename).calls (split source.toList))) := by
  have unheard : ∀ a ∈ Reporter.silent.answers ()
      ((Cursor.atStart source filename).calls (split source.toList)), a = true :=
    Cursor.answers_of_steady (fun _ _ _ => rfl) () _
  have run := Cursor.scan_of_answers (c := Cursor.atStart source filename) goesOn
  have silent := Cursor.scan_of_answers (c := Cursor.atStart source filename) unheard
  rw [Scan.reported, Scan.ofText, run, silent]
  rfl

/-- A reporter sees the whole scan and does not change it. The calls are the same for all reporters:
they tell the faults that the scan finds, one after the other. At each call the cursor has kept the
tokens before the faulty segment and none behind it. Whatever a reporter does with the calls and
whatever it keeps, if it always goes on, the scan finds what it finds without a reporter. -/
theorem scan_told (source filename : String) :
    ∃ calls : List (Cursor × Fault), calls.map Prod.snd = (Scan.ofText source filename).faults ∧
      (∀ k d f, calls[k]? = some (d, f) →
        ∃ before t after, Reading source.toList (before ++ t :: after) ∧
          (before.filter (·.form.isFaulty)).length = k ∧ Blames filename t f ∧
          d.tokens.toList = Segment.tokens 1 before ∧
          (Scan.ofText source filename).tokens =
            d.tokens.toList ++ Segment.tokens d.line after ++
              [Scan.endToken (1 + Text.lineFeeds source.toList)]) ∧
      ∀ (σ : Type) (report : Reporter σ) (s : σ), (∀ a ∈ report.answers s calls, a = true) →
        Scan.reported report s source filename =
          (some (Scan.ofText source filename), report.told s calls) := by
  refine ⟨(Cursor.atStart source filename).calls (split source.toList), ?_, ?_, ?_⟩
  · rw [Cursor.map_snd_calls]
    exact (Scan.faults_ofText source filename).symm
  · intro k d f call
    obtain ⟨before, t, after, segments, count, fault, passed⟩ :=
      Cursor.exists_of_getElem?_calls call
    have faulty : t.form.isFaulty = true := by
      rw [Cursor.isFaulty_eq _ _ t, fault, Option.isSome_some]
    obtain ⟨f', made, blames, -⟩ := exists_fault faulty filename (1 + feeds before)
    obtain rfl : f = f' := Option.some.inj (fault.symm.trans made)
    have tokens : d.tokens.toList = Segment.tokens 1 before := by
      rw [passed.tokens, tokens_append, tokens_of_isFaulty faulty, List.append_nil]
      rfl
    refine ⟨before, t, after, reading_iff.mpr segments.symm, count, blames, tokens, ?_⟩
    have line : d.line = 1 + feeds (before ++ [t]) := passed.line
    have split_eq : split source.toList = (before ++ [t]) ++ after := by
      rw [segments, List.append_assoc, List.singleton_append]
    rw [Scan.tokens_ofText, split_eq, tokens_append, tokens_append, tokens_of_isFaulty faulty,
      List.append_nil, tokens, line]
  · intro σ report s goesOn
    exact Scan.reported_of_answers goesOn

example : Scan.reported (Reporter.steady fun told f => told ++ [f.diagnostic.message]) []
    "a@\n\"b" "f" = (some (Scan.ofText "a@\n\"b" "f"),
      ["Unexpected character.", "Unterminated string."]) := by decide +kernel

end LoxScan
