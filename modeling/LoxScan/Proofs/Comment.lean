import LoxScan.Proofs.Walk

/-! Block comments, passed over one character at a time. A walk jumps behind the first close and
counts the line feeds on the way in one go. A plain loop has two characters in view and moves over
one, counts a line feed when it moves over it, and stops where a close or the end of the text is in
view. From any place of a text both come to the same place on the same line, or raise the same
fault; behind an opening that is what the step of the cursor makes of the comment. -/

namespace LoxScan

open Text

/-- Whether the cursor has a close of a comment in view. -/
def Cursor.atClose (c : Cursor) : Bool := c.look = '*' && c.lookNext = '/'

namespace Walk

/-- Moves over the inside of a comment, one character after the other. -/
def commentBody (c : Cursor) : Walk Cursor :=
  whilst (fun c => !c.atClose && !c.atEnd) (·.lineBehind) c

/-- The comment behind its opening, without looking ahead for its close. -/
def plainComment (c : Cursor) : Walk Cursor := do
  let opened := c.line
  let c ← commentBody c
  if c.atEnd then throw ⟨.fault (.openComment ⟨c.filename, opened⟩), c⟩
  else return c.moveBy 2

/-- What a walk over a segment comes to if its fault is kept and told to a reporter. -/
def told {σ : Type} (report : Reporter σ) (s : σ) (walk : Walk Cursor) : Walk (Cursor.Run σ) :=
  tryCatch (walk.map fun c => ⟨c, s, true⟩) fun stop =>
    match stop.mishap with
    | .fault f =>
      let c := { stop.cursor with faults := stop.cursor.faults.push f }
      let (s, goOn) := report s c f
      pure ⟨c, s, goOn⟩
    | _ => throw stop

theorem step_eq_told {σ : Type} (report : Reporter σ) (c : Cursor) (s : σ) :
    step report c s = told report s (segment c.begin) := rfl

/-! ### The plain loop -/

variable {c : Cursor} {r body rest : List Char}

theorem atClose_iff (c : Cursor) : c.atClose = true ↔ ['*', '/'] <+: c.rest := by
  rw [Cursor.atClose, Cursor.look_eq, Cursor.lookNext_eq]
  rcases c.rest with _ | ⟨x, _ | ⟨y, r⟩⟩
  · simp
  · simp
  · show (x = '*' && y = '/') = true ↔ _
    rw [Bool.and_eq_true, decide_eq_true_iff, decide_eq_true_iff, List.cons_prefix_cons,
      List.cons_prefix_cons]
    exact ⟨fun ⟨star, slash⟩ => ⟨star.symm, slash.symm, List.nil_prefix⟩,
      fun ⟨star, slash, _⟩ => ⟨star.symm, slash.symm⟩⟩

/-- Whether a close begins the text is seen on its first two characters. -/
theorem close_isPrefix_cons_append (x : Char) (body rest : List Char) :
    ['*', '/'] <+: x :: (body ++ rest) ↔ ['*', '/'] <+: x :: (body ++ rest.take 1) := by
  cases body with
  | cons y body => simp
  | nil => cases rest <;> simp

theorem commentBody_eq (rest : List Char) (inside : ¬ ['*', '/'] <:+: body ++ rest.take 1)
    (stop : rest = [] ∨ ['*', '/'] <+: rest) (h : c.rest = body ++ rest) :
    commentBody c =
      pure { c with line := c.line + lineFeeds body, current := c.current + body.length } := by
  rw [← iterate_pass_lineBehind h, commentBody]
  -- on the characters in front of the stop; none of them begins a close
  induction body generalizing c with
  | nil =>
    have still : (!c.atClose && !c.atEnd) = false := by
      rw [List.nil_append] at h
      rcases stop with rfl | close
      · rw [(Cursor.atEnd_iff c).mpr h, Bool.not_true, Bool.and_false]
      · rw [(atClose_iff c).mpr (h ▸ close), Bool.not_true, Bool.false_and]
    rw [whilst, still]
    rfl
  | cons x body ih =>
    rw [List.cons_append, List.infix_cons_iff, not_or, ← close_isPrefix_cons_append] at inside
    have more : c.atEnd = false := Cursor.atEnd_of_cons h
    have apart : c.atClose = false := by
      rw [Bool.eq_false_iff, ne_eq, atClose_iff, h]
      exact inside.1
    have below : (c.pass (·.lineBehind)).rest = body ++ rest := by
      rw [rest_pass, h]
      rfl
    rw [whilst, apart, more, List.length_cons, Function.iterate_succ_apply, ← ih inside.2 below]
    rfl

theorem plainComment_closed (inside : ¬ ['*', '/'] <:+: body ++ ['*'])
    (h : c.rest = body ++ '*' :: '/' :: rest) :
    plainComment c =
      pure { c with line := c.line + lineFeeds body, current := c.current + body.length + 2 } := by
  have stops := commentBody_eq ('*' :: '/' :: rest) inside (.inr ⟨rest, rfl⟩) h
  have more : Cursor.atEnd
      { c with line := c.line + lineFeeds body, current := c.current + body.length } = false := by
    refine Cursor.atEnd_of_cons (x := '*') (r := '/' :: rest) ?_
    exact (Cursor.rest_moveBy body.length c).trans (by rw [h, List.drop_left])
  rw [plainComment, stops, pure_bind, more]
  rfl

theorem plainComment_open (inside : ¬ ['*', '/'] <:+: c.rest) :
    plainComment c = throw ⟨.fault (.openComment ⟨c.filename, c.line⟩),
      { c with line := c.line + lineFeeds c.rest, current := c.current + c.rest.length }⟩ := by
  have whole : c.rest = c.rest ++ [] := (List.append_nil _).symm
  have stops := commentBody_eq [] (by simpa using inside) (.inl rfl) whole
  have done : Cursor.atEnd { c with
      line := c.line + lineFeeds c.rest, current := c.current + c.rest.length } = true := by
    refine (Cursor.atEnd_iff _).mpr ?_
    exact (Cursor.rest_moveBy c.rest.length c).trans List.drop_length
  rw [plainComment, stops, pure_bind, done]
  rfl

/-! ### The jump beside the loop -/

theorem blockComment_eq_plainComment_iff (c : Cursor) :
    blockComment c = plainComment c ↔ c.current ≤ c.source.length := by
  rcases Segment.close_cases c.rest with ⟨body, rest, h, inside⟩ | inside
  · have within : c.current ≤ c.source.length := by
      have total := congrArg List.length h
      simp only [Cursor.rest, List.length_drop, List.length_append, List.length_cons] at total
      omega
    rw [blockComment_closed inside h, plainComment_closed inside h]
    exact iff_of_true rfl within
  · -- without a close the jump goes to the end of the text, also from behind it
    have length : c.rest.length = c.source.length - c.current := List.length_drop ..
    rw [blockComment_open inside, plainComment_open inside]
    constructor
    · intro same
      have current := congrArg (·.cursor.current) (Except.error.inj same)
      dsimp only at current
      omega
    · intro within
      have end_eq : c.current + c.rest.length = c.source.length := by omega
      rw [end_eq]

theorem segment_of_opening (h : c.rest = '/' :: '*' :: r) :
    segment c.begin = blockComment (c.begin.moveBy 2) := by
  have below : (c.begin.moveBy 1).rest = '*' :: r := rest_behind_head h
  have taken : take c.begin = pure ('/', c.begin.moveBy 1) := take_eq h
  have dispatched : segment c.begin = slash (c.begin.moveBy 1) := by
    rw [segment, taken, pure_bind]
    rfl
  have line : ¬ ('*' :: r).head? = some '/' := by simp
  rw [dispatched, slash, takeIf_eq, below, if_neg line, pure_bind]
  simp only [Bool.false_eq_true, if_false, takeIf_eq, below]
  rw [if_pos List.head?_cons, pure_bind]
  rfl

end Walk

/-- The jump behind a block comment ends like the plain loop, wherever it starts in a text or at its
end: at the same place, on the same line, with the same fault or with none. Only from behind the end
of the text they differ. At an opening the step of the cursor returns, and what it returns is what
becomes of the plain loop behind the opening. -/
theorem comment_plain {σ : Type} (report : Reporter σ) (s : σ) (c : Cursor) :
    (Walk.blockComment c = Walk.plainComment c ↔ c.current ≤ c.source.length) ∧
      ∀ r, c.rest = '/' :: '*' :: r →
        ∃ run, c.step report s = .ok run ∧
          Walk.told report s (Walk.plainComment (c.begin.moveBy 2)) = .ok run := by
  refine ⟨Walk.blockComment_eq_plainComment_iff c, fun r h => ?_⟩
  have stepped := Cursor.step_of_cons report s h
  have within : (c.begin.moveBy 2).current ≤ (c.begin.moveBy 2).source.length := by
    have total := congrArg List.length h
    simp only [Cursor.rest, List.length_drop, List.length_cons] at total
    simp only [Cursor.moveBy, Cursor.begin]
    omega
  refine ⟨_, stepped, ?_⟩
  rw [← (Walk.blockComment_eq_plainComment_iff _).mpr within, ← Walk.segment_of_opening h,
    ← Walk.step_eq_told]
  exact Walk.step_eq_ok_iff.mpr stepped

/-- A comment that opens as `/*/`, which does not close it, and closes as `**/` on the next line. -/
def starredComment : Cursor := Cursor.atStart "/*/\n**/x" "a.lox"

theorem comment_plain_starred :
    starredComment.rest = '/' :: '*' :: "/\n**/x".toList ∧
      ∃ run, Walk.told Reporter.silent ()
          (Walk.plainComment (starredComment.begin.moveBy 2)) = .ok run ∧
        run.complete = true ∧ run.cursor.current = 7 ∧ run.cursor.line = 2 := by
  have opening : starredComment.rest = '/' :: '*' :: "/\n**/x".toList := by decide
  obtain ⟨run, stepped, walked⟩ :=
    (comment_plain Reporter.silent () starredComment).2 _ opening
  have stands : (starredComment.step Reporter.silent ()).toOption.map
      (fun run => (run.complete, run.cursor.current, run.cursor.line)) = some (true, 7, 2) := by
    decide +kernel
  rw [stepped] at stands
  simp only [Except.toOption, Option.map_some, Option.some.injEq, Prod.mk.injEq] at stands
  exact ⟨opening, run, walked, stands⟩

end LoxScan
