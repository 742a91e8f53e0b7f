import LoxScan.Proofs.Run

/-! Texts joined at a line feed. A segment that is closed does not change when text follows the text
in which it was found, as long as that text begins with a line feed or is not next to it. So if no
string and no comment is left open in a text, what comes after its last line is scanned as a text of
its own, only on later lines. -/

namespace LoxScan

/-- A token `n` lines below. -/
def Token.below (n : Int) (t : Token) : Token := { t with line := t.line + n }

/-- A fault `n` lines below. -/
def Fault.below (n : Int) (f : Fault) : Fault :=
  { f with diagnostic := { f.diagnostic with
    location := { f.diagnostic.location with line := f.diagnostic.location.line + n } } }

namespace Segment

/-- What holds of the first character of `rest` holds of the first one of `rest ++ more`. -/
theorem forall_head?_append {rest more : List Char} {p : Char → Prop}
    (near : rest.length < 2 → ∀ x ∈ more.head?, x = '\n') (feed : p '\n')
    (h : ∀ x ∈ rest.head?, p x) : ∀ x ∈ (rest ++ more).head?, p x := by
  cases rest with
  | nil =>
    intro x hx
    rw [near (by simp) x hx]
    exact feed
  | cons y rest => exact h

theorem noFraction_append {rest more : List Char}
    (near : rest.length < 2 → ∀ x ∈ more.head?, x = '\n') (point : NoFraction rest) :
    NoFraction (rest ++ more) := by
  intro d r same
  -- the point and the digit are both in the new text, one in each, or both in the old one
  rcases rest with _ | ⟨x, _ | ⟨y, rest⟩⟩
  · rw [List.nil_append] at same
    have first := near (by simp) '.' (by rw [same]; rfl)
    cases first
  · obtain ⟨-, same⟩ : x = '.' ∧ more = d :: r := List.cons.inj same
    rw [near (by simp) d (by rw [same]; rfl)]
    rfl
  · obtain ⟨rfl, tail⟩ : x = '.' ∧ y :: (rest ++ more) = d :: r := List.cons.inj same
    obtain ⟨rfl, -⟩ : y = d ∧ rest ++ more = r := List.cons.inj tail
    exact point y rest rfl

/-- A closed segment still leads when more text follows what it leads. The first two characters
behind a segment can make it longer, so if one of them is in the new text, that one must be a line
feed. -/
theorem Leads.append {s : Segment} {rest more : List Char} (h : Leads s rest)
    (closed : s.form.isOpen = false) (near : rest.length < 2 → ∀ x ∈ more.head?, x = '\n') :
    Leads s (rest ++ more) :=
  h.change closed (fun _ feed _ => forall_head?_append near feed) (noFraction_append near)

/-- A text that closes all its segments is cut in the same way when a line feed follows it. -/
theorem Cut.append {a b : List Char} {segments segments' : List Segment} (ha : Cut a segments)
    (hb : Cut b segments') (closed : ∀ s ∈ segments, s.form.isOpen = false)
    (lineFeed : ∀ x ∈ b.head?, x = '\n') : Cut (a ++ b) (segments ++ segments') := by
  induction ha with
  | nil => exact hb
  | @cons s rest segments leads _ ih =>
    rw [List.append_assoc]
    exact .cons (leads.append (closed s (by simp)) fun _ => lineFeed)
      (ih fun t ht => closed t (by simp [ht]))

theorem split_append_lineFeed {a : List Char} (closed : ∀ s ∈ split a, s.form.isOpen = false)
    (b : List Char) : split (a ++ '\n' :: b) = split a ++ ⟨.lineFeed, '\n', []⟩ :: split b := by
  have below : Cut ('\n' :: b) (⟨.lineFeed, '\n', []⟩ :: split b) := .cons .lineFeed (cut_split b)
  exact ((cut_split a).append below closed (by simp)).split_eq

/-! ### Segments on later lines -/

theorem token?_add (line n : Int) (s : Segment) :
    s.token? (line + n) = (s.token? line).map (Token.below n) := by
  simp only [token?, Option.map_map]
  rfl

theorem fault?_add (filename : String) (line n : Int) (s : Segment) :
    s.fault? filename (line + n) = (s.fault? filename line).map (Fault.below n) := by
  obtain ⟨form, c, tail⟩ := s
  cases form with
  | openString => simp [fault?, Fault.openString, Fault.below, Int.add_right_comm]
  | _ => rfl

theorem tokens_add (line n : Int) (segments : List Segment) :
    tokens (line + n) segments = (tokens line segments).map (Token.below n) := by
  induction segments generalizing line with
  | nil => rfl
  | cons s segments ih =>
    rw [tokens_cons, tokens_cons, Int.add_right_comm, ih, token?_add, List.map_append,
      Option.toList_map]

theorem faults_add (filename : String) (line n : Int) (segments : List Segment) :
    faults filename (line + n) segments = (faults filename line segments).map (Fault.below n) := by
  induction segments generalizing line with
  | nil => rfl
  | cons s segments ih =>
    rw [faults_cons, faults_cons, Int.add_right_comm, ih, fault?_add, List.map_append,
      Option.toList_map]

/-- An open segment is at fault. -/
theorem exists_fault_of_isOpen {s : Segment} (h : s.form.isOpen = true) (filename : String)
    (line : Int) : ∃ f, s.fault? filename line = some f ∧
      (f.kind = .openString ∨ f.kind = .openComment) := by
  obtain ⟨form, c, tail⟩ := s
  cases form with
  | openString => exact ⟨_, rfl, .inl rfl⟩
  | openComment => exact ⟨_, rfl, .inr rfl⟩
  | _ => cases h

/-- If no fault is that of an open string or comment, all segments are closed. -/
theorem isOpen_eq_false_of_faults {filename : String} {line : Int} {segments : List Segment}
    (closed : ∀ f ∈ faults filename line segments, f.kind ≠ .openString ∧ f.kind ≠ .openComment) :
    ∀ s ∈ segments, s.form.isOpen = false := by
  induction segments generalizing line with
  | nil => simp
  | cons s segments ih =>
    rw [faults_cons] at closed
    refine List.forall_mem_cons.mpr ⟨Bool.eq_false_iff.mpr fun h => ?_, ?_⟩
    · obtain ⟨f, hf, kind⟩ := exists_fault_of_isOpen h filename line
      have other := closed f (by simp [hf])
      exact kind.elim other.1 other.2
    · exact ih fun f hf => closed f (List.mem_append_right _ hf)

end Segment

open Segment

/-- A text behind a line feed is scanned as a text of its own, on the lines below, if nothing is
left open before. -/
theorem ofText_append_lineFeed (a b filename : String)
    (closed : ∀ f ∈ (Scan.ofText a filename).faults,
      f.kind ≠ .openString ∧ f.kind ≠ .openComment) :
    Scan.ofText (a ++ "\n" ++ b) filename =
      ⟨(Scan.ofText a filename).tokens.dropLast ++
          (Scan.ofText b filename).tokens.map (Token.below (Text.lineFeeds a.toList + 1)),
        (Scan.ofText a filename).faults ++
          (Scan.ofText b filename).faults.map (Fault.below (Text.lineFeeds a.toList + 1))⟩ := by
  rw [Scan.faults_ofText] at closed
  have text : (a ++ "\n" ++ b).toList = a.toList ++ '\n' :: b.toList := by simp
  have cut := split_append_lineFeed (isOpen_eq_false_of_faults closed) b.toList
  have one : (⟨.lineFeed, '\n', []⟩ : Segment).lineFeeds = 1 := rfl
  have no_token (line : Int) : token? line ⟨.lineFeed, '\n', []⟩ = none := rfl
  have no_fault (line : Int) : fault? filename line ⟨.lineFeed, '\n', []⟩ = none := rfl
  have line : (1 : Int) + Text.lineFeeds a.toList + (1 : Nat) =
      1 + (Text.lineFeeds a.toList + 1) := by omega
  have feeds_all : (1 : Int) + Text.lineFeeds (a.toList ++ '\n' :: b.toList) =
      1 + Text.lineFeeds b.toList + (Text.lineFeeds a.toList + 1) := by
    have below : Text.lineFeeds ('\n' :: b.toList) = Text.lineFeeds b.toList + 1 :=
      List.count_cons_self
    rw [lineFeeds_append, below]
    omega
  rw [Scan.ofText_eq, Scan.ofText_eq a, Scan.ofText_eq b, text, cut, feeds_all]
  simp only [tokens_append, tokens_cons, faults_append, faults_cons, feeds_split, one, line,
    tokens_add, faults_add, no_token, no_fault, Option.toList_none, List.nil_append,
    List.dropLast_concat, List.map_append, List.append_assoc]
  rfl

/-- A number with its point on one side of the line feed and its fraction on the other, after a
stray character and before a string that never closes. -/
theorem ofText_append_lineFeed_after_point :
    (∀ f ∈ (Scan.ofText "@ 1." "f").faults, f.kind ≠ .openString ∧ f.kind ≠ .openComment) ∧
      Scan.ofText ("@ 1." ++ "\n" ++ "5 \"x") "f" =
        ⟨(Scan.ofText "@ 1." "f").tokens.dropLast ++
            (Scan.ofText "5 \"x" "f").tokens.map (Token.below (Text.lineFeeds "@ 1.".toList + 1)),
          (Scan.ofText "@ 1." "f").faults ++
            (Scan.ofText "5 \"x" "f").faults.map
              (Fault.below (Text.lineFeeds "@ 1.".toList + 1))⟩ :=
  ⟨by decide +kernel, ofText_append_lineFeed _ _ _ (by decide +kernel)⟩

end LoxScan
