import LoxScan.Proofs.Joining
import LoxScan.Proofs.Meaning
import LoxScan.Proofs.Outcome
import LoxScan.Proofs.Returns

/-! A session at the prompt and a script of the same lines. The session scans each line as a text of
its own; nothing of one line is left when the next one is read. If no line leaves a string or a
comment open, the script cuts its text in the same way, only on other lines. So both show the same
tokens and report the same faults, the session always on line 1 and the script on the line where the
fault is. -/

namespace LoxScan

open Segment

/-! ### Lines of a text -/

namespace Text

/-- The lines of a text, without their line feeds. -/
def lines (cs : List Char) : List (List Char) := (linesOf cs).map (dropWhileEnd (· == '\n'))

/-- `Lined cs ls`: the text `cs` consists of the lines `ls`, the last of which may lack its line
feed unless it is empty. -/
inductive Lined : List Char → List (List Char) → Prop
  | nil : Lined [] []
  | last {line} (flat : '\n' ∉ line) (ne : line ≠ []) : Lined line [line]
  | cons {line rest ls} (flat : '\n' ∉ line) (below : Lined rest ls) :
      Lined (line ++ '\n' :: rest) (line :: ls)

theorem linesOf_cons {c : Char} (h : c ≠ '\n') (r : List Char) :
    linesOf (c :: r) = match linesOf r with
      | [] => [[c]]
      | line :: ls => (c :: line) :: ls :=
  linesOf.eq_3 c r h

theorem linesOf_flat {line : List Char} (flat : '\n' ∉ line) (ne : line ≠ []) :
    linesOf line = [line] := by
  induction line with
  | nil => exact absurd rfl ne
  | cons c r ih =>
    rw [List.mem_cons, not_or] at flat
    rw [linesOf_cons (Ne.symm flat.1)]
    cases r with
    | nil => rfl
    | cons d r => rw [ih flat.2 (by simp)]

theorem linesOf_append {line : List Char} (flat : '\n' ∉ line) (rest : List Char) :
    linesOf (line ++ '\n' :: rest) = (line ++ ['\n']) :: linesOf rest := by
  induction line with
  | nil => rw [List.nil_append, linesOf]; rfl
  | cons c r ih =>
    rw [List.mem_cons, not_or] at flat
    rw [List.cons_append, linesOf_cons (Ne.symm flat.1), ih flat.2]
    rfl

theorem ne_nil_of_mem_linesOf {cs line : List Char} (h : line ∈ linesOf cs) : line ≠ [] := by
  fun_induction linesOf cs with
  | case1 => cases h
  | case2 r ih =>
    rcases List.mem_cons.mp h with rfl | h
    · simp
    · exact ih h
  | case3 c r other none ih =>
    rw [List.mem_singleton.mp h]
    simp
  | case4 c r other line ls some ih =>
    rcases List.mem_cons.mp h with rfl | h
    · simp
    · exact ih (some ▸ List.mem_cons_of_mem _ h)

theorem dropWhileEnd_flat {line : List Char} (flat : '\n' ∉ line) :
    dropWhileEnd (· == '\n') line = line := by
  rw [dropWhileEnd, List.reverse_eq_iff, List.dropWhile_eq_self_iff]
  intro size same
  exact flat (beq_iff_eq.mp same ▸ List.mem_reverse.mp (List.getElem_mem _))

theorem dropWhileEnd_append {line : List Char} (flat : '\n' ∉ line) :
    dropWhileEnd (· == '\n') (line ++ ['\n']) = line := by
  have below := dropWhileEnd_flat flat
  rw [dropWhileEnd] at below ⊢
  rw [List.reverse_append, List.reverse_singleton, List.singleton_append,
    List.dropWhile_cons_of_pos (by rfl), below]

theorem lined_lines (cs : List Char) : Lined cs (lines cs) := by
  -- on the length of the text, since the first line is taken off as a whole
  induction h : cs.length using Nat.strongRecOn generalizing cs with
  | _ n ih =>
    obtain ⟨line, rest, rfl, inside, stop⟩ := run_cases (· != '\n') cs
    have flat : '\n' ∉ line := not_mem_of_forall inside (by decide)
    cases rest with
    | nil =>
      rw [List.append_nil]
      by_cases ne : line = []
      · rw [ne]
        exact .nil
      · rw [lines, linesOf_flat flat ne, List.map_singleton, dropWhileEnd_flat flat]
        exact .last flat ne
    | cons x rest =>
      obtain rfl : x = '\n' := by simpa using stop x rfl
      rw [lines, linesOf_append flat, List.map_cons, dropWhileEnd_append flat]
      refine .cons flat (ih rest.length ?_ rest rfl)
      rw [← h, List.length_append, List.length_cons]
      omega

theorem Lined.lineFeed_not_mem {cs : List Char} {ls : List (List Char)} (lined : Lined cs ls) :
    ∀ l ∈ ls, '\n' ∉ l := by
  induction lined with
  | nil => simp
  | last flat => simpa using flat
  | cons flat _ ih => exact List.forall_mem_cons.mpr ⟨flat, ih⟩

end Text

/-! ### A text scanned line by line -/

namespace Segment

open Text

theorem map_content_tokens (line line' : Int) (segments : List Segment) :
    (tokens line segments).map Token.content = (tokens line' segments).map Token.content := by
  have shift : line = line' + (line - line') := by omega
  rw [shift, tokens_add, List.map_map]
  rfl

/-- The tokens of a text are those of its lines, but for where they are. -/
theorem map_content_tokens_lined {cs : List Char} {ls : List (List Char)} (lined : Lined cs ls)
    (closed : ∀ l ∈ ls, ∀ s ∈ split l, s.form.isOpen = false) (line : Int) :
    (tokens line (split cs)).map Token.content =
      ls.flatMap fun l => (tokens 1 (split l)).map Token.content := by
  induction lined generalizing line with
  | nil => rw [split_nil]; rfl
  | last => simpa using map_content_tokens line 1 _
  | @cons l rest ls _ _ ih =>
    rw [List.forall_mem_cons] at closed
    have noToken (n : Int) : token? n ⟨.lineFeed, '\n', []⟩ = none := rfl
    rw [split_append_lineFeed closed.1, tokens_append, tokens_cons, noToken, List.map_append,
      Option.toList_none, List.nil_append, ih closed.2, List.flatMap_cons,
      map_content_tokens line 1]

theorem feeds_split_flat {l : List Char} (flat : '\n' ∉ l) : feeds (split l) = 0 :=
  (feeds_split l).trans (List.count_eq_zero.mpr flat)

/-- On one line, the faults are all reported there. -/
theorem map_complaint_faults {segments : List Segment} (flat : feeds segments = 0)
    (filename filename' : String) (line line' : Int) :
    (faults filename line segments).map Session.complaint =
      (faults filename' line' segments).map fun f =>
        Diagnostic.headline line f.diagnostic.context f.diagnostic.message ++ "\n" := by
  induction segments generalizing line line' with
  | nil => rfl
  | cons s segments ih =>
    rw [feeds_cons, Nat.add_eq_zero_iff] at flat
    rw [faults_cons, faults_cons, flat.1, Int.natCast_zero, Int.add_zero, Int.add_zero,
      List.map_append, List.map_append, ih flat.2 line line']
    congr 1
    obtain ⟨form, c, tail⟩ := s
    cases form with
    | openString => simp [fault?, flat.1, Fault.openString, Session.complaint, Fault.line]
    | _ => rfl

/-- The faults of a text are those of its lines, each on the line where it is. -/
theorem map_complaint_faults_lined {cs : List Char} {ls : List (List Char)} (lined : Lined cs ls)
    (closed : ∀ l ∈ ls, ∀ s ∈ split l, s.form.isOpen = false) (filename filename' : String)
    (n : Nat) :
    (faults filename n (split cs)).map Session.complaint =
      (ls.zipIdx n).flatMap fun q => (faults filename' 1 (split q.1)).map fun f =>
        Diagnostic.headline q.2 f.diagnostic.context f.diagnostic.message ++ "\n" := by
  have one {l : List Char} (flat : '\n' ∉ l) (n : Nat) :=
    map_complaint_faults (feeds_split_flat flat) filename filename' n 1
  induction lined generalizing n with
  | nil => rw [split_nil]; rfl
  | last flat => simpa using one flat n
  | @cons l rest ls flat _ ih =>
    rw [List.forall_mem_cons] at closed
    have noFault (n : Int) : fault? filename n ⟨.lineFeed, '\n', []⟩ = none := rfl
    have below : (n : Int) + feeds (split l) + (⟨.lineFeed, '\n', []⟩ : Segment).lineFeeds =
        (n + 1 : Nat) := by
      have feed : (⟨.lineFeed, '\n', []⟩ : Segment).lineFeeds = 1 := rfl
      rw [feeds_split_flat flat, feed]
      rfl
    rw [split_append_lineFeed closed.1, faults_append, faults_cons, noFault, below,
      List.map_append, Option.toList_none, List.nil_append, ih closed.2, List.zipIdx_cons,
      List.flatMap_cons, one flat n]

end Segment

/-! ### Sessions -/

/-- What a scan found, without the end of the text and without lines. -/
def Scan.contents (s : Scan) : List (Kind × String × Option Literal) :=
  (s.tokens.filter (·.kind != .endOfText)).map Token.content

theorem Scan.contents_ofText (source filename : String) : (ofText source filename).contents =
    (Segment.tokens 1 (split source.toList)).map Token.content := by
  have others : ∀ t ∈ Segment.tokens 1 (split source.toList), (t.kind != .endOfText) = true :=
    fun t ht => bne_iff_ne.mpr (Grammar.kind_ne_endOfText_of_mem (cut_split source.toList) ht)
  have last (line : Int) : [endToken line].filter (·.kind != .endOfText) = [] := rfl
  rw [contents, tokens_ofText, List.filter_append, List.filter_eq_self.mpr others, last,
    List.append_nil]

namespace Session

/-- The scan of one line that was read at the prompt. -/
def scanLine (read : String) : Scan :=
  Scan.ofText (String.ofList (Text.dropWhileEnd (· == '\n') read.toList)) inputName

/-- A session prints the prompt and what the next line gives, over and over, whatever was reported
before. -/
theorem converse_eq (settings : Settings) (tally : Tally) (reads : List String) :
    converse settings tally reads =
      ⟨String.join ((reads.takeWhile (· != "")).map fun r =>
          settings.prompt ++ shown settings (scanLine r)) ++ (settings.prompt ++ "\n"),
        (reads.takeWhile (· != "")).flatMap fun r => journal inputName (scanLine r)⟩ := by
  induction reads generalizing tally with
  | nil => simp [converse, Printed.ofOut]
  | cons read reads ih =>
    by_cases stop : read = ""
    · simp [converse, stop, Printed.ofOut]
    · have go : (read :: reads).takeWhile (· != "") = read :: reads.takeWhile (· != "") :=
        List.takeWhile_cons_of_pos (bne_iff_ne.mpr stop)
      have append (p q : Printed) : p ++ q = ⟨p.out ++ q.out, p.err ++ q.err⟩ := rfl
      rw [converse, if_neg stop, line, run_eq, go]
      simp only [ih, append, Printed.ofOut, List.map_cons, String.join_cons, List.flatMap_cons,
        List.nil_append, String.append_assoc]
      rfl

theorem takeWhile_reads (text : String) : (reads text).takeWhile (· != "") = reads text := by
  rw [List.takeWhile_eq_self_iff]
  intro read h
  obtain ⟨line, hl, rfl⟩ := List.mem_map.mp h
  simpa using Text.ne_nil_of_mem_linesOf hl

theorem map_scanLine_reads (text : String) : (reads text).map scanLine =
    (Text.lines text.toList).map fun l => Scan.ofText (String.ofList l) inputName := by
  simp [reads, Text.lines, scanLine]

theorem prompt_reads (settings : Settings) (text : String) :
    prompt settings (reads text) =
      ⟨String.join (((reads text).map scanLine).map fun s => settings.prompt ++ shown settings s) ++
          (settings.prompt ++ "\n"),
        ((reads text).map scanLine).flatMap (journal inputName)⟩ := by
  rw [prompt, converse_eq, takeWhile_reads, List.map_map, List.flatMap_map]
  rfl

end Session

open Session

theorem Script.read_toUTF8 {disk : Node} {path encoding text : String}
    (supported : Text.Encoding.ofName? encoding = some .utf8) (name : '\x00' ∉ path.toList)
    (held : disk.read path = .ok text.toUTF8.data.toList) (noReturn : '\r' ∉ text.toList) :
    Script.read disk path encoding = .ok text := by
  have same : Text.unifyLineEnds text.toList = text.toList := by
    rw [Text.unifyLineEnds_eq (Text.paired_of_not_mem noReturn), Text.dropReturns_eq_self noReturn]
  rw [Script.read_of_held name supported held, Text.Encoding.decode_toUTF8]
  simp only [same, String.ofList_toList]

/-- A session at the prompt and a script with the same text, without returns and with no line that
leaves a string or a comment open, show the same tokens, where the session also shows the end of
each line, and report the same faults in the same order. The session reports each on line 1 and the
script on the line of the text that holds it. -/
theorem prompt_agrees_with_file {settings : Settings} {disk : Node} {path text : String}
    (echoes : settings.echoTokens = true)
    (supported : Text.Encoding.ofName? settings.encoding = some .utf8)
    (name : '\x00' ∉ path.toList) (held : disk.read path = .ok text.toUTF8.data.toList)
    (noReturn : '\r' ∉ text.toList)
    (closed : ∀ l ∈ Text.lines text.toList,
      ∀ f ∈ (Scan.ofText (String.ofList l) inputName).faults,
        f.kind ≠ .openString ∧ f.kind ≠ .openComment) :
    let whole := Scan.ofText text path
    let each := (Text.lines text.toList).map fun l => Scan.ofText (String.ofList l) inputName
    ∃ code err, file settings disk path = .ok (code, ⟨echo whole.tokens, err⟩) ∧
      (prompt settings (reads text)).out =
        String.join (each.map fun s => settings.prompt ++ echo s.tokens) ++
          (settings.prompt ++ "\n") ∧
      whole.contents = each.flatMap Scan.contents ∧
      messages (prompt settings (reads text)).err = (each.flatMap fun s => s.faults.map fun f =>
        Diagnostic.headline 1 f.diagnostic.context f.diagnostic.message ++ "\n") ∧
      messages err = ((each.zipIdx 1).flatMap fun q => q.1.faults.map fun f =>
        Diagnostic.headline q.2 f.diagnostic.context f.diagnostic.message ++ "\n") := by
  intro whole each
  have lined := Text.lined_lines text.toList
  have shut : ∀ l ∈ Text.lines text.toList, ∀ s ∈ split l, s.form.isOpen = false := by
    intro l hl
    have faults := closed l hl
    rw [Scan.faults_ofText, String.toList_ofList] at faults
    exact isOpen_eq_false_of_faults faults
  have run := file_of_read (Script.read_toUTF8 supported name held noReturn)
  rw [shown, if_pos echoes] at run
  refine ⟨_, _, run, ?_, ?_, ?_, ?_⟩
  · rw [prompt_reads, map_scanLine_reads]
    simp only [shown, if_pos echoes]
    rfl
  · rw [Scan.contents_ofText, map_content_tokens_lined lined shut, List.flatMap_map]
    simp only [Scan.contents_ofText, String.toList_ofList]
  · rw [prompt_reads, map_scanLine_reads, messages_flatMap]
    simp only [messages_journal, each, List.flatMap_map, Scan.faults_ofText, String.toList_ofList]
    refine List.flatMap_congr fun l hl => ?_
    have flat := lined.lineFeed_not_mem l hl
    exact map_complaint_faults (feeds_split_flat flat) inputName inputName 1 1
  · have told := map_complaint_faults_lined lined shut path inputName 1
    rw [Int.natCast_one] at told
    rw [messages_scriptJournal, Scan.faults_ofText, told, List.zipIdx_map, List.flatMap_map]
    simp only [Prod.map_fst, Prod.map_snd, Scan.faults_ofText, String.toList_ofList]
    rfl

/-- Three lines with a stray character on the first and on the last. -/
def strayLines : String := "a @\n// \"b\n\"c\" $"

theorem prompt_agrees_with_file_three_lines :
    ∃ code err, file Settings.default (.folder [("t", .file strayLines.toUTF8.data.toList)])
        "t" = .ok (code, ⟨"IDENTIFIER a\nSTRING \"c\" c\nEOF\n", err⟩) ∧
      (prompt Settings.default (reads strayLines)).out =
        "> IDENTIFIER a\nEOF\n" ++ "> EOF\n" ++ "> STRING \"c\" c\nEOF\n" ++ "> \n" ∧
      messages (prompt Settings.default (reads strayLines)).err =
        ["[line 1] Error: Unexpected character.\n", "[line 1] Error: Unexpected character.\n"] ∧
      messages err =
        ["[line 1] Error: Unexpected character.\n", "[line 3] Error: Unexpected character.\n"] := by
  have held : (Node.folder [("t", .file strayLines.toUTF8.data.toList)]).read "t" =
      .ok strayLines.toUTF8.data.toList := by cbv
  have closed : ∀ l ∈ Text.lines strayLines.toList,
      ∀ f ∈ (Scan.ofText (String.ofList l) inputName).faults,
        f.kind ≠ .openString ∧ f.kind ≠ .openComment := by decide +kernel
  have supported : Text.Encoding.ofName? Settings.default.encoding = some .utf8 := by decide
  obtain ⟨code, err, run, out, -, prompt, file⟩ :=
    prompt_agrees_with_file rfl supported (by decide) held (by decide) closed
  have echoed : echo (Scan.ofText strayLines "t").tokens =
      "IDENTIFIER a\nSTRING \"c\" c\nEOF\n" := by decide +kernel
  exact ⟨code, err, echoed ▸ run, out.trans (by decide +kernel), prompt.trans (by decide +kernel),
    file.trans (by decide +kernel)⟩

end LoxScan
