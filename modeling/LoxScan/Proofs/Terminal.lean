import LoxScan.Proofs.Prompt

/-! Sessions at the prompt, by how they end. A session ends where the input does, at an empty
reading or at an interrupt, and then it has printed, line by line, what each line gives on its own:
whatever a line leaves open or has reported stays within it. -/

namespace LoxScan

theorem Loggers.write_flatMap {α : Type} (l : Loggers) (xs : List α) (f : α → List Entry) :
    l.write (xs.flatMap f) = String.join (xs.map fun x => l.write (f x)) := by
  induction xs with
  | nil => rfl
  | cons x xs ih =>
    rw [List.flatMap_cons, write_append, ih, List.map_cons, String.join_cons]

namespace Session

/-- Where a session ends: nothing is left to read, the reading is empty, or an interrupt comes in
its place. What would come after that is not looked at. -/
inductive Ends : List Input → Prop
  | endOfInput : Ends []
  | emptyRead (more : List Input) : Ends (.read "" :: more)
  | interrupted (more : List Input) : Ends (.interrupt :: more)

/-- What a session prints for one line that is read, with the prompt for it. -/
def exchange (settings : Settings) (read : String) : Printed :=
  ⟨settings.prompt ++ shown settings (scanLine read), journal inputName (scanLine read)⟩

/-- What was reported so far has no part in what a line prints, nor in what comes after it. -/
theorem turns_read (settings : Settings) (tally : Tally) {text : String} (ne : text ≠ "")
    (inputs : List Input) :
    turns settings tally (.read text :: inputs) =
      ((turns settings .zero inputs).1,
        exchange settings text ++ (turns settings .zero inputs).2) := by
  rw [turns, if_neg ne, line, run_eq]
  rfl

theorem terminal_read (settings : Settings) {text : String} (ne : text ≠ "")
    (inputs : List Input) :
    terminal settings (.read text :: inputs) =
      (success, exchange settings text ++ (terminal settings inputs).2) := by
  have assoc (p q r : Printed) : p ++ q ++ r = p ++ (q ++ r) :=
    congrArg₂ Printed.mk String.append_assoc (List.append_assoc ..)
  rw [terminal, turns_read settings .zero ne, terminal]
  obtain ⟨broken, rest⟩ := turns settings .zero inputs
  -- the line feed behind an interrupt is the session's, so it stays behind the rest
  cases broken with
  | false => rfl
  | true => exact congrArg (Prod.mk success) (assoc ..)

theorem terminal_of_ends (settings : Settings) {ending : List Input} (ends : Ends ending) :
    terminal settings ending = (success, .ofOut (settings.prompt ++ "\n")) := by
  cases ends with
  | endOfInput => rfl
  | emptyRead more => rfl
  | interrupted more => rfl

/-- A session prints what its lines give, one after the other, and then the prompt at which it
ends. -/
theorem terminal_append (settings : Settings) {reads : List String} {ending : List Input}
    (lines : ∀ read ∈ reads, read ≠ "") (ends : Ends ending) :
    terminal settings (reads.map .read ++ ending) =
      (success,
        ⟨String.join (reads.map fun read => (exchange settings read).out) ++
            (settings.prompt ++ "\n"),
          reads.flatMap fun read => (exchange settings read).err⟩) := by
  have append (p q : Printed) : p ++ q = ⟨p.out ++ q.out, p.err ++ q.err⟩ := rfl
  induction reads with
  | nil =>
    rw [List.map_nil, List.nil_append, terminal_of_ends settings ends, Printed.ofOut,
      List.map_nil, String.join_nil, String.empty_append, List.flatMap_nil]
  | cons read reads ih =>
    rw [List.forall_mem_cons] at lines
    rw [List.map_cons, List.cons_append, terminal_read settings lines.1, ih lines.2, append,
      List.map_cons, String.join_cons, String.append_assoc, List.flatMap_cons]

/-- The session that a line is the only one of. -/
theorem terminal_single (settings : Settings) {read : String} (ne : read ≠ "") :
    terminal settings [.read read] =
      (success, exchange settings read ++ .ofOut (settings.prompt ++ "\n")) := by
  rw [terminal_read settings ne, terminal_of_ends settings .endOfInput]

/-- Without interrupts a session is one over the texts that are read. -/
theorem terminal_map_read (settings : Settings) (reads : List String) :
    terminal settings (reads.map .read) = (success, prompt settings reads) := by
  have ends : Ends ((reads.dropWhile (· != "")).map .read) := by
    cases rest : reads.dropWhile (· != "") with
    | nil => exact .endOfInput
    | cons read more =>
      have stop := List.head?_dropWhile_not (· != "") reads
      rw [rest] at stop
      obtain rfl : read = "" := by simpa using stop
      exact .emptyRead _
  have lines : ∀ read ∈ reads.takeWhile (· != ""), read ≠ "" := fun read h =>
    bne_iff_ne.mp (List.mem_takeWhile_imp (p := (· != "")) h)
  rw [← List.takeWhile_append_dropWhile (p := (· != "")) (l := reads), List.map_append,
    terminal_append settings lines ends, List.takeWhile_append_dropWhile, prompt, converse_eq]
  rfl

/-- A session shows the prompt and the tokens of each line, as a scan of that line alone finds them,
and at its end the prompt once more. What it reports is what each line reports in a session of its
own, in the order of the lines, also as it is written under any loggers. -/
theorem session_concatenates (settings : Settings) {reads : List String} {ending : List Input}
    (lines : ∀ read ∈ reads, read ≠ "") (ends : Ends ending) :
    ∃ printed, terminal settings (reads.map .read ++ ending) = (0, printed) ∧
      printed.out = String.join (reads.map fun read => settings.prompt ++
          if settings.echoTokens then echo (scanLine read).tokens else "") ++
        (settings.prompt ++ "\n") ∧
      printed.err = (reads.flatMap fun read => (terminal settings [.read read]).2.err) ∧
      messages printed.err = (reads.flatMap fun read => (scanLine read).faults.map complaint) ∧
      ∀ loggers : Loggers, loggers.write printed.err =
        String.join (reads.map fun read =>
          loggers.write (terminal settings [.read read]).2.err) := by
  have alone : ∀ read ∈ reads,
      (terminal settings [.read read]).2.err = (exchange settings read).err := fun read h => by
    rw [terminal_single settings (lines read h)]
    exact List.append_nil _
  refine ⟨_, terminal_append settings lines ends, rfl, ?_, ?_, fun loggers => ?_⟩
  · exact List.flatMap_congr fun read h => (alone read h).symm
  · rw [messages_flatMap]
    exact List.flatMap_congr fun read _ => messages_journal inputName (scanLine read)
  · rw [Loggers.write_flatMap, List.map_congr_left fun read h => ?_]
    exact congrArg loggers.write (alone read h).symm

/-- Lines that leave a string open, hold a stray character and leave a comment open. -/
def faultyLines : List String := ["\"a\n", "b @\n\n", "/* c"]

/-- The session over these lines that an interrupt breaks off in front of one more. -/
theorem session_concatenates_interrupted :
    (∀ read ∈ faultyLines, read ≠ "") ∧ Ends [.interrupt, .read "d"] ∧
      ∃ printed, terminal Settings.default (faultyLines.map .read ++ [.interrupt, .read "d"]) =
          (0, printed) ∧
        printed.out = "> EOF\n> IDENTIFIER b\nEOF\n> EOF\n> \n" ∧
        messages printed.err = ["[line 1] Error at end: Unterminated string.\n",
          "[line 1] Error: Unexpected character.\n",
          "[line 1] Error at end: Unterminated block comment.\n"] := by
  have lines : ∀ read ∈ faultyLines, read ≠ "" := by decide
  obtain ⟨printed, run, out, -, told, -⟩ :=
    session_concatenates Settings.default lines (.interrupted [.read "d"])
  exact ⟨lines, .interrupted _, printed, run, out.trans (by decide +kernel),
    told.trans (by decide +kernel)⟩

end Session

end LoxScan
