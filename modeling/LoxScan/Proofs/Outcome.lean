import LoxScan.Script
import LoxScan.Proofs.Report

/-! How a script ends. A script that can be read ends with a code that says whether its text has
faults, and prints the tokens and the faults of that text; asked for its tokens, the same script
gives them or its first fault. A script that leads to no file is reported with a code of its own.
Bytes that are no text in the encoding of the settings are not reported at all: the run fails. -/

namespace LoxScan

open Segment

namespace Text

/-- `s` up to its first line feed. -/
def firstLine (s : String) : String := String.ofList (s.toList.takeWhile (· != '\n'))

theorem lineFeed_not_mem_repr (n : Int) : '\n' ∉ n.repr.toList := by
  have digits (m : Nat) : '\n' ∉ m.repr.toList := by
    rw [Nat.repr_eq_ofList_toDigits, String.toList_ofList]
    intro h
    have digit := Nat.isDigit_of_mem_toDigits (by decide) (by decide) h
    exact absurd digit (by decide)
  cases n with
  | ofNat m => exact digits m
  | negSucc m =>
    change '\n' ∉ ("-" ++ m.succ.repr).toList
    rw [String.toList_append, List.mem_append, not_or]
    exact ⟨by decide, digits _⟩

end Text

/-! ### The first line of a diagnostic -/

namespace Diagnostic

theorem lineFeed_not_mem_headline {context message : String} (line : Int)
    (hc : '\n' ∉ context.toList) (hm : '\n' ∉ message.toList) :
    '\n' ∉ (headline line context message).toList := by
  have number := Text.lineFeed_not_mem_repr line
  simp [headline, hc, hm, number]

/-- What follows the first line of a diagnostic begins with a line feed. -/
theorem write_eq (d : Diagnostic) : ∃ rest : String,
    d.write = headline d.location.line d.context d.message ++ rest ∧
      ∀ x ∈ rest.toList.head?, x = '\n' := by
  unfold write
  split
  · exact ⟨"", by simp, by simp⟩
  · exact ⟨"", by simp, by simp⟩
  · next help _ _ => exact ⟨"\n  help: " ++ help, by simp [String.append_assoc], by simp⟩

theorem firstLine_write {d : Diagnostic} (hc : '\n' ∉ d.context.toList)
    (hm : '\n' ∉ d.message.toList) :
    Text.firstLine d.write = headline d.location.line d.context d.message := by
  obtain ⟨rest, write, stop⟩ := d.write_eq
  have inside := forall_bne (lineFeed_not_mem_headline d.location.line hc hm)
  rw [Text.firstLine, write, String.toList_append, takeWhile_run inside fun x hx => ?_,
    String.ofList_toList]
  rw [stop x hx]
  rfl

end Diagnostic

/-- The contexts and messages of the faults of a text. -/
def Fault.wordings : List (String × String) :=
  [("", "Unexpected character."), (" at end", "Unterminated string."),
    (" at end", "Unterminated block comment.")]

theorem Segment.mem_wordings {s : Segment} {filename : String} {line : Int} {f : Fault}
    (made : s.fault? filename line = some f) :
    (f.diagnostic.context, f.diagnostic.message) ∈ Fault.wordings := by
  obtain ⟨form, c, tail⟩ := s
  cases form with
  | stray | openString | openComment =>
    cases made
    simp [Fault.wordings, Fault.strayCharacter, Fault.stray, Fault.openString, Fault.openComment]
  | _ => cases made

/-! ### Reading a script -/

namespace Script

variable {disk : Node} {path encoding : String}

theorem read_of_null (null : '\x00' ∈ path.toList) :
    read disk path encoding = .error .nullInPath := by
  rw [read, if_pos (List.contains_iff_mem.mpr null)]

theorem read_eq_decode (name : '\x00' ∉ path.toList) :
    read disk path encoding = decode encoding (disk.read path) := by
  rw [read, if_neg (mt List.contains_iff_mem.mp name)]

theorem read_of_missing {fault : PathFault} (name : '\x00' ∉ path.toList)
    (missing : disk.read path = .error fault) :
    read disk path encoding = .error (.path fault) := by
  rw [read_eq_decode name, missing, decode]

theorem read_of_held {e : Text.Encoding} {bytes : List UInt8} (name : '\x00' ∉ path.toList)
    (supported : Text.Encoding.ofName? encoding = some e) (held : disk.read path = .ok bytes) :
    read disk path encoding = match e.decode bytes with
      | .error fault => .error (.undecodable fault)
      | .ok cs => .ok (String.ofList (Text.unifyLineEnds cs)) := by
  rw [read_eq_decode name, held]
  cases decoded : e.decode bytes <;> simp only [decode, supported, decoded]

/-- Asked for the tokens of a script that can be read, one gets its tokens or its first fault. -/
theorem tokens_of_read {source : String} (readable : read disk path encoding = .ok source) :
    tokens disk path encoding =
      match (Scan.ofText source path).faults with
      | [] => .tokens (Scan.ofText source path).tokens
      | f :: _ => .faulty f := by
  rw [tokens, readable]
  simp only [Scan.tokens?]
  cases (Scan.ofText source path).faults <;> rfl

end Script

namespace Session

/-- The report of a fault of a text is the first line of the fault as it is told elsewhere. -/
theorem complaint_eq {source filename : String} {f : Fault}
    (h : f ∈ (Scan.ofText source filename).faults) :
    complaint f = Text.firstLine f.diagnostic.write ++ "\n" := by
  rw [Scan.faults_ofText] at h
  obtain ⟨q, -, made⟩ := List.mem_filterMap.mp h
  have plain : ∀ w ∈ Fault.wordings, '\n' ∉ w.1.toList ∧ '\n' ∉ w.2.toList := by decide
  obtain ⟨hc, hm⟩ := plain _ (mem_wordings made)
  rw [Diagnostic.firstLine_write hc hm]
  rfl

/-! ### Scripts that can be read -/

/-- What a script brings forth for standard error. -/
def scriptJournal (path source : String) (s : Scan) : List Entry :=
  .record (.ofScript path source) :: journal path s ++
    if s.faults = [] then [] else [.record (.ofFaultCount path s.faults.length)]

theorem messages_scriptJournal (path source : String) (s : Scan) :
    messages (scriptJournal path source s) = s.faults.map complaint := by
  have count : messages (if s.faults = [] then []
      else [.record (.ofFaultCount path s.faults.length)]) = [] := by
    split <;> rfl
  rw [scriptJournal, List.cons_append, messages_record, messages_append, messages_journal, count,
    List.append_nil]

/-- A script that was read ends with the code for its faults. -/
theorem script_ok (settings : Settings) (path source : String) :
    script settings path (.ok source) =
      .ok (if (Scan.ofText source path).faults = [] then success else dataCode,
        ⟨shown settings (Scan.ofText source path),
          scriptJournal path source (Scan.ofText source path)⟩) := by
  have out (r : Record) (p : Printed) : Printed.ofRecord r ++ p = ⟨p.out, .record r :: p.err⟩ := by
    change Printed.mk ("" ++ p.out) _ = _
    rw [String.empty_append]
    rfl
  have behind (r : Record) (p : Printed) :
      p ++ Printed.ofRecord r = ⟨p.out, p.err ++ [.record r]⟩ := by
    change Printed.mk (p.out ++ "") _ = _
    rw [String.append_empty]
    rfl
  simp only [script, run_eq, out, behind, Tally.hadError_zero_after, Tally.count_zero_after,
    scriptJournal]
  cases (Scan.ofText source path).faults <;> simp

theorem file_of_read {settings : Settings} {disk : Node} {path source : String}
    (readable : Script.read disk path settings.encoding = .ok source) :
    file settings disk path =
      .ok (if (Scan.ofText source path).faults = [] then success else dataCode,
        ⟨shown settings (Scan.ofText source path),
          scriptJournal path source (Scan.ofText source path)⟩) := by
  rw [file, readable, script_ok]

end Session

open Session

theorem join_complaints_eq_empty_iff (faults : List Fault) :
    String.join (faults.map complaint) = "" ↔ faults = [] := by
  cases faults with
  | nil => simp
  | cons f faults => simp [complaint, String.join_cons]

/-- A script that can be read is run as it is scanned. It ends with code 0 exactly if it gives
tokens when asked for them, and with code 65 exactly if it gives a fault. Standard error holds the
first line of every fault of its text, and standard output every token, faults or not, if tokens are
to be shown. Whether they are to be shown changes neither the code nor standard error. -/
theorem file_agrees_with_tokens {settings : Settings} {disk : Node} {path source : String}
    (readable : Script.read disk path settings.encoding = .ok source) :
    ∃ code printed, file settings disk path = .ok (code, printed) ∧
      (code = 0 ↔ ∃ found, Script.tokens disk path settings.encoding = .tokens found) ∧
      (code = 65 ↔ ∃ fault, Script.tokens disk path settings.encoding = .faulty fault) ∧
      Loggers.fresh.write printed.err = String.join ((Scan.ofText source path).faults.map fun f =>
        Text.firstLine f.diagnostic.write ++ "\n") ∧
      (Loggers.fresh.write printed.err = "" ↔ code = 0) ∧
      printed.out = (if settings.echoTokens then
        String.join ((Scan.ofText source path).tokens.map fun t => t.write ++ "\n") else "") ∧
      ∀ echoTokens, ∃ out, file { settings with echoTokens } disk path =
        .ok (code, ⟨out, printed.err⟩) := by
  have run (s : Settings) (same : s.encoding = settings.encoding) :=
    file_of_read (show Script.read disk path s.encoding = .ok source from same ▸ readable)
  have err : Loggers.fresh.write (scriptJournal path source (Scan.ofText source path)) =
      String.join ((Scan.ofText source path).faults.map complaint) := by
    rw [write_fresh, messages_scriptJournal]
  refine ⟨_, _, run settings rfl, ?_, ?_, ?_, ?_, rfl, fun echoTokens => ⟨_, run _ rfl⟩⟩
  · rw [Script.tokens_of_read readable]
    cases (Scan.ofText source path).faults <;> simp [success, dataCode]
  · rw [Script.tokens_of_read readable]
    cases (Scan.ofText source path).faults <;> simp [success, dataCode]
  · rw [err]
    exact congrArg String.join (List.map_congr_left fun f hf => complaint_eq hf)
  · rw [err, join_complaints_eq_empty_iff]
    cases (Scan.ofText source path).faults <;> simp [success, dataCode]

/-- A script of one word, with a stray character and a string that never closes. -/
def twoFaults : Node := .folder [("t", .file "a @\n\"b".toUTF8.data.toList)]

theorem file_agrees_with_tokens_two_faults :
    Script.read twoFaults "t" Settings.default.encoding = .ok "a @\n\"b" ∧
      ∃ printed, file Settings.default twoFaults "t" = .ok (65, printed) ∧
        Loggers.fresh.write printed.err = "[line 1] Error: Unexpected character.\n" ++
          "[line 2] Error at end: Unterminated string.\n" ∧
        printed.out = "IDENTIFIER a\nEOF\n" := by
  have readable : Script.read twoFaults "t" Settings.default.encoding = .ok "a @\n\"b" := by cbv
  obtain ⟨code, printed, run, -, faulty, err, -, out, -⟩ := file_agrees_with_tokens readable
  have first : Script.tokens twoFaults "t" Settings.default.encoding =
      .faulty (.strayCharacter '@' ⟨"t", 1⟩) :=
    (Script.tokens_of_read readable).trans (by decide +kernel)
  have ends : code = 65 := faulty.mpr ⟨_, first⟩
  exact ⟨readable, printed, ends ▸ run, err.trans (by decide +kernel),
    out.trans (by decide +kernel)⟩

/-! ### Scripts that cannot be read -/

theorem Text.Encoding.ofName?_name (e : Text.Encoding) : ofName? e.name = some e := by
  cases e <;> decide

/-- The ways of a script in one of the supported encodings. The run fails exactly if the path holds
a null character or the bytes that it leads to are no text in the encoding. It ends with code 66, a
message and nothing else exactly if the path leads to no file. It ends with code 0 or 65 exactly if
the path leads to bytes that are text in the encoding. -/
theorem file_outcome (settings : Settings) (e : Text.Encoding) (disk : Node) (path : String) :
    let run := file { settings with encoding := e.name } disk path
    ((∃ fault, run = .error fault) ↔ '\x00' ∈ path.toList ∨
        ∃ bytes fault, disk.read path = .ok bytes ∧ e.decode bytes = .error fault) ∧
      (∀ printed, run = .ok (66, printed) ↔ '\x00' ∉ path.toList ∧
        ∃ fault, disk.read path = .error fault ∧
          printed = .ofMessage ("lox: cannot read " ++ path ++ ": " ++ fault.reason ++ "\n")) ∧
      ((∃ printed, run = .ok (0, printed) ∨ run = .ok (65, printed)) ↔ '\x00' ∉ path.toList ∧
        ∃ bytes text, disk.read path = .ok bytes ∧ e.decode bytes = .ok text) := by
  intro run
  have asRead : run = script { settings with encoding := e.name } path
      (Script.read disk path e.name) := rfl
  by_cases null : '\x00' ∈ path.toList
  · have fails : run = .error .nullInPath := by
      rw [asRead, Script.read_of_null null]
      rfl
    simp [fails, null]
  cases held : disk.read path with
  | error fault =>
    have ends : run = .ok (66, .ofMessage
        ("lox: cannot read " ++ path ++ ": " ++ fault.reason ++ "\n")) := by
      rw [asRead, Script.read_of_missing null held]
      rfl
    simp [ends, null, eq_comm]
  | ok bytes =>
    have read := Script.read_of_held null e.ofName?_name held
    cases decoded : e.decode bytes with
    | error fault =>
      have fails : run = .error (.undecodable fault) := by
        rw [asRead, read, decoded]
        rfl
      simp [fails, null, decoded]
    | ok text =>
      rw [decoded] at read
      rw [asRead, read, script_ok]
      cases (Scan.ofText (String.ofList (Text.unifyLineEnds text)) path).faults <;>
        simp [success, dataCode, null, decoded]

/-- A file of one byte that begins no character: the run fails, and nothing says that the file
cannot be read. -/
theorem file_fails_on_undecodable_byte :
    file Settings.default (.folder [("t", .file [0xFF])]) "t" =
      .error (.undecodable ⟨"utf-8", 0xFF, 0, 1, .invalidStart⟩) := by
  cbv

end LoxScan
