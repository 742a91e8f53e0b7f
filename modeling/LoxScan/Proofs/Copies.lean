import LoxScan.Proofs.Setup
import Mathlib.Data.List.Basic

/-! How many copies of a record are written. A record is written once for each handler on its way,
if it reaches the level of the nearest logger that has one. Nothing changes a logger besides the
program's but being asked for, and that gives it a handler and a level of its own. So the level that
is set up for the program governs the records of a scan, each of them written once, exactly as long
as no other logger on their way was asked for. -/

namespace LoxScan

theorem Logger.attached_attached (logger : Logger) :
    logger.attached.attached = logger.attached := by
  by_cases bare : logger.handlers = 0
  · have seen : logger.attached = ⟨1, Loggers.warning⟩ := if_pos bare
    rw [seen]
    rfl
  · rw [attached_of_handlers bare, attached_of_handlers bare]

theorem Record.length_line_pos (r : Record) : 0 < r.line.length := by
  rw [line, String.length_append]
  exact Nat.succ_pos _

theorem Scan.of_mem_records {s : Scan} {filename : String} {r : Record}
    (h : r ∈ s.records filename) : r.channel = .scanner ∧ r.severity = .debug := by
  rcases List.mem_append.mp h with fault | scan
  · obtain ⟨f, -, rfl⟩ := List.mem_map.mp fault
    exact ⟨rfl, rfl⟩
  · obtain rfl := List.mem_singleton.mp scan
    exact ⟨rfl, rfl⟩

namespace Loggers

/-! ### Copies of a record -/

def copies (l : Loggers) (r : Record) : Nat :=
  if l.threshold r.channel ≤ r.severity.level then l.handlersOf r.channel else 0

theorem writeRecord_eq (l : Loggers) (r : Record) :
    l.writeRecord r = String.join (List.replicate (l.copies r) r.line) := by
  rw [writeRecord, copies]
  split <;> rfl

theorem write_records (l : Loggers) (records : List Record) : l.write (records.map .record) =
    String.join (records.flatMap fun r => List.replicate (l.copies r) r.line) := by
  induction records with
  | nil => rfl
  | cons r records ih =>
    rw [List.map_cons, write_cons, ih, writeEntry, writeRecord_eq, List.flatMap_cons,
      String.join_append]

theorem length_join_copies (k : Nat) (records : List Record) :
    (String.join (records.flatMap fun r => List.replicate k r.line)).length =
      k * (String.join (records.map Record.line)).length := by
  induction records with
  | nil => rfl
  | cons r records ih =>
    have each : (String.join (List.replicate k r.line)).length = k * r.line.length := by
      rw [String.length_join, List.map_replicate, List.sum_replicate_nat]
    rw [List.flatMap_cons, String.join_append, String.length_append, ih, each, List.map_cons,
      String.join_cons, String.length_append, Nat.mul_add]

/-- Where all records have the same number of copies, the length of what is written tells whether it
is one. -/
theorem write_records_eq_iff {l : Loggers} {records : List Record} {k : Nat}
    (nonempty : records ≠ []) (same : ∀ r ∈ records, l.copies r = k) :
    l.write (records.map .record) = String.join (records.map Record.line) ↔ k = 1 := by
  have written : l.write (records.map .record) =
      String.join (records.flatMap fun r => List.replicate k r.line) := by
    rw [write_records]
    exact congrArg String.join (List.flatMap_congr fun r mem => by rw [same r mem])
  rw [written]
  constructor
  · intro once
    have length := congrArg String.length once
    obtain ⟨r, rest, rfl⟩ := List.exists_cons_of_ne_nil nonempty
    have positive := r.length_line_pos
    rw [length_join_copies, List.map_cons, String.join_cons, String.length_append] at length
    exact Nat.eq_of_mul_eq_mul_right (by omega) (length.trans (Nat.one_mul _).symm)
  · rintro rfl
    rw [List.map_eq_flatMap]
    rfl

/-- The level that counts is that of the first logger on the way that has one. -/
theorem threshold_eq {l : Loggers} {channel : Channel} (before : List String) {name : String}
    {after : List String} (way : channel.lineage = before ++ name :: after)
    (unset : ∀ n ∈ before, (l.get n).level = 0) (has : (l.get name).level ≠ 0) :
    l.threshold channel = (l.get name).level := by
  have first : channel.lineage.find? (fun name => (l.get name).level ≠ 0) = some name :=
    List.find?_eq_some_iff_append.mpr ⟨decide_eq_true has, before, after, way, fun n mem => by
      simpa using unset n mem⟩
  rw [threshold, first]
  rfl

/-! ### Loggers that are asked for -/

/-- Whether a call asks for the logger of a given name. -/
def Call.asksFor (name : String) : Call → Bool
  | .attach given => nameOf given == name
  | .configure _ => false

def asked (calls : List Call) (name : String) : Bool := calls.any (·.asksFor name)

theorem asked_concat (calls : List Call) (call : Call) (name : String) :
    asked (calls ++ [call]) name = (asked calls name || call.asksFor name) := by
  rw [asked, List.any_append, List.any_cons, List.any_nil, Bool.or_false]
  rfl

variable {name : String}

theorem get_configure_of_ne (other : name ≠ programName) (l : Loggers) (choice : LevelChoice) :
    (l.configure choice).1.get name = l.get name := by
  have attach : (l.attach programName).get name = l.get name := get_attach_of_ne other l
  cases found : choice.level? with
  | some level => rw [configure_of_level? found, setLevel, get_set_of_ne other, attach]
  | none =>
    cases choice with
    | named unknown => rw [configure_unknown found]
    | numbered level => cases found
    | fraction x => exact attach
    | absent => exact attach

theorem get_perform_of_ne (other : name ≠ programName) (l : Loggers) (call : Call) :
    (l.perform call).1.get name =
      if call.asksFor name then (l.get name).attached else l.get name := by
  cases call with
  | configure choice => exact get_configure_of_ne other l choice
  | attach given =>
    by_cases same : nameOf given = name
    · have asks : Call.asksFor name (.attach given) = true := beq_iff_eq.mpr same
      rw [perform, asks, if_pos rfl, ← same, get_attach]
    · have other : Call.asksFor name (.attach given) = false := beq_false_of_ne same
      rw [perform, other, get_attach_of_ne (Ne.symm same)]
      rfl

/-- A logger besides the program's is as it was at the start, or as it is once it was asked for. -/
theorem get_performAll_of_ne (other : name ≠ programName) (calls : List Call) :
    (fresh.performAll calls).get name =
      if asked calls name then (fresh.get name).attached else fresh.get name := by
  -- on the last call, since a history grows at its end
  induction calls using List.reverseRecOn with
  | nil => rfl
  | append_singleton calls call ih =>
    have last := get_perform_of_ne other (fresh.performAll calls) call
    rw [performAll_append, asked_concat]
    refine last.trans ?_
    rw [ih]
    cases asked calls name with
    | false => rfl
    | true =>
      simp only [Bool.true_or, if_true, Logger.attached_attached, ite_self]

/-- Only the root has a level before it is asked for. -/
theorem get_unasked {calls : List Call} (other : name ≠ programName)
    (unasked : asked calls name = false) :
    (fresh.performAll calls).get name = ⟨0, if name = rootName then warning else 0⟩ := by
  rw [get_performAll_of_ne other, unasked, if_neg Bool.false_ne_true, get, fresh]
  by_cases root : name = rootName
  · rw [if_pos root, root]
    rfl
  · have apart : (name == rootName) = false := beq_false_of_ne root
    rw [if_neg root, List.lookup_cons, apart]
    rfl

theorem get_asked {calls : List Call} (other : name ≠ programName)
    (asks : asked calls name = true) :
    (fresh.performAll calls).get name = ⟨1, warning⟩ := by
  have start : (fresh.performAll []).get name = _ := get_unasked other rfl
  have bare : (fresh.get name).handlers = 0 := congrArg Logger.handlers start
  rw [get_performAll_of_ne other, asks, if_pos rfl]
  exact if_pos bare

/-! ### The records of a scan -/

section Scans

variable {calls : List Call} {level : Int}

theorem get_program_of_level (set : (calls.filterMap Call.level?).getLast? = some level) :
    (fresh.performAll calls).get programName = ⟨1, level⟩ := by
  have made := made_performAll calls
  have one : ((fresh.performAll calls).get programName).handlers = 1 := by
    obtain ⟨call, mem, sets⟩ := List.mem_filterMap.mp (List.mem_of_getLast? set)
    exact made.installed.mpr ⟨call, mem, .of_level? sets⟩
  exact congrArg₂ Logger.mk one (made.level.trans (by rw [set, Option.getD_some]))

variable {r : Record} (own : r.channel = .scanner) (debug : r.severity = .debug)

include own debug

/-- A logger below the program's that was asked for keeps the records of a scan back. -/
theorem copies_of_asked (below : asked calls "lox.lexer.scanner" ∨ asked calls "lox.lexer") :
    (fresh.performAll calls).copies r = 0 := by
  have high : (fresh.performAll calls).threshold .scanner = warning := by
    cases scanner : asked calls "lox.lexer.scanner" with
    | true =>
      have named := get_asked (by decide) scanner
      rw [threshold_eq [] rfl (by simp) (by rw [named]; decide), named]
    | false =>
      have lexer : asked calls "lox.lexer" = true := by simpa [scanner] using below
      have level : ((fresh.performAll calls).get "lox.lexer.scanner").level = 0 :=
        congrArg Logger.level (get_unasked (by decide) scanner)
      have named := get_asked (by decide) lexer
      rw [threshold_eq ["lox.lexer.scanner"] rfl (by simpa using level) (by rw [named]; decide),
        named]
  rw [copies, own, debug, high]
  rfl

/-- Otherwise the level of the program's logger counts, and its handler writes a record of a scan;
the root's writes it once more if the root was asked for. -/
theorem copies_of_unasked (set : (calls.filterMap Call.level?).getLast? = some level)
    (nonzero : level ≠ 0) (low : level ≤ Severity.debug.level)
    (scanner : asked calls "lox.lexer.scanner" = false)
    (lexer : asked calls "lox.lexer" = false) :
    (fresh.performAll calls).copies r = if asked calls rootName then 2 else 1 := by
  have first := get_unasked (by decide) scanner
  have second := get_unasked (by decide) lexer
  have program : (fresh.performAll calls).get "lox" = ⟨1, level⟩ := get_program_of_level set
  have governs : (fresh.performAll calls).threshold .scanner = level := by
    have bare : ∀ n ∈ ["lox.lexer.scanner", "lox.lexer"],
        ((fresh.performAll calls).get n).level = 0 := by
      rw [List.forall_mem_cons, List.forall_mem_singleton, first, second]
      decide
    rw [threshold_eq _ rfl bare (by rw [program]; exact nonzero), program]
  have handlers : (fresh.performAll calls).handlersOf .scanner =
      1 + ((fresh.performAll calls).get rootName).handlers := by
    show ((fresh.performAll calls).get "lox.lexer.scanner").handlers +
      (((fresh.performAll calls).get "lox.lexer").handlers +
        (((fresh.performAll calls).get "lox").handlers +
          (((fresh.performAll calls).get rootName).handlers + 0))) = _
    rw [first, second, program]
    simp
  rw [copies, own, debug, governs, if_pos low, handlers]
  cases root : asked calls rootName with
  | true => rw [get_asked (by decide) root]; rfl
  | false => rw [get_unasked (by decide) root]; rfl

theorem copies_eq_one_iff (set : (calls.filterMap Call.level?).getLast? = some level)
    (nonzero : level ≠ 0) (low : level ≤ Severity.debug.level) :
    (fresh.performAll calls).copies r = 1 ↔
      ∀ name ∈ Channel.scanner.lineage, asked calls name → name = programName := by
  have way : (∀ name ∈ Channel.scanner.lineage, asked calls name → name = programName) ↔
      asked calls "lox.lexer.scanner" = false ∧ asked calls "lox.lexer" = false ∧
        asked calls rootName = false := by
    simp [Channel.lineage, programName, rootName]
  rw [way]
  by_cases below : asked calls "lox.lexer.scanner" ∨ asked calls "lox.lexer"
  · rw [copies_of_asked own debug below]
    refine iff_of_false Nat.zero_ne_one fun ⟨scanner, lexer, _⟩ => ?_
    simp [scanner, lexer] at below
  · obtain ⟨scanner, lexer⟩ : asked calls "lox.lexer.scanner" = false ∧
        asked calls "lox.lexer" = false := by simpa [not_or] using below
    rw [copies_of_unasked own debug set nonzero low scanner lexer]
    cases asked calls rootName <;> simp [scanner, lexer]

end Scans

/-- The log of a scan after calls of which the last one that set a level for the program set one
that lets every record of a scan through. It has a line for each fault and one for the scan, in this
order and each of them once, exactly if no call asked for another logger on the way of these
records. Below the program's logger it would have a level of its own that counts, above it a handler
of its own. -/
theorem scan_logged {calls : List Call} {level : Int}
    (set : (calls.filterMap Call.level?).getLast? = some level) (nonzero : level ≠ 0)
    (low : level ≤ Severity.debug.level) (source filename : String) :
    let found := Scan.ofText source filename
    let lines := (found.faults.map fun f => (Record.ofFault f).line) ++
      [(Record.ofScan filename found).line]
    lines.length = found.faults.length + 1 ∧
      ((fresh.performAll calls).write ((found.records filename).map .record) = String.join lines ↔
        ∀ name ∈ Channel.scanner.lineage, asked calls name → name = programName) := by
  intro found lines
  have lines_eq : lines = (found.records filename).map Record.line := by
    rw [Scan.records, List.map_append, List.map_map]
    rfl
  have nonempty : found.records filename ≠ [] := List.append_ne_nil_of_right_ne_nil _ (by simp)
  have same : ∀ r ∈ found.records filename, (fresh.performAll calls).copies r =
      (fresh.performAll calls).copies (Record.ofScan filename found) := fun r mem => by
    rw [copies, copies, (Scan.of_mem_records mem).1, (Scan.of_mem_records mem).2]
    rfl
  refine ⟨by rw [List.length_append, List.length_map, List.length_singleton], ?_⟩
  rw [lines_eq, write_records_eq_iff nonempty same]
  exact copies_eq_one_iff rfl rfl set nonzero low

/-- Calls that ask for the program's logger and for some that no record of a scan passes, set a
level twice, and fail at last. -/
def ordinaryCalls : List Call :=
  [.attach "lox.cli", .configure (.numbered 0), .configure (.named "debug"), .attach programName,
    .attach "lox.lexer.scanner.text", .configure (.named "loud")]

theorem scan_logged_ordinary :
    (ordinaryCalls.filterMap Call.level?).getLast? = some 10 ∧ (10 : Int) ≠ 0 ∧
      (10 : Int) ≤ Severity.debug.level ∧
      (fresh.performAll ordinaryCalls).write
          (((Scan.ofText "a @" "f").records "f").map .record) =
        "1970-01-01 00:00:00,000 [DEBUG] lox.lexer.scanner: " ++
          "UnexpectedCharacter at f:1: Unexpected character.\n" ++
        ("1970-01-01 00:00:00,000 [DEBUG] lox.lexer.scanner: " ++
          "Scanned f: 2 tokens, 1 errors\n") := by
  have set : (ordinaryCalls.filterMap Call.level?).getLast? = some 10 := by decide +kernel
  have alone : ∀ name ∈ Channel.scanner.lineage, asked ordinaryCalls name → name = programName := by
    decide
  have logged := (scan_logged set (by decide) (by decide) "a @" "f").2.mpr alone
  exact ⟨set, by decide, by decide, logged.trans (by decide +kernel)⟩

/-- A logger between that of the scanner and the program's is asked for, then the program's is set
up: a scan with a fault leaves no line in the log. -/
theorem scan_unlogged_lexer :
    let calls : List Call := [.attach "lox.lexer", .configure (.named "DEBUG")]
    let found := Scan.ofText "@" "<script>"
    (calls.filterMap Call.level?).getLast? = some 10 ∧ found.faults.length = 1 ∧
      (fresh.performAll calls).write ((found.records "<script>").map .record) = "" ∧
      (fresh.performAll calls).write ((found.records "<script>").map .record) ≠
        String.join ((found.faults.map fun f => (Record.ofFault f).line) ++
          [(Record.ofScan "<script>" found).line]) := by
  decide +kernel

end Loggers

end LoxScan
