import LoxScan.Loggers
import LoxScan.Session
import LoxScan.Proofs.Run

/-! What a run prints. The tally of a run counts the faults of the text on top of what was reported
before; what the run prints depends on the text alone. On standard error each fault leaves a record
and a message, in the order of the faults, and the scan leaves one record behind them. Where no
loggers are set up, only the messages appear. -/

namespace LoxScan

open Segment

/-- A token without its line: its kind, its lexeme and its value. -/
def Token.content (t : Token) : Kind × String × Option Literal := (t.kind, t.lexeme, t.literal)

/-! ### The reports of a scan -/

namespace Cursor

variable {σ : Type} (keep : σ → Fault → σ)

/-- Whoever always goes on is told of the faults of all segments, in order. -/
theorem state_follow_steady (c : Cursor) (s : σ) (segments : List Segment) :
    (c.follow (Reporter.steady keep) s segments).state =
      (Segment.faults c.filename c.line segments).foldl keep s := by
  induction segments generalizing c s with
  | nil => rfl
  | cons segment segments ih =>
    have next := ih (c.consume segment)
    cases fault : segment.fault? c.filename c.line with
    | none =>
      rw [follow_cons_of_sound _ _ _ fault, next, faults_cons, fault]
      rfl
    | some f =>
      rw [follow_cons_of_fault _ _ _ fault, faults_cons, fault]
      exact next (keep s f)

theorem state_scan_steady (source filename : String) (s : σ) :
    ((atStart source filename).scan (Reporter.steady keep) s).state =
      (Scan.ofText source filename).faults.foldl keep s := by
  rw [Scan.faults_ofText]
  refine Eq.trans ?_ (state_follow_steady keep (atStart source filename) s (split source.toList))
  rw [scan]
  split <;> rfl

end Cursor

namespace Tally

/-- The tally after reports of some faults. -/
def after (t : Tally) (faults : List Fault) : Tally :=
  ⟨t.hadError || !faults.isEmpty, t.count + faults.length⟩

theorem after_cons (t : Tally) (f : Fault) (faults : List Fault) :
    t.after (f :: faults) = t.add.after faults := by
  simp [after, add, Nat.add_assoc, Nat.add_comm 1]

theorem hadError_zero_after (faults : List Fault) :
    (zero.after faults).hadError = !faults.isEmpty := rfl

theorem count_zero_after (faults : List Fault) : (zero.after faults).count = faults.length :=
  Nat.zero_add _

end Tally

namespace Session

/-- The message that reports a fault. -/
def complaint (f : Fault) : String :=
  Diagnostic.headline f.line f.diagnostic.context f.diagnostic.message ++ "\n"

/-- What the scan of a text brings forth for standard error. -/
def journal (filename : String) (s : Scan) : List Entry :=
  s.faults.flatMap (fun f => [.record (.ofFault f), .message (complaint f)]) ++
    [.record (.ofScan filename s)]

/-- What the scan of a text prints to standard output. -/
def shown (settings : Settings) (s : Scan) : String :=
  if settings.echoTokens then echo s.tokens else ""

theorem foldl_note (faults : List Fault) (tally : Tally) (entries : Array Entry) :
    faults.foldl note (tally, entries) =
      (tally.after faults, entries ++
        (faults.flatMap fun f => [.record (.ofFault f), .message (complaint f)]).toArray) := by
  induction faults generalizing tally entries with
  | nil => simp [Tally.after]
  | cons f faults ih =>
    rw [List.foldl_cons, note, ih, Tally.after_cons]
    simp [report, complaint]

/-- A run adds the faults of the text to the tally and prints what the text alone decides. -/
theorem run_eq (settings : Settings) (filename source : String) (tally : Tally) :
    run settings filename source tally =
      (tally.after (Scan.ofText source filename).faults,
        ⟨shown settings (Scan.ofText source filename),
          journal filename (Scan.ofText source filename)⟩) := by
  have found : Scan.ofCursor ((Cursor.atStart source filename).scan (Reporter.steady note)
      (tally, #[])).cursor = Scan.ofText source filename := by
    rw [Scan.ofText_eq]
    exact Scan.ofCursor_scan (fun _ _ _ => rfl) _ source filename
  have told := Cursor.state_scan_steady note source filename (tally, #[])
  rw [foldl_note] at told
  simp only [run, found, told, Array.empty_append]
  rfl

/-! ### Messages -/

/-- The messages among what a run brings forth for standard error. -/
def messages (entries : List Entry) : List String :=
  entries.filterMap fun
    | .message text => some text
    | .record _ => none

@[simp] theorem messages_nil : messages [] = [] := rfl

@[simp] theorem messages_append (a b : List Entry) :
    messages (a ++ b) = messages a ++ messages b := List.filterMap_append

@[simp] theorem messages_record (r : Record) (entries : List Entry) :
    messages (.record r :: entries) = messages entries := rfl

@[simp] theorem messages_message (text : String) (entries : List Entry) :
    messages (.message text :: entries) = text :: messages entries := rfl

theorem messages_flatMap {α : Type} (xs : List α) (f : α → List Entry) :
    messages (xs.flatMap f) = xs.flatMap fun x => messages (f x) := List.filterMap_flatMap

theorem messages_journal (filename : String) (s : Scan) :
    messages (journal filename s) = s.faults.map complaint := by
  rw [journal, messages_append, messages_flatMap, messages_record, messages_nil, List.append_nil,
    List.map_eq_flatMap]
  rfl

/-- No record is severe enough for the level that the root starts with. -/
theorem writeRecord_fresh (r : Record) : Loggers.fresh.writeRecord r = "" := by
  obtain ⟨severity, channel, message⟩ := r
  have silent : ¬ Loggers.fresh.threshold channel ≤ severity.level := by
    cases severity <;> cases channel <;> decide
  exact if_neg silent

/-- Where no loggers are set up, standard error holds the messages and nothing else. -/
theorem write_fresh (entries : List Entry) :
    Loggers.fresh.write entries = String.join (messages entries) := by
  induction entries with
  | nil => rfl
  | cons entry entries ih =>
    rw [Loggers.write_cons, ih]
    cases entry with
    | message text => rw [messages_message, String.join_cons]; rfl
    | record r => rw [messages_record, Loggers.writeEntry, writeRecord_fresh, String.empty_append]

end Session

end LoxScan
