import LoxScan.Command
import LoxScan.Proofs.Prompt

/-! What the level of the log changes. A run at any level ends like the run at the level `DEBUG`,
prints the same, and leaves out of standard error the records below its level, nothing else. At the
level `DEBUG` no record is left out: there is one for each fault, right before the message, and one
for each scan, with the numbers of its tokens and faults. -/

namespace LoxScan

/-! ### Command lines that ask for every record -/

namespace Argument

/-- The word with its value behind the equals sign changed. -/
def respell (word : String) : String := String.ofList ((cut word.toList).1 ++ "=DEBUG".toList)

/-- Whether the level of the log is in the next word. -/
def awaitsLevel : Argument → Bool
  | switch .logLevel none => true
  | _ => false

def verboseWord (awaited : Bool) (word : String) : Argument → String
  | switch .logLevel (some _) => respell word
  | plain _ => if awaited then "DEBUG" else word
  | _ => word

/-- The words of a command line, with `DEBUG` for every level of the log that is given there. -/
def verboseWords (awaited : Bool) : List String → List String
  | [] => []
  | word :: words =>
    if word = "--" then word :: words
    else
      match classify word with
      | .error _ => word :: words
      | .ok argument =>
        argument.verboseWord awaited word :: verboseWords argument.awaitsLevel words

def verbose (awaited : Bool) : Argument → Argument
  | switch .logLevel (some _) => switch .logLevel (some "DEBUG".toList)
  | plain word => plain (if awaited then "DEBUG" else word)
  | argument => argument

def verboseAll (awaited : Bool) : List Argument → List Argument
  | [] => []
  | argument :: rest => argument.verbose awaited :: verboseAll argument.awaitsLevel rest

theorem ne_dashes_of_classify {word : String} {argument : Argument}
    (h : classify word = .ok argument) : word ≠ "--" := by
  rintro rfl
  have ambiguous : (classify "--").isOk = false := by decide +kernel
  rw [h] at ambiguous
  cases ambiguous

theorem eq_of_mem_spellings {s : String × Switch} (h : s ∈ Switch.spellings)
    (level : s.2 = .logLevel) : s.1 = "--log-level" := by
  revert s
  decide

/-- The switches that a start of a word may mean. -/
def meant (start : List Char) : List Switch :=
  (Switch.spellings.filter fun s => start.isPrefixOf s.1.toList).map (·.2)

theorem meant_of_candidates {cs value : List Char} {spelling : String}
    (h : candidates cs = [(spelling, .logLevel, some value)]) : meant (cut cs).1 = [.logLevel] := by
  rw [candidates.eq_def] at h
  split at h
  · have switches := congrArg (List.map (·.2.1)) h
    rw [List.map_map] at switches
    exact switches
  · next letter rest _ =>
    -- no single letter stands for this switch
    have listed := List.mem_singleton_self (spelling, Switch.logLevel, some value)
    rw [← h] at listed
    obtain ⟨s, found, same⟩ := List.mem_map.mp listed
    obtain ⟨member, short⟩ := List.mem_filter.mp found
    have long := eq_of_mem_spellings member (congrArg (·.2.1) same)
    rw [long, decide_eq_true_iff] at short
    have length : "--log-level".toList.length = 2 := congrArg List.length short
    exact absurd length (by decide)
  · cases h

theorem meant_of_classify {word : String} {value : List Char}
    (h : classify word = .ok (.switch .logLevel (some value))) :
    meant (cut word.toList).1 = [.logLevel] := by
  rw [classify.eq_def] at h
  split at h
  · simp only [classifyDashed] at h
    split at h
    · cases h
    · next found =>
      obtain ⟨rfl, -⟩ := Argument.switch.inj (Except.ok.inj h)
      obtain ⟨before, after, listed, -⟩ := List.lookup_eq_some_iff.mp found
      have member : (String.ofList (cut word.toList).1, Switch.logLevel) ∈ Switch.spellings := by
        rw [listed]
        exact List.mem_append_right before List.mem_cons_self
      have spelled := eq_of_mem_spellings member rfl
      rw [String.ofList_eq] at spelled
      rw [spelled]
      decide
    · split at h
      · next found =>
        cases h
        exact meant_of_candidates found
      · split at h <;> cases h
      · cases h
  · cases h

theorem classify_of_meant {start : List Char} (h : meant start = [.logLevel]) :
    classify (String.ofList (start ++ "=DEBUG".toList)) =
      .ok (.switch .logLevel (some "DEBUG".toList)) := by
  have listed := List.mem_singleton_self Switch.logLevel
  rw [← h] at listed
  obtain ⟨s, found, same⟩ := List.mem_map.mp listed
  obtain ⟨member, begins⟩ := List.mem_filter.mp found
  rw [eq_of_mem_spellings member same, List.isPrefixOf_iff_prefix, ← List.mem_inits] at begins
  have each : ∀ start ∈ "--log-level".toList.inits, meant start = [.logLevel] →
      classify (String.ofList (start ++ "=DEBUG".toList)) =
        .ok (.switch .logLevel (some "DEBUG".toList)) := by
    decide +kernel
  exact each start begins h

theorem classify_verboseWord {word : String} {argument : Argument} (awaited : Bool)
    (h : classify word = .ok argument) :
    classify (argument.verboseWord awaited word) = .ok (argument.verbose awaited) := by
  have plain : classify "DEBUG" = .ok (.plain "DEBUG") := by decide
  cases argument with
  | plain word' =>
    cases awaited with
    | true => exact plain
    | false => exact h
  | dashes | unknown => exact h
  | switch s value =>
    cases value with
    | none => cases s <;> exact h
    | some value =>
      cases s with
      | logLevel => exact classify_of_meant (meant_of_classify h)
      | help | noEcho | version => exact h

theorem verboseAll_map_plain (words : List String) :
    verboseAll false (words.map .plain) = words.map .plain := by
  induction words with
  | nil => rfl
  | cons word words ih =>
    show Argument.plain word :: verboseAll false (words.map .plain) = _
    rw [ih, List.map_cons]

theorem classifyAll_verboseWords (awaited : Bool) (words : List String) :
    classifyAll (verboseWords awaited words) = (classifyAll words).map (verboseAll awaited) := by
  induction words generalizing awaited with
  | nil => rfl
  | cons word words ih =>
    by_cases stop : word = "--"
    · rw [verboseWords, if_pos stop, classifyAll, if_pos stop]
      show _ = Except.ok (Argument.dashes :: verboseAll false (words.map .plain))
      rw [verboseAll_map_plain]
    · rw [verboseWords, if_neg stop, classifyAll, if_neg stop]
      cases known : classify word with
      | error misuse =>
        show classifyAll (word :: words) = .error misuse
        rw [classifyAll, if_neg stop, known]
        rfl
      | ok argument =>
        have changed := classify_verboseWord awaited known
        show classifyAll (argument.verboseWord awaited word :: _) = _
        rw [classifyAll, if_neg (ne_dashes_of_classify changed), changed, ih]
        cases classifyAll words <;> rfl

end Argument

namespace Request

/-- The same request, with `DEBUG` for the level of the log if it gives one. -/
def verbose (r : Request) : Request := { r with logLevel := r.logLevel.map fun _ => "DEBUG" }

namespace Progress

def verbose (p : Progress) : Progress := { p with request := p.request.verbose }

theorem plain_verbose (p : Progress) (word : String) :
    p.verbose.plain word = (p.plain word).verbose := by
  obtain ⟨request, phase, leftover⟩ := p
  cases phase <;> rfl

theorem dashes_verbose (p : Progress) : p.verbose.dashes = p.dashes.verbose := by
  obtain ⟨request, phase, leftover⟩ := p
  cases phase <;> rfl

end Progress

end Request

/-- The same demand, with `DEBUG` for the level of the log if it gives one. -/
def Demand.verbose : Demand → Demand
  | request r => request r.verbose
  | demand => demand

open Argument Request in
theorem follow_verbose (p : Progress) (arguments : List Argument) :
    follow p.verbose (verboseAll false arguments) = (follow p arguments).map Demand.verbose := by
  fun_induction follow p arguments with
  | case1 p empty =>
    show follow p.verbose [] = _
    rw [follow, if_pos (show p.verbose.leftover = [] from empty)]
    rfl
  | case2 p left =>
    show follow p.verbose [] = _
    rw [follow, if_neg (show p.verbose.leftover ≠ [] from left)]
    rfl
  | case3 p word rest ih =>
    rw [← ih, ← Progress.plain_verbose]
    rfl
  | case4 p rest ih =>
    rw [← ih, ← Progress.dashes_verbose]
    rfl
  | case5 p word rest ih | case6 p value rest ih | case7 p value rest ih | case12 p rest ih =>
    exact ih
  | case8 p rest other =>
    cases rest with
    | nil => rfl
    | cons argument rest =>
      cases argument with
      | plain word => exact absurd rfl (other word rest)
      | dashes | unknown => rfl
      | switch s value => cases s <;> cases value <;> rfl
  | case9 p s value rest other =>
    cases s with
    | logLevel => exact absurd rfl other
    | help | noEcho | version => rfl
  | case10 | case11 => rfl

/-- A command line with `DEBUG` for every level in it means what it meant, with that level. -/
theorem Demand.ofWords_verboseWords (words : List String) :
    ofWords (Argument.verboseWords false words) = (ofWords words).map verbose := by
  have start : Request.Progress.start.verbose = .start := rfl
  rw [ofWords, ofWords, Argument.classifyAll_verboseWords]
  cases Argument.classifyAll words with
  | error misuse => rfl
  | ok arguments =>
    show Request.follow .start (Argument.verboseAll false arguments) = _
    rw [← start, follow_verbose]
    rfl

example : Argument.verboseWords false ["--log=info", "a", "--log-level", "error", "--", "--log"] =
    ["--log=DEBUG", "a", "--log-level", "DEBUG", "--", "--log"] := by decide +kernel

/-! ### What the loggers let through -/

/-- An entry as it stands on standard error. A record has a line of its own, which says the time,
how severe the record is and which logger it went to. -/
def Entry.layout : Entry → String
  | message text => text
  | record ⟨severity, channel, text⟩ =>
    let name := match severity with
      | .debug => "DEBUG"
      | .info => "INFO"
    let logger := match channel with
      | .command => "lox.cli"
      | .scanner => "lox.lexer.scanner"
    "1970-01-01 00:00:00,000 [" ++ name ++ "] " ++ logger ++ ": " ++ text ++ "\n"

/-- Whether an entry appears at a level: messages always do, records if they reach it. -/
def Entry.appears (level : Int) : Entry → Bool
  | message _ => true
  | record ⟨.debug, _, _⟩ => decide (level ≤ 10)
  | record ⟨.info, _, _⟩ => decide (level ≤ 20)

theorem Record.line_eq_layout (r : Record) : r.line = (Entry.record r).layout := by
  obtain ⟨severity, channel, text⟩ := r
  cases severity <;> cases channel <;> rfl

theorem Record.appears_iff (level : Int) (r : Record) :
    (Entry.record r).appears level = true ↔ level ≤ r.severity.level := by
  obtain ⟨severity, channel, text⟩ := r
  cases severity <;> exact decide_eq_true_iff

namespace Loggers

theorem configure_named {name : String} {level : Int} (h : levelNamed? name = some level) :
    fresh.configure (.named name) = (fresh.setLevel level, none) := by
  rw [configure, h]

/-- The level that counts if the program's logger is set to a level: zero leaves it to the root. -/
def effective (level : Int) : Int := if level = 0 then 30 else level

theorem threshold_setLevel (level : Int) (channel : Channel) :
    (fresh.setLevel level).threshold channel = effective level := by
  have program : (fresh.setLevel level).get "lox" = ⟨1, level⟩ := rfl
  have command : (fresh.setLevel level).get "lox.cli" = ⟨0, 0⟩ := rfl
  have lexer : (fresh.setLevel level).get "lox.lexer" = ⟨0, 0⟩ := rfl
  have scanner : (fresh.setLevel level).get "lox.lexer.scanner" = ⟨0, 0⟩ := rfl
  rw [effective]
  by_cases zero : level = 0
  · subst zero
    cases channel <;> rfl
  · cases channel with
    | command => simp [threshold, Channel.lineage, program, command, zero]
    | scanner => simp [threshold, Channel.lineage, program, lexer, scanner, zero]

theorem handlersOf_setLevel (level : Int) (channel : Channel) :
    (fresh.setLevel level).handlersOf channel = 1 := by
  cases channel <;> rfl

theorem writeEntry_setLevel (level : Int) (entry : Entry) :
    (fresh.setLevel level).writeEntry entry =
      if entry.appears (effective level) then entry.layout else "" := by
  cases entry with
  | message text => rfl
  | record r =>
    rw [writeEntry, writeRecord, threshold_setLevel, handlersOf_setLevel]
    by_cases reached : effective level ≤ r.severity.level
    · rw [if_pos reached, if_pos ((r.appears_iff _).mpr reached), List.replicate_one,
        String.join_cons, String.join_nil, String.append_empty, r.line_eq_layout]
    · rw [if_neg reached, if_neg (mt (r.appears_iff _).mp reached)]

theorem write_setLevel (level : Int) (entries : List Entry) : (fresh.setLevel level).write entries =
    String.join ((entries.filter (Entry.appears (effective level))).map Entry.layout) := by
  induction entries with
  | nil => rfl
  | cons entry entries ih =>
    rw [write_cons, ih, writeEntry_setLevel]
    cases seen : entry.appears (effective level) with
    | true => rw [List.filter_cons_of_pos seen, List.map_cons, String.join_cons, if_pos rfl]
    | false =>
      rw [List.filter_cons_of_neg (by simp [seen]), if_neg (by simp), String.empty_append]

/-- At the level `DEBUG` all entries appear. -/
theorem write_setLevel_debug (entries : List Entry) :
    (fresh.setLevel 10).write entries = String.join (entries.map Entry.layout) := by
  have all : ∀ entry ∈ entries, entry.appears (effective 10) = true := by
    intro entry _
    cases entry with
    | message text => rfl
    | record r =>
      obtain ⟨severity, channel, message⟩ := r
      cases severity <;> rfl
  rw [write_setLevel, List.filter_eq_self.mpr all]

end Loggers

/-! ### The runs at two levels -/

namespace Command

open Loggers (fresh)

/-- The same call, with `DEBUG` for every level of the log that it gives. -/
def Invocation.verbose (i : Invocation) : Invocation :=
  { i with
    arguments := Argument.verboseWords false i.arguments
    environment := (Settings.logLevelVariable, "DEBUG") :: i.environment }

/-- `Plan.Raised level p q`: the plan `q` is `p` but for the level of the log, which is `DEBUG`. -/
inductive Plan.Raised (level : Int) : Plan → Plan → Prop
  | finished {outcome printed} (messages : ∀ e ∈ printed.err, ∃ text, e = .message text) :
      Raised level (.over outcome printed) (.over outcome printed)
  | script (path settings) :
      Raised level (.script path settings (fresh.setLevel level))
        (.script path { settings with logLevel := "DEBUG" } (fresh.setLevel 10))
  | prompt (settings) :
      Raised level (.prompt settings (fresh.setLevel level))
        (.prompt { settings with logLevel := "DEBUG" } (fresh.setLevel 10))

theorem settings_verbose (environment : List (String × String)) (r : Request) :
    settings ((Settings.logLevelVariable, "DEBUG") :: environment) r.verbose =
      { settings environment r with logLevel := "DEBUG" } := by
  have upper : Text.upper "DEBUG" = "DEBUG" := by decide +kernel
  have level : ((Settings.logLevelVariable, "DEBUG") :: environment).lookup
      Settings.logLevelVariable = some "DEBUG" := List.lookup_cons_self
  have prompt : ((Settings.logLevelVariable, "DEBUG") :: environment).lookup
      Settings.promptVariable = environment.lookup Settings.promptVariable := rfl
  obtain ⟨scripts, logLevel, noEcho⟩ := r
  cases logLevel <;>
    simp [settings, Settings.ofEnvironment, Request.verbose, level, prompt, upper]

theorem raised_message (level : Int) (outcome : Outcome) (text : String) :
    Plan.Raised level (.over outcome (.ofMessage text)) (.over outcome (.ofMessage text)) :=
  .finished fun _ he => ⟨text, List.mem_singleton.mp he⟩

theorem raised_planOf {environment : List (String × String)} {r : Request} {level : Int}
    (accepted : Loggers.levelNamed? (settings environment r).logLevel = some level) :
    Plan.Raised level (planOf environment r)
      (planOf ((Settings.logLevelVariable, "DEBUG") :: environment) r.verbose) := by
  have raised : Loggers.levelNamed? "DEBUG" = some 10 := by decide +kernel
  rw [planOf, planOf, settings_verbose, Loggers.configure_named accepted,
    Loggers.configure_named raised]
  obtain ⟨scripts, logLevel, noEcho⟩ := r
  rcases scripts with _ | ⟨path, _ | ⟨other, scripts⟩⟩
  · exact .prompt (settings environment _)
  · exact .script path (settings environment _)
  · exact raised_message level _ _

theorem raised_plan {i : Invocation} {level : Int}
    (accepted : ∀ r, Demand.ofWords i.arguments = .ok (.request r) →
      Loggers.levelNamed? (settings i.environment r).logLevel = some level) :
    Plan.Raised level (plan i.arguments i.environment)
      (plan i.verbose.arguments i.verbose.environment) := by
  have words : Demand.ofWords i.verbose.arguments = _ := Demand.ofWords_verboseWords i.arguments
  rw [plan, plan, words]
  cases read : Demand.ofWords i.arguments with
  | error misuse => exact raised_message level _ _
  | ok demand =>
    cases demand with
    | help | version => exact .finished fun _ he => by cases he
    | request r => exact raised_planOf (accepted r read)

/-! ### Results -/

section

variable {i : Invocation} {outcome : Outcome} {printed : Printed} {settings : Settings}
  {path : String} {loggers : Loggers}

theorem run_of_over (h : plan i.arguments i.environment = .over outcome printed) :
    run i = ⟨outcome, printed, fresh⟩ := by
  rw [run, h]

theorem run_of_script {code : Nat}
    (h : plan i.arguments i.environment = .script path settings loggers)
    (file : Session.file settings i.disk path = .ok (code, printed)) :
    run i = ⟨.returned code, printed, loggers⟩ := by
  simp only [run, h, file]

theorem run_of_failure {fault : ScriptFault}
    (h : plan i.arguments i.environment = .script path settings loggers)
    (file : Session.file settings i.disk path = .error fault) :
    run i = ⟨.failed path fault, ⟨"", []⟩, loggers⟩ := by
  simp only [run, h, file]

theorem run_of_prompt (h : plan i.arguments i.environment = .prompt settings loggers) :
    run i = ⟨.returned Session.success, Session.prompt settings
      (Session.reads (String.ofList (Text.unifyLineEnds i.input.toList))), loggers⟩ := by
  rw [run, h]

end

/-- The level of the log does not change what a script gives. -/
theorem file_verbose (settings : Settings) (disk : Node) (path : String) :
    Session.file { settings with logLevel := "DEBUG" } disk path =
      Session.file settings disk path := by
  rw [Session.file, Session.file]
  cases Script.read disk path settings.encoding with
  | ok source => rfl
  | error fault => cases fault <;> rfl

theorem prompt_verbose (settings : Settings) (text : String) :
    Session.prompt { settings with logLevel := "DEBUG" } (Session.reads text) =
      Session.prompt settings (Session.reads text) := by
  rw [Session.prompt_reads, Session.prompt_reads]
  rfl

/-- The texts that a call has scanned, each with its name: that of a script which can be read, or
the lines of a session. -/
def Invocation.texts (i : Invocation) : List (String × String) :=
  match plan i.arguments i.environment with
  | .over _ _ => []
  | .script path settings _ =>
    match Script.read i.disk path settings.encoding with
    | .ok source => [(path, source)]
    | .error _ => []
  | .prompt _ _ =>
    (Session.reads (String.ofList (Text.unifyLineEnds i.input.toList))).map fun read =>
      (Session.inputName, String.ofList (Text.dropWhileEnd (· == '\n') read.toList))

/-- What the scan of a text brings forth for standard error. Each fault has a record, which names
its kind and its place, and right behind that the message that reports it. Behind them all stands
one record with the numbers of tokens and of faults. -/
def scanLog (name source : String) : List Entry :=
  let s := Scan.ofText source name
  s.faults.flatMap (fun f =>
    let d := f.diagnostic
    let place := d.location.filename ++ ":" ++ toString d.location.line
    [.record ⟨.debug, .scanner, f.kind.name ++ " at " ++ place ++ ": " ++ d.message⟩,
      .message ("[line " ++ toString d.location.line ++ "] Error" ++ d.context ++ ": " ++ d.message
        ++ "\n")]) ++
    [.record ⟨.debug, .scanner, "Scanned " ++ name ++ ": " ++ toString s.tokens.length ++
      " tokens, " ++ toString s.faults.length ++ " errors"⟩]

theorem journal_eq_scanLog (name source : String) :
    Session.journal name (Scan.ofText source name) = scanLog name source := rfl

/-- `r.Filters level verbose`: both end alike and print the same; the entries of `verbose` are all
written there, and in `r` those that appear at the level. -/
structure Result.Filters (level : Int) (r verbose : Result) : Prop where
  outcome : r.outcome = verbose.outcome
  out : r.printed.out = verbose.printed.out
  all : verbose.err = String.join (verbose.printed.err.map Entry.layout)
  err : r.err = String.join
    ((verbose.printed.err.filter (Entry.appears (Loggers.effective level))).map Entry.layout)

/-- `Scanned texts entries`: the entries tell of the scans of the texts, one after the other. What
else is there are records of the command itself, or messages if nothing was scanned. -/
def Scanned (texts : List (String × String)) (entries : List Entry) : Prop :=
  ∃ before after : List Entry,
    entries = before ++ texts.flatMap (fun t => scanLog t.1 t.2) ++ after ∧
    ∀ e ∈ before ++ after, (∃ text, e = .record ⟨.info, .command, text⟩) ∨
      texts = [] ∧ ∃ text, e = .message text

theorem filters_setLevel (level : Int) (outcome : Outcome) (printed : Printed) :
    Result.Filters level ⟨outcome, printed, fresh.setLevel level⟩
      ⟨outcome, printed, fresh.setLevel 10⟩ where
  outcome := rfl
  out := rfl
  all := Loggers.write_setLevel_debug printed.err
  err := Loggers.write_setLevel level printed.err

theorem filters_messages (level : Int) (outcome : Outcome) {printed : Printed}
    (messages : ∀ e ∈ printed.err, ∃ text, e = .message text) :
    Result.Filters level ⟨outcome, printed, fresh⟩ ⟨outcome, printed, fresh⟩ := by
  have all : fresh.write printed.err = String.join (printed.err.map Entry.layout) := by
    refine congrArg String.join (List.map_congr_left fun e he => ?_)
    obtain ⟨text, rfl⟩ := messages e he
    rfl
  have appear : ∀ e ∈ printed.err, e.appears (Loggers.effective level) = true := by
    intro e he
    obtain ⟨text, rfl⟩ := messages e he
    rfl
  refine ⟨rfl, rfl, all, ?_⟩
  rw [List.filter_eq_self.mpr appear]
  exact all

theorem scanned_messages {entries : List Entry}
    (messages : ∀ e ∈ entries, ∃ text, e = .message text) : Scanned [] entries :=
  ⟨[], entries, rfl, fun e he => .inr ⟨rfl, messages e he⟩⟩

theorem scanned_scriptJournal (path source : String) :
    Scanned [(path, source)] (Session.scriptJournal path source (Scan.ofText source path)) := by
  rw [Session.scriptJournal, journal_eq_scanLog]
  refine ⟨[_], _, by rw [List.flatMap_singleton, List.singleton_append], ?_⟩
  intro e he
  left
  rcases List.mem_cons.mp he with rfl | he
  · exact ⟨_, rfl⟩
  · split at he
    · cases he
    · exact ⟨_, List.mem_singleton.mp he⟩

theorem scanned_prompt (settings : Settings) (text : String) :
    Scanned ((Session.reads text).map fun read =>
        (Session.inputName, String.ofList (Text.dropWhileEnd (· == '\n') read.toList)))
      (Session.prompt settings (Session.reads text)).err := by
  refine ⟨[], [], ?_, fun e he => by cases he⟩
  rw [Session.prompt_reads, List.nil_append, List.append_nil, List.flatMap_map, List.flatMap_map]
  apply List.flatMap_congr
  intro read _
  exact journal_eq_scanLog Session.inputName _

/-- A script that cannot be read gives no more than a message. -/
theorem file_of_unreadable {settings : Settings} {disk : Node} {path : String} {fault : ScriptFault}
    (unreadable : Script.read disk path settings.encoding = .error fault) :
    (∃ code text, Session.file settings disk path = .ok (code, .ofMessage text)) ∨
      Session.file settings disk path = .error fault := by
  rw [Session.file, unreadable]
  cases fault with
  | path fault => exact .inl ⟨_, _, rfl⟩
  | nullInPath | unknownEncoding | undecodable => exact .inr rfl

/-- The level of the log only filters records. Take any call whose level is a known one. With
`DEBUG` in its place the call ends the same, prints the same, and writes all that it brings forth
to standard error: for each text that is scanned a record and a message for every fault, one right
behind the other, then one record with the numbers of its tokens and faults. The call itself leaves
out the records that do not reach its level, and writes all else in the same order. -/
theorem run_at_level {i : Invocation} {level : Int}
    (accepted : ∀ r, Demand.ofWords i.arguments = .ok (.request r) →
      Loggers.levelNamed? (settings i.environment r).logLevel = some level) :
    (run i).Filters level (run i.verbose) ∧ Scanned i.texts (run i.verbose).printed.err := by
  have raised := raised_plan accepted
  rw [Invocation.texts]
  generalize plan_eq : plan i.arguments i.environment = p at raised
  generalize verbose_eq : plan i.verbose.arguments i.verbose.environment = q at raised
  cases raised with
  | finished messages =>
    rw [run_of_over plan_eq, run_of_over verbose_eq]
    exact ⟨filters_messages level _ messages, scanned_messages messages⟩
  | prompt settings =>
    rw [run_of_prompt plan_eq, run_of_prompt verbose_eq, prompt_verbose]
    exact ⟨filters_setLevel level _ _, scanned_prompt settings _⟩
  | script path settings =>
    have same := file_verbose settings i.disk path
    dsimp only
    cases read : Script.read i.disk path settings.encoding with
    | ok source =>
      have file := Session.file_of_read read
      rw [run_of_script plan_eq file, run_of_script verbose_eq (same.trans file)]
      exact ⟨filters_setLevel level _ _, scanned_scriptJournal path source⟩
    | error fault =>
      rcases file_of_unreadable read with ⟨code, text, file⟩ | file
      · rw [run_of_script plan_eq file, run_of_script verbose_eq (same.trans file)]
        exact ⟨filters_setLevel level _ _,
          scanned_messages fun e he => ⟨text, List.mem_singleton.mp he⟩⟩
      · rw [run_of_failure plan_eq file, run_of_failure verbose_eq (same.trans file)]
        exact ⟨filters_setLevel level _ _, scanned_messages fun e he => by cases he⟩

/-- A script with a stray character, and two levels of which the one on the command line counts. -/
def strayCall : Invocation where
  arguments := ["--log=info", "t"]
  environment := [(Settings.logLevelVariable, "error")]
  input := ""
  disk := .folder [("t", .file "a @".toUTF8.data.toList)]

theorem run_at_level_info : (run strayCall).Filters 20 (run strayCall.verbose) ∧
    Scanned [("t", "a @")] (run strayCall.verbose).printed.err ∧
    (run strayCall).err =
      "1970-01-01 00:00:00,000 [INFO] lox.cli: Scanning t (3 characters)\n" ++
      "[line 1] Error: Unexpected character.\n" ++
      "1970-01-01 00:00:00,000 [INFO] lox.cli: t: 1 lexical error(s)\n" ∧
    (run strayCall.verbose).err =
      "1970-01-01 00:00:00,000 [INFO] lox.cli: Scanning t (3 characters)\n" ++
      "1970-01-01 00:00:00,000 [DEBUG] lox.lexer.scanner: " ++
        "UnexpectedCharacter at t:1: Unexpected character.\n" ++
      "[line 1] Error: Unexpected character.\n" ++
      "1970-01-01 00:00:00,000 [DEBUG] lox.lexer.scanner: Scanned t: 2 tokens, 1 errors\n" ++
      "1970-01-01 00:00:00,000 [INFO] lox.cli: t: 1 lexical error(s)\n" := by
  have demand : Demand.ofWords strayCall.arguments =
      .ok (.request ⟨["t"], some "info", false⟩) := by decide +kernel
  have known : Loggers.levelNamed? (settings strayCall.environment
      ⟨["t"], some "info", false⟩).logLevel = some 20 := by decide +kernel
  have accepted : ∀ r, Demand.ofWords strayCall.arguments = .ok (.request r) →
      Loggers.levelNamed? (settings strayCall.environment r).logLevel = some 20 := by
    intro r asked
    rw [demand] at asked
    cases asked
    exact known
  have texts : strayCall.texts = [("t", "a @")] := by cbv
  have raised : plan strayCall.verbose.arguments strayCall.verbose.environment =
      .script "t" { Settings.default with logLevel := "DEBUG" } (fresh.setLevel 10) := by
    decide +kernel
  have readable : Script.read strayCall.verbose.disk "t" Settings.default.encoding =
      .ok "a @" := by cbv
  have entries : (run strayCall.verbose).printed.err =
      Session.scriptJournal "t" "a @" (Scan.ofText "a @" "t") := by
    rw [run_of_script raised (Session.file_of_read readable)]
  obtain ⟨filters, scanned⟩ := run_at_level accepted
  have info := filters.err
  have debug := filters.all
  rw [entries] at info debug
  rw [texts] at scanned
  exact ⟨filters, scanned, info.trans (by decide +kernel), debug.trans (by decide +kernel)⟩

end Command

end LoxScan
