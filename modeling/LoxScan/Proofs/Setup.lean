import LoxScan.Loggers
import Mathlib.Data.List.Induction

/-! How calls set up the program's logger. A call leaves that logger as it is, sees to it that it
has its handler, or sets its level as well; so after any calls its handler and its level can be read
off the calls. Loggers of other names have no part in it. -/

namespace LoxScan

/-- The level that a choice stands for. -/
def LevelChoice.level? : LevelChoice → Option Int
  | .named name => Loggers.levelNamed? name
  | .numbered level => some level
  | .fraction _ => none
  | .absent => none

/-- A logger that is seen to have a handler. -/
def Logger.attached (logger : Logger) : Logger :=
  if logger.handlers = 0 then ⟨1, Loggers.warning⟩ else logger

theorem Logger.attached_of_handlers {logger : Logger} (h : logger.handlers ≠ 0) :
    logger.attached = logger := if_neg h

namespace Loggers

/-! ### Loggers by name -/

theorem get_set (l : Loggers) (name : String) (logger : Logger) :
    (l.set name logger).get name = logger := by
  rw [get, set, List.lookup_cons_self]
  rfl

theorem lookup_filter_of_ne {name other : String} (ne : other ≠ name)
    (entries : List (String × Logger)) :
    (entries.filter (·.1 ≠ name)).lookup other = entries.lookup other := by
  induction entries with
  | nil => rfl
  | cons entry entries ih =>
    obtain ⟨key, logger⟩ := entry
    by_cases drop : key = name
    · have apart : (other == key) = false := beq_false_of_ne (drop ▸ ne)
      rw [List.filter_cons_of_neg (by simpa using drop), ih, List.lookup_cons, apart]
    · rw [List.filter_cons_of_pos (by simpa using drop), List.lookup_cons, List.lookup_cons, ih]

theorem get_set_of_ne {name other : String} (ne : other ≠ name) (l : Loggers) (logger : Logger) :
    (l.set name logger).get other = l.get other := by
  have apart : (other == name) = false := beq_false_of_ne ne
  rw [get, set, List.lookup_cons, apart]
  exact congrArg (Option.getD · _) (lookup_filter_of_ne ne l.entries)

theorem get_attach (l : Loggers) (name : String) :
    (l.attach name).get (nameOf name) = (l.get (nameOf name)).attached := by
  rw [attach, Logger.attached]
  by_cases bare : (l.get (nameOf name)).handlers = 0
  · simp only [if_pos bare, get_set]
  · simp only [if_neg bare]

theorem get_attach_of_ne {name other : String} (ne : other ≠ nameOf name) (l : Loggers) :
    (l.attach name).get other = l.get other := by
  rw [attach]
  by_cases bare : (l.get (nameOf name)).handlers = 0
  · simp only [if_pos bare, get_set_of_ne ne]
  · simp only [if_neg bare]

/-- A logger that has a handler is not touched any more. -/
theorem get_attach_of_handlers {l : Loggers} {other : String} (h : (l.get other).handlers ≠ 0)
    (name : String) : (l.attach name).get other = l.get other := by
  by_cases same : other = nameOf name
  · subst same
    rw [get_attach, Logger.attached_of_handlers h]
  · exact get_attach_of_ne same l

/-! ### One call -/

theorem configure_unknown {name : String} (h : levelNamed? name = none) (l : Loggers) :
    l.configure (.named name) = (l, some (.unknownName name)) := by
  rw [configure, h]

theorem configure_of_level? {choice : LevelChoice} {level : Int} (h : choice.level? = some level)
    (l : Loggers) : l.configure choice = (l.setLevel level, none) := by
  cases choice with
  | named name => rw [configure, show levelNamed? name = some level from h]
  | numbered n => rw [configure, Option.some.inj h]
  | fraction x => cases h
  | absent => cases h

/-- A level is set up without a fault if there is one. -/
theorem configure_eq_none_iff (l : Loggers) (choice : LevelChoice) :
    (l.configure choice).2 = none ↔ ∃ level, choice.level? = some level := by
  refine ⟨fun done => ?_, fun ⟨level, h⟩ => by rw [configure_of_level? h]⟩
  cases choice with
  | named name =>
    cases found : levelNamed? name with
    | some level => exact ⟨level, found⟩
    | none => rw [configure_unknown found] at done; cases done
  | numbered level => exact ⟨level, rfl⟩
  | fraction x => cases done
  | absent => cases done

/-- The level that a call sets. -/
def Call.level? : Call → Option Int
  | .attach _ => none
  | .configure choice => choice.level?

/-- `Installs call`: after the call the program's logger has a handler. The call is for that very
logger, or it sets a level, or it fails only when the handler is there already. -/
inductive Installs : Call → Prop
  | program : Installs (.attach programName)
  | level {choice : LevelChoice} {level : Int} (h : choice.level? = some level) :
      Installs (.configure choice)
  | fraction (x : Double) : Installs (.configure (.fraction x))
  | absent : Installs (.configure .absent)

/-- `Effect call before after`: what a call may make of the program's logger. -/
inductive Effect (call : Call) (before : Logger) : Logger → Prop
  | kept (idle : ¬ Installs call) : Effect call before before
  | attached (installs : Installs call) (mute : call.level? = none) :
      Effect call before before.attached
  | leveled (installs : Installs call) {level : Int} (set : call.level? = some level) :
      Effect call before { before.attached with level := level }

theorem Installs.of_level? {call : Call} {level : Int} (h : call.level? = some level) :
    Installs call := by
  cases call with
  | attach name => cases h
  | configure choice => exact .level h

theorem level?_of_idle {call : Call} (idle : ¬ Installs call) : call.level? = none :=
  Option.eq_none_iff_forall_ne_some.mpr fun _ h => idle (.of_level? h)

theorem nameOf_eq_programName_iff (name : String) :
    nameOf name = programName ↔ name = programName := by
  rw [nameOf]
  by_cases empty : name = ""
  · rw [if_pos empty, empty]
    decide
  · rw [if_neg empty]

theorem get_attach_program (l : Loggers) :
    (l.attach programName).get programName = (l.get programName).attached :=
  get_attach l programName

theorem get_setLevel (l : Loggers) (level : Int) : (l.setLevel level).get programName =
    { (l.get programName).attached with level := level } := by
  rw [setLevel, get_set, get_attach_program]

/-- A call does to the program's logger one of the three things. -/
theorem effect_perform (l : Loggers) (call : Call) :
    Effect call (l.get programName) ((l.perform call).1.get programName) := by
  cases call with
  | attach name =>
    by_cases same : name = programName
    · subst same
      rw [perform, get_attach_program]
      exact .attached .program rfl
    · have other : programName ≠ nameOf name := fun h =>
        same ((nameOf_eq_programName_iff name).mp h.symm)
      rw [perform, get_attach_of_ne other]
      exact .kept fun installs => by cases installs with | program => exact same rfl
  | configure choice =>
    cases found : choice.level? with
    | some level =>
      rw [perform, configure_of_level? found, get_setLevel]
      exact .leveled (.level found) found
    | none =>
      cases choice with
      | named name =>
        rw [perform, configure_unknown found]
        exact .kept fun installs => by cases installs with | level h => rw [found] at h; cases h
      | numbered level => cases found
      | fraction x => exact get_attach_program l ▸ .attached (.fraction x) rfl
      | absent => exact get_attach_program l ▸ .attached .absent rfl

/-! ### Calls in a row -/

theorem filterMap_level?_concat (calls : List Call) (call : Call) :
    (calls ++ [call]).filterMap Call.level? =
      calls.filterMap Call.level? ++ call.level?.toList := by
  rw [List.filterMap_append, List.filterMap_cons, List.filterMap_nil]
  cases call.level? <;> rfl

/-- What some calls from the start on have made of the program's logger. -/
structure Made (calls : List Call) (program : Logger) : Prop where
  single : program.handlers ≤ 1
  installed : program.handlers = 1 ↔ ∃ call ∈ calls, Installs call
  level : program.level = (calls.filterMap Call.level?).getLast?.getD
    (if program.handlers = 1 then warning else 0)

namespace Made

variable {calls : List Call} {before : Logger}

theorem idle_of_bare (made : Made calls before) (bare : before.handlers = 0) :
    ∀ call ∈ calls, ¬ Installs call := fun call mem installs => by
  have one := made.installed.mpr ⟨call, mem, installs⟩
  omega

/-- A logger that is seen to have a handler has one. -/
theorem handlers_attached (made : Made calls before) : before.attached.handlers = 1 := by
  have single := made.single
  by_cases bare : before.handlers = 0
  · rw [Logger.attached, if_pos bare]
  · rw [Logger.attached_of_handlers bare]
    omega

/-- Before the handler was there no level was set. -/
theorem level_attached (made : Made calls before) :
    before.attached.level = (calls.filterMap Call.level?).getLast?.getD warning := by
  have single := made.single
  by_cases bare : before.handlers = 0
  · -- each call that sets a level installs the handler, so none of these did
    have unset : calls.filterMap Call.level? = [] := List.filterMap_eq_nil_iff.mpr fun call mem =>
      level?_of_idle (made.idle_of_bare bare call mem)
    rw [Logger.attached, if_pos bare, unset]
    rfl
  · have one : before.handlers = 1 := by omega
    rw [Logger.attached_of_handlers bare, made.level, if_pos one]

theorem step (made : Made calls before) {call : Call} {after : Logger}
    (effect : Effect call before after) : Made (calls ++ [call]) after := by
  cases effect with
  | kept idle =>
    refine ⟨made.single, made.installed.trans ?_, ?_⟩
    · simp [idle, or_and_right, exists_or]
    · rw [filterMap_level?_concat, level?_of_idle idle, made.level, Option.toList_none,
        List.append_nil]
  | attached installs mute =>
    have one := made.handlers_attached
    refine ⟨Nat.le_of_eq one, iff_of_true one ⟨call, by simp, installs⟩, ?_⟩
    rw [filterMap_level?_concat, mute, made.level_attached, if_pos one, Option.toList_none,
      List.append_nil]
  | leveled installs set =>
    have one := made.handlers_attached
    refine ⟨Nat.le_of_eq one, iff_of_true one ⟨call, by simp, installs⟩, ?_⟩
    rw [filterMap_level?_concat, set, Option.toList_some, List.getLast?_concat]
    rfl

end Made

theorem performAll_append (l : Loggers) (calls more : List Call) :
    l.performAll (calls ++ more) = (l.performAll calls).performAll more := List.foldl_append

theorem made_performAll (calls : List Call) :
    Made calls ((fresh.performAll calls).get programName) := by
  -- on the last call, since a history grows at its end
  induction calls using List.reverseRecOn with
  | nil => exact ⟨by decide, iff_of_false (by decide) (by simp), rfl⟩
  | append_singleton calls call ih =>
    rw [performAll_append]
    exact ih.step (effect_perform (fresh.performAll calls) call)

/-- What calls in any order make of the program's logger. It has at most one handler and keeps it;
it has one as soon as some call was for it, set a level, or failed on what is no level at all. Its
level is the last one that was set, else the one for warnings as soon as it has its handler. A
logger that has a handler is not changed by being asked for, and an unknown name of a level changes
no logger. -/
theorem setup_history (calls : List Call) :
    let l := fresh.performAll calls
    let program := l.get programName
    program.handlers ≤ 1 ∧
      (∀ more, program.handlers ≤
        ((fresh.performAll (calls ++ more)).get programName).handlers) ∧
      (program.handlers = 1 ↔ ∃ call ∈ calls, Installs call) ∧
      program.level = (calls.filterMap Call.level?).getLast?.getD
        (if program.handlers = 1 then warning else 0) ∧
      (∀ name other, (l.get other).handlers ≠ 0 → (l.attach name).get other = l.get other) ∧
      (∀ name, levelNamed? name = none →
        l.configure (.named name) = (l, some (.unknownName name))) ∧
      ∀ choice, (l.configure choice).2 = none ↔ ∃ level, choice.level? = some level := by
  intro l program
  have made := made_performAll calls
  refine ⟨made.single, fun more => ?_, made.installed, made.level, ?_, ?_, ?_⟩
  · have later := made_performAll (calls ++ more)
    have kept (one : program.handlers = 1) :
        ((fresh.performAll (calls ++ more)).get programName).handlers = 1 := by
      obtain ⟨call, mem, installs⟩ := made.installed.mp one
      exact later.installed.mpr ⟨call, List.mem_append_left more mem, installs⟩
    have single : program.handlers ≤ 1 := made.single
    omega
  · exact fun name other h => get_attach_of_handlers h name
  · exact fun name unknown => configure_unknown unknown l
  · exact configure_eq_none_iff l

/-- Calls of which one is for another logger, one fails once the handler is there, one sets a level,
and one names a level that there is none of. -/
def mixedCalls : List Call :=
  [.attach "lox.cli", .configure .absent, .configure (.named "debug"), .configure (.named "loud")]

theorem setup_history_mixed :
    let l := fresh.performAll mixedCalls
    l.get programName = ⟨1, 10⟩ ∧ (l.get programName).handlers ≠ 0 ∧
      (l.attach programName).get programName = ⟨1, 10⟩ ∧
      levelNamed? "loud" = none ∧
      l.configure (.named "loud") = (l, some (.unknownName "loud")) := by
  intro l
  obtain ⟨-, -, installed, level, keeps, unknown, -⟩ := setup_history mixedCalls
  have one : (l.get programName).handlers = 1 :=
    installed.mpr ⟨.configure .absent, by decide, .absent⟩
  have program : l.get programName = ⟨1, 10⟩ := by
    rw [if_pos one] at level
    have debug : (l.get programName).level = 10 := level.trans (by decide +kernel)
    exact congrArg₂ Logger.mk one debug
  have attached : (l.get programName).handlers ≠ 0 := by omega
  have unnamed : levelNamed? "loud" = none := by decide +kernel
  exact ⟨program, attached, (keeps programName programName attached).trans program, unnamed,
    unknown "loud" unnamed⟩

end Loggers

end LoxScan
