import ElapPlatform.LogTimestamps
import ElapPlatform.MutexAtomicity

/-!
# The console logger

Every call of `ConsoleLogger` holds its mutex.  `log` inserts a line piece by piece and
flushes its stream, which may have shown some of the pieces before.
-/

namespace ElapPlatform.Logging

open Config Interaction Interaction.Program Transition

/-! ## Levels -/

inductive LogLevel where
  | trace
  | debug
  | info
  | warning
  | error
  | critical
  deriving DecidableEq, Repr

namespace LogLevel

def toInt : LogLevel → ℕ
  | .trace => 0
  | .debug => 1
  | .info => 2
  | .warning => 3
  | .error => 4
  | .critical => 5

def toString : LogLevel → String
  | .trace => "TRACE"
  | .debug => "DEBUG"
  | .info => "INFO"
  | .warning => "WARNING"
  | .error => "ERROR"
  | .critical => "CRITICAL"

end LogLevel

/-- The bytes of a literal. -/
def literal (text : String) : Bytes := text.toList.map Char.toUInt8

/-- `none` is a null pointer, or a text that names no level. -/
def parseLogLevel (text : Option Bytes) : Option LogLevel := do
  let value := lower (cString (← text))
  if value = literal "trace" then some .trace
  else if value = literal "debug" then some .debug
  else if value = literal "info" then some .info
  else if value = literal "warning" ∨ value = literal "warn" then some .warning
  else if value = literal "error" then some .error
  else if value = literal "critical" ∨ value = literal "fatal" then some .critical
  else none

/-- Each level is read back from its own name, in any case of the letters. -/
theorem parseLogLevel_toString (level : LogLevel) {text : Bytes} (hfree : NulFree text)
    (hname : lower text = lower (literal level.toString)) :
    parseLogLevel (some text) = some level := by
  have hlower : lower (cString text) = lower (literal level.toString) := by
    rw [cString_eq_self hfree, hname]
  simp only [parseLogLevel, Option.bind_eq_bind, Option.bind_some, hlower]
  cases level <;> decide

/-! ## The class -/

inductive LogStream where
  | cout
  | cerr
  deriving DecidableEq, Repr

/-- What is shown of each stream, and what is still in its buffer. -/
structure LoggerState where
  minimumLevel : LogLevel
  shown : LogStream → Bytes
  buffered : LogStream → Bytes

namespace LoggerState

def initial (minimumLevel : LogLevel) : LoggerState :=
  ⟨minimumLevel, fun _ => [], fun _ => []⟩

def written (state : LoggerState) (stream : LogStream) : Bytes :=
  state.shown stream ++ state.buffered stream

end LoggerState

inductive LoggerQuestion where
  | minimumLevel
  | setMinimumLevel (level : LogLevel)
  | now
  | insert (stream : LogStream) (text : Bytes)
  | flush (stream : LogStream)

abbrev LoggerQuestion.Reply : LoggerQuestion → Type
  | .minimumLevel => LogLevel
  | .setMinimumLevel _ => Unit
  | .now => Instant
  | .insert _ _ => Unit
  | .flush _ => Unit

abbrev LoggerProgram (α : Type) := Program LoggerQuestion LoggerQuestion.Reply α

/-- A stream shows what it likes of its buffer, and all of it once it is flushed. -/
def LoggerQuestion.Answers (state : LoggerState) :
    (question : LoggerQuestion) → question.Reply → LoggerState → Prop
  | .minimumLevel, level, next => level = state.minimumLevel ∧ next = state
  | .setMinimumLevel level, _, next => next = { state with minimumLevel := level }
  | .now, _, next => next = state
  | .insert stream text, _, next =>
      ∃ shown buffered, shown ++ buffered = state.buffered stream ++ text ∧
        next = { state with
          shown := Function.update state.shown stream (state.shown stream ++ shown)
          buffered := Function.update state.buffered stream buffered }
  | .flush stream, _, next =>
      next = { state with
        shown := Function.update state.shown stream (state.written stream)
        buffered := Function.update state.buffered stream [] }

inductive LoggerCall where
  | setMinimumLevel (level : LogLevel)
  | minimumLevel
  | log (level : LogLevel) (component message : Option Bytes)
  deriving DecidableEq, Repr

abbrev LoggerCall.Value : LoggerCall → Type
  | .setMinimumLevel _ => Unit
  | .minimumLevel => LogLevel
  | .log _ _ _ => Unit

def streamOf (level : LogLevel) : LogStream :=
  if level.toInt ≥ LogLevel.error.toInt then .cerr else .cout

def insertAll (stream : LogStream) : List Bytes → LoggerProgram Unit
  | [] => return ()
  | text :: texts => do
      perform (LoggerQuestion.insert stream text)
      insertAll stream texts

/-- The operands of `<<`; those that are C strings end at their first NUL. -/
def pieces (time : Instant) (level : LogLevel) (component message : Option Bytes) :
    List Bytes :=
  [utcTimestamp time, [32], literal level.toString, [32],
    (component.map cString).getD (literal "unknown"), [32], (message.map cString).getD [], [10]]

def log (level : LogLevel) (component message : Option Bytes) : LoggerProgram Unit := do
  let minimumLevel ← perform LoggerQuestion.minimumLevel
  if level.toInt < minimumLevel.toInt then return ()
  let stream := streamOf level
  let time ← perform LoggerQuestion.now
  insertAll stream (pieces time level component message)
  perform (LoggerQuestion.flush stream)

/-- The calls behind the lock. -/
def LoggerCall.body : (call : LoggerCall) → LoggerProgram call.Value
  | .setMinimumLevel level => perform (LoggerQuestion.setMinimumLevel level)
  | .minimumLevel => perform LoggerQuestion.minimumLevel
  | .log level component message => Logging.log level component message

/-! ## Lines -/

structure LogRequest where
  level : LogLevel
  component : Option Bytes
  message : Option Bytes
  deriving DecidableEq, Repr

structure LogRecord where
  time : Instant
  request : LogRequest
  deriving DecidableEq, Repr

namespace LogRecord

def stream (record : LogRecord) : LogStream := streamOf record.request.level

def line (record : LogRecord) : Bytes :=
  (pieces record.time record.request.level record.request.component
    record.request.message).flatten

end LogRecord

def linesOn (stream : LogStream) (records : List LogRecord) : Bytes :=
  (records.filter fun record => record.stream = stream).flatMap LogRecord.line

section Spec

variable {state next : LoggerState} {stream : LogStream} {texts : List Bytes}

structure Appended (state next : LoggerState) (stream : LogStream) (text : Bytes) : Prop where
  minimumLevel : next.minimumLevel = state.minimumLevel
  written : next.written stream = state.written stream ++ text
  others : ∀ other, other ≠ stream → next.shown other = state.shown other ∧
    next.buffered other = state.buffered other

theorem Appended.refl : Appended state state stream [] := ⟨rfl, by simp, fun _ _ => ⟨rfl, rfl⟩⟩

theorem Appended.trans {middle : LoggerState} {text text' : Bytes}
    (hfirst : Appended state middle stream text) (hlast : Appended middle next stream text') :
    Appended state next stream (text ++ text') where
  minimumLevel := hlast.minimumLevel.trans hfirst.minimumLevel
  written := by rw [hlast.written, hfirst.written, List.append_assoc]
  others other hne :=
    ⟨(hlast.others other hne).1.trans (hfirst.others other hne).1,
      (hlast.others other hne).2.trans (hfirst.others other hne).2⟩

theorem insert_appended {text : Bytes}
    (hanswer : LoggerQuestion.Answers state (.insert stream text) () next) :
    Appended state next stream text := by
  obtain ⟨shown, buffered, hsplit, rfl⟩ := hanswer
  refine ⟨rfl, ?_, fun other hne => ?_⟩
  · simp [LoggerState.written, hsplit]
  · simp [hne]

theorem flush_appended (hanswer : LoggerQuestion.Answers state (.flush stream) () next) :
    Appended state next stream [] ∧ next.buffered stream = [] := by
  obtain rfl := hanswer
  refine ⟨⟨rfl, ?_, fun other hne => ?_⟩, ?_⟩
  · simp [LoggerState.written]
  · simp [hne]
  · simp

theorem insertAll_appended {result : Unit}
    (hrun : Runs LoggerQuestion.Answers (insertAll stream texts) state result next) :
    Appended state next stream texts.flatten := by
  induction texts generalizing state with
  | nil =>
      obtain ⟨-, rfl⟩ := runs_done_iff.mp hrun
      exact .refl
  | cons text texts ih =>
      obtain ⟨_, middle, hinsert, hrest⟩ := runs_bind_iff.mp hrun
      exact (insert_appended (runs_perform_iff.mp hinsert)).trans (ih hrest)

/-- A request below the minimum level does nothing, and any other one writes its line. -/
theorem log_runs {level : LogLevel} {component message : Option Bytes} {result : Unit}
    (hrun : Runs LoggerQuestion.Answers (Logging.log level component message) state result next) :
    level.toInt < state.minimumLevel.toInt ∧ next = state ∨
      state.minimumLevel.toInt ≤ level.toInt ∧ ∃ time,
        Appended state next (streamOf level) (LogRecord.line ⟨time, level, component, message⟩) ∧
          next.buffered (streamOf level) = [] := by
  obtain ⟨minimumLevel, read, hread, hrest⟩ := runs_bind_iff.mp hrun
  obtain ⟨rfl, rfl⟩ := runs_perform_iff.mp hread
  split_ifs at hrest with hbelow
  · exact .inl ⟨hbelow, (runs_done_iff.mp hrest).2⟩
  · obtain ⟨time, asked, hnow, hwrites⟩ := runs_bind_iff.mp hrest
    obtain rfl : asked = read := runs_perform_iff.mp hnow
    obtain ⟨_, inserted, hinsert, hflush⟩ := runs_bind_iff.mp hwrites
    have hanswer := runs_perform_iff.mp hflush
    obtain ⟨hflushed, hempty⟩ := flush_appended hanswer
    have hline := (insertAll_appended hinsert).trans hflushed
    rw [List.append_nil] at hline
    exact .inr ⟨Nat.le_of_not_lt hbelow, time, hline, hempty⟩

/-- Nothing that was written is taken back. -/
theorem answer_extends {question : LoggerQuestion} {reply : question.Reply} (stream : LogStream)
    (hanswer : LoggerQuestion.Answers state question reply next) :
    state.written stream <+: next.written stream := by
  cases question with
  | minimumLevel => exact hanswer.2 ▸ List.prefix_refl _
  | setMinimumLevel level =>
      obtain rfl := hanswer
      exact List.prefix_refl _
  | now =>
      obtain rfl := hanswer
      exact List.prefix_refl _
  | insert other text =>
      have happended := insert_appended hanswer
      by_cases hsame : stream = other
      · subst hsame
        exact ⟨text, happended.written.symm⟩
      · obtain ⟨hshown, hbuffered⟩ := happended.others stream hsame
        rw [LoggerState.written, LoggerState.written, hshown, hbuffered]
  | flush other =>
      have happended := (flush_appended hanswer).1
      by_cases hsame : stream = other
      · subst hsame
        exact ⟨[], happended.written.symm⟩
      · obtain ⟨hshown, hbuffered⟩ := happended.others stream hsame
        rw [LoggerState.written, LoggerState.written, hshown, hbuffered]

/-- Nothing in a call can block it. -/
theorem exists_logger_run {α : Type} (program : LoggerProgram α) (state : LoggerState) :
    ∃ value next, Runs LoggerQuestion.Answers program state value next := by
  induction program generalizing state with
  | done value => exact ⟨value, state, .done value state⟩
  | ask question rest ih =>
      have hanswered : ∃ reply middle, LoggerQuestion.Answers state question reply middle := by
        cases question with
        | minimumLevel => exact ⟨_, _, rfl, rfl⟩
        | setMinimumLevel level => exact ⟨(), _, rfl⟩
        | now => exact ⟨(0 : ℕ), _, rfl⟩
        | insert stream text => exact ⟨(), _, [], _, rfl, rfl⟩
        | flush stream => exact ⟨(), _, rfl⟩
      obtain ⟨reply, middle, hanswer⟩ := hanswered
      obtain ⟨value, next, hrest⟩ := ih reply middle
      exact ⟨value, next, .ask hanswer hrest⟩

end Spec

end ElapPlatform.Logging
