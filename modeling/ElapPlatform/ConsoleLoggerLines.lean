import ElapPlatform.ConsoleLogger

/-!
# Whole lines from any number of threads

The pieces of different lines never mix: each stream shows the lines of the calls that held
the mutex, one after the other, and at last a beginning of the line that is being written.
-/

namespace ElapPlatform.Logging

open Interaction Interaction.Program Transition

variable {Thread : Type} [DecidableEq Thread] {Result : Thread → Type}

abbrev CallTurns (Result : Thread → Type) :=
  TurnHistory Thread LoggerCall LoggerCall.Value Result LoggerState

/-- The whole calls of the threads, one at a time. -/
abbrev LoggerCallStep : Parallel LoggerCall LoggerCall.Value Result LoggerState →
    Turn Thread LoggerCall LoggerCall.Value →
      Parallel LoggerCall LoggerCall.Value Result LoggerState → Prop :=
  TurnStep (Atomic LoggerQuestion.Answers LoggerCall.body)

abbrev LoggerTurnStep : Parallel (MutexCall LoggerQuestion)
      (MutexCall.Reply LoggerQuestion.Reply) Result (Guarded Thread LoggerState) →
    Turn Thread (MutexCall LoggerQuestion) (MutexCall.Reply LoggerQuestion.Reply) →
      Parallel (MutexCall LoggerQuestion) (MutexCall.Reply LoggerQuestion.Reply) Result
        (Guarded Thread LoggerState) → Prop :=
  TurnStep (MutexCall.Answers LoggerQuestion.Answers)

/-- A call of `log` that is at or above the minimum level it finds. -/
def requested (entry : Parallel LoggerCall LoggerCall.Value Result LoggerState ×
    Turn Thread LoggerCall LoggerCall.Value) : Option LogRequest :=
  match entry.2.exchange.1 with
  | .log level component message =>
      if entry.1.state.minimumLevel.toInt ≤ level.toInt then some ⟨level, component, message⟩
      else none
  | _ => none

/-- The next call of the thread is the `log` of this request, and the minimum level lets it
through. -/
structure Pending (system : Parallel LoggerCall LoggerCall.Value Result LoggerState)
    (thread : Thread) (request : LogRequest) : Prop where
  call : ∃ following, system.programs thread =
    .ask (.log request.level request.component request.message) following
  level : system.state.minimumLevel.toInt ≤ request.level.toInt

/-! ## Whole calls -/

structure Recorded (calls : CallTurns Result) (state : LoggerState)
    (records : List LogRecord) : Prop where
  requests : records.map LogRecord.request = calls.filterMap requested
  written : ∀ stream, state.written stream = linesOn stream records
  flushed : ∀ stream, state.buffered stream = []

section Calls

variable {calls : CallTurns Result} {state next : LoggerState} {records : List LogRecord}

theorem linesOn_snoc (stream : LogStream) (records : List LogRecord) (record : LogRecord) :
    linesOn stream (records ++ [record]) =
      linesOn stream records ++ if record.stream = stream then record.line else [] := by
  unfold linesOn
  by_cases hsame : record.stream = stream
  · simp [hsame]
  · simp [hsame]

omit [DecidableEq Thread] in
theorem Recorded.unchanged {entry : Parallel LoggerCall LoggerCall.Value Result LoggerState ×
      Turn Thread LoggerCall LoggerCall.Value}
    (hrecorded : Recorded calls state records) (hrequest : requested entry = none)
    (hshown : next.shown = state.shown) (hbuffered : next.buffered = state.buffered) :
    Recorded (calls ++ [entry]) next records where
  requests := by simp [hrecorded.requests, hrequest]
  written stream := by
    rw [← hrecorded.written, LoggerState.written, LoggerState.written, hshown, hbuffered]
  flushed stream := by rw [hbuffered, hrecorded.flushed]

omit [DecidableEq Thread] in
theorem Recorded.logs {entry : Parallel LoggerCall LoggerCall.Value Result LoggerState ×
      Turn Thread LoggerCall LoggerCall.Value} {record : LogRecord}
    (hrecorded : Recorded calls state records) (hrequest : requested entry = some record.request)
    (happended : Appended state next record.stream record.line)
    (hempty : next.buffered record.stream = []) :
    Recorded (calls ++ [entry]) next (records ++ [record]) where
  requests := by simp [hrecorded.requests, hrequest]
  written stream := by
    rw [linesOn_snoc, ← hrecorded.written]
    by_cases hsame : record.stream = stream
    · subst hsame
      rw [if_pos rfl, happended.written]
    · obtain ⟨hshown, hbuffered⟩ := happended.others stream (Ne.symm hsame)
      rw [if_neg hsame, List.append_nil, LoggerState.written, LoggerState.written, hshown,
        hbuffered]
  flushed stream := by
    by_cases hsame : record.stream = stream
    · exact hsame ▸ hempty
    · rw [(happended.others stream (Ne.symm hsame)).2, hrecorded.flushed]

theorem Recorded.step {system after : Parallel LoggerCall LoggerCall.Value Result LoggerState}
    {turn : Turn Thread LoggerCall LoggerCall.Value} (hstep : LoggerCallStep system turn after)
    (hrecorded : Recorded calls system.state records) :
    ∃ records', Recorded (calls ++ [(system, turn)]) after.state records' := by
  cases hstep with
  | @asks thread call following reply state hprogram hanswer =>
      cases call with
      | setMinimumLevel level =>
          obtain rfl := runs_perform_iff.mp hanswer
          exact ⟨records, hrecorded.unchanged rfl rfl rfl⟩
      | minimumLevel =>
          obtain ⟨-, rfl⟩ := runs_perform_iff.mp hanswer
          exact ⟨records, hrecorded.unchanged rfl rfl rfl⟩
      | log level component message =>
          rcases log_runs hanswer with ⟨hbelow, rfl⟩ | ⟨habove, time, happended, hempty⟩
          · exact ⟨records, hrecorded.unchanged (if_neg (Nat.not_le_of_lt hbelow)) rfl rfl⟩
          · let record : LogRecord := ⟨time, level, component, message⟩
            have hrequest : requested (system, ⟨thread, ⟨.log level component message, reply⟩⟩) =
                some record.request := if_pos habove
            exact ⟨records ++ [record], hrecorded.logs hrequest happended hempty⟩

theorem run_recorded {minimumLevel : LogLevel}
    {programs : (thread : Thread) → Program LoggerCall LoggerCall.Value (Result thread)}
    {system : Parallel LoggerCall LoggerCall.Value Result LoggerState}
    (hrun : Run LoggerCallStep ⟨.initial minimumLevel, programs⟩ calls system) :
    ∃ records, Recorded calls system.state records := by
  induction hrun with
  | start => exact ⟨[], rfl, fun _ => rfl, fun _ => rfl⟩
  | snoc hrun hstep ih =>
      obtain ⟨records, hrecorded⟩ := ih
      exact hrecorded.step hstep

end Calls

/-! ## Within a call -/

/-- A call that is not yet at its end has written a beginning of its line. -/
theorem leads_begun {call : LoggerCall} {left : LoggerProgram call.Value}
    {state middle : LoggerState}
    (hleads : Leads LoggerQuestion.Answers call.body state left middle) (stream : LogStream) :
    ∃ begun, middle.written stream = state.written stream ++ begun ∧
      (begun = [] ∨ ∃ record : LogRecord,
        call = .log record.request.level record.request.component record.request.message ∧
          state.minimumLevel.toInt ≤ record.request.level.toInt ∧ record.stream = stream ∧
            begun <+: record.line) := by
  obtain ⟨value, next, hlast⟩ := exists_logger_run left middle
  have hcall := hleads.runs hlast
  have hbefore : state.written stream <+: middle.written stream :=
    hleads.invariant (fun later => state.written stream <+: later.written stream)
      (List.prefix_refl _) fun hanswer hprefix => hprefix.trans (answer_extends stream hanswer)
  have hafter : middle.written stream <+: next.written stream :=
    hlast.invariant (fun later => middle.written stream <+: later.written stream)
      (List.prefix_refl _) fun hanswer hprefix => hprefix.trans (answer_extends stream hanswer)
  obtain ⟨begun, hbegun⟩ := hbefore
  refine ⟨begun, hbegun.symm, ?_⟩
  have hsilent : next.written stream = state.written stream → begun = [] := by
    intro hsame
    rw [hsame, ← hbegun] at hafter
    have hlength := hafter.length_le
    rw [List.length_append] at hlength
    exact List.length_eq_zero_iff.mp (by omega)
  cases call with
  | setMinimumLevel level =>
      obtain rfl := runs_perform_iff.mp hcall
      exact .inl (hsilent rfl)
  | minimumLevel =>
      obtain ⟨-, rfl⟩ := runs_perform_iff.mp hcall
      exact .inl (hsilent rfl)
  | log level component message =>
      rcases log_runs hcall with ⟨-, rfl⟩ | ⟨habove, time, happended, -⟩
      · exact .inl (hsilent rfl)
      · by_cases hsame : stream = streamOf level
        · subst hsame
          refine .inr ⟨⟨time, level, component, message⟩, rfl, habove, rfl, ?_⟩
          rw [happended.written, ← hbegun] at hafter
          exact (List.prefix_append_right_inj _).mp hafter
        · obtain ⟨hshown, hbuffered⟩ := happended.others stream hsame
          refine .inl (hsilent ?_)
          rw [LoggerState.written, LoggerState.written, hshown, hbuffered]

/-- However the threads interleave, there is an order of their calls in which each stream
consists of whole lines, one for each request that was at or above the minimum level, and of
a beginning of the line of the pending call of the thread that holds the mutex.  While nobody
holds it, all of it is shown. -/
theorem log_lines_are_whole {minimumLevel : LogLevel}
    {programs : (thread : Thread) → Program LoggerCall LoggerCall.Value (Result thread)}
    {history : TurnHistory Thread (MutexCall LoggerQuestion)
      (MutexCall.Reply LoggerQuestion.Reply) Result (Guarded Thread LoggerState)}
    {system : Parallel (MutexCall LoggerQuestion) (MutexCall.Reply LoggerQuestion.Reply) Result
      (Guarded Thread LoggerState)}
    (hrun : Run LoggerTurnStep
      ⟨⟨none, .initial minimumLevel⟩, fun thread => (programs thread).locked LoggerCall.body⟩
      history system) :
    ∃ calls coarse records,
      Run LoggerCallStep ⟨.initial minimumLevel, programs⟩ calls coarse ∧
      records.map LogRecord.request = calls.filterMap requested ∧
      (∀ stream, ∃ begun,
        system.state.state.written stream = linesOn stream records ++ begun ∧
          (begun = [] ∨ ∃ thread, system.state.holder = some thread ∧
            ∃ record : LogRecord, Pending coarse thread record.request ∧
              record.stream = stream ∧ begun <+: record.line)) ∧
      (system.state.holder = none →
        ∀ stream, system.state.state.shown stream = linesOn stream records) ∧
      ∀ thread result, system.programs thread = .done result →
        Transcript (programs thread) (exchangesBy thread calls) result := by
  obtain ⟨calls, coarse, hcalls, hserial⟩ := run_serializes hrun
  obtain ⟨records, hrecorded⟩ := run_recorded hcalls
  refine ⟨calls, coarse, records, hcalls, hrecorded.requests, fun stream => ?_, ?_, ?_⟩
  · cases hholder : system.state.holder with
    | none =>
        refine ⟨[], ?_, .inl rfl⟩
        rw [hserial.free hholder, hrecorded.written, List.append_nil]
    | some thread =>
        obtain ⟨call, following, left, hprogram, -, hleads⟩ := hserial.inside thread hholder
        obtain ⟨begun, hwritten, hbegun⟩ := leads_begun hleads stream
        rw [hrecorded.written] at hwritten
        refine ⟨begun, hwritten, hbegun.imp_right ?_⟩
        rintro ⟨record, rfl, habove, hstream, hprefix⟩
        exact ⟨thread, rfl, record, ⟨⟨following, hprogram⟩, habove⟩, hstream, hprefix⟩
  · intro hholder stream
    have hwritten := hrecorded.written stream
    rw [LoggerState.written, hrecorded.flushed, List.append_nil] at hwritten
    rw [hserial.free hholder, hwritten]
  · intro thread result hdone
    exact transcript_of_done hcalls (hserial.done hdone)

/-- Two threads log at the same time. -/
def twoLoggers (_thread : Bool) : Program LoggerCall LoggerCall.Value Unit :=
  perform (LoggerCall.log .info none none)

theorem stopped_logger_has_begun_a_line :
    ∃ calls coarse records,
      Run LoggerCallStep ⟨.initial .info, twoLoggers⟩ calls coarse ∧
      records.map LogRecord.request = calls.filterMap requested ∧
      ∃ begun, utcTimestamp (0 : ℕ) = linesOn .cout records ++ begun ∧
        (begun = [] ∨ ∃ record : LogRecord, Pending coarse true record.request ∧
          record.stream = .cout ∧ begun <+: record.line) := by
  let begins : LoggerState := { LoggerState.initial .info with
    shown := Function.update (fun _ => []) .cout ([] ++ utcTimestamp (0 : ℕ))
    buffered := Function.update (fun _ => []) .cout [] }
  have hinserted : MutexCall.Answers LoggerQuestion.Answers true ⟨some true, .initial .info⟩
      (.inside (.insert .cout (utcTimestamp (0 : ℕ)))) () ⟨some true, begins⟩ :=
    ⟨⟨utcTimestamp (0 : ℕ), [], List.append_nil _, rfl⟩, rfl⟩
  have hstart : Run LoggerTurnStep
      ⟨⟨none, .initial .info⟩, fun thread => (twoLoggers thread).locked LoggerCall.body⟩ [] _ :=
    .start
  have hlocked := hstart.andThen ⟨true, ⟨.lock, ()⟩⟩ (.asks rfl ⟨rfl, rfl⟩)
  have hread := hlocked.andThen ⟨true, ⟨.inside .minimumLevel, .info⟩⟩
    (.asks rfl ⟨⟨rfl, rfl⟩, rfl⟩)
  have htimed := hread.andThen ⟨true, ⟨.inside .now, (0 : ℕ)⟩⟩ (.asks rfl ⟨rfl, rfl⟩)
  have hrun := htimed.andThen ⟨true, ⟨.inside (.insert .cout (utcTimestamp (0 : ℕ))), ()⟩⟩
    (.asks rfl hinserted)
  obtain ⟨calls, coarse, records, hcalls, hrequests, hwritten, -⟩ := log_lines_are_whole hrun
  obtain ⟨begun, hsplit, hbegun⟩ := hwritten .cout
  have hbegins : utcTimestamp (0 : ℕ) = linesOn .cout records ++ begun := by
    simpa [LoggerState.written, begins] using hsplit
  refine ⟨calls, coarse, records, hcalls, hrequests, begun, hbegins, hbegun.imp_right ?_⟩
  rintro ⟨thread, hholder, hrecord⟩
  obtain rfl : true = thread := Option.some.inj hholder
  exact hrecord

end ElapPlatform.Logging
