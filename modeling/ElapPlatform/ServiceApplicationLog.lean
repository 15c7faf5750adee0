import ElapPlatform.ConsoleLogger
import ElapPlatform.InteractionCommentary
import ElapPlatform.ServiceApplicationModel

/-!
# The log lines of the service application

`ServiceApplication::run` with its logger.  What it asks is what the plain `run` asks,
and each line follows from the exchange before it.
-/

namespace ElapPlatform.Service.Logged

open Config Interaction Interaction.Program Logging

/-- What `run` asks of `logger_`. -/
inductive LoggerRequest where
  | setMinimumLevel (level : LogLevel)
  | log (level : LogLevel) (component message : String)
  deriving DecidableEq, Repr

abbrev LoggedProgram (α : Type) := RecordedProgram LoggerRequest ServiceCall.Reply α

def setMinimumLevel (level : LogLevel) : LoggedProgram Unit :=
  report (LoggerRequest.setMinimumLevel level)

def log (level : LogLevel) (component message : String) : LoggedProgram Unit :=
  report (LoggerRequest.log level component message)

/-- `configError`; `loadFromFile` makes messages only. -/
def configError : Option ErrorText → String
  | none => ""
  | some (.message text) => text
  | some (.system operation _) => operation

theorem loadFromFile_error {configuration : KeyValueConfiguration} {path : String}
    {file : Option FileStream} {error : ErrorText}
    (herror : (configuration.loadFromFile path file).error = some error) :
    ∃ text, error = .message text := by
  have hlines : ∀ (lines : List Bytes) (lineNumber : ℕ) (values : Bytes → Option Bytes),
      parseLines KeyValueConfiguration.store lineNumber values lines = .error error →
        ∃ text, error = .message text := by
    intro lines
    induction lines with
    | nil => simp [parseLines]
    | cons line lines ih =>
        intro lineNumber values hparse
        cases hline : parseLine (lineNumber + 1) line with
        | ok pair =>
            rw [parseLines_ok hline] at hparse
            exact ih _ _ hparse
        | error problem =>
            simp only [parseLines, hline, Except.error.injEq] at hparse
            subst hparse
            simp only [parseLine] at hline
            split_ifs at hline
            split at hline
            · exact ⟨_, (Except.error.inj hline).symm⟩
            · split_ifs at hline
              exact ⟨_, (Except.error.inj hline).symm⟩
  unfold KeyValueConfiguration.loadFromFile at herror
  split at herror
  next problem hproblem =>
    obtain rfl := Option.some.inj herror
    unfold parseFile at hproblem
    split at hproblem
    · exact ⟨_, (Except.error.inj hproblem).symm⟩
    · exact hlines _ _ _ hproblem
  · cases herror

/-! ## The helpers -/

def configureLogger (configuration : KeyValueConfiguration) : LoggedProgram Unit := do
  let configuredLevel := configuration.getString (literal "log.level") (literal "info")
  match parseLogLevel (some configuredLevel) with
  | some logLevel => setMinimumLevel logLevel
  | none => return ()

def logException (serviceName operation what : String) : LoggedProgram Unit :=
  log .error serviceName (operation ++ " threw exception: " ++ what)

def logUnknownException (serviceName operation : String) : LoggedProgram Unit :=
  log .error serviceName (operation ++ " threw unknown exception")

/-- The two `catch` clauses. -/
def logThrown (serviceName operation : String) : Thrown → LoggedProgram Unit
  | .exception what => logException serviceName operation what
  | .unknown => logUnknownException serviceName operation

/-! ## `run` -/

def enter (state : ServiceState) : LoggedProgram Unit := (setState state).silent

def failWith (code : ℕ) : LoggedProgram RunResult := do
  enter .failed
  return .returned code

def cleanUpAndFail (serviceName : String) (code : ℕ) : LoggedProgram RunResult := do
  match ← deinitializeService.silent with
  | .error thrown =>
    logThrown serviceName "service deinitialization" thrown
    failWith code
  | .ok () => failWith code

def runStopping (serviceName : String) : LoggedProgram RunResult := do
  enter .stopping
  log .info serviceName "stopping service"
  match ← stopService.silent with
  | .error thrown =>
    logThrown serviceName "service stop" thrown
    cleanUpAndFail serviceName 6
  | .ok () =>
    match ← deinitializeService.silent with
    | .error thrown =>
      logThrown serviceName "service deinitialization" thrown
      failWith 7
    | .ok () =>
      enter .stopped
      log .info serviceName "service stopped"
      return .returned 0

def runStarting (serviceName : String) (wakeUps : ℕ) : LoggedProgram RunResult := do
  enter .initialized
  enter .starting
  log .info serviceName "starting service"
  match ← startService.silent with
  | .error thrown =>
    logThrown serviceName "service start" thrown
    cleanUpAndFail serviceName 5
  | .ok false =>
    log .error serviceName "service start failed"
    cleanUpAndFail serviceName 5
  | .ok true =>
    enter .running
    log .info serviceName "service running"
    if ← (awaitShutdown wakeUps).silent then runStopping serviceName
    else return .stillWaiting

def runInitializing (serviceName : String) (wakeUps : ℕ) : LoggedProgram RunResult := do
  enter .initializing
  log .info serviceName "initializing service"
  match ← initializeService.silent with
  | .error thrown =>
    logThrown serviceName "service initialization" thrown
    failWith 4
  | .ok false =>
    log .error serviceName "service initialization failed"
    cleanUpAndFail serviceName 4
  | .ok true => runStarting serviceName wakeUps

/-- The lines about a configuration that does not end `run`. -/
def announce (serviceName path : String) (loaded : ObjectAnswer KeyValueConfiguration) :
    LoggedProgram Unit := do
  if loaded.error.isNone then
    configureLogger loaded.object
    log .info serviceName ("loaded configuration: " ++ path)
  else
    log .warning serviceName ("using defaults; configuration not found: " ++ path)

def runSelected (serviceName : String) (configSelection : ConfigSelection) (wakeUps : ℕ) :
    LoggedProgram RunResult := do
  let file ← (openFile configSelection.path).silent
  let loaded := KeyValueConfiguration.loadFromFile ⟨fun _ => none⟩ configSelection.path file
  if loaded.error.isSome && configSelection.explicitPath then
    log .error serviceName (configError loaded.error)
    failWith 2
  else
    announce serviceName configSelection.path loaded
    if !(← install.silent) then
      log .error serviceName "failed to install signal handlers"
      failWith 3
    else runInitializing serviceName wakeUps

def run (serviceName : String) (argv : List String) (wakeUps : ℕ) :
    LoggedProgram RunResult := do
  clearShutdownRequest.silent
  match ← (selectConfigPath argv serviceName).silent with
  | .error thrown => return .escaped thrown
  | .ok configSelection => runSelected serviceName configSelection wakeUps

/-! ## The lines behind an exchange -/

section Comment

variable (serviceName : String)

def thrownText (operation : String) : Thrown → String
  | .exception what => operation ++ " threw exception: " ++ what
  | .unknown => operation ++ " threw unknown exception"

def levelRequest (configuration : KeyValueConfiguration) : List LoggerRequest :=
  ((parseLogLevel (some (configuration.getString (literal "log.level") (literal "info")))).map
    LoggerRequest.setMinimumLevel).toList

def loadedLines (explicitPath : Bool) (path : String)
    (loaded : ObjectAnswer KeyValueConfiguration) : List LoggerRequest :=
  if loaded.error.isSome && explicitPath then
    [.log .error serviceName (configError loaded.error)]
  else if loaded.error.isNone then
    levelRequest loaded.object ++ [.log .info serviceName ("loaded configuration: " ++ path)]
  else [.log .warning serviceName ("using defaults; configuration not found: " ++ path)]

def enteredLines : ServiceState → List LoggerRequest
  | .initializing => [.log .info serviceName "initializing service"]
  | .starting => [.log .info serviceName "starting service"]
  | .running => [.log .info serviceName "service running"]
  | .stopping => [.log .info serviceName "stopping service"]
  | .stopped => [.log .info serviceName "service stopped"]
  | _ => []

/-- A callback that threw, or returned false. -/
def beginLines (operation : String) : Except Thrown Bool → List LoggerRequest
  | .error thrown => [.log .error serviceName (thrownText operation thrown)]
  | .ok false => [.log .error serviceName (operation ++ " failed")]
  | .ok true => []

def endLines (operation : String) : Except Thrown Unit → List LoggerRequest
  | .error thrown => [.log .error serviceName (thrownText operation thrown)]
  | .ok () => []

/-- What is logged right after an exchange. -/
def comment (explicitPath : Bool) : (call : ServiceCall) → call.Reply → List LoggerRequest
  | .openFile path, file => loadedLines serviceName explicitPath path
      (KeyValueConfiguration.loadFromFile ⟨fun _ => none⟩ path file)
  | .sigaction _, installed =>
      if installed then [] else [.log .error serviceName "failed to install signal handlers"]
  | .setState state, _ => enteredLines serviceName state
  | .initializeService, outcome => beginLines serviceName "service initialization" outcome
  | .startService, outcome => beginLines serviceName "service start" outcome
  | .stopService, outcome => endLines serviceName "service stop" outcome
  | .deinitializeService, outcome => endLines serviceName "service deinitialization" outcome
  | .clearShutdownRequest, _ => []
  | .pathExists _, _ => []
  | .shutdownRequested, _ => []
  | .waitFor, _ => []

end Comment

/-! ## `run` is the plain one with these lines -/

section Commented

variable {serviceName : String} {explicitPath : Bool} {wakeUps : ℕ}

theorem logThrown_eq (operation : String) (thrown : Thrown) :
    logThrown serviceName operation thrown =
      log .error serviceName (thrownText operation thrown) := by
  cases thrown <;> rfl

theorem failWith_eq (code : ℕ) :
    failWith code = (Service.failWith code).commented (comment serviceName explicitPath) := by
  simp [failWith, Service.failWith, enter, setState, comment, enteredLines]

theorem cleanUpAndFail_eq (code : ℕ) :
    cleanUpAndFail serviceName code =
      (Service.cleanUpAndFail code).commented (comment serviceName explicitPath) := by
  simp only [cleanUpAndFail, Service.cleanUpAndFail, deinitializeService, silent_ask, ask_bind,
    done_bind, silent_done, commented_ask, comment]
  congr 1
  funext outcome
  rcases outcome with thrown | ⟨⟩
  · simp [logThrown_eq, log, report, endLines, @failWith_eq serviceName explicitPath]
  · simp [endLines, @failWith_eq serviceName explicitPath]

theorem runStopping_eq :
    runStopping serviceName =
      Service.runStopping.commented (comment serviceName explicitPath) := by
  simp only [runStopping, Service.runStopping, enter, setState, stopService, log, report,
    silent_ask, silent_done, ask_bind, done_bind, commented_ask, comment, enteredLines,
    reportAll_cons, reportAll_nil]
  congr 1
  funext _
  congr 1
  funext _
  congr 1
  funext outcome
  rcases outcome with thrown | ⟨⟩
  · simp [logThrown_eq, log, report, endLines, @cleanUpAndFail_eq serviceName explicitPath]
  simp only [endLines, reportAll_nil, done_bind, deinitializeService, silent_ask, ask_bind,
    silent_done, commented_ask, comment]
  congr 1
  funext outcome
  rcases outcome with thrown | ⟨⟩
  · simp [logThrown_eq, log, report, @failWith_eq serviceName explicitPath]
  · simp [comment, enteredLines]

/-- The wait says nothing. -/
theorem waitUntilRequested_eq :
    ((waitUntilRequested wakeUps).silent : LoggedProgram Bool) =
      (waitUntilRequested wakeUps).commented (comment serviceName explicitPath) := by
  induction wakeUps with
  | zero => simp [waitUntilRequested, shutdownRequested, comment]
  | succ wakeUps ih =>
      simp only [waitUntilRequested, shutdownRequested, ask_bind, done_bind, silent_ask,
        commented_ask, comment, reportAll_nil]
      congr 1
      funext requested
      cases requested with
      | true => simp
      | false => simp [waitFor, comment, ih]

theorem waitForRequest_eq :
    ((waitForRequest wakeUps).silent : LoggedProgram (Option ℕ)) =
      (waitForRequest wakeUps).commented (comment serviceName explicitPath) := by
  induction wakeUps with
  | zero =>
      simp only [waitForRequest, shutdownRequested, ask_bind, done_bind, silent_ask,
        commented_ask, comment, reportAll_nil]
      congr 1
      funext requested
      cases requested <;> simp
  | succ wakeUps ih =>
      simp only [waitForRequest, shutdownRequested, ask_bind, done_bind, silent_ask,
        commented_ask, comment, reportAll_nil]
      congr 1
      funext requested
      cases requested with
      | true => simp
      | false =>
          simp only [Bool.false_eq_true, if_false, waitFor, ask_bind, done_bind, silent_ask,
            commented_ask, comment, reportAll_nil]
          congr 1
          funext timedOut
          cases timedOut with
          | true => simp [comment]
          | false => exact ih

theorem awaitShutdown_eq :
    ((awaitShutdown wakeUps).silent : LoggedProgram Bool) =
      (awaitShutdown wakeUps).commented (comment serviceName explicitPath) := by
  rw [awaitShutdown, silent_bind, commented_bind,
    @waitForRequest_eq serviceName explicitPath wakeUps]
  congr 1
  funext remaining
  cases remaining with
  | none => simp
  | some remaining => exact waitUntilRequested_eq

theorem runStarting_eq :
    runStarting serviceName wakeUps =
      (Service.runStarting wakeUps).commented (comment serviceName explicitPath) := by
  simp only [runStarting, Service.runStarting, enter, setState, startService, log, report,
    silent_ask, silent_done, ask_bind, done_bind, commented_ask, comment, enteredLines,
    reportAll_cons, reportAll_nil]
  congr 1
  funext _
  congr 1
  funext _
  congr 1
  funext _
  congr 1
  funext outcome
  rcases outcome with thrown | started
  · simp [logThrown_eq, log, report, beginLines, @cleanUpAndFail_eq serviceName explicitPath]
  cases started with
  | false => simp [beginLines, @cleanUpAndFail_eq serviceName explicitPath]
  | true =>
      simp only [beginLines, reportAll_nil, ask_bind, done_bind, commented_ask, comment,
        enteredLines, reportAll_cons, commented_bind,
        @awaitShutdown_eq serviceName explicitPath wakeUps]
      congr 1
      funext _
      congr 1
      funext _
      congr 1
      funext requested
      cases requested with
      | true => exact runStopping_eq
      | false => simp

theorem runInitializing_eq :
    runInitializing serviceName wakeUps =
      (Service.runInitializing wakeUps).commented (comment serviceName explicitPath) := by
  simp only [runInitializing, Service.runInitializing, enter, setState, initializeService, log,
    report, silent_ask, silent_done, ask_bind, done_bind, commented_ask, comment, enteredLines,
    reportAll_cons, reportAll_nil]
  congr 1
  funext _
  congr 1
  funext _
  congr 1
  funext outcome
  rcases outcome with thrown | initialized
  · simp [logThrown_eq, log, report, beginLines, @failWith_eq serviceName explicitPath]
  cases initialized with
  | false => simp [beginLines, @cleanUpAndFail_eq serviceName explicitPath]
  | true => simpa [beginLines] using runStarting_eq

theorem install_bind_eq {rest : Bool → ServiceProgram RunResult}
    {loggedRest : Bool → LoggedProgram RunResult}
    (hinstalled : loggedRest true = (rest true).commented (comment serviceName explicitPath))
    (hrefused : loggedRest false =
      log .error serviceName "failed to install signal handlers" >>= fun _ =>
        (rest false).commented (comment serviceName explicitPath)) :
    install.silent >>= loggedRest =
      (install >>= rest).commented (comment serviceName explicitPath) := by
  simp only [install, sigaction, ask_bind, done_bind, silent_ask, commented_ask, comment]
  congr 1
  funext first
  cases first with
  | false => simp [hrefused, log, report]
  | true =>
      simp only [Bool.not_true, Bool.false_eq_true, if_false, if_true, silent_ask, ask_bind,
        silent_done, done_bind, commented_ask, comment, reportAll_nil]
      congr 1
      funext second
      cases second with
      | false => simp [hrefused, log, report]
      | true => simp [hinstalled]

theorem announce_bind_eq {path : String} {loaded : ObjectAnswer KeyValueConfiguration}
    {rest : LoggedProgram RunResult} (hkept : ¬ (loaded.error.isSome && explicitPath)) :
    (announce serviceName path loaded >>= fun _ => rest) =
      reportAll (loadedLines serviceName explicitPath path loaded) >>= fun _ => rest := by
  rw [announce, loadedLines, if_neg hkept]
  cases loaded.error with
  | some error => simp [log, report]
  | none =>
      simp only [Option.isNone_none, if_true, configureLogger, levelRequest]
      cases parseLogLevel (some (loaded.object.getString (literal "log.level")
        (literal "info"))) with
      | none => simp [log, report]
      | some level => simp [log, report, setMinimumLevel]

theorem runSelected_eq (configSelection : ConfigSelection) :
    runSelected serviceName configSelection wakeUps =
      (Service.runSelected configSelection wakeUps).commented
        (comment serviceName configSelection.explicitPath) := by
  simp only [runSelected, Service.runSelected, openFile, ask_bind, done_bind, silent_ask,
    silent_done, commented_ask, comment]
  congr 1
  funext file
  by_cases hends : (KeyValueConfiguration.loadFromFile ⟨fun _ => none⟩ configSelection.path
      file).error.isSome && configSelection.explicitPath
  · rw [if_pos hends, if_pos hends, loadedLines, if_pos hends]
    exact congrArg (Program.ask _) (funext fun _ => failWith_eq 2)
  · rw [if_neg hends, if_neg hends, announce_bind_eq hends]
    congr 1
    funext _
    exact install_bind_eq runInitializing_eq
      (congrArg (Program.ask _) (funext fun _ => failWith_eq 3))

/-- `run` with its log is the plain `run` with the lines behind each exchange. -/
theorem run_eq_commented (argv : List String) :
    run serviceName argv wakeUps =
      (Service.run serviceName argv wakeUps).commented
        (comment serviceName (explicitConfigPath argv.tail).isSome) := by
  simp only [run, Service.run, clearShutdownRequest, ask_bind, done_bind, silent_ask,
    silent_done, commented_ask, comment, reportAll_nil, selectConfigPath]
  congr 1
  funext _
  cases hexplicit : explicitConfigPath argv.tail with
  | some path =>
      simp only [pure_eq_done, silent_done, done_bind]
      exact runSelected_eq ⟨path, true⟩
  | none =>
      simp only [pathExists, ask_bind, done_bind, silent_ask, commented_ask, comment,
        reportAll_nil]
      congr 1
      funext found
      rcases found with thrown | found
      · simp
      · cases found with
        | false => exact runSelected_eq ⟨"/etc/elap/" ++ serviceName ++ ".conf", false⟩
        | true => exact runSelected_eq ⟨"./config/" ++ serviceName ++ ".conf", false⟩

end Commented

end ElapPlatform.Service.Logged
