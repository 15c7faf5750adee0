import ElapPlatform.ServiceApplicationLog
import ElapPlatform.ServiceRunTranscripts

/-!
# What a run says about its failure

The error lines of a run name what its exit code stands for.  They are shown, unless the
configuration has raised the level of the logger above errors.
-/

namespace ElapPlatform.Service.Logged

open Config Interaction Interaction.Program Logging

/-! ## The requests of one thread -/

def utf8 (text : String) : Bytes := text.toUTF8.toList

def LoggerRequest.call : LoggerRequest → LoggerCall
  | .setMinimumLevel level => .setMinimumLevel level
  | .log level component message => .log level (some (utf8 component)) (some (utf8 message))

/-- `run` alone uses `logger_`, so its calls find the mutex free. -/
def logAll : List LoggerRequest → LoggerProgram Unit
  | [] => return ()
  | request :: requests => do
      let _ ← request.call.body
      logAll requests

def levelAfter : LogLevel → List LoggerRequest → LogLevel
  | minimumLevel, [] => minimumLevel
  | _, .setMinimumLevel level :: requests => levelAfter level requests
  | minimumLevel, .log _ _ _ :: requests => levelAfter minimumLevel requests

/-- The lines at or above the level that they find. -/
def passed : LogLevel → List LoggerRequest → List LogRequest
  | _, [] => []
  | _, .setMinimumLevel level :: requests => passed level requests
  | minimumLevel, .log level component message :: requests =>
      if minimumLevel.toInt ≤ level.toInt then
        ⟨level, some (utf8 component), some (utf8 message)⟩ :: passed minimumLevel requests
      else passed minimumLevel requests

def errorsIn (requests : List LoggerRequest) : List String :=
  requests.filterMap fun request => match request with
    | .log .error _ message => some message
    | _ => none

def IsSetting : LoggerRequest → Prop
  | .setMinimumLevel _ => True
  | .log _ _ _ => False

/-- A line, of which none is critical. -/
def IsLine : LoggerRequest → Prop
  | .setMinimumLevel _ => False
  | .log level _ _ => level ≠ .critical

section Requests

variable {settings lines requests : List LoggerRequest} {minimumLevel : LogLevel}
  {state last : LoggerState}

theorem linesOn_cons (stream : LogStream) (record : LogRecord) (records : List LogRecord) :
    linesOn stream (record :: records) =
      (if record.stream = stream then record.line else []) ++ linesOn stream records := by
  unfold linesOn
  by_cases hsame : record.stream = stream
  · simp [hsame]
  · simp [hsame]

theorem record_line_ne_nil (record : LogRecord) : record.line ≠ [] := by
  simp [LogRecord.line, pieces]

theorem linesOn_eq_nil_iff {stream : LogStream} {records : List LogRecord} :
    linesOn stream records = [] ↔ ∀ record ∈ records, record.stream ≠ stream := by
  induction records with
  | nil => simp [linesOn]
  | cons record records ih =>
      rw [linesOn_cons, List.append_eq_nil_iff, ih, List.forall_mem_cons]
      simp [record_line_ne_nil]

/-- Each stream gets the lines that pass, in the order of the requests. -/
theorem logAll_written (hrun : Runs LoggerQuestion.Answers (logAll requests) state () last) :
    last.minimumLevel = levelAfter state.minimumLevel requests ∧
      ∃ records : List LogRecord,
        records.map LogRecord.request = passed state.minimumLevel requests ∧
          ∀ stream, last.written stream = state.written stream ++ linesOn stream records := by
  induction requests generalizing state with
  | nil =>
      obtain ⟨-, rfl⟩ := runs_done_iff.mp hrun
      exact ⟨rfl, [], rfl, fun stream => (List.append_nil _).symm⟩
  | cons request requests ih =>
      obtain ⟨_, middle, hcall, hrest⟩ := runs_bind_iff.mp hrun
      obtain ⟨hlevel, records, hrequests, hwritten⟩ := ih hrest
      cases request with
      | setMinimumLevel level =>
          obtain rfl := runs_perform_iff.mp hcall
          exact ⟨hlevel, records, hrequests, hwritten⟩
      | log level component message =>
          rcases log_runs hcall with ⟨hbelow, rfl⟩ | ⟨habove, time, happended, -⟩
          · exact ⟨hlevel, records, by rw [hrequests, passed, if_neg (Nat.not_le.mpr hbelow)],
              hwritten⟩
          rw [happended.minimumLevel] at hlevel hrequests
          refine ⟨hlevel, ⟨time, level, some (utf8 component), some (utf8 message)⟩ :: records,
            ?_, fun stream => ?_⟩
          · rw [List.map_cons, hrequests, passed, if_pos habove]
          · rw [hwritten, linesOn_cons, ← List.append_assoc]
            congr 1
            by_cases hsame : streamOf level = stream
            · subst hsame
              rw [happended.written]
              exact congrArg _ (if_pos rfl).symm
            · obtain ⟨hshown, hbuffered⟩ := happended.others stream (Ne.symm hsame)
              rw [LoggerState.written, LoggerState.written, hshown, hbuffered]
              exact (List.append_nil _).symm.trans (congrArg _ (if_neg hsame).symm)

theorem levelAfter_lines (hlines : ∀ request ∈ lines, IsLine request) :
    levelAfter minimumLevel lines = minimumLevel := by
  induction lines with
  | nil => rfl
  | cons request lines ih =>
      obtain ⟨hrequest, hrest⟩ := List.forall_mem_cons.mp hlines
      cases request with
      | setMinimumLevel level => exact hrequest.elim
      | log level component message => exact ih hrest

/-- The level is set before the first line. -/
theorem after_settings (hsettings : ∀ request ∈ settings, IsSetting request)
    (hlines : ∀ request ∈ lines, IsLine request) :
    levelAfter minimumLevel (settings ++ lines) = levelAfter minimumLevel settings ∧
      passed minimumLevel (settings ++ lines) =
        passed (levelAfter minimumLevel settings) lines := by
  induction settings generalizing minimumLevel with
  | nil => exact ⟨levelAfter_lines hlines, rfl⟩
  | cons request settings ih =>
      obtain ⟨hrequest, hrest⟩ := List.forall_mem_cons.mp hsettings
      cases request with
      | setMinimumLevel level => exact ih hrest
      | log level component message => exact hrequest.elim

/-- Of lines below `Critical`, those on `std::cerr` are the errors. -/
theorem exists_passed_error_iff (hlines : ∀ request ∈ lines, IsLine request) :
    (∃ request ∈ passed minimumLevel lines, streamOf request.level = .cerr) ↔
      errorsIn lines ≠ [] ∧ minimumLevel ≠ .critical := by
  induction lines with
  | nil => simp [passed, errorsIn]
  | cons request lines ih =>
      obtain ⟨hrequest, hothers⟩ := List.forall_mem_cons.mp hlines
      have hrest := ih hothers
      cases request with
      | setMinimumLevel level => exact hrequest.elim
      | log level component message =>
          by_cases herror : level = .error
          · subst herror
            cases minimumLevel <;> simp_all [passed, errorsIn, LogLevel.toInt, streamOf]
          · have hstream : streamOf level = .cout := by
              cases level <;> first | rfl | exact absurd rfl herror | exact absurd rfl hrequest
            have herrors : errorsIn (.log level component message :: lines) = errorsIn lines := by
              cases level <;> first | rfl | exact absurd rfl herror
            rw [herrors, ← hrest, passed]
            split_ifs
            · simp [hstream]
            · rfl

theorem written_cerr_iff (hsettings : ∀ request ∈ settings, IsSetting request)
    (hlines : ∀ request ∈ lines, IsLine request)
    (hrun : Runs LoggerQuestion.Answers (logAll (settings ++ lines)) (.initial minimumLevel) ()
      last) :
    last.written .cerr ≠ [] ↔ errorsIn lines ≠ [] ∧ last.minimumLevel ≠ .critical := by
  obtain ⟨hlevel, records, hrequests, hwritten⟩ := logAll_written hrun
  obtain ⟨hafter, hpassed⟩ := @after_settings _ _ minimumLevel hsettings hlines
  have hshown : last.written .cerr = linesOn .cerr records := by
    rw [hwritten]
    rfl
  rw [hlevel, LoggerState.initial, hafter, ← exists_passed_error_iff hlines, ← hpassed, hshown,
    Ne, linesOn_eq_nil_iff]
  have hrecords : records.map LogRecord.request = passed minimumLevel (settings ++ lines) :=
    hrequests
  rw [← hrecords]
  simp [LogRecord.stream]

end Requests

/-! ## The error lines of a run -/

def cleanupErrors : Except Thrown Unit → List String
  | .error thrown => [thrownText "service deinitialization" thrown]
  | .ok () => []

/-- A callback that did not return true. -/
def beginError (operation : String) : Except Thrown Bool → String
  | .error thrown => thrownText operation thrown
  | .ok _ => operation ++ " failed"

/-- Each exit code with its error lines. -/
inductive Diagnosed : RunResult → List String → Prop
  | stopped : Diagnosed (.returned 0) []
  | escaped (thrown : Thrown) : Diagnosed (.escaped thrown) []
  | waiting : Diagnosed .stillWaiting []
  | configuration (text : String) : Diagnosed (.returned 2) [text]
  | signals : Diagnosed (.returned 3) ["failed to install signal handlers"]
  | initializeThrew (thrown : Thrown) :
      Diagnosed (.returned 4) [thrownText "service initialization" thrown]
  | initializeFailed (cleanup : Except Thrown Unit) :
      Diagnosed (.returned 4) ("service initialization failed" :: cleanupErrors cleanup)
  | startFailed (outcome : Except Thrown Bool) (cleanup : Except Thrown Unit) :
      Diagnosed (.returned 5) (beginError "service start" outcome :: cleanupErrors cleanup)
  | stopThrew (thrown : Thrown) (cleanup : Except Thrown Unit) :
      Diagnosed (.returned 6) (thrownText "service stop" thrown :: cleanupErrors cleanup)
  | deinitializeThrew (thrown : Thrown) :
      Diagnosed (.returned 7) [thrownText "service deinitialization" thrown]

theorem Diagnosed.errors_iff {result : RunResult} {errors : List String}
    (hdiagnosed : Diagnosed result errors) :
    errors ≠ [] ↔ ∃ code, code ≠ 0 ∧ result = .returned code := by
  cases hdiagnosed <;> simp

section Commentary

variable {serviceName : String} {explicitPath : Bool} {wakeUps : ℕ}
  {exchanges later : List ServiceExchange} {result : RunResult}

abbrev lines (serviceName : String) (explicitPath : Bool) (exchanges : List ServiceExchange) :
    List LoggerRequest := commentary (comment serviceName explicitPath) exchanges

theorem lines_append :
    lines serviceName explicitPath (exchanges ++ later) =
      lines serviceName explicitPath exchanges ++ lines serviceName explicitPath later :=
  List.flatMap_append

theorem errorsIn_append (requests more : List LoggerRequest) :
    errorsIn (requests ++ more) = errorsIn requests ++ errorsIn more :=
  List.filterMap_append

theorem lines_waits {requested : Bool} (hwaits : Waits wakeUps exchanges requested) :
    lines serviceName explicitPath exchanges = [] := by
  refine List.flatMap_eq_nil_iff.mpr fun exchange hmem => ?_
  obtain ⟨call, reply⟩ := exchange
  rcases hwaits.only _ hmem with hcall | hcall
  · obtain rfl : call = .shutdownRequested := hcall
    rfl
  · obtain rfl : call = .waitFor := hcall
    rfl

/-- Behind the preparation only lines are logged. -/
theorem serves_isLine (hserves : ∀ exchange ∈ exchanges, Serves exchange) :
    ∀ request ∈ lines serviceName explicitPath exchanges, IsLine request := by
  intro request hmem
  obtain ⟨⟨call, reply⟩, hexchange, hrequest⟩ := List.mem_flatMap.mp hmem
  have hcall := hserves _ hexchange
  cases call with
  | clearShutdownRequest => exact hcall.elim
  | pathExists path => exact hcall.elim
  | openFile path => exact hcall.elim
  | sigaction signal => exact hcall.elim
  | setState state =>
      cases state <;> simp_all [comment, enteredLines, IsLine]
  | initializeService =>
      rcases reply with thrown | (_ | _) <;> simp_all [comment, beginLines, IsLine]
  | startService =>
      rcases reply with thrown | (_ | _) <;> simp_all [comment, beginLines, IsLine]
  | stopService =>
      rcases reply with thrown | _ <;> simp_all [comment, endLines, IsLine]
  | deinitializeService =>
      rcases reply with thrown | _ <;> simp_all [comment, endLines, IsLine]
  | shutdownRequested => simp [comment] at hrequest
  | waitFor => simp [comment] at hrequest

theorem lines_cons (exchange : ServiceExchange) :
    lines serviceName explicitPath (exchange :: later) =
      comment serviceName explicitPath exchange.1 exchange.2 ++
        lines serviceName explicitPath later :=
  List.flatMap_cons

theorem errorsIn_entered (state : ServiceState) :
    errorsIn (lines serviceName explicitPath (entered state :: later)) =
      errorsIn (lines serviceName explicitPath later) := by
  rw [lines_cons, errorsIn_append]
  cases state <;> rfl

theorem errorsIn_cleanup (cleanup : Except Thrown Unit) :
    errorsIn (lines serviceName explicitPath
      [⟨.deinitializeService, cleanup⟩, entered .failed]) = cleanupErrors cleanup := by
  rw [lines_cons, errorsIn_append, errorsIn_entered]
  rcases cleanup with thrown | _ <;> rfl

theorem errorsIn_launching (outcome : Except Thrown Bool) :
    errorsIn (lines serviceName explicitPath (launching outcome ++ later)) =
      errorsIn (beginLines serviceName "service start" outcome) ++
        errorsIn (lines serviceName explicitPath later) := by
  rw [lines_append, errorsIn_append]
  congr 1
  rcases outcome with thrown | (_ | _) <;> rfl

/-- Up to the shutdown request nothing goes wrong. -/
theorem errorsIn_served {waits : List ServiceExchange} {requested : Bool}
    (hwaits : Waits wakeUps waits requested) :
    errorsIn (lines serviceName explicitPath
      (launching (.ok true) ++ entered .running :: waits ++ later)) =
        errorsIn (lines serviceName explicitPath later) := by
  rw [List.append_assoc, errorsIn_launching, List.cons_append, errorsIn_entered, lines_append,
    lines_waits hwaits]
  rfl

theorem ending_diagnosed (hending : Ending wakeUps (entered .initializing :: exchanges) result) :
    Diagnosed result
      (errorsIn (lines serviceName explicitPath (entered .initializing :: exchanges))) := by
  generalize hwhole : entered .initializing :: exchanges = whole at hending ⊢
  cases hending with
  | escaped thrown => cases hwhole
  | refused code hcode => simp [entered] at hwhole
  | initializeThrew thrown =>
      rw [errorsIn_entered, lines_cons, errorsIn_append, errorsIn_entered]
      exact .initializeThrew thrown
  | initializeFailed cleanup =>
      rw [errorsIn_entered, lines_cons, errorsIn_append, errorsIn_cleanup]
      exact .initializeFailed cleanup
  | startFailed outcome cleanup houtcome =>
      rw [errorsIn_launching, errorsIn_cleanup]
      have hbegin : errorsIn (beginLines serviceName "service start" outcome) =
          [beginError "service start" outcome] := by
        rcases outcome with thrown | (_ | _)
        · rfl
        · rfl
        · exact absurd rfl houtcome
      rw [hbegin]
      exact .startFailed outcome cleanup
  | waiting waits hwaits =>
      have herrors := @errorsIn_served serviceName explicitPath _ [] _ _ hwaits
      rw [List.append_nil] at herrors
      rw [herrors]
      exact .waiting
  | stopThrew waits thrown cleanup hwaits =>
      rw [errorsIn_served hwaits, errorsIn_entered, lines_cons, errorsIn_append,
        errorsIn_cleanup]
      exact .stopThrew thrown cleanup
  | deinitializeThrew waits thrown hwaits =>
      rw [errorsIn_served hwaits, errorsIn_entered]
      exact .deinitializeThrew thrown
  | stopped waits hwaits =>
      rw [errorsIn_served hwaits, errorsIn_entered]
      exact .stopped

/-! ### The preparation -/

theorem lines_install {installed : Bool} (htranscript : Transcript install exchanges installed) :
    lines serviceName explicitPath exchanges =
      if installed then [] else [.log .error serviceName "failed to install signal handlers"] := by
  simp only [install, sigaction, ask_bind, done_bind, transcript_ask_iff] at htranscript
  obtain ⟨first, rest, rfl, hrest⟩ := htranscript
  cases first with
  | false =>
      obtain ⟨rfl, rfl⟩ := transcript_done_iff.mp hrest
      rfl
  | true =>
      obtain ⟨second, last, rfl, hlast⟩ := transcript_ask_iff.mp hrest
      obtain ⟨rfl, rfl⟩ := transcript_done_iff.mp hlast
      cases installed <;> rfl

/-- The level that a configuration file asks for. -/
def configuredLevel (path : String) (file : Option FileStream) : Option LogLevel :=
  parseLogLevel (some ((KeyValueConfiguration.loadFromFile ⟨fun _ => none⟩ path
    file).object.getString (literal "log.level") (literal "info")))

/-- The file is loaded and asks for the level. -/
def Configures (path : String) (file : Option FileStream) (level : LogLevel) : Prop :=
  (KeyValueConfiguration.loadFromFile ⟨fun _ => none⟩ path file).error = none ∧
    configuredLevel path file = some level

/-- The requests of a run: settings of the level, then lines. -/
structure Narrated (exchanges : List ServiceExchange) (result : RunResult)
    (settings narration : List LoggerRequest) : Prop where
  setting : ∀ request ∈ settings, IsSetting request
  line : ∀ request ∈ narration, IsLine request
  diagnosed : Diagnosed result (errorsIn narration)
  critical : levelAfter .info settings = .critical ↔
    ∃ path file, ⟨.openFile path, file⟩ ∈ exchanges ∧ Configures path file .critical

theorem loadedLines_kept {path : String} {file : Option FileStream}
    (hkept : ¬ ((KeyValueConfiguration.loadFromFile ⟨fun _ => none⟩ path file).error.isSome &&
      explicitPath)) :
    ∃ settings line, loadedLines serviceName explicitPath path
        (KeyValueConfiguration.loadFromFile ⟨fun _ => none⟩ path file) = settings ++ [line] ∧
      (∀ request ∈ settings, IsSetting request) ∧ IsLine line ∧ errorsIn [line] = [] ∧
        (levelAfter .info settings = .critical ↔ Configures path file .critical) := by
  unfold Configures configuredLevel
  generalize KeyValueConfiguration.loadFromFile ⟨fun _ => none⟩ path file = loaded at hkept ⊢
  rw [loadedLines, if_neg hkept]
  split_ifs with hloaded
  · refine ⟨levelRequest loaded.object, _, rfl, fun request hmem => ?_, by simp [IsLine], rfl, ?_⟩
    · obtain ⟨level, -, rfl⟩ := Option.map_eq_some_iff.mp (Option.mem_toList.mp hmem)
      trivial
    · rw [levelRequest, and_iff_right (Option.isNone_iff_eq_none.mp hloaded)]
      cases parseLogLevel (some (loaded.object.getString (literal "log.level")
        (literal "info"))) with
      | none => simp [levelAfter]
      | some level => simp [levelAfter]
  · refine ⟨[], _, rfl, by simp, by simp [IsLine], rfl, ?_⟩
    rw [Option.isNone_iff_eq_none] at hloaded
    simp [levelAfter, hloaded]

/-- Where one file is opened, it alone says what is configured. -/
theorem configures_opened_iff {path : String} {file : Option FileStream} {level : LogLevel}
    (hrest : ∀ exchange ∈ later, ∀ path, exchange.1 ≠ .openFile path) :
    (∃ path' file', ⟨.openFile path', file'⟩ ∈
        (⟨.openFile path, file⟩ :: later : List ServiceExchange) ∧
          Configures path' file' level) ↔ Configures path file level := by
  constructor
  · rintro ⟨path', file', hmem, hconfigures⟩
    rcases List.mem_cons.mp hmem with hsame | hlater
    · cases hsame
      exact hconfigures
    · exact absurd rfl (hrest _ hlater path')
  · intro hconfigures
    exact ⟨path, file, List.mem_cons_self, hconfigures⟩

theorem install_not_opens {installed : Bool}
    (htranscript : Transcript install exchanges installed) :
    ∀ exchange ∈ exchanges, ∀ path, exchange.1 ≠ .openFile path := by
  simp only [install, sigaction, ask_bind, done_bind, transcript_ask_iff] at htranscript
  obtain ⟨first, rest, rfl, hrest⟩ := htranscript
  cases first with
  | false =>
      obtain ⟨rfl, rfl⟩ := transcript_done_iff.mp hrest
      simp
  | true =>
      obtain ⟨second, last, rfl, hlast⟩ := transcript_ask_iff.mp hrest
      obtain ⟨rfl, rfl⟩ := transcript_done_iff.mp hlast
      simp

theorem serves_not_opens (hserves : ∀ exchange ∈ exchanges, Serves exchange) :
    ∀ exchange ∈ exchanges, ∀ path, exchange.1 ≠ .openFile path := by
  intro exchange hmem path hopens
  have hcall := hserves exchange hmem
  rw [Serves, hopens] at hcall
  exact hcall

/-- What follows the loading of the configuration. -/
structure Prepared (exchanges : List ServiceExchange) (result : RunResult)
    (narration : List LoggerRequest) : Prop where
  unopened : ∀ exchange ∈ exchanges, ∀ path, exchange.1 ≠ .openFile path
  line : ∀ request ∈ narration, IsLine request
  diagnosed : Diagnosed result (errorsIn narration)

theorem uninstalled_prepared (hinstall : Transcript install exchanges false)
    (hending : Transcript (Service.failWith 3) later result) :
    Prepared (exchanges ++ later) result
      (lines serviceName explicitPath (exchanges ++ later)) := by
  obtain ⟨rfl, rfl⟩ := failWith_transcript hending
  have hfailed : ∀ path, (entered .failed).1 ≠ ServiceCall.openFile path :=
    fun _ => ServiceCall.noConfusion
  constructor
  · intro exchange hmem
    rcases List.mem_append.mp hmem with hinstalling | hlast
    · exact install_not_opens hinstall exchange hinstalling
    · rw [List.mem_singleton.mp hlast]
      exact hfailed
  · intro request hmem
    rw [lines_append, lines_install hinstall] at hmem
    rw [List.mem_singleton.mp hmem]
    simp [IsLine]
  · rw [lines_append, lines_install hinstall, errorsIn_append, errorsIn_entered]
    exact .signals

theorem installed_prepared (hinstall : Transcript install exchanges true)
    (hending : Transcript (Service.runInitializing wakeUps) later result) :
    Prepared (exchanges ++ later) result
      (lines serviceName explicitPath (exchanges ++ later)) := by
  have hended := runInitializing_transcript hending
  have hlines : lines serviceName explicitPath (exchanges ++ later) =
      lines serviceName explicitPath later := by
    rw [lines_append, lines_install hinstall]
    rfl
  rw [hlines]
  constructor
  · intro exchange hmem
    rcases List.mem_append.mp hmem with hinstalling | hlater
    · exact install_not_opens hinstall exchange hinstalling
    · exact serves_not_opens hended.serves exchange hlater
  · exact fun request hmem => serves_isLine hended.serves request hmem
  · obtain ⟨_, rest, rfl, -⟩ := transcript_ask_iff.mp hending
    have hbegun : Ending wakeUps (entered .initializing :: rest) result := hended
    have hdiagnosed : Diagnosed result
        (errorsIn (lines serviceName explicitPath (entered .initializing :: rest))) :=
      ending_diagnosed hbegun
    exact hdiagnosed

/-- An explicit configuration that cannot be loaded ends the run. -/
theorem refused_narrated {path : String} {file : Option FileStream}
    (hends : (KeyValueConfiguration.loadFromFile ⟨fun _ => none⟩ path file).error.isSome &&
      explicitPath)
    (hending : Transcript (Service.failWith 2) later result) :
    ∃ settings narration, lines serviceName explicitPath (⟨.openFile path, file⟩ :: later) =
      settings ++ narration ∧
        Narrated (⟨.openFile path, file⟩ :: later) result settings narration := by
  obtain ⟨rfl, rfl⟩ := failWith_transcript hending
  have hlines : loadedLines serviceName explicitPath path
        (KeyValueConfiguration.loadFromFile ⟨fun _ => none⟩ path file) ++
      lines serviceName explicitPath [entered .failed] =
        [.log .error serviceName (configError (KeyValueConfiguration.loadFromFile
          ⟨fun _ => none⟩ path file).error)] := by
    rw [loadedLines, if_pos hends]
    rfl
  rw [lines_cons, comment]
  refine ⟨[], _, hlines, by simp, by simp [IsLine], .configuration _, ?_⟩
  have hfailed : ¬ Configures path file .critical := by
    intro hconfigures
    rw [hconfigures.1] at hends
    cases hends
  rw [configures_opened_iff fun exchange hmem path => by
    rw [List.mem_singleton.mp hmem]
    exact ServiceCall.noConfusion]
  exact iff_of_false (by simp [levelAfter]) hfailed

theorem selected_narrated {configSelection : ConfigSelection}
    (htranscript : Transcript (Service.runSelected configSelection wakeUps) exchanges result) :
    ∃ settings narration, lines serviceName configSelection.explicitPath exchanges =
      settings ++ narration ∧ Narrated exchanges result settings narration := by
  simp only [Service.runSelected, openFile, ask_bind, done_bind, transcript_ask_iff] at htranscript
  obtain ⟨file, rest, rfl, hrest⟩ := htranscript
  split_ifs at hrest with hends
  · exact refused_narrated hends hrest
  obtain ⟨settings, line, hloaded, hsettings, hline, herrors, hcritical⟩ :=
    @loadedLines_kept serviceName _ _ _ hends
  obtain ⟨installing, ending, installed, rfl, hinstall, hending⟩ := transcript_bind_iff.mp hrest
  have hprepared : Prepared (installing ++ ending) result
      (lines serviceName configSelection.explicitPath (installing ++ ending)) := by
    cases installed with
    | false => exact uninstalled_prepared hinstall hending
    | true => exact installed_prepared hinstall hending
  rw [lines_cons, comment, hloaded, List.append_assoc]
  refine ⟨settings, _, rfl, hsettings, ?_, ?_,
    hcritical.trans (configures_opened_iff hprepared.unopened).symm⟩
  · intro request hmem
    rcases List.mem_append.mp hmem with hmem | hmem
    · rw [List.mem_singleton.mp hmem]
      exact hline
    · exact hprepared.line request hmem
  · rw [errorsIn_append, herrors, List.nil_append]
    exact hprepared.diagnosed

theorem Narrated.after {settings narration : List LoggerRequest}
    (hnarrated : Narrated later result settings narration)
    (hlater : ∀ path file, (⟨.openFile path, file⟩ : ServiceExchange) ∈ exchanges ↔
      ⟨.openFile path, file⟩ ∈ later) :
    Narrated exchanges result settings narration where
  setting := hnarrated.setting
  line := hnarrated.line
  diagnosed := hnarrated.diagnosed
  critical := by
    rw [hnarrated.critical]
    simp only [hlater]

theorem run_narrated {argv : List String}
    (htranscript : Transcript (Service.run serviceName argv wakeUps) exchanges result) :
    ∃ settings narration,
      lines serviceName (explicitConfigPath argv.tail).isSome exchanges = settings ++ narration ∧
        Narrated exchanges result settings narration := by
  simp only [Service.run, clearShutdownRequest, ask_bind, done_bind,
    transcript_ask_iff] at htranscript
  obtain ⟨_, later, rfl, hlater⟩ := htranscript
  unfold selectConfigPath at hlater
  cases hexplicit : explicitConfigPath argv.tail with
  | some path =>
      simp only [hexplicit, pure_eq_done, done_bind] at hlater
      have hselected : Transcript (Service.runSelected ⟨path, true⟩ wakeUps) later result := hlater
      obtain ⟨settings, narration, hlines, hnarrated⟩ :=
        @selected_narrated serviceName _ _ _ _ hselected
      exact ⟨settings, narration, hlines, hnarrated.after fun _ _ => by simp⟩
  | none =>
      simp only [hexplicit, pathExists, ask_bind, done_bind, transcript_ask_iff] at hlater
      obtain ⟨found, rest, rfl, hrest⟩ := hlater
      have hkept : ∀ path file, (⟨.openFile path, file⟩ : ServiceExchange) ∈
          (⟨.clearShutdownRequest, ()⟩ :: ⟨.pathExists ("./config/" ++ serviceName ++ ".conf"),
            found⟩ :: rest : List ServiceExchange) ↔ ⟨.openFile path, file⟩ ∈ rest := by
        simp
      rcases found with thrown | found
      · obtain ⟨rfl, rfl⟩ := transcript_done_iff.mp hrest
        exact ⟨[], [], rfl, by simp, by simp, .escaped thrown, by simp [levelAfter]⟩
      cases found with
      | false =>
          have hselected : Transcript (Service.runSelected
            ⟨"/etc/elap/" ++ serviceName ++ ".conf", false⟩ wakeUps) rest result := hrest
          obtain ⟨settings, narration, hlines, hnarrated⟩ :=
            @selected_narrated serviceName _ _ _ _ hselected
          exact ⟨settings, narration, hlines, hnarrated.after hkept⟩
      | true =>
          have hselected : Transcript (Service.runSelected
            ⟨"./config/" ++ serviceName ++ ".conf", false⟩ wakeUps) rest result := hrest
          obtain ⟨settings, narration, hlines, hnarrated⟩ :=
            @selected_narrated serviceName _ _ _ _ hselected
          exact ⟨settings, narration, hlines, hnarrated.after hkept⟩

end Commentary

/-! ## What is shown -/

section Reports

variable {serviceName : String} {argv : List String} {wakeUps : ℕ}
  {exchanges : List (RecordedExchange LoggerRequest ServiceCall.Reply)} {result : RunResult}
  {last : LoggerState}

/-- `run` asks what the plain `run` asks, and logs line by line what has happened.  Its
error lines name its exit code, and the `std::cerr` of a new logger shows them unless the
loaded configuration has set the level to `Critical`. -/
theorem run_reports_failure
    (htranscript : Transcript (run serviceName argv wakeUps) exchanges result)
    (hlogger : Runs LoggerQuestion.Answers (logAll (reported exchanges)) (.initial .info) () last) :
    Transcript (Service.run serviceName argv wakeUps) (asked exchanges) result ∧
      exchanges = (asked exchanges).flatMap (commentedExchange
        (comment serviceName (explicitConfigPath argv.tail).isSome)) ∧
      Diagnosed result (errorsIn (reported exchanges)) ∧
      (last.written .cerr ≠ [] ↔
        (∃ code, code ≠ 0 ∧ result = .returned code) ∧ last.minimumLevel ≠ .critical) ∧
      (last.minimumLevel = .critical ↔ ∃ path file, ⟨.openFile path, file⟩ ∈ asked exchanges ∧
        Configures path file .critical) := by
  rw [run_eq_commented] at htranscript
  obtain ⟨hplain, hexchanges, hreported⟩ := htranscript.of_commented
  obtain ⟨settings, narration, hlines, hnarrated⟩ := run_narrated hplain
  have hrequests : reported exchanges = settings ++ narration := hreported.trans hlines
  rw [hrequests] at hlogger
  have hsilent : errorsIn settings = [] := by
    refine List.filterMap_eq_nil_iff.mpr fun request hmem => ?_
    have hsetting := hnarrated.setting request hmem
    cases request with
    | setMinimumLevel level => rfl
    | log level component message => exact hsetting.elim
  have herrors : errorsIn (reported exchanges) = errorsIn narration := by
    rw [hrequests, errorsIn_append, hsilent, List.nil_append]
  have hlevel : last.minimumLevel = levelAfter .info settings :=
    (logAll_written hlogger).1.trans (after_settings hnarrated.setting hnarrated.line).1
  refine ⟨hplain, hexchanges, herrors ▸ hnarrated.diagnosed, ?_, hlevel ▸ hnarrated.critical⟩
  rw [written_cerr_iff hnarrated.setting hnarrated.line hlogger,
    hnarrated.diagnosed.errors_iff]

end Reports

/-- A service that cannot start, without a configuration file. -/
theorem failed_start_is_reported :
    ∃ exchanges last, Transcript (run "svc" ["svc"] 0) exchanges (.returned 5) ∧
      Runs LoggerQuestion.Answers (logAll (reported exchanges)) (.initial .info) () last ∧
      errorsIn (reported exchanges) = ["service start threw exception: no disk"] ∧
      last.written .cerr ≠ [] := by
  let exchanges : List (RecordedExchange LoggerRequest ServiceCall.Reply) :=
    [⟨.inl .clearShutdownRequest, ()⟩,
      ⟨.inl (.pathExists ("./config/" ++ "svc" ++ ".conf")), .ok false⟩,
      ⟨.inl (.openFile ("/etc/elap/" ++ "svc" ++ ".conf")), none⟩,
      ⟨.inr (.log .warning "svc" ("using defaults; configuration not found: " ++
        ("/etc/elap/" ++ "svc" ++ ".conf"))), ()⟩,
      ⟨.inl (.sigaction .SIGINT), true⟩, ⟨.inl (.sigaction .SIGTERM), true⟩,
      ⟨.inl (.setState .initializing), ()⟩,
      ⟨.inr (.log .info "svc" "initializing service"), ()⟩,
      ⟨.inl .initializeService, .ok true⟩,
      ⟨.inl (.setState .initialized), ()⟩, ⟨.inl (.setState .starting), ()⟩,
      ⟨.inr (.log .info "svc" "starting service"), ()⟩,
      ⟨.inl .startService, .error (.exception "no disk")⟩,
      ⟨.inr (.log .error "svc" ("service start" ++ " threw exception: " ++ "no disk")), ()⟩,
      ⟨.inl .deinitializeService, .ok ()⟩, ⟨.inl (.setState .failed), ()⟩]
  have htranscript : Transcript (run "svc" ["svc"] 0) exchanges (.returned 5) := by
    repeat refine .ask _ ?_
    exact .done _
  obtain ⟨_, last, hlogger⟩ := exists_logger_run (logAll (reported exchanges)) (.initial .info)
  obtain ⟨-, -, -, hshown, hcritical⟩ := run_reports_failure htranscript hlogger
  refine ⟨exchanges, last, htranscript, hlogger, rfl, hshown.mpr ⟨⟨5, by decide, rfl⟩, ?_⟩⟩
  intro hlevel
  obtain ⟨path, file, hmem, hloaded, -⟩ := hcritical.mp hlevel
  simp [exchanges, asked] at hmem
  obtain ⟨rfl, rfl⟩ := hmem
  exact absurd hloaded (by decide)

end ElapPlatform.Service.Logged
