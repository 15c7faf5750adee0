import ElapPlatform.CallTranscripts
import ElapPlatform.HealthMonitorModel
import ElapPlatform.KeyedTable
import ElapPlatform.ServiceApplicationModel

/-!
# Service health

The members of a `HealthMonitor`, its calls from any number of threads, and the table of
services in a snapshot.  What runs under the mutex of the monitor is one question.
-/

namespace ElapPlatform.Health

open Interaction Interaction.Program RelyGuarantee Transition
open Service (ServiceState)

/-! ## The members -/

structure ServiceHealth where
  name : Bytes
  state : ServiceState
  healthy : Bool
  deriving DecidableEq, Repr

def isHealthy (state : ServiceState) : Bool :=
  state == .initialized || state == .starting || state == .running

structure HealthMonitor where
  procRoot : String
  diskPath : String
  services : List ServiceHealth
  deriving DecidableEq, Repr

namespace HealthMonitor

/-- As it is constructed. -/
def initial : HealthMonitor := ⟨"/proc", "/", []⟩

def reportService (monitor : HealthMonitor) (name : Bytes) (state : ServiceState) :
    HealthMonitor :=
  let health : ServiceHealth := ⟨name, state, isHealthy state⟩
  match monitor.services.findIdx? (·.name == name) with
  | none => { monitor with services := monitor.services ++ [health] }
  | some index => { monitor with services := monitor.services.set index health }

def clearServices (monitor : HealthMonitor) : HealthMonitor := { monitor with services := [] }

end HealthMonitor

/-! ## Questions -/

/-- What `statvfs` fills in. -/
structure FileSystemStatistics where
  blocks : ℕ
  fragmentSize : ℕ
  availableBlocks : ℕ
  deriving DecidableEq, Repr

inductive HealthCall where
  | setProcRoot (procRoot : String)
  | setDiskPath (diskPath : String)
  | reportService (name : Bytes) (state : ServiceState)
  | clearServices
  | copyMembers
  /-- The first line of a file, if it can be opened and has one. -/
  | firstLine (path : String)
  /-- All of a file, if it can be opened. -/
  | fileText (path : String)
  | statvfs (path : String)
  deriving DecidableEq, Repr

def HealthCall.Reply : HealthCall → Type
  | .setProcRoot _ => Unit
  | .setDiskPath _ => Unit
  | .reportService _ _ => Unit
  | .clearServices => Unit
  | .copyMembers => HealthMonitor
  | .firstLine _ => Option Bytes
  | .fileText _ => Option Bytes
  | .statvfs _ => Option FileSystemStatistics

abbrev HealthProgram (α : Type) := Program HealthCall HealthCall.Reply α

section Calls

def copyMembers : HealthProgram HealthMonitor := .ask HealthCall.copyMembers .done

def firstLine (path : String) : HealthProgram (Option Bytes) :=
  .ask (HealthCall.firstLine path) .done

def fileText (path : String) : HealthProgram (Option Bytes) :=
  .ask (HealthCall.fileText path) .done

def statvfs (path : String) : HealthProgram (Option FileSystemStatistics) :=
  .ask (HealthCall.statvfs path) .done

end Calls

/-- The files and the disk may answer anything. -/
def HealthCall.Answers (_caller : ℕ) (monitor : HealthMonitor) :
    (call : HealthCall) → call.Reply → HealthMonitor → Prop
  | .setProcRoot procRoot, _, next => next = { monitor with procRoot := procRoot }
  | .setDiskPath diskPath, _, next => next = { monitor with diskPath := diskPath }
  | .reportService name state, _, next => next = monitor.reportService name state
  | .clearServices, _, next => next = monitor.clearServices
  | .copyMembers, reply, next => reply = monitor ∧ next = monitor
  | .firstLine _, _, next => next = monitor
  | .fileText _, _, next => next = monitor
  | .statvfs _, _, next => next = monitor

/-! ## `collect` -/

structure DiskInfo where
  totalBytes : ℕ
  availableBytes : ℕ
  deriving DecidableEq, Repr

structure HealthSnapshot where
  cpu : Option CpuSample
  memory : Option MemoryInfo
  disk : Option DiskInfo
  services : List ServiceHealth
  deriving DecidableEq, Repr

/-- Nothing is kept for a caller that passed no string. -/
def appendError (errorMessage : Option String) (message : String) : Option String :=
  errorMessage.map fun text => if text.isEmpty then message else text ++ "; " ++ message

def FileSystemStatistics.diskInfo (stats : FileSystemStatistics) : DiskInfo :=
  ⟨stats.blocks * stats.fragmentSize % uint64Values,
    stats.availableBlocks * stats.fragmentSize % uint64Values⟩

/-- The part of `collect` behind the critical section. -/
def collectFrom (members : HealthMonitor) (errorMessage : Option String) :
    HealthProgram (HealthSnapshot × Option String) := do
  let line ← firstLine (members.procRoot ++ "/stat")
  let cpu := line.bind parseCpuStatLine
  let errorMessage :=
    if cpu.isNone then appendError errorMessage "failed to read cpu health" else errorMessage
  let text ← fileText (members.procRoot ++ "/meminfo")
  let memory := text.bind parseMemInfo
  let errorMessage :=
    if memory.isNone then appendError errorMessage "failed to read memory health"
    else errorMessage
  match ← statvfs members.diskPath with
  | some stats => return (⟨cpu, memory, some stats.diskInfo, members.services⟩, errorMessage)
  | none =>
    return (⟨cpu, memory, none, members.services⟩,
      appendError errorMessage "failed to read disk health")

def collect (errorMessage : Option String) : HealthProgram (HealthSnapshot × Option String) := do
  let members ← copyMembers
  collectFrom members errorMessage

/-! ## Any number of threads -/

inductive HealthMonitorCall where
  | setProcRoot (procRoot : String)
  | setDiskPath (diskPath : String)
  | reportService (name : Bytes) (state : ServiceState)
  | clearServices
  | collect (errorMessage : Option String)
  deriving DecidableEq, Repr

inductive HealthMonitorValue where
  | done
  | snapshot (snapshot : HealthSnapshot) (errorMessage : Option String)
  deriving DecidableEq, Repr

def HealthMonitorCall.perform : HealthMonitorCall → HealthProgram (HealthMonitorValue × Unit)
  | .setProcRoot procRoot => .ask (HealthCall.setProcRoot procRoot) fun _ => .done (.done, ())
  | .setDiskPath diskPath => .ask (HealthCall.setDiskPath diskPath) fun _ => .done (.done, ())
  | .reportService name state =>
      .ask (HealthCall.reportService name state) fun _ => .done (.done, ())
  | .clearServices => .ask HealthCall.clearServices fun _ => .done (.done, ())
  | .collect errorMessage => do
      let (snapshot, errorMessage) ← Health.collect errorMessage
      return (.snapshot snapshot errorMessage, ())

def healthMonitors : CallClass HealthCall HealthCall.Reply where
  Object := Unit
  Call := HealthMonitorCall
  Value := HealthMonitorValue
  perform call _ := call.perform

abbrev HealthSystem := CallSystem HealthMonitor healthMonitors

abbrev HealthLabel := CallLabel healthMonitors

abbrev HealthHistory := History HealthSystem HealthLabel

def initialHealth : HealthSystem := ⟨.initial, fun _ => (), fun _ => none⟩

/-! ## The table of services -/

structure ServiceReport where
  name : Bytes
  state : ServiceState
  deriving DecidableEq, Repr

def ServiceReport.health (report : ServiceReport) : ServiceHealth :=
  ⟨report.name, report.state, isHealthy report.state⟩

/-- What a call or its turn is for, as far as the table goes. -/
inductive TableUpdate where
  | reports (report : ServiceReport)
  | clears
  deriving DecidableEq, Repr

def HealthCall.update : HealthCall → Option TableUpdate
  | .reportService name state => some (.reports ⟨name, state⟩)
  | .clearServices => some .clears
  | _ => none

def HealthMonitorCall.updates : HealthMonitorCall → List TableUpdate
  | .reportService name state => [.reports ⟨name, state⟩]
  | .clearServices => [.clears]
  | _ => []

/-- The reports that count after this update. -/
def TableUpdate.after (reports : List ServiceReport) : TableUpdate → List ServiceReport
  | .reports report => reports ++ [report]
  | .clears => []

/-- The update of a turn under the mutex. -/
def updateOf : HealthLabel → Option TableUpdate
  | .asks _ question _ => question.update
  | _ => none

/-- The reports behind the latest `clearServices`, in their order. -/
def reportsSinceClear (history : HealthHistory) : List ServiceReport :=
  (history.filterMap fun entry => updateOf entry.2).foldl TableUpdate.after []

/-- Each `reportService` and `clearServices` that has returned took one turn under the mutex,
its own, and nothing else did. -/
abbrev UpdatesOnce (history : HealthHistory) (system : HealthSystem) : Prop :=
  TakesOwnTurns HealthCall.update HealthMonitorCall.updates history system

structure LastReportWins (reports : List ServiceReport) (services : List ServiceHealth) :
    Prop where
  distinct : (services.map (·.name)).Nodup
  reported : ∀ name, name ∈ services.map (·.name) ↔ name ∈ reports.map (·.name)
  latest : ∀ health ∈ services, ∃ before after,
    reports = before ++ ⟨health.name, health.state⟩ :: after ∧
      ∀ later ∈ after, later.name ≠ health.name
  healthy : ∀ health ∈ services, health.healthy = true ↔
    health.state = .initialized ∨ health.state = .starting ∨ health.state = .running
  order : (services.map (·.name)).Pairwise fun first second =>
    (reports.map (·.name)).idxOf first < (reports.map (·.name)).idxOf second

section Table

variable {reports : List ServiceReport} {services : List ServiceHealth} {monitor : HealthMonitor}

theorem isHealthy_iff {state : ServiceState} :
    isHealthy state = true ↔
      state = .initialized ∨ state = .starting ∨ state = .running := by
  simp [isHealthy, or_assoc]

theorem services_reportService (name : Bytes) (state : ServiceState) :
    (monitor.reportService name state).services =
      KeyedTable.upsert (·.name) monitor.services (ServiceReport.health ⟨name, state⟩) := by
  simp only [HealthMonitor.reportService, KeyedTable.upsert, ServiceReport.health]
  cases monitor.services.findIdx? (·.name == name) with
  | none => rfl
  | some index => rfl

theorem LastReportWins.of_lastWins
    (htable : KeyedTable.LastWins (·.name) (reports.map (·.health)) services) :
    LastReportWins reports services := by
  have hnames : (reports.map (·.health)).map (·.name) = reports.map (·.name) := by
    simp [ServiceReport.health]
  have hlatest : ∀ health ∈ services, ∃ before report after,
      reports = before ++ report :: after ∧ report.health = health ∧
        ∀ later ∈ after, later.name ≠ health.name := by
    intro health hmem
    obtain ⟨before, after, hsplit, hlater⟩ := htable.latest health hmem
    obtain ⟨first, rest, rfl, rfl, hrest⟩ := List.map_eq_append_iff.mp hsplit
    obtain ⟨report, last, rfl, rfl, rfl⟩ := List.map_eq_cons_iff.mp hrest
    exact ⟨first, report, last, rfl, rfl, fun later hafter =>
      hlater later.health (List.mem_map_of_mem hafter)⟩
  constructor
  · exact htable.distinct
  · intro name
    rw [htable.keys name, hnames]
  · intro health hmem
    obtain ⟨before, report, after, rfl, rfl, hlater⟩ := hlatest health hmem
    exact ⟨before, after, rfl, hlater⟩
  · intro health hmem
    obtain ⟨_, report, _, _, rfl, _⟩ := hlatest health hmem
    exact isHealthy_iff
  · have horder := htable.order
    rw [hnames] at horder
    exact horder

/-! ## Runs -/

/-- The table of the monitor is that of the reports which count. -/
def Tabulates (history : HealthHistory) (system : HealthSystem) : Prop :=
  system.shared.services =
    ((reportsSinceClear history).map (·.health)).foldl (KeyedTable.upsert (·.name)) []

theorem reportsSinceClear_concat {history : HealthHistory} {system : HealthSystem}
    {label : HealthLabel} :
    reportsSinceClear (history ++ [(system, label)]) =
      (updateOf label).toList.foldl TableUpdate.after (reportsSinceClear history) := by
  unfold reportsSinceClear
  rw [List.filterMap_append, List.foldl_append]
  cases hupdate : updateOf label <;> simp [hupdate]

theorem Tabulates.step {history : HealthHistory} {system next : HealthSystem}
    {label : HealthLabel} (htable : Tabulates history system)
    (hstep : CallStep HealthCall.Answers healthMonitors system label next) :
    Tabulates (history ++ [(system, label)]) next := by
  unfold Tabulates at htable ⊢
  rw [reportsSinceClear_concat]
  cases hstep with
  | begins hidle => exact htable
  | returns hactive => exact htable
  | @asks index call begun next question rest reply hactive hanswer =>
      cases question with
      | reportService name state =>
          have hnext : next = system.shared.reportService name state := hanswer
          simp only [updateOf, HealthCall.update, Option.toList_some, TableUpdate.after,
            List.map_append, List.map_singleton, List.foldl_append, List.foldl_cons,
            List.foldl_nil, ← htable, hnext, services_reportService]
      | clearServices =>
          have hnext : next = system.shared.clearServices := hanswer
          simp [updateOf, HealthCall.update, TableUpdate.after, hnext,
            HealthMonitor.clearServices]
      | setProcRoot procRoot =>
          have hnext : next = { system.shared with procRoot := procRoot } := hanswer
          simpa [updateOf, HealthCall.update, hnext] using htable
      | setDiskPath diskPath =>
          have hnext : next = { system.shared with diskPath := diskPath } := hanswer
          simpa [updateOf, HealthCall.update, hnext] using htable
      | copyMembers =>
          have hnext : next = system.shared := hanswer.2
          simpa [updateOf, HealthCall.update, hnext] using htable
      | firstLine path =>
          have hnext : next = system.shared := hanswer
          simpa [updateOf, HealthCall.update, hnext] using htable
      | fileText path =>
          have hnext : next = system.shared := hanswer
          simpa [updateOf, HealthCall.update, hnext] using htable
      | statvfs path =>
          have hnext : next = system.shared := hanswer
          simpa [updateOf, HealthCall.update, hnext] using htable

theorem Tabulates.of_run {history : HealthHistory} {system : HealthSystem}
    (hrun : Run (CallStep HealthCall.Answers healthMonitors) initialHealth history system) :
    Tabulates history system :=
  hrun.invariant Tabulates (show Tabulates [] initialHealth from rfl)
    fun _ htable hstep => htable.step hstep

theorem lastReportWins_of_run {history : HealthHistory} {system : HealthSystem}
    (hrun : Run (CallStep HealthCall.Answers healthMonitors) initialHealth history system) :
    LastReportWins (reportsSinceClear history) system.shared.services := by
  apply LastReportWins.of_lastWins
  rw [Tabulates.of_run hrun]
  exact .foldl _

end Table

/-! ## Turns -/

instance (question : HealthCall) : Nonempty question.Reply :=
  match question with
  | .setProcRoot _ | .setDiskPath _ | .reportService _ _ | .clearServices => ⟨()⟩
  | .copyMembers => ⟨HealthMonitor.initial⟩
  | .firstLine _ | .fileText _ | .statvfs _ => ⟨none⟩

theorem perform_updates {call : HealthMonitorCall}
    {exchanges : List (Exchange HealthCall HealthCall.Reply)} {result : HealthMonitorValue × Unit}
    (htranscript : Transcript call.perform exchanges result) :
    turnsOf HealthCall.update exchanges = call.updates := by
  cases call with
  | setProcRoot procRoot =>
      obtain ⟨_, _, rfl, hdone⟩ := transcript_ask_iff.mp htranscript
      obtain ⟨rfl, -⟩ := transcript_done_iff.mp hdone
      rfl
  | setDiskPath diskPath =>
      obtain ⟨_, _, rfl, hdone⟩ := transcript_ask_iff.mp htranscript
      obtain ⟨rfl, -⟩ := transcript_done_iff.mp hdone
      rfl
  | reportService name state =>
      obtain ⟨_, _, rfl, hdone⟩ := transcript_ask_iff.mp htranscript
      obtain ⟨rfl, -⟩ := transcript_done_iff.mp hdone
      rfl
  | clearServices =>
      obtain ⟨_, _, rfl, hdone⟩ := transcript_ask_iff.mp htranscript
      obtain ⟨rfl, -⟩ := transcript_done_iff.mp hdone
      rfl
  | collect errorMessage =>
      obtain ⟨members, _, rfl, hline⟩ := transcript_ask_iff.mp htranscript
      obtain ⟨line, _, rfl, htext⟩ := transcript_ask_iff.mp hline
      obtain ⟨text, _, rfl, hstats⟩ := transcript_ask_iff.mp htext
      obtain ⟨stats, _, rfl, hrest⟩ := transcript_ask_iff.mp hstats
      cases stats <;>
      · obtain ⟨rfl, -⟩ := transcript_done_iff.mp hrest
        rfl

theorem updatesOnce_of_run {history : HealthHistory} {system : HealthSystem}
    (hrun : Run (CallStep HealthCall.Answers healthMonitors) initialHealth history system) :
    UpdatesOnce history system :=
  takesOwnTurns_of_run perform_updates (fun _ => rfl) hrun

/-! ## Snapshots -/

theorem collectFrom_services (members : HealthMonitor) (errorMessage : Option String) :
    (collectFrom members errorMessage).Ensures
      fun result => result.1.services = members.services := by
  simp only [collectFrom, firstLine, fileText, statvfs, ensures_bind_iff]
  intro line text stats
  cases stats with
  | none => exact rfl
  | some stats => exact rfl

/-- What `collect` returns has the services of the copy it makes first. -/
theorem collect_transcript {errorMessage : Option String}
    {exchanges : List (Exchange HealthCall HealthCall.Reply)} {value : HealthMonitorValue}
    {object : Unit}
    (htranscript : Transcript (HealthMonitorCall.perform (.collect errorMessage)) exchanges
      (value, object)) :
    ∃ (members : HealthMonitor) (rest : List (Exchange HealthCall HealthCall.Reply))
      (snapshot : HealthSnapshot) (errorMessage' : Option String),
      exchanges = ⟨.copyMembers, members⟩ :: rest ∧
      value = .snapshot snapshot errorMessage' ∧ snapshot.services = members.services := by
  obtain ⟨members, rest, rfl, hrest⟩ := transcript_ask_iff.mp htranscript
  have hensures : (collectFrom members errorMessage >>= fun result =>
      (.done (.snapshot result.1 result.2, ()) : HealthProgram (HealthMonitorValue × Unit))).Ensures
      fun result => ∃ snapshot errorMessage', result.1 = .snapshot snapshot errorMessage' ∧
        snapshot.services = members.services := by
    rw [ensures_bind_iff]
    exact (collectFrom_services members errorMessage).mono fun result hservices =>
      ⟨result.1, result.2, rfl, hservices⟩
  obtain ⟨snapshot, errorMessage', hvalue, hservices⟩ := Transcript.ensured hrest hensures
  exact ⟨members, rest, snapshot, errorMessage', rfl, hvalue, hservices⟩

/-- The value is a snapshot of the table at one moment of the latest call of this caller, and
the table is that of the calls so far. -/
def TakenDuringCall (before : HealthHistory) (caller : ℕ) (errorMessage : Option String)
    (value : HealthMonitorValue) : Prop :=
  ∃ outside inside rest first copied members snapshot errorMessage',
    before = outside ++ (first, .begins caller (.collect errorMessage)) ::
      (inside ++ (copied, .asks caller .copyMembers members) :: rest) ∧
    (∀ entry ∈ inside ++ rest, ∀ call, entry.2 ≠ .begins caller call) ∧
    value = .snapshot snapshot errorMessage' ∧
    UpdatesOnce (outside ++ (first, .begins caller (.collect errorMessage)) :: inside) copied ∧
    LastReportWins
      (reportsSinceClear (outside ++ (first, .begins caller (.collect errorMessage)) :: inside))
      snapshot.services

/-- However the calls of all threads interleave, a snapshot lists each service reported since
the latest clear once, with its latest state, in the order of the first reports. -/
theorem collect_lastReportWins {before after : HealthHistory} {state final : HealthSystem}
    {caller : ℕ} {errorMessage : Option String} {value : HealthMonitorValue}
    (hrun : Run (CallStep HealthCall.Answers healthMonitors) initialHealth
      (before ++ (state, .returns caller (.collect errorMessage) value) :: after) final) :
    TakenDuringCall before caller errorMessage value := by
  obtain ⟨outside, first, middle, object, rfl, honly, htranscript⟩ :=
    returned_transcript (fun _ => rfl) hrun
  obtain ⟨members, _, snapshot, errorMessage', hexchanges, hvalue, hservices⟩ :=
    collect_transcript htranscript
  obtain ⟨inside, copied, rest, rfl⟩ := exists_asks_of_exchangesOf_cons hexchanges
  refine ⟨outside, inside, rest, first, copied, members, snapshot, errorMessage', rfl, ?_,
    hvalue, ?_⟩
  · intro entry hmem call hbegins
    have hinside : entry ∈ inside ++ (copied, .asks caller .copyMembers members) :: rest := by
      rw [List.mem_append, List.mem_cons]
      rcases List.mem_append.mp hmem with hearly | hlate
      · exact .inl hearly
      · exact .inr (.inr hlate)
    obtain ⟨question, reply, hasks⟩ := honly entry hinside (by rw [hbegins]; rfl)
    rw [hasks] at hbegins
    cases hbegins
  · have hsplit : outside ++ (first, .begins caller (.collect errorMessage)) ::
        (inside ++ (copied, .asks caller .copyMembers members) :: rest) ++
          (state, .returns caller (.collect errorMessage) value) :: after =
        outside ++ (first, .begins caller (.collect errorMessage)) :: inside ++
          (copied, .asks caller .copyMembers members) ::
            (rest ++ (state, .returns caller (.collect errorMessage) value) :: after) := by
      simp
    rw [hsplit] at hrun
    obtain ⟨next, hcopied, hstep⟩ := hrun.of_split
    cases hstep with
    | asks hactive hanswer =>
        have hmembers : members = copied.shared := hanswer.1
        rw [hservices, hmembers]
        exact ⟨updatesOnce_of_run hcopied, lastReportWins_of_run hcopied⟩

/-- `"a"` -/
def sampleService : Bytes := [97]

/-- Caller 0 reports one service twice, the second time while caller 1 collects. -/
theorem collect_between_reports :
    ∃ before state final,
      Run (CallStep HealthCall.Answers healthMonitors) initialHealth
        (before ++ [(state, .returns 1 (.collect none)
          (.snapshot ⟨none, none, none, [⟨sampleService, .running, true⟩]⟩ none))]) final ∧
      TakenDuringCall before 1 none
        (.snapshot ⟨none, none, none, [⟨sampleService, .running, true⟩]⟩ none) := by
  have hrun : Run (CallStep HealthCall.Answers healthMonitors) initialHealth [] _ := .start
  have hrun := hrun.andThen
    (.begins 0 (HealthMonitorCall.reportService sampleService .running)) (.begins rfl)
  have hrun := hrun.andThen
    (.asks 0 (HealthCall.reportService sampleService .running) ()) (.asks rfl rfl)
  have hrun := hrun.andThen
    (.returns 0 (HealthMonitorCall.reportService sampleService .running) HealthMonitorValue.done)
    (.returns rfl)
  have hrun := hrun.andThen (.begins 1 (HealthMonitorCall.collect none)) (.begins rfl)
  have hrun := hrun.andThen
    (.begins 0 (HealthMonitorCall.reportService sampleService .failed)) (.begins rfl)
  have hrun := hrun.andThen
    (.asks 1 HealthCall.copyMembers
      (⟨"/proc", "/", [⟨sampleService, .running, true⟩]⟩ : HealthMonitor))
    (.asks rfl ⟨rfl, rfl⟩)
  have hrun := hrun.andThen
    (.asks 0 (HealthCall.reportService sampleService .failed) ()) (.asks rfl rfl)
  have hrun := hrun.andThen
    (.asks 1 (HealthCall.firstLine "/proc/stat") (none : Option Bytes)) (.asks rfl rfl)
  have hrun := hrun.andThen
    (.asks 1 (HealthCall.fileText "/proc/meminfo") (none : Option Bytes)) (.asks rfl rfl)
  have hrun := hrun.andThen
    (.asks 1 (HealthCall.statvfs "/") (none : Option FileSystemStatistics)) (.asks rfl rfl)
  have hrun := hrun.andThen
    (.returns 1 (HealthMonitorCall.collect none)
      (HealthMonitorValue.snapshot ⟨none, none, none, [⟨sampleService, .running, true⟩]⟩ none))
    (.returns rfl)
  exact ⟨_, _, _, hrun, collect_lastReportWins hrun⟩

end ElapPlatform.Health
