import ElapPlatform.ServiceRunTranscripts

/-!
# The two routes to a configuration file

A configuration file that is named with `--config` stops `run` when its content is
rejected.  At a default path the same content counts as a missing file.
-/

namespace ElapPlatform.Service

open Config Interaction Interaction.Program

/-- The file that `run` opened is there, and `loadFromFile` rejects what it delivers. -/
def ConfigurationRejected (exchanges : List ServiceExchange) : Prop :=
  ∃ path stream, ⟨.openFile path, some stream⟩ ∈ exchanges ∧
    (KeyValueConfiguration.loadFromFile ⟨fun _ => none⟩ path (some stream)).error ≠ none

structure StartupPrevented (exchanges : List ServiceExchange) (result : RunResult) : Prop where
  code : ∃ code, code ≠ 0 ∧ result = .returned code
  uninitialized : ∀ outcome, ⟨.initializeService, outcome⟩ ∉ exchanges

/-- The kernel refuses one of the two handlers. -/
def HandlerRefused (exchanges : List ServiceExchange) : Prop :=
  ∃ signal, ⟨.sigaction signal, false⟩ ∈ exchanges

section Transcripts

variable {exchanges : List ServiceExchange} {result : RunResult} {wakeUps : ℕ}

theorem selectConfigPath_selects {argv : List String} {serviceName : String}
    {selection : Except Thrown ConfigSelection}
    (htranscript : Transcript (selectConfigPath argv serviceName) exchanges selection) :
    (∀ exchange ∈ exchanges, ∃ path, exchange.1 = .pathExists path) ∧
      ∀ selected, selection = .ok selected →
        selected.explicitPath = (explicitConfigPath argv.tail).isSome := by
  unfold selectConfigPath at htranscript
  cases hexplicit : explicitConfigPath argv.tail with
  | some path =>
      simp only [hexplicit, pure_eq_done, transcript_done_iff] at htranscript
      obtain ⟨rfl, rfl⟩ := htranscript
      refine ⟨List.forall_mem_nil _, fun selected hselected => ?_⟩
      cases hselected
      rfl
  | none =>
      simp only [hexplicit, pathExists, ask_bind, done_bind, transcript_ask_iff] at htranscript
      obtain ⟨reply, rest, rfl, hrest⟩ := htranscript
      have hnil : rest = [] ∧ ∀ selected, selection = .ok selected →
          selected.explicitPath = false := by
        rcases reply with thrown | found
        · obtain ⟨rfl, rfl⟩ := transcript_done_iff.mp hrest
          exact ⟨rfl, fun selected hselected => by cases hselected⟩
        · cases found <;>
          · obtain ⟨rfl, rfl⟩ := transcript_done_iff.mp hrest
            exact ⟨rfl, fun selected hselected => by cases hselected; rfl⟩
      obtain ⟨rfl, hselection⟩ := hnil
      refine ⟨fun exchange hmem => ?_, hselection⟩
      rw [List.mem_singleton.mp hmem]
      exact ⟨_, rfl⟩

theorem install_installs {installed : Bool}
    (htranscript : Transcript install exchanges installed) :
    (∀ exchange ∈ exchanges, ∃ signal, exchange.1 = .sigaction signal) ∧
      (installed = false ↔ HandlerRefused exchanges) := by
  simp only [install, sigaction, ask_bind, done_bind, transcript_ask_iff] at htranscript
  obtain ⟨reply, rest, rfl, hrest⟩ := htranscript
  cases reply with
  | false =>
      obtain ⟨rfl, rfl⟩ := transcript_done_iff.mp hrest
      refine ⟨fun exchange hmem => ?_, fun _ => ⟨.SIGINT, List.mem_cons_self⟩, fun _ => rfl⟩
      rw [List.mem_singleton.mp hmem]
      exact ⟨_, rfl⟩
  | true =>
      obtain ⟨second, last, rfl, hlast⟩ := transcript_ask_iff.mp hrest
      obtain ⟨rfl, rfl⟩ := transcript_done_iff.mp hlast
      constructor
      · intro exchange hmem
        rcases List.mem_cons.mp hmem with rfl | hmem
        · exact ⟨_, rfl⟩
        · rw [List.mem_singleton.mp hmem]
          exact ⟨_, rfl⟩
      · constructor
        · rintro rfl
          exact ⟨.SIGTERM, List.mem_cons_of_mem _ List.mem_cons_self⟩
        · rintro ⟨signal, hmem⟩
          simp at hmem
          exact hmem.2

/-- A run that comes to the service calls it. -/
theorem runInitializing_initializes
    (htranscript : Transcript (runInitializing wakeUps) exchanges result) :
    ∃ outcome, ⟨.initializeService, outcome⟩ ∈ exchanges := by
  simp only [runInitializing, setState, initializeService, ask_bind, done_bind,
    transcript_ask_iff] at htranscript
  obtain ⟨_, _, rfl, outcome, rest, rfl, _⟩ := htranscript
  exact ⟨outcome, List.mem_cons_of_mem _ List.mem_cons_self⟩

theorem handlerRefused_append {earlier later : List ServiceExchange} :
    HandlerRefused (earlier ++ later) ↔ HandlerRefused earlier ∨ HandlerRefused later := by
  simp only [HandlerRefused, List.mem_append, exists_or]

/-- The parts of a run that could open a file. -/
structure RunOpens (argv : List String) (wakeUps : ℕ) (exchanges : List ServiceExchange)
    (result : RunResult) (selecting : List ServiceExchange) (selected : ConfigSelection)
    (file : Option FileStream) (opened : List ServiceExchange) : Prop where
  parts : exchanges = ⟨.clearShutdownRequest, ()⟩ :: (selecting ++
    ⟨.openFile selected.path, file⟩ :: opened)
  selects : ∀ exchange ∈ selecting, ∃ path, exchange.1 = .pathExists path
  explicitPath : selected.explicitPath = (explicitConfigPath argv.tail).isSome
  continues :
    let rejected :=
      (KeyValueConfiguration.loadFromFile ⟨fun _ => none⟩ selected.path file).error.isSome
    (rejected = true ∧ selected.explicitPath = true ∧ opened = [entered .failed] ∧
        result = .returned 2) ∨
      ((rejected && selected.explicitPath) = false ∧ ∃ installing serving installed,
        opened = installing ++ serving ∧ Transcript install installing installed ∧
          (installed = false → serving = [entered .failed] ∧ result = .returned 3) ∧
          (installed = true → Transcript (runInitializing wakeUps) serving result))

theorem run_opens {serviceName : String} {argv : List String}
    (htranscript : Transcript (run serviceName argv wakeUps) exchanges result) :
    (∃ selecting, exchanges = ⟨.clearShutdownRequest, ()⟩ :: selecting ∧
        ∀ exchange ∈ selecting, ∃ path, exchange.1 = .pathExists path) ∨
      ∃ selecting selected file opened,
        RunOpens argv wakeUps exchanges result selecting selected file opened := by
  simp only [run, runSelected, clearShutdownRequest, openFile, ask_bind, done_bind,
    transcript_ask_iff] at htranscript
  obtain ⟨_, _, rfl, hrun⟩ := htranscript
  obtain ⟨selecting, later, selection, rfl, hselect, hlater⟩ := transcript_bind_iff.mp hrun
  obtain ⟨hselecting, hexplicit⟩ := selectConfigPath_selects hselect
  cases selection with
  | error thrown =>
      obtain ⟨rfl, rfl⟩ := transcript_done_iff.mp hlater
      exact .inl ⟨selecting, by rw [List.append_nil], hselecting⟩
  | ok selected =>
      obtain ⟨file, opened, rfl, hopened⟩ := transcript_ask_iff.mp hlater
      refine .inr ⟨selecting, selected, file, opened, rfl, hselecting, hexplicit selected rfl, ?_⟩
      split at hopened
      next hstopped =>
        rw [Bool.and_eq_true] at hstopped
        obtain ⟨rfl, rfl⟩ := failWith_transcript hopened
        exact .inl ⟨hstopped.1, hstopped.2, rfl, rfl⟩
      next hgoes =>
        obtain ⟨installing, serving, installed, rfl, hinstall, hserving⟩ :=
          transcript_bind_iff.mp hopened
        refine .inr ⟨Bool.eq_false_iff.mpr hgoes, installing, serving, installed, rfl, hinstall,
          ?_, ?_⟩
        · rintro rfl
          exact failWith_transcript hserving
        · rintro rfl
          exact hserving

theorem runInitializing_serves
    (htranscript : Transcript (runInitializing wakeUps) exchanges result) :
    ∀ exchange ∈ exchanges, Serves exchange :=
  (runInitializing_transcript htranscript).serves

/-- Where a run goes on, it opens no second file and asks for the handlers once. -/
theorem RunOpens.once {argv : List String} {selecting opened : List ServiceExchange}
    {selected : ConfigSelection} {file : Option FileStream}
    (hopens : RunOpens argv wakeUps exchanges result selecting selected file opened)
    {path : String} {stream : Option FileStream} (hmem : ⟨.openFile path, stream⟩ ∈ exchanges) :
    path = selected.path ∧ stream = file := by
  have hopened : ∀ exchange ∈ opened, exchange.1 ≠ .openFile path := by
    intro exchange hexchange hcall
    rcases hopens.continues with ⟨_, _, rfl, _⟩ | ⟨_, installing, serving, installed, rfl,
      hinstall, hrefused, hinitializing⟩
    · rw [List.mem_singleton.mp hexchange] at hcall
      cases hcall
    rcases List.mem_append.mp hexchange with hexchange | hexchange
    · obtain ⟨signal, hsignal⟩ := (install_installs hinstall).1 exchange hexchange
      rw [hsignal] at hcall
      cases hcall
    have hserves : Serves exchange := by
      cases installed with
      | false =>
          rw [(hrefused rfl).1] at hexchange
          rw [List.mem_singleton.mp hexchange]
          trivial
      | true => exact runInitializing_serves (hinitializing rfl) exchange hexchange
    simp only [Serves, hcall] at hserves
  rw [hopens.parts] at hmem
  rcases List.mem_cons.mp hmem with hclear | hmem
  · cases hclear
  rcases List.mem_append.mp hmem with hselecting | hmem
  · obtain ⟨other, hother⟩ := hopens.selects _ hselecting
    cases hother
  rcases List.mem_cons.mp hmem with hfile | hmem
  · cases hfile
    exact ⟨rfl, rfl⟩
  · exact absurd rfl (hopened _ hmem)

/-- The service and the handlers are asked for behind the file. -/
theorem RunOpens.mem_iff {argv : List String} {selecting opened : List ServiceExchange}
    {selected : ConfigSelection} {file : Option FileStream}
    (hopens : RunOpens argv wakeUps exchanges result selecting selected file opened)
    {exchange : ServiceExchange} (hclear : exchange.1 ≠ .clearShutdownRequest)
    (hpath : ∀ path, exchange.1 ≠ .pathExists path)
    (hfile : ∀ path, exchange.1 ≠ .openFile path) :
    exchange ∈ exchanges ↔ exchange ∈ opened := by
  rw [hopens.parts, List.mem_cons, List.mem_append, List.mem_cons]
  constructor
  · rintro (rfl | hselecting | rfl | hopened)
    · exact absurd rfl hclear
    · obtain ⟨path, hcall⟩ := hopens.selects _ hselecting
      exact absurd hcall (hpath path)
    · exact absurd rfl (hfile _)
    · exact hopened
  · intro hopened
    exact .inr (.inr (.inr hopened))

/-- A rejected configuration prevents the startup on the explicit route only; on the
other one it takes a signal handler that the kernel refuses. -/
theorem startup_prevented_iff {serviceName : String} {argv : List String}
    (htranscript : Transcript (run serviceName argv wakeUps) exchanges result)
    (hrejected : ConfigurationRejected exchanges) :
    StartupPrevented exchanges result ↔
      (explicitConfigPath argv.tail).isSome = true ∨ HandlerRefused exchanges := by
  obtain ⟨path, stream, hopen, herror⟩ := hrejected
  rcases run_opens htranscript with ⟨selecting, rfl, hselecting⟩ |
    ⟨selecting, selected, file, opened, hopens⟩
  · rcases List.mem_cons.mp hopen with hclear | hopen
    · cases hclear
    · obtain ⟨other, hother⟩ := hselecting _ hopen
      cases hother
  obtain ⟨rfl, rfl⟩ := hopens.once hopen
  have hhandler : HandlerRefused exchanges ↔ HandlerRefused opened := by
    apply exists_congr
    intro signal
    exact hopens.mem_iff (by simp) (by simp) (by simp)
  have hservice : ∀ outcome : Except Thrown Bool,
      (⟨.initializeService, outcome⟩ : ServiceExchange) ∈ exchanges ↔
        ⟨.initializeService, outcome⟩ ∈ opened :=
    fun outcome => hopens.mem_iff (by simp) (by simp) (by simp)
  rw [hhandler, ← hopens.explicitPath]
  rcases hopens.continues with ⟨_, hexplicit, rfl, rfl⟩ | ⟨hgoes, installing, serving, installed,
    rfl, hinstall, hrefused, hinitializing⟩
  · refine ⟨fun _ => .inl hexplicit, fun _ => ⟨⟨2, by decide, rfl⟩, fun outcome hmem => ?_⟩⟩
    have hfailed := List.mem_singleton.mp ((hservice outcome).mp hmem)
    cases hfailed
  have hdefault : selected.explicitPath = false := by
    have hsome := Option.isSome_iff_ne_none.mpr herror
    rwa [hsome, Bool.true_and] at hgoes
  obtain ⟨hsignals, hinstalled⟩ := install_installs hinstall
  rw [hdefault, handlerRefused_append, ← hinstalled]
  cases installed with
  | false =>
      obtain ⟨rfl, rfl⟩ := hrefused rfl
      refine ⟨fun _ => .inr (.inl rfl), fun _ => ⟨⟨3, by decide, rfl⟩, fun outcome hmem => ?_⟩⟩
      rcases List.mem_append.mp ((hservice outcome).mp hmem) with hmem | hmem
      · obtain ⟨signal, hsignal⟩ := hsignals _ hmem
        cases hsignal
      · have hfailed := List.mem_singleton.mp hmem
        cases hfailed
  | true =>
      have hserving := hinitializing rfl
      constructor
      · intro hprevented
        obtain ⟨outcome, hmem⟩ := runInitializing_initializes hserving
        exact absurd ((hservice outcome).mpr (List.mem_append_right installing hmem))
          (hprevented.uninitialized outcome)
      · rintro (hexplicit | hfalse | ⟨signal, hmem⟩)
        · cases hexplicit
        · cases hfalse
        · exact (runInitializing_serves hserving _ hmem).elim

end Transcripts

/-! ## Both routes -/

/-- The text `not valid`. -/
def invalidConfiguration : FileStream :=
  ⟨[110, 111, 116, 32, 118, 97, 108, 105, 100, 10], .endOfFile⟩

/-- With `--config`, `run` refuses it. -/
theorem named_configuration_prevents_startup :
    ∃ exchanges result, Transcript (run "svc" ["svc", "--config", "svc.conf"] 0) exchanges result ∧
      ConfigurationRejected exchanges ∧ StartupPrevented exchanges result := by
  have htranscript : Transcript (run "svc" ["svc", "--config", "svc.conf"] 0)
      [⟨.clearShutdownRequest, ()⟩, ⟨.openFile "svc.conf", some invalidConfiguration⟩,
        entered .failed] (.returned 2) := by
    repeat refine .ask _ ?_
    exact .done _
  have hrejected : ConfigurationRejected
      [⟨.clearShutdownRequest, ()⟩, ⟨.openFile "svc.conf", some invalidConfiguration⟩,
        entered .failed] :=
    ⟨"svc.conf", invalidConfiguration, by simp, by decide⟩
  exact ⟨_, _, htranscript, hrejected,
    (startup_prevented_iff htranscript hrejected).mpr (.inl rfl)⟩

/-- At the default path the service starts, runs and stops with the same text. -/
theorem default_configuration_starts :
    ¬ ∀ serviceName argv wakeUps exchanges result,
      Transcript (run serviceName argv wakeUps) exchanges result →
        ConfigurationRejected exchanges → StartupPrevented exchanges result := by
  intro hall
  have htranscript : Transcript (run "svc" ["svc"] 0)
      [⟨.clearShutdownRequest, ()⟩, ⟨.pathExists ("./config/" ++ "svc" ++ ".conf"), .ok true⟩,
        ⟨.openFile ("./config/" ++ "svc" ++ ".conf"), some invalidConfiguration⟩,
        ⟨.sigaction .SIGINT, true⟩, ⟨.sigaction .SIGTERM, true⟩, entered .initializing,
        ⟨.initializeService, .ok true⟩, entered .initialized, entered .starting,
        ⟨.startService, .ok true⟩, entered .running, checked true, checked true,
        entered .stopping, ⟨.stopService, .ok ()⟩, ⟨.deinitializeService, .ok ()⟩,
        entered .stopped] (.returned 0) := by
    repeat refine .ask _ ?_
    exact .done _
  obtain ⟨code, hcode, hreturned⟩ := (hall _ _ _ _ _ htranscript
    ⟨"./config/" ++ "svc" ++ ".conf", invalidConfiguration, by simp, by decide⟩).code
  cases hreturned
  exact hcode rfl

end ElapPlatform.Service
