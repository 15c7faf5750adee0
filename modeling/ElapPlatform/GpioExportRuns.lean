import ElapPlatform.GpioExportOwnership
import ElapPlatform.PartialMapUpdate
import ElapPlatform.TransitionRun

/-!
# Who tears an export down

Any number of pins share a sysfs root.  An instance that finds no directory for its pin
takes what it wrote to `export` for its own, also when the kernel has refused it.
-/

namespace ElapPlatform.Device

open Interaction Transition

/-- The instances by the order of their construction. -/
structure GpioSystem where
  sysfs : Sysfs
  created : ℕ
  pins : ℕ → Option GpioPin

inductive GpioAction where
  | constructs
  | opens (result : OpenResult)
  | closes
  | destroys
  deriving DecidableEq, Repr

/-- A call of an instance and what was asked in it. -/
structure GpioLabel where
  index : ℕ
  action : GpioAction
  exchanges : List MarkedExchange

namespace GpioSystem

/-- No instance so far; what is exported was exported before. -/
structure Fresh (system : GpioSystem) : Prop where
  pins : ∀ index, system.pins index = none
  foreign : ∀ path entry, system.sysfs.exports path = some entry → entry.maker = none
  removed : system.sysfs.removed = []

def replace (system : GpioSystem) (index : ℕ) (device : Option GpioPin) (sysfs : Sysfs) :
    GpioSystem :=
  { system with sysfs := sysfs, pins := Function.update system.pins index device }

def construct (system : GpioSystem) (device : GpioPin) : GpioSystem where
  sysfs := system.sysfs
  created := system.created + 1
  pins := Function.update system.pins system.created (some device)

end GpioSystem

/-- The destructor calls `close`. -/
inductive GpioStep (root : String) : GpioSystem → GpioLabel → GpioSystem → Prop
  | constructs {system : GpioSystem} (name : String) (pin : ℤ) (direction : GpioDirection) :
      GpioStep root system ⟨system.created, .constructs, []⟩
        (system.construct (GpioPin.new name pin direction root))
  | opens {system : GpioSystem} {index : ℕ} {device : GpioPin} {answer : OpenAnswer GpioPin}
      {exchanges : List MarkedExchange} {next : Sysfs} (hdevice : system.pins index = some device)
      (htranscript : Transcript device.recordedOpen exchanges answer)
      (hanswered : Answered (DeviceCall.AnswersSysfs root index) system.sysfs (asked exchanges)
        next) :
      GpioStep root system ⟨index, .opens answer.result, exchanges⟩
        (system.replace index (some answer.device) next)
  | closes {system : GpioSystem} {index : ℕ} {device after : GpioPin}
      {exchanges : List MarkedExchange} {next : Sysfs} (hdevice : system.pins index = some device)
      (htranscript : Transcript device.recordedClose exchanges after)
      (hanswered : Answered (DeviceCall.AnswersSysfs root index) system.sysfs (asked exchanges)
        next) :
      GpioStep root system ⟨index, .closes, exchanges⟩ (system.replace index (some after) next)
  | destroys {system : GpioSystem} {index : ℕ} {device after : GpioPin}
      {exchanges : List MarkedExchange} {next : Sysfs} (hdevice : system.pins index = some device)
      (htranscript : Transcript device.recordedClose exchanges after)
      (hanswered : Answered (DeviceCall.AnswersSysfs root index) system.sysfs (asked exchanges)
        next) :
      GpioStep root system ⟨index, .destroys, exchanges⟩ (system.replace index none next)

/-! ## What holds between the calls -/

namespace GpioSystem

variable {root : String} {system : GpioSystem} {index : ℕ} {device after : GpioPin} {next : Sysfs}

structure Kept (root : String) (system : GpioSystem) : Prop where
  rooted : ∀ index device, system.pins index = some device → device.gpioRoot = root
  marks : ∀ index device, system.pins index = some device → device.MarkKept system.sysfs
  unique : ∀ index other device device', system.pins index = some device →
    system.pins other = some device' → device.exportedByThisInstance = true →
    device'.exportedByThisInstance = true → device'.pinPath = device.pinPath → other = index

/-- The marked instances hold the exports of their pins, and removed no others. -/
structure Owned (system : GpioSystem) : Prop where
  held : ∀ index device, system.pins index = some device →
    device.exportedByThisInstance = true →
    system.sysfs.HeldBy device.pinPath (some index)
  removed : ∀ removal ∈ system.sysfs.removed, removal.maker = some removal.caller

section Pins

variable {other : ℕ} {new : Option GpioPin} {device' : GpioPin}

@[simp] theorem replace_pins_self : (system.replace index new next).pins index = new :=
  Function.update_self ..

theorem replace_pins_of_ne (hne : other ≠ index) :
    (system.replace index new next).pins other = system.pins other :=
  Function.update_of_ne hne ..

theorem replace_pins_cases (hpins : (system.replace index new next).pins other = some device') :
    other = index ∧ new = some device' ∨ other ≠ index ∧ system.pins other = some device' :=
  PartialMap.of_update_eq hpins

theorem construct_pins_cases (hpins : (system.construct device).pins other = some device') :
    other = system.created ∧ device = device' ∨
      other ≠ system.created ∧ system.pins other = some device' := by
  rcases PartialMap.of_update_eq hpins with ⟨hnew, hdevice⟩ | hold
  · exact .inl ⟨hnew, Option.some.inj hdevice⟩
  · exact .inr hold

end Pins

/-- A marked instance of another number has another pin, or the caller is unmarked
throughout. -/
theorem Kept.heldBy_other (hkept : system.Kept root) (hdevice : system.pins index = some device)
    (hcall : device.CallKeeps after system.sysfs next) {other : ℕ} {device' : GpioPin}
    (hother : system.pins other = some device') (hne : other ≠ index)
    (hmark : device'.exportedByThisInstance = true) {maker : Option ℕ}
    (hheld : system.sysfs.HeldBy device'.pinPath maker) :
    next.HeldBy device'.pinPath maker ∧
      (after.exportedByThisInstance = true → device'.pinPath ≠ device.pinPath) := by
  by_cases hpath : device'.pinPath = device.pinPath
  · have hunmarked : device.exportedByThisInstance = false := by
      by_contra hmarked
      exact hne (hkept.unique index other device device' hdevice hother
        (Bool.eq_true_of_not_eq_false hmarked) hmark hpath)
    rw [hpath] at hheld ⊢
    have hleaves := hcall.leaves hunmarked ⟨maker, hheld⟩
    refine ⟨hleaves.heldBy maker hheld, fun hafter => ?_⟩
    cases hleaves.unmarked.symm.trans hafter
  · refine ⟨?_, fun _ => hpath⟩
    exact (hcall.spares device'.pinPath hpath).trans hheld

theorem Kept.replace (hkept : system.Kept root) (hdevice : system.pins index = some device)
    (hcall : device.CallKeeps after system.sysfs next) :
    (system.replace index (some after) next).Kept root := by
  have hpath := hcall.samePin.pinPath
  have hapart : ∀ other device', other ≠ index → system.pins other = some device' →
      device'.exportedByThisInstance = true → next.Visible device'.pinPath ∧
        (after.exportedByThisInstance = true → device'.pinPath ≠ device.pinPath) := by
    intro other device' hne hother hmark
    obtain ⟨maker, hheld⟩ := (hkept.marks other device' hother).visible hmark
    obtain ⟨hnext, hdifferent⟩ := hkept.heldBy_other hdevice hcall hother hne hmark hheld
    exact ⟨⟨maker, hnext⟩, hdifferent⟩
  constructor
  · intro other device' hpins
    rcases replace_pins_cases hpins with ⟨rfl, hnew⟩ | ⟨hne, hold⟩
    · cases hnew
      rw [hcall.samePin.gpioRoot]
      exact hkept.rooted other device hdevice
    · exact hkept.rooted other device' hold
  · intro other device' hpins
    rcases replace_pins_cases hpins with ⟨rfl, hnew⟩ | ⟨hne, hold⟩
    · cases hnew
      exact hcall.markKept
    · exact ⟨fun hmark => (hapart other device' hne hold hmark).1,
        (hkept.marks other device' hold).natural⟩
  · intro first second device' device'' hfirst hsecond hmark hmark' hsame
    rcases replace_pins_cases hfirst with ⟨rfl, hnew⟩ | ⟨hne, hold⟩ <;>
      rcases replace_pins_cases hsecond with ⟨rfl, hnew'⟩ | ⟨hne', hold'⟩
    · rfl
    · cases hnew
      exact absurd (hsame.trans hpath) ((hapart second device'' hne' hold' hmark').2 hmark)
    · cases hnew'
      exact absurd (hsame.symm.trans hpath) ((hapart first device' hne hold hmark).2 hmark')
    · exact hkept.unique first second device' device'' hold hold' hmark hmark' hsame

theorem Owned.replace (howned : system.Owned) (hkept : system.Kept root)
    (hdevice : system.pins index = some device)
    (hcall : device.CallKeeps after system.sysfs next)
    (hheld : after.exportedByThisInstance = true → next.HeldBy device.pinPath (some index))
    (hremoves : system.sysfs.RemovesOwn index next) :
    (system.replace index (some after) next).Owned := by
  constructor
  · intro other device' hpins hmark
    rcases replace_pins_cases hpins with ⟨rfl, hnew⟩ | ⟨hne, hold⟩
    · cases hnew
      rw [hcall.samePin.pinPath]
      exact hheld hmark
    · exact (hkept.heldBy_other hdevice hcall hold hne hmark
        (howned.held other device' hold hmark)).1
  · intro removal hmem
    rcases hremoves removal hmem with hold | ⟨rfl, hmaker⟩
    · exact howned.removed removal hold
    · exact hmaker

/-! ### Leaving an instance out, and constructing one -/

/-- The pins of the one system are pins of the other, with a new one that is not
marked at most. -/
def Restricts (system other : GpioSystem) : Prop :=
  ∀ index device, system.pins index = some device → device.exportedByThisInstance = true →
    other.pins index = some device

theorem Owned.restrict {other : GpioSystem} (howned : other.Owned)
    (hrestricts : system.Restricts other) (hsysfs : system.sysfs = other.sysfs) :
    system.Owned := by
  constructor
  · intro index device hdevice hmark
    rw [hsysfs]
    exact howned.held index device (hrestricts index device hdevice hmark) hmark
  · rw [hsysfs]
    exact howned.removed

theorem Kept.restrict {other : GpioSystem} (hkept : other.Kept root)
    (hrestricts : system.Restricts other) (hsysfs : system.sysfs = other.sysfs)
    (hrooted : ∀ index device, system.pins index = some device → device.gpioRoot = root) :
    system.Kept root := by
  refine ⟨hrooted, fun index device hdevice => ?_, ?_⟩
  · rw [hsysfs]
    exact ⟨fun hmark => (hkept.marks index device
        (hrestricts index device hdevice hmark)).visible hmark,
      fun hmark => (hkept.marks index device (hrestricts index device hdevice hmark)).natural hmark⟩
  · intro index second device device' hdevice hdevice' hmark hmark'
    exact hkept.unique index second device device' (hrestricts index device hdevice hmark)
      (hrestricts second device' hdevice' hmark') hmark hmark'

theorem construct_restricts (name : String) (pin : ℤ) (direction : GpioDirection) :
    (system.construct (GpioPin.new name pin direction root)).Restricts system := by
  intro other device' hpins hmark
  rcases construct_pins_cases hpins with ⟨_, rfl⟩ | ⟨_, hold⟩
  · cases hmark
  · exact hold

theorem destroy_restricts :
    (system.replace index none next).Restricts (system.replace index (some after) next) := by
  intro other device' hpins _
  rcases replace_pins_cases hpins with ⟨_, hnew⟩ | ⟨hne, hold⟩
  · cases hnew
  · rwa [replace_pins_of_ne hne]

end GpioSystem

/-! ## What a step keeps -/

section Steps

variable {root : String} {system next : GpioSystem} {label : GpioLabel}

theorem recordedClose_effect {device after : GpioPin} {caller : ℕ} {sysfs final : Sysfs}
    {exchanges : List MarkedExchange}
    (htranscript : Transcript device.recordedClose exchanges after)
    (hanswered : Answered (DeviceCall.AnswersSysfs device.gpioRoot caller) sysfs (asked exchanges)
      final) :
    after.exportedByThisInstance = false ∧ device.CallKeeps after sysfs final ∧
      device.GivesUp caller sysfs final := by
  obtain ⟨rfl, hgives⟩ :=
    GpioPin.close_runs ((GpioPin.close_of_recorded htranscript).runs hanswered)
  exact ⟨rfl, hgives.keeps, hgives⟩

theorem GpioStep.kept (hstep : GpioStep root system label next) (hkept : system.Kept root) :
    next.Kept root := by
  cases hstep with
  | constructs name pin direction =>
      refine hkept.restrict (GpioSystem.construct_restricts name pin direction) rfl ?_
      intro other device hpins
      rcases GpioSystem.construct_pins_cases hpins with ⟨_, rfl⟩ | ⟨_, hold⟩
      · rfl
      · exact hkept.rooted other device hold
  | @opens index device _ _ _ hdevice htranscript hanswered =>
      obtain rfl := hkept.rooted index device hdevice
      have heffect := GpioPin.open_effect (GpioPin.open_of_recorded htranscript) hanswered
      exact hkept.replace hdevice (heffect.keeps (hkept.marks index device hdevice))
  | @closes index device _ _ _ hdevice htranscript hanswered =>
      obtain rfl := hkept.rooted index device hdevice
      exact hkept.replace hdevice (recordedClose_effect htranscript hanswered).2.1
  | @destroys index device _ _ _ hdevice htranscript hanswered =>
      obtain rfl := hkept.rooted index device hdevice
      have hclosed := hkept.replace hdevice (recordedClose_effect htranscript hanswered).2.1
      refine hclosed.restrict GpioSystem.destroy_restricts rfl fun other device' hpins => ?_
      rcases GpioSystem.replace_pins_cases hpins with ⟨_, hnew⟩ | ⟨_, hold⟩
      · cases hnew
      · exact hkept.rooted other device' hold

/-- Where the first lookup of `open` finds no directory, the pin is not exported. -/
def OpensClear (entry : GpioSystem × GpioLabel) : Prop :=
  ∀ device, entry.1.pins entry.2.index = some device →
    device.FindsNothing (asked entry.2.exchanges) → entry.1.sysfs.exports device.pinPath = none

theorem GpioStep.owned (hstep : GpioStep root system label next) (hkept : system.Kept root)
    (hclear : OpensClear (system, label)) (howned : system.Owned) : next.Owned := by
  cases hstep with
  | constructs name pin direction =>
      exact howned.restrict (@GpioSystem.construct_restricts root _ name pin direction) rfl
  | @opens index device _ _ _ hdevice htranscript hanswered =>
      obtain rfl := hkept.rooted index device hdevice
      have hmarks := hkept.marks index device hdevice
      have heffect := GpioPin.open_effect (GpioPin.open_of_recorded htranscript) hanswered
      obtain ⟨hheld, hremoves⟩ := heffect.owns hmarks (howned.held index device hdevice)
        (hclear device hdevice)
      exact howned.replace hkept hdevice (heffect.keeps hmarks) hheld hremoves
  | @closes index device _ _ _ hdevice htranscript hanswered =>
      obtain rfl := hkept.rooted index device hdevice
      obtain ⟨hunmarked, hcall, hgives⟩ := recordedClose_effect htranscript hanswered
      refine howned.replace hkept hdevice hcall (fun hmark => ?_)
        (hgives.removesOwn (howned.held index device hdevice))
      cases hunmarked.symm.trans hmark
  | @destroys index device _ _ _ hdevice htranscript hanswered =>
      obtain rfl := hkept.rooted index device hdevice
      obtain ⟨hunmarked, hcall, hgives⟩ := recordedClose_effect htranscript hanswered
      refine GpioSystem.Owned.restrict (howned.replace hkept hdevice hcall (fun hmark => ?_)
        (hgives.removesOwn (howned.held index device hdevice))) GpioSystem.destroy_restricts rfl
      cases hunmarked.symm.trans hmark

/-! ### In the middle of a call -/

/-- The instance is marked once these exchanges of the call have passed. -/
def MarkedDuring (entry : GpioSystem × GpioLabel) (before : List MarkedExchange) (index : ℕ)
    (device : GpioPin) : Prop :=
  entry.1.pins index = some device ∧
    (if index = entry.2.index then markAfter device.exportedByThisInstance before
      else device.exportedByThisInstance) = true

/-- At no point of the call two instances are marked for one pin. -/
def OneExporter (entry : GpioSystem × GpioLabel) : Prop :=
  ∀ before, before <+: entry.2.exchanges → ∀ index other device device',
    MarkedDuring entry before index device → MarkedDuring entry before other device' →
      device'.pin = device.pin → other = index

theorem GpioPin.FindsNothing.hides {device : GpioPin} {caller : ℕ} {sysfs final : Sysfs}
    {exchanges : List DeviceExchange} (hfinds : device.FindsNothing exchanges)
    (hanswered : Answered (DeviceCall.AnswersSysfs root caller) sysfs exchanges final) :
    sysfs.Hides device.pinPath := by
  obtain ⟨rest, rfl⟩ := List.head?_eq_some_iff.mp hfinds
  obtain ⟨middle, ⟨hhides, _⟩, _⟩ := answered_cons_iff.mp hanswered
  exact hhides

theorem mem_reported_of_passed {before exchanges : List MarkedExchange}
    (hpassed : before <+: exchanges) {mark : Bool} (hmem : mark ∈ reported before) :
    mark ∈ reported exchanges := by
  obtain ⟨rest, rfl⟩ := hpassed
  rw [reported_append]
  exact List.mem_append_left _ hmem

/-- An instance that is marked on the way was marked before, or its pin has no directory. -/
theorem GpioStep.marked_before (hstep : GpioStep root system label next) {device : GpioPin}
    (hdevice : system.pins label.index = some device) {before : List MarkedExchange}
    (hpassed : before <+: label.exchanges)
    (hmark : markAfter device.exportedByThisInstance before = true) :
    device.exportedByThisInstance = true ∨ system.sysfs.Hides device.pinPath := by
  cases hmarked : device.exportedByThisInstance with
  | true => exact .inl rfl
  | false =>
      right
      rw [hmarked] at hmark
      have hreported := mem_reported_of_passed hpassed (mem_reported_of_markAfter hmark)
      cases hstep with
      | constructs name pin direction => simp at hreported
      | opens hpins htranscript hanswered =>
          cases hpins.symm.trans hdevice
          exact ((GpioPin.recordedOpen_trace htranscript).1 hreported).hides hanswered
      | closes hpins htranscript hanswered =>
          cases hpins.symm.trans hdevice
          exact absurd hreported (GpioPin.recordedClose_trace htranscript).2.1
      | destroys hpins htranscript hanswered =>
          cases hpins.symm.trans hdevice
          exact absurd hreported (GpioPin.recordedClose_trace htranscript).2.1

theorem GpioStep.markedDuring (hstep : GpioStep root system label next)
    {before : List MarkedExchange} (hpassed : before <+: label.exchanges) {index : ℕ}
    {device : GpioPin} (hduring : MarkedDuring (system, label) before index device) :
    device.exportedByThisInstance = true ∨
      index = label.index ∧ system.sysfs.Hides device.pinPath := by
  obtain ⟨hdevice, hmark⟩ := hduring
  by_cases hindex : index = label.index
  · subst hindex
    rw [if_pos rfl] at hmark
    rcases hstep.marked_before hdevice hpassed hmark with hmarked | hhides
    · exact .inl hmarked
    · exact .inr ⟨rfl, hhides⟩
  · rw [if_neg hindex] at hmark
    exact .inl hmark

theorem GpioStep.oneExporter (hstep : GpioStep root system label next)
    (hkept : system.Kept root) : OneExporter (system, label) := by
  intro before hpassed index other device device' hfirst hsecond hpin
  have hpath : device'.pinPath = device.pinPath := by
    rw [GpioPin.pinPath, GpioPin.pinPath, hpin, hkept.rooted other device' hsecond.1,
      hkept.rooted index device hfirst.1]
  rcases hstep.markedDuring hpassed hfirst with hmark | ⟨rfl, hhides⟩ <;>
    rcases hstep.markedDuring hpassed hsecond with hmark' | ⟨rfl, hhides'⟩
  · exact hkept.unique index other device device' hfirst.1 hsecond.1 hmark hmark' hpath
  · rw [hpath] at hhides'
    exact absurd hhides' ((hkept.marks index device hfirst.1).visible hmark).not_hides
  · rw [← hpath] at hhides
    exact absurd hhides ((hkept.marks other device' hsecond.1).visible hmark').not_hides
  · rfl

theorem GpioStep.unexportsMarked (hstep : GpioStep root system label next)
    (hkept : system.Kept root) {device : GpioPin}
    (hdevice : system.pins label.index = some device) :
    UnexportsMarked root device.exportedByThisInstance label.exchanges := by
  obtain rfl := hkept.rooted label.index device hdevice
  cases hstep with
  | constructs name pin direction => exact Justified.nil
  | opens hpins htranscript _ =>
      cases hpins.symm.trans hdevice
      exact (GpioPin.recordedOpen_trace htranscript).2.writes
  | closes hpins htranscript _ =>
      cases hpins.symm.trans hdevice
      exact (GpioPin.recordedClose_trace htranscript).2.2.writes
  | destroys hpins htranscript _ =>
      cases hpins.symm.trans hdevice
      exact (GpioPin.recordedClose_trace htranscript).2.2.writes

end Steps

/-! ## Runs -/

/-- The last call of the instance. -/
def lastAction (history : History GpioSystem GpioLabel) (index : ℕ) : Option GpioAction :=
  ((history.map Prod.snd).filter (·.index = index)).getLast?.map GpioLabel.action

theorem lastAction_concat {history : History GpioSystem GpioLabel} {system : GpioSystem}
    {label : GpioLabel} {index : ℕ} :
    lastAction (history ++ [(system, label)]) index =
      if label.index = index then some label.action else lastAction history index := by
  unfold lastAction
  by_cases hindex : label.index = index <;> simp [hindex]

section Marks

variable {root : String} {start system next : GpioSystem} {label : GpioLabel}
  {history : History GpioSystem GpioLabel}

/-- The last call of a marked instance is an `open` that has returned `true`. -/
def MarkedByOpen (history : History GpioSystem GpioLabel) (system : GpioSystem) : Prop :=
  ∀ index device, system.pins index = some device → device.exportedByThisInstance = true →
    lastAction history index = some (.opens .opened)

theorem GpioStep.markedByOpen (hstep : GpioStep root system label next)
    (hkept : system.Kept root) (hmarked : MarkedByOpen history system) :
    MarkedByOpen (history ++ [(system, label)]) next := by
  have hothers : ∀ other device, other ≠ label.index → system.pins other = some device →
      device.exportedByThisInstance = true →
      lastAction (history ++ [(system, label)]) other = some (.opens .opened) := by
    intro other device hne hold hmark
    rw [lastAction_concat, if_neg (Ne.symm hne)]
    exact hmarked other device hold hmark
  intro other device' hpins hmark
  cases hstep with
  | constructs name pin direction =>
      rcases GpioSystem.construct_pins_cases hpins with ⟨_, rfl⟩ | ⟨hne, hold⟩
      · cases hmark
      · exact hothers other device' hne hold hmark
  | @opens index device answer _ _ hdevice htranscript hanswered =>
      rcases GpioSystem.replace_pins_cases hpins with ⟨rfl, hnew⟩ | ⟨hne, hold⟩
      · cases hnew
        obtain rfl := hkept.rooted other device hdevice
        have heffect := GpioPin.open_effect (GpioPin.open_of_recorded htranscript) hanswered
        obtain ⟨hopened, _⟩ := heffect.opened_of_marked (hkept.marks other device hdevice) hmark
        rw [lastAction_concat, if_pos rfl, hopened]
      · exact hothers other device' hne hold hmark
  | @closes index device _ _ _ hdevice htranscript hanswered =>
      rcases GpioSystem.replace_pins_cases hpins with ⟨rfl, hnew⟩ | ⟨hne, hold⟩
      · cases hnew
        rw [(GpioPin.recordedClose_trace htranscript).1] at hmark
        cases hmark
      · exact hothers other device' hne hold hmark
  | @destroys index device _ _ _ hdevice htranscript hanswered =>
      rcases GpioSystem.replace_pins_cases hpins with ⟨rfl, hnew⟩ | ⟨hne, hold⟩
      · cases hnew
      · exact hothers other device' hne hold hmark

/-- The mark of an exporter, between the calls and within them. -/
structure ExportMarks (root : String) (history : History GpioSystem GpioLabel)
    (system : GpioSystem) : Prop where
  one : ∀ index other device device', system.pins index = some device →
    system.pins other = some device' → device.exportedByThisInstance = true →
    device'.exportedByThisInstance = true → device'.pin = device.pin → other = index
  during : ∀ entry ∈ history, OneExporter entry
  writes : ∀ entry ∈ history, ∀ device, entry.1.pins entry.2.index = some device →
    UnexportsMarked root device.exportedByThisInstance entry.2.exchanges
  opened : MarkedByOpen history system

theorem GpioSystem.Fresh.kept (hfresh : start.Fresh) : start.Kept root := by
  have hnone : ∀ index device, start.pins index ≠ some device := by
    intro index device hdevice
    cases (hfresh.pins index).symm.trans hdevice
  exact ⟨fun index device hdevice => absurd hdevice (hnone index device),
    fun index device hdevice => absurd hdevice (hnone index device),
    fun index _ device _ hdevice => absurd hdevice (hnone index device)⟩

theorem GpioSystem.Fresh.owned (hfresh : start.Fresh) : start.Owned := by
  constructor
  · intro index device hdevice
    cases (hfresh.pins index).symm.trans hdevice
  · simp [hfresh.removed]

theorem kept_of_run (hfresh : start.Fresh) (hrun : Run (GpioStep root) start history system) :
    system.Kept root :=
  hrun.invariant (fun _ system => system.Kept root) hfresh.kept
    fun _ hkept hstep => hstep.kept hkept

theorem markedByOpen_of_run (hfresh : start.Fresh)
    (hrun : Run (GpioStep root) start history system) : MarkedByOpen history system := by
  induction hrun with
  | start =>
      intro index device hdevice
      cases (hfresh.pins index).symm.trans hdevice
  | snoc hrun hstep ih => exact hstep.markedByOpen (kept_of_run hfresh hrun) ih

theorem owned_of_run (hfresh : start.Fresh) (hrun : Run (GpioStep root) start history system)
    (hclear : ∀ entry ∈ history, OpensClear entry) : system.Owned := by
  induction hrun with
  | start => exact hfresh.owned
  | @snoc history state next label hrun hstep ih =>
      have hlast : OpensClear (state, label) :=
        hclear _ (List.mem_append_right _ List.mem_cons_self)
      exact hstep.owned (kept_of_run hfresh hrun) hlast
        (ih fun entry hmem => hclear entry (List.mem_append_left _ hmem))

theorem exportMarks_of_run (hfresh : start.Fresh)
    (hrun : Run (GpioStep root) start history system) : ExportMarks root history system := by
  have hkept := kept_of_run hfresh hrun
  refine ⟨?_, ?_, ?_, markedByOpen_of_run hfresh hrun⟩
  · intro index other device device' hdevice hdevice' hmark hmark' hpin
    refine hkept.unique index other device device' hdevice hdevice' hmark hmark' ?_
    rw [GpioPin.pinPath, GpioPin.pinPath, hpin, hkept.rooted other device' hdevice',
      hkept.rooted index device hdevice]
  · rintro ⟨state, label⟩ hmem
    obtain ⟨before, next, hbefore, hstep, _⟩ := hrun.step_of_mem hmem
    exact hstep.oneExporter (kept_of_run hfresh hbefore)
  · rintro ⟨state, label⟩ hmem device hdevice
    obtain ⟨before, next, hbefore, hstep, _⟩ := hrun.step_of_mem hmem
    exact hstep.unexportsMarked (kept_of_run hfresh hbefore) hdevice

/-- In every run the marks are right, and where no `open` misses an export that is there,
every export is torn down by the instance that made it. -/
theorem exports_torn_down_by_their_makers (hfresh : start.Fresh)
    (hrun : Run (GpioStep root) start history system) :
    ExportMarks root history system ∧
      ((∀ entry ∈ history, OpensClear entry) →
        ∀ removal ∈ system.sysfs.removed, removal.maker = some removal.caller) :=
  ⟨exportMarks_of_run hfresh hrun, fun hclear => (owned_of_run hfresh hrun hclear).removed⟩

end Marks

/-! ## What the calls can do -/

section Abilities

variable {root path value : String} {notOpened notWritten : ErrorText} {caller : ℕ}
  {sysfs next : Sysfs} {device : GpioPin} {maker : Option ℕ}

theorem writeStream_unopened :
    Runs (DeviceCall.AnswersSysfs root caller) (writeStream path value notOpened notWritten) sysfs
      (some notOpened) sysfs :=
  .answered false rfl (.done _ _)

theorem writeStream_inserted (delivered : Bool)
    (hanswer : DeviceCall.AnswersSysfs root caller sysfs (.streamClose path value) delivered next) :
    Runs (DeviceCall.AnswersSysfs root caller) (writeStream path value notOpened notWritten) sysfs
      none next :=
  .answered true rfl (.answered true rfl (.answered delivered hanswer (.done _ _)))

theorem openDirection_can :
    Runs (DeviceCall.AnswersSysfs device.gpioRoot caller) device.openDirection sysfs
      ⟨.opened, { device with state := .open }⟩ sysfs :=
  runs_bind_iff.mpr ⟨none, sysfs, writeStream_inserted false rfl, .done _ _⟩

theorem openExport_of_hides {answer : OpenAnswer GpioPin} (hpin : 0 ≤ device.pin)
    (hhides : sysfs.Hides device.pinPath)
    (hexport : Runs (DeviceCall.AnswersSysfs device.gpioRoot caller) device.openExport sysfs answer
      next) :
    Runs (DeviceCall.AnswersSysfs device.gpioRoot caller) device.open sysfs answer next := by
  unfold GpioPin.open
  rw [if_neg (not_lt.mpr hpin)]
  exact runs_bind_iff.mpr ⟨.ok false, sysfs, runs_perform_iff.mpr ⟨hhides, rfl⟩, hexport⟩

theorem waitForPath_shown (hshows : sysfs.Shows path next) :
    Runs (DeviceCall.AnswersSysfs root caller) (waitForPath path) sysfs (.ok true) next :=
  .answered (.ok true) hshows (.done _ _)

/-- The clock has passed the deadline after the first sleep. -/
theorem waitForPath_hidden (hhides : sysfs.Hides path) :
    Runs (DeviceCall.AnswersSysfs root caller) (waitForPath path) sysfs (.ok false) sysfs :=
  .answered (.ok false) ⟨hhides, rfl⟩ (.answered () rfl (.answered false rfl
    (.answered (.ok false) ⟨hhides, rfl⟩ (.done _ _))))

/-- The kernel refuses the export, and then the directory of the other one appears. -/
theorem open_can_miss (hpin : 0 ≤ device.pin)
    (hhidden : sysfs.exports device.pinPath = some ⟨maker, false⟩) :
    Runs (DeviceCall.AnswersSysfs device.gpioRoot caller) device.open sysfs
      ⟨.opened, { device.marked with state := .open }⟩
      (sysfs.insert device.pinPath ⟨maker, true⟩) := by
  have hhides : sysfs.Hides device.pinPath := by
    intro entry hentry
    cases hhidden.symm.trans hentry
    rfl
  refine openExport_of_hides hpin hhides (runs_bind_iff.mpr
    ⟨none, sysfs, writeStream_inserted false rfl, ?_⟩)
  exact runs_bind_iff.mpr ⟨.ok true, _, waitForPath_shown ⟨_, hhidden, rfl⟩,
    @openDirection_can _ _ device.marked⟩

theorem writeExport_free (hfree : sysfs.exports device.pinPath = none) (visible : Bool) :
    Runs (DeviceCall.AnswersSysfs device.gpioRoot caller)
      (device.writeControlFile "export" (toString device.pin)) sysfs none
      (sysfs.insert device.pinPath ⟨some caller, visible⟩) :=
  writeStream_inserted true (GpioPin.answersSysfs_export_iff.mpr ⟨hfree, visible, rfl⟩)

theorem hides_of_free (hfree : sysfs.exports path = none) : sysfs.Hides path := by
  intro entry hentry
  cases hfree.symm.trans hentry

theorem open_can_export (hpin : 0 ≤ device.pin) (hfree : sysfs.exports device.pinPath = none) :
    Runs (DeviceCall.AnswersSysfs device.gpioRoot caller) device.open sysfs
      ⟨.opened, { device.marked with state := .open }⟩
      ((sysfs.insert device.pinPath ⟨some caller, false⟩).insert device.pinPath
        ⟨some caller, true⟩) := by
  refine openExport_of_hides hpin (hides_of_free hfree) (runs_bind_iff.mpr
    ⟨none, _, writeExport_free hfree false, ?_⟩)
  exact runs_bind_iff.mpr ⟨.ok true, _, waitForPath_shown ⟨_, Sysfs.insert_exports_self .., rfl⟩,
    @openDirection_can _ _ device.marked⟩

/-- The directory does not appear in time, and `unexport` cannot be opened. -/
theorem open_can_leave (hpin : 0 ≤ device.pin) (hfree : sysfs.exports device.pinPath = none) :
    Runs (DeviceCall.AnswersSysfs device.gpioRoot caller) device.open sysfs
      ⟨.failed (.message "gpio export failed: pin path did not appear"),
        { device with exportedByThisInstance := false, state := .failed }⟩
      (sysfs.insert device.pinPath ⟨some caller, false⟩) := by
  have hhides : (sysfs.insert device.pinPath ⟨some caller, false⟩).Hides device.pinPath := by
    intro entry hentry
    rw [Sysfs.insert_exports_self] at hentry
    cases hentry
    rfl
  refine openExport_of_hides hpin (hides_of_free hfree) (runs_bind_iff.mpr
    ⟨none, _, writeExport_free hfree false, ?_⟩)
  refine runs_bind_iff.mpr ⟨.ok false, _, waitForPath_hidden hhides, ?_⟩
  exact runs_bind_iff.mpr ⟨_, _, runs_bind_iff.mpr ⟨_, _, writeStream_unopened, .done _ _⟩,
    .done _ _⟩

theorem close_can_unexport {entry : PinExport} (hmark : device.exportedByThisInstance = true)
    (hentry : sysfs.exports device.pinPath = some entry) :
    Runs (DeviceCall.AnswersSysfs device.gpioRoot caller) device.close sysfs
      { device with exportedByThisInstance := false, state := .closed }
      (sysfs.remove device.pinPath entry caller) := by
  unfold GpioPin.close GpioPin.unexportOwn
  rw [if_pos hmark]
  refine runs_bind_iff.mpr ⟨_, _, runs_bind_iff.mpr ⟨none, _, writeStream_inserted true
    (GpioPin.answersSysfs_unexport_iff.mpr ⟨entry, hentry, rfl⟩), .done _ _⟩, .done _ _⟩

end Abilities

section Lifting

variable {root : String} {system : GpioSystem} {index : ℕ} {device : GpioPin} {next : Sysfs}

theorem GpioStep.open_of_runs {answer : OpenAnswer GpioPin}
    (hdevice : system.pins index = some device)
    (hrun : Runs (DeviceCall.AnswersSysfs root index) device.open system.sysfs answer next) :
    ∃ exchanges, GpioStep root system ⟨index, .opens answer.result, exchanges⟩
      (system.replace index (some answer.device) next) := by
  obtain ⟨questions, htranscript, hanswered⟩ := hrun.transcript
  rw [← device.forget_open] at htranscript
  obtain ⟨exchanges, value, hrecorded, rfl, rfl⟩ := htranscript.recorded
  exact ⟨exchanges, .opens hdevice hrecorded hanswered⟩

theorem GpioStep.close_of_runs {after : GpioPin} (hdevice : system.pins index = some device)
    (hrun : Runs (DeviceCall.AnswersSysfs root index) device.close system.sysfs after next) :
    ∃ exchanges, GpioStep root system ⟨index, .closes, exchanges⟩
      (system.replace index (some after) next) := by
  obtain ⟨questions, htranscript, hanswered⟩ := hrun.transcript
  rw [← device.forget_close] at htranscript
  obtain ⟨exchanges, value, hrecorded, rfl, rfl⟩ := htranscript.recorded
  exact ⟨exchanges, .closes hdevice hrecorded hanswered⟩

/-- The condition is one on the calls of `open`. -/
theorem GpioStep.clear_of_close {exchanges : List MarkedExchange} {after : GpioSystem}
    (hstep : GpioStep root system ⟨index, .closes, exchanges⟩ after) :
    OpensClear (system, ⟨index, .closes, exchanges⟩) := by
  intro device hdevice hfinds
  cases hstep with
  | closes hpins htranscript hanswered =>
      obtain ⟨rest, hasked⟩ := List.head?_eq_some_iff.mp hfinds
      have hlooks : ⟨.pathExists device.pinPath, .ok false⟩ ∈ asked exchanges := by
        rw [hasked]
        exact List.mem_cons_self
      exact absurd hlooks (GpioPin.close_transcript (GpioPin.close_of_recorded htranscript) _ _)

end Lifting

/-! ## Two runs -/

/-- A root in which nothing is exported, and no instance yet. -/
def unexportedRoot : GpioSystem := ⟨⟨fun _ => none, []⟩, 0, fun _ => none⟩

theorem unexportedRoot_fresh : unexportedRoot.Fresh :=
  ⟨fun _ => rfl, (fun _ _ hentry => by cases hentry), rfl⟩

section Examples

variable {root name : String} {pin : ℤ} {direction : GpioDirection} {led : GpioPin}

theorem construct_led {system : GpioSystem} (hled : led = GpioPin.new name pin direction root) :
    GpioStep root system ⟨system.created, .constructs, []⟩ (system.construct led) := by
  rw [hled]
  exact .constructs name pin direction

theorem gpioRoot_led (hled : led = GpioPin.new name pin direction root) : led.gpioRoot = root := by
  rw [hled]
  rfl

/-- One instance exports its pin and closes it again. -/
theorem exporter_run (hled : led = GpioPin.new name pin direction root) (hpin : 0 ≤ led.pin) :
    ∃ history system, Run (GpioStep root) unexportedRoot history system ∧
      system.sysfs.removed = [⟨led.pinPath, some 0, 0⟩] ∧ ∀ entry ∈ history, OpensClear entry := by
  obtain rfl := gpioRoot_led hled
  have hopen := @open_can_export 0 unexportedRoot.sysfs led hpin rfl
  obtain ⟨opening, hopens⟩ :=
    @GpioStep.open_of_runs _ (unexportedRoot.construct led) 0 led _ _ rfl hopen
  have hclose := @close_can_unexport 0 _ { led.marked with state := .open } _ rfl
    (Sysfs.insert_exports_self (unexportedRoot.sysfs.insert led.pinPath ⟨some 0, false⟩)
      led.pinPath ⟨some 0, true⟩)
  obtain ⟨closing, hcloses⟩ := @GpioStep.close_of_runs _
    ((unexportedRoot.construct led).replace 0 _ _) 0 _ _ _ GpioSystem.replace_pins_self hclose
  refine ⟨_, _, ((Run.start.andThen _ (construct_led hled)).andThen _ hopens).andThen _ hcloses,
    rfl, ?_⟩
  simp only [List.nil_append, List.cons_append, List.forall_mem_cons]
  refine ⟨?_, ?_, hcloses.clear_of_close, by simp⟩
  · exact fun _ _ _ => rfl
  · exact fun _ _ _ => rfl

/-- The first instance leaves its export behind.  The second finds no directory yet, takes
the pin for its own and tears the export down. -/
theorem leftover_run (hled : led = GpioPin.new name pin direction root) (hpin : 0 ≤ led.pin) :
    ∃ history system, Run (GpioStep root) unexportedRoot history system ∧
      system.sysfs.removed = [⟨led.pinPath, some 0, 1⟩] := by
  obtain rfl := gpioRoot_led hled
  have hleave := @open_can_leave 0 unexportedRoot.sysfs led hpin rfl
  obtain ⟨failing, hfails⟩ := @GpioStep.open_of_runs _
    ((unexportedRoot.construct led).construct led) 0 led _ _ rfl hleave
  have hmiss := @open_can_miss 1 (unexportedRoot.sysfs.insert led.pinPath ⟨some 0, false⟩) led
    (some 0) hpin (Sysfs.insert_exports_self ..)
  obtain ⟨opening, hopens⟩ := @GpioStep.open_of_runs _
    (((unexportedRoot.construct led).construct led).replace 0 _ _) 1 led _ _ rfl hmiss
  have hclose := @close_can_unexport 1 _ { led.marked with state := .open } _ rfl
    (Sysfs.insert_exports_self (unexportedRoot.sysfs.insert led.pinPath ⟨some 0, false⟩)
      led.pinPath ⟨some 0, true⟩)
  obtain ⟨closing, hcloses⟩ := @GpioStep.close_of_runs _
    ((((unexportedRoot.construct led).construct led).replace 0 _ _).replace 1 _ _) 1 _ _ _
      GpioSystem.replace_pins_self hclose
  exact ⟨_, _, ((((Run.start.andThen _ (construct_led hled)).andThen _
    (construct_led hled)).andThen _ hfails).andThen _ hopens).andThen _ hcloses, rfl⟩

end Examples

def statusLed : GpioPin := GpioPin.new "status_led" 17 .out "/sys/class/gpio"

theorem exporter_tears_down_its_export : ∃ history system,
    Run (GpioStep "/sys/class/gpio") unexportedRoot history system ∧
      system.sysfs.removed = [⟨statusLed.pinPath, some 0, 0⟩] ∧
      ExportMarks "/sys/class/gpio" history system ∧
      ∀ removal ∈ system.sysfs.removed, removal.maker = some removal.caller := by
  obtain ⟨history, system, hrun, hremoved, hclear⟩ :=
    @exporter_run _ _ _ _ statusLed rfl (by decide)
  obtain ⟨hmarks, howned⟩ := exports_torn_down_by_their_makers unexportedRoot_fresh hrun
  exact ⟨history, system, hrun, hremoved, hmarks, howned hclear⟩

theorem leftover_export_torn_down_by_another :
    ¬ ∀ root start history system, start.Fresh → Run (GpioStep root) start history system →
      ∀ removal ∈ system.sysfs.removed, removal.maker = some removal.caller := by
  intro hall
  obtain ⟨history, system, hrun, hremoved⟩ :=
    @leftover_run _ _ _ _ statusLed rfl (by decide)
  have hmakers := hall _ _ history system unexportedRoot_fresh hrun
  rw [hremoved] at hmakers
  simp at hmakers

end ElapPlatform.Device
