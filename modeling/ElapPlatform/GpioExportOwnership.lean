import ElapPlatform.GpioExportMarks

/-!
# What a call does to the exports

A call leaves the exports of the other pins alone, and that of its own pin where it is
visible and another instance is marked.  What it takes for its own is its own if a
missing directory means that the pin is not exported.
-/

namespace ElapPlatform.Device

open Interaction

/-! ## The exports of one pin -/

namespace Sysfs

variable {sysfs next middle : Sysfs} {path : String} {caller : ℕ} {maker : Option ℕ}
  {entry : PinExport}

/-- The export is visible, and this is who made it. -/
def HeldBy (sysfs : Sysfs) (path : String) (maker : Option ℕ) : Prop :=
  sysfs.exports path = some ⟨maker, true⟩

def Visible (sysfs : Sysfs) (path : String) : Prop := ∃ maker, sysfs.HeldBy path maker

theorem Visible.not_hides (hvisible : sysfs.Visible path) : ¬ sysfs.Hides path := by
  obtain ⟨maker, hentry⟩ := hvisible
  intro hhides
  cases hhides _ hentry

/-- Only removals of the caller's own export have come to the log. -/
def RemovesOwn (sysfs : Sysfs) (caller : ℕ) (next : Sysfs) : Prop :=
  ∀ removal ∈ next.removed, removal ∈ sysfs.removed ∨
    removal.caller = caller ∧ removal.maker = some caller

theorem RemovesOwn.of_eq (hsame : next.removed = sysfs.removed) :
    sysfs.RemovesOwn caller next :=
  fun removal hmem => .inl (by rwa [hsame] at hmem)

theorem RemovesOwn.of_removed (hsame : middle.removed = sysfs.removed)
    (hremoves : middle.RemovesOwn caller next) : sysfs.RemovesOwn caller next := by
  intro removal hmem
  rw [← hsame]
  exact hremoves removal hmem

/-- The exports of the other pins stay. -/
def Spares (sysfs : Sysfs) (path : String) (next : Sysfs) : Prop :=
  ∀ other, other ≠ path → next.exports other = sysfs.exports other

theorem Spares.refl (sysfs : Sysfs) (path : String) : sysfs.Spares path sysfs := fun _ _ => rfl

theorem Spares.trans (hfirst : sysfs.Spares path middle) (hsecond : middle.Spares path next) :
    sysfs.Spares path next :=
  fun other hother => (hsecond other hother).trans (hfirst other hother)

theorem spares_insert : sysfs.Spares path (sysfs.insert path entry) :=
  fun _ hother => Function.update_of_ne hother ..

theorem spares_remove : sysfs.Spares path (sysfs.remove path entry caller) :=
  fun _ hother => Function.update_of_ne hother ..

/-! ### A lookup that succeeds -/

theorem Shows.spares (hshows : sysfs.Shows path next) : sysfs.Spares path next := by
  obtain ⟨entry, _, rfl⟩ := hshows
  exact spares_insert

theorem Shows.heldBy_of_maker (hshows : sysfs.Shows path next)
    (hmaker : ∀ entry, sysfs.exports path = some entry → entry.maker = maker) :
    next.HeldBy path maker := by
  obtain ⟨entry, hentry, rfl⟩ := hshows
  rw [← hmaker entry hentry]
  exact insert_exports_self ..

theorem Shows.heldBy (hshows : sysfs.Shows path next) (hheld : sysfs.HeldBy path maker) :
    next.HeldBy path maker := by
  refine hshows.heldBy_of_maker fun entry hentry => ?_
  cases hentry.symm.trans hheld
  rfl

theorem Shows.visible (hshows : sysfs.Shows path next) : next.Visible path := by
  obtain ⟨entry, _, rfl⟩ := hshows
  exact ⟨entry.maker, insert_exports_self ..⟩

theorem Shows.removed (hshows : sysfs.Shows path next) : next.removed = sysfs.removed := by
  obtain ⟨entry, _, rfl⟩ := hshows
  rfl

/-! ### Writes to the control files -/

theorem Exports.spares (hexports : sysfs.Exports path caller next) : sysfs.Spares path next := by
  rcases hexports with rfl | ⟨_, visible, rfl⟩
  · exact .refl next path
  · exact spares_insert

theorem Exports.removed (hexports : sysfs.Exports path caller next) :
    next.removed = sysfs.removed := by
  rcases hexports with rfl | ⟨_, visible, rfl⟩ <;> rfl

/-- A pin that was not exported is now exported by the caller, if at all. -/
theorem Exports.made (hexports : sysfs.Exports path caller next)
    (hfree : sysfs.exports path = none) :
    ∀ entry, next.exports path = some entry → entry.maker = some caller := by
  intro entry hentry
  rcases hexports with rfl | ⟨_, visible, rfl⟩
  · cases hfree.symm.trans hentry
  · rw [insert_exports_self] at hentry
    cases hentry
    rfl

theorem Unexports.spares (hunexports : sysfs.Unexports path caller next) :
    sysfs.Spares path next := by
  rcases hunexports with rfl | ⟨entry, _, rfl⟩
  · exact .refl next path
  · exact spares_remove

theorem Unexports.removesOwn (hunexports : sysfs.Unexports path caller next)
    (hmaker : ∀ entry, sysfs.exports path = some entry → entry.maker = some caller) :
    sysfs.RemovesOwn caller next := by
  rcases hunexports with rfl | ⟨entry, hentry, rfl⟩
  · exact .of_eq rfl
  · intro removal hmem
    rcases List.mem_append.mp hmem with hold | hnew
    · exact .inl hold
    · rw [List.mem_singleton.mp hnew]
      exact .inr ⟨rfl, hmaker entry hentry⟩

end Sysfs

/-! ## What a call does to its pin and to the others -/

namespace GpioPin

variable {device : GpioPin} {caller : ℕ} {sysfs next : Sysfs} {maker : Option ℕ}
  {answer : OpenAnswer GpioPin} {exchanges : List DeviceExchange}

/-- The pin is the same, and its root. -/
structure SamePin (device after : GpioPin) : Prop where
  pin : after.pin = device.pin
  gpioRoot : after.gpioRoot = device.gpioRoot

theorem SamePin.pinPath {after : GpioPin} (hsame : device.SamePin after) :
    after.pinPath = device.pinPath := by
  rw [GpioPin.pinPath, GpioPin.pinPath, hsame.pin, hsame.gpioRoot]

/-- What an instance without the mark leaves alone where the export is visible. -/
structure LeavesExport (device : GpioPin) (sysfs : Sysfs) (after : GpioPin) (next : Sysfs) :
    Prop where
  unmarked : after.exportedByThisInstance = false
  heldBy : ∀ maker, sysfs.HeldBy device.pinPath maker → next.HeldBy device.pinPath maker

namespace GivesUp

theorem spares (hgives : device.GivesUp caller sysfs next) : sysfs.Spares device.pinPath next := by
  cases hgives with
  | unmarked _ => exact .refl sysfs device.pinPath
  | marked _ hunexports => exact hunexports.spares

theorem unchanged (hgives : device.GivesUp caller sysfs next)
    (hmark : device.exportedByThisInstance = false) : next = sysfs := by
  cases hgives with
  | unmarked _ => rfl
  | marked hmarked _ => cases hmark.symm.trans hmarked

theorem removesOwn (hgives : device.GivesUp caller sysfs next)
    (hown : device.exportedByThisInstance = true → sysfs.HeldBy device.pinPath (some caller)) :
    sysfs.RemovesOwn caller next := by
  cases hgives with
  | unmarked _ => exact .of_eq rfl
  | marked hmarked hunexports =>
      refine hunexports.removesOwn fun entry hentry => ?_
      cases hentry.symm.trans (hown hmarked)
      rfl

end GivesUp

namespace Directed

theorem samePin (hdirected : device.Directed caller sysfs answer next) :
    device.SamePin answer.device := by
  cases hdirected <;> exact ⟨rfl, rfl⟩

theorem spares (hdirected : device.Directed caller sysfs answer next) :
    sysfs.Spares device.pinPath next := by
  cases hdirected with
  | opened => exact .refl sysfs device.pinPath
  | failed hgives => exact hgives.spares

theorem unchanged (hdirected : device.Directed caller sysfs answer next)
    (hmark : device.exportedByThisInstance = false) :
    answer.device.exportedByThisInstance = false ∧ next = sysfs := by
  cases hdirected with
  | opened => exact ⟨hmark, rfl⟩
  | failed hgives => exact ⟨rfl, hgives.unchanged hmark⟩

/-- An instance that is marked at the end has opened its pin. -/
theorem opened_of_marked (hdirected : device.Directed caller sysfs answer next)
    (hmark : answer.device.exportedByThisInstance = true) :
    answer.result = .opened ∧ next = sysfs ∧ device.exportedByThisInstance = true := by
  cases hdirected with
  | opened => exact ⟨rfl, rfl, hmark⟩
  | failed _ => cases hmark

theorem removesOwn (hdirected : device.Directed caller sysfs answer next)
    (hown : device.exportedByThisInstance = true → sysfs.HeldBy device.pinPath (some caller)) :
    sysfs.RemovesOwn caller next := by
  cases hdirected with
  | opened => exact .of_eq rfl
  | failed hgives => exact hgives.removesOwn hown

end Directed

namespace ExportEffect

theorem samePin (heffect : device.ExportEffect caller sysfs answer next) :
    device.SamePin answer.device := by
  cases heffect with
  | notWritten _ => exact ⟨rfl, rfl⟩
  | appeared _ _ hdirected => exact ⟨hdirected.samePin.pin, hdirected.samePin.gpioRoot⟩
  | late _ _ => exact ⟨rfl, rfl⟩

theorem spares (heffect : device.ExportEffect caller sysfs answer next) :
    sysfs.Spares device.pinPath next := by
  cases heffect with
  | notWritten hexports => exact hexports.spares
  | appeared hexports hshows hdirected =>
      exact (hexports.spares.trans hshows.spares).trans hdirected.spares
  | late hexports hunexports => exact hexports.spares.trans hunexports.spares

theorem opened_of_marked (heffect : device.ExportEffect caller sysfs answer next)
    (hunmarked : device.exportedByThisInstance = false)
    (hmark : answer.device.exportedByThisInstance = true) :
    answer.result = .opened ∧ next.Visible device.pinPath := by
  cases heffect with
  | notWritten _ => cases hunmarked.symm.trans hmark
  | appeared _ hshows hdirected =>
      obtain ⟨hopened, rfl, _⟩ := hdirected.opened_of_marked hmark
      exact ⟨hopened, hshows.visible⟩
  | late _ _ => cases hmark

/-- Where the pin was not exported, the export is the caller's own. -/
theorem owns (heffect : device.ExportEffect caller sysfs answer next)
    (hunmarked : device.exportedByThisInstance = false)
    (hfree : sysfs.exports device.pinPath = none) :
    (answer.device.exportedByThisInstance = true → next.HeldBy device.pinPath (some caller)) ∧
      sysfs.RemovesOwn caller next := by
  cases heffect with
  | notWritten hexports =>
      refine ⟨fun hmark => ?_, .of_eq hexports.removed⟩
      cases hunmarked.symm.trans hmark
  | appeared hexports hshows hdirected =>
      have hheld := hshows.heldBy_of_maker (hexports.made hfree)
      constructor
      · intro hmark
        obtain ⟨_, rfl, _⟩ := hdirected.opened_of_marked hmark
        exact hheld
      · exact ((hdirected.removesOwn fun _ => hheld).of_removed hshows.removed).of_removed
          hexports.removed
  | late hexports hunexports =>
      refine ⟨(fun hmark => by cases hmark), ?_⟩
      exact (hunexports.removesOwn (hexports.made hfree)).of_removed hexports.removed

end ExportEffect

/-- What holds of an instance with the mark between its calls. -/
structure MarkKept (device : GpioPin) (sysfs : Sysfs) : Prop where
  visible : device.exportedByThisInstance = true → sysfs.Visible device.pinPath
  natural : device.exportedByThisInstance = true → 0 ≤ device.pin

theorem MarkKept.unmarked_of_hides (hkept : device.MarkKept sysfs)
    (hhides : sysfs.Hides device.pinPath) : device.exportedByThisInstance = false := by
  by_contra hmark
  exact (hkept.visible (Bool.eq_true_of_not_eq_false hmark)).not_hides hhides

/-- What any call keeps. -/
structure CallKeeps (device after : GpioPin) (sysfs next : Sysfs) : Prop where
  samePin : device.SamePin after
  spares : sysfs.Spares device.pinPath next
  leaves : device.exportedByThisInstance = false → sysfs.Visible device.pinPath →
    device.LeavesExport sysfs after next
  markKept : after.MarkKept next

theorem GivesUp.keeps (hgives : device.GivesUp caller sysfs next) :
    device.CallKeeps { device with exportedByThisInstance := false, state := .closed }
      sysfs next where
  samePin := ⟨rfl, rfl⟩
  spares := hgives.spares
  leaves hmark _ := ⟨rfl, fun maker hheld => by rwa [hgives.unchanged hmark]⟩
  markKept := ⟨(fun hmark => by cases hmark), (fun hmark => by cases hmark)⟩

namespace OpenEffect

theorem opened_of_marked (heffect : device.OpenEffect caller sysfs exchanges answer next)
    (hkept : device.MarkKept sysfs) (hmark : answer.device.exportedByThisInstance = true) :
    answer.result = .opened ∧ next.Visible device.pinPath ∧ 0 ≤ device.pin := by
  cases heffect with
  | negative hpin => exact absurd hpin (not_lt.mpr (hkept.natural hmark))
  | shown hpin hshows hdirected =>
      obtain ⟨hopened, rfl, _⟩ := hdirected.opened_of_marked hmark
      exact ⟨hopened, hshows.visible, hpin⟩
  | exported hpin _ hhides heffect =>
      obtain ⟨hopened, hvisible⟩ :=
        heffect.opened_of_marked (hkept.unmarked_of_hides hhides) hmark
      exact ⟨hopened, hvisible, hpin⟩

theorem samePin (heffect : device.OpenEffect caller sysfs exchanges answer next) :
    device.SamePin answer.device := by
  cases heffect with
  | negative _ => exact ⟨rfl, rfl⟩
  | shown _ _ hdirected => exact hdirected.samePin
  | exported _ _ _ heffect => exact heffect.samePin

theorem keeps (heffect : device.OpenEffect caller sysfs exchanges answer next)
    (hkept : device.MarkKept sysfs) : device.CallKeeps answer.device sysfs next where
  samePin := heffect.samePin
  spares := by
    cases heffect with
    | negative _ => exact .refl sysfs device.pinPath
    | shown _ hshows hdirected => exact hshows.spares.trans hdirected.spares
    | exported _ _ _ heffect => exact heffect.spares
  leaves hmark hvisible := by
    cases heffect with
    | negative _ => exact ⟨hmark, fun _ hheld => hheld⟩
    | shown _ hshows hdirected =>
        obtain ⟨hunmarked, rfl⟩ := hdirected.unchanged hmark
        exact ⟨hunmarked, fun _ hheld => hshows.heldBy hheld⟩
    | exported _ _ hhides _ => exact absurd hhides hvisible.not_hides
  markKept := by
    constructor
    · intro hmark
      rw [heffect.samePin.pinPath]
      exact (heffect.opened_of_marked hkept hmark).2.1
    · intro hmark
      rw [heffect.samePin.pin]
      exact (heffect.opened_of_marked hkept hmark).2.2

/-- Where a missing directory means that the pin is not exported, `open` deals with the
caller's own exports only. -/
theorem owns (heffect : device.OpenEffect caller sysfs exchanges answer next)
    (hkept : device.MarkKept sysfs)
    (hown : device.exportedByThisInstance = true → sysfs.HeldBy device.pinPath (some caller))
    (hclear : device.FindsNothing exchanges → sysfs.exports device.pinPath = none) :
    (answer.device.exportedByThisInstance = true → next.HeldBy device.pinPath (some caller)) ∧
      sysfs.RemovesOwn caller next := by
  cases heffect with
  | negative _ => exact ⟨hown, .of_eq rfl⟩
  | shown _ hshows hdirected =>
      have hheld := fun hmark => hshows.heldBy (hown hmark)
      constructor
      · intro hmark
        obtain ⟨_, rfl, hmarked⟩ := hdirected.opened_of_marked hmark
        exact hheld hmarked
      · exact (hdirected.removesOwn hheld).of_removed hshows.removed
  | exported _ hfinds hhides heffect =>
      exact heffect.owns (hkept.unmarked_of_hides hhides) (hclear hfinds)

end OpenEffect

end GpioPin

end ElapPlatform.Device
