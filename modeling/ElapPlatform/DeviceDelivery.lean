import ElapPlatform.DeviceLifecycle

/-!
# Delivery of the texts that a pin writes

A stream keeps a short text in its buffer.  The file gets it when the stream is
destroyed, and by then the helper has already decided what to return.
-/

namespace ElapPlatform.Device

open Interaction Interaction.Program

/-- The two calls of a pin that report success. -/
inductive PinCall where
  | «open»
  | writeValue (high : Bool)
  deriving DecidableEq, Repr

namespace GpioPin

/-- Whether the call returns `true`. -/
def succeeds (device : GpioPin) : PinCall → DeviceProgram Bool
  | .open => do
      let answer ← device.open
      return answer.result = .opened
  | .writeValue high => do
      let error ← device.writeValue high
      return error.isNone

/-- The texts that the files of the pin must have taken for the call to have done its work. -/
inductive Needs (device : GpioPin) (exchanges : List DeviceExchange) :
    PinCall → String → String → Prop
  | export (habsent : ⟨.pathExists device.pinPath, .ok false⟩ ∈ exchanges) :
      Needs device exchanges .open (device.gpioRoot ++ "/" ++ "export") (toString device.pin)
  | direction :
      Needs device exchanges .open (device.pinPath ++ "/" ++ "direction")
        (toSysfsDirection device.direction)
  | value (high : Bool) :
      Needs device exchanges (.writeValue high) (device.pinPath ++ "/" ++ "value")
        (if high then "1" else "0")

end GpioPin

/-- The file took the text when the stream delivered it. -/
def Accepted (exchanges : List DeviceExchange) (path text : String) : Prop :=
  ⟨.streamClose path text, true⟩ ∈ exchanges

def Lost (exchanges : List DeviceExchange) : Prop :=
  ∃ path text, ⟨.streamClose path text, false⟩ ∈ exchanges

/-- Every stream opens its file and takes its text into the buffer. -/
structure StreamsWork (exchanges : List DeviceExchange) : Prop where
  opens : ∀ path, ⟨.streamOpen path, false⟩ ∉ exchanges
  inserts : ∀ path text, ⟨.streamInsert path text, false⟩ ∉ exchanges

/-- But for the delivery, nothing stands in the way of the call. -/
def GpioPin.Unhindered (device : GpioPin) (exchanges : List DeviceExchange) : PinCall → Prop
  | .open => ⟨.pathExists device.pinPath, .ok true⟩ ∈ exchanges ∧ StreamsWork exchanges
  | .writeValue _ => device.state = .open ∧ device.direction = .out ∧ StreamsWork exchanges

/-! ## What a call delivers -/

section Deliveries

/-- The texts that streams were destroyed with, and whether they arrived. -/
def deliveryOf : DeviceExchange → Option ((String × String) × Bool)
  | ⟨.streamClose path text, delivered⟩ => some ((path, text), delivered)
  | _ => none

def deliveries (exchanges : List DeviceExchange) : List ((String × String) × Bool) :=
  exchanges.filterMap deliveryOf

variable {exchanges earlier later : List DeviceExchange}

@[simp] theorem deliveries_append :
    deliveries (earlier ++ later) = deliveries earlier ++ deliveries later :=
  List.filterMap_append

theorem mem_deliveries_iff {path text : String} {delivered : Bool} :
    ((path, text), delivered) ∈ deliveries exchanges ↔
      ⟨.streamClose path text, delivered⟩ ∈ exchanges := by
  unfold deliveries
  rw [List.mem_filterMap]
  constructor
  · rintro ⟨⟨call, reply⟩, hmem, hdelivery⟩
    cases call <;> simp [deliveryOf] at hdelivery
    obtain ⟨⟨rfl, rfl⟩, rfl⟩ := hdelivery
    exact hmem
  · intro hmem
    exact ⟨_, hmem, rfl⟩

theorem streamsWork_append :
    StreamsWork (earlier ++ later) ↔ StreamsWork earlier ∧ StreamsWork later := by
  constructor
  · intro hwork
    exact ⟨⟨fun path hmem => hwork.opens path (List.mem_append_left _ hmem),
        fun path text hmem => hwork.inserts path text (List.mem_append_left _ hmem)⟩,
      ⟨fun path hmem => hwork.opens path (List.mem_append_right _ hmem),
        fun path text hmem => hwork.inserts path text (List.mem_append_right _ hmem)⟩⟩
  · rintro ⟨hearlier, hlater⟩
    constructor
    · intro path hmem
      rcases List.mem_append.mp hmem with hmem | hmem
      · exact hearlier.opens path hmem
      · exact hlater.opens path hmem
    · intro path text hmem
      rcases List.mem_append.mp hmem with hmem | hmem
      · exact hearlier.inserts path text hmem
      · exact hlater.inserts path text hmem

/-- The helper finds no error where the stream works, and it delivers once. -/
theorem writeStream_transcript {path value : String} {notOpened notWritten : ErrorText}
    {error : Option ErrorText}
    (htranscript : Transcript (writeStream path value notOpened notWritten) exchanges error) :
    (∀ found reply, ⟨.pathExists found, reply⟩ ∉ exchanges) ∧
      (error = none ↔ StreamsWork exchanges) ∧
        (error = none → ∃ delivered, deliveries exchanges = [((path, value), delivered)]) := by
  simp only [writeStream, streamOpen, ask_bind, done_bind, transcript_ask_iff] at htranscript
  obtain ⟨opened, _, rfl, hopened⟩ := htranscript
  cases opened with
  | false =>
      obtain ⟨rfl, rfl⟩ := transcript_done_iff.mp hopened
      refine ⟨by simp, ⟨(fun herror => by cases herror), fun hwork => ?_⟩,
        (fun herror => by cases herror)⟩
      exact absurd List.mem_cons_self (hwork.opens path)
  | true =>
      obtain ⟨inserted, _, rfl, hinserted⟩ := transcript_ask_iff.mp hopened
      obtain ⟨delivered, _, rfl, hdone⟩ := transcript_ask_iff.mp hinserted
      obtain ⟨rfl, rfl⟩ := transcript_done_iff.mp hdone
      refine ⟨by simp, ?_, fun _ => ⟨delivered, rfl⟩⟩
      cases inserted with
      | false =>
          refine ⟨(fun herror => by cases herror), fun hwork => ?_⟩
          exact absurd (List.mem_cons_of_mem _ List.mem_cons_self) (hwork.inserts path value)
      | true => exact ⟨fun _ => ⟨by simp, by simp⟩, fun _ => rfl⟩

/-- What `waitForPath` asks. -/
def Watches (exchange : DeviceExchange) : Prop :=
  match exchange.1 with
  | .pathExists _ => True
  | .sleepFor _ => True
  | .beforeDeadline => True
  | _ => False

theorem streamsWork_of_watches (hwatches : ∀ exchange ∈ exchanges, Watches exchange) :
    StreamsWork exchanges :=
  ⟨fun _ hmem => hwatches _ hmem, fun _ _ hmem => hwatches _ hmem⟩

theorem deliveries_of_watches (hwatches : ∀ exchange ∈ exchanges, Watches exchange) :
    deliveries exchanges = [] := by
  apply List.filterMap_eq_nil_iff.mpr
  rintro ⟨call, reply⟩ hmem
  have hcall := hwatches _ hmem
  cases call <;> first | rfl | exact hcall.elim

theorem waitRounds_transcript {path : String} {rounds : ℕ} {result : SystemResult Bool}
    (htranscript : Transcript (waitRounds path rounds) exchanges result) :
    (∀ exchange ∈ exchanges, Watches exchange) ∧
      (result = .ok true ↔ ⟨.pathExists path, .ok true⟩ ∈ exchanges) := by
  have hlook : ∀ {exchanges result}, Transcript (pathExists path) exchanges result →
      (∀ exchange ∈ exchanges, Watches exchange) ∧
        (result = .ok true ↔ ⟨.pathExists path, .ok true⟩ ∈ exchanges) := by
    intro exchanges result hlast
    obtain rfl := transcript_perform_iff.mp hlast
    constructor
    · intro exchange hmem
      rw [List.mem_singleton.mp hmem]
      trivial
    · simp [eq_comm]
  induction rounds generalizing exchanges with
  | zero => exact hlook htranscript
  | succ rounds ih =>
      simp only [waitRounds, pathExists, ask_bind, done_bind, transcript_ask_iff] at htranscript
      obtain ⟨found, rest, rfl, hrest⟩ := htranscript
      rcases found with errno | _ | _
      · obtain ⟨rfl, rfl⟩ := transcript_done_iff.mp hrest
        simp [Watches]
      · simp only [sleepFor, beforeDeadline, ask_bind, done_bind, transcript_ask_iff] at hrest
        obtain ⟨_, _, rfl, before, rest, rfl, hrest⟩ := hrest
        have hlater : (∀ exchange ∈ rest, Watches exchange) ∧
            (result = .ok true ↔ ⟨.pathExists path, .ok true⟩ ∈ rest) := by
          cases before with
          | true => exact ih hrest
          | false => exact hlook hrest
        simpa [Watches] using hlater
      · obtain ⟨rfl, rfl⟩ := transcript_done_iff.mp hrest
        simp [Watches]

end Deliveries

namespace GpioPin

variable {device : GpioPin} {exchanges : List DeviceExchange} {answer : OpenAnswer GpioPin}

/-- A file of the pin and the text for it. -/
def directionText (device : GpioPin) : String × String :=
  (device.pinPath ++ "/" ++ "direction", toSysfsDirection device.direction)

def exportText (device : GpioPin) : String × String :=
  (device.gpioRoot ++ "/" ++ "export", toString device.pin)

theorem openDirection_transcript
    (htranscript : Transcript device.openDirection exchanges answer) :
    (answer.result = .opened ↔ StreamsWork exchanges) ∧
      (answer.result = .opened →
        (∀ path reply, ⟨.pathExists path, reply⟩ ∉ exchanges) ∧
          ∃ delivered, deliveries exchanges = [(device.directionText, delivered)]) := by
  unfold openDirection at htranscript
  obtain ⟨writing, rest, written, rfl, hwriting, hrest⟩ := transcript_bind_iff.mp htranscript
  obtain ⟨hpath, hwork, hdelivered⟩ := writeStream_transcript hwriting
  cases written with
  | none =>
      obtain ⟨rfl, rfl⟩ := transcript_done_iff.mp hrest
      rw [List.append_nil]
      exact ⟨⟨fun _ => hwork.mp rfl, fun _ => rfl⟩, fun _ => ⟨hpath, hdelivered rfl⟩⟩
  | some error =>
      obtain ⟨second, _, unexported, rfl, _, hdone⟩ := transcript_bind_iff.mp hrest
      obtain ⟨_, rfl⟩ := transcript_done_iff.mp hdone
      refine ⟨⟨(fun hopened => by cases hopened), fun hworks => ?_⟩,
        (fun hopened => by cases hopened)⟩
      cases hwork.mpr (streamsWork_append.mp hworks).1

theorem unexport_transcript {after : GpioPin}
    (htranscript : Transcript device.unexport exchanges after) :
    ∀ path reply, ⟨.pathExists path, reply⟩ ∉ exchanges := by
  unfold unexport at htranscript
  obtain ⟨writing, _, written, rfl, hwriting, hdone⟩ := transcript_bind_iff.mp htranscript
  obtain ⟨rfl, rfl⟩ := transcript_done_iff.mp hdone
  rw [List.append_nil]
  exact (writeStream_transcript hwriting).1

theorem close_transcript {after : GpioPin} (htranscript : Transcript device.close exchanges after) :
    ∀ path reply, ⟨.pathExists path, reply⟩ ∉ exchanges := by
  unfold GpioPin.close unexportOwn at htranscript
  obtain ⟨first, _, closed, rfl, hunexport, hdone⟩ := transcript_bind_iff.mp htranscript
  obtain ⟨rfl, rfl⟩ := transcript_done_iff.mp hdone
  rw [List.append_nil]
  split at hunexport
  · exact unexport_transcript hunexport
  · obtain ⟨rfl, rfl⟩ := transcript_done_iff.mp hunexport
    simp

theorem openExport_transcript (htranscript : Transcript device.openExport exchanges answer) :
    (answer.result = .opened ↔
        ⟨.pathExists device.pinPath, .ok true⟩ ∈ exchanges ∧ StreamsWork exchanges) ∧
      (answer.result = .opened → ∃ exported delivered, deliveries exchanges =
        [(device.exportText, exported), (device.directionText, delivered)]) := by
  unfold openExport at htranscript
  obtain ⟨writing, rest, written, rfl, hwriting, hrest⟩ := transcript_bind_iff.mp htranscript
  obtain ⟨hunseen, hwork, hexported⟩ := writeStream_transcript hwriting
  cases written with
  | some error =>
      obtain ⟨rfl, rfl⟩ := transcript_done_iff.mp hrest
      refine ⟨⟨(fun hopened => by cases hopened), fun hworks => ?_⟩,
        (fun hopened => by cases hopened)⟩
      cases hwork.mpr (streamsWork_append.mp hworks.2).1
  | none =>
      obtain ⟨exported, hexported⟩ := hexported rfl
      obtain ⟨waits, opening, found, rfl, hwaits, hopening⟩ := transcript_bind_iff.mp hrest
      obtain ⟨hwatches, hfound⟩ := waitRounds_transcript hwaits
      have hvisible : found = .ok true ↔
          ⟨.pathExists device.pinPath, .ok true⟩ ∈ writing ++ waits := by
        rw [List.mem_append, hfound]
        exact ⟨.inr, fun hmem => hmem.resolve_left (hunseen _ _)⟩
      rw [← List.append_assoc, deliveries_append, deliveries_append, hexported,
        deliveries_of_watches hwatches]
      rcases found with errno | _ | _
      · obtain ⟨rfl, rfl⟩ := transcript_done_iff.mp hopening
        refine ⟨⟨(fun hopened => by cases hopened), fun hworks => ?_⟩,
          (fun hopened => by cases hopened)⟩
        rw [List.append_nil, ← hvisible] at hworks
        cases hworks.1
      · obtain ⟨unexporting, _, after, rfl, hunexport, hdone⟩ := transcript_bind_iff.mp hopening
        obtain ⟨rfl, rfl⟩ := transcript_done_iff.mp hdone
        refine ⟨⟨(fun hopened => by cases hopened), fun hworks => ?_⟩,
          (fun hopened => by cases hopened)⟩
        rcases List.mem_append.mp hworks.1 with hmem | hmem
        · cases hvisible.mpr hmem
        · rw [List.append_nil] at hmem
          exact absurd hmem (unexport_transcript hunexport _ _)
      · obtain ⟨hopened, hdirection⟩ := openDirection_transcript hopening
        constructor
        · rw [hopened, streamsWork_append, streamsWork_append]
          refine ⟨fun hworks => ⟨List.mem_append_left _ (hvisible.mp rfl), ⟨hwork.mp rfl,
            streamsWork_of_watches hwatches⟩, hworks⟩, fun hworks => hworks.2.2⟩
        · intro hopened
          obtain ⟨_, delivered, hdelivered⟩ := hdirection hopened
          rw [hdelivered]
          exact ⟨exported, delivered, rfl⟩

theorem open_transcript (htranscript : Transcript device.open exchanges answer) :
    (answer.result = .opened ↔ device.Unhindered exchanges .open) ∧
      (answer.result = .opened →
        (⟨.pathExists device.pinPath, .ok false⟩ ∉ exchanges ∧
            ∃ delivered, deliveries exchanges = [(device.directionText, delivered)]) ∨
          (⟨.pathExists device.pinPath, .ok false⟩ ∈ exchanges ∧
            ∃ exported delivered, deliveries exchanges =
              [(device.exportText, exported), (device.directionText, delivered)])) := by
  unfold GpioPin.open at htranscript
  split at htranscript
  · obtain ⟨rfl, rfl⟩ := transcript_done_iff.mp htranscript
    refine ⟨⟨(fun hopened => by cases hopened), fun hunhindered => ?_⟩,
      (fun hopened => by cases hopened)⟩
    cases hunhindered.1
  obtain ⟨looking, rest, found, rfl, hlooking, hrest⟩ := transcript_bind_iff.mp htranscript
  obtain rfl := transcript_perform_iff.mp hlooking
  have hlooked : StreamsWork [⟨.pathExists device.pinPath, found⟩] :=
    streamsWork_of_watches (by simp [Watches])
  have hworks : StreamsWork ([⟨.pathExists device.pinPath, found⟩] ++ rest) ↔ StreamsWork rest := by
    rw [streamsWork_append]
    exact and_iff_right hlooked
  rw [Unhindered, hworks]
  rcases found with errno | _ | _
  · obtain ⟨rfl, rfl⟩ := transcript_done_iff.mp hrest
    refine ⟨⟨(fun hopened => by cases hopened), fun hunhindered => ?_⟩,
      (fun hopened => by cases hopened)⟩
    cases List.mem_singleton.mp hunhindered.1
  · obtain ⟨hopened, hdelivered⟩ := openExport_transcript hrest
    refine ⟨?_, fun hresult => .inr ⟨List.mem_cons_self, hdelivered hresult⟩⟩
    rw [hopened]
    simp
  · obtain ⟨hopened, hdelivered⟩ := openDirection_transcript hrest
    constructor
    · rw [hopened]
      exact ⟨fun hwork => ⟨List.mem_cons_self, hwork⟩, fun hunhindered => hunhindered.2⟩
    · intro hresult
      obtain ⟨hunseen, hdirection⟩ := hdelivered hresult
      refine .inl ⟨fun hmem => ?_, hdirection⟩
      rcases List.mem_cons.mp hmem with hfirst | hmem
      · cases hfirst
      · exact hunseen _ _ hmem

theorem writeValue_transcript {high : Bool} {error : Option ErrorText}
    (htranscript : Transcript (device.writeValue high) exchanges error) :
    (error = none ↔ device.Unhindered exchanges (.writeValue high)) ∧
      (error = none → ∃ delivered, deliveries exchanges =
        [((device.pinPath ++ "/" ++ "value", if high then "1" else "0"), delivered)]) := by
  by_cases hopen : device.state = .open
  · by_cases hout : device.direction = .out
    · have hwrite : Transcript (device.writePinFile "value" (if high then "1" else "0"))
          exchanges error := by
        simpa [writeValue, hopen, hout] using htranscript
      obtain ⟨_, hwork, hdelivered⟩ := writeStream_transcript hwrite
      exact ⟨⟨fun hnone => ⟨hopen, hout, hwork.mp hnone⟩, fun hunhindered =>
        hwork.mpr hunhindered.2.2⟩, hdelivered⟩
    · have herror : error = some (.message "gpio write failed: pin direction is input") := by
        simp only [writeValue, hopen, hout, ne_eq, not_true_eq_false, not_false_eq_true, if_true,
          if_false] at htranscript
        exact (transcript_done_iff.mp htranscript).2
      subst herror
      exact ⟨⟨(fun hnone => by cases hnone), fun hunhindered => absurd hunhindered.2.1 hout⟩,
        (fun hnone => by cases hnone)⟩
  · have herror : error = some (.message "gpio write failed: pin is not open") := by
      simp only [writeValue, hopen, ne_eq, not_false_eq_true, if_true] at htranscript
      exact (transcript_done_iff.mp htranscript).2
    subst herror
    exact ⟨⟨(fun hnone => by cases hnone), fun hunhindered => absurd hunhindered.1 hopen⟩,
      (fun hnone => by cases hnone)⟩

/-! ## Success and acceptance -/

theorem exportText_ne_directionText (device : GpioPin) :
    device.exportText ≠ device.directionText := by
  intro heq
  have hlength := congrArg (fun text => text.1.length) heq
  simp only [exportText, directionText, pinPath, String.length_append] at hlength
  have hexport : "export".length = 6 := rfl
  have hdirection : "direction".length = 9 := rfl
  omega

/-- Where each text that is needed was delivered once, all are accepted if none is lost. -/
theorem accepted_iff_not_lost {needs : String → String → Prop}
    (hneeds : ∀ path text, needs path text ↔
      ∃ delivered, ((path, text), delivered) ∈ deliveries exchanges)
    (honce : ((deliveries exchanges).map Prod.fst).Nodup) :
    (∀ path text, needs path text → Accepted exchanges path text) ↔ ¬ Lost exchanges := by
  constructor
  · rintro haccepted ⟨path, text, hlost⟩
    have hfalse := mem_deliveries_iff.mpr hlost
    have htrue := mem_deliveries_iff.mpr
      (haccepted path text ((hneeds path text).mpr ⟨false, hfalse⟩))
    cases List.inj_on_of_nodup_map honce hfalse htrue rfl
  · intro hkept path text hneed
    obtain ⟨delivered, hmem⟩ := (hneeds path text).mp hneed
    cases delivered with
    | true => exact mem_deliveries_iff.mp hmem
    | false => exact absurd ⟨path, text, mem_deliveries_iff.mp hmem⟩ hkept

theorem accepted_iff_not_lost_of_single {needs : String → String → Prop} {file content : String}
    {delivered : Bool} (hdeliveries : deliveries exchanges = [((file, content), delivered)])
    (hneeds : ∀ path text, needs path text ↔ path = file ∧ text = content) :
    (∀ path text, needs path text → Accepted exchanges path text) ↔ ¬ Lost exchanges := by
  apply accepted_iff_not_lost
  · intro path text
    rw [hneeds, hdeliveries]
    constructor
    · rintro ⟨rfl, rfl⟩
      exact ⟨delivered, List.mem_cons_self⟩
    · rintro ⟨other, hmem⟩
      cases List.mem_singleton.mp hmem
      exact ⟨rfl, rfl⟩
  · rw [hdeliveries]
    exact List.nodup_singleton _

/-- A pin that is exported first needs two different texts in two different files. -/
theorem open_exported_accepted_iff {exported delivered : Bool}
    (habsent : ⟨.pathExists device.pinPath, .ok false⟩ ∈ exchanges)
    (hdeliveries : deliveries exchanges = [(device.exportText, exported),
      (device.directionText, delivered)]) :
    (∀ path text, device.Needs exchanges .open path text → Accepted exchanges path text) ↔
      ¬ Lost exchanges := by
  apply accepted_iff_not_lost
  · intro path text
    rw [hdeliveries]
    constructor
    · rintro (_ | _)
      · exact ⟨exported, List.mem_cons_self⟩
      · exact ⟨delivered, List.mem_cons_of_mem _ List.mem_cons_self⟩
    · rintro ⟨other, hmem⟩
      rcases List.mem_cons.mp hmem with hexport | hmem
      · cases hexport
        exact .export habsent
      · cases List.mem_singleton.mp hmem
        exact .direction
  · rw [hdeliveries]
    simpa using exportText_ne_directionText device

/-- `true` says that the files took the texts where nothing was lost in a call that
goes through otherwise. -/
theorem success_means_accepted_iff {call : PinCall} {succeeded : Bool}
    (htranscript : Transcript (device.succeeds call) exchanges succeeded) :
    (succeeded = true → ∀ path text, device.Needs exchanges call path text →
        Accepted exchanges path text) ↔
      (device.Unhindered exchanges call → ¬ Lost exchanges) := by
  cases call with
  | «open» =>
      obtain ⟨opening, _, answer, rfl, hopen, hdone⟩ := transcript_bind_iff.mp htranscript
      obtain ⟨rfl, rfl⟩ := transcript_done_iff.mp hdone
      rw [List.append_nil]
      obtain ⟨hopened, hdelivered⟩ := open_transcript hopen
      rw [decide_eq_true_eq, ← hopened]
      apply imp_congr_right
      intro hresult
      rcases hdelivered hresult with ⟨hthere, delivered, hdeliveries⟩ |
        ⟨habsent, exported, delivered, hdeliveries⟩
      · apply accepted_iff_not_lost_of_single hdeliveries
        intro path text
        constructor
        · rintro (habsent | _)
          · exact absurd habsent hthere
          · exact ⟨rfl, rfl⟩
        · rintro ⟨rfl, rfl⟩
          exact .direction
      · exact open_exported_accepted_iff habsent hdeliveries
  | writeValue high =>
      obtain ⟨writing, _, error, rfl, hwrite, hdone⟩ := transcript_bind_iff.mp htranscript
      obtain ⟨rfl, rfl⟩ := transcript_done_iff.mp hdone
      rw [List.append_nil]
      obtain ⟨hwritten, hdelivered⟩ := writeValue_transcript hwrite
      rw [Option.isNone_iff_eq_none, ← hwritten]
      apply imp_congr_right
      intro hnone
      obtain ⟨delivered, hdeliveries⟩ := hdelivered hnone
      apply accepted_iff_not_lost_of_single hdeliveries
      intro path text
      constructor
      · rintro (_ | _ | _)
        exact ⟨rfl, rfl⟩
      · rintro ⟨rfl, rfl⟩
        exact .value high

/-- An output pin whose directory is there. -/
def openedPin : GpioPin := ⟨"led", 17, .out, "/sys/class/gpio", .open, false⟩

def valueWritten (delivered : Bool) : List DeviceExchange :=
  [⟨.streamOpen (openedPin.pinPath ++ "/" ++ "value"), true⟩,
    ⟨.streamInsert (openedPin.pinPath ++ "/" ++ "value") "1", true⟩,
    ⟨.streamClose (openedPin.pinPath ++ "/" ++ "value") "1", delivered⟩]

theorem writeValue_runs (delivered : Bool) :
    Transcript (openedPin.succeeds (.writeValue true)) (valueWritten delivered) true := by
  repeat refine .ask _ ?_
  exact .done _

theorem delivered_value_accepted :
    Accepted (valueWritten true) (openedPin.pinPath ++ "/" ++ "value") "1" := by
  refine (success_means_accepted_iff (writeValue_runs true)).mpr (fun _ => ?_) rfl _ _ (.value true)
  rintro ⟨path, text, hmem⟩
  simp [valueWritten] at hmem

/-- The kernel refuses the value, and `writeValue` returns `true`. -/
theorem lost_value_reported_as_written :
    ¬ ∀ (device : GpioPin) call exchanges succeeded,
      Transcript (device.succeeds call) exchanges succeeded → succeeded = true →
        ∀ path text, device.Needs exchanges call path text → Accepted exchanges path text := by
  intro hall
  have haccepted := hall _ _ _ _ (writeValue_runs false) rfl _ _ (.value true)
  simp [Accepted, valueWritten] at haccepted

end GpioPin

end ElapPlatform.Device
