import LoraRadio.Proofs.KnownBits
import LoraRadio.Proofs.Lifecycle

/-!
# Repeated calls

A setter, the question whether the chip is in service and the choice of a mode
ask for a state, and not for a change of it.  A failed attempt at such a call
leaves traces only in what the call asks for, or in what startup programs, and
the attempt that comes through writes all of that anew.  So however many
attempts fail, and wherever they break off, the end is that of one attempt
without faults.
-/

namespace LoraRadio

open Operation RadioM Radio

/-! ## Runs that break off -/

def Radio.Between (change : Configuration → Configuration)
    (origin radio : Radio) : Prop :=
  radio = origin ∨
    radio = { origin with configuration := change origin.configuration }

namespace Radio.Between

variable {change : Configuration → Configuration}
  {origin first second radio : Radio}

theorem refl (radio : Radio) : Between change radio radio :=
  .inl rfl

theorem configure (again : ∀ known, change (change known) = change known)
    (between : Between change origin radio) :
    { radio with configuration := change radio.configuration } =
      { origin with configuration := change origin.configuration } := by
  rcases between with rfl | rfl
  · rfl
  · simp [again]

theorem trans (again : ∀ known, change (change known) = change known)
    (left : Between change origin first) (right : Between change first second) :
    Between change origin second := by
  rcases right with rfl | rfl
  · exact left
  · exact .inr (left.configure again)

theorem ready (between : Between change origin radio) :
    radio.ready = origin.ready := by
  rcases between with rfl | rfl <;> rfl

theorem legal
    (kept : ∀ {known : Configuration}, known.Legal → (change known).Legal)
    (between : Between change origin radio)
    (legal : origin.configuration.Legal) :
    radio.configuration.Legal := by
  rcases between with rfl | rfl
  · exact legal
  · exact kept legal

end Radio.Between

/-- An operation that follows a script within some ranges comes to its end, or
breaks off with nothing changed on the chip outside of the ranges. -/
theorem Follows.ends {α : Type} {operation : RadioM α} {before after : Scene}
    {value : α} {script : List Event} {ranges : List BitRange}
    {held : Radio → Prop}
    (follows : Follows operation before script (.ok value after))
    (within : ∀ event ∈ script, event.Within ranges before.chip)
    (kept : Keeps (fun station => held station.radio) operation)
    {station : Station} (scene : station.scene = before)
    (holds : held station.radio) :
    (∃ final, operation.run station = .ok value final ∧ final.scene = after ∧
      (station.bench.Sound → final.bench.Sound)) ∨
    (¬station.bench.Sound ∧ ∃ failure final,
      operation.run station = .error failure final ∧
      held final.radio ∧ before.chip.SameOutside ranges final.bench.chip) := by
  have remains := kept station holds
  rcases follows station scene with
    ⟨seen, records⟩ | ⟨unsound, failure, final, events, run, breaks, records⟩
  · obtain ⟨final, run, reached⟩ := Outcome.exists_of_view_ok seen
    rw [run] at records
    exact .inl ⟨final, run, reached, records.sound⟩
  · rw [run] at remains
    refine .inr ⟨unsound, failure, final, run, remains, ?_⟩
    have chip : station.bench.chip = before.chip := congrArg Scene.chip scene
    rw [records.replayed, chip]
    exact (Chip.SameOutside.refl before.chip).replay_of_breaks breaks within

theorem Chip.setRegister_congr {name : RegisterName} {first second : Chip}
    (value : UInt8) (same : first.SameOutside [.whole name] second) :
    second.setRegister name.address value =
      first.setRegister name.address value := by
  refine ext_register (fun address => ?_) ?_
  · rw [register_setRegister, register_setRegister]
    split
    · rfl
    · next apart =>
        apply same.register
        rintro position - ⟨range, member, here, -⟩
        obtain rfl := List.mem_singleton.mp member
        exact apart here
  · have others := same.others
    simp only [setRegister]
    rw [← others]

/-! ## Requests -/

inductive Request where
  | adopt (setting : Setting)
  | isReady
  | idle
  | sleep
  deriving DecidableEq, Repr

namespace Request

def call : Request → Call
  | .adopt setting => setting.call
  | .isReady => .isReady
  | .idle => .idle
  | .sleep => .sleep

def reply : Request → Reply
  | .isReady => .truth true
  | .adopt _ | .idle | .sleep => .done

def ranges : Request → List BitRange
  | .adopt setting => setting.ranges
  | .isReady => []
  | .idle | .sleep => [.whole .opMode]

def configure : Request → Configuration → Configuration
  | .adopt setting => setting.configure
  | .isReady | .idle | .sleep => id

def program (request : Request) (known : Configuration) (chip : Chip) : Chip :=
  match request with
  | .adopt setting => setting.program known chip
  | .isReady => chip
  | .idle => chip.setRegister RegisterName.opMode.address 0x81
  | .sleep => chip.setRegister RegisterName.opMode.address 0x80

def applyTo (request : Request) (scene : Scene) : Scene :=
  (scene.withChip
    (request.program (request.configure scene.radio.configuration)
      scene.chip)).configure request.configure

theorem failure?_reply (request : Request) : request.reply.failure? = none := by
  cases request <;> rfl

theorem configure_configure (request : Request) (known : Configuration) :
    request.configure (request.configure known) = request.configure known := by
  cases request with
  | adopt setting => cases setting <;> rfl
  | isReady | idle | sleep => rfl

theorem legal_configure (request : Request) {known : Configuration}
    (legal : known.Legal) :
    (request.configure known).Legal := by
  cases request with
  | adopt setting => exact setting.legal_configure legal
  | isReady | idle | sleep => exact legal

theorem program_congr (request : Request) (known : Configuration)
    {first second : Chip} (same : first.SameOutside request.ranges second) :
    request.program known second = request.program known first := by
  cases request with
  | adopt setting => exact setting.program_congr known same
  | isReady =>
      have empty (chip : Chip) : chip.Holds known.byte [] :=
        .nil chip known.byte
      exact Chip.eq_of_holds same (.refl first) (empty second) (empty first)
  | idle => exact Chip.setRegister_congr 0x81 same
  | sleep => exact Chip.setRegister_congr 0x80 same

structure Near (request : Request) (origin scene : Scene) : Prop where
  radio : Between request.configure origin.radio scene.radio
  chip : origin.chip.SameOutside request.ranges scene.chip

theorem Near.trans {request : Request} {first second third : Scene}
    (left : request.Near first second) (right : request.Near second third) :
    request.Near first third :=
  ⟨left.radio.trans request.configure_configure right.radio,
    left.chip.trans right.chip⟩

theorem Near.applyTo {request : Request} {origin scene : Scene}
    (near : request.Near origin scene) :
    (request.applyTo scene).radio = (request.applyTo origin).radio ∧
      (request.applyTo scene).chip = (request.applyTo origin).chip := by
  have radio := near.radio.configure request.configure_configure
  have known := congrArg Radio.configuration radio
  refine ⟨radio, ?_⟩
  change request.program
      (request.configure scene.radio.configuration) scene.chip =
    request.program (request.configure origin.radio.configuration) origin.chip
  rw [show request.configure scene.radio.configuration = _ from known]
  exact request.program_congr _ near.chip

/-! ## Attempts in service -/

theorem keeps_between {α : Type} {change : Configuration → Configuration}
    {origin : Radio} {operation : RadioM α} (ready : origin.ready = true)
    (live : Keeps (Live fun station => Between change origin station.radio)
      operation) :
    Keeps (fun station => Between change origin station.radio) operation := by
  intro station between
  exact (live station ⟨between, between.ready.trans ready⟩).1

/-- How an attempt can end: with what the request asks for, or broken off on the
way. -/
inductive Ends (request : Request) (station : Station)
    (arrived : Station → Prop) (left : Scene → Prop) : Prop where
  | done (final : Station)
      (performed : request.call.perform station = (request.reply, final))
      (there : arrived final)
  | brokenOff (unsound : ¬station.bench.Sound)
      (failed : (request.call.perform station).1.failure? ≠ none)
      (underway : left (request.call.perform station).2.scene)

namespace Ends

variable {request : Request} {station : Station} {arrived : Station → Prop}
  {left : Scene → Prop}

theorem failure?_of_sound (ends : request.Ends station arrived left)
    (sound : station.bench.Sound) :
    (request.call.perform station).1.failure? = none := by
  cases ends with
  | done final performed => rw [performed, request.failure?_reply]
  | brokenOff unsound => exact absurd sound unsound

theorem of_failure? (ends : request.Ends station arrived left)
    (passed : (request.call.perform station).1.failure? = none) :
    (request.call.perform station).1 = request.reply ∧
      arrived (request.call.perform station).2 := by
  cases ends with
  | done final performed there =>
      rw [performed]
      exact ⟨rfl, there⟩
  | brokenOff _ failed => exact absurd passed failed

end Ends

theorem ends_of_follows {request : Request} {station : Station}
    {operation : RadioM Unit} {script : List Event}
    (performed : request.call.perform station =
      Call.answer Call.acknowledge operation station)
    (told : request.reply = .done)
    (follows : Follows operation station.scene script
      (.ok () (request.applyTo station.scene)))
    (within : ∀ event ∈ script, event.Within request.ranges station.bench.chip)
    (kept : Keeps
      (fun reached => Between request.configure station.radio reached.radio)
        operation) :
    request.Ends station
      (fun final => final.scene = request.applyTo station.scene)
      (request.Near station.scene) := by
  rcases follows.ends within kept rfl (.refl station.radio) with
    ⟨final, run, scene, -⟩ | ⟨unsound, failure, final, run, between, same⟩
  · refine .done final ?_ scene
    rw [performed, told]
    exact Call.answer_of_ok run
  · have broken : request.call.perform station = (.failed failure, final) := by
      rw [performed]
      exact Call.answer_of_error run
    refine .brokenOff unsound ?_ ?_
    · simp [broken, Reply.failure?]
    · rw [broken]
      exact ⟨between, same⟩

theorem ends_of_ready (request : Request) {station : Station}
    (ready : station.radio.ready = true)
    (legal : station.radio.configuration.Legal) :
    request.Ends station
      (fun final => final.scene = request.applyTo station.scene)
      (request.Near station.scene) := by
  have aloof := aloof_radio (Between request.configure station.radio)
  cases request with
  | adopt setting =>
      refine ends_of_follows (setting.perform_call station) rfl
        (setting.follows_set ready legal)
        (setting.within_script _ _) (keeps_between ready (aloof.keeps_set ?_))
      rintro reached ⟨between, stillReady⟩
      exact ⟨.inr (between.configure (adopt setting).configure_configure),
        stillReady⟩
  | isReady =>
      exact .done station
        (Call.answer_of_ok (run_ensureReady_of_ready ready)) rfl
  | idle =>
      refine ends_of_follows rfl rfl
        (follows_whenReady ready () (follows_standby _)) ?_
        (keeps_between ready
          (Live.keeps_whenReady () (Live.keeps_access_radio _ _)))
      simp only [List.forall_mem_cons]
      exact ⟨.whole (by simp [ranges]) fun _ => rfl, by simp⟩
  | sleep =>
      refine ends_of_follows rfl rfl
        (follows_whenReady ready () (follows_sleep _)) ?_
        (keeps_between ready
          (Live.keeps_whenReady () (Live.keeps_access_radio _ _)))
      simp only [List.forall_mem_cons]
      exact ⟨.whole (by simp [ranges]) fun _ => rfl, by simp⟩

end Request

/-! ## Attempts at startup -/

structure Radio.Starting (origin radio : Radio) : Prop where
  connection : radio.connection = origin.connection
  cursor : radio.cursor = origin.cursor
  configuration : radio.configuration = origin.configuration ∨
    radio.configuration =
      (Setting.power 17 .paBoost).configure origin.configuration

namespace Radio.Starting

variable {origin first second radio : Radio}

theorem refl (radio : Radio) : Starting radio radio :=
  ⟨rfl, rfl, .inl rfl⟩

theorem power (starting : Starting origin radio) :
    (Setting.power 17 .paBoost).configure radio.configuration =
      (Setting.power 17 .paBoost).configure origin.configuration := by
  rcases starting.configuration with same | changed
  · rw [same]
  · rw [changed]
    rfl

theorem trans (left : Starting origin first) (right : Starting first second) :
    Starting origin second where
  connection := right.connection.trans left.connection
  cursor := right.cursor.trans left.cursor
  configuration := by
    rcases right.configuration with same | changed
    · rw [same]
      exact left.configuration
    · rw [changed]
      exact .inr left.power

theorem legal (starting : Starting origin radio)
    (legal : origin.configuration.Legal) :
    radio.configuration.Legal := by
  rcases starting.configuration with same | changed
  · rw [same]
    exact legal
  · rw [changed]
    exact Setting.legal_configure _ legal

theorem startable (origin : Radio) :
    Startable fun station => Starting origin station.radio where
  line line level station starting := by
    rw [state_setLine]
    exact starting
  delay ms station starting := starting
  read address station starting := by
    rw [state_read]
    exact starting
  write name _ value station starting := by
    rw [state_write]
    exact starting
  version version station starting :=
    ⟨starting.connection, starting.cursor, starting.configuration⟩
  power station starting :=
    ⟨starting.connection, starting.cursor, .inr starting.power⟩

theorem keeps_ensureReady (origin : Radio) :
    Keeps (fun station => Starting origin station.radio) ensureReady :=
  (startable origin).keeps_ensureReady fun _ _ starting =>
    ⟨starting.connection, starting.cursor, starting.configuration⟩

end Radio.Starting

/-- A driver whose attempts at startup, if there were any, broke off. -/
structure Scene.Stalled (origin scene : Scene) : Prop where
  new : scene.radio.lifecycle = .uninitialized
  radio : Starting origin.radio scene.radio
  chip : origin.chip.SameOutside startupRanges scene.chip

namespace Scene.Stalled

variable {origin scene : Scene}

theorem version (stalled : Stalled origin scene) :
    scene.chip.register RegisterName.version.address =
      origin.chip.register RegisterName.version.address := by
  have apart : ∀ range ∈ startupRanges, range.name ≠ .version := by decide
  apply stalled.chip.register
  rintro position - ⟨range, member, here, -⟩
  exact apart range member (RegisterName.address_inj.mp here)

theorem startup (stalled : Stalled origin scene)
    (complete : origin.radio.connection.complete = true)
    (required : origin.chip.register RegisterName.version.address =
      requiredVersion) :
    (Radio.startup scene).radio = (Radio.startup origin).radio ∧
      (Radio.startup scene).chip = (Radio.startup origin).chip := by
  have stillComplete : scene.radio.connection.complete = true := by
    rw [stalled.radio.connection, complete]
  have stillRequired := stalled.version.trans required
  have defaults : scene.chip.putDefaults scene.radio.configuration =
      scene.chip.putDefaults origin.radio.configuration := by
    rcases stalled.radio.configuration with same | changed
    · rw [same]
    · rw [changed]
      rfl
  rw [startup_of_usable stillComplete stillRequired,
    startup_of_usable complete required]
  refine ⟨?_, ?_⟩
  · simp only [stalled.radio.connection, stalled.radio.cursor,
      stalled.radio.power]
  · rw [defaults]
    exact putDefaults_congr _ stalled.chip

end Scene.Stalled

/-! ## Repeated attempts -/

structure Scene.Usable (scene : Scene) : Prop where
  legal : scene.radio.configuration.Legal
  usable : scene.radio.ready = true ∨
    (scene.radio.lifecycle = .uninitialized ∧
      scene.radio.connection.complete = true ∧
      scene.chip.register RegisterName.version.address = requiredVersion)

def Scene.begun (scene : Scene) : Scene :=
  if scene.radio.lifecycle = .uninitialized then Radio.startup scene else scene

namespace Scene.Usable

variable {scene : Scene}

theorem ready_begun (usable : Usable scene) :
    scene.begun.radio.ready = true := by
  unfold begun
  rcases usable.usable with ready | ⟨new, complete, required⟩
  · have started : scene.radio.lifecycle ≠ .uninitialized := by
      intro new
      simp [Radio.ready, new] at ready
    rw [if_neg started]
    exact ready
  · rw [if_pos new, startup_of_usable complete required]
    rfl

theorem legal_begun (usable : Usable scene) :
    scene.begun.radio.configuration.Legal := by
  unfold begun
  split
  · exact legal_startup usable.legal
  · exact usable.legal

end Scene.Usable

namespace Request

variable {request : Request} {origin : Scene}

inductive Underway (request : Request) (origin scene : Scene) : Prop where
  | stalled (new : origin.radio.lifecycle = .uninitialized)
      (stalled : origin.Stalled scene)
  | inService (near : request.Near origin.begun scene)

theorem Underway.refl (request : Request) (origin : Scene) :
    request.Underway origin origin := by
  by_cases new : origin.radio.lifecycle = .uninitialized
  · exact .stalled new ⟨new, .refl _, .refl _⟩
  · refine .inService ?_
    rw [Scene.begun, if_neg new]
    exact ⟨.refl _, .refl _⟩

def Arrived (request : Request) (origin : Scene) (final : Station) : Prop :=
  final.radio = (request.applyTo origin.begun).radio ∧
    final.bench.chip = (request.applyTo origin.begun).chip

theorem ends_inService (usable : origin.Usable) {station : Station}
    (near : request.Near origin.begun station.scene) :
    request.Ends station (request.Arrived origin)
      (request.Underway origin) := by
  have ready : station.radio.ready = true :=
    near.radio.ready.trans usable.ready_begun
  have legal := near.radio.legal request.legal_configure usable.legal_begun
  cases request.ends_of_ready ready legal with
  | done final performed scene =>
      have same := near.applyTo
      rw [← scene] at same
      exact .done final performed same
  | brokenOff unsound failed further =>
      exact .brokenOff unsound failed (.inService (near.trans further))

theorem whole_call (request : Request) : request.call.Whole := by
  cases request with
  | adopt setting => cases setting <;> trivial
  | isReady | idle | sleep => trivial

theorem ends_stalled (usable : origin.Usable)
    (needs : request.call.needsChip = true) {station : Station}
    (new : origin.radio.lifecycle = .uninitialized)
    (stalled : origin.Stalled station.scene) :
    request.Ends station (request.Arrived origin)
      (request.Underway origin) := by
  have legal : station.radio.configuration.Legal :=
    stalled.radio.legal usable.legal
  have startsUp := Call.startsUp_of_needsChip request.whole_call needs
  obtain ⟨-, complete, required⟩ :=
    usable.usable.resolve_left (by simp [Radio.ready, new])
  rcases (@follows_ensureReady station.scene stalled.new legal).ends
      (within_startupScript _)
      (Starting.keeps_ensureReady station.radio) rfl (.refl _) with
    ⟨reached, run, scene, sound⟩ |
      ⟨unsound, failure, reached, run, starting, same⟩
  · -- Startup has come through, and the rest of the attempt is one in service.
    have radio : reached.radio = (startup station.scene).radio :=
      congrArg Scene.radio scene
    have chip : reached.bench.chip = (startup station.scene).chip :=
      congrArg Scene.chip scene
    rw [← radio] at run
    have started : reached.radio.lifecycle ≠ .uninitialized := by
      rw [radio]
      exact startup_started station.scene
    have continued := startsUp.done run started
    have begun : origin.begun = startup origin := if_pos new
    obtain ⟨sameRadio, sameChip⟩ := stalled.startup complete required
    have near : request.Near origin.begun reached.scene := by
      rw [begun]
      refine ⟨.inl (radio.trans sameRadio), ?_⟩
      change Chip.SameOutside _ _ reached.bench.chip
      rw [chip, sameChip]
      exact .refl _
    cases ends_inService usable near with
    | done final performed arrived =>
        exact .done final (continued.trans performed) arrived
    | brokenOff unsound failed underway =>
        rw [← continued] at failed underway
        exact .brokenOff (fun still => unsound (sound still)) failed underway
  · obtain ⟨told, left⟩ := startsUp.failed run
    refine .brokenOff unsound (by simp [told]) (.stalled new ?_)
    rw [left]
    exact ⟨lifecycle_of_run_error run, stalled.radio.trans starting,
      stalled.chip.trans same⟩

theorem ends_of_underway (usable : origin.Usable)
    (needs : request.call.needsChip = true) {station : Station}
    (underway : request.Underway origin station.scene) :
    request.Ends station (request.Arrived origin)
      (request.Underway origin) := by
  cases underway with
  | inService near => exact ends_inService usable near
  | stalled new stalled => exact ends_stalled usable needs new stalled

end Request

def Station.facing (station : Station) (busFaults lineFaults : FaultWindow) :
    Station :=
  ⟨station.radio, { station.bench with busFaults, lineFaults }⟩

/-- Attempts at a call that all fail, each with its own faults ahead. -/
inductive Call.Failing (call : Call) (station : Station) : Station → Prop where
  | start : Failing call station station
  | again {reached : Station} (earlier : Failing call station reached)
      (busFaults lineFaults : FaultWindow)
      (failed : (call.perform
        (reached.facing busFaults lineFaults)).1.failure? ≠ none) :
      Failing call station
        (call.perform (reached.facing busFaults lineFaults)).2

namespace Request

variable {request : Request} {station reached : Station}

theorem underway_of_failing (usable : station.scene.Usable)
    (needs : request.call.needsChip = true)
    (failing : request.call.Failing station reached) :
    request.Underway station.scene reached.scene := by
  induction failing with
  | start => exact .refl request station.scene
  | again _ busFaults lineFaults failed underway =>
      cases @ends_of_underway request station.scene usable needs
        (Station.facing _ busFaults lineFaults) underway with
      | done final performed =>
          rw [performed] at failed
          exact absurd request.failure?_reply failed
      | brokenOff _ _ further => exact further

/-- The only request that does not need the chip cannot fail. -/
theorem exists_polling (needless : request.call.needsChip = false) :
    ∃ wait, request = .adopt (.polling wait) := by
  cases request with
  | adopt setting =>
      cases setting with
      | polling wait => exact ⟨wait, rfl⟩
      | _ => cases needless
  | isReady | idle | sleep => cases needless

/-- After any attempts that failed, the call comes through once there are no
more faults ahead, and when it comes through it leaves the driver and the chip
as one attempt without faults would have done at the start. -/
theorem retry_converges (request : Request) {station reached : Station}
    (legal : station.radio.configuration.Legal)
    (usable : station.radio.ready = true ∨
      (station.radio.lifecycle = .uninitialized ∧
        station.radio.connection.complete = true ∧
        station.bench.chip.register RegisterName.version.address =
          requiredVersion)) (failing : request.call.Failing station reached) :
    let once := request.call.perform (station.facing .closed .closed)
    once.1.failure? = none ∧
      (request.call.perform (reached.facing .closed .closed)).1.failure? =
        none ∧
      ∀ busFaults lineFaults,
        let again := request.call.perform (reached.facing busFaults lineFaults)
        again.1.failure? = none →
          again.1 = once.1 ∧ again.2.radio = once.2.radio ∧
            again.2.bench.chip = once.2.bench.chip := by
  intro once
  cases needs : request.call.needsChip with
  | false =>
      obtain ⟨wait, rfl⟩ := exists_polling needs
      cases failing with
      | start => exact ⟨rfl, rfl, fun _ _ _ => ⟨rfl, rfl, rfl⟩⟩
      | again _ _ _ failed => exact absurd rfl failed
  | true =>
      have serviceable : station.scene.Usable := ⟨legal, usable⟩
      have underway := underway_of_failing serviceable needs failing
      have first := @ends_of_underway request station.scene serviceable needs
        (station.facing .closed .closed) (.refl request station.scene)
      have next (busFaults lineFaults : FaultWindow) :=
        @ends_of_underway request station.scene serviceable needs
          (reached.facing busFaults lineFaults) underway
      have passed := first.failure?_of_sound ⟨rfl, rfl⟩
      obtain ⟨told, radio, chip⟩ := first.of_failure? passed
      refine ⟨passed, (next _ _).failure?_of_sound ⟨rfl, rfl⟩,
        fun busFaults lineFaults comes => ?_⟩
      obtain ⟨toldAgain, radioAgain, chipAgain⟩ :=
        (next busFaults lineFaults).of_failure? comes
      exact ⟨toldAgain.trans told.symm, radioAgain.trans radio.symm,
        chipAgain.trans chip.symm⟩

/-- Startup breaks off at the carrier, the second attempt between the detection
registers and the factor, and the third one comes through on a bus that fails
right after it. -/
theorem retry_converges_after_two_faults :
    let station : Station := ⟨{ connection := ⟨0, true, true⟩ }, {}⟩
    let request : Request := .adopt (.spreadingFactor 12)
    let stalled := (request.call.perform (station.facing ⟨3, 1⟩ .closed)).2
    let reached := (request.call.perform (stalled.facing ⟨14, 1⟩ .closed)).2
    stalled.radio.lifecycle = .uninitialized ∧ reached.radio.ready = true ∧
      (request.call.perform (station.facing .closed .closed)).1.failure? =
        none ∧
      (request.call.perform (reached.facing ⟨6, 9⟩ .closed)).1 =
        (request.call.perform (station.facing .closed .closed)).1 ∧
      (request.call.perform (reached.facing ⟨6, 9⟩ .closed)).2.radio =
        (request.call.perform (station.facing .closed .closed)).2.radio ∧
      (request.call.perform (reached.facing ⟨6, 9⟩ .closed)).2.bench.chip =
        (request.call.perform
          (station.facing .closed .closed)).2.bench.chip := by
  intro station request stalled reached
  have failing : request.call.Failing station reached :=
    .again (.again .start ⟨3, 1⟩ .closed (by decide +kernel)) ⟨14, 1⟩ .closed
      (by decide +kernel)
  have comes :
      (request.call.perform (reached.facing ⟨6, 9⟩ .closed)).1.failure? =
        none := by
    decide +kernel
  obtain ⟨passed, -, same⟩ :=
    retry_converges request Configuration.legal_default
      (.inr ⟨rfl, rfl, rfl⟩) failing
  exact ⟨by decide +kernel, by decide +kernel, passed,
    same ⟨6, 9⟩ .closed comes⟩

end Request

end LoraRadio
