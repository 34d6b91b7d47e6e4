import LoraRadio.Proofs.Listening
import LoraRadio.Proofs.SafeSession

/-!
# Looking for packets along sessions

In a session without faults in which nobody else writes the mode, there is
nothing to read while the chip receives.  After a look that finds no packet
there is nothing to read until a later look finds one, and further looks leave
the mode and the pointer alone until then.
-/

namespace LoraRadio

open Operation RadioM Radio

variable {shut : Prop} {station : Station}

/-! ## Looks that may have to start the driver -/

namespace Radio

theorem count_listens_openingScript (scene : Scene) :
    (openingScript scene).count Event.listens = 0 := by
  rw [List.count_eq_zero]
  unfold openingScript startupScript
  split
  · split
    · dsimp only
      split <;> simp [pulseScript, defaultsScript, Event.listens]
    · simp
  · simp

theorem exists_receive (size : UInt8) (sane : station.Sane)
    (holds : Quietly (Vacant shut) station) :
    ∃ middle length final script,
      Vacant shut middle ∧ middle.radio.lifecycle ≠ .uninitialized ∧
      (receive size).run station = .ok length final ∧ final.bench.Sound ∧
      final.bench.events =
        station.bench.events ++ openingScript station.scene ++ script ∧
      Look size middle length final.scene script := by
  obtain ⟨reached, run, started, -, -, recorded⟩ :=
    exists_opened holds.1 sane.legal
  have opened : Quietly (Vacant shut) reached := by
    have kept := Vacant.keeps_ensureReady station holds
    rw [run] at kept
    exact kept
  obtain ⟨length, final, script, look, sound, more, ends⟩ :=
    exists_look size opened.1 started
  refine ⟨reached.scene, length, final, script, opened.2, started, ?_,
    sound, ?_, ends⟩
  · rw [← look]
    exact run_whenReady_of_run 0 _ run started
  · rw [more, recorded]

theorem keeps_recorded (event : Event) :
    Keeps (fun station => event ∈ station.bench.events) readByte := by
  have read (address : Address) :
      Keeps (fun station => event ∈ station.bench.events)
        (access (Bus.read address)) := by
    intro station member
    rw [state_read]
    unfold Bench.read
    split
    · rw [Bench.events_record]
      exact List.mem_append_left _ member
    · rw [Bench.events_record]
      exact List.mem_append_left _ member
  refine .bind keeps_getRadio fun radio => .ite (.pure none) ?_
  refine .bind (RadioM.keeps_readRegister fun _ => read _) fun byte => ?_
  exact .bind (fun _ member => member) fun _ => .pure _

theorem readBuffer_hidden (buffer : List UInt8) (sane : station.Sane)
    (holds : Quietly (Vacant shut) station)
    (hidden : ∀ event ∈ (readBuffer buffer station).2.bench.events,
      event.showsPacket = false) :
    Quietly (Vacant True) (readBuffer buffer station).2 := by
  obtain ⟨middle, length, final, script, vacant, -, run, sound,
      recorded, look⟩ :=
    exists_receive 0 sane holds
  -- The bytes are read after the look, and leave on the record what it showed.
  have kept : ∀ event ∈ final.bench.events,
      event ∈ (readBuffer buffer station).2.bench.events := by
    intro event member
    unfold readBuffer
    rw [run]
    cases length with
    | zero => exact member
    | succ length => exact fill_keeps (keeps_recorded event) buffer member
  have unseen : ∀ event ∈ script, event.showsPacket = false := by
    intro event member
    apply hidden
    apply kept
    rw [recorded]
    exact List.mem_append_right _ member
  obtain ⟨rfl, -⟩ := look.cases_of_hidden unseen
  unfold readBuffer
  rw [run]
  exact ⟨sound, look.vacant unseen vacant⟩

end Radio

theorem Call.perform_hidden {call : Call} (looks : call.looks = true)
    (sane : station.Sane) (holds : Quietly (Vacant shut) station)
    (hidden : ∀ event ∈ (call.perform station).2.bench.events,
      event.showsPacket = false) :
    Quietly (Vacant True) (call.perform station).2 := by
  cases call with
  | readBuffer buffer => exact readBuffer_hidden buffer sane holds hidden
  | readText buffer => exact readBuffer_hidden buffer sane holds hidden
  | receive size =>
      obtain ⟨middle, length, final, script, vacant, -, run, sound,
          recorded, look⟩ :=
        exists_receive size sane holds
      have done : (Call.receive size).perform station =
        (.count length, final) := answer_of_ok run
      rw [done] at hidden ⊢
      refine ⟨sound, look.vacant (fun event member => ?_) vacant⟩
      apply hidden
      rw [recorded]
      exact List.mem_append_right _ member
  | _ => cases looks

/-! ## Sessions -/

namespace Step

def Calm : Step → Prop
  | .stimulus (.poke address _) => address ≠ RegisterName.opMode.address
  | .stimulus (.busFaults window) | .stimulus (.lineFaults window) =>
      window.count = 0
  | _ => True

def looks : Step → Bool
  | .call asked => asked.looks
  | .stimulus _ | .reconnect _ _ _ | .release => false

def Polls : Step → Prop
  | .call (.receive _) | .stimulus _ => True
  | _ => False

end Step

theorem Stimulus.quietly_apply {condition : Scene → Prop} {event : Stimulus}
    (calm : (Step.stimulus event).Calm)
    (apart : ∀ {scene : Scene} {chip : Chip}, condition scene →
      chip.register RegisterName.opMode.address =
        scene.chip.register RegisterName.opMode.address →
      condition (scene.withChip chip)) (holds : Quietly condition station) :
    Quietly condition ⟨station.radio, event.apply station.bench⟩ := by
  have spared : (Step.stimulus event).SparesMode := by
    cases event with
    | poke address value => exact calm
    | _ => trivial
  have sound : (event.apply station.bench).Sound := by
    cases event with
    | busFaults window => exact ⟨calm, holds.1.2⟩
    | lineFaults window => exact ⟨holds.1.1, calm⟩
    | _ => exact holds.1
  have scene : Station.scene ⟨station.radio, event.apply station.bench⟩ =
      station.scene.withChip (event.apply station.bench).chip := by
    cases event <;> rfl
  refine ⟨sound, ?_⟩
  rw [scene]
  exact apart holds.2 (Stimulus.mode_apply spared station.bench)

theorem Expectant.withChip {scene : Scene} {chip : Chip}
    (expectant : Expectant scene)
    (same : chip.register RegisterName.opMode.address =
      scene.chip.register RegisterName.opMode.address) :
    Expectant (scene.withChip chip) where
  started := expectant.started
  listening ready :=
    (Chip.isListening_congr same).trans (expectant.listening ready)

namespace Session

variable {session : Session} {step : Step} {steps : List Step}

def Misses : Session → List Step → Prop
  | _, [] => True
  | session, step :: rest =>
      (step.looks = true →
        ∀ event ∈ (session.step step).2.station.bench.events,
          event.showsPacket = false) ∧
      (session.step step).2.Misses rest

instance decidableMisses : (session : Session) → (steps : List Step) →
    Decidable (session.Misses steps)
  | _, [] => .isTrue trivial
  | session, step :: rest =>
      have := decidableMisses (session.step step).2 rest
      inferInstanceAs (Decidable (_ ∧ _))

theorem vacant_turned (calm : step.Calm) (turned : step.looks = false)
    (holds : Quietly (Vacant shut) session.station) :
    Quietly (Vacant shut) (session.step step).2.station := by
  cases step with
  | stimulus event =>
      exact @Stimulus.quietly_apply session.station.cleared _ _ calm
        Vacant.withChip holds
  | release => exact ⟨holds.1, .ofEmpty rfl⟩
  | reconnect boot reset chip =>
      cases chip with
      | none => exact ⟨holds.1, .ofEmpty rfl⟩
      | some chip => exact ⟨holds.1, .ofEmpty rfl⟩
  | call call =>
      exact @Droppable.perform_turned _ Vacant.droppable call turned _ holds

theorem vacant_step (calm : step.Calm)
    (holds : Quietly (Vacant False) session.station) :
    Quietly (Vacant False) (session.step step).2.station := by
  cases looks : step.looks with
  | false => exact vacant_turned calm looks holds
  | true =>
      cases step with
      | call call => exact @Robust.perform_any _ Vacant.robust call _ holds
      | _ => cases looks

theorem vacant_missed (calm : step.Calm) (sane : session.station.Sane)
    (hidden : step.looks = true →
      ∀ event ∈ (session.step step).2.station.bench.events,
      event.showsPacket = false)
    (holds : Quietly (Vacant True) session.station) :
    Quietly (Vacant True) (session.step step).2.station := by
  cases looks : step.looks with
  | false => exact vacant_turned calm looks holds
  | true =>
      cases step with
      | call call =>
          exact @Call.perform_hidden True session.station.cleared call looks
            sane holds (hidden looks)
      | _ => cases looks

theorem vacant_after (boot reset : Bool) (chip : Chip)
    (calm : ∀ step ∈ steps, step.Calm) :
    Quietly (Vacant False)
      ((Session.start boot reset chip).after steps).station :=
  after_induction (fun session => Quietly (Vacant False) session.station)
    (fun _ _ => vacant_step) calm ⟨⟨rfl, rfl⟩, .ofEmpty rfl⟩

theorem bytes_none (nothing : session.station.radio.available = 0) :
    (session.step (.call .readByte)).1 = .byte none ∧
      (session.step (.call .peekByte)).1 = .byte none :=
  ⟨congrArg Prod.fst
    (Call.answer_of_ok (@run_readByte_of_empty session.station.cleared
      nothing)), congrArg Prod.fst
    (Call.answer_of_ok (@run_peekByte_of_empty session.station.cleared
      nothing))⟩

theorem vacant_until (calm : ∀ step ∈ steps, step.Calm)
    (missed : session.Misses steps) (sane : session.station.Sane)
    (holds : Quietly (Vacant True) session.station) :
    Quietly (Vacant True) (session.after steps).station := by
  induction steps generalizing session with
  | nil => exact holds
  | cons step rest ih =>
      rw [List.forall_mem_cons] at calm
      exact ih calm.2 missed.2 (sane_step sane step)
        (vacant_missed calm.1 sane missed.1 holds)

theorem expectant_step (calm : step.Calm) (polls : step.Polls)
    (hidden : step.looks = true →
      ∀ event ∈ (session.step step).2.station.bench.events,
      event.showsPacket = false) (holds : Quietly Expectant session.station) :
    Quietly Expectant (session.step step).2.station ∧
      ∀ event ∈ (session.step step).2.station.bench.events,
        event.isPassive = true := by
  cases step with
  | stimulus event =>
      refine ⟨@Stimulus.quietly_apply session.station.cleared _ _ calm
        Expectant.withChip holds, ?_⟩
      change ∀ recorded ∈ (event.apply _).events, recorded.isPassive = true
      rw [Stimulus.events_apply]
      exact fun _ member => nomatch member
  | release => cases polls
  | reconnect boot reset chip => cases polls
  | call call =>
      cases call with
      | receive size =>
          obtain ⟨length, final, script, run, sound, recorded, look⟩ :=
            @exists_look session.station.cleared size holds.1 holds.2.started
          have done : (session.step (.call (.receive size))).2.station =
              final := by
            rw [step_call, show (Call.receive size).perform _ = _ from
              Call.answer_of_ok run]
          have whole : final.bench.events = script := recorded
          rw [done, whole] at hidden ⊢
          have unseen := hidden rfl
          exact ⟨⟨sound, look.expectant unseen holds.2.started⟩,
            look.passive unseen holds.2⟩
      | _ => cases polls

theorem passive_history (calm : ∀ step ∈ steps, step.Calm ∧ step.Polls)
    (missed : session.Misses steps)
    (holds : Quietly Expectant session.station) :
    ∀ event ∈ session.history steps, event.isPassive = true := by
  induction steps generalizing session with
  | nil => simp [history, outcomes]
  | cons step rest ih =>
      rw [List.forall_mem_cons] at calm
      obtain ⟨next, passive⟩ := expectant_step calm.1.1 calm.1.2 missed.1 holds
      rw [history_cons, List.forall_mem_append]
      exact ⟨passive, ih calm.2 missed.2 next⟩

/-- In every session without faults, in which packets come in with any flags and
nobody but the driver writes the mode: there is nothing to read while the chip
receives; a look clears the flags it finds; after one that finds no packet there
is nothing to read until another one finds it; and of several looks in vain only
the first may set the chip to single reception or move its pointer. -/
theorem reception_sound (boot reset : Bool) (chip : Chip) {steps : List Step}
    (calm : ∀ step ∈ steps, step.Calm) :
    (((Session.start boot reset chip).after
        steps).station.bench.chip.isReceiving = true →
      ((Session.start boot reset chip).after
        steps).station.radio.available = 0) ∧
    ∀ size reply next,
      ((Session.start boot reset chip).after steps).step
        (.call (.receive size)) = (reply, next) →
      (next.station.radio.ready = true →
        (∃ flags, .read RegisterName.irqFlags.address flags ∈
            next.station.bench.events) ∧
          next.station.bench.chip.register RegisterName.irqFlags.address = 0) ∧
      ((∀ event ∈ next.station.bench.events, event.showsPacket = false) →
        reply = .count 0 ∧ next.station.radio.available = 0 ∧
        (∀ later, (∀ step ∈ later, step.Calm) → next.Misses later →
          ((next.after later).step (.call .readByte)).1 = .byte none ∧
            ((next.after later).step (.call .peekByte)).1 = .byte none) ∧
        next.station.bench.events.count Event.listens ≤ 1 ∧
        ∀ polls, (∀ step ∈ polls, step.Calm ∧ step.Polls) → next.Misses polls →
          ∀ event ∈ next.history polls, event.isPassive = true) := by
  have holds := vacant_after boot reset chip calm
  have sane : ((Session.start boot reset chip).after steps).station.Sane :=
    ((Reachable.start boot reset chip).after steps).sane
  generalize (Session.start boot reset chip).after steps =
    session at holds sane ⊢
  refine ⟨holds.2.available_of_receiving, ?_⟩
  intro size reply next asked
  obtain ⟨middle, length, final, script, vacant, started, run, sound,
      recorded, look⟩ :=
    @exists_receive False session.station.cleared size sane holds
  have done : session.step (.call (.receive size)) =
      (.count length, ⟨final, session.chips⟩) := by
    rw [step_call, show (Call.receive size).perform _ = _ from
      Call.answer_of_ok run]
  rw [done] at asked
  obtain ⟨rfl, rfl⟩ := Prod.mk.inj asked
  -- The record of this step alone: startup, if it was still to come, and the
  -- look.
  have whole : final.bench.events =
      openingScript session.station.cleared.scene ++ script :=
    recorded
  refine ⟨fun ready => ?_, fun hidden => ?_⟩
  · obtain ⟨⟨flags, read⟩, cleared⟩ := look.flags ready
    refine ⟨⟨flags, ?_⟩, cleared⟩
    change _ ∈ final.bench.events
    rw [whole]
    exact List.mem_append_right _ read
  · change ∀ event ∈ final.bench.events, _ at hidden
    rw [whole, List.forall_mem_append] at hidden
    have empty : Quietly (Vacant True) final :=
      ⟨sound, look.vacant hidden.2 vacant⟩
    refine ⟨?_, empty.2.available, ?_, ?_, ?_⟩
    · rw [(look.cases_of_hidden hidden.2).1]
    · intro later calm missed
      have stillSane : final.Sane := by
        have kept := sane_step sane (.call (.receive size))
        rwa [done] at kept
      have nothing :=
        @vacant_until ⟨final, session.chips⟩ later calm missed stillSane empty
      exact bytes_none nothing.2.available
    · change final.bench.events.count _ ≤ 1
      rw [whole, List.count_append, count_listens_openingScript, Nat.zero_add]
      exact look.count_listens hidden.2
    · intro polls calm missed
      exact passive_history calm missed ⟨sound, look.expectant hidden.2 started⟩

/-- One packet is read in part, and the next one has a wrong checksum. -/
theorem reception_sound_after_bad_packet :
    let steps : List Step :=
      [.stimulus (.deliver 0 [1, 2, 3] 0x40), .call (.receive 0),
        .call .readByte, .stimulus (.deliver 8 [4, 5] 0x60)]
    let later : List Step :=
      [.call (.setSyncWord 7), .call (.readBuffer [0, 0])]
    let polls : List Step :=
      [.stimulus (.deliver 16 [9] 0x20), .call (.receive 9), .call (.receive 0)]
    ((Session.start true true Chip.fresh).after
        steps).station.radio.available = 2 ∧
      ∃ next, ((Session.start true true Chip.fresh).after steps).step
            (.call (.receive 4)) = (.count 0, next) ∧
        next.station.radio.available = 0 ∧
        next.station.bench.events.count Event.listens = 1 ∧
        next.station.bench.chip.register RegisterName.irqFlags.address = 0 ∧
        ((next.after later).step (.call .readByte)).1 = .byte none ∧
        ∀ event ∈ next.history polls, event.isPassive = true := by
  intro steps later polls
  have calm : ∀ step ∈ steps, step.Calm := by simp [steps, Step.Calm]
  have unread :
      ((Session.start true true Chip.fresh).after
        steps).station.radio.available = 2 := by
    decide +kernel
  obtain ⟨-, looked⟩ := reception_sound true true Chip.fresh calm
  obtain ⟨flags, missed⟩ := looked 4 _ _ (Prod.eta _).symm
  have ready : (((Session.start true true Chip.fresh).after steps).step
      (.call (.receive 4))).2.station.radio.ready = true := by decide +kernel
  have once : (((Session.start true true Chip.fresh).after steps).step
      (.call (.receive 4))).2.station.bench.events.count Event.listens =
        1 := by decide +kernel
  have missedLater : (((Session.start true true Chip.fresh).after steps).step
      (.call (.receive 4))).2.Misses later := by decide +kernel
  have missedPolls : (((Session.start true true Chip.fresh).after steps).step
      (.call (.receive 4))).2.Misses polls := by decide +kernel
  obtain ⟨nothing, empty, silent, -, passive⟩ := missed (by decide +kernel)
  refine ⟨unread, _, ?_, empty, once, (flags ready).2, ?_, ?_⟩
  · rw [← nothing]
  · exact (silent later (by simp [later, Step.Calm]) missedLater).1
  · exact passive polls (by simp [polls, Step.Calm, Step.Polls]) missedPolls

end Session

end LoraRadio
