import LoraRadio.Proofs.KnownBits

/-!
# The last setting wins

After any sequence of setters the known settings, and with them the bits that
belong to the settings, depend only on the last value given for each parameter.
The order of the setters and all values that were given before have no
influence.
-/

namespace LoraRadio

open Operation

inductive Parameter where
  | frequency
  | power
  | spreadingFactor
  | bandwidth
  | codingRate
  | preambleLength
  | syncWord
  | checksum
  | polling
  deriving DecidableEq, Repr

/-- The known settings of one parameter; all others are at their defaults. -/
def Configuration.part (known : Configuration) : Parameter → Configuration
  | .frequency => { frequency := known.frequency }
  | .power => { power := known.power, amplifier := known.amplifier }
  | .spreadingFactor => { spreadingFactor := known.spreadingFactor }
  | .bandwidth => { bandwidth := known.bandwidth }
  | .codingRate => { codingRate := known.codingRate }
  | .preambleLength => { preambleLength := known.preambleLength }
  | .syncWord => { syncWord := known.syncWord }
  | .checksum => { checksum := known.checksum }
  | .polling => { polling := known.polling }

theorem Configuration.eq_of_part {first second : Configuration}
    (parts : ∀ parameter, first.part parameter = second.part parameter)
    (header : first.headerMode = second.headerMode) : first = second := by
  have frequency := congrArg Configuration.frequency (parts .frequency)
  have power := congrArg Configuration.power (parts .power)
  have amplifier := congrArg Configuration.amplifier (parts .power)
  have spreadingFactor :=
    congrArg Configuration.spreadingFactor (parts .spreadingFactor)
  have bandwidth := congrArg Configuration.bandwidth (parts .bandwidth)
  have codingRate := congrArg Configuration.codingRate (parts .codingRate)
  have preambleLength :=
    congrArg Configuration.preambleLength (parts .preambleLength)
  have syncWord := congrArg Configuration.syncWord (parts .syncWord)
  have checksum := congrArg Configuration.checksum (parts .checksum)
  have polling := congrArg Configuration.polling (parts .polling)
  cases first
  cases second
  simp_all [part]

namespace Setting

def parameter : Setting → Parameter
  | .frequency _ => .frequency
  | .power _ _ => .power
  | .spreadingFactor _ => .spreadingFactor
  | .bandwidth _ => .bandwidth
  | .codingRate _ => .codingRate
  | .preambleLength _ => .preambleLength
  | .syncWord _ => .syncWord
  | .checksum _ => .checksum
  | .polling _ => .polling

theorem ranges_congr {first second : Setting}
    (same : first.parameter = second.parameter) :
    first.ranges = second.ranges := by
  cases first <;> cases second <;> simp [parameter] at same <;> rfl

theorem part_configure (setting : Setting) (first second : Configuration) :
    (setting.configure first).part setting.parameter =
      (setting.configure second).part setting.parameter := by
  cases setting <;> rfl

theorem part_configure_of_ne {setting : Setting} {other : Parameter}
    (apart : setting.parameter ≠ other) (known : Configuration) :
    (setting.configure known).part other = known.part other := by
  cases setting <;> cases other <;> simp [parameter] at apart <;> rfl

/-! ## Lists of settings -/

def lastOf (parameter : Parameter) : List Setting → Option Setting
  | [] => none
  | setting :: rest =>
      (lastOf parameter rest).or (if setting.parameter = parameter then
        some setting else none)

variable {parameter : Parameter} {settings : List Setting}

theorem mem_of_lastOf {setting : Setting}
    (last : lastOf parameter settings = some setting) :
    setting ∈ settings ∧ setting.parameter = parameter := by
  induction settings with
  | nil => cases last
  | cons first rest ih =>
      rw [lastOf, Option.or_eq_some_iff] at last
      rcases last with later | ⟨-, here⟩
      · exact ⟨List.mem_cons_of_mem _ (ih later).1, (ih later).2⟩
      · split at here
        · next same =>
            cases here
            exact ⟨List.mem_cons_self, same⟩
        · cases here

theorem exists_lastOf {setting : Setting} (member : setting ∈ settings) :
    ∃ last, lastOf setting.parameter settings = some last := by
  induction settings with
  | nil => cases member
  | cons first rest ih =>
      rw [List.mem_cons] at member
      rw [lastOf]
      rcases member with rfl | later
      · cases lastOf setting.parameter rest <;> simp
      · obtain ⟨last, found⟩ := ih later
        exact ⟨last, by simp [found]⟩

def configureAll : List Setting → Configuration → Configuration
  | [], known => known
  | setting :: rest, known => configureAll rest (setting.configure known)

theorem part_configureAll (parameter : Parameter) (settings : List Setting)
    (known : Configuration) :
    (configureAll settings known).part parameter =
      match lastOf parameter settings with
      | some last => (last.configure known).part parameter
      | none => known.part parameter := by
  induction settings generalizing known with
  | nil => rfl
  | cons setting rest ih =>
      rw [configureAll, ih, lastOf]
      cases last : lastOf parameter rest with
      | some later =>
          obtain ⟨-, rfl⟩ := mem_of_lastOf last
          exact later.part_configure _ _
      | none =>
          by_cases here : setting.parameter = parameter
          · simp [here]
          · simp [here, part_configure_of_ne here]

theorem headerMode_configureAll (settings : List Setting)
    (known : Configuration) :
    (configureAll settings known).headerMode = known.headerMode := by
  induction settings generalizing known with
  | nil => rfl
  | cons setting rest ih =>
      rw [configureAll, ih]
      cases setting <;> rfl

theorem configureAll_congr {first second : List Setting}
    (agree : ∀ parameter, lastOf parameter first = lastOf parameter second)
    (known : Configuration) :
    configureAll first known = configureAll second known := by
  apply Configuration.eq_of_part
  · intro parameter
    rw [part_configureAll, part_configureAll, agree]
  · rw [headerMode_configureAll, headerMode_configureAll]

theorem mem_ranges_of_agree {first second : List Setting}
    (agree : ∀ parameter, lastOf parameter first = lastOf parameter second)
    {range : BitRange} (member : range ∈ first.flatMap ranges) :
    range ∈ second.flatMap ranges := by
  rw [List.mem_flatMap] at member ⊢
  obtain ⟨setting, used, owned⟩ := member
  obtain ⟨last, found⟩ := exists_lastOf used
  rw [agree] at found
  obtain ⟨alsoUsed, same⟩ := mem_of_lastOf found
  exact ⟨last, alsoUsed, ranges_congr same ▸ owned⟩

/-! ## Scenes -/

def applyAll : List Setting → Scene → Scene
  | [], scene => scene
  | setting :: rest, scene => applyAll rest (setting.applyTo scene)

end Setting

/-- In the ranges the chip has what the driver knows, and outside of them
nothing has changed. -/
structure Scene.Written (origin : Chip) (ranges : List BitRange)
    (scene : Scene) : Prop where
  same : origin.SameOutside ranges scene.chip
  holds : scene.chip.Holds scene.radio.configuration.byte ranges

namespace Scene.Written

variable {origin : Chip} {ranges : List BitRange} {scene : Scene}

theorem applyTo (written : Written origin ranges scene) (setting : Setting) :
    Written origin (ranges ++ setting.ranges) (setting.applyTo scene) where
  same := by
    have before :=
      written.same.mono fun _ => List.mem_append_left setting.ranges
    exact before.trans
      ((setting.sameOutside_program _ _).mono fun _ => List.mem_append_right _)
  holds := by
    have own :=
      setting.holds_program (setting.configure scene.radio.configuration)
        scene.chip
    refine .append (fun range member position within above below => ?_) own
    by_cases covered : Covered setting.ranges range.name.address position
    · -- Two owners of a bit ask for the same value.
      obtain ⟨other, owned, here, has⟩ := covered
      rw [RegisterName.address_inj] at here
      rw [← here]
      exact own other owned position within has.1 has.2
    · have kept := (setting.sameOutside_program
        (setting.configure scene.radio.configuration) scene.chip).bits _
          position within covered
      have asked :=
        setting.bit_byte_configure scene.radio.configuration within covered
      have held := written.holds range member position within above below
      exact kept.trans (held.trans asked.symm)

theorem applyAll (written : Written origin ranges scene)
    (settings : List Setting) :
    Written origin (ranges ++ settings.flatMap Setting.ranges)
      (Setting.applyAll settings scene) := by
  induction settings generalizing ranges scene with
  | nil => simpa [Setting.applyAll] using written
  | cons setting rest ih =>
      rw [List.flatMap_cons, ← List.append_assoc]
      exact ih (written.applyTo setting)

end Scene.Written

namespace Setting

theorem applyAll_eq (settings : List Setting) (scene : Scene) :
    applyAll settings scene =
      (scene.withChip (applyAll settings scene).chip).configure
        (configureAll settings) := by
  induction settings generalizing scene with
  | nil => rfl
  | cons setting rest ih =>
      rw [applyAll, ih]
      rfl

theorem applyAll_congr {first second : List Setting}
    (agree : ∀ parameter, lastOf parameter first = lastOf parameter second)
    (scene : Scene) :
    applyAll first scene = applyAll second scene := by
  have start : Scene.Written scene.chip [] scene := ⟨.refl _, .nil _ _⟩
  have left := start.applyAll first
  have right := start.applyAll second
  have known := configureAll_congr agree scene.radio.configuration
  have sameKnown : (applyAll second scene).radio.configuration =
      (applyAll first scene).radio.configuration := by
    rw [applyAll_eq first, applyAll_eq second]
    exact known.symm
  rw [List.nil_append] at left right
  -- The same bits are owned by the settings of both lists.
  have rightSame :=
    right.same.mono fun _ => mem_ranges_of_agree fun other => (agree other).symm
  have rightHolds := right.holds.mono fun _ => mem_ranges_of_agree agree
  rw [sameKnown] at rightHolds
  have chip := Chip.eq_of_holds left.same rightSame left.holds rightHolds
  rw [applyAll_eq first, applyAll_eq second, chip]
  exact congrArg
    (fun settings => (scene.withChip _).configure fun _ => settings) known

end Setting

/-! ## Calls -/

namespace Call

variable {station : Station}

theorem performAll_settings (sound : station.bench.Sound)
    (ready : station.radio.ready = true)
    (legal : station.radio.configuration.Legal) (settings : List Setting) :
    ∃ final, performAll (settings.map Setting.call) station =
        (List.replicate settings.length .done, final) ∧
      final.scene = Setting.applyAll settings station.scene := by
  induction settings generalizing station with
  | nil => exact ⟨station, rfl, rfl⟩
  | cons setting rest ih =>
      obtain ⟨reached, first, sound, scene⟩ :=
        setting.exists_perform_call sound ready legal
      have radio : reached.radio = (setting.applyTo station.scene).radio :=
        congrArg Scene.radio scene
      have stillReady : reached.radio.ready = true := by
        rw [radio]
        exact ready
      have stillLegal : reached.radio.configuration.Legal := by
        rw [radio]
        exact setting.legal_configure legal
      obtain ⟨final, others, last⟩ := ih sound stillReady stillLegal
      refine ⟨final, performAll_cons first others, ?_⟩
      rw [last, scene]
      rfl

/-- Two sequences of setters that give every parameter the same last value, if
any, leave the driver and its chip in the same state.  So setters of different
parameters can be exchanged, and a setter can be repeated. -/
theorem last_setting_wins (sound : station.bench.Sound)
    (ready : station.radio.ready = true)
    (legal : station.radio.configuration.Legal) :
    let run (settings : List Setting) :=
      performAll (settings.map Setting.call) station
    (∀ first second : List Setting,
      (∀ parameter, Setting.lastOf parameter first =
        Setting.lastOf parameter second) →
      (∀ reply ∈ (run first).1, reply = .done) ∧
        (run first).2.scene = (run second).2.scene) ∧
    (∀ first second : Setting, first.parameter ≠ second.parameter →
      (run [first, second]).2.scene = (run [second, first]).2.scene) ∧
    ∀ setting : Setting,
      (run [setting, setting]).2.scene = (run [setting]).2.scene := by
  intro run
  have told (settings : List Setting) (reply : Reply)
      (member : reply ∈ (run settings).1) :
      reply = .done := by
    obtain ⟨final, performed, -⟩ :=
      performAll_settings sound ready legal settings
    rw [show run settings = _ from performed] at member
    exact List.eq_of_mem_replicate member
  have reached (settings : List Setting) :
      (run settings).2.scene = Setting.applyAll settings station.scene := by
    obtain ⟨final, performed, scene⟩ :=
      performAll_settings sound ready legal settings
    rw [show run settings = _ from performed, scene]
  have same {first second : List Setting}
      (agree : ∀ parameter, Setting.lastOf parameter first =
        Setting.lastOf parameter second) :
      (run first).2.scene = (run second).2.scene := by
    rw [reached, reached, Setting.applyAll_congr agree]
  refine ⟨fun first second agree => ⟨told first, same agree⟩,
    fun first second apart => same ?_, fun setting => same ?_⟩
  · intro parameter
    simp only [Setting.lastOf]
    grind
  · intro parameter
    simp only [Setting.lastOf]
    grind

/-- The first way goes through slow symbols and back, on a chip with all bits
set. -/
theorem last_setting_wins_after_detour :
    let station : Station :=
      ⟨{ connection := ⟨0, true, true⟩, lifecycle := .ready },
        { chip := { Chip.fresh with registers := Vector.replicate 128 0xFF } }⟩
    let detour : List Setting :=
      [.spreadingFactor 12, .checksum true, .bandwidth 7800, .spreadingFactor 8,
        .bandwidth 250000]
    let direct : List Setting :=
      [.bandwidth 250000, .spreadingFactor 8, .checksum true]
    (∀ parameter, Setting.lastOf parameter detour =
        Setting.lastOf parameter direct) ∧
      (∀ reply ∈ (performAll (detour.map Setting.call) station).1,
        reply = .done) ∧
      (performAll (detour.map Setting.call) station).2.scene =
        (performAll (direct.map Setting.call) station).2.scene := by
  intro station detour direct
  have agree (parameter : Parameter) :
      Setting.lastOf parameter detour = Setting.lastOf parameter direct := by
    cases parameter <;> rfl
  have wins :=
    @last_setting_wins station ⟨rfl, rfl⟩ rfl Configuration.legal_default
  exact ⟨agree, wins.1 detour direct agree⟩

end Call

end LoraRadio
