import LoraRadio.Proofs.Lasting

/-!
# The lifecycle in one go, or step by step

Readiness, the firmware version and standby can be asked for in one go, or by an
operation that can be dropped.  Unless it is dropped, the two make the same
transactions with the same faults, tell the caller the same and leave the same
driver on the same bench.
-/

namespace LoraRadio

namespace DeferredCall

def direct? : DeferredCall → Option Call
  | .isReady => some .isReady
  | .firmware => some .firmware
  | .idle => some .idle
  | .send _ | .sendText _ => none

variable {call : DeferredCall} {direct : Call}

theorem perform_none (pair : call.direct? = some direct) (station : Station) :
    call.perform none station = direct.perform station := by
  rw [call.perform_whole]
  cases call <;> cases pair <;> rfl

end DeferredCall

def Step.direct : Step → Step
  | .call (.deferred asked none) =>
      .call (asked.direct?.getD (.deferred asked none))
  | step => step

namespace Session

theorem step_direct (session : Session) (step : Step) :
    session.step step.direct = session.step step := by
  unfold Step.direct
  split
  · next asked =>
      cases pair : asked.direct? with
      | none => rfl
      | some direct =>
          simp only [Option.getD_some, Session.step, Call.perform,
            DeferredCall.perform_none pair]
  · rfl

/-- A request of the lifecycle has the same outcome in one go as in an operation
that is not dropped: the same answer, record, driver and chip, and so has every
session made of such requests. -/
theorem lifecycle_agrees (session : Session) :
    (∀ call direct, DeferredCall.direct? call = some direct → ∀ drop,
      drop ≠ none ∧ (session.step (.call (.deferred call drop))).1 = .dropped ∨
        session.step (.call (.deferred call drop)) =
          session.step (.call direct)) ∧
      ∀ steps, session.outcomes (steps.map Step.direct) =
        session.outcomes steps := by
  constructor
  · intro call direct pair drop
    have same := DeferredCall.perform_none pair
    cases drop with
    | none =>
        right
        simp only [step, Call.perform, same]
    | some drop =>
        rcases call.perform_drop drop
            ⟨session.station.radio, session.station.bench.clearTrace⟩
              with dropped | late
        · exact .inl ⟨Option.some_ne_none drop, dropped⟩
        · right
          simp only [step, Call.perform, late, same]
  · intro steps
    induction steps generalizing session with
    | nil => rfl
    | cons step rest ih => simp only [List.map_cons, outcomes, step_direct, ih]

end Session

end LoraRadio
