import ChronyNts.KeyExchange.Lifecycle

/-!
# Runs with a ghost

Some properties of an instance speak of what happened since it entered its state: the
direction `gnutls_record_get_direction` reported, the bytes sent or received, the
descriptors closed.  The instance record does not keep these, so a run carries a ghost
value beside the instance, updated from the instance before and after each event
(`ghostRun`).  The ghost never feeds back: the instance part of a ghost run is the plain
run (`ghostRun_fst`).

The events of a ghost run may carry more than an `NkeEvent` (what the environment
returned, for the ghost to record); `toEvent` says how each acts on the instance.

An invariant of the instance and its ghost is proved once per event and holds along
every run (`ghostRun_induction`).  Where it needs an assumption on the environment's
answers, the assumption is made of each event against the instance it meets
(`EventsMeet`).
-/

namespace ChronyNts.KeyExchange

section Ghost

variable {ε γ : Type} (env : KeEnv) (toEvent : ε → NkeEvent)
  (ghost : NkeInstance → ε → NkeInstance → γ → γ)

/-- The run from `s` over `events`, each acting on the instance as `toEvent` says, with
the ghost updated from the instance before, the event and the instance after. -/
def ghostRun : NkeInstance × γ → List ε → NkeInstance × γ
  | s, [] => s
  | (inst, g), e :: events =>
    ghostRun (nkeStep env inst (toEvent e), ghost inst e (nkeStep env inst (toEvent e)) g) events

theorem ghostRun_fst (s : NkeInstance × γ) (events : List ε) :
    (ghostRun env toEvent ghost s events).1 = nkeRun env s.1 (events.map toEvent) := by
  induction events generalizing s with
  | nil => rfl
  | cons e events ih => exact ih _

/-- Every event of `events` meets `Q` together with the instance it finds. -/
def EventsMeet (Q : NkeInstance → ε → Prop) : NkeInstance → List ε → Prop
  | _, [] => True
  | inst, e :: events => Q inst e ∧ EventsMeet Q (nkeStep env inst (toEvent e)) events

theorem eventsMeet_true (inst : NkeInstance) (events : List ε) :
    EventsMeet env toEvent (fun _ _ => True) inst events := by
  induction events generalizing inst with
  | nil => trivial
  | cons e events ih => exact ⟨trivial, ih _⟩

theorem eventsMeet_append {Q : NkeInstance → ε → Prop} (inst : NkeInstance)
    (events more : List ε) :
    EventsMeet env toEvent Q inst (events ++ more) ↔
      EventsMeet env toEvent Q inst events ∧
        EventsMeet env toEvent Q (nkeRun env inst (events.map toEvent)) more := by
  induction events generalizing inst with
  | nil => simp [EventsMeet]
  | cons e events ih => exact (and_congr_right' (ih _)).trans and_assoc.symm

/-- An invariant of the instance and its ghost that every event meeting `Q` keeps holds
along every run whose events meet `Q`. -/
theorem ghostRun_induction {P : NkeInstance × γ → Prop} {Q : NkeInstance → ε → Prop}
    (step : ∀ inst g e, P (inst, g) → Q inst e →
      P (nkeStep env inst (toEvent e), ghost inst e (nkeStep env inst (toEvent e)) g)) :
    ∀ (events : List ε) (s : NkeInstance × γ), P s → EventsMeet env toEvent Q s.1 events →
      P (ghostRun env toEvent ghost s events)
  | [], _, h, _ => h
  | e :: events, (inst, g), h, ⟨he, hevents⟩ =>
    ghostRun_induction step events _ (step inst g e h he) hevents

end Ghost

end ChronyNts.KeyExchange
