import CommandLink.Channel.Step
import Mathlib.Tactic.Common

/-!
# Runs of a channel

A run performs actions one after the other and passes over those that are not enabled. So a run may
be given by any list of actions: the bytes of an arbitrary peer, routines of any kind, any order of
the agents' steps and any sizes of partial writes. `Channel.after` is the channel after a run and
`Channel.moments` is what happened in it.

Main statements: runs are put together as the lists are, `after_append` and `moments_append`; every
moment is a step of the channel, `step_of_mem_moments`; and what every step preserves holds after
every run, `run_induction`.
-/

namespace CommandLink

variable {ω ρ : Type}

/-- One step of a run. -/
structure Moment (ω ρ : Type) where
  before : Channel ω ρ
  action : Action ω ρ
  after : Channel ω ρ
  events : List (Event ρ)

theorem filterMap_concat {α β : Type} (f : α → Option β) (l : List α) (a : α) :
    (l ++ [a]).filterMap f = l.filterMap f ++ (f a).toList := by
  rw [List.filterMap_append]
  rcases h : f a with _ | b
  · simp [h]
  · simp [h]

namespace Channel

/-- What happens in a run. -/
def moments (c : Channel ω ρ) : List (Action ω ρ) → List (Moment ω ρ)
  | [] => []
  | action :: actions =>
    match c.step action with
    | none => c.moments actions
    | some (d, events) => ⟨c, action, d, events⟩ :: d.moments actions

/-- The channel after a run. -/
def after (c : Channel ω ρ) : List (Action ω ρ) → Channel ω ρ
  | [] => c
  | action :: actions =>
    match c.step action with
    | none => c.after actions
    | some (d, _) => d.after actions

variable (c : Channel ω ρ)

@[simp] theorem moments_nil : c.moments [] = [] := rfl

@[simp] theorem after_nil : c.after [] = c := rfl

variable {c} in
theorem moments_cons_of_step {d : Channel ω ρ} {action : Action ω ρ} {events : List (Event ρ)}
    (h : c.step action = some (d, events)) (actions : List (Action ω ρ)) :
    c.moments (action :: actions) = ⟨c, action, d, events⟩ :: d.moments actions := by
  rw [moments, h]

variable {c} in
theorem after_cons_of_step {d : Channel ω ρ} {action : Action ω ρ} {events : List (Event ρ)}
    (h : c.step action = some (d, events)) (actions : List (Action ω ρ)) :
    c.after (action :: actions) = d.after actions := by
  rw [after, h]

variable {c} in
theorem moments_cons_of_disabled {action : Action ω ρ} (h : c.step action = none)
    (actions : List (Action ω ρ)) : c.moments (action :: actions) = c.moments actions := by
  rw [moments, h]

variable {c} in
theorem after_cons_of_disabled {action : Action ω ρ} (h : c.step action = none)
    (actions : List (Action ω ρ)) : c.after (action :: actions) = c.after actions := by
  rw [after, h]

theorem after_append (first later : List (Action ω ρ)) :
    c.after (first ++ later) = (c.after first).after later := by
  induction first generalizing c with
  | nil => rfl
  | cons action first ih =>
    rw [List.cons_append]
    rcases h : c.step action with _ | ⟨d, events⟩
    · rw [after_cons_of_disabled h, after_cons_of_disabled h, ih]
    · rw [after_cons_of_step h, after_cons_of_step h, ih]

theorem moments_append (first later : List (Action ω ρ)) :
    c.moments (first ++ later) = c.moments first ++ (c.after first).moments later := by
  induction first generalizing c with
  | nil => rfl
  | cons action first ih =>
    rw [List.cons_append]
    rcases h : c.step action with _ | ⟨d, events⟩
    · rw [moments_cons_of_disabled h, moments_cons_of_disabled h, after_cons_of_disabled h, ih]
    · rw [moments_cons_of_step h, moments_cons_of_step h, after_cons_of_step h, ih,
        List.cons_append]

/-- Every moment of a run is a step of the channel. -/
theorem step_of_mem_moments {actions : List (Action ω ρ)} {m : Moment ω ρ}
    (hm : m ∈ c.moments actions) : m.before.step m.action = some (m.after, m.events) := by
  induction actions generalizing c with
  | nil => exact absurd hm (by simp)
  | cons action actions ih =>
    rcases h : c.step action with _ | ⟨d, events⟩
    · rw [moments_cons_of_disabled h] at hm
      exact ih c hm
    · rw [moments_cons_of_step h, List.mem_cons] at hm
      rcases hm with rfl | hm
      · exact h
      · exact ih d hm

/-- What happens in a run is among its actions. -/
theorem action_mem_of_mem_moments {actions : List (Action ω ρ)} {m : Moment ω ρ}
    (hm : m ∈ c.moments actions) : m.action ∈ actions := by
  induction actions generalizing c with
  | nil => cases hm
  | cons action actions ih =>
    rcases h : c.step action with _ | ⟨d, events⟩
    · rw [moments_cons_of_disabled h] at hm
      exact List.mem_cons_of_mem _ (ih c hm)
    · rw [moments_cons_of_step h, List.mem_cons] at hm
      rcases hm with rfl | hm
      · exact List.mem_cons_self
      · exact List.mem_cons_of_mem _ (ih d hm)

/-- A run comes to each of its moments, and goes on from there. -/
theorem split_of_moments {actions : List (Action ω ρ)} {past later : List (Moment ω ρ)}
    {m : Moment ω ρ} (h : c.moments actions = past ++ m :: later) :
    ∃ first rest, actions = first ++ m.action :: rest ∧ c.moments first = past ∧
      c.after first = m.before := by
  induction actions generalizing c past with
  | nil => simp at h
  | cons action actions ih =>
    rcases hs : c.step action with _ | ⟨d, events⟩
    · rw [moments_cons_of_disabled hs] at h
      obtain ⟨first, rest, rfl, hpast, hafter⟩ := ih c h
      exact ⟨action :: first, rest, rfl, by rw [moments_cons_of_disabled hs, hpast],
        by rw [after_cons_of_disabled hs, hafter]⟩
    · rw [moments_cons_of_step hs] at h
      rcases past with _ | ⟨m', past⟩
      · cases h
        exact ⟨[], actions, rfl, rfl, rfl⟩
      · rw [List.cons_append, List.cons.injEq] at h
        obtain ⟨rfl, h⟩ := h
        obtain ⟨first, rest, rfl, hpast, hafter⟩ := ih d h
        exact ⟨action :: first, rest, rfl, by rw [moments_cons_of_step hs, hpast],
          by rw [after_cons_of_step hs, hafter]⟩

/-- **Induction over runs.** What holds of a channel at first, and holds after every step after
which it did, holds after every run, together with what has happened. -/
theorem run_induction {P : List (Moment ω ρ) → Channel ω ρ → Prop} (start : P [] c)
    (step : ∀ past d action e events, P past d → d.step action = some (e, events) →
      P (past ++ [⟨d, action, e, events⟩]) e)
    (actions : List (Action ω ρ)) : P (c.moments actions) (c.after actions) := by
  suffices ∀ past, P past c → P (past ++ c.moments actions) (c.after actions) from this [] start
  clear start
  induction actions generalizing c with
  | nil =>
    intro past h
    rw [moments_nil, List.append_nil]
    exact h
  | cons action actions ih =>
    intro past h
    rcases hs : c.step action with _ | ⟨d, events⟩
    · rw [moments_cons_of_disabled hs, after_cons_of_disabled hs]
      exact ih c past h
    · rw [moments_cons_of_step hs, after_cons_of_step hs, List.append_cons]
      exact ih d _ (step past c action d events h hs)

end Channel

end CommandLink
