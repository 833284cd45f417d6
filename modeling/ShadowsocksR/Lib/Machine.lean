/-
  ShadowsocksR.Lib.Machine — a state machine driven by events, each enabled in some states:
  an event loop's callbacks, an application's calls, a protocol's messages.

  `Reach init` is every state a run from an initial state gets to, taking enabled events
  only; `Run s t` says `t` follows from `s` by enabled events, and `Trace s es t` that the
  events `es`, in order, lead from `s` to `t`.

  Proved: the induction rule for invariants (`Reach.inv`: holds initially and is kept by
  every enabled event from a reachable state); reachability is closed under runs
  (`Reach.run`); traces compose (`Trace.append`) and are runs (`Trace.run`); and a run
  exists from every state of a set `P` into a set `Q` when each state of `P` is in `Q` or has
  an enabled event into `P` that lowers a measure (`exists_run_of_measure`), which is how a
  loop is shown to be able to drain its queue.
  Nothing here names the program it is used for.
-/

import Mathlib

namespace StateMachine

variable {σ ε : Type}

/-- Which events may happen in a state, and the state each leads to. -/
structure Machine (σ ε : Type) where
  enabled : σ → ε → Prop
  step : σ → ε → σ

variable (M : Machine σ ε)

/-- One enabled event from `s` to `t`. -/
def Machine.Next (s t : σ) : Prop := ∃ e, M.enabled s e ∧ M.step s e = t

/-- `t` follows from `s` by enabled events. -/
def Machine.Run : σ → σ → Prop := Relation.ReflTransGen M.Next

/-- The states a run from an initial state reaches. -/
inductive Machine.Reach (init : σ → Prop) : σ → Prop
  | init {s : σ} : init s → Machine.Reach init s
  | step {s : σ} (e : ε) : Machine.Reach init s → M.enabled s e → Machine.Reach init (M.step s e)

/-- The events `es`, in order, lead from `s` to `t`, each enabled when it comes. -/
inductive Machine.Trace : σ → List ε → σ → Prop
  | nil (s : σ) : Machine.Trace s [] s
  | cons {s t : σ} {e : ε} {es : List ε} :
      M.enabled s e → Machine.Trace (M.step s e) es t → Machine.Trace s (e :: es) t

variable {M} {init : σ → Prop}

theorem Machine.Run.single {s : σ} {e : ε} (h : M.enabled s e) : M.Run s (M.step s e) :=
  Relation.ReflTransGen.single ⟨e, h, rfl⟩

theorem Machine.Run.head {s t : σ} {e : ε} (h : M.enabled s e) (hr : M.Run (M.step s e) t) :
    M.Run s t :=
  Relation.ReflTransGen.head ⟨e, h, rfl⟩ hr

theorem Machine.Trace.single {s : σ} {e : ε} (h : M.enabled s e) : M.Trace s [e] (M.step s e) :=
  .cons h (.nil _)

theorem Machine.Trace.append {s t u : σ} {es fs : List ε} (h₁ : M.Trace s es t) (h₂ : M.Trace t fs u) :
    M.Trace s (es ++ fs) u := by
  induction h₁ with
  | nil => exact h₂
  | cons he _ ih => exact .cons he (ih h₂)

theorem Machine.Trace.run {s t : σ} {es : List ε} (h : M.Trace s es t) : M.Run s t := by
  induction h with
  | nil => exact Relation.ReflTransGen.refl
  | cons he _ ih => exact Machine.Run.head he ih

/-- The induction rule for invariants. -/
theorem Machine.Reach.inv (P : σ → Prop) (h0 : ∀ s, init s → P s)
    (hstep : ∀ s e, M.Reach init s → P s → M.enabled s e → P (M.step s e)) :
    ∀ {s}, M.Reach init s → P s := by
  intro s hs
  induction hs with
  | init h => exact h0 _ h
  | step e hr he ih => exact hstep _ e hr ih he

theorem Machine.Reach.run {s t : σ} (hs : M.Reach init s) (hr : M.Run s t) : M.Reach init t := by
  induction hr with
  | refl => exact hs
  | tail _ hn ih =>
    obtain ⟨e, he, rfl⟩ := hn
    exact Machine.Reach.step e ih he

/-- A measure that some enabled event inside `P` lowers, until `Q` holds, gives a run from
every state of `P` into `Q`. -/
theorem exists_run_of_measure (μ : σ → Nat) (P Q : σ → Prop)
    (h : ∀ s, P s → Q s ∨ ∃ e, M.enabled s e ∧ P (M.step s e) ∧ μ (M.step s e) < μ s) :
    ∀ s, P s → ∃ t, M.Run s t ∧ Q t := by
  -- strong induction on the measure of the start
  suffices ∀ n s, μ s = n → P s → ∃ t, M.Run s t ∧ Q t from fun s hs => this _ s rfl hs
  intro n
  induction n using Nat.strong_induction_on with
  | _ n ih =>
    intro s hn hs
    rcases h s hs with hq | ⟨e, he, hp, hlt⟩
    · exact ⟨s, Relation.ReflTransGen.refl, hq⟩
    · obtain ⟨t, hrun, hq⟩ := ih _ (hn ▸ hlt) _ rfl hp
      exact ⟨t, Machine.Run.head he hrun, hq⟩

end StateMachine
