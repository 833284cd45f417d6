/-
  ShadowsocksR.Lib.Layers — calls that pass each chunk through two layers, a lower one whose
  outputs the upper one is given, as a protocol stack does.

  `runEach` gives a call its chunks one at a time and keeps each call's output, so that the
  outputs of one layer are the chunks of the next; `Framing.run` is their concatenation
  (`run_eq_runEach`).

  Proved: two calls that make the same output from related states, on the chunks they admit,
  and keep the relation, make the same outputs over every list of such chunks
  (`runEach_sim`); two layers stacked make, over every list of chunks, what the upper
  one makes of the lower one's outputs (`runEach_stack`); and the calls of a stream transform
  put out, chunk by chunk, what it puts out on their concatenation (`runEach_updateCall`),
  chunks as long as the ones they are given when the transform keeps lengths
  (`runEach_updateCall_length`).
  Nothing here names the program it is used for.
-/

import ShadowsocksR.Lib.Framing
import ShadowsocksR.Lib.StreamCipher

namespace Layers

open Framing StreamCipher

variable {σ τ ρ α β γ : Type}

/-- Each call's output in turn; `none` once a call rejects. -/
def runEach (call : τ → List α → τ × Option β) : τ → List (List α) → τ × Option (List β)
  | t, [] => (t, some [])
  | t, c :: cs =>
    match call t c with
    | (t', some o) => let r := runEach call t' cs; (r.1, r.2.map (o :: ·))
    | (t', none) => (t', none)

@[simp] theorem runEach_nil (call : τ → List α → τ × Option β) (t : τ) :
    runEach call t [] = (t, some []) := rfl

theorem runEach_cons_some {call : τ → List α → τ × Option β} {t t' : τ} {c : List α} {o : β}
    (h : call t c = (t', some o)) (cs : List (List α)) :
    runEach call t (c :: cs) = ((runEach call t' cs).1, (runEach call t' cs).2.map (o :: ·)) := by
  simp only [runEach, h]

theorem runEach_cons_none {call : τ → List α → τ × Option β} {t t' : τ} {c : List α}
    (h : call t c = (t', none)) (cs : List (List α)) : runEach call t (c :: cs) = (t', none) := by
  simp only [runEach, h]

/-- `run` concatenates what `runEach` keeps apart. -/
theorem run_eq_runEach (call : τ → List α → τ × Option (List γ)) :
    ∀ (cs : List (List α)) (t : τ),
      run call t cs = ((runEach call t cs).1, (runEach call t cs).2.map List.flatten) := by
  intro cs
  induction cs with
  | nil => intro t; rfl
  | cons c cs ih =>
    intro t
    rcases h : call t c with ⟨t', _ | o⟩
    · simp only [run, runEach, h, Option.map_none]
    · simp only [run, runEach, h, ih t', Option.map_map]
      rfl

/-! ## Two calls related on their states -/

/-- Two runs agree on the outputs when their first calls do and the runs after them do. -/
theorem runEach_cons_congr {call : τ → List α → τ × Option β} {call' : ρ → List α → ρ × Option β}
    {t : τ} {u : ρ} {c c' : List α} {cs cs' : List (List α)} (hout : (call t c).2 = (call' u c').2)
    (hrest : (runEach call (call t c).1 cs).2 = (runEach call' (call' u c').1 cs').2) :
    (runEach call t (c :: cs)).2 = (runEach call' u (c' :: cs')).2 := by
  rcases h₁ : call t c with ⟨t₁, o⟩
  rcases h₂ : call' u c' with ⟨u₁, o'⟩
  rw [h₁, h₂] at hout hrest
  dsimp only at hout hrest
  subst hout
  cases o with
  | none => rw [runEach_cons_none h₁, runEach_cons_none h₂]
  | some o => rw [runEach_cons_some h₁, runEach_cons_some h₂, hrest]

/-- Two calls agree on the outputs over every list of admitted chunks, when from every pair of
related states, on every admitted chunk, they make the same output and move to related
states. -/
theorem runEach_sim {call : τ → List α → τ × Option β} {call' : ρ → List α → ρ × Option β}
    (R : τ → ρ → Prop) (A : List α → Prop)
    (h : ∀ t u c, R t u → A c → (call t c).2 = (call' u c).2 ∧ R (call t c).1 (call' u c).1) :
    ∀ (cs : List (List α)) (t : τ) (u : ρ), R t u → (∀ c ∈ cs, A c) →
      (runEach call t cs).2 = (runEach call' u cs).2 := by
  intro cs
  induction cs with
  | nil => intro t u _ _; rfl
  | cons c cs ih =>
    intro t u hr hcs
    obtain ⟨hout, hr₁⟩ := h t u c hr (hcs c List.mem_cons_self)
    exact runEach_cons_congr hout (ih _ _ hr₁ (fun c' hc' => hcs c' (List.mem_cons_of_mem _ hc')))

/-! ## Two layers -/

/-- A call through two layers: the lower one's output, when it has one, is the upper one's
chunk. -/
def stack (lower : τ → List α → τ × Option (List β)) (upper : ρ → List β → ρ × Option γ) :
    ρ × τ → List α → (ρ × τ) × Option γ
  | (r, t), c =>
    match lower t c with
    | (t', some o) => let u := upper r o; ((u.1, t'), u.2)
    | (t', none) => ((r, t'), none)

/-- A stack's outputs over a list of chunks are what the upper layer makes of the lower
layer's outputs over it. -/
theorem runEach_stack (lower : τ → List α → τ × Option (List β)) (upper : ρ → List β → ρ × Option γ) :
    ∀ (cs : List (List α)) (r : ρ) (t : τ),
      (runEach (stack lower upper) (r, t) cs).2 =
        (runEach lower t cs).2.bind fun ds => (runEach upper r ds).2 := by
  intro cs
  induction cs with
  | nil => intro r t; rfl
  | cons c cs ih =>
    intro r t
    rcases hl : lower t c with ⟨t', o⟩
    cases o with
    | none =>
      have hs : stack lower upper (r, t) c = ((r, t'), none) := by simp only [stack, hl]
      rw [runEach_cons_none hs, runEach_cons_none hl]
      rfl
    | some o =>
      rcases hu : upper r o with ⟨r', o'⟩
      have hs : stack lower upper (r, t) c = ((r', t'), o') := by simp only [stack, hl, hu]
      rw [runEach_cons_some hl]
      -- the upper layer's first call decides, whatever the lower layer does next
      cases o' with
      | none =>
        rw [runEach_cons_none hs]
        cases (runEach lower t' cs).2 with
        | none => rfl
        | some ds => simp only [Option.map_some, Option.bind_some, runEach_cons_none hu]
      | some o' =>
        rw [runEach_cons_some hs, ih r' t']
        cases (runEach lower t' cs).2 with
        | none => rfl
        | some ds => simp only [Option.map_some, Option.bind_some, runEach_cons_some hu]

/-! ## A stream transform, call by call -/

/-- One call of a stream transform: its output, or `none` when it fails. -/
def updateCall (update : σ → List α → Option (σ × List β)) (s : σ) (c : List α) :
    σ × Option (List β) :=
  match update s c with
  | none => (s, none)
  | some (s', o) => (s', some o)

/-- A stack over a stream transform: the upper layer is given the transform's output when
there is one. -/
theorem stack_updateCall (update : σ → List α → Option (σ × List β)) (upper : ρ → List β → ρ × Option γ)
    (r : ρ) (t : σ) (c : List α) :
    stack (updateCall update) upper (r, t) c =
      match update t c with
      | none => ((r, t), none)
      | some (t', o) => (((upper r o).1, t'), (upper r o).2) := by
  simp only [stack, updateCall]
  cases update t c <;> rfl

/-- The chunks' outputs of a stream transform make up its output on their concatenation. -/
theorem runEach_updateCall {update : σ → List α → Option (σ × List β)} (h : IsStream update) :
    ∀ (cs : List (List α)) (s : σ),
      (runEach (updateCall update) s cs).2.map List.flatten = (update s cs.flatten).map Prod.snd := by
  intro cs
  induction cs with
  | nil => intro s; rw [List.flatten_nil, h.nil]; rfl
  | cons c cs ih =>
    intro s
    rw [List.flatten_cons, h.append]
    cases hc : update s c with
    | none =>
      rw [runEach_cons_none (show updateCall update s c = (s, none) by simp only [updateCall, hc])]
      rfl
    | some r =>
      obtain ⟨s₁, o₁⟩ := r
      rw [runEach_cons_some (show updateCall update s c = (s₁, some o₁) by simp only [updateCall, hc])]
      have ih₁ := ih s₁
      -- the rest of the chunks fail exactly when the rest of the concatenation does
      cases hr : (runEach (updateCall update) s₁ cs).2 with
      | none =>
        rw [hr, Option.map_none] at ih₁
        cases hu : update s₁ cs.flatten with
        | none => simp only [hu, Option.map_none]
        | some u => rw [hu] at ih₁; cases ih₁
      | some ds =>
        rw [hr, Option.map_some] at ih₁
        cases hu : update s₁ cs.flatten with
        | none => rw [hu] at ih₁; cases ih₁
        | some u =>
          rw [hu, Option.map_some, Option.some.injEq] at ih₁
          simp only [hu, Option.map_some, List.flatten_cons, ih₁]

/-- A transform that keeps lengths puts out, chunk by chunk, as many as it is given. -/
theorem runEach_updateCall_length {update : σ → List α → Option (σ × List β)}
    (h : ∀ s m s' o, update s m = some (s', o) → o.length = m.length) :
    ∀ (cs : List (List α)) (s : σ) (ds : List (List β)),
      (runEach (updateCall update) s cs).2 = some ds → ds.map List.length = cs.map List.length := by
  intro cs
  induction cs with
  | nil => intro s ds hds; cases hds; rfl
  | cons c cs ih =>
    intro s ds hds
    cases hc : update s c with
    | none =>
      rw [runEach_cons_none (show updateCall update s c = (s, none) by simp only [updateCall, hc])] at hds
      cases hds
    | some r =>
      obtain ⟨s₁, o⟩ := r
      rw [runEach_cons_some (show updateCall update s c = (s₁, some o) by simp only [updateCall, hc])] at hds
      -- the first output, then the rest of the run
      obtain ⟨ds', hds', rfl⟩ := Option.map_eq_some_iff.mp hds
      rw [List.map_cons, List.map_cons, h s c s₁ o hc, ih s₁ ds' hds']

end Layers
