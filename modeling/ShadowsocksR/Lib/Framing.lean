/-
  ShadowsocksR.Lib.Framing — a receiver that buffers what it is given and cuts complete
  frames off the front, under every segmentation of its input.

  A frame loop's body (`Step`) looks at the bytes buffered so far and decides: wait for more
  (`more`, in a state that may record what the pass learnt), reject (`fail`), or cut a frame
  of `n` bytes off the front, handing on one output and moving to a new state (`frame`). `drain` runs the body until it waits or fails, as a
  `while (buffered > k) { ... }` loop does; `run` gives a receiver its chunks one call at a
  time.

  A sender whose frames `f₁ … fₖ` the body reads one after another (`Chain`: each `fᵢ`,
  followed by anything, is cut as one frame, and every proper prefix of it waits) is
  understood however its bytes are cut into chunks:
  - `drain_chain`: draining whole frames and then a waiting tail hands on the frames' outputs
    and keeps the tail;
  - `chain_prefix`: every prefix of the wire is whole frames and a proper prefix of the next;
  - `run_chain`: a receiver each of whose calls appends the chunk and drains (`Drains`)
    never rejects any cut of the wire into chunks it admits, hands on the frames' outputs in
    order and ends in the chain's last state with nothing buffered;
  - `run_chainWhen`: the same for a body that misreads some proper prefixes of a frame, over
    the cuts whose every pending tail it reads right, for a receiver that follows the body's
    chains (`FollowsOn`), as one does whose loop is the body seen through a map
    (`drain_chainWhen_map`).
  Nothing here names the program it is used for.
-/

import Mathlib

namespace Framing

variable {σ α β γ τ : Type}

/-- What one pass of a frame loop's body decides about the buffered bytes. -/
inductive Step (σ α β : Type) where
  /-- too few bytes: wait for the next chunk, going on from `s` -/
  | more (s : σ)
  /-- reject, leaving this state and this buffer behind -/
  | fail (s : σ) (rest : List α)
  /-- cut `n` bytes off the front, hand on `o`, go on from `s` -/
  | frame (n : Nat) (o : β) (s : σ)

/-- Where a loop stopped: whether it rejected, its state, what stayed buffered, and the
    outputs of the frames it cut, in order. -/
structure Drained (σ α β : Type) where
  ok : Bool
  state : σ
  rest : List α
  out : List β

/-- Run the body until it waits or rejects, at most `fuel` times. -/
def drain (step : σ → List α → Step σ α β) : Nat → σ → List α → Drained σ α β
  | 0, s, buf => ⟨true, s, buf, []⟩
  | fuel + 1, s, buf =>
    match step s buf with
    | .more s' => ⟨true, s', buf, []⟩
    | .fail s' rest => ⟨false, s', rest, []⟩
    | .frame n o s' =>
      let r := drain step fuel s' (buf.drop n)
      { r with out := o :: r.out }

/-- A property of the state that a pass keeps: of the state it goes on from or stops in. -/
def Keeps (P : σ → Prop) : Step σ α β → Prop
  | .more s => P s
  | .fail s _ => P s
  | .frame _ _ s => P s

/-- What every pass of the body keeps, the loop keeps. -/
theorem drain_keeps {step : σ → List α → Step σ α β} (P : σ → Prop)
    (hstep : ∀ s buf, P s → Keeps P (step s buf)) :
    ∀ fuel s buf, P s → P (drain step fuel s buf).state := by
  intro fuel
  induction fuel with
  | zero => intro s buf hs; exact hs
  | succ fuel ih =>
    intro s buf hs
    have hk := hstep s buf hs
    simp only [drain]
    split
    · rename_i s' heq
      rw [heq] at hk; exact hk
    · rename_i s' rest heq
      rw [heq] at hk; exact hk
    · rename_i n o s' heq
      rw [heq] at hk; exact ih s' _ hk

/-- Two passes that agree up to `R` on states: both wait, both reject leaving the same buffer,
    or both cut the same frame with the same output, in related states. -/
def StepRel (R : σ → σ → Prop) : Step σ α β → Step σ α β → Prop
  | .more s, .more s' => R s s'
  | .fail s r, .fail s' r' => R s s' ∧ r = r'
  | .frame n o s, .frame n' o' s' => n = n' ∧ o = o' ∧ R s s'
  | _, _ => False

/-- `StepRel` of a symmetric relation is symmetric. -/
theorem StepRel.symm {R : σ → σ → Prop} (hR : ∀ a b, R a b → R b a) {x y : Step σ α β}
    (h : StepRel R x y) : StepRel R y x := by
  cases x <;> cases y <;> simp only [StepRel] at h ⊢
  case more.more => exact hR _ _ h
  case fail.fail => exact ⟨hR _ _ h.1, h.2.symm⟩
  case frame.frame => exact ⟨h.1.symm, h.2.1.symm, hR _ _ h.2.2⟩

/-- `StepRel` of a transitive relation is transitive. -/
theorem StepRel.trans {R : σ → σ → Prop} (hR : ∀ a b c, R a b → R b c → R a c)
    {x y z : Step σ α β} (h₁ : StepRel R x y) (h₂ : StepRel R y z) : StepRel R x z := by
  cases x <;> cases y <;> cases z <;> simp only [StepRel] at h₁ h₂ ⊢
  case more.more.more => exact hR _ _ _ h₁ h₂
  case fail.fail.fail => exact ⟨hR _ _ _ h₁.1 h₂.1, h₁.2.trans h₂.2⟩
  case frame.frame.frame => exact ⟨h₁.1.trans h₂.1, h₁.2.1.trans h₂.2.1, hR _ _ _ h₁.2.2 h₂.2.2⟩

/-- Two loops that agree up to `R` on states: the same verdict, tail and outputs. -/
def Drained.Rel (R : σ → σ → Prop) (r r' : Drained σ α β) : Prop :=
  r.ok = r'.ok ∧ r.rest = r'.rest ∧ r.out = r'.out ∧ R r.state r'.state

/-- Loops from related states agree, when every pass from related states does. -/
theorem drain_rel {step : σ → List α → Step σ α β} (R : σ → σ → Prop)
    (hstep : ∀ s s' buf, R s s' → StepRel R (step s buf) (step s' buf)) :
    ∀ fuel s s' buf, R s s' → Drained.Rel R (drain step fuel s buf) (drain step fuel s' buf) := by
  intro fuel
  induction fuel with
  | zero => intro s s' buf h; exact ⟨rfl, rfl, rfl, h⟩
  | succ fuel ih =>
    intro s s' buf h
    have hr := hstep s s' buf h
    simp only [drain]
    -- by `hr` the two passes have the same shape; the loop goes on alike after a frame
    cases h₁ : step s buf <;> cases h₂ : step s' buf <;> rw [h₁, h₂] at hr <;>
      simp only [StepRel] at hr
    case more.more => exact ⟨rfl, rfl, rfl, hr⟩
    case fail.fail => exact ⟨rfl, hr.2, rfl, hr.1⟩
    case frame.frame n o t n' o' t' =>
      obtain ⟨rfl, rfl, hR⟩ := hr
      obtain ⟨hok, hrest, hout, hst⟩ := ih t t' (buf.drop n) hR
      exact ⟨hok, hrest, by simp only [hout], hst⟩

/-- The loop as the program runs it: a frame takes at least one byte, so one pass per
    buffered byte and one more to stop is enough. -/
def drainAll (step : σ → List α → Step σ α β) (s : σ) (buf : List α) : Drained σ α β :=
  drain step (buf.length + 1) s buf

/-! ## Frames a sender writes -/

variable (step : σ → List α → Step σ α β)

/-- From `s`, the body reads `f` as one frame with output `o`, going on from `t`: `f`
    followed by anything is cut as that frame, and every proper prefix of `f` waits. -/
structure Reads (s : σ) (f : List α) (o : β) (t : σ) : Prop where
  pos : 0 < f.length
  whole : ∀ r, step s (f ++ r) = .frame f.length o t
  part : ∀ q, q <+: f → q.length < f.length → step s q = .more s

/-- Frames the body reads one after another, from `s` to `u`. -/
inductive Chain : σ → List (List α × β) → σ → Prop
  | nil (s : σ) : Chain s [] s
  | cons {s t u : σ} {f : List α} {o : β} {fs : List (List α × β)} :
      Reads step s f o t → Chain t fs u → Chain s ((f, o) :: fs) u

/-- The bytes of some frames, back to back. -/
def wire (fs : List (List α × β)) : List α := (fs.map Prod.fst).flatten

/-- The outputs of some frames, in order. -/
def outs (fs : List (List α × β)) : List β := fs.map Prod.snd

@[simp] theorem wire_nil : wire ([] : List (List α × β)) = [] := rfl

@[simp] theorem wire_cons (f : List α) (o : β) (fs : List (List α × β)) :
    wire ((f, o) :: fs) = f ++ wire fs := rfl

@[simp] theorem wire_append (fs gs : List (List α × β)) : wire (fs ++ gs) = wire fs ++ wire gs := by
  simp [wire]

@[simp] theorem outs_nil : outs ([] : List (List α × β)) = [] := rfl

@[simp] theorem outs_cons (f : List α) (o : β) (fs : List (List α × β)) :
    outs ((f, o) :: fs) = o :: outs fs := rfl

@[simp] theorem outs_append (fs gs : List (List α × β)) : outs (fs ++ gs) = outs fs ++ outs gs := by
  simp [outs]

/-- Every frame of the list is at most `B` long. -/
def Bounded (B : Nat) (fs : List (List α × β)) : Prop := ∀ f ∈ fs.map Prod.fst, f.length ≤ B

@[simp] theorem bounded_nil (B : Nat) : Bounded B ([] : List (List α × β)) := by
  simp [Bounded]

@[simp] theorem bounded_cons {B : Nat} {f : List α} {o : β} {fs : List (List α × β)} :
    Bounded B ((f, o) :: fs) ↔ f.length ≤ B ∧ Bounded B fs := by
  simp [Bounded]

theorem Bounded.append {B : Nat} {fs gs : List (List α × β)} (h₁ : Bounded B fs)
    (h₂ : Bounded B gs) : Bounded B (fs ++ gs) := by
  intro f hf
  rw [List.map_append, List.mem_append] at hf
  rcases hf with hf | hf
  · exact h₁ f hf
  · exact h₂ f hf

variable {step}

theorem Chain.append {s t u : σ} {fs gs : List (List α × β)} (h₁ : Chain step s fs t)
    (h₂ : Chain step t gs u) : Chain step s (fs ++ gs) u := by
  induction h₁ with
  | nil => exact h₂
  | cons hr _ ih => exact .cons hr (ih h₂)

/-- Each frame takes a byte at least, so there are no more frames than bytes. -/
theorem Chain.length_le {s u : σ} {fs : List (List α × β)} (h : Chain step s fs u) :
    fs.length ≤ (wire fs).length := by
  induction h with
  | nil => simp
  | cons hr _ ih => simp only [List.length_cons, wire_cons, List.length_append]; have := hr.pos; omega

theorem Chain.nil_eq {s u : σ} (h : Chain step s ([] : List (List α × β)) u) : s = u := by
  cases h; rfl

/-! ## Draining -/

/-- **Whole frames and a waiting tail.** The loop cuts every frame, hands on their outputs and
    keeps the tail, given a pass for each frame and one to stop. -/
theorem drain_chain {s u : σ} {fs : List (List α × β)} (h : Chain step s fs u) {q : List α}
    (hq : step u q = .more u) {fuel : Nat} (hfuel : fs.length < fuel) :
    drain step fuel s (wire fs ++ q) = ⟨true, u, q, outs fs⟩ := by
  induction h generalizing fuel with
  | nil s =>
    obtain ⟨n, rfl⟩ : ∃ n, fuel = n + 1 := ⟨fuel - 1, by simp at hfuel; omega⟩
    simp [drain, hq]
  | @cons s t u f o fs hr _ ih =>
    obtain ⟨n, rfl⟩ : ∃ n, fuel = n + 1 := ⟨fuel - 1, by simp at hfuel; omega⟩
    have hcut : step s (f ++ (wire fs ++ q)) = .frame f.length o t := hr.whole _
    simp only [drain, wire_cons, List.append_assoc, hcut, List.drop_left]
    rw [ih hq (by simp at hfuel; omega)]
    rfl

/-- Where a prefix of the wire ends: at the end of the last frame, or inside the next one. -/
def Pending (fs : List (List α × β)) (q : List α) : Prop :=
  (fs = [] ∧ q = []) ∨ ∃ f o gs, fs = (f, o) :: gs ∧ q <+: f ∧ q.length < f.length

/-- A prefix of `f ++ x` is a proper prefix of `f`, or `f` followed by a prefix of `x`. -/
theorem prefix_append_cases {P f x : List α} (h : P <+: f ++ x) :
    (P <+: f ∧ P.length < f.length) ∨ ∃ P', P = f ++ P' ∧ P' <+: x := by
  have hP : P = (f ++ x).take P.length := List.prefix_iff_eq_take.mp h
  by_cases hl : P.length < f.length
  · left
    rw [List.take_append_of_le_length (by omega)] at hP
    exact ⟨hP ▸ List.take_prefix _ _, hl⟩
  · right
    rw [List.take_append, List.take_of_length_le (by omega)] at hP
    exact ⟨_, hP, List.take_prefix _ _⟩

/-- **Every prefix of the wire is whole frames and a proper prefix of the next one.** -/
theorem chain_prefix {s u : σ} {fs : List (List α × β)} (h : Chain step s fs u) {P : List α}
    (hP : P <+: wire fs) :
    ∃ fs₁ fs₂ t q, fs = fs₁ ++ fs₂ ∧ Chain step s fs₁ t ∧ Chain step t fs₂ u ∧
      P = wire fs₁ ++ q ∧ Pending fs₂ q := by
  induction h generalizing P with
  | nil s =>
    have : P = [] := List.eq_nil_of_length_eq_zero (by simpa using hP.length_le)
    exact ⟨[], [], s, [], rfl, .nil s, .nil s, by simp [this], .inl ⟨rfl, rfl⟩⟩
  | @cons s t u f o fs hr hc ih =>
    rcases prefix_append_cases (by simpa using hP) with ⟨hpre, hlt⟩ | ⟨P', rfl, hP'⟩
    · exact ⟨[], (f, o) :: fs, s, P, rfl, .nil s, .cons hr hc, rfl, .inr ⟨f, o, fs, rfl, hpre, hlt⟩⟩
    · obtain ⟨fs₁, fs₂, t', q, rfl, h₁, h₂, rfl, hpend⟩ := ih hP'
      exact ⟨(f, o) :: fs₁, fs₂, t', q, rfl, .cons hr h₁, h₂, by simp, hpend⟩

/-- The bytes left pending wait: inside a frame by `Reads.part`, at the end by `hnil`. -/
theorem Pending.waits {t u : σ} {fs : List (List α × β)} {q : List α} (hc : Chain step t fs u)
    (hp : Pending fs q) (hnil : step u [] = .more u) : step t q = .more t := by
  rcases hp with ⟨rfl, rfl⟩ | ⟨f, o, gs, rfl, hpre, hlt⟩
  · rw [hc.nil_eq]; exact hnil
  · cases hc with
    | cons hr _ => exact hr.part q hpre hlt

/-- Draining any prefix of the wire, as the program runs the loop. -/
theorem drainAll_prefix {s u : σ} {fs : List (List α × β)} (h : Chain step s fs u)
    (hnil : step u [] = .more u) {P : List α} (hP : P <+: wire fs) :
    ∃ fs₁ fs₂ t q, fs = fs₁ ++ fs₂ ∧ Chain step t fs₂ u ∧ Pending fs₂ q ∧ P = wire fs₁ ++ q ∧
      drainAll step s P = ⟨true, t, q, outs fs₁⟩ := by
  obtain ⟨fs₁, fs₂, t, q, rfl, h₁, h₂, rfl, hpend⟩ := chain_prefix h hP
  refine ⟨fs₁, fs₂, t, q, rfl, h₂, hpend, rfl, ?_⟩
  have hlen := h₁.length_le
  exact drain_chain h₁ (hpend.waits h₂ hnil) (by simp only [List.length_append]; omega)

/-! ## Chunks one call at a time -/

/-- A receiver given chunks in order: each call takes its state and a chunk to its next state
    and, unless it rejects, what it hands on. -/
def run (call : τ → List α → τ × Option (List γ)) : τ → List (List α) → τ × Option (List γ)
  | t, [] => (t, some [])
  | t, c :: cs =>
    match call t c with
    | (t', some o) => let r := run call t' cs; (r.1, r.2.map (o ++ ·))
    | (t', none) => (t', none)

/-- Each call, on a chunk it admits, appends the chunk to the buffer `view` reads off its state
    and drains it: a rejection rejects, and otherwise what the frames hand on is passed up
    (each frame's output as `emit` spells it) and the loop's state and tail are what `view`
    reads next. -/
def Drains (body : σ → List α → Step σ α β) (call : τ → List α → τ × Option (List γ))
    (view : τ → σ × List α) (admits : List α → List α → Prop) (emit : β → List γ) : Prop :=
  ∀ t c, admits (view t).2 c →
    let r := drainAll body (view t).1 ((view t).2 ++ c)
    (r.ok = false → (call t c).2 = none) ∧
      (r.ok = true → (call t c).2 = some (r.out.flatMap emit) ∧
        view (call t c).1 = (r.state, r.rest))

/-- The run from a state with the tail `q` of a frame buffered. -/
theorem run_pending {call : τ → List α → τ × Option (List γ)} {view : τ → σ × List α}
    {admits : List α → List α → Prop} {emit : β → List γ} (hcall : Drains step call view admits emit)
    {u : σ} (hnil : step u [] = .more u) {B : Nat} {cs : List (List α)}
    (hadm : ∀ q, q.length < B ∨ q = [] → ∀ c ∈ cs, admits q c) :
    ∀ {t : τ} {s : σ} {fs : List (List α × β)} {q : List α}, Chain step s fs u →
      Bounded B fs → Pending fs q → q ++ cs.flatten = wire fs →
      view t = (s, q) →
        view (run call t cs).1 = (u, []) ∧ (run call t cs).2 = some ((outs fs).flatMap emit) := by
  induction cs with
  | nil =>
    intro t s fs q h _ hpend hcs ht
    rcases hpend with ⟨rfl, rfl⟩ | ⟨f, o, gs, rfl, -, hlt⟩
    · simp [run, ht, h.nil_eq]
    · have : (wire ((f, o) :: gs)).length = q.length := by rw [← hcs]; simp
      simp at this; omega
  | cons c cs ih =>
    intro t s fs q h hB hpend hcs ht
    have hq : q.length < B ∨ q = [] := by
      rcases hpend with ⟨-, rfl⟩ | ⟨f, o, gs, rfl, -, hlt⟩
      · exact .inr rfl
      · exact .inl (by have := hB f (by simp); omega)
    have hpre : q ++ c <+: wire fs := ⟨cs.flatten, by simpa using hcs⟩
    obtain ⟨fs₁, fs₂, t', q', rfl, h₂, hpend', hc, hdr⟩ := drainAll_prefix h hnil hpre
    have hstep := hcall t c (by rw [ht]; exact hadm q hq c (by simp))
    simp only [ht, hdr] at hstep
    obtain ⟨hout, hview⟩ := hstep.2 trivial
    -- the chunks after `c` carry the new tail `q'` and the frames after it
    have hrest : q' ++ cs.flatten = wire fs₂ := by
      have : wire fs₁ ++ (q' ++ cs.flatten) = wire fs₁ ++ wire fs₂ := by
        rw [← List.append_assoc, ← hc, ← wire_append, ← hcs]; simp
      exact List.append_cancel_left this
    have hB₂ : Bounded B fs₂ := fun f hf => hB f (by rw [List.map_append]; exact List.mem_append_right _ hf)
    generalize hct : call t c = r at hout hview
    obtain ⟨t₁, o⟩ := r
    simp only at hout hview
    subst hout
    obtain ⟨hv, ho⟩ := ih (fun q hq c hc => hadm q hq c (by simp [hc])) h₂ hB₂ hpend' hrest hview
    simp only [run, hct]
    exact ⟨hv, by simp [ho, List.flatMap_append]⟩

/-- **Segmentation does not matter.** A receiver that drains each admitted chunk, started with
    nothing buffered in the state a chain starts from, given chunks that cut the chain's wire
    and are admitted whatever proper prefix of a frame is buffered, hands on the chain's
    outputs and ends in its last state with nothing buffered. -/
theorem run_chain {call : τ → List α → τ × Option (List γ)} {view : τ → σ × List α}
    {admits : List α → List α → Prop} {emit : β → List γ} (hcall : Drains step call view admits emit)
    {s u : σ} {fs : List (List α × β)} (h : Chain step s fs u) (hnil : step u [] = .more u)
    {B : Nat} (hB : Bounded B fs)
    {cs : List (List α)} (hadm : ∀ q, q.length < B ∨ q = [] → ∀ c ∈ cs, admits q c)
    (hcs : cs.flatten = wire fs) {t : τ} (ht : view t = (s, [])) :
    view (run call t cs).1 = (u, []) ∧ (run call t cs).2 = some ((outs fs).flatMap emit) := by
  have hpend : Pending fs [] := by
    cases h with
    | nil => exact .inl ⟨rfl, rfl⟩
    | @cons _ _ _ f o _ hr _ => exact .inr ⟨f, o, _, rfl, List.nil_prefix, hr.pos⟩
  exact run_pending hcall hnil hadm h hB hpend (by simpa using hcs) ht

/-! ## A loop seen through a projection -/

/-- A pass with its states mapped by `g`. -/
def Step.map (g : σ → τ) : Step σ α β → Step τ α β
  | .more s => .more (g s)
  | .fail s rest => .fail (g s) rest
  | .frame n o s => .frame n o (g s)

/-- A loop's result with its state mapped by `g`. -/
def Drained.map (g : σ → τ) (r : Drained σ α β) : Drained τ α β := ⟨r.ok, g r.state, r.rest, r.out⟩

/-- **A loop through a projection.** When every pass of `step` where `I` holds of the state
    and the buffer, seen through `g`, is the pass of `step'` from the image of its state, and
    `I` holds at the start and on what every frame leaves, the loop seen through `g` is
    `step'`'s: `step'` describes what `step` does up to what `g` forgets. -/
theorem drain_map_on {step : σ → List α → Step σ α β} {step' : τ → List α → Step τ α β}
    (g : σ → τ) (I : σ → List α → Prop)
    (h : ∀ s buf, I s buf → (step s buf).map g = step' (g s) buf)
    (hI : ∀ s buf n o t, I s buf → step s buf = .frame n o t → I t (buf.drop n)) :
    ∀ fuel s buf, I s buf → (drain step fuel s buf).map g = drain step' fuel (g s) buf := by
  intro fuel
  induction fuel with
  | zero => intro s buf _; rfl
  | succ fuel ih =>
    intro s buf hs
    simp only [drain]
    rw [← h s buf hs]
    cases hst : step s buf with
    | more s' => rfl
    | fail s' rest => rfl
    | frame n o s' =>
      simp only [Step.map]
      rw [← ih s' (buf.drop n) (hI s buf n o s' hs hst)]
      rfl

/-- `drain_map_on` where the passes agree on every state and buffer. -/
theorem drain_map {step : σ → List α → Step σ α β} {step' : τ → List α → Step τ α β} (g : σ → τ)
    (h : ∀ s buf, (step s buf).map g = step' (g s) buf) :
    ∀ fuel s buf, (drain step fuel s buf).map g = drain step' fuel (g s) buf :=
  fun fuel s buf =>
    drain_map_on g (fun _ _ => True) (fun s buf _ => h s buf) (fun _ _ _ _ _ _ _ => trivial) fuel s buf
      trivial

theorem drainAll_map {step : σ → List α → Step σ α β} {step' : τ → List α → Step τ α β}
    (g : σ → τ) (h : ∀ s buf, (step s buf).map g = step' (g s) buf) (s : σ) (buf : List α) :
    (drainAll step s buf).map g = drainAll step' (g s) buf :=
  drain_map g h _ s buf

/-! ## Bodies that misread some partial frames

A body may read a proper prefix of a frame wrongly, and only wait on those that `W` admits.
Its receiver still hands on every frame when the chunks never leave a pending tail that `W`
rejects. -/

section When

variable (step) in
/-- As `Reads`, with only the proper prefixes that `W` admits waiting. -/
structure ReadsWhen (W : List α → Prop) (s : σ) (f : List α) (o : β) (t : σ) : Prop where
  pos : 0 < f.length
  whole : ∀ r, step s (f ++ r) = .frame f.length o t
  part : ∀ q, q <+: f → q.length < f.length → W q → step s q = .more s

variable (step) in
/-- Frames the body reads one after another, waiting on the prefixes `W` admits. -/
inductive ChainWhen (W : List α → Prop) : σ → List (List α × β) → σ → Prop
  | nil (s : σ) : ChainWhen W s [] s
  | cons {s t u : σ} {f : List α} {o : β} {fs : List (List α × β)} :
      ReadsWhen step W s f o t → ChainWhen W t fs u → ChainWhen W s ((f, o) :: fs) u

variable {W : List α → Prop}

theorem ChainWhen.append {s t u : σ} {fs gs : List (List α × β)} (h₁ : ChainWhen step W s fs t)
    (h₂ : ChainWhen step W t gs u) : ChainWhen step W s (fs ++ gs) u := by
  induction h₁ with
  | nil => exact h₂
  | cons hr _ ih => exact .cons hr (ih h₂)

theorem ChainWhen.length_le {s u : σ} {fs : List (List α × β)} (h : ChainWhen step W s fs u) :
    fs.length ≤ (wire fs).length := by
  induction h with
  | nil => simp
  | cons hr _ ih => simp only [List.length_cons, wire_cons, List.length_append]; have := hr.pos; omega

/-- Each frame of a chain, alone, is cut whole from the state before it. -/
theorem ChainWhen.cut_of_mem {s u : σ} {fs : List (List α × β)} (h : ChainWhen step W s fs u) :
    ∀ f ∈ fs.map Prod.fst, ∃ s' o t, step s' f = .frame f.length o t := by
  induction h with
  | nil => simp
  | @cons s t u f o fs hr _ ih =>
    intro f' hf'
    rw [List.map_cons, List.mem_cons] at hf'
    rcases hf' with rfl | hf'
    · exact ⟨s, o, t, by simpa using hr.whole []⟩
    · exact ih f' hf'

theorem ChainWhen.nil_eq {s u : σ} (h : ChainWhen step W s ([] : List (List α × β)) u) : s = u := by
  cases h; rfl

/-- `drain_chain` for a body that misreads some partial frames: only whole frames are cut. -/
theorem drain_chainWhen {s u : σ} {fs : List (List α × β)} (h : ChainWhen step W s fs u)
    {q : List α} (hq : step u q = .more u) {fuel : Nat} (hfuel : fs.length < fuel) :
    drain step fuel s (wire fs ++ q) = ⟨true, u, q, outs fs⟩ := by
  induction h generalizing fuel with
  | nil s =>
    obtain ⟨n, rfl⟩ : ∃ n, fuel = n + 1 := ⟨fuel - 1, by simp at hfuel; omega⟩
    simp [drain, hq]
  | @cons s t u f o fs hr _ ih =>
    obtain ⟨n, rfl⟩ : ∃ n, fuel = n + 1 := ⟨fuel - 1, by simp at hfuel; omega⟩
    have hcut : step s (f ++ (wire fs ++ q)) = .frame f.length o t := hr.whole _
    simp only [drain, wire_cons, List.append_assoc, hcut, List.drop_left]
    rw [ih hq (by simp at hfuel; omega)]
    rfl

theorem chainWhen_prefix {s u : σ} {fs : List (List α × β)} (h : ChainWhen step W s fs u)
    {P : List α} (hP : P <+: wire fs) :
    ∃ fs₁ fs₂ t q, fs = fs₁ ++ fs₂ ∧ ChainWhen step W s fs₁ t ∧ ChainWhen step W t fs₂ u ∧
      P = wire fs₁ ++ q ∧ Pending fs₂ q := by
  induction h generalizing P with
  | nil s =>
    have : P = [] := List.eq_nil_of_length_eq_zero (by simpa using hP.length_le)
    exact ⟨[], [], s, [], rfl, .nil s, .nil s, by simp [this], .inl ⟨rfl, rfl⟩⟩
  | @cons s t u f o fs hr hc ih =>
    rcases prefix_append_cases (by simpa using hP) with ⟨hpre, hlt⟩ | ⟨P', rfl, hP'⟩
    · exact ⟨[], (f, o) :: fs, s, P, rfl, .nil s, .cons hr hc, rfl, .inr ⟨f, o, fs, rfl, hpre, hlt⟩⟩
    · obtain ⟨fs₁, fs₂, t', q, rfl, h₁, h₂, rfl, hpend⟩ := ih hP'
      exact ⟨(f, o) :: fs₁, fs₂, t', q, rfl, .cons hr h₁, h₂, by simp, hpend⟩

/-- A pending tail that `W` admits waits. -/
theorem Pending.waitsWhen {t u : σ} {fs : List (List α × β)} {q : List α}
    (hc : ChainWhen step W t fs u) (hp : Pending fs q) (hW : W q) (hnil : step u [] = .more u) :
    step t q = .more t := by
  rcases hp with ⟨rfl, rfl⟩ | ⟨f, o, gs, rfl, hpre, hlt⟩
  · rw [hc.nil_eq]; exact hnil
  · cases hc with
    | cons hr _ => exact hr.part q hpre hlt hW

/-- The pending tails a cut of the wire into chunks leaves, one after each chunk, all
    admitted by `W`: `q` is buffered before the first chunk. -/
def TailsWhen (W : List α → Prop) (fs : List (List α × β)) (q : List α) (cs : List (List α)) :
    Prop :=
  ∀ k fs₁ fs₂ q', fs = fs₁ ++ fs₂ → q ++ (cs.take k).flatten = wire fs₁ ++ q' → Pending fs₂ q' →
    W q'

/-- A loop whose passes, seen through `g`, are those of `step'` on every buffer `V` holds of,
    cuts a chain of `step'` from the image of its state as `step'` does: `V` holds of each of
    the chain's frames followed by anything, and of the tail, which waits. -/
theorem drain_chainWhen_map {step' : τ → List α → Step τ α β} (g : σ → τ) (V : List α → Prop)
    (hV : ∀ s buf, V buf → (step s buf).map g = step' (g s) buf) {s : σ} {u : τ}
    {fs : List (List α × β)} (h : ChainWhen step' W (g s) fs u)
    (hfs : ∀ f ∈ fs.map Prod.fst, ∀ r, V (f ++ r)) {q : List α} (hq : V q)
    (hwait : step' u q = .more u) {fuel : Nat} (hfuel : fs.length < fuel) :
    (drain step fuel s (wire fs ++ q)).map g = ⟨true, u, q, outs fs⟩ := by
  -- the buffers the loop meets are the wires of the chain's suffixes, then the tail
  let I : σ → List α → Prop := fun s buf => ∃ gs, ChainWhen step' W (g s) gs u ∧
    (∀ f ∈ gs.map Prod.fst, ∀ r, V (f ++ r)) ∧ buf = wire gs ++ q
  have hagree : ∀ s buf, I s buf → (step s buf).map g = step' (g s) buf := by
    rintro s buf ⟨gs, -, hgs, rfl⟩
    cases gs with
    | nil => exact hV s _ hq
    | cons fo gs =>
      obtain ⟨f, o⟩ := fo
      rw [wire_cons, List.append_assoc]
      exact hV s _ (hgs f (by simp) _)
  have hnext : ∀ s buf n o t, I s buf → step s buf = .frame n o t → I t (buf.drop n) := by
    rintro s buf n o t ⟨gs, hc, hgs, rfl⟩ hst
    have hmap := hagree s _ ⟨gs, hc, hgs, rfl⟩
    rw [hst] at hmap
    cases hc with
    | nil => rw [wire_nil, List.nil_append, hwait] at hmap; cases hmap
    | @cons _ t' _ f o' gs hr hc' =>
      rw [wire_cons, List.append_assoc, hr.whole] at hmap
      simp only [Step.map, Step.frame.injEq] at hmap
      obtain ⟨rfl, -, hg⟩ := hmap
      refine ⟨gs, hg ▸ hc', fun f' hf' => hgs f' (by simp [hf']), ?_⟩
      rw [wire_cons, List.append_assoc, List.drop_left]
  rw [drain_map_on g I hagree hnext fuel s _ ⟨fs, h, hfs, rfl⟩]
  exact drain_chainWhen h hwait hfuel

variable (step) in
/-- A receiver that follows the chains of `step` from the states `P` holds of: each call, from a
    state whose view has the tail `q` buffered, on a chunk after which `q` is the frames of a
    chain from the view's state and a tail `q'` that `W` admits and that waits, hands on the
    frames' outputs (each as `emit` spells it), keeps `P`, and is seen at the chain's end with
    `q'` buffered. -/
def FollowsOn (W : List α → Prop) (P : τ → Prop) (call : τ → List α → τ × Option (List γ))
    (view : τ → σ × List α) (emit : β → List γ) : Prop :=
  ∀ t c fs u q', P t → ChainWhen step W (view t).1 fs u → (view t).2 ++ c = wire fs ++ q' →
    W q' → step u q' = .more u →
      P (call t c).1 ∧ (call t c).2 = some ((outs fs).flatMap emit) ∧ view (call t c).1 = (u, q')

/-- The run from a state with the tail `q` of a frame buffered, when every tail the chunks
    leave is one `W` admits. -/
theorem run_pendingWhen {call : τ → List α → τ × Option (List γ)} {view : τ → σ × List α}
    {P : τ → Prop} {emit : β → List γ} (hcall : FollowsOn step W P call view emit)
    {u : σ} (hnil : step u [] = .more u) :
    ∀ {cs : List (List α)} {t : τ} {s : σ} {fs : List (List α × β)} {q : List α}, P t →
      ChainWhen step W s fs u → Pending fs q → q ++ cs.flatten = wire fs → TailsWhen W fs q cs →
      view t = (s, q) →
        P (run call t cs).1 ∧ view (run call t cs).1 = (u, []) ∧
          (run call t cs).2 = some ((outs fs).flatMap emit) := by
  intro cs
  induction cs with
  | nil =>
    intro t s fs q hP h hpend hcs _ ht
    rcases hpend with ⟨rfl, rfl⟩ | ⟨f, o, gs, rfl, -, hlt⟩
    · simp [run, ht, h.nil_eq, hP]
    · have : (wire ((f, o) :: gs)).length = q.length := by rw [← hcs]; simp
      simp at this; omega
  | cons c cs ih =>
    intro t s fs q hP h hpend hcs htails ht
    have hpre : q ++ c <+: wire fs := ⟨cs.flatten, by simpa using hcs⟩
    obtain ⟨fs₁, fs₂, t', q', rfl, h₁, h₂, hc, hpend'⟩ := chainWhen_prefix h hpre
    -- the tail left after `c` is admitted, so it waits and the call cuts exactly `fs₁`
    have hW : W q' := htails 1 fs₁ fs₂ q' rfl (by simpa using hc) hpend'
    obtain ⟨hP₁, hout, hview⟩ := hcall t c fs₁ t' q' hP (by rw [ht]; exact h₁) (by rw [ht]; exact hc) hW
      (hpend'.waitsWhen h₂ hW hnil)
    have hrest : q' ++ cs.flatten = wire fs₂ := by
      have : wire fs₁ ++ (q' ++ cs.flatten) = wire fs₁ ++ wire fs₂ := by
        rw [← List.append_assoc, ← hc, ← wire_append, ← hcs]; simp
      exact List.append_cancel_left this
    -- the tails of the later chunks are tails of the whole cut, past `fs₁`
    have htails₂ : TailsWhen W fs₂ q' cs := by
      intro k gs₁ gs₂ q'' hgs hk hp
      refine htails (k + 1) (fs₁ ++ gs₁) gs₂ q'' (by rw [hgs, List.append_assoc]) ?_ hp
      rw [List.take_succ_cons, List.flatten_cons, ← List.append_assoc, hc, List.append_assoc, hk,
        wire_append, List.append_assoc]
    generalize hct : call t c = r at hP₁ hout hview
    obtain ⟨t₁, o⟩ := r
    simp only at hP₁ hout hview
    subst hout
    obtain ⟨hP', hv, ho⟩ := ih hP₁ h₂ hpend' hrest htails₂ hview
    simp only [run, hct]
    exact ⟨hP', hv, by simp [ho, List.flatMap_append]⟩

/-- **Segmentation does not matter where the tails are admitted.** As `run_chain`, for a body
    that waits only on the partial frames `W` admits, and chunks whose every tail it admits. -/
theorem run_chainWhen {call : τ → List α → τ × Option (List γ)} {view : τ → σ × List α}
    {P : τ → Prop} {emit : β → List γ} (hcall : FollowsOn step W P call view emit)
    {s u : σ} {fs : List (List α × β)} (h : ChainWhen step W s fs u) (hnil : step u [] = .more u)
    {cs : List (List α)} (hcs : cs.flatten = wire fs) (htails : TailsWhen W fs [] cs) {t : τ}
    (hP : P t) (ht : view t = (s, [])) :
    P (run call t cs).1 ∧ view (run call t cs).1 = (u, []) ∧
      (run call t cs).2 = some ((outs fs).flatMap emit) := by
  have hpend : Pending fs [] := by
    cases h with
    | nil => exact .inl ⟨rfl, rfl⟩
    | @cons _ _ _ f o _ hr _ => exact .inr ⟨f, o, _, rfl, List.nil_prefix, hr.pos⟩
  exact run_pendingWhen hcall hnil hP h hpend (by simpa using hcs) htails ht

end When

end Framing
