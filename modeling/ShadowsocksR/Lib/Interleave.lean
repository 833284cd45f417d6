/-
  ShadowsocksR.Lib.Interleave — parties that share a state but not the parts of it they use.

  One call `h : σ → ε → σ × Option β` serves the events of several parties, `party e` saying
  whose event `e` is. `Independent h party R` says that the calls of each party `i` read only
  what `R i` compares, write it as a function of that, and keep what `R j` compares for every
  other party `j`. Then after any interleaving of the events the state agrees, for each party,
  with the state its own events alone lead to (`after_filter`), and so what each call returns
  depends only on the earlier events of its own party (`call_after_filter`).

  A call may also do, on the way, what calls of other parties do: `IndependentEcho` names
  those calls (`echo`), and each party then sees its own events with the echoes of the others'
  calls put in after them (`withEchoes`, `after_filter_echo`). With no echoes this is the
  first case (`Independent.toEcho`); when no call of an interleaving echoes, nothing is put in
  (`withEchoes_eq_self`).
-/

import Mathlib.Data.List.Basic

namespace Interleave

variable {σ ε β ι : Type}

/-- The state after the calls on `l`, in order. -/
def after (h : σ → ε → σ × Option β) (s : σ) (l : List ε) : σ :=
  l.foldl (fun s e => (h s e).1) s

section After

variable (h : σ → ε → σ × Option β)

@[simp] theorem after_nil (s : σ) : after h s [] = s := rfl

@[simp] theorem after_cons (s : σ) (e : ε) (l : List ε) : after h s (e :: l) = after h (h s e).1 l :=
  rfl

theorem after_append (s : σ) (l l' : List ε) : after h s (l ++ l') = after h (after h s l) l' :=
  List.foldl_append

/-- The events in order, each followed by the events `echo` says its call makes on the way. -/
def withEchoes (echo : σ → ε → List ε) : σ → List ε → List ε
  | _, [] => []
  | s, e :: l => e :: (echo s e ++ withEchoes echo (h s e).1 l)

/-- An interleaving none of whose calls echoes is its own. -/
theorem withEchoes_eq_self (echo : σ → ε → List ε) :
    ∀ (l : List ε) (s : σ), (∀ pre e post, l = pre ++ e :: post → echo (after h s pre) e = []) →
      withEchoes h echo s l = l := by
  intro l
  induction l with
  | nil => intro _ _; rfl
  | cons e l ih =>
    intro s hq
    have he : echo s e = [] := hq [] e l rfl
    -- the rest is quiet from the state after `e`
    have hrest := ih (h s e).1 fun pre e' post hl => by
      simpa using hq (e :: pre) e' post (by rw [hl]; rfl)
    rw [withEchoes, he, List.nil_append, hrest]

end After

/-- The parties of `h` do not meet: a call of party `i` gives what `R i` fixes, keeps `R i`
between two states it relates, and keeps every other party's `R j` to any state. -/
structure Independent (h : σ → ε → σ × Option β) (party : ε → ι) (R : ι → σ → σ → Prop) : Prop where
  out : ∀ e {s t}, R (party e) s t → (h s e).2 = (h t e).2
  own : ∀ e {s t}, R (party e) s t → R (party e) (h s e).1 (h t e).1
  keep : ∀ e {j}, party e ≠ j → ∀ {s t}, R j s t → R j (h s e).1 t

/-- As `Independent`, but a call may act on another party's part as that party's calls on
the events `echo` names do, in order. -/
structure IndependentEcho [DecidableEq ι] (h : σ → ε → σ × Option β) (party : ε → ι)
    (R : ι → σ → σ → Prop) (echo : σ → ε → List ε) : Prop where
  out : ∀ e {s t}, R (party e) s t → (h s e).2 = (h t e).2
  own : ∀ e {s t}, R (party e) s t → R (party e) (h s e).1 (h t e).1
  echo_other : ∀ s e, ∀ e' ∈ echo s e, party e' ≠ party e
  keep : ∀ e {j}, party e ≠ j → ∀ {s t}, R j s t →
    R j (h s e).1 (after h t ((echo s e).filter (party · = j)))

section Interleaving

variable [DecidableEq ι] {h : σ → ε → σ × Option β} {party : ε → ι} {R : ι → σ → σ → Prop}

theorem withEchoes_nil (l : List ε) (s : σ) : withEchoes h (fun _ _ => []) s l = l :=
  withEchoes_eq_self h _ l s fun _ _ _ _ => rfl

/-- Parties that do not meet are parties whose calls echo nothing. -/
theorem Independent.toEcho (hI : Independent h party R) :
    IndependentEcho h party R (fun _ _ => []) where
  out := hI.out
  own := hI.own
  echo_other _ _ _ he := absurd he List.not_mem_nil
  keep e _ hj _ _ hst := hI.keep e hj hst

/-- **Each party sees its own events and the echoes of the others' calls.** After any
interleaving, the state is, as party `i` sees it, the state its own events and the calls the
others' calls echo of it lead to. -/
theorem after_filter_echo {echo : σ → ε → List ε} (hI : IndependentEcho h party R echo) (i : ι) :
    ∀ (l : List ε) (s t : σ), R i s t →
      R i (after h s l) (after h t ((withEchoes h echo s l).filter (party · = i))) := by
  intro l
  induction l with
  | nil => intro s t hst; exact hst
  | cons e l ih =>
    intro s t hst
    rw [withEchoes, List.filter_cons, List.filter_append, after_cons]
    by_cases he : party e = i
    · -- an event of party `i`: both sides make the call, and its echoes are of others
      have hnone : (echo s e).filter (party · = i) = [] :=
        List.filter_eq_nil_iff.mpr fun e' he' => by simpa [he] using hI.echo_other s e e' he'
      rw [if_pos (by simpa using he), hnone, List.nil_append, after_cons]
      subst he
      exact ih _ _ (hI.own e hst)
    · -- another party's event: party `i` sees only what it echoes
      rw [if_neg (by simpa using he), after_append]
      exact ih _ _ (hI.keep e he hst)

/-- **Each party sees only its own events.** After any interleaving, the state is, as party
`i` sees it, the state its own events lead to. -/
theorem after_filter (hI : Independent h party R) (i : ι) (l : List ε) (s t : σ) (hst : R i s t) :
    R i (after h s l) (after h t (l.filter (party · = i))) := by
  have h' := after_filter_echo hI.toEcho i l s t hst
  rwa [withEchoes_nil] at h'

/-- What a call returns after any interleaving is what it returns after the events of its
own party alone. -/
theorem call_after_filter (hI : Independent h party R) (hrefl : ∀ i s, R i s s) (s : σ)
    (l : List ε) (e : ε) :
    (h (after h s l) e).2 = (h (after h s (l.filter (party · = party e))) e).2 :=
  hI.out e (after_filter hI (party e) l s s (hrefl _ s))

/-- What a call returns after any interleaving is what it returns after the events of its
own party and the echoes of the others' calls. -/
theorem call_after_filter_echo {echo : σ → ε → List ε} (hI : IndependentEcho h party R echo)
    (hrefl : ∀ i s, R i s s) (s : σ) (l : List ε) (e : ε) :
    (h (after h s l) e).2 =
      (h (after h s ((withEchoes h echo s l).filter (party · = party e))) e).2 :=
  hI.out e (after_filter_echo hI (party e) l s s (hrefl _ s))

end Interleaving

end Interleave
