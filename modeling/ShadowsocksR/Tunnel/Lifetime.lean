/-
  ShadowsocksR.Tunnel.Lifetime — when `tunnel.c` frees a tunnel, and what may still touch
  it afterwards.

  `ref_count` counts the four close callbacks `tunnel_shutdown` asks for (two handles of
  each socket); the last one frees the tunnel. libuv delivers a stream's pending writes
  and connect before its close callback and nothing of its reads or timers after
  `uv_close`, so those callbacks all find the tunnel alive. A host lookup is different:
  `uv_cancel` cannot stop a lookup a thread-pool thread has started (it returns
  `UV_EBUSY`), and that lookup's callback comes when `getaddrinfo` returns, which may be
  after the four close callbacks.

  Proved, over every order of the application's calls and libuv's callbacks (`Inv`,
  `reach_inv`): the tunnel is freed only after `tunnel_shutdown`
  (`freed_only_after_shutdown`); while it is not freed `ref_count` is the number of close
  callbacks owed, so it is freed once every close callback has come
  (`freed_of_closes_done`) and by no later one (`no_release_after_free`); the only
  callback libuv may still deliver to a freed tunnel is a host lookup's
  (`enabled_of_freed`), so no other callback touches freed memory
  (`useAfterFree_only_by_getaddrinfo`; the three together are
  `tunnel_lifetime_holds_but_for_the_lookup_callback`). And the lookup's does: from every tunnel shut down
  with a lookup pending, libuv may run the close callbacks and then the lookup's, which
  writes `tunnel->getaddrinfo_pending` into the freed tunnel
  (`getaddrinfo_callback_can_write_the_freed_tunnel`), as after a lookup that outlasts
  the idle timeout (`lookup_timeout_then_late_lookup_callback`).
-/

import ShadowsocksR.Tunnel.Ctx

namespace ShadowsocksR.Tunnel

open StateMachine

/-! ## What the lifetime depends on -/

/-- The close callbacks libuv owes. -/
def World.closeCount (w : World) : Nat := w.pending.countP Req.isClose

/-- The fields a tunnel's lifetime reads. -/
structure Life where
  terminated : Bool
  freed : Bool
  refCount : Int
  useAfterFree : Bool
  closeCount : Nat
  deriving DecidableEq

def World.life (w : World) : Life :=
  ⟨w.terminated, w.freed, w.refCount, w.useAfterFree, w.closeCount⟩

section Life

variable (w : World)

theorem countP_isClose_filter {l : List Req} {r : Req} (h : r.isClose = false) :
    (l.filter (· != r)).countP Req.isClose = l.countP Req.isClose := by
  rw [List.countP_filter]
  apply List.countP_congr
  intro q _
  cases q <;> simp only [Req.isClose, Bool.false_and, Bool.true_and, bne_iff_ne, ne_eq]
  -- a close request is never the one dropped
  simp only [iff_true]
  rintro rfl
  simp [Req.isClose] at h

@[simp] theorem life_assert (c : Bool) : (w.assert c).life = w.life := by
  rw [World.assert_eq]
  rfl

@[simp] theorem life_setSock (s : Side) (c : SocketCtx) : (w.setSock s c).life = w.life := rfl

@[simp] theorem life_setRd (s : Side) (st : SocketState) : (w.setRd s st).life = w.life := rfl

@[simp] theorem life_setWr (s : Side) (st : SocketState) : (w.setWr s st).life = w.life := rfl

@[simp] theorem life_reads (l : List (Side × List UInt8)) : { w with reads := l }.life = w.life := rfl

@[simp] theorem life_writes (l : List (Side × List UInt8)) : { w with writes := l }.life = w.life := rfl

@[simp] theorem life_getaddrinfoPending (b : Bool) :
    { w with getaddrinfoPending := b }.life = w.life := rfl

theorem life_addReq {r : Req} (h : r.isClose = false) : (w.addReq r).life = w.life := by
  simp [World.life, World.closeCount, World.addReq, List.countP_append, h]

theorem life_dropReq {r : Req} (h : r.isClose = false) : (w.dropReq r).life = w.life := by
  simp only [World.life, World.closeCount, World.dropReq, countP_isClose_filter h]

theorem life_deliver {r : Req} (h : r.isClose = false) : (w.deliver r).life = w.life := by
  simp [World.life, World.closeCount, World.deliver, List.countP_erase, h]

@[simp] theorem life_uvReadStart (s : Side) : (uvReadStart w s).life = w.life := life_addReq w rfl

@[simp] theorem life_uvReadStop (s : Side) : (uvReadStop w s).life = w.life := life_dropReq w rfl

@[simp] theorem life_socketTimerStart (s : Side) : (socketTimerStart w s).life = w.life := by
  rw [socketTimerStart, life_addReq _ rfl, life_dropReq _ rfl]

@[simp] theorem life_socketTimerStop (s : Side) : (socketTimerStop w s).life = w.life :=
  life_dropReq w rfl

@[simp] theorem life_socketRead (s : Side) (checkTimeout : Bool) :
    (socketRead w s checkTimeout).life = w.life := by
  unfold socketRead
  cases checkTimeout <;> simp

@[simp] theorem life_socketWrite (s : Side) (data : List UInt8) :
    (socketWrite w s data).life = w.life := by
  unfold socketWrite
  simp only [life_socketTimerStart]
  exact (life_writes _ _).trans ((life_addReq _ rfl).trans (by simp))

@[simp] theorem life_socketConnect (s : Side) (ok : Bool) : (socketConnect w s ok).life = w.life := by
  unfold socketConnect
  cases ok
  · simp
  · simp only [if_true]
    rw [life_addReq _ rfl, life_socketTimerStart]

@[simp] theorem life_socketGetaddrinfo (s : Side) : (socketGetaddrinfo w s).life = w.life := by
  unfold socketGetaddrinfo
  simp only [life_getaddrinfoPending, life_socketTimerStart]
  exact life_addReq _ rfl

@[simp] theorem life_touchFreed : w.touchFreed.life = { w.life with useAfterFree := true } := rfl

end Life

/-! ## `tunnel_shutdown` and `tunnel_release` -/

section Shutdown

variable {x : World}

/-- The four close callbacks `tunnel_shutdown` asks for. -/
def shutdownCloses : List Req :=
  [.close (.stream .incoming), .close (.timer .incoming), .close (.stream .outgoing),
    .close (.timer .outgoing)]

theorem socketClose_pending (s : Side) :
    (socketClose x s).pending =
      ((x.pending.filter (· != Req.read s)) ++ [Req.close (.stream s)]).filter (· != Req.timer s) ++
        [Req.close (.timer s)] := by
  simp only [socketClose, uvClose, World.addReq, World.dropReq, World.assert_eq]
  rfl

theorem socketClose_refCount (s : Side) : (socketClose x s).refCount = x.refCount + 1 + 1 := by
  simp only [socketClose, uvClose, World.addReq, World.dropReq, World.assert_eq]
  rfl

/-- The requests `socket_close` leaves: all but the socket's read and timer, and the two
close callbacks. -/
theorem mem_socketClose_pending {s : Side} {r : Req} :
    r ∈ (socketClose x s).pending ↔
      (r ∈ x.pending ∧ r ≠ .read s ∧ r ≠ .timer s) ∨ r = .close (.stream s) ∨
        r = .close (.timer s) := by
  rw [socketClose_pending]
  simp only [List.mem_append, List.mem_filter, List.mem_singleton, bne_iff_ne, ne_eq]
  constructor
  · rintro ((⟨h | h, h'⟩) | h)
    · exact Or.inl ⟨h.1, h.2, h'⟩
    · exact Or.inr (Or.inl h)
    · exact Or.inr (Or.inr h)
  · rintro (⟨h, h1, h2⟩ | h | h)
    · exact Or.inl ⟨Or.inl ⟨h, h1⟩, h2⟩
    · exact Or.inl ⟨Or.inr h, by rw [h]; exact Req.noConfusion⟩
    · exact Or.inr h

theorem socketClose_closeCount (s : Side) : (socketClose x s).closeCount = x.closeCount + 2 := by
  simp only [World.closeCount, socketClose_pending, List.countP_append,
    countP_isClose_filter (show Req.isClose (.timer s) = false from rfl),
    countP_isClose_filter (show Req.isClose (.read s) = false from rfl)]
  simp [Req.isClose]

@[simp] theorem socketClose_terminated (s : Side) : (socketClose x s).terminated = x.terminated := by
  simp only [socketClose, uvClose, World.addReq, World.dropReq, World.assert_eq]
  rfl

@[simp] theorem socketClose_freed (s : Side) : (socketClose x s).freed = x.freed := by
  simp only [socketClose, uvClose, World.addReq, World.dropReq, World.assert_eq]
  rfl

@[simp] theorem socketClose_useAfterFree (s : Side) :
    (socketClose x s).useAfterFree = x.useAfterFree := by
  simp only [socketClose, uvClose, World.addReq, World.dropReq, World.assert_eq]
  rfl

variable (h : x.terminated = false)
include h

theorem tunnelShutdown_of_live :
    tunnelShutdown x = socketClose (socketClose { x with terminated := true } .incoming) .outgoing := by
  simp [tunnelShutdown, h]

theorem tunnelShutdown_life :
    (tunnelShutdown x).life = ⟨true, x.freed, x.refCount + 4, x.useAfterFree, x.closeCount + 4⟩ := by
  rw [tunnelShutdown_of_live h]
  simp only [World.life, socketClose_terminated, socketClose_freed, socketClose_useAfterFree,
    socketClose_refCount, socketClose_closeCount, Life.mk.injEq, true_and]
  constructor
  · omega
  · rfl

/-- After `tunnel_shutdown` no read or timer callback is owed, and each stream's close
callback is. -/
theorem tunnelShutdown_pending (s : Side) :
    Req.read s ∉ (tunnelShutdown x).pending ∧ Req.timer s ∉ (tunnelShutdown x).pending ∧
      Req.close (.stream s) ∈ (tunnelShutdown x).pending := by
  rw [tunnelShutdown_of_live h]
  cases s <;> simp [mem_socketClose_pending]

end Shutdown

theorem tunnelRelease_life (x : World) :
    (tunnelRelease x).life =
      ⟨x.terminated, x.freed || decide (x.refCount - 1 = 0), x.refCount - 1, x.useAfterFree,
        x.closeCount⟩ := by
  simp only [tunnelRelease]
  split <;> simp_all [World.life, World.closeCount]

@[simp] theorem tunnelRelease_pending (x : World) : (tunnelRelease x).pending = x.pending := by
  simp only [tunnelRelease]
  split <;> rfl

/-! ## The callbacks -/

/-- What a callback does to a tunnel not shut down: leave its lifetime as it was, or shut
it down from a state with the same lifetime. -/
def KeepsOrShuts (w w' : World) : Prop := ∃ x, x.life = w.life ∧ (w' = x ∨ w' = tunnelShutdown x)

section Live

variable {w : World} (hf : w.freed = false) (ht : w.terminated = false)
include hf ht

theorem keepsOrShuts_socketReadDoneCb (s : Side) (nread : Int) (data : List UInt8) :
    KeepsOrShuts w (socketReadDoneCb Hooks.idle w s nread data) := by
  simp only [socketReadDoneCb, hf, ht, Bool.false_eq_true, if_false]
  split
  · exact ⟨_, by simp, Or.inl rfl⟩
  · split
    · exact ⟨_, by simp, Or.inr rfl⟩
    · exact ⟨_, by simp [Hooks.idle], Or.inl rfl⟩

theorem keepsOrShuts_socketWriteDoneCb (s : Side) (status : Int) :
    KeepsOrShuts w (socketWriteDoneCb Hooks.idle w s status) := by
  have hd := life_deliver w (show Req.isClose (.write s) = false from rfl)
  have hf' : (w.deliver (.write s)).freed = false := hf
  have ht' : (w.deliver (.write s)).terminated = false := ht
  simp only [socketWriteDoneCb, hf', ht', Bool.false_eq_true, if_false]
  split
  · exact ⟨_, by simp [hd], Or.inr rfl⟩
  · exact ⟨_, by simp [Hooks.idle, hd], Or.inl rfl⟩

theorem keepsOrShuts_socketConnectDoneCb (s : Side) (status : Int) :
    KeepsOrShuts w (socketConnectDoneCb Hooks.idle w s status) := by
  have hd := life_deliver w (show Req.isClose (.connect s) = false from rfl)
  have hf' : (w.deliver (.connect s)).freed = false := hf
  have ht' : (w.deliver (.connect s)).terminated = false := ht
  simp only [socketConnectDoneCb, hf', ht', Bool.false_eq_true, if_false]
  split
  · exact ⟨_, by simp [hd], Or.inr rfl⟩
  · exact ⟨_, by simp [Hooks.idle, hd], Or.inl rfl⟩

theorem keepsOrShuts_socketGetaddrinfoDoneCb (s : Side) (status : Int) :
    KeepsOrShuts w (socketGetaddrinfoDoneCb Hooks.idle w s status) := by
  have hd := life_deliver w (show Req.isClose (.getaddrinfo s) = false from rfl)
  have hf' : (w.deliver (.getaddrinfo s)).freed = false := hf
  have ht' : (w.deliver (.getaddrinfo s)).terminated = false := ht
  have hx := (life_socketTimerStop _ s).trans ((life_getaddrinfoPending _ false).trans hd)
  unfold socketGetaddrinfoDoneCb
  dsimp only
  rw [if_neg (by simp [hf']), if_neg (by simp [ht'])]
  split
  · exact ⟨_, hx, Or.inr rfl⟩
  · exact ⟨_, hx, Or.inl rfl⟩

theorem keepsOrShuts_socketTimerExpireCb (s : Side) :
    KeepsOrShuts w (socketTimerExpireCb w s) := by
  have hd := life_deliver w (show Req.isClose (.timer s) = false from rfl)
  have hf' : (w.deliver (.timer s)).freed = false := hf
  have ht' : (w.deliver (.timer s)).terminated = false := ht
  simp only [socketTimerExpireCb, hf', ht', Bool.false_eq_true, if_false]
  exact ⟨_, hd, Or.inr rfl⟩

end Live

section Terminated

variable {w : World} (ht : w.terminated = true)
include ht

/-- On a tunnel shut down and not freed, a write, connect or lookup callback only takes
its request off. -/
theorem socketWriteDoneCb_terminated (hf : w.freed = false) (hooks : Hooks) (s : Side)
    (status : Int) : socketWriteDoneCb hooks w s status = w.deliver (.write s) := by
  have hf' : (w.deliver (.write s)).freed = false := hf
  have ht' : (w.deliver (.write s)).terminated = true := ht
  simp [socketWriteDoneCb, hf', ht']

theorem socketConnectDoneCb_terminated (hf : w.freed = false) (hooks : Hooks) (s : Side)
    (status : Int) : socketConnectDoneCb hooks w s status = w.deliver (.connect s) := by
  have hf' : (w.deliver (.connect s)).freed = false := hf
  have ht' : (w.deliver (.connect s)).terminated = true := ht
  simp [socketConnectDoneCb, hf', ht']

theorem socketGetaddrinfoDoneCb_terminated (hf : w.freed = false) (hooks : Hooks) (s : Side)
    (status : Int) :
    socketGetaddrinfoDoneCb hooks w s status =
      { w.deliver (.getaddrinfo s) with getaddrinfoPending := false } := by
  have hf' : (w.deliver (.getaddrinfo s)).freed = false := hf
  have ht' : (w.deliver (.getaddrinfo s)).terminated = true := ht
  simp [socketGetaddrinfoDoneCb, hf', ht']

end Terminated

/-- A host lookup's callback on a freed tunnel: the write of `getaddrinfo_pending`. -/
theorem socketGetaddrinfoDoneCb_freed {w : World} (hf : w.freed = true) (hooks : Hooks)
    (s : Side) (status : Int) :
    socketGetaddrinfoDoneCb hooks w s status = (w.deliver (.getaddrinfo s)).touchFreed := by
  have hf' : (w.deliver (.getaddrinfo s)).freed = true := hf
  simp [socketGetaddrinfoDoneCb, hf']

theorem socketCloseDoneCb_of_not_freed {w : World} (hf : w.freed = false) (h : Handle) :
    socketCloseDoneCb w h = tunnelRelease (w.deliver (.close h)) := by
  have hf' : (w.deliver (.close h)).freed = false := hf
  simp [socketCloseDoneCb, hf']

/-! ## The invariant -/

theorem close_not_mem_of_closeCount {w : World} (h : w.closeCount = 0) (hd : Handle) :
    Req.close hd ∉ w.pending := by
  intro hm
  have : 0 < w.closeCount := List.countP_pos_iff.mpr ⟨_, hm, rfl⟩
  omega

theorem closeCount_deliver_close {w : World} {hd : Handle} (hm : Req.close hd ∈ w.pending) :
    (w.deliver (.close hd)).closeCount + 1 = w.closeCount := by
  have hpos : 0 < w.closeCount := List.countP_pos_iff.mpr ⟨_, hm, rfl⟩
  have : (w.deliver (.close hd)).closeCount = w.closeCount - 1 := by
    simp [World.closeCount, World.deliver, List.countP_erase, hm, Req.isClose]
  omega

/-- What holds of a tunnel between any two events of its life. -/
structure Inv (w : World) : Prop where
  freed_terminated : w.freed = true → w.terminated = true
  refCount_eq : w.freed = false → w.refCount = w.closeCount
  live_closes : w.terminated = false → w.closeCount = 0
  shut_refCount : w.terminated = true → w.freed = false → 0 < w.refCount
  /-- `uv_close` took the reads and timers off, and nothing starts them again. -/
  shut_idle : w.terminated = true → ∀ s, Req.read s ∉ w.pending ∧ Req.timer s ∉ w.pending
  /-- A stream whose close callback has come owes no write or connect. -/
  shut_stream : w.terminated = true → ∀ s, Req.close (.stream s) ∉ w.pending →
    Req.write s ∉ w.pending ∧ Req.connect s ∉ w.pending
  freed_closes : w.freed = true → w.closeCount = 0

section Inv

variable {w x : World} (hi : Inv w)
include hi

theorem Inv.live_not_freed (ht : w.terminated = false) : w.freed = false := by
  cases hf : w.freed
  · rfl
  · rw [hi.freed_terminated hf] at ht
    cases ht

/-- A state with the lifetime of a live tunnel keeps the invariant. -/
theorem Inv.of_life (ht : w.terminated = false) (hl : x.life = w.life) : Inv x := by
  have hte : x.terminated = w.terminated := congrArg Life.terminated hl
  have hfe : x.freed = w.freed := congrArg Life.freed hl
  have hre : x.refCount = w.refCount := congrArg Life.refCount hl
  have hce : x.closeCount = w.closeCount := congrArg Life.closeCount hl
  have hf := hi.live_not_freed ht
  refine ⟨?_, ?_, ?_, ?_, ?_, ?_, ?_⟩
  · intro h; rw [hfe, hf] at h; cases h
  · intro _; rw [hre, hce]; exact hi.refCount_eq hf
  · intro _; rw [hce]; exact hi.live_closes ht
  · intro h; rw [hte, ht] at h; cases h
  · intro h; rw [hte, ht] at h; cases h
  · intro h; rw [hte, ht] at h; cases h
  · intro h; rw [hfe, hf] at h; cases h

/-- `tunnel_shutdown` from a state with the lifetime of a live tunnel: four references, the
four close callbacks owed, no read or timer left. -/
theorem Inv.shutdown (ht : w.terminated = false) (hl : x.life = w.life) :
    Inv (tunnelShutdown x) := by
  have hxt : x.terminated = false := (congrArg Life.terminated hl).trans ht
  have hsl := tunnelShutdown_life hxt
  have hte : (tunnelShutdown x).terminated = true := congrArg Life.terminated hsl
  have hfe : (tunnelShutdown x).freed = false :=
    (congrArg Life.freed hsl).trans ((congrArg Life.freed hl).trans (hi.live_not_freed ht))
  have hre : (tunnelShutdown x).refCount = 4 := by
    have h1 : (tunnelShutdown x).refCount = x.refCount + 4 := congrArg Life.refCount hsl
    have h2 : x.refCount = w.refCount := congrArg Life.refCount hl
    have h3 := hi.refCount_eq (hi.live_not_freed ht)
    have h4 := hi.live_closes ht
    omega
  have hce : (tunnelShutdown x).closeCount = 4 := by
    have h1 : (tunnelShutdown x).closeCount = x.closeCount + 4 := congrArg Life.closeCount hsl
    have h2 : x.closeCount = w.closeCount := congrArg Life.closeCount hl
    have h4 := hi.live_closes ht
    omega
  refine ⟨fun _ => hte, fun _ => ?_, fun h => ?_, fun _ _ => ?_, fun _ s => ?_, fun _ s hs => ?_,
    fun h => ?_⟩
  · rw [hre, hce]
    rfl
  · rw [hte] at h
    cases h
  · rw [hre]
    omega
  · exact ⟨(tunnelShutdown_pending hxt s).1, (tunnelShutdown_pending hxt s).2.1⟩
  · exact absurd (tunnelShutdown_pending hxt s).2.2 hs
  · rw [hfe] at h
    cases h

theorem Inv.keepsOrShuts (ht : w.terminated = false) {w' : World} (h : KeepsOrShuts w w') :
    Inv w' := by
  obtain ⟨x, hl, rfl | rfl⟩ := h
  · exact hi.of_life ht hl
  · exact hi.shutdown ht hl

/-- A callback that only takes its request off, on a tunnel shut down. -/
theorem Inv.deliver (ht : w.terminated = true) {r : Req} (hr : r.isClose = false) :
    Inv (w.deliver r) := by
  have hl := life_deliver w hr
  have hfe : (w.deliver r).freed = w.freed := congrArg Life.freed hl
  have hre : (w.deliver r).refCount = w.refCount := congrArg Life.refCount hl
  have hce : (w.deliver r).closeCount = w.closeCount := congrArg Life.closeCount hl
  have hsub : ∀ q, q ∈ (w.deliver r).pending → q ∈ w.pending := fun _ hq => List.mem_of_mem_erase hq
  refine ⟨fun _ => ht, fun h => ?_, fun h => ?_, fun _ h => ?_, fun _ s => ?_, fun _ s hs => ?_,
    fun h => ?_⟩
  · rw [hre, hce]; exact hi.refCount_eq (hfe ▸ h)
  · rw [show (w.deliver r).terminated = true from ht] at h; cases h
  · rw [hre]; exact hi.shut_refCount ht (hfe ▸ h)
  · exact ⟨fun hm => (hi.shut_idle ht s).1 (hsub _ hm), fun hm => (hi.shut_idle ht s).2 (hsub _ hm)⟩
  · -- the close callbacks owed are the same before and after
    have hs' : Req.close (.stream s) ∉ w.pending := fun hm =>
      hs ((List.mem_erase_of_ne (by rintro rfl; simp [Req.isClose] at hr)).mpr hm)
    exact ⟨fun hm => (hi.shut_stream ht s hs').1 (hsub _ hm),
      fun hm => (hi.shut_stream ht s hs').2 (hsub _ hm)⟩
  · rw [hce]; exact hi.freed_closes (hfe ▸ h)

theorem Inv.getaddrinfoPending (b : Bool) : Inv { w with getaddrinfoPending := b } :=
  ⟨hi.1, hi.2, hi.3, hi.4, hi.5, hi.6, hi.7⟩

theorem Inv.touchFreed : Inv w.touchFreed := ⟨hi.1, hi.2, hi.3, hi.4, hi.5, hi.6, hi.7⟩

/-- A close callback on a tunnel not freed: `tunnel_release` drops one reference, and the
last one frees it. -/
theorem Inv.closeDone (hf : w.freed = false) {hd : Handle} (hm : Req.close hd ∈ w.pending)
    (hready : ∀ s, hd = .stream s → Req.write s ∉ w.pending ∧ Req.connect s ∉ w.pending) :
    Inv (tunnelRelease (w.deliver (.close hd))) := by
  have ht : w.terminated = true := by
    cases h : w.terminated
    · exact absurd hm (close_not_mem_of_closeCount (hi.live_closes h) hd)
    · rfl
  have hl := tunnelRelease_life (w.deliver (.close hd))
  have hcnt := closeCount_deliver_close hm
  have hrc := hi.refCount_eq hf
  have hte : (tunnelRelease (w.deliver (.close hd))).terminated = true := (congrArg Life.terminated hl).trans ht
  have hfe : (tunnelRelease (w.deliver (.close hd))).freed = decide (w.refCount - 1 = 0) := by
    have := congrArg Life.freed hl
    simp only [World.life] at this
    rw [this, show (w.deliver (.close hd)).freed = false from hf, Bool.false_or]
    rfl
  have hre : (tunnelRelease (w.deliver (.close hd))).refCount = w.refCount - 1 := congrArg Life.refCount hl
  have hce : (tunnelRelease (w.deliver (.close hd))).closeCount + 1 = w.closeCount := by
    have : (tunnelRelease (w.deliver (.close hd))).closeCount = (w.deliver (.close hd)).closeCount :=
      congrArg Life.closeCount hl
    omega
  have hpend : (tunnelRelease (w.deliver (.close hd))).pending = w.pending.erase (.close hd) :=
    tunnelRelease_pending _
  refine ⟨fun _ => hte, fun h => ?_, fun h => ?_, fun _ h => ?_, fun _ s => ?_, fun _ s hs => ?_,
    fun h => ?_⟩
  · rw [hre]
    omega
  · rw [hte] at h
    cases h
  · rw [hfe] at h
    rw [hre]
    have : w.refCount - 1 ≠ 0 := by simpa using h
    omega
  · rw [hpend]
    exact ⟨fun hr => (hi.shut_idle ht s).1 (List.mem_of_mem_erase hr),
      fun hr => (hi.shut_idle ht s).2 (List.mem_of_mem_erase hr)⟩
  · rw [hpend] at hs ⊢
    by_cases hds : hd = .stream s
    · -- the stream whose close callback this is: libuv had delivered its writes and connect
      obtain ⟨hw, hc⟩ := hready s hds
      exact ⟨fun hr => hw (List.mem_of_mem_erase hr), fun hr => hc (List.mem_of_mem_erase hr)⟩
    · have hs' : Req.close (.stream s) ∉ w.pending := fun hr =>
        hs ((List.mem_erase_of_ne (by intro heq; exact hds (Req.close.inj heq).symm)).mpr hr)
      exact ⟨fun hr => (hi.shut_stream ht s hs').1 (List.mem_of_mem_erase hr),
        fun hr => (hi.shut_stream ht s hs').2 (List.mem_of_mem_erase hr)⟩
  · rw [hfe] at h
    have : w.refCount - 1 = 0 := by simpa using h
    omega

/-- On a freed tunnel libuv owes nothing but host lookups. -/
theorem Inv.pending_of_freed (hf : w.freed = true) {r : Req} (hr : r ∈ w.pending) :
    ∃ s, r = .getaddrinfo s := by
  have ht := hi.freed_terminated hf
  have hc := close_not_mem_of_closeCount (hi.freed_closes hf)
  cases r with
  | read s => exact absurd hr (hi.shut_idle ht s).1
  | timer s => exact absurd hr (hi.shut_idle ht s).2
  | write s => exact absurd hr (hi.shut_stream ht s (hc _)).1
  | connect s => exact absurd hr (hi.shut_stream ht s (hc _)).2
  | close hd => exact absurd hr (hc hd)
  | getaddrinfo s => exact ⟨s, rfl⟩

theorem Inv.not_freed_of_mem {r : Req} (hr : r ∈ w.pending)
    (hne : ∀ s, r ≠ .getaddrinfo s) : w.freed = false := by
  cases hf : w.freed
  · rfl
  · obtain ⟨s, rfl⟩ := hi.pending_of_freed hf hr
    exact absurd rfl (hne s)

/-- Every event keeps the invariant: one case per event, on a live tunnel and on one shut
down. -/
theorem inv_step {e : Event} (he : lifetime.enabled w e) : Inv (step Hooks.idle w e) := by
  cases ht : w.terminated
  · -- a live tunnel: every event keeps its lifetime or shuts it down
    have hf := hi.live_not_freed ht
    cases e with
    | read s c => exact hi.of_life ht (life_socketRead w s c)
    | write s d => exact hi.of_life ht (life_socketWrite w s d)
    | connect s ok => exact hi.of_life ht (life_socketConnect w s ok)
    | getaddrinfo s => exact hi.of_life ht (life_socketGetaddrinfo w s)
    | shutdown => exact hi.shutdown ht rfl
    | readDone s n d => exact hi.keepsOrShuts ht (keepsOrShuts_socketReadDoneCb hf ht s n d)
    | writeDone s st => exact hi.keepsOrShuts ht (keepsOrShuts_socketWriteDoneCb hf ht s st)
    | connectDone s st => exact hi.keepsOrShuts ht (keepsOrShuts_socketConnectDoneCb hf ht s st)
    | getaddrinfoDone s st =>
      exact hi.keepsOrShuts ht (keepsOrShuts_socketGetaddrinfoDoneCb hf ht s st)
    | timerExpire s => exact hi.keepsOrShuts ht (keepsOrShuts_socketTimerExpireCb hf ht s)
    | closeDone hd =>
      -- no close callback is owed before the shutdown
      have hm := mem_of_uvReady_closeDone w (by simpa [lifetime, appReady] using he)
      exact absurd hm (close_not_mem_of_closeCount (hi.live_closes ht) hd)
  · -- a tunnel shut down: callbacks only take their requests off, or release a reference
    cases e with
    | read s c => simp [lifetime, uvReady, appReady, ht] at he
    | write s d => simp [lifetime, uvReady, appReady, ht] at he
    | connect s ok => simp [lifetime, uvReady, appReady, ht] at he
    | getaddrinfo s => simp [lifetime, uvReady, appReady, ht] at he
    | shutdown => simpa [step, tunnelShutdown, ht] using hi
    | readDone s n d =>
      exact absurd (by simpa [lifetime, appReady] using he) (hi.shut_idle ht s).1
    | timerExpire s =>
      exact absurd (by simpa [lifetime, appReady] using he) (hi.shut_idle ht s).2
    | writeDone s st =>
      have hm : Req.write s ∈ w.pending := by simpa [lifetime, appReady] using he
      rw [step, socketWriteDoneCb_terminated ht (hi.not_freed_of_mem hm (fun _ h => by cases h))]
      exact hi.deliver ht rfl
    | connectDone s st =>
      have hm : Req.connect s ∈ w.pending := by simpa [lifetime, appReady] using he
      rw [step, socketConnectDoneCb_terminated ht (hi.not_freed_of_mem hm (fun _ h => by cases h))]
      exact hi.deliver ht rfl
    | getaddrinfoDone s st =>
      cases hf : w.freed
      · rw [step, socketGetaddrinfoDoneCb_terminated ht hf]
        exact (hi.deliver ht rfl).getaddrinfoPending false
      · rw [step, socketGetaddrinfoDoneCb_freed hf]
        exact (hi.deliver ht rfl).touchFreed
    | closeDone hd =>
      have hr := (by simpa [lifetime, appReady] using he : uvReady w (.closeDone hd) = true)
      have hm := mem_of_uvReady_closeDone w hr
      have hf := hi.not_freed_of_mem hm (fun _ h => by cases h)
      rw [step, socketCloseDoneCb_of_not_freed hf]
      refine hi.closeDone hf hm (fun s hs => ?_)
      subst hs
      exact ((uvReady_closeDone_stream w s).mp hr).2

end Inv

theorem inv_fresh : Inv World.fresh := by
  refine ⟨fun h => ?_, fun _ => rfl, fun _ => rfl, fun h => ?_, fun h => ?_, fun h => ?_, fun h => ?_⟩ <;>
    cases h

theorem inv_initial {w : World} (h : Initial w) : Inv w := by
  obtain ⟨success, rfl⟩ := h
  cases success
  · exact inv_fresh.shutdown rfl rfl
  · exact inv_fresh.of_life rfl (life_socketRead World.fresh .incoming true)

/-- The invariant holds of every tunnel, after any order of events. -/
theorem reach_inv {w : World} (h : lifetime.Reach Initial w) : Inv w :=
  Machine.Reach.inv Inv (fun _ h0 => inv_initial h0) (fun _ _ _ hi he => inv_step hi he) h

/-! ## Freeing -/

/-- The request an event is the callback of. -/
def Event.req : Event → Option Req
  | .readDone s _ _ => some (.read s)
  | .writeDone s _ => some (.write s)
  | .connectDone s _ => some (.connect s)
  | .getaddrinfoDone s _ => some (.getaddrinfo s)
  | .timerExpire s => some (.timer s)
  | .closeDone hd => some (.close hd)
  | _ => none

theorem mem_of_uvReady {w : World} {e : Event} (h : uvReady w e = true) :
    ∃ r, e.req = some r ∧ r ∈ w.pending := by
  cases e with
  | readDone s n d => exact ⟨_, rfl, (uvReady_readDone w s n d).mp h⟩
  | writeDone s st => exact ⟨_, rfl, (uvReady_writeDone w s st).mp h⟩
  | connectDone s st => exact ⟨_, rfl, (uvReady_connectDone w s st).mp h⟩
  | getaddrinfoDone s st => exact ⟨_, rfl, (uvReady_getaddrinfoDone w s st).mp h⟩
  | timerExpire s => exact ⟨_, rfl, (uvReady_timerExpire w s).mp h⟩
  | closeDone hd => exact ⟨_, rfl, mem_of_uvReady_closeDone w h⟩
  | read | write | connect | getaddrinfo | shutdown => cases h

theorem closeCount_eq_zero {w : World} (hc : ∀ hd, Req.close hd ∉ w.pending) : w.closeCount = 0 := by
  refine List.countP_eq_zero.mpr (fun r hm hcl => ?_)
  cases r with
  | close hd => exact hc hd hm
  | _ => cases hcl

/-- What a step keeps of `useAfterFree` from a live tunnel or one that keeps its lifetime. -/
theorem KeepsOrShuts.useAfterFree {w w' : World} (ht : w.terminated = false) (h : KeepsOrShuts w w') :
    w'.useAfterFree = w.useAfterFree := by
  obtain ⟨x, hl, rfl | rfl⟩ := h
  · exact congrArg Life.useAfterFree hl
  · have hxt : x.terminated = false := (congrArg Life.terminated hl).trans ht
    exact (congrArg Life.useAfterFree (tunnelShutdown_life hxt)).trans (congrArg Life.useAfterFree hl)

/-- No event on a tunnel not yet freed touches freed memory. -/
theorem Inv.useAfterFree_step {w : World} (hi : Inv w) (hf : w.freed = false) {e : Event}
    (he : lifetime.enabled w e) : (step Hooks.idle w e).useAfterFree = w.useAfterFree := by
  cases ht : w.terminated
  · cases e with
    | read s c => exact congrArg Life.useAfterFree (life_socketRead w s c)
    | write s d => exact congrArg Life.useAfterFree (life_socketWrite w s d)
    | connect s ok => exact congrArg Life.useAfterFree (life_socketConnect w s ok)
    | getaddrinfo s => exact congrArg Life.useAfterFree (life_socketGetaddrinfo w s)
    | shutdown => exact congrArg Life.useAfterFree (tunnelShutdown_life ht)
    | readDone s n d => exact (keepsOrShuts_socketReadDoneCb hf ht s n d).useAfterFree ht
    | writeDone s st => exact (keepsOrShuts_socketWriteDoneCb hf ht s st).useAfterFree ht
    | connectDone s st => exact (keepsOrShuts_socketConnectDoneCb hf ht s st).useAfterFree ht
    | getaddrinfoDone s st => exact (keepsOrShuts_socketGetaddrinfoDoneCb hf ht s st).useAfterFree ht
    | timerExpire s => exact (keepsOrShuts_socketTimerExpireCb hf ht s).useAfterFree ht
    | closeDone hd =>
      have hm := mem_of_uvReady_closeDone w (by simpa [lifetime, appReady] using he)
      exact absurd hm (close_not_mem_of_closeCount (hi.live_closes ht) hd)
  · cases e with
    | read s c => simp [lifetime, uvReady, appReady, ht] at he
    | write s d => simp [lifetime, uvReady, appReady, ht] at he
    | connect s ok => simp [lifetime, uvReady, appReady, ht] at he
    | getaddrinfo s => simp [lifetime, uvReady, appReady, ht] at he
    | shutdown => simp [step, tunnelShutdown, ht]
    | readDone s n d => simp [step, socketReadDoneCb, hf, ht]
    | timerExpire s => simp [step, socketTimerExpireCb, World.deliver, hf, ht]
    | writeDone s st => rw [step, socketWriteDoneCb_terminated ht hf]; rfl
    | connectDone s st => rw [step, socketConnectDoneCb_terminated ht hf]; rfl
    | getaddrinfoDone s st => rw [step, socketGetaddrinfoDoneCb_terminated ht hf]; rfl
    | closeDone hd =>
      rw [step, socketCloseDoneCb_of_not_freed hf]
      exact congrArg Life.useAfterFree (tunnelRelease_life _)

section Reachable

variable {w : World} (hr : lifetime.Reach Initial w)
include hr

/-- `tunnel_release` frees a tunnel only after `tunnel_shutdown`. -/
theorem freed_only_after_shutdown (hf : w.freed = true) : w.terminated = true :=
  (reach_inv hr).freed_terminated hf

/-- A tunnel shut down whose close callbacks have all come has been freed. -/
theorem freed_of_closes_done (ht : w.terminated = true) (hc : ∀ hd, Req.close hd ∉ w.pending) :
    w.freed = true := by
  have hi := reach_inv hr
  cases hf : w.freed
  · have h1 := hi.shut_refCount ht hf
    have h2 := hi.refCount_eq hf
    have h3 := closeCount_eq_zero hc
    omega
  · rfl

/-- After the free libuv owes only host lookups, so a lookup's callback is the only event
that may still come. -/
theorem enabled_of_freed (hf : w.freed = true) {e : Event} (he : lifetime.enabled w e) :
    ∃ s status, e = .getaddrinfoDone s status := by
  have hi := reach_inv hr
  have ht := hi.freed_terminated hf
  rcases he with hu | ha
  · obtain ⟨r, hreq, hm⟩ := mem_of_uvReady hu
    obtain ⟨s, rfl⟩ := hi.pending_of_freed hf hm
    cases e <;> simp [Event.req] at hreq
    exact ⟨s, _, by rw [hreq]⟩
  · cases e <;> simp [appReady, ht, hf] at ha

/-- `tunnel_release` runs its free once: no close callback comes after it. -/
theorem no_release_after_free (hf : w.freed = true) (hd : Handle) :
    ¬ lifetime.enabled w (.closeDone hd) := by
  intro he
  obtain ⟨_, _, h⟩ := enabled_of_freed hr hf he
  cases h

/-- Only a host lookup's callback touches a freed tunnel. -/
theorem useAfterFree_only_by_getaddrinfo {e : Event} (he : lifetime.enabled w e)
    (hu : (lifetime.step w e).useAfterFree = true) :
    w.useAfterFree = true ∨ ∃ s status, e = .getaddrinfoDone s status := by
  cases hf : w.freed
  · left
    rw [← (reach_inv hr).useAfterFree_step hf he]
    exact hu
  · exact Or.inr (enabled_of_freed hr hf he)

/-- Over every run: `tunnel_release` frees only a tunnel shut down, no close callback
comes after the free, and the first callback to touch freed memory is a host lookup's. -/
theorem tunnel_lifetime_holds_but_for_the_lookup_callback :
    (w.freed = true → w.terminated = true) ∧
      (w.freed = true → ∀ hd, ¬ lifetime.enabled w (.closeDone hd)) ∧
      (∀ e, lifetime.enabled w e → w.useAfterFree = false →
        (lifetime.step w e).useAfterFree = true → ∃ s status, e = .getaddrinfoDone s status) := by
  refine ⟨freed_only_after_shutdown hr, no_release_after_free hr, fun e he hu0 hu => ?_⟩
  rcases useAfterFree_only_by_getaddrinfo hr he hu with h | h
  · rw [hu0] at h
    cases h
  · exact h

end Reachable

/-! ## The host lookup's callback after the free -/

def Req.isGetaddrinfo : Req → Bool
  | .getaddrinfo _ => true
  | _ => false

/-- The callbacks libuv owes other than host lookups'. -/
def World.owed (w : World) : Nat := w.pending.countP (fun r => !r.isGetaddrinfo)

theorem owed_erase_lt {w : World} {r : Req} (hm : r ∈ w.pending) (hr : r.isGetaddrinfo = false) :
    (w.pending.erase r).countP (fun r => !r.isGetaddrinfo) < w.owed := by
  have hpos : 0 < w.owed := List.countP_pos_iff.mpr ⟨r, hm, by simp [hr]⟩
  rw [List.countP_erase]
  simp only [hm, hr, Bool.not_false, and_self, if_true]
  exact Nat.sub_lt hpos Nat.one_pos

/-- From a reachable tunnel shut down, libuv may deliver, in an order it allows, what it
owes but host lookups: the writes and connects (cancelled), then the close callbacks,
until `tunnel_release` frees the tunnel. A pending lookup stays pending. -/
theorem exists_run_to_free {w : World} (hr : lifetime.Reach Initial w) (ht : w.terminated = true)
    {s : Side} (hg : Req.getaddrinfo s ∈ w.pending) :
    ∃ w', lifetime.Run w w' ∧ lifetime.Reach Initial w' ∧ w'.freed = true ∧
      Req.getaddrinfo s ∈ w'.pending := by
  let P : World → Prop := fun v => lifetime.Reach Initial v ∧ v.terminated = true ∧ Req.getaddrinfo s ∈ v.pending
  let Q : World → Prop := fun v => lifetime.Reach Initial v ∧ v.freed = true ∧ Req.getaddrinfo s ∈ v.pending
  -- one delivery that keeps `P` and lowers what is owed, unless the tunnel is freed
  have hstep : ∀ v, P v → Q v ∨ ∃ e, lifetime.enabled v e ∧ P (lifetime.step v e) ∧
      (lifetime.step v e).owed < v.owed := by
    rintro v ⟨hrv, htv, hgv⟩
    cases hf : v.freed
    · right
      -- a callback that takes its request off, other than a lookup's, keeps `P` and lowers
      -- what is owed
      have deliver_ok : ∀ e r, lifetime.enabled v e → (lifetime.step v e).pending = v.pending.erase r →
          (lifetime.step v e).terminated = true → r ∈ v.pending → r.isGetaddrinfo = false →
          ∃ e', lifetime.enabled v e' ∧ P (lifetime.step v e') ∧ (lifetime.step v e').owed < v.owed := by
        intro e r he hp ht' hm hr
        refine ⟨e, he, ⟨Machine.Reach.step e hrv he, ht', ?_⟩, ?_⟩
        · rw [hp]
          exact (List.mem_erase_of_ne (by rintro rfl; simp [Req.isGetaddrinfo] at hr)).mpr hgv
        · rw [World.owed, hp]
          exact owed_erase_lt hm hr
      by_cases hw : ∃ s', Req.write s' ∈ v.pending
      · -- a pending write comes back cancelled (`UV_ECANCELED`)
        obtain ⟨s', hm⟩ := hw
        have he : lifetime.enabled v (.writeDone s' (-125)) := Or.inl ((uvReady_writeDone v s' _).mpr hm)
        have hs : lifetime.step v (.writeDone s' (-125)) = v.deliver (.write s') :=
          socketWriteDoneCb_terminated htv hf _ _ _
        exact deliver_ok _ _ he (by rw [hs]; rfl) (by rw [hs]; exact htv) hm rfl
      by_cases hc : ∃ s', Req.connect s' ∈ v.pending
      · obtain ⟨s', hm⟩ := hc
        have he : lifetime.enabled v (.connectDone s' (-125)) :=
          Or.inl ((uvReady_connectDone v s' _).mpr hm)
        have hs : lifetime.step v (.connectDone s' (-125)) = v.deliver (.connect s') :=
          socketConnectDoneCb_terminated htv hf _ _ _
        exact deliver_ok _ _ he (by rw [hs]; rfl) (by rw [hs]; exact htv) hm rfl
      by_cases hcl : ∃ hd, Req.close hd ∈ v.pending
      · -- with no write or connect owed, every close callback owed may come
        obtain ⟨hd, hm⟩ := hcl
        have hready : uvReady v (.closeDone hd) = true := by
          cases hd with
          | stream s' =>
            exact (uvReady_closeDone_stream v s').mpr ⟨hm, fun h => hw ⟨s', h⟩, fun h => hc ⟨s', h⟩⟩
          | timer s' => exact (uvReady_closeDone_timer v s').mpr hm
        have hs : lifetime.step v (.closeDone hd) = tunnelRelease (v.deliver (.close hd)) :=
          socketCloseDoneCb_of_not_freed hf hd
        have ht' : (lifetime.step v (.closeDone hd)).terminated = true := by
          rw [hs]
          exact (congrArg Life.terminated (tunnelRelease_life _)).trans htv
        exact deliver_ok _ _ (Or.inl hready) (by rw [hs]; exact tunnelRelease_pending _) ht' hm rfl
      -- no close callback is owed: `tunnel_release` has freed the tunnel
      have hfree := freed_of_closes_done hrv htv (fun hd hm => hcl ⟨hd, hm⟩)
      rw [hf] at hfree
      cases hfree
    · exact Or.inl ⟨hrv, hf, hgv⟩
  obtain ⟨w', hrun, hq⟩ := exists_run_of_measure World.owed P Q hstep w ⟨hr, ht, hg⟩
  exact ⟨w', hrun, hq⟩

/-- A tunnel shut down while it resolves a host: libuv may run the four close callbacks,
so that `tunnel_release` frees the tunnel, and then the lookup's callback, whose
`tunnel->getaddrinfo_pending = false` writes the freed memory. -/
theorem getaddrinfo_callback_can_write_the_freed_tunnel {w : World}
    (hr : lifetime.Reach Initial w) (ht : w.terminated = true) {s : Side}
    (hg : Req.getaddrinfo s ∈ w.pending) :
    ∃ w', lifetime.Run w w' ∧ w'.freed = true ∧ w'.useAfterFree = true := by
  obtain ⟨w₁, hrun, -, hf, hg₁⟩ := exists_run_to_free hr ht hg
  -- the answer of a lookup a thread-pool thread had started, which `uv_cancel` could not
  -- stop, on the freed tunnel
  have he : lifetime.enabled w₁ (.getaddrinfoDone s 0) :=
    Or.inl ((uvReady_getaddrinfoDone w₁ s _).mpr hg₁)
  have hs : lifetime.step w₁ (.getaddrinfoDone s 0) = (w₁.deliver (.getaddrinfo s)).touchFreed :=
    socketGetaddrinfoDoneCb_freed hf _ _ _
  refine ⟨_, Relation.ReflTransGen.tail hrun ⟨_, he, rfl⟩, ?_, ?_⟩
  · rw [hs]
    exact hf
  · rw [hs]
    rfl

/-- A server tunnel that has read the client's first bytes, started resolving the
requested host, and hit the outgoing socket's idle timeout before the answer. -/
def lookupTimedOut : World :=
  let w := tunnelInitialize true
  let w := lifetime.step w (.readDone .incoming 3 [3, 1, 97])
  let w := lifetime.step w (.getaddrinfo .outgoing)
  lifetime.step w (.timerExpire .outgoing)

theorem lookupTimedOut_reach : lifetime.Reach Initial lookupTimedOut :=
  Machine.Reach.step _ (Machine.Reach.step _ (Machine.Reach.step _ (Machine.Reach.init ⟨true, rfl⟩)
    (Or.inl (by decide))) (Or.inr (by decide))) (Or.inl (by decide))

/-- The tunnel whose lookup outlasted the idle timeout keeps the lifetime. -/
theorem timed_out_lookup_keeps_the_lifetime :
    (lookupTimedOut.freed = true → lookupTimedOut.terminated = true) ∧
      (lookupTimedOut.freed = true → ∀ hd, ¬ lifetime.enabled lookupTimedOut (.closeDone hd)) ∧
      (∀ e, lifetime.enabled lookupTimedOut e → lookupTimedOut.useAfterFree = false →
        (lifetime.step lookupTimedOut e).useAfterFree = true →
          ∃ s status, e = .getaddrinfoDone s status) :=
  tunnel_lifetime_holds_but_for_the_lookup_callback lookupTimedOut_reach

theorem lookup_timeout_then_late_lookup_callback :
    lifetime.Reach Initial lookupTimedOut ∧ lookupTimedOut.terminated = true ∧
      Req.getaddrinfo .outgoing ∈ lookupTimedOut.pending ∧
      ∃ w', lifetime.Run lookupTimedOut w' ∧ w'.freed = true ∧ w'.useAfterFree = true :=
  ⟨lookupTimedOut_reach, by decide, by decide,
    getaddrinfo_callback_can_write_the_freed_tunnel lookupTimedOut_reach (by decide)
      (s := .outgoing) (by decide)⟩

end ShadowsocksR.Tunnel
