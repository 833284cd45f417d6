/-
  ShadowsocksR.Tunnel.Ctx — a tunnel of `tunnel.c`: its two `socket_ctx`, the libuv
  requests whose callbacks are still to come, and what each function of `tunnel.c` and
  each of its callbacks does to them.

  A `World` is the memory of one tunnel (the fields of `struct tunnel_ctx` and of its two
  `struct socket_ctx` that the code tests), whether `tunnel_release` has freed it, and
  the callbacks libuv still owes it (`pending`). A read request stays until
  `uv_read_stop`; a write, connect, lookup, timer or close request goes when its callback
  comes (`World.deliver`). What libuv may deliver is `uvReady`: a stream's close callback
  only after its pending writes and connect, nothing of a stream's reads or a timer after
  `uv_close` (which takes them off), and a host lookup's callback at any time, cancelled
  or not. An `ASSERT` that fails is recorded (`assertFailed`), as is the first access of
  a callback to a freed tunnel (`useAfterFree`), after which the callback is followed no
  further. Two logs observe the data: what each read handed to `tunnel_read_done`
  (`reads`, the `c->buf` of the call) and what each `socket_write` sent (`writes`).

  The application (`client.c` or `server.c`) is called back through `Hooks` and calls in
  through `socket_read`, `socket_write`, `socket_connect`, `socket_getaddrinfo` and
  `tunnel_shutdown` (`Event`). In `lifetime` it may make those calls whenever the tunnel
  has not been shut down, and libuv may deliver whatever it owes.
-/

import ShadowsocksR.Lib.Machine

namespace ShadowsocksR.Tunnel

open StateMachine

/-- `enum socket_state`. -/
inductive SocketState where
  | stop
  | busy
  | done
  | dead
  deriving DecidableEq, Repr

/-- The two `socket_ctx` of a tunnel: `incoming` (from the client) and `outgoing`. -/
inductive Side where
  | incoming
  | outgoing
  deriving DecidableEq, Repr

/-- The other socket of the tunnel: the target of `tunnel_traditional_streaming`. -/
def Side.other : Side → Side
  | .incoming => .outgoing
  | .outgoing => .incoming

@[simp] theorem Side.other_other (s : Side) : s.other.other = s := by cases s <;> rfl

@[simp] theorem Side.other_ne (s : Side) : s.other ≠ s := by cases s <;> decide

@[simp] theorem Side.ne_other (s : Side) : s ≠ s.other := by cases s <;> decide

/-- The two libuv handles of a `socket_ctx`: `handle` (the TCP stream) and `timer_handle`. -/
inductive Handle where
  | stream (s : Side)
  | timer (s : Side)
  deriving DecidableEq, Repr

/-- A libuv request whose callback may still come. -/
inductive Req where
  /-- `uv_read_start`: `socket_read_done_cb`, again and again until `uv_read_stop` -/
  | read (s : Side)
  /-- one `uv_write`: `socket_write_done_cb` -/
  | write (s : Side)
  /-- `uv_tcp_connect`: `socket_connect_done_cb` -/
  | connect (s : Side)
  /-- `uv_getaddrinfo`: `socket_getaddrinfo_done_cb` -/
  | getaddrinfo (s : Side)
  /-- `uv_timer_start`: `socket_timer_expire_cb` -/
  | timer (s : Side)
  /-- `uv_close`: `socket_close_done_cb` -/
  | close (h : Handle)
  deriving DecidableEq, Repr

/-- The close callbacks: those `ref_count` counts. -/
def Req.isClose : Req → Bool
  | .close _ => true
  | _ => false

/-- The fields of `struct socket_ctx` the code tests. -/
structure SocketCtx where
  rdstate : SocketState
  wrstate : SocketState
  deriving DecidableEq, Repr

/-- The memory of a tunnel and its two sockets, libuv's pending callbacks, and what an
observer records. -/
structure World where
  terminated : Bool
  getaddrinfoPending : Bool
  refCount : Int
  incoming : SocketCtx
  outgoing : SocketCtx
  /-- `tunnel_release` has freed the tunnel and both sockets. -/
  freed : Bool
  /-- A callback has read or written that memory after it was freed. -/
  useAfterFree : Bool
  /-- An `ASSERT` has failed. -/
  assertFailed : Bool
  pending : List Req
  /-- The data of each read handed to `tunnel_read_done`, in order. -/
  reads : List (Side × List UInt8)
  /-- The buffers given to `socket_write`, in order. -/
  writes : List (Side × List UInt8)
  deriving DecidableEq, Repr

namespace World

/-- `tunnel->incoming` or `tunnel->outgoing`. -/
def sock (w : World) : Side → SocketCtx
  | .incoming => w.incoming
  | .outgoing => w.outgoing

/-- A write to one of the two sockets. -/
def setSock (w : World) (s : Side) (c : SocketCtx) : World :=
  { w with incoming := if s = .incoming then c else w.incoming,
           outgoing := if s = .outgoing then c else w.outgoing }

/-- `c->rdstate = st`. -/
def setRd (w : World) (s : Side) (st : SocketState) : World :=
  w.setSock s { w.sock s with rdstate := st }

/-- `c->wrstate = st`. -/
def setWr (w : World) (s : Side) (st : SocketState) : World :=
  w.setSock s { w.sock s with wrstate := st }

/-- `ASSERT(cond)`: a failure is recorded. A debug build aborts there; a release build,
where the macro is empty, goes on. -/
def assert (w : World) (cond : Bool) : World :=
  if cond then w else { w with assertFailed := true }

/-- libuv now owes the callback of `r`. -/
def addReq (w : World) (r : Req) : World := { w with pending := w.pending ++ [r] }

/-- libuv no longer owes any callback of `r`. -/
def dropReq (w : World) (r : Req) : World := { w with pending := w.pending.filter (· != r) }

/-- libuv delivers one callback of `r`. -/
def deliver (w : World) (r : Req) : World := { w with pending := w.pending.erase r }

theorem sock_setSock (w : World) (s s' : Side) (c : SocketCtx) :
    (w.setSock s c).sock s' = if s' = s then c else w.sock s' := by
  cases s <;> cases s' <;> rfl

@[simp] theorem sock_setSock_self (w : World) (s : Side) (c : SocketCtx) : (w.setSock s c).sock s = c := by
  simp [sock_setSock]

@[simp] theorem sock_setSock_of_ne (w : World) {s s' : Side} (c : SocketCtx) (h : s' ≠ s) :
    (w.setSock s c).sock s' = w.sock s' := by
  simp [sock_setSock, h]

@[simp] theorem assert_true (w : World) : w.assert true = w := rfl

/-- An assertion changes only the failure flag. -/
theorem assert_eq (w : World) (cond : Bool) :
    w.assert cond = { w with assertFailed := w.assertFailed || !cond } := by
  cases cond <;> simp [assert]

end World

/-! ## libuv -/

/-- `uv_read_start`. -/
def uvReadStart (w : World) (s : Side) : World := w.addReq (.read s)

/-- `uv_read_stop`. -/
def uvReadStop (w : World) (s : Side) : World := w.dropReq (.read s)

/-- `socket_timer_start(c)`: `uv_timer_start` on the socket's timer, a one-shot of
`idle_timeout`; an active timer starts again. -/
def socketTimerStart (w : World) (s : Side) : World := (w.dropReq (.timer s)).addReq (.timer s)

/-- `socket_timer_stop(c)`. -/
def socketTimerStop (w : World) (s : Side) : World := w.dropReq (.timer s)

/-- `uv_close`: a stream stops reading, a timer stops; the close callback comes later. -/
def uvClose (w : World) : Handle → World
  | .stream s => (w.dropReq (.read s)).addReq (.close (.stream s))
  | .timer s => (w.dropReq (.timer s)).addReq (.close (.timer s))

/-! ## `tunnel.c` -/

/-- `socket_read(c, check_timeout)`. -/
def socketRead (w : World) (s : Side) (checkTimeout : Bool) : World :=
  let w := w.assert ((w.sock s).rdstate = .stop)
  let w := uvReadStart w s
  let w := w.setRd s .busy
  if checkTimeout then socketTimerStart w s else w

/-- `socket_write(c, data, len)`: one `uv_write` of a copy of the data. -/
def socketWrite (w : World) (s : Side) (data : List UInt8) : World :=
  let w := w.assert ((w.sock s).wrstate = .stop)
  let w := w.setWr s .busy
  let w := { w.addReq (.write s) with writes := w.writes ++ [(s, data)] }
  socketTimerStart w s

/-- `socket_connect(c)`: the timer, then `uv_tcp_connect`, which owes a callback unless it
fails at once (`ok = false`, the error going back to the caller). -/
def socketConnect (w : World) (s : Side) (ok : Bool) : World :=
  let w := socketTimerStart w s
  if ok then w.addReq (.connect s) else w

/-- `socket_getaddrinfo(c, hostname)`. -/
def socketGetaddrinfo (w : World) (s : Side) : World :=
  let w := w.addReq (.getaddrinfo s)
  let w := socketTimerStart w s
  { w with getaddrinfoPending := true }

/-- `socket_close(c)`: both handles closed, a reference taken for each close callback. -/
def socketClose (w : World) (s : Side) : World :=
  let w := w.assert ((w.sock s).rdstate != .dead)
  let w := w.assert ((w.sock s).wrstate != .dead)
  let w := w.setSock s ⟨.dead, .dead⟩
  let w := uvClose { w with refCount := w.refCount + 1 } (.stream s)
  uvClose { w with refCount := w.refCount + 1 } (.timer s)

/-- `tunnel_shutdown(tunnel)`. The `uv_cancel` of a pending lookup changes only the status
its callback gets: the callback still comes, at any later time. -/
def tunnelShutdown (w : World) : World :=
  if w.terminated then w
  else
    let w := { w with terminated := true }
    let w := socketClose w .incoming
    socketClose w .outgoing

/-- `tunnel_release(tunnel)`: the last reference frees the tunnel and its sockets. -/
def tunnelRelease (w : World) : World :=
  let w := { w with refCount := w.refCount - 1 }
  if w.refCount = 0 then { w with freed := true } else w

/-- What the application does when a callback hands it the tunnel: `tunnel_read_done`,
`tunnel_write_done`, `tunnel_outgoing_connected_done`, `tunnel_getaddrinfo_done`. -/
structure Hooks where
  tunnelReadDone : World → Side → World
  tunnelWriteDone : World → Side → World
  tunnelOutgoingConnectedDone : World → Side → World
  tunnelGetaddrinfoDone : World → Side → World

/-- Hooks that do nothing: the application's calls are then events of their own. -/
def Hooks.idle : Hooks := ⟨fun w _ => w, fun w _ => w, fun w _ => w, fun w _ => w⟩

/-- The first access of a callback to the tunnel (`c->result = ...`) when it has been
freed: the use after free, after which the model follows the callback no further. -/
def World.touchFreed (w : World) : World := { w with useAfterFree := true }

/-- `socket_read_done_cb(handle, nread, buf)`, the read's bytes being `data`. -/
def socketReadDoneCb (hooks : Hooks) (w : World) (s : Side) (nread : Int) (data : List UInt8) :
    World :=
  if w.freed then w.touchFreed
  else if w.terminated then w
  else
    let w := uvReadStop w s
    let w := socketTimerStop w s
    -- `nread == 0` breaks out with the read stopped and `rdstate` still busy
    if nread = 0 then w
    else if nread < 0 then tunnelShutdown w
    else
      let w := { w with reads := w.reads ++ [(s, data)] }
      let w := w.assert ((w.sock s).rdstate = .busy)
      let w := w.setRd s .done
      hooks.tunnelReadDone w s

/-- `socket_write_done_cb(req, status)`. -/
def socketWriteDoneCb (hooks : Hooks) (w : World) (s : Side) (status : Int) : World :=
  let w := w.deliver (.write s)
  if w.freed then w.touchFreed
  else if w.terminated then w
  else
    let w := socketTimerStop w s
    if status < 0 then tunnelShutdown w
    else
      let w := w.assert ((w.sock s).wrstate = .busy)
      let w := w.setWr s .done
      hooks.tunnelWriteDone w s

/-- `socket_connect_done_cb(req, status)`. -/
def socketConnectDoneCb (hooks : Hooks) (w : World) (s : Side) (status : Int) : World :=
  let w := w.deliver (.connect s)
  if w.freed then w.touchFreed
  else if w.terminated then w
  else
    let w := socketTimerStop w s
    if status < 0 then tunnelShutdown w
    else hooks.tunnelOutgoingConnectedDone w s

/-- `socket_getaddrinfo_done_cb(req, status, ai)`: `getaddrinfo_pending` is cleared before
the tunnel is tested for termination. -/
def socketGetaddrinfoDoneCb (hooks : Hooks) (w : World) (s : Side) (status : Int) : World :=
  let w := w.deliver (.getaddrinfo s)
  if w.freed then w.touchFreed
  else
    let w := { w with getaddrinfoPending := false }
    if w.terminated then w
    else
      let w := socketTimerStop w s
      if status < 0 then tunnelShutdown w
      else hooks.tunnelGetaddrinfoDone w s

/-- `socket_timer_expire_cb(handle)`; `tunnel_timeout_expire_done` of both applications
only logs. -/
def socketTimerExpireCb (w : World) (s : Side) : World :=
  let w := w.deliver (.timer s)
  if w.freed then w.touchFreed
  else if w.terminated then w
  else tunnelShutdown w

/-- `socket_close_done_cb(handle)`. -/
def socketCloseDoneCb (w : World) (h : Handle) : World :=
  let w := w.deliver (.close h)
  if w.freed then w.touchFreed
  else tunnelRelease w

/-- The tunnel `calloc` makes, before `tunnel_initialize` starts it. -/
def World.fresh : World :=
  { terminated := false, getaddrinfoPending := false, refCount := 0,
    incoming := ⟨.stop, .stop⟩, outgoing := ⟨.stop, .stop⟩, freed := false,
    useAfterFree := false, assertFailed := false, pending := [], reads := [], writes := [] }

/-- `tunnel_initialize(listener, idle_timeout, init_done_cb, p)`: the first read, or
`tunnel_shutdown` when `init_done_cb` refuses the tunnel. -/
def tunnelInitialize (success : Bool) : World :=
  if success then socketRead World.fresh .incoming true else tunnelShutdown World.fresh

/-! ## The event loop -/

/-- An application's call into `tunnel.c`, or a callback libuv delivers. -/
inductive Event where
  | read (s : Side) (checkTimeout : Bool)
  | write (s : Side) (data : List UInt8)
  | connect (s : Side) (ok : Bool)
  | getaddrinfo (s : Side)
  | shutdown
  | readDone (s : Side) (nread : Int) (data : List UInt8)
  | writeDone (s : Side) (status : Int)
  | connectDone (s : Side) (status : Int)
  | getaddrinfoDone (s : Side) (status : Int)
  | timerExpire (s : Side)
  | closeDone (h : Handle)
  deriving DecidableEq, Repr

/-- What each event does. -/
def step (hooks : Hooks) (w : World) : Event → World
  | .read s checkTimeout => socketRead w s checkTimeout
  | .write s data => socketWrite w s data
  | .connect s ok => socketConnect w s ok
  | .getaddrinfo s => socketGetaddrinfo w s
  | .shutdown => tunnelShutdown w
  | .readDone s nread data => socketReadDoneCb hooks w s nread data
  | .writeDone s status => socketWriteDoneCb hooks w s status
  | .connectDone s status => socketConnectDoneCb hooks w s status
  | .getaddrinfoDone s status => socketGetaddrinfoDoneCb hooks w s status
  | .timerExpire s => socketTimerExpireCb w s
  | .closeDone h => socketCloseDoneCb w h

/-- The callbacks libuv may deliver now. -/
def uvReady (w : World) : Event → Bool
  | .readDone s _ _ => w.pending.contains (.read s)
  | .writeDone s _ => w.pending.contains (.write s)
  | .connectDone s _ => w.pending.contains (.connect s)
  | .getaddrinfoDone s _ => w.pending.contains (.getaddrinfo s)
  | .timerExpire s => w.pending.contains (.timer s)
  | .closeDone (.stream s) =>
    w.pending.contains (.close (.stream s)) && !w.pending.contains (.write s) &&
      !w.pending.contains (.connect s)
  | .closeDone (.timer s) => w.pending.contains (.close (.timer s))
  | _ => false

section Ready

variable (w : World) (s : Side)

@[simp] theorem uvReady_readDone (nread : Int) (data : List UInt8) :
    uvReady w (.readDone s nread data) = true ↔ Req.read s ∈ w.pending :=
  List.contains_iff_mem

@[simp] theorem uvReady_writeDone (status : Int) :
    uvReady w (.writeDone s status) = true ↔ Req.write s ∈ w.pending :=
  List.contains_iff_mem

@[simp] theorem uvReady_connectDone (status : Int) :
    uvReady w (.connectDone s status) = true ↔ Req.connect s ∈ w.pending :=
  List.contains_iff_mem

@[simp] theorem uvReady_getaddrinfoDone (status : Int) :
    uvReady w (.getaddrinfoDone s status) = true ↔ Req.getaddrinfo s ∈ w.pending :=
  List.contains_iff_mem

@[simp] theorem uvReady_timerExpire : uvReady w (.timerExpire s) = true ↔ Req.timer s ∈ w.pending :=
  List.contains_iff_mem

@[simp] theorem uvReady_closeDone_stream :
    uvReady w (.closeDone (.stream s)) = true ↔
      Req.close (.stream s) ∈ w.pending ∧ Req.write s ∉ w.pending ∧ Req.connect s ∉ w.pending := by
  show (w.pending.contains _ && !w.pending.contains _ && !w.pending.contains _) = true ↔ _
  simp [and_assoc]

@[simp] theorem uvReady_closeDone_timer :
    uvReady w (.closeDone (.timer s)) = true ↔ Req.close (.timer s) ∈ w.pending :=
  List.contains_iff_mem

/-- libuv owes the close callback of every handle it may close now. -/
theorem mem_of_uvReady_closeDone {h : Handle} (he : uvReady w (.closeDone h) = true) :
    Req.close h ∈ w.pending := by
  cases h with
  | stream s => exact ((uvReady_closeDone_stream w s).mp he).1
  | timer s => exact (uvReady_closeDone_timer w s).mp he

end Ready

/-- The calls the application may make: into a tunnel not shut down, and
`tunnel_shutdown` (also from outside a callback, as `server_shutdown` does) on any tunnel
not freed. -/
def appReady (w : World) : Event → Bool
  | .read .. | .write .. | .connect .. | .getaddrinfo _ => !w.terminated
  | .shutdown => !w.freed
  | _ => false

/-- A tunnel's life: the application's calls and libuv's callbacks, in any order libuv
allows. -/
def lifetime : Machine World Event where
  enabled w e := uvReady w e = true ∨ appReady w e = true
  step := step Hooks.idle

/-- The tunnels `tunnel_initialize` makes. -/
def Initial (w : World) : Prop := ∃ success, w = tunnelInitialize success

end ShadowsocksR.Tunnel
