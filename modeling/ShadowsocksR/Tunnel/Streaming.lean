/-
  ShadowsocksR.Tunnel.Streaming — `tunnel_traditional_streaming`: read when not writing,
  write when not reading.

  From `do_launch_streaming` on, every callback of the tunnel goes to
  `tunnel_traditional_streaming` (`do_next` in the streaming stage, client and server
  alike). A read done on a socket `S` is handed to `tunnel_extract_data`, and what it
  returns is written to the other socket `T`; when that write is done, `S` is read
  again. Each socket carries the read of one direction and the write of the other, so
  the two directions meet in the socket records. `tunnel_extract_data` is the
  application's: here any function of the data read so far on the socket
  (`Extract`), which covers a cipher's state and its random draws fixed in advance.

  Proved (`StreamInv`, `streamInv_reach`): over every order of read and write
  completions, timer expiries, close callbacks and external shutdowns from the state
  `do_launch_streaming` leaves, no `ASSERT` fails (those of
  `tunnel_traditional_streaming`, and those of `socket_read` and `socket_write`, which
  say each is called on a stopped socket only); while the tunnel lives, each direction
  is either reading (`S` busy, `T`'s write stopped, no write owed to `T`) or writing
  (`S` stopped, `T` busy, one write owed, no read owed) (`DirOk`); at most one write is
  owed per socket; and the buffers written to `T` are exactly what
  `tunnel_extract_data` made of `S`'s reads, in order (`streaming_alternates`). A read of
  0 bytes stops the direction with `S` still busy: nothing reads it again.
-/

import ShadowsocksR.Tunnel.Lifetime

namespace ShadowsocksR.Tunnel

open StateMachine

/-- There are two sides: one that is not `s` is `s`'s other. -/
theorem Side.other_eq_of_ne {s s' : Side} (h : s' ≠ s) : s'.other = s := by
  cases s <;> cases s' <;> first | rfl | exact absurd rfl h

theorem Side.eq_other_of_ne {s s' : Side} (h : s' ≠ s) : s' = s.other := by
  rw [← Side.other_eq_of_ne h, Side.other_other]

/-! ## The socket ports -/

/-- A socket as the streaming invariant sees it: its two states, and the reads and the
writes libuv owes it. -/
structure Port where
  rd : SocketState
  wr : SocketState
  readsOwed : Nat
  writesOwed : Nat
  deriving DecidableEq, Repr

def World.port (w : World) (s : Side) : Port :=
  ⟨(w.sock s).rdstate, (w.sock s).wrstate, w.pending.count (.read s), w.pending.count (.write s)⟩

section Ports

variable (w : World) (s s' : Side)

@[simp] theorem port_assert (c : Bool) : (w.assert c).port s' = w.port s' := by
  rw [World.assert_eq]
  rfl

@[simp] theorem port_setRd (st : SocketState) :
    (w.setRd s st).port s' = if s' = s then { w.port s with rd := st } else w.port s' := by
  cases s <;> cases s' <;> rfl

@[simp] theorem port_setWr (st : SocketState) :
    (w.setWr s st).port s' = if s' = s then { w.port s with wr := st } else w.port s' := by
  cases s <;> cases s' <;> rfl

@[simp] theorem port_reads (l : List (Side × List UInt8)) : { w with reads := l }.port s' = w.port s' :=
  rfl

@[simp] theorem port_socketTimerStart : (socketTimerStart w s).port s' = w.port s' := by
  cases s <;> cases s' <;>
    simp [World.port, World.sock, socketTimerStart, World.addReq, World.dropReq, List.count_filter]

@[simp] theorem port_socketTimerStop : (socketTimerStop w s).port s' = w.port s' := by
  cases s <;> cases s' <;> simp [World.port, World.sock, socketTimerStop, World.dropReq, List.count_filter]

@[simp] theorem port_uvReadStop :
    (uvReadStop w s).port s' = if s' = s then { w.port s with readsOwed := 0 } else w.port s' := by
  cases s <;> cases s' <;>
    simp [World.port, World.sock, uvReadStop, World.dropReq, List.count_filter, List.count_eq_zero]

@[simp] theorem port_deliver_write :
    (w.deliver (.write s)).port s' =
      if s' = s then { w.port s with writesOwed := (w.port s).writesOwed - 1 } else w.port s' := by
  cases s <;> cases s' <;>
    simp [World.port, World.sock, World.deliver, List.count_erase_self, List.count_erase_of_ne]

@[simp] theorem port_deliver_timer : (w.deliver (.timer s)).port s' = w.port s' := by
  cases s <;> cases s' <;> simp [World.port, World.sock, World.deliver, List.count_erase_of_ne]

@[simp] theorem port_socketRead (checkTimeout : Bool) :
    (socketRead w s checkTimeout).port s' =
      if s' = s then { w.port s with rd := .busy, readsOwed := (w.port s).readsOwed + 1 }
      else w.port s' := by
  cases checkTimeout <;> cases s <;> cases s' <;>
    simp [socketRead, World.port, uvReadStart, World.setRd, World.setSock, World.sock,
      World.addReq, World.assert_eq, socketTimerStart, World.dropReq, List.count_filter]

@[simp] theorem port_socketWrite (data : List UInt8) :
    (socketWrite w s data).port s' =
      if s' = s then { w.port s with wr := .busy, writesOwed := (w.port s).writesOwed + 1 }
      else w.port s' := by
  cases s <;> cases s' <;>
    simp [socketWrite, World.port, World.setWr, World.setSock, World.sock, World.addReq,
      World.assert_eq, socketTimerStart, World.dropReq, List.count_filter]

end Ports

/-! ## The data -/

/-- The data of every read handed to `tunnel_read_done` on a socket, in order. -/
def readsOf (w : World) (s : Side) : List (List UInt8) := (w.reads.filter (·.1 == s)).map (·.2)

/-- The buffers given to `socket_write` on a socket, in order. -/
def writesTo (w : World) (s : Side) : List (List UInt8) := (w.writes.filter (·.1 == s)).map (·.2)

/-- The buffers `tunnel_extract_data` makes of a socket's reads, one after each read, with
`NULL` left out. -/
def outputs (extract : Side → List (List UInt8) → Option (List UInt8)) (s : Side)
    (l : List (List UInt8)) : List (List UInt8) :=
  l.inits.tail.filterMap (extract s)

theorem outputs_append_singleton (extract : Side → List (List UInt8) → Option (List UInt8))
    (s : Side) (l : List (List UInt8)) (d : List UInt8) :
    outputs extract s (l ++ [d]) = outputs extract s l ++ (extract s (l ++ [d])).toList := by
  have hinits : (l ++ [d]).inits.tail = l.inits.tail ++ [l ++ [d]] := by
    rw [List.inits_append]
    cases l <;> simp
  rw [outputs, outputs, hinits, List.filterMap_append]
  cases h : extract s (l ++ [d]) <;> simp [h]

theorem readsOf_append (w : World) (s s' : Side) (d : List UInt8) :
    readsOf { w with reads := w.reads ++ [(s, d)] } s' =
      if s' = s then readsOf w s ++ [d] else readsOf w s' := by
  unfold readsOf
  by_cases h : s' = s
  · subst h
    simp
  · simp [h, Ne.symm h]

/-! ## `tunnel_traditional_streaming` -/

/-- What `tunnel_extract_data` returns for a socket, given the data of every read on it
so far (the last being `c->buf`): a buffer, or `NULL` (`none`). -/
abbrev Extract := Side → List (List UInt8) → Option (List UInt8)

variable (extract : Extract)

/-- `tunnel_traditional_streaming(tunnel, socket)`. (Its first `ASSERT`, that the socket
is one of the tunnel's two, holds of every `Side`.) -/
def tunnelTraditionalStreaming (w : World) (current : Side) : World :=
  let target := current.other
  let c := w.sock current
  let w := w.assert ((c.wrstate == .done && c.rdstate != .done) ||
    (c.wrstate != .done && c.rdstate == .done))
  let w := w.assert ((w.sock target).wrstate != .done && (w.sock target).rdstate != .done)
  if (w.sock current).wrstate = .done then
    let w := w.setWr current .stop
    -- only the outgoing socket's read has an idle timeout
    if (w.sock target).rdstate = .stop then socketRead w target (target == .outgoing) else w
  else if (w.sock current).rdstate = .done then
    let w := w.setRd current .stop
    let w := w.assert ((w.sock target).wrstate = .stop)
    match extract current (readsOf w current) with
    | some buf => socketWrite w target buf
    | none => tunnelShutdown w
  else w.assert false

/-- `do_next` in the streaming stage: every callback goes to `tunnel_traditional_streaming`. -/
def streamingHooks : Hooks :=
  ⟨tunnelTraditionalStreaming extract, tunnelTraditionalStreaming extract,
    tunnelTraditionalStreaming extract, tunnelTraditionalStreaming extract⟩

@[simp] theorem World.sock_assert (w : World) (c : Bool) (s : Side) : (w.assert c).sock s = w.sock s := by
  rw [World.assert_eq]
  cases s <;> rfl

/-- A read done on `S` while `T` is not writing: what it read goes to `T`, or, when
`tunnel_extract_data` gives `NULL`, the tunnel shuts down. -/
theorem tunnelTraditionalStreaming_of_read {w : World} {S : Side}
    (hrd : (w.sock S).rdstate = .done) (hwr : (w.sock S).wrstate ≠ .done)
    (htw : (w.sock S.other).wrstate = .stop) (htr : (w.sock S.other).rdstate ≠ .done) :
    tunnelTraditionalStreaming extract w S =
      match extract S (readsOf w S) with
      | some buf => socketWrite (w.setRd S .stop) S.other buf
      | none => tunnelShutdown (w.setRd S .stop) := by
  -- every assertion on the way holds
  have h1 : ((w.sock S).wrstate == .done && (w.sock S).rdstate != .done ||
      (w.sock S).wrstate != .done && (w.sock S).rdstate == .done) = true := by
    simp [hrd, hwr]
  have h2 : ((w.sock S.other).wrstate != .done && (w.sock S.other).rdstate != .done) = true := by
    simp [htw, htr]
  have h3 : decide (((w.setRd S .stop).sock S.other).wrstate = .stop) = true := by
    rw [World.setRd, World.sock_setSock_of_ne _ _ (Side.other_ne S)]
    simp [htw]
  simp only [tunnelTraditionalStreaming]
  rw [h1, World.assert_true, h2, World.assert_true, if_neg hwr, if_pos hrd, h3, World.assert_true]
  rfl

/-- A write done on `T` while `S` is stopped: `S` is read again. -/
theorem tunnelTraditionalStreaming_of_write {w : World} {T : Side}
    (hwr : (w.sock T).wrstate = .done) (hrd : (w.sock T).rdstate ≠ .done)
    (hsr : (w.sock T.other).rdstate = .stop) (hsw : (w.sock T.other).wrstate ≠ .done) :
    tunnelTraditionalStreaming extract w T = socketRead (w.setWr T .stop) T.other (T.other == .outgoing) := by
  have h1 : ((w.sock T).wrstate == .done && (w.sock T).rdstate != .done ||
      (w.sock T).wrstate != .done && (w.sock T).rdstate == .done) = true := by
    simp [hrd, hwr]
  have h2 : ((w.sock T.other).wrstate != .done && (w.sock T.other).rdstate != .done) = true := by
    simp [hsr, hsw]
  have h3 : ((w.setWr T .stop).sock T.other).rdstate = .stop := by
    rw [World.setWr, World.sock_setSock_of_ne _ _ (Side.other_ne T)]
    exact hsr
  simp only [tunnelTraditionalStreaming]
  rw [h1, World.assert_true, h2, World.assert_true, if_pos hwr, if_pos h3]

/-! ## What streaming logs and asserts -/

/-- The flags and logs streaming reads of a tunnel. -/
structure Flow where
  assertFailed : Bool
  terminated : Bool
  freed : Bool
  reads : List (Side × List UInt8)
  writes : List (Side × List UInt8)

def World.flow (w : World) : Flow := ⟨w.assertFailed, w.terminated, w.freed, w.reads, w.writes⟩

section Flows

variable (w : World) (s : Side)

@[simp] theorem flow_setRd (st : SocketState) : (w.setRd s st).flow = w.flow := rfl

@[simp] theorem flow_setWr (st : SocketState) : (w.setWr s st).flow = w.flow := rfl

@[simp] theorem flow_socketTimerStop : (socketTimerStop w s).flow = w.flow := rfl

@[simp] theorem flow_uvReadStop : (uvReadStop w s).flow = w.flow := rfl

@[simp] theorem flow_deliver (r : Req) : (w.deliver r).flow = w.flow := rfl

theorem flow_socketRead {s : Side} (h : (w.sock s).rdstate = .stop) (checkTimeout : Bool) :
    (socketRead w s checkTimeout).flow = w.flow := by
  cases checkTimeout <;> simp [socketRead, h, World.flow, socketTimerStart, World.setRd, World.setSock,
    uvReadStart, World.addReq, World.dropReq]

theorem flow_socketWrite {s : Side} (h : (w.sock s).wrstate = .stop) (data : List UInt8) :
    (socketWrite w s data).flow = { w.flow with writes := w.writes ++ [(s, data)] } := by
  simp [socketWrite, h, World.flow, socketTimerStart, World.setWr, World.setSock, World.addReq,
    World.dropReq]

/-- `socket_close` on a socket not yet closed asserts nothing false. -/
theorem assertFailed_socketClose {s : Side} (hrd : (w.sock s).rdstate ≠ .dead)
    (hwr : (w.sock s).wrstate ≠ .dead) : (socketClose w s).assertFailed = w.assertFailed := by
  have h1 : ((w.sock s).rdstate != .dead) = true := by simpa using hrd
  have h2 : ((w.sock s).wrstate != .dead) = true := by simpa using hwr
  simp only [socketClose, h1, World.assert_true, h2]
  rfl

/-- `tunnel_shutdown` of a live tunnel whose sockets are open: only `terminated` changes of
what streaming logs and asserts. -/
theorem flow_tunnelShutdown (ht : w.terminated = false)
    (hopen : ∀ s, (w.sock s).rdstate ≠ .dead ∧ (w.sock s).wrstate ≠ .dead) :
    (tunnelShutdown w).flow = { w.flow with terminated := true } := by
  have hin := hopen .incoming
  have hout := hopen .outgoing
  have h1 : (socketClose { w with terminated := true } .incoming).assertFailed = w.assertFailed :=
    assertFailed_socketClose _ hin.1 hin.2
  have hsock : (socketClose { w with terminated := true } .incoming).sock .outgoing = w.sock .outgoing := by
    simp [socketClose, uvClose, World.assert_eq, World.addReq, World.dropReq, World.setSock, World.sock]
  have h2 := assertFailed_socketClose (socketClose { w with terminated := true } .incoming)
    (s := .outgoing) (hsock ▸ hout.1) (hsock ▸ hout.2)
  rw [tunnelShutdown_of_live ht]
  simp only [World.flow, h2, h1, socketClose_terminated, socketClose_freed]
  simp [socketClose, uvClose, World.assert_eq, World.addReq, World.dropReq, World.setSock]

/-- `tunnel_shutdown` asks for no write. -/
theorem writesOwed_tunnelShutdown (s' : Side) :
    ((tunnelShutdown w).port s').writesOwed = (w.port s').writesOwed := by
  unfold tunnelShutdown
  split
  · rfl
  · simp only [World.port, socketClose_pending]
    cases s' <;> simp [List.count_append, List.count_filter]

end Flows

/-! ## The streaming phase -/

/-- `do_launch_streaming`, client and server alike: the incoming socket is read without an
idle timeout, the outgoing one with it. -/
def launchStreaming (w : World) : World := socketRead (socketRead w .incoming false) .outgoing true

/-- A tunnel `do_launch_streaming` starts: live, no assertion failed, both sockets stopped
(its own `ASSERT`s), libuv owing it nothing but timers, and nothing logged yet. -/
structure Launchable (w : World) : Prop where
  terminated : w.terminated = false
  freed : w.freed = false
  assertOk : w.assertFailed = false
  incoming : w.incoming = ⟨.stop, .stop⟩
  outgoing : w.outgoing = ⟨.stop, .stop⟩
  timers : ∀ r ∈ w.pending, ∃ s, r = .timer s
  reads : w.reads = []
  writes : w.writes = []

/-- The states `do_launch_streaming` leaves. -/
def Launched (w : World) : Prop := ∃ w₀, Launchable w₀ ∧ w = launchStreaming w₀

/-- The streaming phase: libuv's callbacks in any order it allows, and `tunnel_shutdown`
from outside (`server_shutdown`). -/
def streaming : Machine World Event where
  enabled w e := uvReady w e = true ∨ (e = .shutdown ∧ w.freed = false)
  step := step (streamingHooks extract)

/-- The requests of the streaming phase: reads, writes and timers. -/
def Req.isStreamIo : Req → Bool
  | .read _ | .write _ | .timer _ => true
  | _ => false

/-- The direction from `S` to the other socket: reading `S` with nothing owed to the
other, or writing the other with `S` not read. -/
def DirOk (w : World) (S : Side) : Prop :=
  ((w.port S).rd = .busy ∧ (w.port S.other).wr = .stop ∧ (w.port S.other).writesOwed = 0 ∧
      (w.port S).readsOwed ≤ 1) ∨
    ((w.port S).rd = .stop ∧ (w.port S.other).wr = .busy ∧ (w.port S.other).writesOwed = 1 ∧
      (w.port S).readsOwed = 0)

/-- What holds between any two events of the streaming phase. -/
structure StreamInv (w : World) : Prop where
  assertOk : w.assertFailed = false
  writesOne : ∀ s, (w.port s).writesOwed ≤ 1
  data : ∀ S, writesTo w S.other = outputs extract S (readsOf w S)
  live_freed : w.terminated = false → w.freed = false
  live_io : w.terminated = false → ∀ r ∈ w.pending, r.isStreamIo = true
  live_dirs : w.terminated = false → ∀ S, DirOk w S

theorem DirOk.rd_ne {w : World} {S : Side} (h : DirOk w S) :
    (w.port S).rd ≠ .done ∧ (w.port S).rd ≠ .dead := by
  rcases h with ⟨h, -⟩ | ⟨h, -⟩ <;> rw [h] <;> decide

theorem DirOk.wr_ne {w : World} {S : Side} (h : DirOk w S) :
    (w.port S.other).wr ≠ .done ∧ (w.port S.other).wr ≠ .dead := by
  rcases h with ⟨-, h, -⟩ | ⟨-, h, -⟩ <;> rw [h] <;> decide

/-- With both directions in order no socket state is `done` or `dead`. -/
theorem open_of_dirs {w : World} (h : ∀ S, DirOk w S) (s : Side) :
    (w.port s).rd ≠ .done ∧ (w.port s).rd ≠ .dead ∧ (w.port s).wr ≠ .done ∧ (w.port s).wr ≠ .dead := by
  have hwr := (h s.other).wr_ne
  rw [Side.other_other] at hwr
  exact ⟨(h s).rd_ne.1, (h s).rd_ne.2, hwr.1, hwr.2⟩

theorem data_of_flow {w x : World} (hfl : x.flow = w.flow) (s : Side) :
    readsOf x s = readsOf w s ∧ writesTo x s = writesTo w s := by
  have hr : x.reads = w.reads := congrArg Flow.reads hfl
  have hw : x.writes = w.writes := congrArg Flow.writes hfl
  exact ⟨by rw [readsOf, readsOf, hr], by rw [writesTo, writesTo, hw]⟩

/-- `tunnel_shutdown` from a live state whose sockets are open and whose data is in order. -/
theorem streamInv_tunnelShutdown {x : World} (ht : x.terminated = false) (ha : x.assertFailed = false)
    (hopen : ∀ s, (x.port s).rd ≠ .dead ∧ (x.port s).wr ≠ .dead)
    (hw1 : ∀ s, (x.port s).writesOwed ≤ 1)
    (hd : ∀ S, writesTo x S.other = outputs extract S (readsOf x S)) :
    StreamInv extract (tunnelShutdown x) := by
  have hfl := flow_tunnelShutdown x ht hopen
  have hte : (tunnelShutdown x).terminated = true := congrArg Flow.terminated hfl
  have hdata := data_of_flow (w := { x with terminated := true }) hfl
  refine ⟨(congrArg Flow.assertFailed hfl).trans ha, fun s => ?_, fun S => ?_, fun h => ?_, fun h => ?_,
    fun h => ?_⟩
  · rw [writesOwed_tunnelShutdown]
    exact hw1 s
  · rw [(hdata S.other).2, (hdata S).1]
    exact hd S
  all_goals rw [hte] at h; cases h

/-- A terminated tunnel's step changes no assertion, no log and owes no more writes. -/
theorem streamInv_of_terminated {w w' : World} (hi : StreamInv extract w) (ht' : w'.terminated = true)
    (hfl : w'.flow = { w.flow with terminated := true, freed := w'.freed })
    (hw : ∀ s, (w'.port s).writesOwed ≤ (w.port s).writesOwed) : StreamInv extract w' := by
  have ha : w'.assertFailed = w.assertFailed := congrArg Flow.assertFailed hfl
  have hr : w'.reads = w.reads := congrArg Flow.reads hfl
  have hwr : w'.writes = w.writes := congrArg Flow.writes hfl
  refine ⟨ha.trans hi.assertOk, fun s => (hw s).trans (hi.writesOne s), fun S => ?_, fun h => ?_,
    fun h => ?_, fun h => ?_⟩
  · rw [writesTo, readsOf, hr, hwr]
    exact hi.data S
  all_goals rw [ht'] at h; cases h

/-! ## The callbacks of a live tunnel -/

section Live

variable {extract} {w : World} (hi : StreamInv extract w) (ht : w.terminated = false)
include hi ht

theorem StreamInv.freed_false : w.freed = false := hi.live_freed ht

/-- A read owed on `S` means the direction from `S` is reading. -/
theorem StreamInv.reading {S : Side} (hm : Req.read S ∈ w.pending) :
    (w.port S).rd = .busy ∧ (w.port S.other).wr = .stop ∧ (w.port S.other).writesOwed = 0 := by
  have hpos : 0 < (w.port S).readsOwed := List.count_pos_iff.mpr hm
  rcases hi.live_dirs ht S with ⟨h1, h2, h3, -⟩ | ⟨-, -, -, h4⟩
  · exact ⟨h1, h2, h3⟩
  · omega

/-- A write owed on `T` means the direction into `T` is writing. -/
theorem StreamInv.writing {T : Side} (hm : Req.write T ∈ w.pending) :
    (w.port T.other).rd = .stop ∧ (w.port T).wr = .busy ∧ (w.port T).writesOwed = 1 ∧
      (w.port T.other).readsOwed = 0 := by
  have hpos : 0 < (w.port T).writesOwed := List.count_pos_iff.mpr hm
  rcases hi.live_dirs ht T.other with ⟨-, -, h3, -⟩ | ⟨h1, h2, h3, h4⟩
  · rw [Side.other_other] at h3
    omega
  · rw [Side.other_other] at h2 h3
    exact ⟨h1, h2, h3, h4⟩

end Live

/-- The direction from `S` reads only `S`'s read state and reads owed, and the other
socket's write state and writes owed. -/
theorem DirOk.congr {w w' : World} {S : Side} (h : DirOk w S)
    (hrd : (w'.port S).rd = (w.port S).rd) (hro : (w'.port S).readsOwed = (w.port S).readsOwed)
    (hwr : (w'.port S.other).wr = (w.port S.other).wr)
    (hwo : (w'.port S.other).writesOwed = (w.port S.other).writesOwed) : DirOk w' S := by
  unfold DirOk
  rw [hrd, hro, hwr, hwo]
  exact h

theorem mem_socketWrite_pending {w : World} {s : Side} {data : List UInt8} {r : Req}
    (hr : r ∈ (socketWrite w s data).pending) : r ∈ w.pending ∨ r = .write s ∨ r = .timer s := by
  simp only [socketWrite, socketTimerStart, World.addReq, World.dropReq, World.assert_eq,
    World.setWr, World.setSock, List.mem_append, List.mem_filter, List.mem_singleton] at hr
  rcases hr with ⟨hr | hr, -⟩ | hr
  · exact Or.inl hr
  · exact Or.inr (Or.inl hr)
  · exact Or.inr (Or.inr hr)

theorem mem_socketRead_pending {w : World} {s : Side} {ct : Bool} {r : Req}
    (hr : r ∈ (socketRead w s ct).pending) : r ∈ w.pending ∨ r = .read s ∨ r = .timer s := by
  cases ct <;>
    simp only [socketRead, socketTimerStart, uvReadStart, World.addReq, World.dropReq,
      World.assert_eq, World.setRd, World.setSock, List.mem_append, List.mem_filter,
      List.mem_singleton, Bool.false_eq_true, if_false, if_true] at hr
  · rcases hr with hr | hr
    · exact Or.inl hr
    · exact Or.inr (Or.inl hr)
  · rcases hr with ⟨hr | hr, -⟩ | hr
    · exact Or.inl hr
    · exact Or.inr (Or.inl hr)
    · exact Or.inr (Or.inr hr)

/-- The data logs after a read of `data` on `S`: one more read on `S`, and what
`tunnel_extract_data` made of it, if anything, written to the other socket. -/
theorem data_snoc {y z : World} (hd : ∀ S, writesTo y S.other = outputs extract S (readsOf y S))
    {S : Side} {data : List UInt8} (hr : z.reads = y.reads ++ [(S, data)])
    (hw : z.writes = y.writes ++ (extract S (readsOf y S ++ [data])).toList.map (S.other, ·)) :
    ∀ S', writesTo z S'.other = outputs extract S' (readsOf z S') := by
  have hreads : ∀ S', readsOf z S' = if S' = S then readsOf y S ++ [data] else readsOf y S' := by
    intro S'
    rw [← readsOf_append]
    simp only [readsOf, hr]
  have hwrites : ∀ T, writesTo z T =
      if T = S.other then writesTo y T ++ (extract S (readsOf y S ++ [data])).toList
      else writesTo y T := by
    intro T
    by_cases hT : T = S.other
    · subst hT
      cases hex : extract S (readsOf y S ++ [data]) <;> simp [writesTo, hw, hex]
    · cases hex : extract S (readsOf y S ++ [data]) <;> simp [writesTo, hw, hex, hT, Ne.symm hT]
  intro S'
  by_cases hS : S' = S
  · subst hS
    rw [hwrites, if_pos rfl, hreads, if_pos rfl, hd, outputs_append_singleton]
  · have hT : S'.other ≠ S.other := fun h => hS (by simpa using congrArg Side.other h)
    rw [hwrites, if_neg hT, hreads, if_neg hS]
    exact hd S'

/-- A reading direction has nothing owed to the other socket. -/
theorem DirOk.of_busy {w : World} {S : Side} (h : DirOk w S) (hb : (w.port S).rd = .busy) :
    (w.port S.other).wr = .stop ∧ (w.port S.other).writesOwed = 0 := by
  rcases h with ⟨-, h1, h2, -⟩ | ⟨h, -⟩
  · exact ⟨h1, h2⟩
  · rw [hb] at h
    cases h

section LiveSteps

variable {extract} {w : World} (hi : StreamInv extract w) (ht : w.terminated = false)
include hi ht

/-- `tunnel_shutdown` of a live tunnel in order keeps the invariant. -/
theorem StreamInv.shutdown : StreamInv extract (tunnelShutdown w) := by
  have hopen := open_of_dirs (hi.live_dirs ht)
  exact streamInv_tunnelShutdown extract ht hi.assertOk (fun s => ⟨(hopen s).2.1, (hopen s).2.2.2⟩)
    hi.writesOne hi.data

/-- A read stopped and its timer stopped keep the invariant: the state a read of 0 bytes
leaves. -/
theorem StreamInv.readStopped {S : Side} (hm : Req.read S ∈ w.pending) :
    StreamInv extract (socketTimerStop (uvReadStop w S) S) := by
  obtain ⟨hrd, htw, htn⟩ := hi.reading ht hm
  have hfl : (socketTimerStop (uvReadStop w S) S).flow = w.flow := rfl
  have hdata := data_of_flow hfl
  refine ⟨hi.assertOk, fun s => ?_, fun S' => ?_, fun _ => hi.live_freed ht, fun _ r hr => ?_,
    fun _ S' => ?_⟩
  · simp only [port_socketTimerStop, port_uvReadStop]
    split <;> exact hi.writesOne _
  · rw [(hdata S'.other).2, (hdata S').1]
    exact hi.data S'
  · exact hi.live_io ht r (List.mem_of_mem_filter (List.mem_of_mem_filter hr))
  · by_cases hS : S' = S
    · -- the stopped direction: `S` still busy, nothing owed either way
      subst hS
      left
      simp [hrd, htw, htn]
    · -- the other direction: `S'` is the other socket, so `S'.other = S`
      refine (hi.live_dirs ht S').congr ?_ ?_ ?_ ?_ <;> simp [hS, Side.other_eq_of_ne hS]

/-- Data read on a busy socket `S` that libuv owes no more reads: the data is logged, `S`
goes `done`, and `tunnel_traditional_streaming` hands it on. -/
theorem StreamInv.readData {S : Side} (hrd : (w.port S).rd = .busy) (hro : (w.port S).readsOwed = 0)
    (data : List UInt8) :
    StreamInv extract (tunnelTraditionalStreaming extract
      (({ w with reads := w.reads ++ [(S, data)] }).setRd S .done) S) := by
  have hdirs := hi.live_dirs ht
  obtain ⟨htw, htn⟩ := (hdirs S).of_busy hrd
  have hopen := open_of_dirs hdirs
  -- `x` is the state the callback hands over, `u` the state after `c->rdstate = socket_stop`
  set x := ({ w with reads := w.reads ++ [(S, data)] }).setRd S .done with hx
  set u := x.setRd S .stop with hu
  have hport : ∀ s, u.port s = if s = S then { w.port S with rd := .stop } else w.port s := by
    intro s
    by_cases hs : s = S <;> simp [u, x, hs]
  have hreads : readsOf x S = readsOf w S ++ [data] := by
    have h := readsOf_append w S S data
    rw [if_pos rfl] at h
    exact h
  have hx1 : (x.port S).rd = .done := by simp [x]
  have hx2 : (x.port S).wr ≠ .done := by simpa [x] using (hopen S).2.2.1
  have hx3 : (x.port S.other).wr = .stop := by simpa [x] using htw
  have hx4 : (x.port S.other).rd ≠ .done := by simpa [x] using (hopen S.other).1
  rw [tunnelTraditionalStreaming_of_read extract hx1 hx2 hx3 hx4, hreads]
  cases hex : extract S (readsOf w S ++ [data]) with
  | none =>
    -- `tunnel_extract_data` gave `NULL`: the tunnel shuts down
    refine streamInv_tunnelShutdown extract ht hi.assertOk (fun s => ?_) (fun s => ?_) ?_
    · rw [hport]
      split
      · simp [(hopen S).2.2.2]
      · exact ⟨(hopen s).2.1, (hopen s).2.2.2⟩
    · rw [hport]
      split <;> exact hi.writesOne _
    · refine data_snoc extract hi.data (z := u) rfl ?_
      rw [hex, Option.toList_none, List.map_nil, List.append_nil]
      rfl
  | some buf =>
    -- the buffer is written to the other socket
    show StreamInv extract (socketWrite u S.other buf)
    have hu3 : (u.port S.other).wr = .stop := by simpa [hport] using htw
    have hfl := flow_socketWrite u hu3 buf
    have hwr : (socketWrite u S.other buf).reads = w.reads ++ [(S, data)] := congrArg Flow.reads hfl
    have hww : (socketWrite u S.other buf).writes = w.writes ++ [(S.other, buf)] :=
      congrArg Flow.writes hfl
    refine ⟨?_, fun s => ?_, data_snoc extract hi.data hwr (by rw [hww, hex]; rfl), fun _ => ?_,
      fun _ r hr => ?_, fun _ S' => ?_⟩
    · exact (congrArg Flow.assertFailed hfl).trans hi.assertOk
    · rw [port_socketWrite]
      by_cases hs : s = S.other
      · subst hs
        simp [hport, htn]
      · rw [if_neg hs, hport]
        split <;> exact hi.writesOne _
    · exact (congrArg Flow.freed hfl).trans (hi.live_freed ht)
    · rcases mem_socketWrite_pending hr with hr | rfl | rfl
      · exact hi.live_io ht r hr
      · rfl
      · rfl
    · by_cases hS : S' = S
      · -- `S` is now writing the other socket
        subst hS
        right
        simp [hport, htn, hro]
      · -- the direction back into `S` is untouched
        obtain rfl := Side.eq_other_of_ne hS
        refine (hdirs S.other).congr ?_ ?_ ?_ ?_ <;> simp [hport]

/-- A read done on `S`: 0 bytes stop the direction, an error shuts the tunnel down, data
goes through `tunnel_traditional_streaming`. -/
theorem StreamInv.readDone {S : Side} (hm : Req.read S ∈ w.pending) (nread : Int)
    (data : List UInt8) : StreamInv extract (socketReadDoneCb (streamingHooks extract) w S nread data) := by
  obtain ⟨hrd, -, -⟩ := hi.reading ht hm
  have hy := hi.readStopped ht hm
  have hyt : (socketTimerStop (uvReadStop w S) S).terminated = false := ht
  have hyrd : ((socketTimerStop (uvReadStop w S) S).port S).rd = .busy := by simpa using hrd
  have hyro : ((socketTimerStop (uvReadStop w S) S).port S).readsOwed = 0 := by simp
  have hf : w.freed = false := hi.freed_false ht
  simp only [socketReadDoneCb, hf, ht, Bool.false_eq_true, if_false]
  split
  · exact hy
  · split
    · exact hy.shutdown hyt
    · -- the read's data is logged with the socket still busy: the `ASSERT` holds
      have hb : (({ socketTimerStop (uvReadStop w S) S with
          reads := (socketTimerStop (uvReadStop w S) S).reads ++ [(S, data)] }).sock S).rdstate =
            .busy := hyrd
      rw [decide_eq_true hb, World.assert_true]
      exact hy.readData hyt hyrd hyro data

/-- A write done on `T`: an error shuts the tunnel down, otherwise `T`'s source is read
again. -/
theorem StreamInv.writeDone {T : Side} (hm : Req.write T ∈ w.pending) (status : Int) :
    StreamInv extract (socketWriteDoneCb (streamingHooks extract) w T status) := by
  obtain ⟨hsr, hwr, hwo, hso⟩ := hi.writing ht hm
  have hdirs := hi.live_dirs ht
  have hopen := open_of_dirs hdirs
  -- `y`: the write delivered and `T`'s timer stopped
  set y := socketTimerStop (w.deliver (.write T)) T with hy
  have hport : ∀ s, y.port s = if s = T then { w.port T with writesOwed := 0 } else w.port s := by
    intro s
    by_cases hs : s = T
    · subst hs
      simp [y, hwo]
    · simp [y, hs]
  have hfl : y.flow = w.flow := rfl
  have hsub : ∀ r ∈ y.pending, r ∈ w.pending := fun r hr =>
    List.mem_of_mem_erase (List.mem_of_mem_filter hr)
  have hf : (w.deliver (.write T)).freed = false := hi.freed_false ht
  have ht' : (w.deliver (.write T)).terminated = false := ht
  simp only [socketWriteDoneCb, hf, ht', Bool.false_eq_true, if_false]
  split
  · -- an error: `tunnel_shutdown`
    refine streamInv_tunnelShutdown extract ht hi.assertOk (fun s => ?_) (fun s => ?_) (fun S => ?_)
    · rw [hport]
      split
      · exact ⟨(hopen T).2.1, (hopen T).2.2.2⟩
      · exact ⟨(hopen s).2.1, (hopen s).2.2.2⟩
    · rw [hport]
      split
      · simp
      · exact hi.writesOne s
    · rw [(data_of_flow hfl S.other).2, (data_of_flow hfl S).1]
      exact hi.data S
  · have hyw : ((y.port T).wr) = .busy := by simpa [hport] using hwr
    have hb : ((socketTimerStop (w.deliver (.write T)) T).sock T).wrstate = .busy := hyw
    rw [decide_eq_true hb, World.assert_true]
    -- `x` is the state handed over, `u` the state after `c->wrstate = socket_stop`
    set x := y.setWr T .done with hx
    have hx1 : (x.port T).wr = .done := by simp [x]
    have hx2 : (x.port T).rd ≠ .done := by simpa [x, hport] using (hopen T).1
    have hx3 : (x.port T.other).rd = .stop := by simpa [x, hport] using hsr
    have hx4 : (x.port T.other).wr ≠ .done := by simpa [x, hport] using (hopen T.other).2.2.1
    show StreamInv extract (tunnelTraditionalStreaming extract x T)
    rw [tunnelTraditionalStreaming_of_write extract hx1 hx2 hx3 hx4]
    set u := x.setWr T .stop with hu
    have hu3 : (u.port T.other).rd = .stop := by simpa [u] using hx3
    have hfl' := flow_socketRead u hu3 (T.other == .outgoing)
    have hportu : ∀ s, u.port s = if s = T then { w.port T with wr := .stop, writesOwed := 0 }
        else w.port s := by
      intro s
      by_cases hs : s = T
      · subst hs
        simp [u, x, hport]
      · simp [u, x, hport, hs]
    refine ⟨(congrArg Flow.assertFailed hfl').trans hi.assertOk, fun s => ?_, fun S => ?_,
      fun _ => (congrArg Flow.freed hfl').trans (hi.live_freed ht), fun _ r hr => ?_, fun _ S' => ?_⟩
    · rw [port_socketRead]
      by_cases hs : s = T.other
      · subst hs
        simp only [if_true, hportu, Side.other_ne, if_false]
        exact hi.writesOne _
      · rw [if_neg hs, hportu]
        split
        · simp
        · exact hi.writesOne s
    · have hd := data_of_flow (hfl'.trans hfl)
      rw [(hd S.other).2, (hd S).1]
      exact hi.data S
    · rcases mem_socketRead_pending hr with hr | rfl | rfl
      · exact hi.live_io ht r (hsub r hr)
      · rfl
      · rfl
    · by_cases hS : S' = T.other
      · -- `T`'s source is reading again, nothing owed to `T`
        subst hS
        left
        simp [hportu, hso]
      · -- the direction out of `T` is untouched
        obtain rfl := Side.eq_other_of_ne hS
        rw [Side.other_other]
        refine (hdirs T).congr ?_ ?_ ?_ ?_ <;> simp [hportu]

/-- A timer delivered keeps the invariant; `socket_timer_expire_cb` then shuts the tunnel
down. -/
theorem StreamInv.deliverTimer (s : Side) : StreamInv extract (w.deliver (.timer s)) := by
  have hfl : (w.deliver (.timer s)).flow = w.flow := rfl
  have hd := data_of_flow hfl
  refine ⟨hi.assertOk, fun s' => ?_, fun S => ?_, fun _ => hi.live_freed ht,
    fun _ r hr => hi.live_io ht r (List.mem_of_mem_erase hr), fun _ S => ?_⟩
  · rw [port_deliver_timer]
    exact hi.writesOne s'
  · rw [(hd S.other).2, (hd S).1]
    exact hi.data S
  · refine (hi.live_dirs ht S).congr ?_ ?_ ?_ ?_ <;> simp

/-- Every event the streaming phase allows from a live tunnel keeps the invariant. Connect,
lookup and close callbacks are not owed while it lives. -/
theorem StreamInv.step_live {e : Event} (he : (streaming extract).enabled w e) :
    StreamInv extract ((streaming extract).step w e) := by
  rcases he with hu | ⟨rfl, -⟩
  · obtain ⟨r, hreq, hm⟩ := mem_of_uvReady hu
    have hio := hi.live_io ht r hm
    cases e with
    | readDone S n d => exact hi.readDone ht ((uvReady_readDone w S n d).mp hu) n d
    | writeDone T st => exact hi.writeDone ht ((uvReady_writeDone w T st).mp hu) st
    | timerExpire s =>
      have hf : (w.deliver (.timer s)).freed = false := hi.freed_false ht
      have ht' : (w.deliver (.timer s)).terminated = false := ht
      show StreamInv extract (socketTimerExpireCb w s)
      simp only [socketTimerExpireCb, hf, ht', Bool.false_eq_true, if_false]
      exact (hi.deliverTimer ht s).shutdown ht'
    | connectDone s st =>
      cases hreq
      cases hio
    | getaddrinfoDone s st =>
      cases hreq
      cases hio
    | closeDone h =>
      cases hreq
      cases hio
    | read | write | connect | getaddrinfo | shutdown => cases hu
  · exact hi.shutdown ht

end LiveSteps

/-! ## The callbacks of a tunnel shut down -/

section Terminated

variable {extract} {w : World} (hi : StreamInv extract w)
include hi

theorem StreamInv.touchFreed : StreamInv extract w.touchFreed :=
  ⟨hi.assertOk, hi.writesOne, hi.data, hi.live_freed, hi.live_io, hi.live_dirs⟩

theorem StreamInv.getaddrinfoPending (b : Bool) :
    StreamInv extract { w with getaddrinfoPending := b } :=
  ⟨hi.assertOk, hi.writesOne, hi.data, hi.live_freed, hi.live_io, hi.live_dirs⟩

variable (ht : w.terminated = true)
include ht

/-- A request taken off a tunnel shut down: no write is owed more than before. -/
theorem StreamInv.deliver_of_terminated (r : Req) : StreamInv extract (w.deliver r) := by
  refine streamInv_of_terminated extract hi ht ?_ fun s => ?_
  · simp [World.flow, World.deliver, ht]
  · exact (List.erase_sublist).count_le _

theorem StreamInv.release_of_terminated : StreamInv extract (tunnelRelease w) := by
  have hport : ∀ s, (tunnelRelease w).port s = w.port s := by
    intro s
    simp only [tunnelRelease]
    split <;> rfl
  have ht' : (tunnelRelease w).terminated = true := by
    simp only [tunnelRelease]
    split <;> exact ht
  refine streamInv_of_terminated extract hi ht' ?_ fun s => (congrArg Port.writesOwed (hport s)).le
  simp only [tunnelRelease]
  split <;> simp [World.flow, ht]

/-- Every event the streaming phase allows from a tunnel shut down keeps the invariant:
each callback takes its request off and, on a freed tunnel, touches it. -/
theorem StreamInv.step_terminated {e : Event} (he : (streaming extract).enabled w e) :
    StreamInv extract ((streaming extract).step w e) := by
  have hdel := hi.deliver_of_terminated ht
  cases hf : w.freed
  · cases e with
    | readDone S n d =>
      show StreamInv extract (socketReadDoneCb _ w S n d)
      simp only [socketReadDoneCb, hf, ht, Bool.false_eq_true, if_false, if_true]
      exact hi
    | writeDone T st =>
      show StreamInv extract (socketWriteDoneCb _ w T st)
      rw [socketWriteDoneCb_terminated ht hf]
      exact hdel _
    | connectDone s st =>
      show StreamInv extract (socketConnectDoneCb _ w s st)
      rw [socketConnectDoneCb_terminated ht hf]
      exact hdel _
    | getaddrinfoDone s st =>
      show StreamInv extract (socketGetaddrinfoDoneCb _ w s st)
      rw [socketGetaddrinfoDoneCb_terminated ht hf]
      exact (hdel _).getaddrinfoPending false
    | timerExpire s =>
      have hf' : (w.deliver (.timer s)).freed = false := hf
      have ht' : (w.deliver (.timer s)).terminated = true := ht
      show StreamInv extract (socketTimerExpireCb w s)
      simp only [socketTimerExpireCb, hf', ht', Bool.false_eq_true, if_false, if_true]
      exact hdel _
    | closeDone h =>
      show StreamInv extract (socketCloseDoneCb w h)
      rw [socketCloseDoneCb_of_not_freed hf]
      exact (hdel _).release_of_terminated ht
    | shutdown =>
      show StreamInv extract (tunnelShutdown w)
      simp only [tunnelShutdown, ht, if_true]
      exact hi
    | read | write | connect | getaddrinfo =>
      rcases he with hu | ⟨h, -⟩
      · cases hu
      · cases h
  · -- a freed tunnel: every callback touches it, having taken its request off
    cases e with
    | readDone S n d =>
      show StreamInv extract (socketReadDoneCb _ w S n d)
      simp only [socketReadDoneCb, hf, if_true]
      exact hi.touchFreed
    | writeDone T st =>
      have hf' : (w.deliver (.write T)).freed = true := hf
      show StreamInv extract (socketWriteDoneCb _ w T st)
      simp only [socketWriteDoneCb, hf', if_true]
      exact (hdel _).touchFreed
    | connectDone s st =>
      have hf' : (w.deliver (.connect s)).freed = true := hf
      show StreamInv extract (socketConnectDoneCb _ w s st)
      simp only [socketConnectDoneCb, hf', if_true]
      exact (hdel _).touchFreed
    | getaddrinfoDone s st =>
      show StreamInv extract (socketGetaddrinfoDoneCb _ w s st)
      rw [socketGetaddrinfoDoneCb_freed hf]
      exact (hdel _).touchFreed
    | timerExpire s =>
      have hf' : (w.deliver (.timer s)).freed = true := hf
      show StreamInv extract (socketTimerExpireCb w s)
      simp only [socketTimerExpireCb, hf', if_true]
      exact (hdel _).touchFreed
    | closeDone h =>
      have hf' : (w.deliver (.close h)).freed = true := hf
      show StreamInv extract (socketCloseDoneCb w h)
      simp only [socketCloseDoneCb, hf', if_true]
      exact (hdel _).touchFreed
    | shutdown =>
      show StreamInv extract (tunnelShutdown w)
      simp only [tunnelShutdown, ht, if_true]
      exact hi
    | read | write | connect | getaddrinfo =>
      rcases he with hu | ⟨h, -⟩
      · cases hu
      · cases h

end Terminated

/-! ## Every run of the streaming phase -/

theorem streamInv_step {w : World} (hi : StreamInv extract w) {e : Event}
    (he : (streaming extract).enabled w e) : StreamInv extract ((streaming extract).step w e) := by
  cases ht : w.terminated
  · exact hi.step_live ht he
  · exact hi.step_terminated ht he

/-- `do_launch_streaming` starts both directions reading, nothing owed to either socket. -/
theorem streamInv_launched {w : World} (h : Launched w) : StreamInv extract w := by
  obtain ⟨w₀, h₀, rfl⟩ := h
  -- libuv owes the launched tunnel only timers: no read and no write
  have hnone : ∀ r, (∀ s, r ≠ .timer s) → w₀.pending.count r = 0 := fun r hr =>
    List.count_eq_zero.mpr fun hm => by
      obtain ⟨s, rfl⟩ := h₀.timers _ hm
      exact hr s rfl
  have hsock : ∀ s, w₀.sock s = ⟨.stop, .stop⟩ := by
    intro s
    cases s
    · exact h₀.incoming
    · exact h₀.outgoing
  have hport₀ : ∀ s, w₀.port s = ⟨.stop, .stop, 0, 0⟩ := by
    intro s
    simp only [World.port, hsock, hnone (.read s) (fun _ h => by cases h),
      hnone (.write s) (fun _ h => by cases h)]
  have hport : ∀ s, (launchStreaming w₀).port s = ⟨.busy, .stop, 1, 0⟩ := by
    intro s
    cases s <;> simp [launchStreaming, hport₀]
  have h1 : ((socketRead w₀ .incoming false).port .outgoing).rd = .stop := by simp [hport₀]
  have hfl : (launchStreaming w₀).flow = w₀.flow :=
    (flow_socketRead _ h1 true).trans
      (flow_socketRead _ (congrArg SocketCtx.rdstate (hsock .incoming)) false)
  have hd := data_of_flow hfl
  refine ⟨(congrArg Flow.assertFailed hfl).trans h₀.assertOk, fun s => by simp [hport],
    fun S => ?_, fun _ => (congrArg Flow.freed hfl).trans h₀.freed, fun _ r hr => ?_,
    fun _ S => Or.inl (by simp [hport])⟩
  · rw [(hd S.other).2, (hd S).1]
    simp [readsOf, writesTo, outputs, h₀.reads, h₀.writes]
  · rcases mem_socketRead_pending hr with hr | rfl | rfl
    · rcases mem_socketRead_pending hr with hr | rfl | rfl
      · obtain ⟨s, rfl⟩ := h₀.timers r hr
        rfl
      · rfl
      · rfl
    · rfl
    · rfl

/-- The invariant over every run of the streaming phase. -/
theorem streamInv_reach {w : World} (h : (streaming extract).Reach Launched w) :
    StreamInv extract w :=
  Machine.Reach.inv (StreamInv extract) (fun _ h => streamInv_launched extract h)
    (fun _ _ _ hi he => streamInv_step extract hi he) h

theorem streaming_alternates {w : World} (h : (streaming extract).Reach Launched w) :
    w.assertFailed = false ∧ (w.terminated = false → ∀ S, DirOk w S) ∧
      (∀ s, (w.port s).writesOwed ≤ 1) ∧
      ∀ S, writesTo w S.other = outputs extract S (readsOf w S) := by
  have hi := streamInv_reach extract h
  exact ⟨hi.assertOk, hi.live_dirs, hi.writesOne, hi.data⟩

/-- `tunnel_extract_data` passing each read on as it came. -/
def passOn : Extract := fun _ reads => reads.getLast?

/-- A fresh tunnel launched into streaming, after its client's first read of three bytes. -/
def firstRead : World :=
  (streaming passOn).step (launchStreaming World.fresh) (.readDone .incoming 3 [1, 2, 3])

theorem first_read_alternates :
    (streaming passOn).Reach Launched firstRead ∧ firstRead.assertFailed = false ∧
      (firstRead.terminated = false → ∀ S, DirOk firstRead S) ∧
      (∀ s, (firstRead.port s).writesOwed ≤ 1) ∧
      ∀ S, writesTo firstRead S.other = outputs passOn S (readsOf firstRead S) := by
  have hl : Launched (launchStreaming World.fresh) :=
    ⟨World.fresh, ⟨rfl, rfl, rfl, rfl, rfl, by simp [World.fresh], rfl, rfl⟩, rfl⟩
  have hr : (streaming passOn).Reach Launched firstRead := .step _ (.init hl) (.inl (by decide))
  exact ⟨hr, streaming_alternates passOn hr⟩

end ShadowsocksR.Tunnel
