/-
  ShadowsocksR.Client.S5 — the client's SOCKS5 handshake parser (`s5.c`).

  `s5_parse` is a byte-driven machine of seventeen states. It reads the bytes of one
  socket read, one at a time, updates the parser context `cx`, and stops at the first
  byte that completes a phase (`s5_auth_select`, `s5_auth_verify`, `s5_exec_cmd`) or is
  wrong (`s5_bad_version`, `s5_bad_cmd`, `s5_bad_atyp`); a read it consumes whole
  without stopping returns `s5_ok`, and the caller reads again. All progress that
  must survive to the next read has to live in `cx`, since the next read is a new call.

  One piece does not: the first byte of DST.PORT is stored in the local array
  `uint8_t port[2] = { 0 }` of the call that reads it (state `req_dport0`), and read
  back in state `req_dport1`, which forms `cx->dport = ntohs(*(uint16_t *)port)`. When
  the two port bytes arrive in different reads the second call sees `port[0] = 0`.

  Proved here:
  - `s5Step_agree`, `s5ParseLoop_agree`: two runs of the loop from one context whose
    port scratch agrees wherever it is read (`PortAgree`) end identically;
  - `s5Parse_append`: a read `u` consumed whole (`s5_ok`, nothing left) that leaves the
    machine in any state but `req_dport1` may be merged with the next read `v`;
    parsing `u ++ v` in one call gives the code, context and leftover bytes that
    parsing `v` in a second call gives;
  - `s5_parse_port_split_changes_dport`: from the context a client reaches after
    `05 01 00` and `s5_select_auth(none)`, the request `05 01 00 01 7f 00 00 01 1f 90`
    (connect to 127.0.0.1:8080) read as one piece gives `dport = 8080`; read with the
    split between the two port bytes it gives `dport = 0x0090 = 144`;
  - the grammar of RFC 1928 with exact consumption, for fields of at least one byte: a
    greeting (`s5Parse_greeting`) and a request of every command, address type and port
    (`s5Parse_request`), each leaving the rest of the read;
    a counted field is read by `arg0` up to its count, and an address is stored with a 0
    after it (`s5ParseLoop_methods`, `s5ParseLoop_daddr`);
  - `s5_parse_zero_length_field_takes_next_byte`: a count of 0 is checked only after the
    next byte has been read, so that byte is dropped: a greeting with no methods takes a
    third byte, a host name of length 0 shifts the port by one byte, and an empty user name
    swallows the password's length.
-/

import ShadowsocksR.Lib.Bytes

namespace ShadowsocksR.S5

/-! ## The parser's types (`s5.h`) -/

/-- `s5_err`: negative codes are errors, positive ones a completed phase. -/
inductive S5Err where
  | badVersion | badCmd | badAtyp | ok | authSelect | authVerify | execCmd
  deriving Repr, DecidableEq

/-- `enum s5_state`, in the order of the source (`s5_state_version` is 0). -/
inductive S5State where
  | version | nmethods | methods
  | authPwVersion | authPwUserlen | authPwUsername | authPwPasslen | authPwPassword
  | reqVersion | reqCmd | reqReserved | reqAtyp | reqAtypHost | reqDaddr
  | reqDport0 | reqDport1 | dead
  deriving Repr, DecidableEq

/-- `s5_auth_method`, a bit of the `methods` set: none = 1, gssapi = 2, passwd = 4. -/
inductive S5AuthMethod where
  | none | gssapi | passwd
  deriving Repr, DecidableEq

def S5AuthMethod.bit : S5AuthMethod → Nat
  | .none => 1
  | .gssapi => 2
  | .passwd => 4

inductive S5Cmd where
  | tcpConnect | tcpBind | udpAssoc
  deriving Repr, DecidableEq

inductive S5Atyp where
  | ipv4 | host | ipv6
  deriving Repr, DecidableEq

/-- `s5_ctx`. `cmd` and `atyp` are `none` while they still hold the 0 that `s5_init`'s
`memset` left (no enumerator has that value); the counters `arg0`, `arg1` never
exceed 255, so they are naturals. -/
structure S5Ctx where
  arg0 : Nat
  arg1 : Nat
  state : S5State
  methods : Nat
  cmd : Option S5Cmd
  atyp : Option S5Atyp
  userlen : UInt8
  passlen : UInt8
  dport : Nat
  username : Vector UInt8 257
  password : Vector UInt8 257
  daddr : Vector UInt8 257
  deriving Repr, DecidableEq

/-- `s5_init`: the context zeroed, state `s5_state_version`. -/
def s5Init : S5Ctx where
  arg0 := 0
  arg1 := 0
  state := .version
  methods := 0
  cmd := none
  atyp := none
  userlen := 0
  passlen := 0
  dport := 0
  username := Vector.replicate 257 0
  password := Vector.replicate 257 0
  daddr := Vector.replicate 257 0

/-! ## One byte of `s5_parse` -/

/-- The call-local `uint8_t port[2]`; `s5_parse` starts every call with `{ 0 }`. -/
abbrev Port := UInt8 × UInt8

/-- What the loop body does with one byte: go on with a new context and port, or
`goto out` with an error code. -/
inductive S5Step where
  | next (cx : S5Ctx) (port : Port)
  | stop (err : S5Err) (cx : S5Ctx)

/-- The `switch (c)` of state `s5_state_methods`: the bit a method byte adds to
`methods`; methods this parser does not understand are ignored. -/
def addMethod (methods : Nat) : UInt8 → Nat
  | 0 => methods ||| S5AuthMethod.none.bit
  | 1 => methods ||| S5AuthMethod.gssapi.bit
  | 2 => methods ||| S5AuthMethod.passwd.bit
  | _ => methods

/-- The `switch (c)` of state `s5_state_req_cmd`; `none` is its `default` (`s5_bad_cmd`). -/
def cmdOf : UInt8 → Option S5Cmd
  | 1 => some .tcpConnect
  | 2 => some .tcpBind
  | 3 => some .udpAssoc
  | _ => none

/-- The `switch (c)` of state `s5_state_req_atyp`; `none` is its `default`. -/
def atypOf : UInt8 → Option S5Atyp
  | 1 => some .ipv4
  | 3 => some .host
  | 4 => some .ipv6
  | _ => none

/-- The state and byte count that address type sets: four octets, a length byte
first, sixteen octets. -/
def S5Atyp.next : S5Atyp → S5State × Nat
  | .ipv4 => (.reqDaddr, 4)
  | .host => (.reqAtypHost, 0)
  | .ipv6 => (.reqDaddr, 16)

theorem S5Atyp.next_state_ne (a : S5Atyp) : a.next.1 ≠ .reqDport1 := by
  cases a <;> decide

/-- The body of `s5_parse`'s `while (i < n)` for the byte `c = p[i]`. -/
def s5Step (cx : S5Ctx) (port : Port) (c : UInt8) : S5Step :=
  match cx.state with
  | .version =>
    if c ≠ 5 then .stop .badVersion cx else .next { cx with state := .nmethods } port
  | .nmethods => .next { cx with arg0 := 0, arg1 := c.toNat, state := .methods } port
  | .methods =>
    let cx :=
      if cx.arg0 < cx.arg1 then { cx with methods := addMethod cx.methods c, arg0 := cx.arg0 + 1 }
      else cx
    if cx.arg0 = cx.arg1 then .stop .authSelect cx else .next cx port
  | .authPwVersion =>
    if c ≠ 1 then .stop .badVersion cx else .next { cx with state := .authPwUserlen } port
  | .authPwUserlen => .next { cx with arg0 := 0, userlen := c, state := .authPwUsername } port
  | .authPwUsername =>
    let cx :=
      if cx.arg0 < cx.userlen.toNat then
        { cx with username := cx.username.setIfInBounds cx.arg0 c, arg0 := cx.arg0 + 1 }
      else cx
    if cx.arg0 = cx.userlen.toNat then
      .next { cx with username := cx.username.setIfInBounds cx.userlen.toNat 0,
                      state := .authPwPasslen } port
    else .next cx port
  | .authPwPasslen => .next { cx with arg0 := 0, passlen := c, state := .authPwPassword } port
  | .authPwPassword =>
    let cx :=
      if cx.arg0 < cx.passlen.toNat then
        { cx with password := cx.password.setIfInBounds cx.arg0 c, arg0 := cx.arg0 + 1 }
      else cx
    if cx.arg0 = cx.passlen.toNat then
      .stop .authVerify { cx with password := cx.password.setIfInBounds cx.passlen.toNat 0,
                                  state := .reqVersion }
    else .next cx port
  | .reqVersion =>
    if c ≠ 5 then .stop .badVersion cx else .next { cx with state := .reqCmd } port
  | .reqCmd =>
    match cmdOf c with
    | some cmd => .next { cx with cmd := some cmd, state := .reqReserved } port
    | none => .stop .badCmd cx
  | .reqReserved => .next { cx with state := .reqAtyp } port
  | .reqAtyp =>
    -- `cx->arg0 = 0` happens before the switch, also on the error path
    let cx := { cx with arg0 := 0 }
    match atypOf c with
    | some a => .next { cx with state := a.next.1, atyp := some a, arg1 := a.next.2 } port
    | none => .stop .badAtyp cx
  | .reqAtypHost => .next { cx with arg1 := c.toNat, state := .reqDaddr } port
  | .reqDaddr =>
    let cx :=
      if cx.arg0 < cx.arg1 then
        { cx with daddr := cx.daddr.setIfInBounds cx.arg0 c, arg0 := cx.arg0 + 1 }
      else cx
    if cx.arg0 = cx.arg1 then
      .next { cx with daddr := cx.daddr.setIfInBounds cx.arg1 0, state := .reqDport0 } port
    else .next cx port
  | .reqDport0 => .next { cx with state := .reqDport1 } (c, port.2)
  | .reqDport1 =>
    -- `ntohs(*(uint16_t *)port)`: the port bytes are in network (big-endian) order
    .stop .execCmd { cx with dport := Bytes.rdBe16 [port.1, c] 0, state := .dead }
  | .dead => .next cx port

/-- The result of `s5_parse`: the code, the context, and what is left of the read
(`*data = p + i; *size = n - i`). -/
structure S5Parsed where
  err : S5Err
  cx : S5Ctx
  data : List UInt8
  deriving Repr, DecidableEq

/-- `s5_parse`'s loop from the byte at `i` on; the bytes before `i` are consumed. -/
def s5ParseLoop : S5Ctx → Port → List UInt8 → S5Parsed
  | cx, _, [] => ⟨.ok, cx, []⟩
  | cx, port, c :: rest =>
    match s5Step cx port c with
    | .next cx' port' => s5ParseLoop cx' port' rest
    | .stop err cx' => ⟨err, cx', rest⟩

/-- `s5_parse`: every call starts with `port = { 0 }`. -/
def s5Parse (cx : S5Ctx) (data : List UInt8) : S5Parsed := s5ParseLoop cx (0, 0) data

theorem s5ParseLoop_next {cx cx' : S5Ctx} {port port' : Port} {c : UInt8}
    (h : s5Step cx port c = .next cx' port') (rest : List UInt8) :
    s5ParseLoop cx port (c :: rest) = s5ParseLoop cx' port' rest := by
  rw [s5ParseLoop, h]

theorem s5ParseLoop_stop {cx cx' : S5Ctx} {port : Port} {c : UInt8} {err : S5Err}
    (h : s5Step cx port c = .stop err cx') (rest : List UInt8) :
    s5ParseLoop cx port (c :: rest) = ⟨err, cx', rest⟩ := by
  rw [s5ParseLoop, h]

/-- `s5_select_auth`: the code (0, or `-EINVAL` for a method the parser cannot run)
and the context. -/
def s5SelectAuth (cx : S5Ctx) : S5AuthMethod → Int × S5Ctx
  | .none => (0, { cx with state := .reqVersion })
  | .passwd => (0, { cx with state := .authPwVersion })
  | .gssapi => (-22, cx)

/-- The contexts a client reaches: `s5_init`, then any parse, with `s5_select_auth`
after a read that ended in `s5_auth_select`. -/
inductive S5Reach : S5Ctx → Prop
  | init : S5Reach s5Init
  | parse {cx : S5Ctx} (data : List UInt8) : S5Reach cx → S5Reach (s5Parse cx data).cx
  | select {cx : S5Ctx} (data : List UInt8) (m : S5AuthMethod) :
      S5Reach cx → (s5Parse cx data).err = .authSelect →
      S5Reach (s5SelectAuth (s5Parse cx data).cx m).2

/-! ## Where the port scratch matters -/

/-- Two port scratches agree where the machine will read them: `port[0]` is read in
state `req_dport1` only. -/
def PortAgree (cx : S5Ctx) (p q : Port) : Prop := cx.state = .reqDport1 → p.1 = q.1

/-- What two steps from agreeing scratches must do alike: go on to one context with
scratches that agree again, or stop with one code and one context. -/
def StepAgree : S5Step → S5Step → Prop
  | .next cx p, .next cx' q => cx = cx' ∧ PortAgree cx p q
  | .stop e cx, .stop e' cx' => e = e' ∧ cx = cx'
  | _, _ => False

/-- Outside `req_dport1` the port scratch is not read: one step from two agreeing
scratches ends alike. -/
theorem s5Step_agree (cx : S5Ctx) {p q : Port} (c : UInt8) (h : PortAgree cx p q) :
    StepAgree (s5Step cx p c) (s5Step cx q c) := by
  cases hst : cx.state with
  | reqDport1 =>
    -- the one state that reads `port[0]`: the agreement gives the same `dport`
    have h1 : p.1 = q.1 := h hst
    simp [s5Step, hst, h1, StepAgree]
  | reqDport0 =>
    -- the one state that writes `port[0]`: both scratches now hold `c` there
    simp [s5Step, hst, StepAgree, PortAgree]
  | _ =>
    -- every other state passes the scratch through and does not enter `req_dport1`
    simp only [s5Step, hst]
    repeat' split
    all_goals simp_all [StepAgree, PortAgree, S5Atyp.next_state_ne]

/-- The run lemma: agreeing scratches give the same result, over the rest of a read. -/
theorem s5ParseLoop_agree (cx : S5Ctx) (p q : Port) (data : List UInt8)
    (h : PortAgree cx p q) : s5ParseLoop cx p data = s5ParseLoop cx q data := by
  induction data generalizing cx p q with
  | nil => rfl
  | cons c rest ih =>
    have hagree := s5Step_agree cx c h
    revert hagree
    simp only [s5ParseLoop]
    rcases s5Step cx p c with ⟨cx₁, p₁⟩ | ⟨e₁, cx₁⟩ <;>
      rcases s5Step cx q c with ⟨cx₂, q₂⟩ | ⟨e₂, cx₂⟩ <;> simp only [StepAgree, false_implies]
    · rintro ⟨rfl, h'⟩
      exact ih cx₁ p₁ q₂ h'
    · rintro ⟨rfl, rfl⟩
      rfl

/-- A read consumed whole runs the loop to its end without a `goto out`. -/
theorem s5ParseLoop_append {cx : S5Ctx} {p : Port} {u : List UInt8} {cx' : S5Ctx}
    (h : s5ParseLoop cx p u = ⟨.ok, cx', []⟩) (v : List UInt8) :
    ∃ p', s5ParseLoop cx p (u ++ v) = s5ParseLoop cx' p' v := by
  induction u generalizing cx p with
  | nil =>
    simp only [s5ParseLoop, S5Parsed.mk.injEq] at h
    exact ⟨p, by rw [h.2.1]; rfl⟩
  | cons c rest ih =>
    simp only [s5ParseLoop] at h
    split at h
    · rename_i cx₁ p₁ hstep
      obtain ⟨p', hp'⟩ := ih h
      exact ⟨p', by simp only [List.cons_append, s5ParseLoop, hstep, hp']⟩
    · -- a `goto out` leaves the code it stopped with, never `s5_ok`
      rename_i err cx₁ hstep
      simp only [S5Parsed.mk.injEq] at h
      obtain ⟨rfl, -, -⟩ := h
      revert hstep
      unfold s5Step
      split <;> grind

/-- Splitting a read anywhere but between the two bytes of DST.PORT does not change
what the parser computes. -/
theorem s5Parse_append {cx cx' : S5Ctx} {u : List UInt8}
    (h : s5Parse cx u = ⟨.ok, cx', []⟩) (hst : cx'.state ≠ .reqDport1) (v : List UInt8) :
    s5Parse cx (u ++ v) = s5Parse cx' v := by
  obtain ⟨p', hp'⟩ := s5ParseLoop_append h v
  rw [s5Parse, hp', s5Parse]
  exact s5ParseLoop_agree cx' p' (0, 0) v (fun h' => absurd h' hst)

/-! ## A request whose port bytes arrive in two reads -/

/-- The context after the greeting `05 01 00` (one method, no authentication) and
`s5_select_auth(none)`, as `do_handshake` leaves it. -/
def s5AfterGreeting : S5Ctx := (s5SelectAuth (s5Parse s5Init [5, 1, 0]).cx .none).2

theorem s5AfterGreeting_reach : S5Reach s5AfterGreeting :=
  .select [5, 1, 0] .none .init (by decide)

/-- CONNECT 127.0.0.1:8080 with the split after the first port byte `0x1f`: the first
read returns `s5_ok` having consumed everything, and the second call forms the port
from `{ 0, 0x90 }`. -/
theorem s5_parse_port_split_changes_dport :
    S5Reach s5AfterGreeting ∧
    s5Parse s5AfterGreeting [5, 1, 0, 1, 127, 0, 0, 1, 0x1f] =
      ⟨.ok, (s5Parse s5AfterGreeting [5, 1, 0, 1, 127, 0, 0, 1, 0x1f]).cx, []⟩ ∧
    (s5Parse s5AfterGreeting [5, 1, 0, 1, 127, 0, 0, 1, 0x1f, 0x90]).err = .execCmd ∧
    (s5Parse s5AfterGreeting [5, 1, 0, 1, 127, 0, 0, 1, 0x1f, 0x90]).cx.dport = 8080 ∧
    (s5Parse (s5Parse s5AfterGreeting [5, 1, 0, 1, 127, 0, 0, 1, 0x1f]).cx [0x90]).err =
      .execCmd ∧
    (s5Parse (s5Parse s5AfterGreeting [5, 1, 0, 1, 127, 0, 0, 1, 0x1f]).cx [0x90]).cx.dport =
      144 :=
  ⟨s5AfterGreeting_reach, by decide +kernel, by decide +kernel, by decide +kernel,
    by decide +kernel, by decide +kernel⟩

/-! ## The counted fields -/

theorem take_succ_set {l : List UInt8} {k : Nat} (hk : k < l.length) (b : UInt8) :
    (l.set k b).take (k + 1) = l.take k ++ [b] := by
  rw [List.take_add_one, List.getElem?_set_self hk, List.take_set_of_le (Nat.le_refl k)]
  rfl

/-- The methods of a greeting, counted by `arg0` up to `arg1`: the last one completes the
phase. -/
theorem s5ParseLoop_methods {cx : S5Ctx} (port : Port) (ms rest : List UInt8)
    (hst : cx.state = .methods) (hlen : cx.arg0 + ms.length = cx.arg1) (hms : ms ≠ []) :
    s5ParseLoop cx port (ms ++ rest) =
      ⟨.authSelect, { cx with methods := ms.foldl addMethod cx.methods, arg0 := cx.arg1 },
        rest⟩ := by
  induction ms generalizing cx with
  | nil => exact absurd rfl hms
  | cons m ms ih =>
    have hlt : cx.arg0 < cx.arg1 := by simp at hlen; omega
    cases ms with
    | nil =>
      have hlast : cx.arg0 + 1 = cx.arg1 := by simpa using hlen
      have hstep : s5Step cx port m = .stop .authSelect
          { cx with methods := addMethod cx.methods m, arg0 := cx.arg0 + 1 } := by
        simp [s5Step, hst, hlt, hlast]
      rw [List.singleton_append, s5ParseLoop_stop hstep, hlast]
      rfl
    | cons m' ms =>
      have hmore : cx.arg0 + 1 ≠ cx.arg1 := by simp at hlen; omega
      have hstep : s5Step cx port m =
          .next { cx with methods := addMethod cx.methods m, arg0 := cx.arg0 + 1 } port := by
        simp [s5Step, hst, hlt, hmore]
      rw [List.cons_append, s5ParseLoop_next hstep,
        @ih { cx with methods := addMethod cx.methods m, arg0 := cx.arg0 + 1 } hst
          (by simp at hlen ⊢; omega) (List.cons_ne_nil _ _)]
      rfl

/-- The bytes of an address, counted by `arg0` up to `arg1`: written into `daddr` one
each, then the terminating 0 after them, and the port follows. -/
theorem s5ParseLoop_daddr {cx : S5Ctx} (port : Port) (bs rest : List UInt8)
    (hst : cx.state = .reqDaddr) (hlen : cx.arg0 + bs.length = cx.arg1) (hbs : bs ≠ [])
    (h257 : cx.arg1 < 257) :
    ∃ D : Vector UInt8 257, D.toList.take (cx.arg1 + 1) = cx.daddr.toList.take cx.arg0 ++ bs ++ [0] ∧
      s5ParseLoop cx port (bs ++ rest) =
        s5ParseLoop { cx with daddr := D, arg0 := cx.arg1, state := .reqDport0 } port rest := by
  induction bs generalizing cx with
  | nil => exact absurd rfl hbs
  | cons b bs ih =>
    have hlt : cx.arg0 < cx.arg1 := by simp at hlen; omega
    have hb : (cx.daddr.setIfInBounds cx.arg0 b).toList.take (cx.arg0 + 1) =
        cx.daddr.toList.take cx.arg0 ++ [b] := by
      rw [Vector.toList_setIfInBounds]
      exact take_succ_set (by simp; omega) b
    cases bs with
    | nil =>
      have hlast : cx.arg0 + 1 = cx.arg1 := by simpa using hlen
      refine ⟨(cx.daddr.setIfInBounds cx.arg0 b).setIfInBounds cx.arg1 0, ?_, ?_⟩
      · -- the terminator goes right after the last byte
        rw [Vector.toList_setIfInBounds, take_succ_set (by simp; omega), ← hlast, hb]
      · have hstep : s5Step cx port b =
            .next { cx with daddr := (cx.daddr.setIfInBounds cx.arg0 b).setIfInBounds cx.arg1 0,
                            arg0 := cx.arg1, state := .reqDport0 } port := by
          simp [s5Step, hst, hlt, hlast]
        rw [List.singleton_append, s5ParseLoop_next hstep]
    | cons b' bs =>
      have hmore : cx.arg0 + 1 ≠ cx.arg1 := by simp at hlen; omega
      have hstep : s5Step cx port b =
          .next { cx with daddr := cx.daddr.setIfInBounds cx.arg0 b,
                          arg0 := cx.arg0 + 1 } port := by
        simp [s5Step, hst, hlt, hmore]
      obtain ⟨D, hD, hrun⟩ :=
        @ih { cx with daddr := cx.daddr.setIfInBounds cx.arg0 b, arg0 := cx.arg0 + 1 } hst
          (by simp at hlen ⊢; omega) (List.cons_ne_nil _ _) h257
      refine ⟨D, ?_, ?_⟩
      · rw [hD]
        simp only [hb, List.append_assoc, List.cons_append, List.nil_append]
      · rw [List.cons_append, s5ParseLoop_next hstep, hrun]

/-! ## The grammar -/

/-- The address type's byte, as RFC 1928 numbers them. -/
def S5Atyp.code : S5Atyp → UInt8
  | .ipv4 => 1
  | .host => 3
  | .ipv6 => 4

theorem atypOf_code (a : S5Atyp) : atypOf a.code = some a := by cases a <;> rfl

/-- The address field of a request: four or sixteen octets, or a host name after its
length byte. -/
def addrField : S5Atyp → List UInt8 → List UInt8
  | .ipv4, addr => addr
  | .host, addr => addr.length.toUInt8 :: addr
  | .ipv6, addr => addr

/-- The address lengths RFC 1928 allows: four octets, sixteen, a host name of at most 255. -/
def AddrFits : S5Atyp → List UInt8 → Prop
  | .ipv4, addr => addr.length = 4
  | .ipv6, addr => addr.length = 16
  | .host, addr => addr.length ≤ 255

/-- A request: version 5, the command, the reserved byte, the address type, the address,
and the port, high byte first. -/
def requestBytes (cmd rsv : UInt8) (a : S5Atyp) (addr : List UInt8) (p0 p1 : UInt8) :
    List UInt8 :=
  [5, cmd, rsv, a.code] ++ addrField a addr ++ [p0, p1]

/-- The four fixed bytes of a request take the machine to the address. -/
theorem s5ParseLoop_request_head {cx : S5Ctx} (hst : cx.state = .reqVersion) {cmd : UInt8}
    {c : S5Cmd} (hcmd : cmdOf cmd = some c) (rsv : UInt8) (a : S5Atyp) (port : Port)
    (rest : List UInt8) :
    s5ParseLoop cx port (5 :: cmd :: rsv :: a.code :: rest) =
      s5ParseLoop { cx with cmd := some c, arg0 := 0, state := a.next.1, atyp := some a,
                            arg1 := a.next.2 } port rest := by
  simp [s5ParseLoop, s5Step, hst, hcmd, atypOf_code]

/-- An address of `arg1` bytes and the two port bytes complete the request. -/
theorem s5ParseLoop_addr_port (cx : S5Ctx) (port : Port) {addr : List UInt8}
    (hst : cx.state = .reqDaddr) (h0 : cx.arg0 = 0) (hlen : addr.length = cx.arg1)
    (hne : addr ≠ []) (h257 : cx.arg1 < 257) (p0 p1 : UInt8) (rest : List UInt8) :
    ∃ D : Vector UInt8 257, D.toList.take (cx.arg1 + 1) = addr ++ [0] ∧
      s5ParseLoop cx port (addr ++ p0 :: p1 :: rest) =
        ⟨.execCmd, { cx with daddr := D, arg0 := cx.arg1, state := .dead,
                             dport := p0.toNat * 256 + p1.toNat }, rest⟩ := by
  obtain ⟨D, hD, hrun⟩ := s5ParseLoop_daddr port addr (p0 :: p1 :: rest) hst (by omega) hne h257
  refine ⟨D, by rw [hD, h0, List.take_zero, List.nil_append], ?_⟩
  rw [hrun]
  simp [s5ParseLoop, s5Step, Bytes.rdBe16, Bytes.byteAt]

/-- The address field, whatever its type, then the port complete the request. -/
theorem s5ParseLoop_address (cx : S5Ctx) (port : Port) {a : S5Atyp} {addr : List UInt8}
    (hst : cx.state = a.next.1) (h0 : cx.arg0 = 0) (h1 : cx.arg1 = a.next.2)
    (hfit : AddrFits a addr) (hne : addr ≠ []) (p0 p1 : UInt8) (rest : List UInt8) :
    ∃ D : Vector UInt8 257, D.toList.take (addr.length + 1) = addr ++ [0] ∧
      s5ParseLoop cx port (addrField a addr ++ p0 :: p1 :: rest) =
        ⟨.execCmd, { cx with daddr := D, arg0 := addr.length, arg1 := addr.length,
                             state := .dead, dport := p0.toNat * 256 + p1.toNat }, rest⟩ := by
  cases a with
  | ipv4 =>
    have hlen : addr.length = cx.arg1 := by rw [h1]; exact hfit
    obtain ⟨D, hD, hrun⟩ := s5ParseLoop_addr_port cx port hst h0 hlen hne (by rw [h1]; decide)
      p0 p1 rest
    exact ⟨D, hlen ▸ hD, by rw [addrField, hrun, ← hlen]⟩
  | ipv6 =>
    have hlen : addr.length = cx.arg1 := by rw [h1]; exact hfit
    obtain ⟨D, hD, hrun⟩ := s5ParseLoop_addr_port cx port hst h0 hlen hne (by rw [h1]; decide)
      p0 p1 rest
    exact ⟨D, hlen ▸ hD, by rw [addrField, hrun, ← hlen]⟩
  | host =>
    -- the length byte comes first and sets `arg1`
    have hL : addr.length.toUInt8.toNat = addr.length := by
      have : addr.length ≤ 255 := hfit
      simp; omega
    have hstep : s5Step cx port addr.length.toUInt8 =
        .next { cx with arg1 := addr.length, state := .reqDaddr } port := by
      simp [s5Step, hst, S5Atyp.next, hL]
    obtain ⟨D, hD, hrun⟩ :=
      s5ParseLoop_addr_port { cx with arg1 := addr.length, state := .reqDaddr }
      port rfl h0 rfl hne (by have : addr.length ≤ 255 := hfit; show addr.length < 257; omega)
      p0 p1 rest
    exact ⟨D, hD, by rw [addrField, List.cons_append, s5ParseLoop_next hstep, hrun]⟩

/-- **A request with a non-empty address is parsed exactly**: from `s5_state_req_version`,
the request's bytes give `s5_exec_cmd` with the command, address type, address and port,
and leave the rest of the read. -/
theorem s5Parse_request {cx : S5Ctx} (hst : cx.state = .reqVersion) {cmd : UInt8} {c : S5Cmd}
    (hcmd : cmdOf cmd = some c) (rsv : UInt8) {a : S5Atyp} {addr : List UInt8}
    (hfit : AddrFits a addr) (hne : addr ≠ []) (p0 p1 : UInt8) (rest : List UInt8) :
    let r := s5Parse cx (requestBytes cmd rsv a addr p0 p1 ++ rest)
    r.err = .execCmd ∧ r.data = rest ∧ r.cx.cmd = some c ∧ r.cx.atyp = some a ∧
      r.cx.daddr.toList.take (addr.length + 1) = addr ++ [0] ∧
        r.cx.dport = p0.toNat * 256 + p1.toNat := by
  intro r
  obtain ⟨D, hD, hrun⟩ := s5ParseLoop_address
    { cx with cmd := some c, arg0 := 0, state := a.next.1, atyp := some a, arg1 := a.next.2 }
    (0, 0) rfl rfl rfl hfit hne p0 p1 rest
  have hr : r = ⟨.execCmd, { cx with cmd := some c, atyp := some a, daddr := D,
                                     arg0 := addr.length, arg1 := addr.length, state := .dead,
                                     dport := p0.toNat * 256 + p1.toNat }, rest⟩ := by
    simp only [r, s5Parse, requestBytes, List.append_assoc, List.cons_append, List.nil_append,
      s5ParseLoop_request_head hst hcmd, hrun]
  rw [hr]
  exact ⟨rfl, rfl, rfl, rfl, hD, rfl⟩

/-- **A greeting with at least one method is parsed exactly**: from `s5_init`, the version,
the count and the methods give `s5_auth_select` with the recognised methods, and leave
the rest of the read. -/
theorem s5Parse_greeting (ms rest : List UInt8) (hne : ms ≠ []) (hlen : ms.length ≤ 255) :
    s5Parse s5Init ([5, ms.length.toUInt8] ++ ms ++ rest) =
      ⟨.authSelect, { s5Init with state := .methods, methods := ms.foldl addMethod 0,
                                  arg0 := ms.length, arg1 := ms.length }, rest⟩ := by
  have hL : ms.length.toUInt8.toNat = ms.length := by simp; omega
  have h₁ : s5Step s5Init (0, 0) 5 = .next { s5Init with state := .nmethods } (0, 0) := rfl
  have h₂ : s5Step { s5Init with state := .nmethods } (0, 0) ms.length.toUInt8 =
      .next { s5Init with state := .methods, arg1 := ms.length } (0, 0) := by
    simp [s5Step, hL, s5Init]
  rw [s5Parse, List.append_assoc, List.cons_append, s5ParseLoop_next h₁, List.cons_append,
    List.nil_append, s5ParseLoop_next h₂,
    s5ParseLoop_methods (0, 0) ms rest rfl (by simp [s5Init]) hne]
  rfl

/-- A length field of 0 does not end its field: the byte after it is read as the field's
end and dropped. With no methods the greeting takes one byte more, or waits for one; a host
name of no bytes takes the first port byte, so the port is formed from the second and the
byte after the request; an empty user name takes the password's length byte. -/
theorem s5_parse_zero_length_field_takes_next_byte :
    (∀ (c : UInt8) (rest : List UInt8),
      (s5Parse s5Init ([5, 0] ++ c :: rest)).err = .authSelect ∧
        (s5Parse s5Init ([5, 0] ++ c :: rest)).data = rest) ∧
    (s5Parse s5Init [5, 0]).err = .ok ∧
    (∀ cx : S5Ctx, cx.state = .reqVersion →
      ∀ (cmd rsv p0 p1 b : UInt8) (c : S5Cmd) (rest : List UInt8), cmdOf cmd = some c →
        let r := s5Parse cx (requestBytes cmd rsv .host [] p0 p1 ++ b :: rest)
        r.err = .execCmd ∧ r.data = rest ∧ r.cx.dport = p1.toNat * 256 + b.toNat) ∧
    (∀ cx : S5Ctx, cx.state = .authPwVersion → ∀ b : UInt8,
      (s5Parse cx [1, 0, b]).err = .ok ∧ (s5Parse cx [1, 0, b]).cx.state = .authPwPasslen) := by
  refine ⟨fun c rest => ?_, rfl, fun cx hst cmd rsv p0 p1 b c rest hcmd => ?_,
    fun cx hst b => ?_⟩
  · simp [s5Parse, s5ParseLoop, s5Step, s5Init]
  · simp [s5Parse, requestBytes, addrField, s5ParseLoop_request_head hst hcmd, S5Atyp.next,
      s5ParseLoop, s5Step, Bytes.rdBe16, Bytes.byteAt]
  · simp [s5Parse, s5ParseLoop, s5Step, hst]

/-- CONNECT to a host name of length 0 at port `0x1f90`, from the context after the greeting,
with one more byte `0x47` in the read: the port is taken as `0x9047`. -/
theorem s5_zero_length_host_on_connect :
    s5AfterGreeting.state = .reqVersion ∧ cmdOf 1 = some .tcpConnect ∧
      let r := s5Parse s5AfterGreeting (requestBytes 1 0 .host [] 0x1f 0x90 ++ [0x47])
      r.err = .execCmd ∧ r.data = [] ∧
        r.cx.dport = (0x90 : UInt8).toNat * 256 + (0x47 : UInt8).toNat :=
  ⟨rfl, rfl, s5_parse_zero_length_field_takes_next_byte.2.2.1 s5AfterGreeting rfl 1 0 0x1f 0x90
    0x47 .tcpConnect [] rfl⟩

end ShadowsocksR.S5
