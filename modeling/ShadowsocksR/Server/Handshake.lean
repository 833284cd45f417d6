/-
  ShadowsocksR.Server.Handshake — server.c from a tunnel's first read to its target:
  `do_next` in `tunnel_stage_initial`, `tunnel_stage_receipt_done`,
  `tunnel_stage_client_feedback` and `tunnel_stage_confirm_done`, with `do_init_package`,
  `do_client_feedback`, `do_prepare_parse` and `do_parse`, over
  `tunnel_cipher_server_decrypt` (`ssr_executive.c`).

  `tunnel_cipher_server_decrypt` is modelled over its plugins (`ServerPipeline`), each a
  function of one state that stands for the plugins' local data and the cipher contexts:
  the obfs's `server_decode` and `server_encode`; the protocol's `server.recv_iv` (its first
  byte, and the `memmove` of a buffer's first `iv_len` bytes into it), `server_post_decrypt`
  and `server_pre_encrypt`; and `ss_decrypt`, `ss_encrypt`. What the first read decrypts to
  decides the way on: an obfs receipt is written and one more read is taken
  (`client_feedback`); a protocol confirmation is written and the address parsed after it;
  with neither, the address is parsed at once from what the read gave. `init_pkg` is a
  `buffer_t` (`Buffer`) up to `pre_parse_header`, and `do_parse` keeps its contents past the
  address (`payload`). What the system answers (`uv_ip4_addr`, `uv_ip6_addr`, the cache of
  resolved names, `socket_connect`) is a parameter (`Net`). A read's error status and the
  stages after the connect are left out.

  Proved:
  - over every run and whatever the plugins, the invariant `Inv` (`inv_reach`, from one lemma
    per event and one outcome lemma per handler): the client is read at most twice
    (`server_reads_the_client_at_most_twice`), and every event meets a stage that handles it,
    so the `ASSERT(0)` branches of `do_next` are never taken
    (`server_events_meet_their_stages`);
  - whatever the plugins, a first read that decrypts to the header `initial_package_create`
    wrote and a payload leaves an address that `socks5_address_binary` writes back as that
    header, the payload kept, and an IPv4 or IPv6 address connected to
    (`server_connects_to_the_address_the_client_sent`);
  - with protocol `origin`, obfs `plain` and method `none` (`originPlainNone`), a run takes one
    read of the client and no other (`reach_originPlainNone`), and in every run whose first read
    ends inside the address header the tunnel is shut down
    (`server_shuts_down_on_a_split_header`): `do_init_package` hands the part it has to
    `do_prepare_parse` (`doInitPackage_of_result`), which finds the header incomplete
    (`doPrepareParse_of_prefix`).
-/

import ShadowsocksR.Lib.Machine
import ShadowsocksR.Encrypt.Cipher
import ShadowsocksR.Executive.Header
import ShadowsocksR.SockAddr
import ShadowsocksR.NetUtils

namespace ShadowsocksR.Server

open StateMachine Bytes CString

/-! ## `tunnel_cipher_server_decrypt` -/

/-- An obfs's server side: `server_decode(obfs, buf, &need_decrypt, &need_feedback)`, its
result (`NULL` as `none`) and the two flags, and `server_encode`. -/
structure ServerObfs (σ : Type) where
  serverDecode : σ → List UInt8 → σ × Option (List UInt8) × Bool × Bool
  serverEncode : σ → List UInt8 → σ × List UInt8

/-- A protocol's server side: the first byte of `server.recv_iv`, the `memmove` of the first
`iv_len` bytes of a buffer into it, and `server_post_decrypt` (its result and
`*need_feedback`) and `server_pre_encrypt`, `NULL` as `none`. -/
structure ServerProtocol (σ : Type) where
  recvIv0 : σ → UInt8
  captureIv : σ → List UInt8 → σ
  serverPostDecrypt : Option (σ → List UInt8 → σ × Option (List UInt8) × Bool)
  serverPreEncrypt : Option (σ → List UInt8 → σ × Option (List UInt8))

/-- The plugins of a server's `tunnel_cipher_ctx`, over one state `σ`. A plugin the tunnel
does not have (`plain`, `origin`) is `none`; `ss_decrypt` and `ss_encrypt` give `none` for
their -1. -/
structure ServerPipeline (σ : Type) where
  obfs : Option (ServerObfs σ)
  protocol : Option (ServerProtocol σ)
  ssDecrypt : σ → List UInt8 → σ × Option (List UInt8)
  ssEncrypt : σ → List UInt8 → σ × Option (List UInt8)

/-- What `tunnel_cipher_server_decrypt` leaves: the state, its result (`NULL` as `none`),
`*receipt` and `*confirm`. -/
structure ServerDecrypted (σ : Type) where
  state : σ
  result : Option (List UInt8)
  receipt : Option (List UInt8)
  confirm : Option (List UInt8)

variable {σ : Type} (pl : ServerPipeline σ)

/-- `tunnel_cipher_server_encrypt(tc, buf)`: `NULL` when the protocol's pre-encrypt does, or
`ss_encrypt` fails (after `ASSERT(false)`). -/
def tunnelCipherServerEncrypt (st : σ) (buf : List UInt8) : σ × Option (List UInt8) :=
  let (st, ret) :=
    match pl.protocol.bind (·.serverPreEncrypt) with
    | some pre => pre st buf
    | none => (st, some buf)
  match ret with
  | none => (st, none)
  | some ret =>
    match pl.ssEncrypt st ret with
    | (st, none) => (st, none)
    | (st, some ret) =>
      match pl.obfs with
      | some o =>
        let (st, ret) := o.serverEncode st ret
        (st, some ret)
      | none => (st, some ret)

/-- `tunnel_cipher_server_decrypt` past the obfs: a buffer that is not empty has its first
bytes captured as `recv_iv` while that starts with 0, and is decrypted; then the protocol's
post-decrypt, whose feedback is confirmed with the encrypt of an empty buffer. -/
def serverDecryptRest (st : σ) (ret : List UInt8) (needDecrypt : Bool) : ServerDecrypted σ :=
  let (st, ret) :=
    if needDecrypt = true ∧ 0 < ret.length then
      let st :=
        match pl.protocol with
        | some p => if p.recvIv0 st = 0 then p.captureIv st ret else st
        | none => st
      pl.ssDecrypt st ret
    else (st, some ret)
  match ret with
  | none => ⟨st, none, none, none⟩
  | some ret =>
    match pl.protocol.bind (·.serverPostDecrypt) with
    | none => ⟨st, some ret, none, none⟩
    | some post =>
      let (st, out, feedback) := post st ret
      if feedback then
        let (st, confirm) := tunnelCipherServerEncrypt pl st []
        ⟨st, out, none, confirm⟩
      else ⟨st, out, none, none⟩

/-- The first half of `serverDecryptRest`: the capture of `recv_iv` and `ss_decrypt`. -/
def serverDecryptStage (st : σ) (ret : List UInt8) (needDecrypt : Bool) : σ × Option (List UInt8) :=
  if needDecrypt = true ∧ 0 < ret.length then
    let st :=
      match pl.protocol with
      | some p => if p.recvIv0 st = 0 then p.captureIv st ret else st
      | none => st
    pl.ssDecrypt st ret
  else (st, some ret)

/-- `serverDecryptRest` is its first half, then the protocol's post-decrypt and, on its
feedback, the confirmation. -/
theorem serverDecryptRest_eq (st : σ) (ret : List UInt8) (needDecrypt : Bool) :
    serverDecryptRest pl st ret needDecrypt =
      let (st, ret) := serverDecryptStage pl st ret needDecrypt
      match ret with
      | none => ⟨st, none, none, none⟩
      | some ret =>
        match pl.protocol.bind (·.serverPostDecrypt) with
        | none => ⟨st, some ret, none, none⟩
        | some post =>
          let (st, out, feedback) := post st ret
          if feedback then
            let (st, confirm) := tunnelCipherServerEncrypt pl st []
            ⟨st, out, none, confirm⟩
          else ⟨st, out, none, none⟩ := rfl

/-- `tunnel_cipher_server_decrypt(tc, buf, &receipt, &confirm)`. -/
def tunnelCipherServerDecrypt (st : σ) (buf : List UInt8) : ServerDecrypted σ :=
  match pl.obfs with
  | none => serverDecryptRest pl st buf true
  | some o =>
    match o.serverDecode st buf with
    | (st, none, _, _) => ⟨st, none, none, none⟩
    | (st, some ret, needDecrypt, needFeedback) =>
      if needFeedback then
        -- the receipt is `server_encode` of an empty buffer, and the result is reset
        let (st, receipt) := o.serverEncode st []
        ⟨st, some [], some receipt, none⟩
      else serverDecryptRest pl st ret needDecrypt

/-! ## The handshake -/

/-- The stages of `server.c` up to the connect. -/
inductive Stage where
  | initial
  | receiptDone
  | clientFeedback
  | confirmDone
  | resolveHost
  | connectHost
  deriving DecidableEq, Repr

/-- What the server asks the system: whether `uv_ip4_addr` or `uv_ip6_addr` reads a name as
an address, whether the cache of resolved names holds it, and whether `socket_connect`
starts. -/
structure Net where
  literalIp : List UInt8 → Bool
  resolved : List UInt8 → Bool
  connects : Bool

/-- A server tunnel in its handshake: its stage, the cipher context's state, `init_pkg`,
`tunnel->desired_addr`, which reads and writes of the client's socket libuv owes, and what
it read and wrote. -/
structure ServerTunnel (σ : Type) where
  stage : Stage
  cipher : σ
  initPkg : Buffer
  desiredAddr : SockAddr.Socks5Address
  /-- `init_pkg`'s contents once `do_parse` has cut the address off. -/
  payload : List UInt8
  incomingReading : Bool
  incomingWriting : Bool
  terminated : Bool
  assertFailed : Bool
  /-- `pre_parse_header` went past `init_pkg`'s allocation. -/
  faulted : Bool
  clientReads : List (List UInt8)
  toClient : List (List UInt8)

namespace ServerTunnel

/-- `ASSERT(cond)`: a failure is recorded; a release build goes on. -/
def assert (t : ServerTunnel σ) (cond : Bool) : ServerTunnel σ :=
  { t with assertFailed := t.assertFailed || !cond }

/-- `tunnel_shutdown`. -/
def shutdown (t : ServerTunnel σ) : ServerTunnel σ := { t with terminated := true }

/-- `socket_write` on the client's socket. -/
def writeClient (t : ServerTunnel σ) (data : List UInt8) (stage : Stage) : ServerTunnel σ :=
  { t with toClient := t.toClient ++ [data], incomingWriting := true, stage }

@[simp] theorem shutdown_terminated (t : ServerTunnel σ) : t.shutdown.terminated = true := rfl
@[simp] theorem assert_terminated (t : ServerTunnel σ) (c : Bool) :
    (t.assert c).terminated = t.terminated := rfl

end ServerTunnel

/-- `is_legal_header`: the first byte of `init_pkg`'s allocation is a type of the relay
header. -/
def isLegalHeader (mem : List UInt8) : Bool := [1, 3, 4].contains (byteAt mem 0)

/-- `is_header_complete`: the relay header parses from `init_pkg`. -/
def isHeaderComplete (mem : List UInt8) (len : Nat) : Bool :=
  (SockAddr.socks5AddressParse mem len .zero).ok

variable (net : Net)

/-- `do_connect_host_start`. -/
def doConnectHostStart (t : ServerTunnel σ) : ServerTunnel σ :=
  let t := ({ t with stage := .connectHost } : ServerTunnel σ).assert
    (!t.incomingReading && !t.incomingWriting)
  if net.connects then t else t.shutdown

/-- `do_parse` on `init_pkg`'s contents: the address into `desired_addr` and the rest kept;
an address, or a name that reads as one or was resolved before, is connected to, another
name is resolved if it is a host name. -/
def doParse (t : ServerTunnel σ) (pkg : List UInt8) : ServerTunnel σ :=
  match SockAddr.doParse pkg with
  | none => t.shutdown
  | some (addr, payload) =>
    let t := { t with desiredAddr := addr, payload }
    match addr.addrType with
    | .ipv4 | .ipv6 => doConnectHostStart net t
    | _ =>
      let t := t.assert (addr.addrType == .domainname)
      let host := cstr addr.addr.toList
      if net.literalIp host || net.resolved host then doConnectHostStart net t
      else if NetUtils.validateHostname host host.length then { t with stage := .resolveHost }
      else t.shutdown

/-- `do_prepare_parse`: `pre_parse_header` on `init_pkg`, then the two checks and
`do_parse`. -/
def doPrepareParse (t : ServerTunnel σ) : ServerTunnel σ :=
  match preParseHeader t.initPkg with
  | none => { t with faulted := true }
  | some r =>
    if isLegalHeader r.mem = false then t.shutdown
    else if isHeaderComplete r.mem r.len = false then t.shutdown
    else doParse net t r.data

/-- `do_init_package`: the first read decrypted; a receipt is written and one more read
awaited, a confirmation is written, and otherwise the address is parsed from the result.
`buffer_replace` resets `init_pkg` for a `NULL` result. -/
def doInitPackage (t : ServerTunnel σ) (data : List UInt8) : ServerTunnel σ :=
  let d := tunnelCipherServerDecrypt pl t.cipher data
  let t := { t with cipher := d.state }
  match d.receipt with
  | some receipt => (t.assert d.confirm.isNone).writeClient receipt .receiptDone
  | none =>
    let t := t.assert d.result.isSome
    let t := { t with initPkg :=
      match d.result with
      | some r => bufferStore t.initPkg r
      | none => bufferReset t.initPkg }
    match d.confirm with
    | some confirm => t.writeClient confirm .confirmDone
    | none => doPrepareParse net t

/-- `do_client_feedback`: the read after the receipt; an empty or `NULL` result shuts the
tunnel down, any other is appended to `init_pkg`. -/
def doClientFeedback (t : ServerTunnel σ) (data : List UInt8) : ServerTunnel σ :=
  let d := tunnelCipherServerDecrypt pl t.cipher data
  let t := ({ t with cipher := d.state } : ServerTunnel σ).assert d.receipt.isNone
  match d.result with
  | none => t.shutdown
  | some [] => t.shutdown
  | some r =>
    let t := { t with initPkg := bufferConcatenate t.initPkg r }
    match d.confirm with
    | some confirm => t.writeClient confirm .confirmDone
    | none => doPrepareParse net t

/-- `do_next` after a read of the client's socket. -/
def incomingReadDone (t : ServerTunnel σ) (data : List UInt8) : ServerTunnel σ :=
  match t.stage with
  | .initial => doInitPackage pl net t data
  | .clientFeedback => doClientFeedback pl net t data
  | _ => t.assert false

/-- `do_next` after a write to the client's socket: after the receipt the socket is read
again, after the confirmation the address is parsed. -/
def incomingWriteDone (t : ServerTunnel σ) : ServerTunnel σ :=
  match t.stage with
  | .receiptDone => { t with incomingReading := true, stage := .clientFeedback }
  | .confirmDone => doPrepareParse net t
  | _ => t.assert false

/-- What libuv may deliver on the client's socket: a read while it is read, the completion
of a write. -/
inductive ServerEvent where
  | clientRead (data : List UInt8)
  | clientWritten

def serverMachine : Machine (ServerTunnel σ) ServerEvent where
  enabled t e :=
    t.terminated = false ∧ t.faulted = false ∧
      match e with
      | .clientRead data => t.incomingReading = true ∧ data ≠ []
      | .clientWritten => t.incomingWriting = true
  step t e :=
    match e with
    | .clientRead data =>
      incomingReadDone pl net { t with incomingReading := false, clientReads := t.clientReads ++ [data] }
        data
    | .clientWritten => incomingWriteDone net { t with incomingWriting := false }

/-- The tunnel as `_init_done_cb` leaves it, reading the client, with the cipher context
`tunnel_cipher_create` makes on the first read. -/
def ServerTunnel.start (st₀ : σ) : ServerTunnel σ :=
  ⟨.initial, st₀, bufferCreate ssrBuffSize, .zero, [], true, false, false, false, false, [], []⟩

/-! ## The server without plugins -/

/-- The cipher environment of method `none`: no table, no key and no IV. -/
def noneEnv : Encrypt.CipherEnv Unit := ⟨[], [], [], 0, .none, ()⟩

/-- The pipeline of a server configured with protocol `origin`, obfs `plain` and method
`none`: no plugins, and `ss_decrypt` and `ss_encrypt` with no context (`tunnel_cipher_create`
makes none for method `none`), which call no library. -/
def originPlainNone : ServerPipeline Unit where
  obfs := none
  protocol := none
  ssDecrypt st buf :=
    match Encrypt.ssDecrypt Encrypt.idleLib noneEnv (bufferCreateFrom buf) none with
    | .ok d => (st, d.plain)
    | .error _ => (st, none)
  ssEncrypt st buf := (st, (Encrypt.ssEncrypt Encrypt.idleLib noneEnv buf none).1)

theorem ssDecrypt_of_none {τ κ : Type} (lib : Encrypt.CipherLib τ κ) {env : Encrypt.CipherEnv κ}
    (hnone : env.encMethod = .none) (cipher : Buffer) :
    Encrypt.ssDecrypt lib env cipher none = pure ⟨some cipher.data, none, env.ivCache⟩ := by
  simp [Encrypt.ssDecrypt, hnone]

theorem originPlainNone_ssDecrypt (st : Unit) (buf : List UInt8) :
    originPlainNone.ssDecrypt st buf = (st, some buf) := by
  simp only [originPlainNone, ssDecrypt_of_none _ (show noneEnv.encMethod = .none from rfl),
    bufferCreateFrom_data]
  rfl

theorem tunnelCipherServerDecrypt_originPlainNone (st : Unit) (buf : List UInt8) :
    tunnelCipherServerDecrypt originPlainNone st buf = ⟨st, some buf, none, none⟩ := by
  unfold tunnelCipherServerDecrypt serverDecryptRest
  have hd := originPlainNone_ssDecrypt st buf
  by_cases hb : 0 < buf.length
  · simp [originPlainNone, hb] at hd ⊢
    simp [hd]
  · simp [originPlainNone, hb]

/-- A system that reads no name as an address and has resolved none, and whose connects
start. -/
def sampleNet : Net := ⟨fun _ => false, fun _ => false, true⟩

/-! ## What a step can do -/

section Steps

variable {σ : Type} (pl : ServerPipeline σ) (net : Net)

@[simp] theorem ServerTunnel.assert_true (t : ServerTunnel σ) : t.assert true = t := by
  simp [ServerTunnel.assert]

/-- The frame of the address stages: they start no read or write of the client's socket
and record no read. -/
def Keeps (t t' : ServerTunnel σ) : Prop :=
  t'.incomingReading = t.incomingReading ∧ t'.incomingWriting = t.incomingWriting ∧
    t'.clientReads = t.clientReads

theorem doConnectHostStart_keeps (t : ServerTunnel σ) : Keeps t (doConnectHostStart net t) := by
  unfold doConnectHostStart
  split <;> exact ⟨rfl, rfl, rfl⟩

theorem doParse_keeps (t : ServerTunnel σ) (pkg : List UInt8) : Keeps t (doParse net t pkg) := by
  unfold doParse
  split
  · exact ⟨rfl, rfl, rfl⟩
  · dsimp only
    split
    · exact doConnectHostStart_keeps net _
    · exact doConnectHostStart_keeps net _
    · split
      · exact doConnectHostStart_keeps net _
      · split <;> exact ⟨rfl, rfl, rfl⟩

theorem doPrepareParse_keeps (t : ServerTunnel σ) : Keeps t (doPrepareParse net t) := by
  unfold doPrepareParse
  split
  · exact ⟨rfl, rfl, rfl⟩
  · split
    · exact ⟨rfl, rfl, rfl⟩
    · split
      · exact ⟨rfl, rfl, rfl⟩
      · exact doParse_keeps net _ _

/-- With neither a receipt nor a confirmation, `do_init_package` parses the address from the
result at once. -/
theorem doInitPackage_of_result {t : ServerTunnel σ} {data r : List UInt8}
    (hd : tunnelCipherServerDecrypt pl t.cipher data =
      ⟨(tunnelCipherServerDecrypt pl t.cipher data).state, some r, none, none⟩) :
    doInitPackage pl net t data =
      doPrepareParse net { t with cipher := (tunnelCipherServerDecrypt pl t.cipher data).state,
                                  initPkg := bufferStore t.initPkg r } := by
  unfold doInitPackage
  rw [hd]
  simp only [Option.isSome_some, ServerTunnel.assert_true]

end Steps

/-! ## What every run keeps -/

section Stages

variable {σ : Type} (pl : ServerPipeline σ) (net : Net)

@[simp] theorem doConnectHostStart_stage (t : ServerTunnel σ) :
    (doConnectHostStart net t).stage = .connectHost := by
  unfold doConnectHostStart
  split <;> rfl

/-- Where the address stages leave a tunnel: in `resolve_host` or `connect_host`, or shut down
or faulted in the stage it was in; the client's socket as it was. -/
def Parsed (t t' : ServerTunnel σ) : Prop :=
  Keeps t t' ∧ (t'.stage = .resolveHost ∨ t'.stage = .connectHost ∨
    (t'.stage = t.stage ∧ (t'.terminated = true ∨ t'.faulted = true)))

/-- `Parsed` from a tunnel that agrees with `t` on its stage and its socket. -/
theorem Parsed.of_same {t t₁ t' : ServerTunnel σ} (hs : t₁.stage = t.stage) (hk : Keeps t t₁)
    (h : Parsed t₁ t') : Parsed t t' := by
  obtain ⟨⟨hr, hw, hc⟩, hst⟩ := h
  refine ⟨⟨hr.trans hk.1, hw.trans hk.2.1, hc.trans hk.2.2⟩, ?_⟩
  rw [hs] at hst
  exact hst

theorem doParse_parsed (t : ServerTunnel σ) (pkg : List UInt8) : Parsed t (doParse net t pkg) := by
  refine ⟨doParse_keeps net t pkg, ?_⟩
  unfold doParse
  split
  · exact .inr (.inr ⟨rfl, .inl rfl⟩)
  · dsimp only
    split
    · exact .inr (.inl (doConnectHostStart_stage net _))
    · exact .inr (.inl (doConnectHostStart_stage net _))
    · split
      · exact .inr (.inl (doConnectHostStart_stage net _))
      · split
        · exact .inl rfl
        · exact .inr (.inr ⟨rfl, .inl rfl⟩)

theorem doPrepareParse_parsed (t : ServerTunnel σ) : Parsed t (doPrepareParse net t) := by
  unfold doPrepareParse
  split
  · exact ⟨⟨rfl, rfl, rfl⟩, .inr (.inr ⟨rfl, .inr rfl⟩)⟩
  · split
    · exact ⟨⟨rfl, rfl, rfl⟩, .inr (.inr ⟨rfl, .inl rfl⟩)⟩
    · split
      · exact ⟨⟨rfl, rfl, rfl⟩, .inr (.inr ⟨rfl, .inl rfl⟩)⟩
      · exact doParse_parsed net t _

/-- Where a handler of a read leaves a tunnel: its reads recorded and its socket's read as they
were, and either a write to the client in one of the stages `W` allows, or what `Parsed` says. -/
def Handled (W : Stage → Prop) (t t' : ServerTunnel σ) : Prop :=
  t'.clientReads = t.clientReads ∧ t'.incomingReading = t.incomingReading ∧
    ((W t'.stage ∧ t'.incomingWriting = true) ∨ Parsed t t')

theorem writeClient_handled {W : Stage → Prop} {t t₁ : ServerTunnel σ} (hk : Keeps t t₁)
    (data : List UInt8) {stage : Stage} (hW : W stage) : Handled W t (t₁.writeClient data stage) :=
  ⟨hk.2.2, hk.1, .inl ⟨hW, rfl⟩⟩

theorem Parsed.handled {W : Stage → Prop} {t t' : ServerTunnel σ} (h : Parsed t t') : Handled W t t' :=
  ⟨h.1.2.2, h.1.1, .inr h⟩

/-- `do_init_package` writes the receipt or the confirmation, or parses the address. -/
theorem doInitPackage_handled (t : ServerTunnel σ) (data : List UInt8) :
    Handled (fun st => st = .receiptDone ∨ st = .confirmDone) t (doInitPackage pl net t data) := by
  unfold doInitPackage
  dsimp only
  split
  · refine writeClient_handled ?_ _ (.inl rfl)
    exact ⟨rfl, rfl, rfl⟩
  · split
    · refine writeClient_handled ?_ _ (.inr rfl)
      exact ⟨rfl, rfl, rfl⟩
    · refine Parsed.handled (Parsed.of_same ?_ ?_ (doPrepareParse_parsed net _))
      · rfl
      · exact ⟨rfl, rfl, rfl⟩

/-- `do_client_feedback` shuts the tunnel down, writes the confirmation, or parses the
address; it writes no receipt. -/
theorem doClientFeedback_handled (t : ServerTunnel σ) (data : List UInt8) :
    Handled (· = .confirmDone) t (doClientFeedback pl net t data) := by
  unfold doClientFeedback
  dsimp only
  split
  · exact Parsed.handled ⟨⟨rfl, rfl, rfl⟩, .inr (.inr ⟨rfl, .inl rfl⟩)⟩
  · exact Parsed.handled ⟨⟨rfl, rfl, rfl⟩, .inr (.inr ⟨rfl, .inl rfl⟩)⟩
  · split
    · refine writeClient_handled ?_ _ rfl
      exact ⟨rfl, rfl, rfl⟩
    · refine Parsed.handled (Parsed.of_same ?_ ?_ (doPrepareParse_parsed net _))
      · rfl
      · exact ⟨rfl, rfl, rfl⟩

/-- What a live tunnel's stage says of the client's socket and of the reads taken: a read is
awaited in `initial` and `client_feedback` and nowhere else, a write is pending in
`receipt_done` and `confirm_done`, and neither once the address is parsed. -/
def Live (t : ServerTunnel σ) : Prop :=
  match t.stage with
  | .initial => t.clientReads = [] ∧ t.incomingReading = true ∧ t.incomingWriting = false
  | .receiptDone => t.clientReads.length = 1 ∧ t.incomingReading = false ∧ t.incomingWriting = true
  | .clientFeedback => t.clientReads.length = 1 ∧ t.incomingReading = true ∧ t.incomingWriting = false
  | .confirmDone => t.incomingReading = false ∧ t.incomingWriting = true
  | .resolveHost | .connectHost => t.incomingReading = false ∧ t.incomingWriting = false

/-- Every state a server tunnel reaches: at most two reads of the client, and a live tunnel as
`Live` says. -/
def Inv (t : ServerTunnel σ) : Prop :=
  t.clientReads.length ≤ 2 ∧ (t.terminated = false → t.faulted = false → Live t)

/-- The address stages, from a tunnel whose socket is idle, leave a live tunnel idle. -/
theorem Parsed.live {t t' : ServerTunnel σ} (h : Parsed t t') (hr : t.incomingReading = false)
    (hw : t.incomingWriting = false) (hterm : t'.terminated = false) (hfault : t'.faulted = false) :
    Live t' := by
  obtain ⟨⟨hr', hw', -⟩, hst⟩ := h
  rcases hst with hst | hst | ⟨-, hst | hst⟩
  · simp only [Live, hst]; exact ⟨hr'.trans hr, hw'.trans hw⟩
  · simp only [Live, hst]; exact ⟨hr'.trans hr, hw'.trans hw⟩
  · simp [hst] at hterm
  · simp [hst] at hfault

/-- A read of the client: in `initial` it is the first, in `client_feedback` the second. -/
theorem inv_clientRead {t : ServerTunnel σ} (hi : Inv t) {data : List UInt8}
    (he : (serverMachine pl net).enabled t (.clientRead data)) :
    Inv ((serverMachine pl net).step t (.clientRead data)) := by
  obtain ⟨hterm, hfault, hread, -⟩ := he
  have hlive := hi.2 hterm hfault
  let t₁ : ServerTunnel σ := { t with incomingReading := false, clientReads := t.clientReads ++ [data] }
  have hstep : (serverMachine pl net).step t (.clientRead data) = incomingReadDone pl net t₁ data := rfl
  rw [hstep]
  unfold Live at hlive
  cases hs : t.stage with
  | initial =>
    simp only [hs] at hlive
    obtain ⟨hreads, -, hwr⟩ := hlive
    have hdone : incomingReadDone pl net t₁ data = doInitPackage pl net t₁ data := by
      simp only [incomingReadDone, t₁, hs]
    obtain ⟨hr', hrd', hout⟩ := doInitPackage_handled pl net t₁ data
    rw [hdone]
    refine ⟨by rw [hr']; simp [t₁, hreads], fun hterm' hfault' => ?_⟩
    rcases hout with ⟨hst | hst, hw'⟩ | hp
    · simp only [Live, hst]; exact ⟨by rw [hr']; simp [t₁, hreads], hrd', hw'⟩
    · simp only [Live, hst]; exact ⟨hrd', hw'⟩
    · exact hp.live rfl hwr hterm' hfault'
  | clientFeedback =>
    simp only [hs] at hlive
    obtain ⟨hreads, -, hwr⟩ := hlive
    have hdone : incomingReadDone pl net t₁ data = doClientFeedback pl net t₁ data := by
      simp only [incomingReadDone, t₁, hs]
    obtain ⟨hr', hrd', hout⟩ := doClientFeedback_handled pl net t₁ data
    rw [hdone]
    refine ⟨by rw [hr']; simp [t₁, hreads], fun hterm' hfault' => ?_⟩
    rcases hout with ⟨hst, hw'⟩ | hp
    · simp only [Live, hst]; exact ⟨hrd', hw'⟩
    · exact hp.live rfl hwr hterm' hfault'
  | receiptDone => simp only [hs] at hlive; simp [hlive.2.1] at hread
  | confirmDone => simp only [hs] at hlive; simp [hlive.1] at hread
  | resolveHost => simp only [hs] at hlive; simp [hlive.1] at hread
  | connectHost => simp only [hs] at hlive; simp [hlive.1] at hread

/-- A write to the client done: after the receipt the second read is awaited, after the
confirmation the address is parsed. -/
theorem inv_clientWritten {t : ServerTunnel σ} (hi : Inv t)
    (he : (serverMachine pl net).enabled t .clientWritten) :
    Inv ((serverMachine pl net).step t .clientWritten) := by
  obtain ⟨hterm, hfault, hwrite⟩ := he
  have hlive := hi.2 hterm hfault
  let t₁ : ServerTunnel σ := { t with incomingWriting := false }
  have hstep : (serverMachine pl net).step t .clientWritten = incomingWriteDone net t₁ := rfl
  rw [hstep]
  unfold Live at hlive
  cases hs : t.stage with
  | receiptDone =>
    simp only [hs] at hlive
    obtain ⟨hreads, -, -⟩ := hlive
    have hdone : incomingWriteDone net t₁ = { t₁ with incomingReading := true, stage := .clientFeedback } := by
      simp only [incomingWriteDone, t₁, hs]
    rw [hdone]
    exact ⟨by simp [t₁, hreads], fun _ _ => ⟨hreads, rfl, rfl⟩⟩
  | confirmDone =>
    simp only [hs] at hlive
    have hdone : incomingWriteDone net t₁ = doPrepareParse net t₁ := by simp only [incomingWriteDone, t₁, hs]
    have hp := doPrepareParse_parsed net t₁
    rw [hdone]
    exact ⟨hp.1.2.2 ▸ hi.1, fun hterm' hfault' => hp.live hlive.1 rfl hterm' hfault'⟩
  | initial => simp only [hs] at hlive; simp [hlive.2.2] at hwrite
  | clientFeedback => simp only [hs] at hlive; simp [hlive.2.2] at hwrite
  | resolveHost => simp only [hs] at hlive; simp [hlive.2] at hwrite
  | connectHost => simp only [hs] at hlive; simp [hlive.2] at hwrite

theorem inv_start (st₀ : σ) : Inv (ServerTunnel.start st₀) := by
  simp [Inv, Live, ServerTunnel.start]

/-- Every state a server tunnel reaches from its start. -/
theorem inv_reach {st₀ : σ} {t : ServerTunnel σ}
    (ht : (serverMachine pl net).Reach (· = .start st₀) t) : Inv t := by
  refine Machine.Reach.inv Inv (fun _ h => by subst h; exact inv_start st₀) ?_ ht
  intro s e _ hi he
  cases e with
  | clientRead data => exact inv_clientRead pl net hi he
  | clientWritten => exact inv_clientWritten pl net hi he

/-- **The handshake reads the client at most twice.** Whatever the plugins, a server tunnel
takes the first read, and a second one only after an obfs receipt, before it parses the
address. -/
theorem server_reads_the_client_at_most_twice {st₀ : σ} {t : ServerTunnel σ}
    (ht : (serverMachine pl net).Reach (· = .start st₀) t) : t.clientReads.length ≤ 2 :=
  (inv_reach pl net ht).1

theorem first_read_is_within_two :
    ((serverMachine originPlainNone sampleNet).step (.start ()) (.clientRead [5])).clientReads.length ≤ 2 :=
  server_reads_the_client_at_most_twice originPlainNone sampleNet (.step _ (.init rfl) ⟨rfl, rfl, rfl, by simp⟩)

/-- **Every event meets a stage that handles it.** In every run, whatever the plugins, a read of
the client comes in `initial` or `client_feedback` and a write to it completes in
`receipt_done` or `confirm_done`: the `ASSERT(0)` branches of `do_next` are never taken. -/
theorem server_events_meet_their_stages {st₀ : σ} {t : ServerTunnel σ}
    (ht : (serverMachine pl net).Reach (· = .start st₀) t) {e : ServerEvent}
    (he : (serverMachine pl net).enabled t e) :
    (∀ data, e = .clientRead data → t.stage = .initial ∨ t.stage = .clientFeedback) ∧
      (e = .clientWritten → t.stage = .receiptDone ∨ t.stage = .confirmDone) := by
  have hlive := (inv_reach pl net ht).2 he.1 he.2.1
  unfold Live at hlive
  cases e with
  | clientRead data =>
    refine ⟨fun _ _ => ?_, (fun h => by cases h)⟩
    have hread : t.incomingReading = true := he.2.2.1
    cases hs : t.stage <;> simp only [hs] at hlive <;> simp_all
  | clientWritten =>
    refine ⟨(fun _ h => by cases h), fun _ => ?_⟩
    have hwrite : t.incomingWriting = true := he.2.2
    cases hs : t.stage <;> simp only [hs] at hlive <;> simp_all

theorem first_read_meets_initial :
    (∀ data, ServerEvent.clientRead [5] = .clientRead data →
        (ServerTunnel.start ()).stage = .initial ∨ (ServerTunnel.start ()).stage = .clientFeedback) ∧
      (ServerEvent.clientRead [5] = .clientWritten →
        (ServerTunnel.start ()).stage = .receiptDone ∨ (ServerTunnel.start ()).stage = .confirmDone) :=
  server_events_meet_their_stages originPlainNone sampleNet (.init rfl) ⟨rfl, rfl, rfl, by simp⟩

end Stages

/-! ## A header cut short -/

theorem byteAt_of_take_eq {mem l : List UInt8} {k i : Nat} (hmem : mem.take k = l.take k)
    (hlen : k ≤ mem.length) (hl : k ≤ l.length) (hi : i < k) : byteAt mem i = byteAt l i := by
  rw [← byteAt_of_prefix_lt (List.take_prefix k mem) (by simp; omega), hmem,
    byteAt_of_prefix_lt (List.take_prefix k l) (by simp; omega)]

/-- The three shapes of a relay header: its type byte and its length. -/
def HeaderShape (h : List UInt8) : Prop :=
  (byteAt h 0 = 1 ∧ h.length = 7) ∨ (byteAt h 0 = 3 ∧ h.length = 4 + (byteAt h 1).toNat) ∨
    (byteAt h 0 = 4 ∧ h.length = 19)

theorem initialPackageCreate_shape {cx : S5.S5Ctx} (hatyp : cx.atyp ≠ none) :
    HeaderShape (SockAddr.initialPackageCreate cx) := by
  cases ha : cx.atyp with
  | none => exact absurd ha hatyp
  | some a =>
    cases a with
    | ipv4 => exact .inl ⟨by simp [SockAddr.initialPackageCreate, ha, S5.S5Atyp.code],
        by simp [SockAddr.initialPackageCreate, ha]⟩
    | host => exact .inr (.inl ⟨by simp [SockAddr.initialPackageCreate, ha, S5.S5Atyp.code],
        by simp [SockAddr.initialPackageCreate, ha]; omega⟩)
    | ipv6 => exact .inr (.inr ⟨by simp [SockAddr.initialPackageCreate, ha, S5.S5Atyp.code],
        by simp [SockAddr.initialPackageCreate, ha]⟩)

theorem HeaderShape.type_mem {h : List UInt8} (hh : HeaderShape h) : byteAt h 0 ∈ [1, 3, 4] := by
  rcases hh with ⟨g, -⟩ | ⟨g, -⟩ | ⟨g, -⟩ <;> simp [g]

/-- A proper prefix of a header does not parse, whatever the allocation holds past it. -/
theorem socks5AddressParse_of_prefix {h mem : List UInt8} {k : Nat} (hh : HeaderShape h)
    (hk : k < h.length) (hlen : k ≤ mem.length) (hmem : mem.take k = h.take k)
    (addr : SockAddr.Socks5Address) :
    (SockAddr.socks5AddressParse mem k addr).ok = false := by
  cases hok : (SockAddr.socks5AddressParse mem k addr).ok with
  | false => rfl
  | true =>
    exfalso
    have hc := SockAddr.socks5AddressParse_ok_cases hok
    have hk1 : 1 < k := by rcases hc with ⟨-, h⟩ | ⟨-, h⟩ | ⟨-, h⟩ <;> omega
    have h0 := byteAt_of_take_eq hmem hlen (by omega) (show 0 < k by omega)
    have h1 := byteAt_of_take_eq hmem hlen (by omega) hk1
    rw [h0, h1] at hc
    rcases hh with ⟨g, gl⟩ | ⟨g, gl⟩ | ⟨g, gl⟩ <;> rw [g] at hc <;> simp at hc <;> omega

theorem HeaderShape.four_le {h : List UInt8} (hh : HeaderShape h) : 4 ≤ h.length := by
  rcases hh with ⟨-, g⟩ | ⟨-, g⟩ | ⟨-, g⟩ <;> omega

/-- `init_pkg` starting with a legal type: `pre_parse_header` leaves it, and what follows is
the completeness check. -/
theorem doPrepareParse_of_type {σ : Type} (net : Net) {t : ServerTunnel σ} (hpos : 0 < t.initPkg.len)
    (htype : byteAt t.initPkg.mem 0 ∈ [1, 3, 4]) :
    doPrepareParse net t =
      if isHeaderComplete t.initPkg.mem t.initPkg.len then doParse net t t.initPkg.data
      else t.shutdown := by
  have hpre : preParseHeader t.initPkg = some ⟨true, t.initPkg.mem, t.initPkg.len⟩ :=
    preParseHeader_other hpos (by simp at htype ⊢; rcases htype with h | h | h <;> simp [h])
  have hlegal : isLegalHeader t.initPkg.mem = true := by
    simp only [isLegalHeader]
    simpa using htype
  unfold doPrepareParse
  rw [hpre]
  cases hc : isHeaderComplete t.initPkg.mem t.initPkg.len <;> simp [hlegal, hc, PreParsed.data, Buffer.data]

theorem init_pkg_len_le_mem {σ : Type} (t : ServerTunnel σ) : t.initPkg.len ≤ t.initPkg.mem.length := by
  rw [t.initPkg.mem_length]; have := t.initPkg.len_le; omega

/-- `init_pkg` holding a nonempty proper prefix of a header: `pre_parse_header` leaves it, the
type is legal, the header is not complete, and the tunnel is shut down. -/
theorem doPrepareParse_of_prefix {σ : Type} (net : Net) {t : ServerTunnel σ} {h : List UInt8}
    (hh : HeaderShape h) (hpos : 0 < t.initPkg.len) (hk : t.initPkg.len < h.length)
    (hdata : t.initPkg.data = h.take t.initPkg.len) :
    doPrepareParse net t = t.shutdown := by
  have hmem : t.initPkg.mem.take t.initPkg.len = h.take t.initPkg.len := hdata
  have hlen := init_pkg_len_le_mem t
  have h0 : byteAt t.initPkg.mem 0 = byteAt h 0 := byteAt_of_take_eq hmem hlen (by omega) hpos
  have hinc : isHeaderComplete t.initPkg.mem t.initPkg.len = false :=
    socks5AddressParse_of_prefix hh hk hlen hmem _
  rw [doPrepareParse_of_type net hpos (h0 ▸ hh.type_mem), hinc]
  rfl

/-! ## A whole header -/

/-- A header parses from any memory that starts with it, for any length that covers it. -/
theorem socks5AddressParse_of_shape {h mem : List UInt8} {len : Nat} (hh : HeaderShape h)
    (hk : h.length ≤ len) (hlen : h.length ≤ mem.length) (hmem : mem.take h.length = h)
    (addr : SockAddr.Socks5Address) :
    (SockAddr.socks5AddressParse mem len addr).ok = true := by
  have hb : ∀ i < h.length, byteAt mem i = byteAt h i := fun i hi =>
    byteAt_of_take_eq (by rw [hmem, List.take_length]) hlen le_rfl hi
  rcases hh with ⟨g, gl⟩ | ⟨g, gl⟩ | ⟨g, gl⟩
  · rw [SockAddr.socks5AddressParse_ipv4 addr ((hb 0 (by omega)).trans g) (by omega)]
  · rw [SockAddr.socks5AddressParse_domainname addr ((hb 0 (by omega)).trans g)
      (by rw [hb 1 (by omega)]; omega)]
  · rw [SockAddr.socks5AddressParse_ipv6 addr ((hb 0 (by omega)).trans g) (by omega)]

/-- `init_pkg` starting with a whole header: `pre_parse_header` leaves it, the checks pass, and
`do_parse` gets all of its contents. -/
theorem doPrepareParse_of_header {σ : Type} (net : Net) {t : ServerTunnel σ} {h : List UInt8}
    (hh : HeaderShape h) (hk : h.length ≤ t.initPkg.len) (hdata : t.initPkg.data.take h.length = h) :
    doPrepareParse net t = doParse net t t.initPkg.data := by
  have hlen := init_pkg_len_le_mem t
  have hmem : t.initPkg.mem.take h.length = h :=
    calc t.initPkg.mem.take h.length = (t.initPkg.mem.take t.initPkg.len).take h.length := by
          rw [List.take_take, Nat.min_eq_left hk]
      _ = h := hdata
  have h4 := hh.four_le
  have h0 : byteAt t.initPkg.mem 0 = byteAt h 0 :=
    byteAt_of_take_eq (by rw [hmem, List.take_length]) (by omega) le_rfl (by omega)
  have hcomplete : isHeaderComplete t.initPkg.mem t.initPkg.len = true :=
    socks5AddressParse_of_shape hh hk (by omega) hmem _
  rw [doPrepareParse_of_type net (by omega) (h0 ▸ hh.type_mem), hcomplete, if_pos rfl]

theorem getS5HeadSize_of_shape {h : List UInt8} (hh : HeaderShape h) (rest : List UInt8) :
    getS5HeadSize (h ++ rest) 0 = h.length := by
  have h4 := hh.four_le
  have h0 : byteAt (h ++ rest) 0 = byteAt h 0 := byteAt_append_left (by omega)
  have h1 : byteAt (h ++ rest) 1 = byteAt h 1 := byteAt_append_left (by omega)
  have hl : ¬ (h ++ rest).length < 2 := by simp; omega
  unfold getS5HeadSize
  rw [if_neg hl, h0, h1]
  rcases hh with ⟨g, gl⟩ | ⟨g, gl⟩ | ⟨g, gl⟩ <;> rw [g, gl] <;> rfl

/-- The name `initial_package_create` writes holds no 0. -/
theorem initialPackageCreate_name {cx : S5.S5Ctx} (hhost : cx.atyp = some .host)
    (hname : strlen cx.daddr.toList ≤ 255) (payload : List UInt8) :
    let pkg := SockAddr.initialPackageCreate cx ++ payload
    NoNul ((pkg.drop 2).take (byteAt pkg 1).toNat) := by
  intro pkg
  have hLb : (strlen cx.daddr.toList).toUInt8.toNat = strlen cx.daddr.toList := by simp; omega
  have h1 : byteAt pkg 1 = (strlen cx.daddr.toList).toUInt8 := by
    simp [pkg, SockAddr.initialPackageCreate, hhost]
  have hlen : (cx.daddr.toList.take (strlen cx.daddr.toList)).length = strlen cx.daddr.toList := by
    simp; omega
  have hdrop : pkg.drop 2 = cx.daddr.toList.take (strlen cx.daddr.toList) ++
      (be16 cx.dport ++ payload) := by
    simp [pkg, SockAddr.initialPackageCreate, hhost, hLb]
  rw [h1, hLb, hdrop, List.take_left' hlen, take_strlen]
  exact noNul_cstr _

/-- The server parses the header `initial_package_create` made into an address that, written back
by `socks5_address_binary`, is that header, and keeps the payload after it. -/
theorem initialPackageCreate_parses {cx : S5.S5Ctx} (hatyp : cx.atyp ≠ none)
    (hname : cx.atyp = some .host → strlen cx.daddr.toList ≤ 255) (payload : List UInt8) :
    ∃ addr, SockAddr.doParse (SockAddr.initialPackageCreate cx ++ payload) = some (addr, payload) ∧
      SockAddr.socks5AddressBinary addr (SockAddr.initialPackageCreate cx).length =
        some (SockAddr.initialPackageCreate cx) := by
  have hh := initialPackageCreate_shape hatyp
  have hsz := getS5HeadSize_of_shape hh payload
  have hok : (SockAddr.socks5AddressParse (SockAddr.initialPackageCreate cx ++ payload)
      (SockAddr.initialPackageCreate cx ++ payload).length .zero).ok = true :=
    socks5AddressParse_of_shape hh (by simp) (by simp) (List.take_left' rfl) _
  -- the type byte 3 is written for a host name only
  have hnul : byteAt (SockAddr.initialPackageCreate cx ++ payload) 0 = 3 →
      NoNul (((SockAddr.initialPackageCreate cx ++ payload).drop 2).take
        (byteAt (SockAddr.initialPackageCreate cx ++ payload) 1).toNat) := by
    intro h3
    cases ha : cx.atyp with
    | none => exact absurd ha hatyp
    | some a =>
      cases a with
      | host => exact initialPackageCreate_name ha (hname ha) payload
      | ipv4 => simp [SockAddr.initialPackageCreate, ha, S5.S5Atyp.code] at h3
      | ipv6 => simp [SockAddr.initialPackageCreate, ha, S5.S5Atyp.code] at h3
  obtain ⟨hsize, hbin⟩ := @SockAddr.socks5AddressParse_header _ _ SockAddr.Socks5Address.zero le_rfl hok hnul
  rw [hsz] at hsize hbin
  refine ⟨_, ?_, by rw [hbin, List.take_left' rfl]⟩
  simp only [SockAddr.doParse, hok, if_true, hsize, List.drop_left' rfl]

/-- `socks5_address_binary` writes the address's type first. -/
theorem socks5AddressBinary_head {a : SockAddr.Socks5Address} {size : Nat} {b : List UInt8}
    (hb : SockAddr.socks5AddressBinary a size = some b) : byteAt b 0 = a.addrType.code := by
  unfold SockAddr.socks5AddressBinary at hb
  split_ifs at hb
  obtain ⟨body, -, rfl⟩ := Option.map_eq_some_iff.mp hb
  rfl

section Parse

variable {σ : Type} (net : Net)

theorem doConnectHostStart_fields (t : ServerTunnel σ) :
    (doConnectHostStart net t).desiredAddr = t.desiredAddr ∧
      (doConnectHostStart net t).payload = t.payload ∧ (doConnectHostStart net t).cipher = t.cipher := by
  unfold doConnectHostStart
  split <;> exact ⟨rfl, rfl, rfl⟩

theorem doConnectHostStart_terminated (t : ServerTunnel σ) :
    (doConnectHostStart net t).terminated = (t.terminated || !net.connects) := by
  unfold doConnectHostStart
  split <;> simp_all [ServerTunnel.assert, ServerTunnel.shutdown]

/-- Whatever becomes of the tunnel, `do_parse` has stored the address and what follows it. -/
theorem doParse_fields (t : ServerTunnel σ) {pkg rest : List UInt8} {addr : SockAddr.Socks5Address}
    (hp : SockAddr.doParse pkg = some (addr, rest)) :
    (doParse net t pkg).desiredAddr = addr ∧ (doParse net t pkg).payload = rest ∧
      (doParse net t pkg).cipher = t.cipher := by
  unfold doParse
  rw [hp]
  dsimp only
  split
  · exact doConnectHostStart_fields net _
  · exact doConnectHostStart_fields net _
  · split
    · exact doConnectHostStart_fields net _
    · split <;> exact ⟨rfl, rfl, rfl⟩

/-- An IPv4 or IPv6 address is connected to at once. -/
theorem doParse_of_ip (t : ServerTunnel σ) {pkg rest : List UInt8} {addr : SockAddr.Socks5Address}
    (hp : SockAddr.doParse pkg = some (addr, rest))
    (hip : addr.addrType = .ipv4 ∨ addr.addrType = .ipv6) :
    doParse net t pkg = doConnectHostStart net { t with desiredAddr := addr, payload := rest } := by
  unfold doParse
  rw [hp]
  rcases hip with h | h <;> simp only [h]

end Parse

theorem Socks5Addrtype.ip_of_code {a : SockAddr.Socks5Addrtype} (h : a.code = 1 ∨ a.code = 4) :
    a = .ipv4 ∨ a = .ipv6 := by
  cases a <;> simp [SockAddr.Socks5Addrtype.code] at h ⊢

section Connect

variable {σ : Type} (pl : ServerPipeline σ) (net : Net)

/-- **The server connects to the address the client sent.** Whatever the plugins, a first read
that decrypts, with no receipt or confirmation, to the header `initial_package_create` made and a
payload leaves the tunnel holding an address that `socks5_address_binary` writes back as that
header, and the payload after it; an IPv4 or IPv6 address is connected to at once. -/
theorem server_connects_to_the_address_the_client_sent {cx : S5.S5Ctx} (hatyp : cx.atyp ≠ none)
    (hname : cx.atyp = some .host → strlen cx.daddr.toList ≤ 255) {st₀ st : σ}
    {data payload : List UInt8}
    (hd : tunnelCipherServerDecrypt pl st₀ data =
      ⟨st, some (SockAddr.initialPackageCreate cx ++ payload), none, none⟩)
    {t : ServerTunnel σ} (ht : (serverMachine pl net).step (.start st₀) (.clientRead data) = t) :
    SockAddr.socks5AddressBinary t.desiredAddr (SockAddr.initialPackageCreate cx).length =
        some (SockAddr.initialPackageCreate cx) ∧ t.payload = payload ∧ t.cipher = st ∧
      (cx.atyp ≠ some .host → t.stage = .connectHost ∧ t.terminated = !net.connects) := by
  obtain ⟨addr, hp, hbin⟩ := initialPackageCreate_parses hatyp hname payload
  let t₁ : ServerTunnel σ := { ServerTunnel.start st₀ with incomingReading := false, clientReads := [data] }
  let t₂ : ServerTunnel σ :=
    { t₁ with cipher := st,
              initPkg := bufferStore t₁.initPkg (SockAddr.initialPackageCreate cx ++ payload) }
  -- the first read goes to `do_init_package`, which stores the result and parses it
  have hinit : (serverMachine pl net).step (.start st₀) (.clientRead data) = doInitPackage pl net t₁ data :=
    rfl
  have hd₁ : tunnelCipherServerDecrypt pl t₁.cipher data = ⟨(tunnelCipherServerDecrypt pl t₁.cipher data).state,
      some (SockAddr.initialPackageCreate cx ++ payload), none, none⟩ := by
    show tunnelCipherServerDecrypt pl st₀ data = ⟨(tunnelCipherServerDecrypt pl st₀ data).state, _, _, _⟩
    rw [hd]
  have hst : (tunnelCipherServerDecrypt pl t₁.cipher data).state = st := by
    show (tunnelCipherServerDecrypt pl st₀ data).state = st
    rw [hd]
  have hstep : (serverMachine pl net).step (.start st₀) (.clientRead data) =
      doParse net t₂ (SockAddr.initialPackageCreate cx ++ payload) := by
    rw [hinit, doInitPackage_of_result pl net hd₁, hst,
      doPrepareParse_of_header net (initialPackageCreate_shape hatyp) (by simp)
        (by simp only [data_bufferStore]; exact List.take_left' rfl)]
    simp only [data_bufferStore]
    rfl
  obtain ⟨haddr, hpay, hcip⟩ := doParse_fields net t₂ hp
  subst ht
  rw [hstep]
  refine ⟨by rw [haddr]; exact hbin, hpay, hcip, fun hhost => ?_⟩
  have hcode : addr.addrType.code = 1 ∨ addr.addrType.code = 4 := by
    rw [← socks5AddressBinary_head hbin]
    cases ha : cx.atyp with
    | none => exact absurd ha hatyp
    | some a =>
      cases a with
      | ipv4 => exact .inl (by simp [SockAddr.initialPackageCreate, ha, S5.S5Atyp.code])
      | ipv6 => exact .inr (by simp [SockAddr.initialPackageCreate, ha, S5.S5Atyp.code])
      | host => exact absurd ha hhost
  rw [doParse_of_ip net t₂ hp (Socks5Addrtype.ip_of_code hcode)]
  exact ⟨doConnectHostStart_stage net _, by rw [doConnectHostStart_terminated]; rfl⟩

end Connect

/-- A request to connect to 127.0.0.1, port 80. -/
def sampleRequest : S5.S5Ctx :=
  { S5.s5Init with atyp := some .ipv4, dport := 80, daddr := ⟨#[127, 0, 0, 1] ++ Array.replicate 253 0, by simp⟩ }

/-- The first read: the header and "GET". -/
def sampleFirstRead : List UInt8 := SockAddr.initialPackageCreate sampleRequest ++ [71, 69, 84]

theorem sample_request_is_connected :
    SockAddr.socks5AddressBinary
        ((serverMachine originPlainNone sampleNet).step (.start ()) (.clientRead sampleFirstRead)).desiredAddr
        (SockAddr.initialPackageCreate sampleRequest).length =
        some (SockAddr.initialPackageCreate sampleRequest) ∧
      ((serverMachine originPlainNone sampleNet).step (.start ()) (.clientRead sampleFirstRead)).payload =
        [71, 69, 84] ∧
      ((serverMachine originPlainNone sampleNet).step (.start ()) (.clientRead sampleFirstRead)).cipher = () ∧
      (sampleRequest.atyp ≠ some .host →
        ((serverMachine originPlainNone sampleNet).step (.start ()) (.clientRead sampleFirstRead)).stage =
          .connectHost ∧
        ((serverMachine originPlainNone sampleNet).step (.start ()) (.clientRead sampleFirstRead)).terminated =
          !sampleNet.connects) :=
  server_connects_to_the_address_the_client_sent originPlainNone sampleNet (by decide) (by decide)
    (tunnelCipherServerDecrypt_originPlainNone () sampleFirstRead) rfl

/-! ## The runs without plugins -/

section Runs

variable (net : Net)

/-- The tunnel after its first read, of `r`. -/
def afterFirstRead (r : List UInt8) : ServerTunnel Unit :=
  (serverMachine originPlainNone net).step (.start ()) (.clientRead r)

theorem afterFirstRead_eq (r : List UInt8) :
    afterFirstRead net r =
      doPrepareParse net { ServerTunnel.start () with incomingReading := false, clientReads := [r],
                                                      initPkg := bufferStore (bufferCreate ssrBuffSize) r } := by
  simp only [afterFirstRead, serverMachine, incomingReadDone, ServerTunnel.start, List.nil_append]
  rw [doInitPackage_of_result originPlainNone net (by rw [tunnelCipherServerDecrypt_originPlainNone])]

/-- Without plugins a run takes one read of the client and stops there: the address stages
read and write nothing more. -/
theorem reach_originPlainNone {t : ServerTunnel Unit}
    (ht : (serverMachine originPlainNone net).Reach (· = .start ()) t) :
    t = .start () ∨ ∃ r, t = afterFirstRead net r := by
  refine Machine.Reach.inv (fun t => t = .start () ∨ ∃ r, t = afterFirstRead net r)
    (fun _ h => .inl h) ?_ ht
  intro s e _ hs he
  rcases hs with rfl | ⟨r, rfl⟩
  · cases e with
    | clientRead data => exact .inr ⟨data, rfl⟩
    | clientWritten => exact absurd he.2.2 (by simp [ServerTunnel.start])
  · obtain ⟨hrd, hwr, -⟩ := doPrepareParse_keeps net { ServerTunnel.start () with
      incomingReading := false, clientReads := [r], initPkg := bufferStore (bufferCreate ssrBuffSize) r }
    rw [← afterFirstRead_eq] at hrd hwr
    cases e with
    | clientRead data => exact absurd he.2.2.1 (by simp [hrd])
    | clientWritten => exact absurd he.2.2 (by simp [hwr, ServerTunnel.start])

theorem afterFirstRead_clientReads (r : List UInt8) : (afterFirstRead net r).clientReads = [r] := by
  rw [afterFirstRead_eq]
  exact (doPrepareParse_keeps net _).2.2

theorem server_shuts_down_on_a_split_header {cx : S5.S5Ctx} (hatyp : cx.atyp ≠ none)
    (payload : List UInt8) {k : Nat} (hk0 : 0 < k) (hk : k < (SockAddr.initialPackageCreate cx).length)
    {t : ServerTunnel Unit} (ht : (serverMachine originPlainNone net).Reach (· = .start ()) t)
    (hfirst : t.clientReads.head? = some ((SockAddr.initialPackageCreate cx ++ payload).take k)) :
    t.terminated = true := by
  rcases reach_originPlainNone net ht with rfl | ⟨r, rfl⟩
  · simp [ServerTunnel.start] at hfirst
  · rw [afterFirstRead_clientReads] at hfirst
    simp only [List.head?_cons, Option.some.injEq] at hfirst
    subst hfirst
    -- what `init_pkg` holds is the first `k` bytes of the header
    have hpre : (SockAddr.initialPackageCreate cx ++ payload).take k =
        (SockAddr.initialPackageCreate cx).take k := List.take_append_of_le_length (by omega)
    have hlen : (bufferStore (bufferCreate ssrBuffSize)
        ((SockAddr.initialPackageCreate cx ++ payload).take k)).len = k := by
      simp only [bufferStore_len, List.length_take, List.length_append]
      omega
    rw [afterFirstRead_eq, doPrepareParse_of_prefix net (initialPackageCreate_shape hatyp)
      (by simp only [hlen]; omega) (by simp only [hlen]; omega)
      (by rw [hlen, data_bufferStore, hpre])]
    rfl

theorem sample_split_header_is_shut_down :
    (afterFirstRead sampleNet (sampleFirstRead.take 3)).terminated = true :=
  @server_shuts_down_on_a_split_header sampleNet sampleRequest (by decide) [71, 69, 84] 3 (by decide)
    (by decide +kernel) _ (.step _ (.init rfl) ⟨rfl, rfl, rfl, by decide +kernel⟩)
    (by rw [afterFirstRead_clientReads]; rfl)

end Runs

end ShadowsocksR.Server
