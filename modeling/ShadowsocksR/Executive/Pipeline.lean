/-
  ShadowsocksR.Executive.Pipeline — the cipher pipeline of `ssr_executive.c` with its plugins
  filled in: `tunnel_cipher_client_encrypt` on the client and `tunnel_cipher_server_decrypt`
  on the server, for protocol `auth_sha1_v4`, obfs `plain` and a stream cipher of
  `encrypt.c`, each side's `tunnel_cipher_ctx` as `tunnel_cipher_create` makes it.

  The client's call runs the protocol's `client_pre_encrypt` and then `ss_encrypt`; `plain`
  has no plugin. The server's call clones the read, takes its first `iv_len` bytes into the
  protocol's `recv_iv` while that begins with a 0 byte, runs `ss_decrypt` on the clone and
  then the protocol's `server_post_decrypt`, whose feedback it confirms with
  `tunnel_cipher_server_encrypt` of an empty buffer. `auth_sha1_v4` keys its header's
  HMAC with `recv_iv` and the key, so the server reads the header only if `recv_iv` holds
  the IV of the client's `e_ctx`, which `tunnel_cipher_create` gave the client's protocol as
  `server_info.iv`.

  Proved: the server's first read, when it holds the IV, sets `recv_iv` to the IV and keys
  `d_ctx` with it (`serverCall_first`); after it, as long as `recv_iv` does not begin with 0,
  each call is a call of two stacked layers, the cipher step of `ss_decrypt` and the
  protocol's receiver (`serverCall_stack`), so that the server's whole run is the receiver's
  run on what the cipher step makes of the reads (`runEach_serverCall`); the client sends its
  IV and then one cipher step over all its encoder writes (`clientCall_run_sends_iv`); and so
  (`sha1v4_pipeline_round_trip`) for every list of payloads the client's calls succeed, and
  every cut of what they send into reads, the first holding the IV, makes the server's calls
  hand on exactly the payloads, when the IV does not begin with 0, the server's IV cache has
  not seen it and every call of the client's encoder is within a day of the server's clock.
-/

import ShadowsocksR.Lib.Layers
import ShadowsocksR.Server.Handshake
import ShadowsocksR.Client.Feedback
import ShadowsocksR.Obfs.AuthSha1V4

namespace ShadowsocksR.Executive

open Framing Layers StreamCipher Bytes Encrypt AuthSha1V4 Server

/-! ## `tunnel_cipher_client_encrypt` -/

/-- The plugins of a client's `tunnel_cipher_ctx` as its encrypt path calls them, over one
state `σ`: the protocol's `client_pre_encrypt`, `ss_encrypt` (`none` for its -1) and the
obfs's `client_encode`. A plugin the tunnel does not have is `none`. -/
structure ClientEncryptPipeline (σ : Type) where
  protocolClientPreEncrypt : Option (σ → List UInt8 → σ × List UInt8)
  ssEncrypt : σ → List UInt8 → σ × Option (List UInt8)
  obfsClientEncode : Option (σ → List UInt8 → σ × List UInt8)

/-- `tunnel_cipher_client_encrypt(tc, buf)`: the new contents of `buf`, `none` for
`ssr_error_invalid_password`. -/
def tunnelCipherClientEncrypt {σ : Type} (pl : ClientEncryptPipeline σ) (st : σ) (buf : List UInt8) :
    σ × Option (List UInt8) :=
  let (st, buf) :=
    match pl.protocolClientPreEncrypt with
    | some pre => pre st buf
    | none => (st, buf)
  match pl.ssEncrypt st buf with
  | (st, none) => (st, none)
  | (st, some buf) =>
    match pl.obfsClientEncode with
    | some encode =>
      let (st, buf) := encode st buf
      (st, some buf)
    | none => (st, some buf)

/-! ## The two `tunnel_cipher_ctx`s -/

section Create

variable {τ κ : Type} (lib : CipherLib τ κ) (env : CipherEnv κ)

/-- The `server_info_t` `tunnel_cipher_create` hands the protocol: the cipher's key, the IV of
`e_ctx` (none without one), `recv_iv` cleared; the fields the configuration sets are `base`'s. -/
def createServerInfo (eCtx : Option (EncCtx τ)) (base : ServerInfo) : ServerInfo :=
  { base with iv := (eCtx.map (·.cipherCtx.iv)).getD [], recvIv := [], key := env.encKey }

/-- `e_ctx` and `d_ctx` as `tunnel_cipher_create` makes them: only for a method past `table`,
the encrypting one with an IV drawn from `e`. -/
def createCtxs (e : Entropy) : Option (EncCtx τ) × Option (EncCtx τ) × Entropy :=
  if 1 < env.encMethod.code then
    let (eCtx, e) := encCtxNewInstance lib env true e
    let (dCtx, e) := encCtxNewInstance lib env false e
    (some eCtx, some dCtx, e)
  else (none, none, e)

end Create

/-- A client's `tunnel_cipher_ctx` with protocol `auth_sha1_v4` and obfs `plain`: the
protocol's connection state and `server_info_t`, the process's cipher environment (whose IV
cache `ss_decrypt` fills), `e_ctx`, `d_ctx`, what the protocol's encoder finds of the process
on each call (`world k` on the `k`-th call from here), and whether a call read past an
allocation. -/
structure Sha1V4Client (τ κ : Type) where
  ld : AuthSimpleLocal
  server : ServerInfo
  env : CipherEnv κ
  eCtx : Option (EncCtx τ)
  dCtx : Option (EncCtx τ)
  world : Nat → ClientWorld
  faulted : Bool

/-- A server's `tunnel_cipher_ctx` with protocol `auth_sha1_v4` and obfs `plain`: the
protocol's connection state and `server_info_t` (with `recv_iv`), the process's cipher
environment (whose IV cache `ss_decrypt` fills), `d_ctx`, `e_ctx`, the draws of
`xorshift128plus` for the protocol's encoder, and whether a call read past an allocation. -/
structure Sha1V4Server (τ κ : Type) where
  ld : AuthSimpleLocal
  server : ServerInfo
  env : CipherEnv κ
  dCtx : Option (EncCtx τ)
  eCtx : Option (EncCtx τ)
  rngs : Nat → Shift128
  faulted : Bool

section Pipelines

variable {τ κ : Type} (crypto : Crypto) (lib : CipherLib τ κ) (env : CipherEnv κ)

/-- The client's `tunnel_cipher_create`, in a process whose cipher environment is `env`: the
contexts, then `auth_sha1_v4_new_obfs`, and the `server_info_t` it is given. -/
def sha1V4ClientCreate (base : ServerInfo) (e : Entropy) (world : Nat → ClientWorld) :
    Sha1V4Client τ κ :=
  let ctxs := createCtxs lib env e
  ⟨(authSha1V4NewObfs ctxs.2.2).1, createServerInfo env ctxs.1 base, env, ctxs.1, ctxs.2.1, world, false⟩

/-- The client's plugins: `auth_sha1_v4_client_pre_encrypt` on what the call finds of the
process, and `ss_encrypt` with `e_ctx`. -/
def sha1V4ClientPipeline : ClientEncryptPipeline (Sha1V4Client τ κ) where
  protocolClientPreEncrypt := some fun c buf =>
    let w := c.world 0
    let r := authSha1V4ClientPreEncrypt crypto c.server w.now c.ld w.global w.rng w.entropy w.junk buf
    ({ c with ld := r.localData, world := fun k => c.world (k + 1) }, r.out)
  ssEncrypt := fun c buf =>
    let (out, eCtx) := Encrypt.ssEncrypt lib c.env buf c.eCtx
    ({ c with eCtx }, out)
  obfsClientEncode := none

/-- The server's `tunnel_cipher_create`, in a process whose cipher environment is `env`. -/
def sha1V4ServerCreate (base : ServerInfo) (e : Entropy) (rngs : Nat → Shift128) :
    Sha1V4Server τ κ :=
  let ctxs := createCtxs lib env e
  ⟨(authSha1V4NewObfs ctxs.2.2).1, createServerInfo env ctxs.1 base, env, ctxs.2.1, ctxs.1, rngs, false⟩

/-- The clone `tunnel_cipher_server_decrypt` makes of a read: `buffer_clone` of the
`BUFFER_CONSTANT_INSTANCE` over it, whose capacity is the read's length. -/
def readClone (r : List UInt8) : Buffer := storeInto (bufferCreate r.length) r le_rfl

/-- `*need_feedback` of `auth_sha1_v4_server_post_decrypt`: set when the header came in this
call or a frame carried no data. -/
def authSha1V4ServerNeedFeedback (server : ServerInfo) (now : UInt32) (ld : AuthSimpleLocal)
    (buf : List UInt8) : Bool :=
  let r := drainAll (serverStep crypto server now) { ld with recvBuffer := [] } (ld.recvBuffer ++ buf)
  (!ld.hasRecvHeader && r.state.hasRecvHeader) || r.out.any List.isEmpty

/-- The protocol plugin of the server's pipeline at the time `now`: `recv_iv` is taken by
`memmove` from the clone's allocation, `iv_len` bytes of it; then
`auth_sha1_v4_server_post_decrypt` and `auth_sha1_v4_server_pre_encrypt`. -/
def sha1V4ServerProtocol (now : UInt32) : ServerProtocol (Sha1V4Server τ κ) where
  recvIv0 s := byteAt s.server.recvIv 0
  captureIv s ret := { s with server := { s.server with recvIv := (readClone ret).read 0 s.env.encIvLen } }
  serverPostDecrypt := some fun s buf =>
    let r := authSha1V4ServerPostDecrypt crypto s.server now s.ld buf
    ({ s with ld := r.1 }, r.2, authSha1V4ServerNeedFeedback crypto s.server now s.ld buf)
  serverPreEncrypt := some fun s buf =>
    ({ s with rngs := fun k => s.rngs (k + 1) }, some (authSha1V4ServerPreEncrypt s.ld (s.rngs 0) buf).1)

/-- The server's plugins at the time `now`. `ss_decrypt` reading past an allocation marks the
state faulted and gives no result. -/
def sha1V4ServerPipeline (now : UInt32) : ServerPipeline (Sha1V4Server τ κ) where
  obfs := none
  protocol := some (sha1V4ServerProtocol crypto now)
  ssDecrypt s buf :=
    match Encrypt.ssDecrypt lib s.env (readClone buf) s.dCtx with
    | .ok d => ({ s with env := { s.env with ivCache := d.ivCache }, dCtx := d.ctx }, d.plain)
    | .error _ => ({ s with faulted := true }, none)
  ssEncrypt s buf :=
    let (out, eCtx) := Encrypt.ssEncrypt lib s.env buf s.eCtx
    ({ s with eCtx }, out)

/-- The client's plugins on its decrypt path: `ss_decrypt` with `d_ctx` on the buffer
`buffer_create_from` makes of the read (reading past an allocation marks the state faulted
and gives no result), then `auth_sha1_v4_client_post_decrypt`; the protocol needs
feedback. -/
def sha1V4ClientDecryptPipeline : Client.ClientPipeline (Sha1V4Client τ κ) where
  obfsClientDecode := none
  obfsClientEncode := none
  ssDecrypt c buf :=
    match Encrypt.ssDecrypt lib c.env (bufferCreateFrom buf) c.dCtx with
    | .ok d => ({ c with env := { c.env with ivCache := d.ivCache }, dCtx := d.ctx }, d.plain)
    | .error _ => ({ c with faulted := true }, none)
  protocolClientPostDecrypt := some fun c buf =>
    let r := authSha1V4ClientPostDecrypt c.ld buf
    ({ c with ld := r.1 }, r.2)
  needFeedback := true

/-- One call of the client's decrypt path, as `tunnel_extract_data` makes it: the state, and
the bytes for the application when the call returns `ssr_ok`. -/
def clientDecryptCall (c : Sha1V4Client τ κ) (buf : List UInt8) :
    Sha1V4Client τ κ × Option (List UInt8) :=
  let d := Client.tunnelCipherClientDecrypt (sha1V4ClientDecryptPipeline lib) c buf
  (d.state, if d.error = .ok then some d.buf else none)

/-- One call of the client's pipeline. -/
def clientCall (c : Sha1V4Client τ κ) (buf : List UInt8) : Sha1V4Client τ κ × Option (List UInt8) :=
  tunnelCipherClientEncrypt (sha1V4ClientPipeline crypto lib) c buf

/-- One call of the server's pipeline: the state and the result. -/
def serverCall (now : UInt32) (s : Sha1V4Server τ κ) (buf : List UInt8) :
    Sha1V4Server τ κ × Option (List UInt8) :=
  let d := tunnelCipherServerDecrypt (sha1V4ServerPipeline crypto lib now) s buf
  (d.state, d.result)

end Pipelines

/-! ## The clone and the contexts -/

@[simp] theorem readClone_data (r : List UInt8) : (readClone r).data = r :=
  data_storeInto _ _ _

@[simp] theorem readClone_len (r : List UInt8) : (readClone r).len = r.length := rfl

@[simp] theorem readClone_capacity (r : List UInt8) : (readClone r).capacity = r.length := rfl

/-- What `memmove` copies into `recv_iv` is the front of the read, when the read holds it. -/
theorem readClone_read {r : List UInt8} {n : Nat} (h : n ≤ r.length) :
    (readClone r).read 0 n = r.take n := by
  rw [Buffer.read_of_le_len (by rw [readClone_len]; omega), readClone_data, List.drop_zero]

section Contexts

variable {τ κ : Type} (lib : CipherLib τ κ) (env : CipherEnv κ)

theorem createCtxs_of_code (hm : 1 < env.encMethod.code) (e : Entropy) :
    createCtxs lib env e =
      (some (encCtxNewInstance lib env true e).1,
        some (encCtxNewInstance lib env false (encCtxNewInstance lib env true e).2).1,
        (encCtxNewInstance lib env false (encCtxNewInstance lib env true e).2).2) := by
  rw [createCtxs, if_pos hm]

/-- A fresh decrypting context is not keyed. -/
theorem encCtxNewInstance_init (enc : Bool) (e : Entropy) :
    (encCtxNewInstance lib env enc e).1.init = false := by
  unfold encCtxNewInstance
  cases enc <;> rfl

/-- The protocol is given the IV `e_ctx` draws, and the cipher's key. -/
theorem createServerInfo_of_code (hm : 1 < env.encMethod.code) (e : Entropy) (base : ServerInfo) :
    createServerInfo env (createCtxs lib env e).1 base =
      { base with iv := (randBytes e env.encIvLen).1, recvIv := [], key := env.encKey } := by
  simp only [createServerInfo, createCtxs_of_code lib env hm, Option.map_some, Option.getD_some]
  rfl

variable (base : ServerInfo) (e : Entropy)

@[simp] theorem sha1V4ClientCreate_server (world : Nat → ClientWorld) :
    (sha1V4ClientCreate lib env base e world).server = createServerInfo env (createCtxs lib env e).1 base :=
  rfl

@[simp] theorem sha1V4ClientCreate_eCtx (world : Nat → ClientWorld) :
    (sha1V4ClientCreate lib env base e world).eCtx = (createCtxs lib env e).1 := rfl

@[simp] theorem sha1V4ClientCreate_dCtx (world : Nat → ClientWorld) :
    (sha1V4ClientCreate lib env base e world).dCtx = (createCtxs lib env e).2.1 := rfl

@[simp] theorem sha1V4ClientCreate_env (world : Nat → ClientWorld) :
    (sha1V4ClientCreate lib env base e world).env = env := rfl

@[simp] theorem sha1V4ServerCreate_server (rngs : Nat → Shift128) :
    (sha1V4ServerCreate lib env base e rngs).server = createServerInfo env (createCtxs lib env e).1 base :=
  rfl

@[simp] theorem sha1V4ServerCreate_env (rngs : Nat → Shift128) :
    (sha1V4ServerCreate lib env base e rngs).env = env := rfl

@[simp] theorem sha1V4ServerCreate_dCtx (rngs : Nat → Shift128) :
    (sha1V4ServerCreate lib env base e rngs).dCtx = (createCtxs lib env e).2.1 := rfl

end Contexts

/-! ## The client's calls -/

/-- What the client's protocol encoder hands `ss_encrypt` on each call, in order. -/
def clientChunks (crypto : Crypto) (server : ServerInfo) :
    (Nat → ClientWorld) → AuthSimpleLocal → List (List UInt8) → List (List UInt8)
  | _, _, [] => []
  | world, ld, p :: ps =>
    let r := authSha1V4ClientPreEncrypt crypto server (world 0).now ld (world 0).global
      (world 0).rng (world 0).entropy (world 0).junk p
    r.out :: clientChunks crypto server (fun k => world (k + 1)) r.localData ps

theorem clientChunks_flatten (crypto : Crypto) (server : ServerInfo) :
    ∀ (payloads : List (List UInt8)) (world : Nat → ClientWorld) (ld : AuthSimpleLocal),
      (clientChunks crypto server world ld payloads).flatten = clientSends crypto server world ld payloads := by
  intro payloads
  induction payloads with
  | nil => intro _ _; rfl
  | cons p ps ih =>
    intro world ld
    rw [clientChunks, clientSends, List.flatten_cons, ih]

section ClientCalls

variable {τ κ : Type} (crypto : Crypto) (lib : CipherLib τ κ)

/-- One call of the client: the protocol's encoder on what the call finds of the process,
then `ss_encrypt` of what it writes. -/
theorem clientCall_eq (c : Sha1V4Client τ κ) (buf : List UInt8) :
    clientCall crypto lib c buf =
      let r := authSha1V4ClientPreEncrypt crypto c.server (c.world 0).now c.ld (c.world 0).global
        (c.world 0).rng (c.world 0).entropy (c.world 0).junk buf
      ({ c with ld := r.localData, world := fun k => c.world (k + 1),
                eCtx := (Encrypt.ssEncrypt lib c.env r.out c.eCtx).2 },
        (Encrypt.ssEncrypt lib c.env r.out c.eCtx).1) := by
  simp only [clientCall, tunnelCipherClientEncrypt, sha1V4ClientPipeline]
  cases Encrypt.ssEncrypt lib c.env _ c.eCtx with
  | mk o e => cases o <;> rfl

/-- The client's calls from a context `ctx` are `ss_encrypt` on what its encoder writes,
call by call. -/
theorem run_clientCall : ∀ (payloads : List (List UInt8)) (c : Sha1V4Client τ κ) (ctx : EncCtx τ),
    c.eCtx = some ctx →
    (run (clientCall crypto lib) c payloads).2 =
      ssEncryptChunks lib c.env ctx (clientChunks crypto c.server c.world c.ld payloads) := by
  intro payloads
  induction payloads with
  | nil => intro _ _ _; rfl
  | cons p ps ih =>
    intro c ctx hctx
    rw [run, clientCall_eq]
    dsimp only
    rw [clientChunks, ssEncryptChunks, hctx, ssEncrypt_some]
    -- `ss_encrypt` fails exactly when the cipher step does
    cases h : streamUpdate lib c.env (ssEncryptIv lib c.env ctx).2 _ with
    | none => rfl
    | some r =>
      obtain ⟨ctx', o⟩ := r
      dsimp only
      rw [ih _ ctx' rfl]

end ClientCalls

/-! ## The server's calls -/

section ServerCalls

variable {τ κ : Type} (crypto : Crypto) (lib : CipherLib τ κ) (now : UInt32)

@[simp] theorem sha1V4ServerPipeline_obfs :
    (sha1V4ServerPipeline crypto lib now).obfs = none := rfl

@[simp] theorem sha1V4ServerPipeline_protocol :
    (sha1V4ServerPipeline crypto lib now).protocol = some (sha1V4ServerProtocol crypto now) := rfl

theorem sha1V4ServerPipeline_ssDecrypt (s : Sha1V4Server τ κ) (buf : List UInt8) :
    (sha1V4ServerPipeline crypto lib now).ssDecrypt s buf =
      match Encrypt.ssDecrypt lib s.env (readClone buf) s.dCtx with
      | .ok d => ({ s with env := { s.env with ivCache := d.ivCache }, dCtx := d.ctx }, d.plain)
      | .error _ => ({ s with faulted := true }, none) := rfl

/-- `tunnel_cipher_server_encrypt` moves only the encoder's draws and `e_ctx`. -/
theorem serverEncrypt_eq (s : Sha1V4Server τ κ) (buf : List UInt8) :
    tunnelCipherServerEncrypt (sha1V4ServerPipeline crypto lib now) s buf =
      ({ s with rngs := fun k => s.rngs (k + 1),
                eCtx := (Encrypt.ssEncrypt lib s.env (authSha1V4ServerPreEncrypt s.ld (s.rngs 0) buf).1
                  s.eCtx).2 },
        (Encrypt.ssEncrypt lib s.env (authSha1V4ServerPreEncrypt s.ld (s.rngs 0) buf).1 s.eCtx).1) := by
  simp only [tunnelCipherServerEncrypt, sha1V4ServerPipeline, sha1V4ServerProtocol, Option.bind_some]
  cases Encrypt.ssEncrypt lib s.env _ s.eCtx with
  | mk o e => cases o <;> rfl

/-- One call of the server on a read, from what `ss_decrypt` makes of its clone: the
protocol's receiver on the plaintext, with `recv_iv` first taken from the read if it began
with 0. The confirmation the receiver may ask for moves nothing of this. -/
theorem serverCall_of_decrypted (s : Sha1V4Server τ κ) {c : List UInt8} (hpos : 0 < c.length)
    {d : Decrypted τ κ} (hd : Encrypt.ssDecrypt lib s.env (readClone c) s.dCtx = .ok d) :
    let S := if byteAt s.server.recvIv 0 = 0 then
      { s.server with recvIv := (readClone c).read 0 s.env.encIvLen } else s.server
    let s' := (serverCall crypto lib now s c).1
    (serverCall crypto lib now s c).2 =
        d.plain.bind (fun p => (authSha1V4ServerPostDecrypt crypto S now s.ld p).2) ∧
      s'.ld = (d.plain.map fun p => (authSha1V4ServerPostDecrypt crypto S now s.ld p).1).getD s.ld ∧
      s'.server = S ∧ s'.env = { s.env with ivCache := d.ivCache } ∧ s'.dCtx = d.ctx := by
  intro S s'
  unfold s' S serverCall tunnelCipherServerDecrypt serverDecryptRest
  -- `recv_iv` is taken or not; then `ss_decrypt` fails or not; then the receiver asks for a
  -- confirmation or not
  by_cases h0 : byteAt s.server.recvIv 0 = 0
  all_goals
    simp only [sha1V4ServerPipeline_obfs, sha1V4ServerPipeline_protocol, sha1V4ServerPipeline_ssDecrypt,
      sha1V4ServerProtocol, hpos, and_self, h0, ↓reduceIte, hd, Option.bind_some, serverEncrypt_eq]
    obtain ⟨_ | p, ctx, cache⟩ := d
    · simp
    · dsimp only
      split <;> simp

/-- The two layers of a receiving side once its `d_ctx` is keyed: the cipher step of
`ss_decrypt`, then the protocol's receiver `upper`. -/
def decryptLayers (E : CipherEnv κ)
    (upper : AuthSimpleLocal → List UInt8 → AuthSimpleLocal × Option (List UInt8)) :
    AuthSimpleLocal × EncCtx τ → List UInt8 → (AuthSimpleLocal × EncCtx τ) × Option (List UInt8) :=
  stack (updateCall (streamUpdate lib E)) upper

/-- A server past its first read against the state of the two layers: the protocol's state
is the upper layer's, `d_ctx` the lower layer's and keyed, and `server_info_t` and the cipher
environment are fixed. -/
structure Keyed (S : ServerInfo) (E : CipherEnv κ) (s : Sha1V4Server τ κ)
    (u : AuthSimpleLocal × EncCtx τ) : Prop where
  ld : s.ld = u.1
  dCtx : s.dCtx = some u.2
  init : u.2.init = true
  server : s.server = S
  env : s.env = E

/-- After the first read, as long as `recv_iv` does not begin with 0, the server's call on a
read is the two layers' call. -/
theorem serverCall_stack {S : ServerInfo} {E : CipherEnv κ} (hS : byteAt S.recvIv 0 ≠ 0)
    {s : Sha1V4Server τ κ} {u : AuthSimpleLocal × EncCtx τ} (hk : Keyed S E s u) {c : List UInt8}
    (hc : c ≠ []) (hcap : c.length < 2 ^ 64) :
    (serverCall crypto lib now s c).2 =
        (decryptLayers lib E (authSha1V4ServerPostDecrypt crypto S now) u c).2 ∧
      Keyed S E (serverCall crypto lib now s c).1
        (decryptLayers lib E (authSha1V4ServerPostDecrypt crypto S now) u c).1 := by
  obtain ⟨ld, ctx⟩ := u
  obtain ⟨hld, hdctx, hinit, rfl, rfl⟩ := hk
  dsimp only at hld hdctx hinit
  subst hld
  have hd := ssDecrypt_init lib s.env hinit
    (show (readClone c).capacity < 2 ^ 64 by rw [readClone_capacity]; exact hcap)
  rw [readClone_data, ← hdctx] at hd
  have hpos : 0 < c.length := List.length_pos_of_ne_nil hc
  -- a keyed context decrypts the whole read, and `recv_iv` stays as it is
  cases hu : streamUpdate lib s.env ctx c with
  | none =>
    simp only [hu] at hd
    obtain ⟨h₁, h₂, h₃, h₄, h₅⟩ := serverCall_of_decrypted crypto lib now s hpos hd
    simp only [hS, ↓reduceIte, Option.bind_none, Option.map_none, Option.getD_none] at h₁ h₂ h₃
    simp only [decryptLayers, stack_updateCall, hu]
    exact ⟨h₁, ⟨h₂, h₅.trans hdctx, hinit, h₃, h₄⟩⟩
  | some r =>
    obtain ⟨ctx', o⟩ := r
    simp only [hu] at hd
    obtain ⟨h₁, h₂, h₃, h₄, h₅⟩ := serverCall_of_decrypted crypto lib now s hpos hd
    simp only [hS, ↓reduceIte, Option.bind_some, Option.map_some, Option.getD_some] at h₁ h₂ h₃
    simp only [decryptLayers, stack_updateCall, hu]
    exact ⟨h₁, ⟨h₂, h₅, by rw [streamUpdate_init lib s.env hu, hinit], h₃, h₄⟩⟩

/-- The server's first read, from a fresh `d_ctx` and a `recv_iv` that begins with 0, when the
read holds the IV and the cache has not seen it: `recv_iv` is the IV, `d_ctx` is keyed with
it, and the call is the two layers' call on the rest of the read. -/
theorem serverCall_first {s : Sha1V4Server τ κ} {ctx : EncCtx τ} (hdctx : s.dCtx = some ctx)
    (hinit : ctx.init = false) (h0 : byteAt s.server.recvIv 0 = 0) {c : List UInt8}
    (hpos : 0 < c.length) (hlen : s.env.encIvLen ≤ c.length) (hcap : c.length < 2 ^ 64)
    (hcache : 2 < s.env.encMethod.code →
      lib.cacheKeyExist s.env.ivCache (c.take s.env.encIvLen) = false) :
    ∃ cache,
      let S := { s.server with recvIv := c.take s.env.encIvLen }
      let E := { s.env with ivCache := cache }
      let u : AuthSimpleLocal × EncCtx τ :=
        (s.ld, ⟨true, 0, cipherContextSetIv lib s.env ctx.cipherCtx (c.take s.env.encIvLen) false⟩)
      (serverCall crypto lib now s c).2 =
          (decryptLayers lib E (authSha1V4ServerPostDecrypt crypto S now) u (c.drop s.env.encIvLen)).2 ∧
        Keyed S E (serverCall crypto lib now s c).1
          (decryptLayers lib E (authSha1V4ServerPostDecrypt crypto S now) u (c.drop s.env.encIvLen)).1 := by
  obtain ⟨cache, hd⟩ := ssDecrypt_fresh lib s.env hinit
    (show (readClone c).capacity < 2 ^ 64 by rw [readClone_capacity]; exact hcap)
    (by rw [readClone_len]; exact hlen) (by rw [readClone_data]; exact hcache)
  refine ⟨cache, ?_⟩
  dsimp only at hd ⊢
  rw [readClone_data, ← hdctx] at hd
  have hS : (if byteAt s.server.recvIv 0 = 0 then
      { s.server with recvIv := (readClone c).read 0 s.env.encIvLen } else s.server) =
      { s.server with recvIv := c.take s.env.encIvLen } := by
    rw [if_pos h0, readClone_read hlen]
  -- the IV keys the context, which decrypts the rest of the read
  cases hu : streamUpdate lib s.env
      ⟨true, 0, cipherContextSetIv lib s.env ctx.cipherCtx (c.take s.env.encIvLen) false⟩
      (c.drop s.env.encIvLen) with
  | none =>
    simp only [hu] at hd
    obtain ⟨h₁, h₂, h₃, h₄, h₅⟩ := serverCall_of_decrypted crypto lib now s hpos hd
    simp only [hS, Option.bind_none, Option.map_none, Option.getD_none] at h₁ h₂ h₃
    simp only [decryptLayers, stack_updateCall, streamUpdate_ivCache, hu]
    exact ⟨h₁, ⟨h₂, h₅, rfl, h₃, h₄⟩⟩
  | some r =>
    obtain ⟨ctx', o⟩ := r
    simp only [hu] at hd
    obtain ⟨h₁, h₂, h₃, h₄, h₅⟩ := serverCall_of_decrypted crypto lib now s hpos hd
    simp only [hS, Option.bind_some, Option.map_some, Option.getD_some] at h₁ h₂ h₃
    simp only [decryptLayers, stack_updateCall, streamUpdate_ivCache, hu]
    exact ⟨h₁, ⟨h₂, h₅, streamUpdate_init lib s.env hu, h₃, h₄⟩⟩

/-- Every run of the server from a fresh `d_ctx` and a cleared `recv_iv`, whose first read
holds an IV that does not begin with 0 and that the cache has not seen, is the two layers' run
on the reads with the IV cut off: the protocol's receiver on what the cipher step makes of
them. -/
theorem runEach_serverCall {s : Sha1V4Server τ κ} {ctx : EncCtx τ} (hdctx : s.dCtx = some ctx)
    (hinit : ctx.init = false) (h0 : byteAt s.server.recvIv 0 = 0) {r₀ : List UInt8}
    {rest : List (List UInt8)} (hiv : byteAt (r₀.take s.env.encIvLen) 0 ≠ 0)
    (hlen : s.env.encIvLen ≤ r₀.length) (hreads : ∀ r ∈ r₀ :: rest, r ≠ [] ∧ r.length < 2 ^ 64)
    (hcache : 2 < s.env.encMethod.code →
      lib.cacheKeyExist s.env.ivCache (r₀.take s.env.encIvLen) = false) :
    (runEach (serverCall crypto lib now) s (r₀ :: rest)).2 =
      (runEach (updateCall (streamUpdate lib s.env))
          ⟨true, 0, cipherContextSetIv lib s.env ctx.cipherCtx (r₀.take s.env.encIvLen) false⟩
          (r₀.drop s.env.encIvLen :: rest)).2.bind fun ds =>
        (runEach (authSha1V4ServerPostDecrypt crypto { s.server with recvIv := r₀.take s.env.encIvLen } now)
          s.ld ds).2 := by
  have h₀ := hreads r₀ List.mem_cons_self
  obtain ⟨cache, hout, hk⟩ := serverCall_first crypto lib now hdctx hinit h0
    (List.length_pos_of_ne_nil h₀.1) hlen h₀.2 hcache
  -- the first read, then the rest read by read against the layers
  have hrest := runEach_sim (Keyed _ _) (fun c => c ≠ [] ∧ c.length < 2 ^ 64)
    (fun _ _ c hk hc => @serverCall_stack τ κ crypto lib now _ _ hiv _ _ hk c hc.1 hc.2) rest _ _ hk
    (fun c hc => hreads c (List.mem_cons_of_mem _ hc))
  rw [runEach_cons_congr hout hrest, decryptLayers, runEach_stack, streamUpdate_ivCache]

end ServerCalls

/-! ## The round trip -/

section RoundTrip

variable {τ κ : Type} (crypto : Crypto) (lib : CipherLib τ κ) (env : CipherEnv κ)

/-- The client's calls on payloads send the IV of its `e_ctx` and then a ciphertext that a
context keyed for decryption with that IV turns back into what the protocol's encoder wrote. -/
theorem clientCall_run_sends_iv (hl : StreamLib lib) (hm : 1 < env.encMethod.code)
    (base : ServerInfo) (e : Entropy) (world : Nat → ClientWorld) (p : List UInt8)
    (ps : List (List UInt8)) :
    let c₀ := sha1V4ClientCreate lib env base e world
    ∃ body, (run (clientCall crypto lib) c₀ (p :: ps)).2 = some ((randBytes e env.encIvLen).1 ++ body) ∧
      ∀ cD : CipherCtx τ, ∃ ctxD, streamUpdate lib env
        ⟨true, 0, cipherContextSetIv lib env cD (randBytes e env.encIvLen).1 false⟩ body =
          some (ctxD, clientSends crypto c₀.server world c₀.ld (p :: ps)) := by
  intro c₀
  have hs := streamUpdate_isStream lib env hl.stream hl.ietf
  have heCtx : c₀.eCtx = some (encCtxNewInstance lib env true e).1 := by
    simp only [c₀, sha1V4ClientCreate, createCtxs_of_code lib env hm]
  have hworld : c₀.world = world := rfl
  have henv : c₀.env = env := rfl
  obtain ⟨body, ctxE, hE, hD⟩ := streamUpdate_inverse lib env hl
    { cipherContextInit lib env true with iv := (randBytes e env.encIvLen).1 }
    (show _ = (randBytes e env.encIvLen).1 from rfl) (clientSends crypto c₀.server world c₀.ld (p :: ps))
  refine ⟨body, ?_, hD⟩
  -- one chunk per payload, so the first call sends the IV
  obtain ⟨q, qs, hq⟩ : ∃ q qs, clientChunks crypto c₀.server world c₀.ld (p :: ps) = q :: qs :=
    ⟨_, _, rfl⟩
  rw [run_clientCall crypto lib (p :: ps) c₀ _ heCtx, hworld, henv, hq, ssEncryptChunks_eq lib env hs, ← hq,
    clientChunks_flatten, ssEncryptIv_new, hE]
  rfl

/-- HMAC-SHA1 as the library computes it on the one header of the run, under the client's IV
and the sample key. -/
def pipelineCrypto : Crypto where
  md5 := tableDigest []
  sha1 := tableDigest []
  hmacMd5 := tableKeyed []
  hmacSha1 := tableKeyed [
    (((List.range 16).map (fun i => (i + 1).toUInt8) ++ sampleCipherKey,
      [0x00, 0x24, 0x2d, 0x06, 0xd1, 0x00, 0x01, 0x00, 0x10, 0x5e, 0x5f, 0x40, 0x41, 0x42, 0x43,
       0x11, 0x00, 0x00, 0x00, 0x01, 0x7f, 0x00, 0x00, 0x01, 0x00, 0x50]),
      #v[0xad, 0x45, 0x98, 0xd3, 0xd4, 0xfb, 0xae, 0x1c, 0x14, 0x12, 0xc6, 0x10, 0x2f, 0xc1, 0xdf,
       0x75, 0xbb, 0x7f, 0x80, 0x41])
  ]
  aes128CbcEncrypt _ b := b
  aes128CbcDecrypt _ b := b

/-- mbedTLS's AES-128-CFB, exact on the sample runs. -/
def sampleCfbLib : CipherLib CfbCtx Unit := cfbLib pipelineCrypto sampleAes128

/-- Random bytes from 1 on, so that the client's IV begins with 1. -/
def sampleIvEntropy : Entropy := ⟨fun i => i.toUInt8, 1⟩

/-- **`tunnel_cipher_client_encrypt` and `tunnel_cipher_server_decrypt` with `auth_sha1_v4`,
obfs `plain` and a stream cipher carry the payloads under every cut.** A client and a server
made by `tunnel_cipher_create` in processes with the same password and method: the client's
calls succeed on any payloads, and any cut of what they send into reads, the first of which
holds the IV, makes the server's calls hand on exactly the payloads. This needs an IV that
does not begin with 0 (else the server takes a later read's front as `recv_iv`), an IV the
server's cache has not seen, and every client call within a day of the server's clock. -/
theorem sha1v4_pipeline_round_trip (hl : StreamLib lib) (hm : 1 < env.encMethod.code)
    (base base' : ServerInfo) (e e' : Entropy) (world : Nat → ClientWorld) (rngs : Nat → Shift128)
    (cache : κ) (now : UInt32)
    (hiv : byteAt (sha1V4ClientCreate lib env base e world).server.iv 0 ≠ 0)
    (hcache : 2 < env.encMethod.code →
      lib.cacheKeyExist cache (sha1V4ClientCreate lib env base e world).server.iv = false)
    (hclock : ∀ k, timeDif now (world k).now ≤ 60 * 60 * 24) (payloads : List (List UInt8)) :
    ∃ out, (run (clientCall crypto lib) (sha1V4ClientCreate lib env base e world) payloads).2 =
        some out ∧
      ∀ rs : List (List UInt8), rs.flatten = out → (∀ r ∈ rs, r ≠ [] ∧ r.length < 2 ^ 64) →
        (∀ r ∈ rs.head?, env.encIvLen ≤ r.length) →
        (run (serverCall crypto lib now) (sha1V4ServerCreate lib { env with ivCache := cache } base' e' rngs)
          rs).2 = some payloads.flatten := by
  have hsiv : (sha1V4ClientCreate lib env base e world).server.iv = (randBytes e env.encIvLen).1 := by
    rw [sha1V4ClientCreate, createServerInfo_of_code lib env hm]
  rw [hsiv] at hiv hcache
  cases payloads with
  | nil =>
    -- nothing is sent, and reads that are not empty cut nothing
    refine ⟨[], rfl, fun rs hflat hne _ => ?_⟩
    cases rs with
    | nil => rfl
    | cons r rs =>
      exact absurd (List.flatten_eq_nil_iff.mp hflat r List.mem_cons_self) (hne r List.mem_cons_self).1
  | cons p ps =>
    obtain ⟨body, hrun, hD⟩ := clientCall_run_sends_iv crypto lib env hl hm base e world p ps
    refine ⟨_, hrun, fun rs hflat hne hfirst => ?_⟩
    cases rs with
    | nil =>
      -- the IV is not empty, so something is read
      have hnil := (List.append_eq_nil_iff.mp hflat.symm).1
      rw [hnil] at hiv
      exact absurd rfl hiv
    | cons r₀ rest =>
      have hlen : env.encIvLen ≤ r₀.length := hfirst r₀ rfl
      have hivlen := randBytes_length e env.encIvLen
      rw [List.flatten_cons] at hflat
      -- the first read holds the IV, and the rest of the stream is the ciphertext
      have htake : r₀.take env.encIvLen = (randBytes e env.encIvLen).1 := by
        rw [← List.take_append_of_le_length hlen, hflat, List.take_left' hivlen]
      have hdrop : r₀.drop env.encIvLen ++ rest.flatten = body := by
        rw [← List.drop_append_of_le_length hlen, hflat, List.drop_left' hivlen]
      obtain ⟨ctx, hdctx, hinit⟩ : ∃ ctx,
          (sha1V4ServerCreate lib { env with ivCache := cache } base' e' rngs).dCtx = some ctx ∧
            ctx.init = false :=
        ⟨_, by rw [sha1V4ServerCreate_dCtx, createCtxs_of_code lib { env with ivCache := cache } hm],
          encCtxNewInstance_init lib _ false _⟩
      have hlayers := runEach_serverCall crypto lib now hdctx hinit rfl
        (show byteAt (r₀.take env.encIvLen) 0 ≠ 0 by rw [htake]; exact hiv) hlen hne
        (show 2 < env.encMethod.code → lib.cacheKeyExist cache (r₀.take env.encIvLen) = false by
          rw [htake]; exact hcache)
      simp only [sha1V4ServerCreate_env, streamUpdate_ivCache] at hlayers
      -- the cipher step of the server's `d_ctx` undoes the client's
      obtain ⟨ctxD, hctxD⟩ := hD ctx.cipherCtx
      have hlow := runEach_updateCall (streamUpdate_isStream lib env hl.stream hl.ietf)
        (r₀.drop env.encIvLen :: rest)
        ⟨true, 0, cipherContextSetIv lib { env with ivCache := cache } ctx.cipherCtx (r₀.take env.encIvLen) false⟩
      rw [List.flatten_cons, hdrop,
        show streamUpdate lib env ⟨true, 0, cipherContextSetIv lib { env with ivCache := cache }
          ctx.cipherCtx (r₀.take env.encIvLen) false⟩ body = some (ctxD, _) by rw [htake]; exact hctxD,
        Option.map_some] at hlow
      obtain ⟨ds, hds, hdsP⟩ := Option.map_eq_some_iff.mp hlow
      rw [run_eq_runEach]
      dsimp only
      rw [hlayers, hds, Option.bind_some]
      -- the protocol's receiver, with the IV as `recv_iv`, reads every cut of the client's frames
      generalize hS : ({ (sha1V4ServerCreate lib { env with ivCache := cache } base' e' rngs).server with
        recvIv := r₀.take env.encIvLen } : ServerInfo) = S
      have hkey : S.key = (sha1V4ClientCreate lib env base e world).server.key := by rw [← hS]; rfl
      have hrecv : S.recvIv = (sha1V4ClientCreate lib env base e world).server.iv := by
        rw [← hS, hsiv]; exact htake
      obtain ⟨fs, u, hch, hw, ho, hb⟩ := clientSends_chain crypto hkey hrecv (p :: ps) world
        (show Synced (sha1V4ClientCreate lib env base e world).ld
          (sha1V4ServerCreate lib { env with ivCache := cache } base' e' rngs).ld from ⟨rfl, rfl⟩) hclock
      have hup := run_chain (serverPostDecrypt_drains crypto S now) hch (serverStep_nil crypto S now u) hb
        (fun _ _ _ _ => trivial) (hdsP.trans hw.symm) (recvView_of_empty rfl)
      rw [run_eq_runEach, List.flatMap_id, ho] at hup
      exact hup.2

theorem sample_pipeline_round_trip :
    ∃ out, (run (clientCall pipelineCrypto sampleCfbLib)
        (sha1V4ClientCreate sampleCfbLib sampleEnv sampleServer sampleIvEntropy fun _ => sampleWorld)
        [samplePayload]).2 = some out ∧
      ∀ rs : List (List UInt8), rs.flatten = out → (∀ r ∈ rs, r ≠ [] ∧ r.length < 2 ^ 64) →
        (∀ r ∈ rs.head?, sampleEnv.encIvLen ≤ r.length) →
        (run (serverCall pipelineCrypto sampleCfbLib sampleWorld.now)
          (sha1V4ServerCreate sampleCfbLib { sampleEnv with ivCache := () } sampleServer sampleEntropy
            fun _ => ⟨0, 0⟩) rs).2 = some [samplePayload].flatten :=
  sha1v4_pipeline_round_trip pipelineCrypto sampleCfbLib sampleEnv (cfbLib_streamLib _ _) (by decide)
    sampleServer sampleServer sampleIvEntropy sampleEntropy (fun _ => sampleWorld) (fun _ => ⟨0, 0⟩) ()
    sampleWorld.now (by decide) (fun _ => rfl) (fun _ => by decide) [samplePayload]

/-- The client's stream on the sample run: the IV, then AES-128-CFB of the protocol's 50 bytes
under the sample key and that IV. -/
example : (run (clientCall pipelineCrypto sampleCfbLib)
      (sha1V4ClientCreate sampleCfbLib sampleEnv sampleServer sampleIvEntropy fun _ => sampleWorld)
      [samplePayload]).2 = some ((List.range 16).map (fun i => (i + 1).toUInt8) ++
    [0xed, 0xc3, 0x30, 0x57, 0xef, 0x8e, 0x8b, 0x09, 0xbb, 0x42, 0x38, 0xfd, 0xdd, 0x6e, 0x3d, 0x92,
     0xe8, 0x22, 0x6e, 0xea, 0x71, 0xb1, 0xed, 0x1c, 0xcd, 0x0e, 0xcf, 0xb3, 0x0a, 0x49, 0x99, 0xfa,
     0x11, 0xa5, 0x01, 0xf5, 0x79, 0x10, 0x3f, 0x16, 0xf7, 0x57, 0x39, 0x61, 0x95, 0xc4, 0x52, 0x6d,
     0xc5, 0x2a]) := by decide +kernel

end RoundTrip

end ShadowsocksR.Executive
