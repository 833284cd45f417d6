/-
  ShadowsocksR.Executive.Reply — the other direction of the cipher pipeline:
  `tunnel_cipher_server_encrypt` on the server and `tunnel_cipher_client_decrypt` on the
  client, for protocol `auth_sha1_v4`, obfs `plain` and a stream cipher of `encrypt.c`.

  The server's call runs the protocol's `server_pre_encrypt` and then `ss_encrypt` with its
  `e_ctx`, whose first call puts the IV in front; the confirmation the server sends when the
  header has come is such a call on an empty buffer. The client's call runs `ss_decrypt` with
  its `d_ctx` on the buffer `buffer_create_from` makes of a read, the first read's front
  taken as the IV, and then the protocol's `client_post_decrypt`. Unlike the server, the client
  takes the IV only once: `ss_decrypt` keys `d_ctx` on its first call and never again.

  Proved: the client's first read keys `d_ctx` with the IV it holds, and after it each call is
  a call of the two layers, the cipher step and the protocol's receiver
  (`clientDecryptCall_first`, `clientDecryptCall_stack`), so the client's whole run is the
  receiver's run on what the cipher step makes of the reads (`runEach_clientDecryptCall`); the
  server's calls send its IV and then one cipher step over all its encoder writes
  (`serverEncrypt_run_sends_iv`); and so (`sha1v4_pipeline_reply_round_trip`) for every list
  of buffers the server's calls succeed, and every cut of what they send into the reads the
  client's socket makes, of at most `SSR_BUFF_SIZE` bytes with the IV in the first, makes the
  client's calls hand on exactly the buffers, when the client's IV cache has not seen the
  server's IV and the library's cipher writes as many bytes as it is given.
-/

import ShadowsocksR.Executive.Pipeline

namespace ShadowsocksR.Executive

open Framing Layers StreamCipher Bytes Encrypt AuthSha1V4 Server

/-! ## Ciphers that keep lengths -/

section Length

variable {τ κ : Type} (lib : CipherLib τ κ) (env : CipherEnv κ)

/-- `mbedtls_cipher_update` in the stream modes `encrypt.c` sets up writes as many bytes as it
is given. -/
def KeepsLength : Prop := ∀ c m c' o, lib.update c m = some (c', o) → o.length = m.length

@[simp] theorem cryptoStreamXorIc_length (m n : List UInt8) (ic : Nat) (k : List UInt8)
    (method : SsCipherType) : (cryptoStreamXorIc lib m n ic k method).length = m.length := by
  cases method <;> simp [cryptoStreamXorIc]

/-- The cipher step writes as many bytes as it is given. -/
theorem streamUpdate_length (hk : KeepsLength lib) {ctx ctx' : EncCtx τ} {m o : List UInt8}
    (h : streamUpdate lib env ctx m = some (ctx', o)) : o.length = m.length := by
  unfold streamUpdate at h
  split at h
  · -- the keystream call is made on the padding and the message, and the padding cut off
    cases h
    simp
  · split at h
    · cases h
    · cases h
      exact hk _ _ _ _ ‹_›

end Length

/-! ## The client's read buffer -/

theorem bufferCreateFrom_capacity_lt {r : List UInt8} (h : r.length < 2 ^ 64) :
    (bufferCreateFrom r).capacity < 2 ^ 64 := by
  show (bufferRealloc (bufferCreate 2048) r.length).capacity < 2 ^ 64
  unfold bufferRealloc
  split
  · exact h
  · show 2048 < 2 ^ 64
    omega

/-! ## The client's calls on reads -/

section ClientReads

variable {τ κ : Type} (lib : CipherLib τ κ)

/-- One call of the client on a read, from what `ss_decrypt` makes of its buffer: the
protocol's receiver on the plaintext. Nothing the encrypt path uses moves. -/
theorem clientDecryptCall_of_decrypted (c : Sha1V4Client τ κ) {r : List UInt8} (hpos : 0 < r.length)
    {d : Decrypted τ κ} (hd : Encrypt.ssDecrypt lib c.env (bufferCreateFrom r) c.dCtx = .ok d) :
    clientDecryptCall lib c r =
      ({ c with ld := (d.plain.map fun p => (authSha1V4ClientPostDecrypt c.ld p).1).getD c.ld,
                env := { c.env with ivCache := d.ivCache }, dCtx := d.ctx },
        d.plain.bind fun p => (authSha1V4ClientPostDecrypt c.ld p).2) := by
  simp only [clientDecryptCall, Client.tunnelCipherClientDecrypt, Client.decryptRest,
    sha1V4ClientDecryptPipeline, gt_iff_lt, hpos, ↓reduceIte, hd]
  -- `ss_decrypt` gives a plaintext or not; then the receiver accepts it or not
  obtain ⟨_ | p, ctx, cache⟩ := d
  · rfl
  · simp only [Option.map_some, Option.getD_some, Option.bind_some]
    cases authSha1V4ClientPostDecrypt c.ld p with
    | mk ld' o => cases o <;> rfl

/-- A client past its first read against the state of the two layers: the protocol's state is
the upper layer's, `d_ctx` the lower layer's and keyed, and the cipher environment is fixed. -/
structure ClientKeyed (E : CipherEnv κ) (c : Sha1V4Client τ κ) (u : AuthSimpleLocal × EncCtx τ) :
    Prop where
  ld : c.ld = u.1
  dCtx : c.dCtx = some u.2
  init : u.2.init = true
  env : c.env = E

/-- After the first read, the client's call on a read is the two layers' call. -/
theorem clientDecryptCall_stack {E : CipherEnv κ} {c : Sha1V4Client τ κ}
    {u : AuthSimpleLocal × EncCtx τ} (hk : ClientKeyed E c u) {r : List UInt8} (hr : r ≠ [])
    (hcap : r.length < 2 ^ 64) :
    (clientDecryptCall lib c r).2 = (decryptLayers lib E authSha1V4ClientPostDecrypt u r).2 ∧
      ClientKeyed E (clientDecryptCall lib c r).1 (decryptLayers lib E authSha1V4ClientPostDecrypt u r).1 := by
  obtain ⟨ld, ctx⟩ := u
  obtain ⟨hld, hdctx, hinit, rfl⟩ := hk
  dsimp only at hld hdctx hinit
  subst hld
  have hd := ssDecrypt_init lib c.env hinit (bufferCreateFrom_capacity_lt hcap)
  rw [bufferCreateFrom_data, ← hdctx] at hd
  have hpos : 0 < r.length := List.length_pos_of_ne_nil hr
  -- a keyed context decrypts the whole read
  cases hu : streamUpdate lib c.env ctx r with
  | none =>
    simp only [hu] at hd
    rw [clientDecryptCall_of_decrypted lib c hpos hd]
    simp only [decryptLayers, stack_updateCall, hu, Option.bind_none, Option.map_none,
      Option.getD_none]
    exact ⟨trivial, ⟨rfl, hdctx, hinit, rfl⟩⟩
  | some r' =>
    obtain ⟨ctx', o⟩ := r'
    simp only [hu] at hd
    rw [clientDecryptCall_of_decrypted lib c hpos hd]
    simp only [decryptLayers, stack_updateCall, hu, Option.bind_some, Option.map_some,
      Option.getD_some]
    exact ⟨trivial, ⟨rfl, rfl, by rw [streamUpdate_init lib c.env hu, hinit], rfl⟩⟩

/-- The client's first read, from a fresh `d_ctx`, when the read holds the IV and the cache has
not seen it: `d_ctx` is keyed with the IV, and the call is the two layers' call on the rest of
the read. -/
theorem clientDecryptCall_first {c : Sha1V4Client τ κ} {ctx : EncCtx τ} (hdctx : c.dCtx = some ctx)
    (hinit : ctx.init = false) {r : List UInt8} (hpos : 0 < r.length) (hlen : c.env.encIvLen ≤ r.length)
    (hcap : r.length < 2 ^ 64)
    (hcache : 2 < c.env.encMethod.code →
      lib.cacheKeyExist c.env.ivCache (r.take c.env.encIvLen) = false) :
    ∃ cache,
      let E := { c.env with ivCache := cache }
      let u : AuthSimpleLocal × EncCtx τ :=
        (c.ld, ⟨true, 0, cipherContextSetIv lib c.env ctx.cipherCtx (r.take c.env.encIvLen) false⟩)
      (clientDecryptCall lib c r).2 =
          (decryptLayers lib E authSha1V4ClientPostDecrypt u (r.drop c.env.encIvLen)).2 ∧
        ClientKeyed E (clientDecryptCall lib c r).1
          (decryptLayers lib E authSha1V4ClientPostDecrypt u (r.drop c.env.encIvLen)).1 := by
  obtain ⟨cache, hd⟩ := ssDecrypt_fresh lib c.env hinit (bufferCreateFrom_capacity_lt hcap)
    (by rw [bufferCreateFrom_len]; exact hlen) (by rw [bufferCreateFrom_data]; exact hcache)
  refine ⟨cache, ?_⟩
  dsimp only at hd ⊢
  rw [bufferCreateFrom_data, ← hdctx] at hd
  -- the IV keys the context, which decrypts the rest of the read
  cases hu : streamUpdate lib c.env
      ⟨true, 0, cipherContextSetIv lib c.env ctx.cipherCtx (r.take c.env.encIvLen) false⟩
      (r.drop c.env.encIvLen) with
  | none =>
    simp only [hu] at hd
    rw [clientDecryptCall_of_decrypted lib c hpos hd]
    simp only [decryptLayers, stack_updateCall, streamUpdate_ivCache, hu, Option.bind_none,
      Option.map_none, Option.getD_none]
    exact ⟨trivial, ⟨rfl, rfl, rfl, rfl⟩⟩
  | some r' =>
    obtain ⟨ctx', o⟩ := r'
    simp only [hu] at hd
    rw [clientDecryptCall_of_decrypted lib c hpos hd]
    simp only [decryptLayers, stack_updateCall, streamUpdate_ivCache, hu, Option.bind_some,
      Option.map_some, Option.getD_some]
    exact ⟨trivial, ⟨rfl, rfl, streamUpdate_init lib c.env hu, rfl⟩⟩

/-- Every run of the client from a fresh `d_ctx`, whose first read holds an IV the cache has
not seen, is the two layers' run on the reads with the IV cut off. -/
theorem runEach_clientDecryptCall {c : Sha1V4Client τ κ} {ctx : EncCtx τ} (hdctx : c.dCtx = some ctx)
    (hinit : ctx.init = false) {r₀ : List UInt8} {rest : List (List UInt8)}
    (hlen : c.env.encIvLen ≤ r₀.length) (hreads : ∀ r ∈ r₀ :: rest, r ≠ [] ∧ r.length < 2 ^ 64)
    (hcache : 2 < c.env.encMethod.code →
      lib.cacheKeyExist c.env.ivCache (r₀.take c.env.encIvLen) = false) :
    (runEach (clientDecryptCall lib) c (r₀ :: rest)).2 =
      (runEach (updateCall (streamUpdate lib c.env))
          ⟨true, 0, cipherContextSetIv lib c.env ctx.cipherCtx (r₀.take c.env.encIvLen) false⟩
          (r₀.drop c.env.encIvLen :: rest)).2.bind fun ds =>
        (runEach authSha1V4ClientPostDecrypt c.ld ds).2 := by
  have h₀ := hreads r₀ List.mem_cons_self
  obtain ⟨cache, hout, hk⟩ := clientDecryptCall_first lib hdctx hinit (List.length_pos_of_ne_nil h₀.1)
    hlen h₀.2 hcache
  -- the first read, then the rest read by read against the layers
  have hrest := runEach_sim (ClientKeyed _) (fun r => r ≠ [] ∧ r.length < 2 ^ 64)
    (fun _ _ r hk hr => @clientDecryptCall_stack τ κ lib _ _ _ hk r hr.1 hr.2) rest _ _ hk
    (fun r hr => hreads r (List.mem_cons_of_mem _ hr))
  rw [runEach_cons_congr hout hrest, decryptLayers, runEach_stack, streamUpdate_ivCache]

end ClientReads

/-! ## The server's calls on buffers -/

/-- What the server's protocol encoder hands `ss_encrypt` on each call, in order. -/
def serverChunks (ld : AuthSimpleLocal) : (Nat → Shift128) → List (List UInt8) → List (List UInt8)
  | _, [] => []
  | rngs, p :: ps => (authSha1V4ServerPreEncrypt ld (rngs 0) p).1 :: serverChunks ld (fun k => rngs (k + 1)) ps

theorem serverChunks_flatten (ld : AuthSimpleLocal) :
    ∀ (ps : List (List UInt8)) (rngs : Nat → Shift128),
      (serverChunks ld rngs ps).flatten = serverSends ld rngs ps := by
  intro ps
  induction ps with
  | nil => intro _; rfl
  | cons p ps ih =>
    intro rngs
    rw [serverChunks, serverSends, List.flatten_cons, ih]

section ServerSends

variable {τ κ : Type} (crypto : Crypto) (lib : CipherLib τ κ) (now : UInt32)

/-- The server's encrypt calls from a context `ctx` are `ss_encrypt` on what its encoder
writes, call by call. -/
theorem run_serverEncrypt : ∀ (ps : List (List UInt8)) (s : Sha1V4Server τ κ) (ctx : EncCtx τ),
    s.eCtx = some ctx →
    (run (tunnelCipherServerEncrypt (sha1V4ServerPipeline crypto lib now)) s ps).2 =
      ssEncryptChunks lib s.env ctx (serverChunks s.ld s.rngs ps) := by
  intro ps
  induction ps with
  | nil => intro _ _ _; rfl
  | cons p ps ih =>
    intro s ctx hctx
    rw [run, serverEncrypt_eq, serverChunks, ssEncryptChunks, hctx, ssEncrypt_some]
    -- `ss_encrypt` fails exactly when the cipher step does
    cases h : streamUpdate lib s.env (ssEncryptIv lib s.env ctx).2 _ with
    | none => rfl
    | some r =>
      obtain ⟨ctx', o⟩ := r
      dsimp only
      rw [ih _ ctx' rfl]

variable (env : CipherEnv κ)

/-- The server's calls on buffers send the IV of its `e_ctx` and then a ciphertext that a
context keyed for decryption with that IV turns back into what the protocol's encoder wrote. -/
theorem serverEncrypt_run_sends_iv (hl : StreamLib lib) (hm : 1 < env.encMethod.code)
    (base : ServerInfo) (e : Entropy) (rngs : Nat → Shift128) (p : List UInt8)
    (ps : List (List UInt8)) :
    let s₀ : Sha1V4Server τ κ := sha1V4ServerCreate lib env base e rngs
    ∃ body, (run (tunnelCipherServerEncrypt (sha1V4ServerPipeline crypto lib now)) s₀ (p :: ps)).2 =
        some ((randBytes e env.encIvLen).1 ++ body) ∧
      ∀ cD : CipherCtx τ, ∃ ctxD, streamUpdate lib env
        ⟨true, 0, cipherContextSetIv lib env cD (randBytes e env.encIvLen).1 false⟩ body =
          some (ctxD, serverSends s₀.ld rngs (p :: ps)) := by
  intro s₀
  have hs := streamUpdate_isStream lib env hl.stream hl.ietf
  have heCtx : s₀.eCtx = some (encCtxNewInstance lib env true e).1 := by
    simp only [s₀, sha1V4ServerCreate, createCtxs_of_code lib env hm]
  have hrngs : s₀.rngs = rngs := rfl
  have henv : s₀.env = env := rfl
  obtain ⟨body, ctxE, hE, hD⟩ := streamUpdate_inverse lib env hl
    { cipherContextInit lib env true with iv := (randBytes e env.encIvLen).1 }
    (show _ = (randBytes e env.encIvLen).1 from rfl) (serverSends s₀.ld rngs (p :: ps))
  refine ⟨body, ?_, hD⟩
  -- one chunk per buffer, so the first call sends the IV
  obtain ⟨q, qs, hq⟩ : ∃ q qs, serverChunks s₀.ld rngs (p :: ps) = q :: qs := ⟨_, _, rfl⟩
  rw [run_serverEncrypt crypto lib now (p :: ps) s₀ _ heCtx, hrngs, henv, hq,
    ssEncryptChunks_eq lib env hs, ← hq, serverChunks_flatten, ssEncryptIv_new, hE]
  rfl

end ServerSends

/-! ## The round trip -/

section RoundTrip

variable {τ κ : Type} (crypto : Crypto) (lib : CipherLib τ κ) (env : CipherEnv κ)

/-- **`tunnel_cipher_server_encrypt` and `tunnel_cipher_client_decrypt` with `auth_sha1_v4`,
obfs `plain` and a stream cipher carry the server's buffers under every cut.** A server and a
client made by `tunnel_cipher_create` in processes with the same password and method: the
server's calls succeed on any buffers (the confirmation's empty one among them), and any cut
of what they send into reads of at most `SSR_BUFF_SIZE` bytes, the size the client's
`tunnel_get_alloc_size` gives every read, the first of which holds the IV, makes the client's
calls hand on exactly the buffers. This needs an IV the client's cache has not seen and a
library whose cipher writes as many bytes as it is given: then a read and the part of a frame
still pending, shorter than 2009 bytes, fit the receiver's 16384. -/
theorem sha1v4_pipeline_reply_round_trip (hl : StreamLib lib) (hk : KeepsLength lib)
    (hm : 1 < env.encMethod.code) (base base' : ServerInfo) (e e' : Entropy)
    (world : Nat → ClientWorld) (rngs : Nat → Shift128) (cache : κ) (now : UInt32)
    (hcache : 2 < env.encMethod.code →
      lib.cacheKeyExist cache (sha1V4ServerCreate lib env base' e' rngs : Sha1V4Server τ κ).server.iv = false)
    (bufs : List (List UInt8)) :
    ∃ out, (run (tunnelCipherServerEncrypt (sha1V4ServerPipeline crypto lib now))
        (sha1V4ServerCreate lib env base' e' rngs) bufs).2 = some out ∧
      ∀ rs : List (List UInt8), rs.flatten = out → (∀ r ∈ rs, r ≠ [] ∧ r.length ≤ ssrBuffSize) →
        (∀ r ∈ rs.head?, env.encIvLen ≤ r.length) →
        (run (clientDecryptCall lib) (sha1V4ClientCreate lib { env with ivCache := cache } base e world)
          rs).2 = some bufs.flatten := by
  have hsiv : (sha1V4ServerCreate lib env base' e' rngs : Sha1V4Server τ κ).server.iv =
      (randBytes e' env.encIvLen).1 := by
    rw [sha1V4ServerCreate_server, createServerInfo_of_code lib env hm]
  rw [hsiv] at hcache
  cases bufs with
  | nil =>
    -- nothing is sent, and reads that are not empty cut nothing
    refine ⟨[], rfl, fun rs hflat hne _ => ?_⟩
    cases rs with
    | nil => rfl
    | cons r rs =>
      exact absurd (List.flatten_eq_nil_iff.mp hflat r List.mem_cons_self) (hne r List.mem_cons_self).1
  | cons p ps =>
    obtain ⟨body, hrun, hD⟩ := serverEncrypt_run_sends_iv crypto lib now env hl hm base' e' rngs p ps
    refine ⟨_, hrun, fun rs hflat hne hfirst => ?_⟩
    have hne' : ∀ r ∈ rs, r ≠ [] ∧ r.length < 2 ^ 64 :=
      fun r hr => ⟨(hne r hr).1, by have := (hne r hr).2; unfold ssrBuffSize at this; omega⟩
    cases rs with
    | nil =>
      -- the server's encoder always writes a frame, and the cipher keeps lengths, so the stream
      -- is not empty
      have hbody := (List.append_eq_nil_iff.mp hflat.symm).2
      obtain ⟨ctxD, hctxD⟩ := hD (cipherContextInit lib env false)
      have hsent := streamUpdate_length lib env hk hctxD
      rw [hbody, serverSends, List.length_append, List.length_nil] at hsent
      have := List.length_pos_iff.mpr
        (authSha1V4ServerPreEncrypt_ne_nil (sha1V4ServerCreate lib env base' e' rngs : Sha1V4Server τ κ).ld (rngs 0) p)
      omega
    | cons r₀ rest =>
      have hlen : env.encIvLen ≤ r₀.length := hfirst r₀ rfl
      have hivlen := randBytes_length e' env.encIvLen
      rw [List.flatten_cons] at hflat
      -- the first read holds the IV, and the rest of the stream is the ciphertext
      have htake : r₀.take env.encIvLen = (randBytes e' env.encIvLen).1 := by
        rw [← List.take_append_of_le_length hlen, hflat, List.take_left' hivlen]
      have hdrop : r₀.drop env.encIvLen ++ rest.flatten = body := by
        rw [← List.drop_append_of_le_length hlen, hflat, List.drop_left' hivlen]
      obtain ⟨ctx, hdctx, hinit⟩ : ∃ ctx,
          (sha1V4ClientCreate lib { env with ivCache := cache } base e world).dCtx = some ctx ∧
            ctx.init = false :=
        ⟨_, by rw [sha1V4ClientCreate_dCtx, createCtxs_of_code lib { env with ivCache := cache } hm],
          encCtxNewInstance_init lib _ false _⟩
      have hlayers := runEach_clientDecryptCall lib hdctx hinit hlen hne'
        (show 2 < env.encMethod.code → lib.cacheKeyExist cache (r₀.take env.encIvLen) = false by
          rw [htake]; exact hcache)
      simp only [sha1V4ClientCreate_env, streamUpdate_ivCache] at hlayers
      -- the cipher step of the client's `d_ctx` undoes the server's
      obtain ⟨ctxD, hctxD⟩ := hD ctx.cipherCtx
      have hlow := runEach_updateCall (streamUpdate_isStream lib env hl.stream hl.ietf)
        (r₀.drop env.encIvLen :: rest)
        ⟨true, 0, cipherContextSetIv lib { env with ivCache := cache } ctx.cipherCtx (r₀.take env.encIvLen) false⟩
      rw [List.flatten_cons, hdrop,
        show streamUpdate lib env ⟨true, 0, cipherContextSetIv lib { env with ivCache := cache }
          ctx.cipherCtx (r₀.take env.encIvLen) false⟩ body = some (ctxD, _) by rw [htake]; exact hctxD,
        Option.map_some] at hlow
      obtain ⟨ds, hds, hdsP⟩ := Option.map_eq_some_iff.mp hlow
      -- the cipher step keeps the reads' lengths, so each piece fits the receive buffer
      have hlens := runEach_updateCall_length (fun _ _ _ _ h => streamUpdate_length lib env hk h) _ _ ds hds
      have hfit : ∀ d ∈ ds, d.length ≤ ssrBuffSize := by
        intro d hd
        obtain ⟨r, hr, hrd⟩ := List.mem_map.mp (hlens ▸ List.mem_map_of_mem hd)
        rw [← hrd]
        rcases List.mem_cons.mp hr with rfl | hr
        · rw [List.length_drop]
          have := (hne r₀ List.mem_cons_self).2
          omega
        · exact (hne r (List.mem_cons_of_mem _ hr)).2
      rw [run_eq_runEach]
      dsimp only
      rw [hlayers, hds, Option.bind_some]
      -- the protocol's receiver reads every cut of the server's frames
      have hunit : (sha1V4ServerCreate lib env base' e' rngs : Sha1V4Server τ κ).ld.unitLen =
          authSimplePackUnitSize := authSha1V4NewObfs_unitLen _
      obtain ⟨fs, hch, hw, ho, hb⟩ := serverSends_chain (by rw [hunit]; decide) hunit.le
        (sha1V4ClientCreate lib { env with ivCache := cache } base e world).ld (p :: ps) rngs
      have hup := run_chain clientPostDecrypt_drains hch (clientStep_nil _) hb
        (fun q hq d hd => by
          have hd := hfit d hd
          have hB : maxFrameLength = 2009 := rfl
          have hS : ssrBuffSize = 2048 := rfl
          rcases hq with hq | rfl
          · omega
          · rw [List.length_nil]; omega)
        (hdsP.trans hw.symm) (recvView_of_empty rfl)
      rw [run_eq_runEach, List.flatMap_id, ho] at hup
      exact hup.2

/-- CFB-128 writes as many bytes as it is given. -/
theorem cfbLib_keepsLength (crypto : Crypto) (E : List UInt8 → List UInt8 → List UInt8) :
    KeepsLength (cfbLib crypto E) := by
  intro c m c' o h
  obtain ⟨-, rfl⟩ := Prod.mk.inj (Option.some.inj h)
  exact cfbUpdate_length E c m

/-- The server's confirmation and a payload, under AES-128-CFB. -/
theorem sample_pipeline_reply_round_trip :
    ∃ out, (run (tunnelCipherServerEncrypt (sha1V4ServerPipeline pipelineCrypto sampleCfbLib sampleWorld.now))
        (sha1V4ServerCreate sampleCfbLib sampleEnv sampleServer sampleIvEntropy fun _ => ⟨0, 0⟩)
        [[], samplePayload]).2 = some out ∧
      ∀ rs : List (List UInt8), rs.flatten = out → (∀ r ∈ rs, r ≠ [] ∧ r.length ≤ ssrBuffSize) →
        (∀ r ∈ rs.head?, sampleEnv.encIvLen ≤ r.length) →
        (run (clientDecryptCall sampleCfbLib)
          (sha1V4ClientCreate sampleCfbLib { sampleEnv with ivCache := () } sampleServer sampleEntropy
            fun _ => sampleWorld) rs).2 = some [[], samplePayload].flatten :=
  sha1v4_pipeline_reply_round_trip pipelineCrypto sampleCfbLib sampleEnv (cfbLib_streamLib _ _)
    (cfbLib_keepsLength _ _) (by decide) sampleServer sampleServer sampleEntropy sampleIvEntropy
    (fun _ => sampleWorld) (fun _ => ⟨0, 0⟩) () sampleWorld.now (fun _ => rfl) [[], samplePayload]

/-- The server's stream on the sample run: the IV, then AES-128-CFB of the protocol's 30 bytes
under the sample key and that IV. -/
example : (run (tunnelCipherServerEncrypt (sha1V4ServerPipeline pipelineCrypto sampleCfbLib sampleWorld.now))
      (sha1V4ServerCreate sampleCfbLib sampleEnv sampleServer sampleIvEntropy fun _ => ⟨0, 0⟩)
      [[], samplePayload]).2 = some ((List.range 16).map (fun i => (i + 1).toUInt8) ++
    [0xed, 0xee, 0x46, 0xfb, 0x3f, 0x9e, 0x8b, 0x86, 0xa9, 0x1c, 0x72, 0xa9, 0x6a, 0x2d, 0x7f, 0xfc,
     0x4c, 0xbd, 0xef, 0x45, 0xbd, 0x90, 0x35, 0x4b, 0xca, 0xf1, 0xa3, 0xb7, 0xc2, 0xc4]) := by
  decide +kernel

end RoundTrip

end ShadowsocksR.Executive
