/-
  ShadowsocksR.Encrypt.Cipher — the stream ciphers of `encrypt.c`: `ss_encrypt`,
  `ss_decrypt` (a context kept across calls) and `ss_encrypt_all`, `ss_decrypt_all` (one
  call, its own context), with `crypto_stream_xor_ic` and `cipher_context_set_iv`.

  A method past `table` has an `enc_ctx`: the first `ss_encrypt` keys it with its IV
  and sends the IV ahead of the ciphertext, the first `ss_decrypt` takes the IV from the
  front of its buffer. The sodium methods (`salsa20`, `chacha20`, `chacha20-ietf`) XOR
  a keystream from a byte counter kept in the context; the others go through the
  library's cipher update (mbedTLS). `none` and `table` have no context and take the
  branch that maps each byte through a table (`Encrypt.Table`).

  The library is a parameter (`CipherLib`): its cipher contexts, keystreams and the
  IV cache (`cache.c`'s hash table, whose eviction nothing here depends on). A call
  that reads past its buffer's allocation is a `Fault`: in C it reads or writes out of
  bounds (or dereferences the failed `realloc` before it). The context's `uint64_t`
  counter is a `Nat`: it would wrap after 2^64 bytes.

  Proved:
  - the step both directions make after the IV (`streamUpdate`) is a stream transform
    whenever the library's update is one (`streamUpdate_isStream`), from the padding
    arithmetic of the sodium branch (`counter % 64` zero bytes in front of a call from
    block `counter / 64`);
  - `ss_encrypt` over any split of a plaintext emits the IV once and then what one call
    of `ss_encrypt_all` with the same IV emits, and `ss_decrypt` over any split of that
    whose first read holds the IV returns the plaintext (`ss_stream_round_trip`);
  - a first read shorter than the IV makes `ss_decrypt` read `2^64` bytes less the
    shortfall past the IV: a fault, for every stream method
    (`ss_decrypt_faults_on_a_first_read_shorter_than_the_iv`);
  - the `table` method's tables are inverse permutations, so decryption undoes
    encryption on every buffer (`table_cipher_round_trip`).
-/

import ShadowsocksR.Buffer
import ShadowsocksR.Encrypt.Table
import ShadowsocksR.Lib.StreamCipher

namespace ShadowsocksR.Encrypt

open Bytes StreamCipher

/-- `enum ss_cipher_type` (`SS_CIPHER_MAP`). -/
inductive SsCipherType where
  | none | table | rc4 | rc4Md56 | rc4Md5
  | aes128Cfb | aes192Cfb | aes256Cfb | aes128Ctr | aes192Ctr | aes256Ctr
  | bfCfb | camellia128Cfb | camellia192Cfb | camellia256Cfb
  | cast5Cfb | desCfb | ideaCfb | rc2Cfb | seedCfb
  | salsa20 | chacha20 | chacha20ietf
  deriving DecidableEq, Repr

/-- The code of each method in `SS_CIPHER_MAP`; the code compares methods by it. -/
def SsCipherType.code : SsCipherType → Nat
  | none => 0 | table => 1 | rc4 => 2 | rc4Md56 => 3 | rc4Md5 => 4
  | aes128Cfb => 5 | aes192Cfb => 6 | aes256Cfb => 7 | aes128Ctr => 8 | aes192Ctr => 9
  | aes256Ctr => 10 | bfCfb => 11 | camellia128Cfb => 12 | camellia192Cfb => 13
  | camellia256Cfb => 14 | cast5Cfb => 15 | desCfb => 16 | ideaCfb => 17 | rc2Cfb => 18
  | seedCfb => 19 | salsa20 => 20 | chacha20 => 21 | chacha20ietf => 22

/-- `ss_cipher_key_size`: the key length of each method in `SS_CIPHER_MAP`. -/
def ssCipherKeySize : SsCipherType → Nat
  | .none => 16 | .table => 16 | .rc4 => 16 | .rc4Md56 => 16 | .rc4Md5 => 16
  | .aes128Cfb => 16 | .aes192Cfb => 24 | .aes256Cfb => 32 | .aes128Ctr => 16 | .aes192Ctr => 24
  | .aes256Ctr => 32 | .bfCfb => 16 | .camellia128Cfb => 16 | .camellia192Cfb => 24
  | .camellia256Cfb => 32 | .cast5Cfb => 16 | .desCfb => 8 | .ideaCfb => 16 | .rc2Cfb => 16
  | .seedCfb => 16 | .salsa20 => 32 | .chacha20 => 32 | .chacha20ietf => 32

/-- `env->enc_key_len` as `cipher_env_new_instance` sets it: the password's length for
`table` (`enc_table_init` copies the password as the key), the 16 bytes of
`bytes_to_key(NULL, ...)` for `none`, and for the other methods `cipher_key_size`,
the library's key length, which is the one `SS_CIPHER_MAP` gives. -/
def encKeyLen (method : SsCipherType) (pass : List UInt8) : Nat :=
  match method with
  | .none => 16
  | .table => CString.strlen pass
  | m => ssCipherKeySize m

/-- `struct cipher_env_t`: the tables of `table`, the key (its `enc_key_len` bytes), the
IV length, the method and the cache of IVs seen. -/
structure CipherEnv (κ : Type) where
  encTable : List UInt8
  decTable : List UInt8
  encKey : List UInt8
  encIvLen : Nat
  encMethod : SsCipherType
  ivCache : κ

/-- `struct cipher_ctx_t`: the library's context and the IV (its `enc_iv_len` bytes). -/
structure CipherCtx (σ : Type) where
  core : σ
  iv : List UInt8

/-- `struct enc_ctx`. -/
structure EncCtx (σ : Type) where
  init : Bool
  counter : Nat
  cipherCtx : CipherCtx σ

/-- What `encrypt.c` takes from its libraries: MD5, mbedTLS's cipher contexts
(`mbedtls_cipher_setup`; `setkey`, `set_iv` and `reset` on one context, key and IV
first; `mbedtls_cipher_update`, `none` when it reports an error), libsodium's keystreams
(byte `j` for a method, key and nonce) and `cache.c`'s lookup and insertion. -/
structure CipherLib (σ κ : Type) where
  crypto : Crypto
  coreInit : SsCipherType → Bool → σ
  setKeyIv : σ → List UInt8 → List UInt8 → Bool → σ
  update : σ → List UInt8 → Option (σ × List UInt8)
  keystream : SsCipherType → List UInt8 → List UInt8 → Nat → UInt8
  cacheKeyExist : κ → List UInt8 → Bool
  cacheInsert : κ → List UInt8 → κ

/-- A call that reads past the end of an allocation. -/
inductive Fault where
  | outOfBounds
  deriving DecidableEq, Repr

/-- What `ss_decrypt` leaves: the buffer's new contents (`none` for the -1 return, the
buffer then as it was), the context and the IV cache. -/
structure Decrypted (σ κ : Type) where
  plain : Option (List UInt8)
  ctx : Option (EncCtx σ)
  ivCache : κ

/-- `n` bytes of `b`'s allocation from `off` on, as `memcpy` or a cipher call reads them;
a fault when they do not all lie inside the allocation. -/
def readBytes (b : Buffer) (off n : Nat) : Except Fault (List UInt8) :=
  if off + n ≤ b.capacity + 1 then pure (b.read off n) else throw .outOfBounds

section Model

variable {σ κ : Type} (lib : CipherLib σ κ) (env : CipherEnv κ)

/-- `crypto_stream_xor_ic(c, m, mlen, n, ic, k, method)`: the keystream from block `ic`;
`chacha20-ietf` takes the block number as a `uint32_t`. The other methods write nothing,
and every caller's output is fresh from `calloc`. -/
def cryptoStreamXorIc (m n : List UInt8) (ic : Nat) (k : List UInt8) : SsCipherType → List UInt8
  | .salsa20 => xorFrom (lib.keystream .salsa20 k n) (64 * ic) m
  | .chacha20 => xorFrom (lib.keystream .chacha20 k n) (64 * ic) m
  | .chacha20ietf => xorFrom (lib.keystream .chacha20ietf k n) (64 * (ic % 2 ^ 32)) m
  | _ => List.replicate m.length 0

/-- `cipher_context_init`: the library context set up for the method. -/
def cipherContextInit (enc : Bool) : CipherCtx σ :=
  ⟨lib.coreInit env.encMethod enc, List.replicate env.encIvLen 0⟩

/-- `cipher_context_set_iv(env, ctx, iv, iv_len, enc)`: a decrypting context keeps the IV;
the sodium methods stop there; `rc4-md5` keys the cipher with `MD5(key[0..16) ++ iv)` and
no IV, the others with the key and the IV. -/
def cipherContextSetIv (ctx : CipherCtx σ) (iv : List UInt8) (enc : Bool) : CipherCtx σ :=
  let ctx := if enc then ctx else { ctx with iv := iv }
  if 20 ≤ env.encMethod.code then ctx
  else if env.encMethod = .rc4Md5 ∨ env.encMethod = .rc4Md56 then
    let trueKey := (lib.crypto.md5 ((List.range 16).map (byteAt env.encKey) ++ iv)).toList
    { ctx with core := lib.setKeyIv ctx.core trueKey [] enc }
  else { ctx with core := lib.setKeyIv ctx.core env.encKey iv enc }

/-- `enc_ctx_new_instance(env, encrypt)`: a zeroed context, an encrypting one with a
random IV. -/
def encCtxNewInstance (encrypt : Bool) (e : Entropy) : EncCtx σ × Entropy :=
  let ctx := cipherContextInit lib env encrypt
  if encrypt then
    let (iv, e) := randBytes e env.encIvLen
    (⟨false, 0, { ctx with iv := iv }⟩, e)
  else (⟨false, 0, ctx⟩, e)

/-- The cipher step `ss_encrypt` and `ss_decrypt` make on the bytes after the IV: for the
sodium methods the keystream from the context's counter, the call made from the block
below it on `counter % 64` zero bytes and the message and those bytes cut off after; for
the others the library's update; `none` when the library reports an error. -/
def streamUpdate (ctx : EncCtx σ) (m : List UInt8) : Option (EncCtx σ × List UInt8) :=
  if 20 ≤ env.encMethod.code then
    let padding := ctx.counter % 64
    some ({ ctx with counter := ctx.counter + m.length },
      (cryptoStreamXorIc lib (List.replicate padding 0 ++ m) ctx.cipherCtx.iv (ctx.counter / 64)
        env.encKey env.encMethod).drop padding)
  else
    match lib.update ctx.cipherCtx.core m with
    | none => none
    | some (core, out) => some ({ ctx with cipherCtx := { ctx.cipherCtx with core := core } }, out)

/-- The first `ss_encrypt` keys the context with its own IV, which goes ahead of the
ciphertext; later calls add nothing. -/
def ssEncryptIv (ctx : EncCtx σ) : List UInt8 × EncCtx σ :=
  if ctx.init then ([], ctx)
  else (ctx.cipherCtx.iv.take env.encIvLen,
    ⟨true, 0, cipherContextSetIv lib env ctx.cipherCtx ctx.cipherCtx.iv true⟩)

/-- `ss_encrypt(env, plain, ctx, capacity)`: the new contents of `plain` (`none` for -1)
and the context. -/
def ssEncrypt (plain : List UInt8) : Option (EncCtx σ) → Option (List UInt8) × Option (EncCtx σ)
  | none => (some (if env.encMethod = .table then tableTranslate env.encTable plain else plain), none)
  | some ctx =>
    let (header, ctx) := ssEncryptIv lib env ctx
    match streamUpdate lib env ctx plain with
    | none => (none, some ctx)
    | some (ctx', out) => (some (header ++ out), some ctx')

/-- The first `ss_decrypt` takes the IV from the front of the buffer, keys the context
with it and, past `rc4`, checks it against the IV cache and adds it; `true` when the cache
had it (the call then returns -1). -/
def ssDecryptIv (cipher : Buffer) (ctx : EncCtx σ) : Except Fault (EncCtx σ × κ × Bool) :=
  if ctx.init then pure (ctx, env.ivCache, false)
  else do
    let iv ← readBytes cipher 0 env.encIvLen
    let ctx : EncCtx σ := ⟨true, 0, cipherContextSetIv lib env ctx.cipherCtx iv false⟩
    pure <|
      if 2 < env.encMethod.code then
        if lib.cacheKeyExist env.ivCache iv then (ctx, env.ivCache, true)
        else (ctx, lib.cacheInsert env.ivCache iv, false)
      else (ctx, env.ivCache, false)

/-- `ss_decrypt(env, cipher, ctx, capacity)`. The bytes after the IV are
`cipher->len - iv_len` of them, a `size_t` difference taken with no check that the buffer
holds the IV. -/
def ssDecrypt (cipher : Buffer) : Option (EncCtx σ) → Except Fault (Decrypted σ κ)
  | none =>
    pure ⟨some (if env.encMethod = .table then tableTranslate env.decTable cipher.data
      else cipher.data), none, env.ivCache⟩
  | some ctx => do
    let ivLen := if ctx.init then 0 else env.encIvLen
    let (ctx, ivCache, replayed) ← ssDecryptIv lib env cipher ctx
    if replayed then pure ⟨none, some ctx, ivCache⟩
    else do
      let input ← readBytes cipher ivLen (sizeSub cipher.len ivLen)
      match streamUpdate lib env ctx input with
      | none => pure ⟨none, some ctx, ivCache⟩
      | some (ctx', out) => pure ⟨some out, some ctx', ivCache⟩

/-- `ss_encrypt_all(env, plain, capacity)`: a context of its own, a fresh IV in front. -/
def ssEncryptAll (plain : List UInt8) (e : Entropy) : Option (List UInt8) × Entropy :=
  if 1 < env.encMethod.code then
    let (iv, e) := randBytes e env.encIvLen
    let ctx := cipherContextSetIv lib env (cipherContextInit lib env true) iv true
    if 20 ≤ env.encMethod.code then
      (some (iv ++ cryptoStreamXorIc lib plain iv 0 env.encKey env.encMethod), e)
    else
      match lib.update ctx.core plain with
      | none => (none, e)
      | some (_, out) => (some (iv ++ out), e)
  else (some (if env.encMethod = .table then tableTranslate env.encTable plain else plain), e)

/-- `ss_decrypt_all(env, cipher, capacity)`: -1 unless the buffer holds more than the IV. -/
def ssDecryptAll (cipher : List UInt8) : Option (List UInt8) :=
  if 1 < env.encMethod.code then
    if cipher.length ≤ env.encIvLen then none
    else
      let iv := cipher.take env.encIvLen
      let ctx := cipherContextSetIv lib env (cipherContextInit lib env false) iv false
      if 20 ≤ env.encMethod.code then
        some (cryptoStreamXorIc lib (cipher.drop env.encIvLen) iv 0 env.encKey env.encMethod)
      else (lib.update ctx.core (cipher.drop env.encIvLen)).map Prod.snd
  else some (if env.encMethod = .table then tableTranslate env.decTable cipher else cipher)

/-- `cipher_env_new_instance(pass, "table")`: the tables of `enc_table_init`, the password
as the key and no IV. `table` never creates an IV cache; here it is `cache`. -/
def cipherEnvNewTable (crypto : Crypto) (pass : List UInt8) (cache : κ) : Option (CipherEnv κ) := do
  let (encTable, decTable) ← encTableInit crypto pass
  pure ⟨encTable, decTable, CString.cstr pass, 0, .table, cache⟩

/-- `ss_encrypt` on each chunk of a stream in turn, the outputs concatenated; `none` once
a call returns -1. -/
def ssEncryptChunks : EncCtx σ → List (List UInt8) → Option (List UInt8)
  | _, [] => some []
  | ctx, p :: ps =>
    match ssEncrypt lib env p (some ctx) with
    | (some c, some ctx') => (ssEncryptChunks ctx' ps).map (c ++ ·)
    | _ => none

end Model

/-- `ss_decrypt` on each read of a stream in turn, the IV cache carried from call to call. -/
def ssDecryptChunks {σ κ : Type} (lib : CipherLib σ κ) :
    CipherEnv κ → EncCtx σ → List Buffer → Except Fault (Option (List UInt8))
  | _, _, [] => pure (some [])
  | env, ctx, b :: bs => do
    let r ← ssDecrypt lib env b (some ctx)
    match r.plain, r.ctx with
    | some p, some ctx' => do
      let rest ← ssDecryptChunks lib { env with ivCache := r.ivCache } ctx' bs
      pure (rest.map (p ++ ·))
    | _, _ => pure none

/-! ## The cipher step is a stream transform -/

theorem SsCipherType.sodium_cases {m : SsCipherType} (h : 20 ≤ m.code) :
    m = .salsa20 ∨ m = .chacha20 ∨ m = .chacha20ietf := by
  cases m <;> simp [SsCipherType.code] at h ⊢

section Step

variable {σ κ : Type} (lib : CipherLib σ κ) (env : CipherEnv κ)

/-- `chacha20-ietf`'s block counter has 32 bits: its keystream repeats every 2^32 blocks of
64 bytes. -/
def IetfPeriodic : Prop :=
  ∀ key n j, lib.keystream .chacha20ietf key n (j + 2 ^ 38) = lib.keystream .chacha20ietf key n j

theorem cryptoStreamXorIc_eq (hp : IetfPeriodic lib) {method : SsCipherType}
    (hm : 20 ≤ method.code) (m n : List UInt8) (ic : Nat) (k : List UInt8) :
    cryptoStreamXorIc lib m n ic k method = xorFrom (lib.keystream method k n) (64 * ic) m := by
  rcases SsCipherType.sodium_cases hm with rfl | rfl | rfl
  · rfl
  · rfl
  · -- the block number cut to 32 bits starts a whole number of periods early
    have h : 64 * ic = 64 * (ic % 2 ^ 32) + 2 ^ 38 * (ic / 2 ^ 32) := by omega
    rw [cryptoStreamXorIc, h, xorFrom_periodic _ (hp k n)]

theorem streamUpdate_sodium (hp : IetfPeriodic lib) (hm : 20 ≤ env.encMethod.code)
    (ctx : EncCtx σ) (m : List UInt8) :
    streamUpdate lib env ctx m = some ({ ctx with counter := ctx.counter + m.length },
      xorFrom (lib.keystream env.encMethod env.encKey ctx.cipherCtx.iv) ctx.counter m) := by
  rw [streamUpdate, if_pos hm]
  dsimp only
  rw [cryptoStreamXorIc_eq lib hp hm, xorFrom_pad]

theorem streamUpdate_core (hm : ¬ 20 ≤ env.encMethod.code) (ctx : EncCtx σ) (m : List UInt8) :
    streamUpdate lib env ctx m = (lib.update ctx.cipherCtx.core m).map fun r =>
      ({ ctx with cipherCtx := { ctx.cipherCtx with core := r.1 } }, r.2) := by
  rw [streamUpdate, if_neg hm]
  cases lib.update ctx.cipherCtx.core m <;> rfl

theorem streamUpdate_isStream (hs : IsStream lib.update) (hp : IetfPeriodic lib) :
    IsStream (streamUpdate lib env) := by
  by_cases hm : 20 ≤ env.encMethod.code
  · -- the keystream from the counter splits where the message does
    constructor
    · intro ctx
      rw [streamUpdate_sodium lib env hp hm]
      simp
    · intro ctx a b
      simp only [streamUpdate_sodium lib env hp hm, xorFrom_append, List.length_append,
        Nat.add_assoc]
  · constructor
    · intro ctx
      rw [streamUpdate_core lib env hm, hs.nil]
      rfl
    · intro ctx a b
      simp only [streamUpdate_core lib env hm, hs.append]
      cases lib.update ctx.cipherCtx.core a with
      | none => rfl
      | some r =>
        simp only [Option.map_some]
        cases lib.update r.1 b <;> rfl

theorem streamUpdate_init {ctx ctx' : EncCtx σ} {m o : List UInt8}
    (h : streamUpdate lib env ctx m = some (ctx', o)) : ctx'.init = ctx.init := by
  unfold streamUpdate at h
  split at h
  · cases h; rfl
  · split at h
    · cases h
    · cases h; rfl

/-- Setting the IV keys the library context from the old one alone: the IV a context
already holds plays no part. -/
theorem cipherContextSetIv_core (c c' : CipherCtx σ) (h : c.core = c'.core) (iv : List UInt8)
    (enc : Bool) : (cipherContextSetIv lib env c iv enc).core = (cipherContextSetIv lib env c' iv enc).core := by
  unfold cipherContextSetIv
  cases enc <;> simp only [Bool.false_eq_true, if_false, if_true] <;> split_ifs <;> simp [h]

/-- An encrypting context keeps its IV when it is keyed. -/
theorem cipherContextSetIv_iv_enc (c : CipherCtx σ) (iv : List UInt8) :
    (cipherContextSetIv lib env c iv true).iv = c.iv := by
  unfold cipherContextSetIv
  simp only [if_true]
  split_ifs <;> rfl

/-- A decrypting context takes the IV it is keyed with. -/
theorem cipherContextSetIv_iv_dec (c : CipherCtx σ) (iv : List UInt8) :
    (cipherContextSetIv lib env c iv false).iv = iv := by
  unfold cipherContextSetIv
  simp only [Bool.false_eq_true, if_false]
  split_ifs <;> rfl

end Step

/-! ## Encryption over chunks -/

section Encrypt

variable {σ κ : Type} (lib : CipherLib σ κ) (env : CipherEnv κ)

theorem ssEncrypt_some (ctx : EncCtx σ) (p : List UInt8) :
    ssEncrypt lib env p (some ctx) =
      match streamUpdate lib env (ssEncryptIv lib env ctx).2 p with
      | none => (none, some (ssEncryptIv lib env ctx).2)
      | some (ctx', out) => (some ((ssEncryptIv lib env ctx).1 ++ out), some ctx') := rfl

theorem ssEncryptIv_init {ctx : EncCtx σ} (h : ctx.init = true) : ssEncryptIv lib env ctx = ([], ctx) := by
  simp [ssEncryptIv, h]

theorem ssEncryptIv_init_snd (ctx : EncCtx σ) : (ssEncryptIv lib env ctx).2.init = true := by
  unfold ssEncryptIv
  split
  · assumption
  · rfl

/-- Once keyed, a context's calls are its cipher steps, whatever their lengths. -/
theorem ssEncryptChunks_init : ∀ (ps : List (List UInt8)) (ctx : EncCtx σ), ctx.init = true →
    ssEncryptChunks lib env ctx ps = (feed (streamUpdate lib env) ctx ps).map Prod.snd := by
  intro ps
  induction ps with
  | nil => intro ctx _; rfl
  | cons p ps ih =>
    intro ctx hinit
    rw [ssEncryptChunks, ssEncrypt_some, ssEncryptIv_init lib env hinit, feed]
    cases h : streamUpdate lib env ctx p with
    | none => rfl
    | some r =>
      obtain ⟨ctx', o⟩ := r
      simp only [List.nil_append]
      rw [ih ctx' (by rw [streamUpdate_init lib env h, hinit])]
      cases feed (streamUpdate lib env) ctx' ps <;> rfl

/-- The first call sends the IV, and then the whole stream is one cipher step from the
keyed context. -/
theorem ssEncryptChunks_eq (hs : IsStream (streamUpdate lib env)) (ctx : EncCtx σ)
    (p : List UInt8) (ps : List (List UInt8)) :
    ssEncryptChunks lib env ctx (p :: ps) =
      (streamUpdate lib env (ssEncryptIv lib env ctx).2 (p :: ps).flatten).map
        fun r => (ssEncryptIv lib env ctx).1 ++ r.2 := by
  rw [ssEncryptChunks, ssEncrypt_some, List.flatten_cons, hs.append]
  cases h : streamUpdate lib env (ssEncryptIv lib env ctx).2 p with
  | none => rfl
  | some r =>
    obtain ⟨ctx', o⟩ := r
    have hinit : ctx'.init = true := by
      rw [streamUpdate_init lib env h, ssEncryptIv_init_snd]
    simp only
    rw [ssEncryptChunks_init lib env ps ctx' hinit, feed_eq_update hs]
    cases streamUpdate lib env ctx' ps.flatten <;> simp

/-- The fresh encrypting context's first call: its own random IV, and the context keyed
with it. -/
theorem ssEncryptIv_new (e : Entropy) :
    ssEncryptIv lib env (encCtxNewInstance lib env true e).1 =
      ((randBytes e env.encIvLen).1, ⟨true, 0, cipherContextSetIv lib env
        { cipherContextInit lib env true with iv := (randBytes e env.encIvLen).1 }
        (randBytes e env.encIvLen).1 true⟩) := by
  simp only [encCtxNewInstance, if_true, ssEncryptIv, Bool.false_eq_true, if_false]
  rw [List.take_of_length_le (by rw [randBytes_length])]

/-- `ss_encrypt_all` with an IV is the first `ss_encrypt` of a fresh context with that IV
on the whole stream. -/
theorem ssEncryptAll_eq (hp : IetfPeriodic lib) (hm : 1 < env.encMethod.code)
    (plain : List UInt8) (e : Entropy) :
    (ssEncryptAll lib env plain e).1 =
      (streamUpdate lib env (ssEncryptIv lib env (encCtxNewInstance lib env true e).1).2 plain).map
        fun r => (ssEncryptIv lib env (encCtxNewInstance lib env true e).1).1 ++ r.2 := by
  rw [ssEncryptIv_new]
  unfold ssEncryptAll
  rw [if_pos hm]
  generalize randBytes e env.encIvLen = r
  obtain ⟨iv, e'⟩ := r
  dsimp only
  by_cases hs : 20 ≤ env.encMethod.code
  · rw [if_pos hs, streamUpdate_sodium lib env hp hs, cryptoStreamXorIc_eq lib hp hs,
      cipherContextSetIv_iv_enc]
    rfl
  · rw [if_neg hs, streamUpdate_core lib env hs]
    simp only
    have hc : (cipherContextSetIv lib env { core := (cipherContextInit lib env true).core, iv := iv }
        iv true).core = (cipherContextSetIv lib env (cipherContextInit lib env true) iv true).core :=
      cipherContextSetIv_core lib env ⟨(cipherContextInit lib env true).core, iv⟩
        (cipherContextInit lib env true) rfl iv true
    rw [hc]
    cases lib.update _ plain <;> rfl

end Encrypt

/-! ## Decryption over reads -/

section Decrypt

variable {σ κ : Type} (lib : CipherLib σ κ) (env : CipherEnv κ)

theorem readBytes_of_le {b : Buffer} {off n : Nat} (h : off + n ≤ b.len) :
    readBytes b off n = pure ((b.data.drop off).take n) := by
  have := b.len_le
  rw [readBytes, if_pos (by omega), Buffer.read_of_le_len h]

theorem readBytes_past {b : Buffer} {off n : Nat} (h : b.capacity + 1 < off + n) :
    readBytes b off n = throw .outOfBounds := by
  rw [readBytes, if_neg (by omega)]

theorem sizeSub_len {b : Buffer} (hcap : b.capacity < 2 ^ 64) {k : Nat} (h : k ≤ b.len) :
    sizeSub b.len k = b.len - k :=
  sizeSub_of_le h (by have := b.len_le; omega)

/-- The IV cache plays no part in the cipher step. -/
theorem streamUpdate_ivCache (c : κ) : streamUpdate lib { env with ivCache := c } = streamUpdate lib env :=
  rfl

/-- `ss_encrypt` never looks at the IV cache. -/
theorem ssEncrypt_ivCache (c : κ) : ssEncrypt lib { env with ivCache := c } = ssEncrypt lib env :=
  rfl

/-- A keyed context decrypts the whole read. -/
theorem ssDecrypt_init {ctx : EncCtx σ} (hinit : ctx.init = true) {b : Buffer}
    (hcap : b.capacity < 2 ^ 64) :
    ssDecrypt lib env b (some ctx) = pure (match streamUpdate lib env ctx b.data with
      | none => ⟨none, some ctx, env.ivCache⟩
      | some (ctx', out) => ⟨some out, some ctx', env.ivCache⟩) := by
  have hread : readBytes b 0 (sizeSub b.len 0) = pure b.data := by
    rw [sizeSub_len hcap (Nat.zero_le _), Nat.sub_zero, readBytes_of_le (by omega), List.drop_zero,
      List.take_of_length_le (by rw [Buffer.data_length])]
  simp only [ssDecrypt, ssDecryptIv, hinit, if_true, pure_bind, Bool.false_eq_true, if_false, hread]
  cases streamUpdate lib env ctx b.data <;> rfl

/-- A fresh context takes the IV from the front of a read that holds it and decrypts the
rest; the cache, checked, gains the IV. -/
theorem ssDecrypt_fresh {ctx : EncCtx σ} (hinit : ctx.init = false) {b : Buffer}
    (hcap : b.capacity < 2 ^ 64) (hlen : env.encIvLen ≤ b.len)
    (hcache : 2 < env.encMethod.code → lib.cacheKeyExist env.ivCache (b.data.take env.encIvLen) = false) :
    ∃ ivCache, ssDecrypt lib env b (some ctx) = pure (
      let ctx' : EncCtx σ := ⟨true, 0, cipherContextSetIv lib env ctx.cipherCtx (b.data.take env.encIvLen) false⟩
      match streamUpdate lib env ctx' (b.data.drop env.encIvLen) with
      | none => ⟨none, some ctx', ivCache⟩
      | some (ctx'', out) => ⟨some out, some ctx'', ivCache⟩) := by
  have hiv : readBytes b 0 env.encIvLen = pure (b.data.take env.encIvLen) := by
    rw [readBytes_of_le (by omega), List.drop_zero]
  have hbody : readBytes b env.encIvLen (sizeSub b.len env.encIvLen) = pure (b.data.drop env.encIvLen) := by
    rw [sizeSub_len hcap hlen, readBytes_of_le (by omega), List.take_of_length_le]
    simp only [List.length_drop, Buffer.data_length]
    omega
  by_cases hc : 2 < env.encMethod.code
  · refine ⟨lib.cacheInsert env.ivCache (b.data.take env.encIvLen), ?_⟩
    simp only [ssDecrypt, ssDecryptIv, hinit, Bool.false_eq_true, if_false, hiv, hbody, pure_bind,
      if_pos hc, hcache hc]
    cases streamUpdate lib env _ (b.data.drop env.encIvLen) <;> rfl
  · refine ⟨env.ivCache, ?_⟩
    simp only [ssDecrypt, ssDecryptIv, hinit, Bool.false_eq_true, if_false, hiv, hbody, pure_bind,
      if_neg hc]
    cases streamUpdate lib env _ (b.data.drop env.encIvLen) <;> rfl

/-- Once keyed, a context's reads are its cipher steps, however the stream is cut. -/
theorem ssDecryptChunks_init : ∀ (bs : List Buffer) (env : CipherEnv κ) (ctx : EncCtx σ),
    ctx.init = true → (∀ b ∈ bs, b.capacity < 2 ^ 64) →
    ssDecryptChunks lib env ctx bs = pure ((feed (streamUpdate lib env) ctx (bs.map Buffer.data)).map Prod.snd) := by
  intro bs
  induction bs with
  | nil => intro env ctx _ _; rfl
  | cons b bs ih =>
    intro env ctx hinit hcap
    rw [ssDecryptChunks, ssDecrypt_init lib env hinit (hcap b List.mem_cons_self), pure_bind,
      List.map_cons, feed]
    cases h : streamUpdate lib env ctx b.data with
    | none => rfl
    | some r =>
      obtain ⟨ctx', o⟩ := r
      simp only
      rw [ih _ ctx' (by rw [streamUpdate_init lib env h, hinit])
        (fun x hx => hcap x (List.mem_cons_of_mem _ hx)), streamUpdate_ivCache, pure_bind]
      cases feed (streamUpdate lib env) ctx' (bs.map Buffer.data) <;> rfl

/-- A fresh context given a first read that holds the IV decrypts the rest of the stream as
one cipher step from the context keyed with that IV. -/
theorem ssDecryptChunks_fresh (hs : IsStream (streamUpdate lib env)) {ctx : EncCtx σ}
    (hinit : ctx.init = false) (b : Buffer) (bs : List Buffer) (hcap : ∀ x ∈ b :: bs, x.capacity < 2 ^ 64)
    (hlen : env.encIvLen ≤ b.len)
    (hcache : 2 < env.encMethod.code → lib.cacheKeyExist env.ivCache (b.data.take env.encIvLen) = false) :
    ssDecryptChunks lib env ctx (b :: bs) = pure ((streamUpdate lib env
      ⟨true, 0, cipherContextSetIv lib env ctx.cipherCtx (b.data.take env.encIvLen) false⟩
      (b.data.drop env.encIvLen ++ (bs.map Buffer.data).flatten)).map Prod.snd) := by
  obtain ⟨ivCache, h⟩ := ssDecrypt_fresh lib env hinit (hcap b List.mem_cons_self) hlen hcache
  rw [ssDecryptChunks, h, pure_bind, hs.append]
  dsimp only
  cases h' : streamUpdate lib env _ (b.data.drop env.encIvLen) with
  | none => rfl
  | some r =>
    obtain ⟨ctx', o⟩ := r
    have hinit' : ctx'.init = true := by rw [streamUpdate_init lib env h']
    simp only
    rw [ssDecryptChunks_init lib bs _ ctx' hinit' (fun x hx => hcap x (List.mem_cons_of_mem _ hx)),
      streamUpdate_ivCache, feed_eq_update hs, pure_bind]
    cases streamUpdate lib env ctx' (bs.map Buffer.data).flatten <;> rfl

end Decrypt

/-! ## The round trip -/

section RoundTrip

variable {σ κ : Type} (lib : CipherLib σ κ) (env : CipherEnv κ)

/-- What the round trip takes from the libraries: mbedTLS's update is a stream transform
and a context keyed for decryption undoes one keyed for encryption with the same key and
IV; `chacha20-ietf`'s keystream has its 32-bit block counter. -/
structure StreamLib : Prop where
  stream : IsStream lib.update
  inverse : ∀ c₀ c₁ key iv p, ∃ s c, lib.update (lib.setKeyIv c₀ key iv true) p = some (s, c) ∧
    ∃ s', lib.update (lib.setKeyIv c₁ key iv false) c = some (s', p)
  ietf : IetfPeriodic lib

/-- The library's inverse, with the ciphertext fixed before the decrypting context is
chosen. -/
theorem update_inverse (hl : StreamLib lib) (c₀ : σ) (key iv p : List UInt8) :
    ∃ s c, lib.update (lib.setKeyIv c₀ key iv true) p = some (s, c) ∧
      ∀ c₁, ∃ s', lib.update (lib.setKeyIv c₁ key iv false) c = some (s', p) := by
  obtain ⟨s, c, h₁, -⟩ := hl.inverse c₀ c₀ key iv p
  refine ⟨s, c, h₁, fun c₁ => ?_⟩
  obtain ⟨s₂, c₂, h₂, s', h₃⟩ := hl.inverse c₀ c₁ key iv p
  rw [h₁, Option.some.injEq, Prod.mk.injEq] at h₂
  rw [h₂.2]
  exact ⟨s', h₃⟩

/-- A context keyed for decryption with the IV an encrypting one was keyed with undoes
its first cipher step. -/
theorem streamUpdate_inverse (hl : StreamLib lib) (cE : CipherCtx σ) {iv : List UInt8}
    (hiv : cE.iv = iv) (p : List UInt8) :
    ∃ c ctxE, streamUpdate lib env ⟨true, 0, cipherContextSetIv lib env cE iv true⟩ p = some (ctxE, c) ∧
      ∀ cD : CipherCtx σ,
        ∃ ctxD, streamUpdate lib env ⟨true, 0, cipherContextSetIv lib env cD iv false⟩ c = some (ctxD, p) := by
  by_cases hs : 20 ≤ env.encMethod.code
  · -- both sides XOR the keystream of the same key and nonce from byte 0
    refine ⟨_, _, streamUpdate_sodium lib env hl.ietf hs _ p, fun cD => ?_⟩
    rw [streamUpdate_sodium lib env hl.ietf hs, cipherContextSetIv_iv_enc, cipherContextSetIv_iv_dec,
      hiv, xorFrom_xorFrom]
    exact ⟨_, rfl⟩
  · -- both sides key the library with the same key and IV
    simp only [streamUpdate_core lib env hs, cipherContextSetIv, if_neg hs, if_true,
      Bool.false_eq_true, if_false]
    split_ifs
    · obtain ⟨s, c, h₁, h₂⟩ := update_inverse lib hl cE.core _ [] p
      refine ⟨c, _, by rw [h₁]; rfl, fun cD => ?_⟩
      obtain ⟨s', h₃⟩ := h₂ cD.core
      exact ⟨_, by rw [h₃]; rfl⟩
    · obtain ⟨s, c, h₁, h₂⟩ := update_inverse lib hl cE.core env.encKey iv p
      refine ⟨c, _, by rw [h₁]; rfl, fun cD => ?_⟩
      obtain ⟨s', h₃⟩ := h₂ cD.core
      exact ⟨_, by rw [h₃]; rfl⟩

/-- Segmented stream encryption and any re-segmentation of its output: `ss_encrypt` on the
chunks of a plaintext emits the IV once and then exactly what `ss_encrypt_all` emits for
the same IV, and `ss_decrypt` from a fresh context on any cut of that into reads whose first
holds the IV returns the plaintext, unless the cache has seen the IV. -/
theorem ss_stream_round_trip (hl : StreamLib lib) (hm : 1 < env.encMethod.code) (e : Entropy)
    (p : List UInt8) (ps : List (List UInt8)) :
    ∃ c, ssEncryptChunks lib env (encCtxNewInstance lib env true e).1 (p :: ps) = some c ∧
      (ssEncryptAll lib env (p :: ps).flatten e).1 = some c ∧
      c.take env.encIvLen = (randBytes e env.encIvLen).1 ∧
      ∀ (ctx : EncCtx σ) (b : Buffer) (bs : List Buffer), ctx.init = false →
        ((b :: bs).map Buffer.data).flatten = c → env.encIvLen ≤ b.len →
        (∀ x ∈ b :: bs, x.capacity < 2 ^ 64) →
        (2 < env.encMethod.code → lib.cacheKeyExist env.ivCache (c.take env.encIvLen) = false) →
        ssDecryptChunks lib env ctx (b :: bs) = pure (some (p :: ps).flatten) := by
  have hs := streamUpdate_isStream lib env hl.stream hl.ietf
  have hivlen : (randBytes e env.encIvLen).1.length = env.encIvLen := randBytes_length e _
  obtain ⟨c₀, ctxE, hE, hD⟩ := streamUpdate_inverse lib env hl
    { cipherContextInit lib env true with iv := (randBytes e env.encIvLen).1 } rfl (p :: ps).flatten
  have htake : ((randBytes e env.encIvLen).1 ++ c₀).take env.encIvLen = (randBytes e env.encIvLen).1 :=
    List.take_left' hivlen
  refine ⟨(randBytes e env.encIvLen).1 ++ c₀, ?_, ?_, htake, ?_⟩
  · rw [ssEncryptChunks_eq lib env hs, ssEncryptIv_new, hE]
    rfl
  · rw [ssEncryptAll_eq lib env hl.ietf hm, ssEncryptIv_new, hE]
    rfl
  · intro ctx b bs hinit hflat hlen hcap hcache
    rw [List.map_cons, List.flatten_cons] at hflat
    have hlen' : env.encIvLen ≤ b.data.length := by rw [Buffer.data_length]; exact hlen
    -- the first read holds the IV, and the rest of the stream is the ciphertext
    have hiv : b.data.take env.encIvLen = (randBytes e env.encIvLen).1 := by
      rw [← List.take_append_of_le_length hlen', hflat, htake]
    have hbody : b.data.drop env.encIvLen ++ (bs.map Buffer.data).flatten = c₀ := by
      rw [← List.drop_append_of_le_length hlen', hflat, List.drop_left' hivlen]
    rw [ssDecryptChunks_fresh lib env hs hinit b bs hcap hlen
      (fun h => by rw [hiv, ← htake]; exact hcache h), hiv, hbody]
    obtain ⟨ctxD, h⟩ := hD ctx.cipherCtx
    rw [h]
    rfl

/-! ## A first read shorter than the IV -/

/-- With the read shorter than the IV, `cipher->len - iv_len` wraps, and the bytes asked
for from past the IV run beyond any allocation of fewer than 2^64 bytes. -/
theorem short_read_overflows {len ivLen capacity : Nat} (h0 : 0 < len) (hshort : len < ivLen)
    (hcap : capacity < 2 ^ 64) (hiv : ivLen ≤ capacity + 1) :
    capacity + 1 < ivLen + sizeSub len ivLen := by
  unfold sizeSub
  omega

/-- `ss_decrypt` takes the IV from its first read without checking that the read holds it:
on a non-empty first read shorter than the IV, from a fresh context, for every method and
library, it reads past the allocation of the buffer. -/
theorem ss_decrypt_faults_on_a_first_read_shorter_than_the_iv (ctx : EncCtx σ)
    (hinit : ctx.init = false) (b : Buffer) (h0 : 0 < b.len) (hshort : b.len < env.encIvLen)
    (hcap : b.capacity < 2 ^ 64) (hcache : ∀ iv, lib.cacheKeyExist env.ivCache iv = false) :
    ssDecrypt lib env b (some ctx) = throw .outOfBounds := by
  by_cases hiv : env.encIvLen ≤ b.capacity + 1
  · -- the IV comes from past the contents, then the bytes after it run past the allocation
    have hread : readBytes b 0 env.encIvLen = pure (b.read 0 env.encIvLen) := by
      rw [readBytes, if_pos (by omega)]
    have hpast : readBytes b env.encIvLen (sizeSub b.len env.encIvLen) = throw .outOfBounds :=
      readBytes_past (short_read_overflows h0 hshort hcap hiv)
    simp only [ssDecrypt, ssDecryptIv, hinit, Bool.false_eq_true, if_false, hread, pure_bind,
      hcache, hpast]
    split_ifs <;> first | rfl | contradiction
  · have hpast : readBytes b 0 env.encIvLen = throw .outOfBounds := readBytes_past (by omega)
    simp only [ssDecrypt, ssDecryptIv, hinit, Bool.false_eq_true, if_false, hpast]
    rfl

end RoundTrip

/-- A library none of whose calls the fault reaches. -/
def idleLib : CipherLib Unit Unit where
  crypto := ⟨fun _ => Vector.replicate 16 0, fun _ => Vector.replicate 20 0,
    fun _ _ => Vector.replicate 16 0, fun _ _ => Vector.replicate 20 0, fun _ x => x, fun _ x => x⟩
  coreInit _ _ := ()
  setKeyIv _ _ _ _ := ()
  update _ m := some ((), m)
  keystream _ _ _ _ := 0
  cacheKeyExist _ _ := false
  cacheInsert _ _ := ()

/-- mbedTLS's CFB-128 over the block function `E` (`mbedtls_aes_crypt_ecb` in its encrypting
direction, which CFB uses both ways): `set_iv` and `reset` load the register and clear its
offset. No sodium keystream, and an IV cache that holds nothing. -/
def cfbLib (crypto : Crypto) (E : List UInt8 → List UInt8 → List UInt8) : CipherLib CfbCtx Unit where
  crypto := crypto
  coreInit _ enc := ⟨[], List.replicate 16 0, 0, enc⟩
  setKeyIv _ key iv enc := ⟨key, iv, 0, enc⟩
  update c m := some (cfbUpdate E c m)
  keystream _ _ _ _ := 0
  cacheKeyExist _ _ := false
  cacheInsert _ _ := ()

/-- CFB-128 is a stream library whatever its block function. -/
theorem cfbLib_streamLib (crypto : Crypto) (E : List UInt8 → List UInt8 → List UInt8) :
    StreamLib (cfbLib crypto E) := by
  refine ⟨cfbUpdate_isStream E, fun _ _ key iv p => ?_, fun _ _ _ => rfl⟩
  refine ⟨(cfbUpdate E ⟨key, iv, 0, true⟩ p).1, (cfbUpdate E ⟨key, iv, 0, true⟩ p).2, rfl,
    { (cfbUpdate E ⟨key, iv, 0, true⟩ p).1 with enc := false }, ?_⟩
  exact congrArg some (cfbUpdate_inverse E (c := ⟨key, iv, 0, true⟩) rfl p)

/-- The key `bytes_to_key` makes of the password "key" for `aes-128-cfb`: its MD5. -/
def sampleCipherKey : List UInt8 :=
  [0x3c, 0x6e, 0x0b, 0x8a, 0x9c, 0x15, 0x22, 0x4a, 0x82, 0x28, 0xb9, 0xa9, 0x8c, 0xa1, 0x53, 0x1d]

/-- `aes-128-cfb`, with a 16-byte IV, under the sample key. -/
def sampleEnv : CipherEnv Unit := ⟨[], [], sampleCipherKey, 16, .aes128Cfb, ()⟩

/-- AES-128 under the sample key on the blocks the sample runs feed back: the IV, the
request's first three ciphertext blocks and the reply's first. -/
def sampleAesBlocks : List (List UInt8 × List UInt8) := [
  ([0x01, 0x02, 0x03, 0x04, 0x05, 0x06, 0x07, 0x08, 0x09, 0x0a, 0x0b, 0x0c, 0x0d, 0x0e, 0x0f, 0x10],
    [0xed, 0xe7, 0x1d, 0x51, 0x3e, 0x8e, 0x8a, 0x09, 0xab, 0x1c, 0x67, 0xbd, 0x9c, 0x2c, 0x7e, 0x83]),
  ([0xed, 0xc3, 0x30, 0x57, 0xef, 0x8e, 0x8b, 0x09, 0xbb, 0x42, 0x38, 0xfd, 0xdd, 0x6e, 0x3d, 0x92],
    [0xe8, 0x22, 0x6e, 0xeb, 0x0e, 0xb1, 0xed, 0x1d, 0xcd, 0x5e, 0x62, 0xf6, 0x92, 0x9a, 0x4d, 0x01]),
  ([0xe8, 0x22, 0x6e, 0xea, 0x71, 0xb1, 0xed, 0x1c, 0xcd, 0x0e, 0xcf, 0xb3, 0x0a, 0x49, 0x99, 0xfa],
    [0xbf, 0xb9, 0x15, 0xe7, 0x79, 0x1e, 0xc7, 0x29, 0xf6, 0x10, 0x7c, 0x35, 0xb5, 0xeb, 0x24, 0x6f]),
  ([0x11, 0xa5, 0x01, 0xf5, 0x79, 0x10, 0x3f, 0x16, 0xf7, 0x57, 0x39, 0x61, 0x95, 0xc4, 0x52, 0x6d],
    [0x2c, 0x27, 0xa9, 0xab, 0x40, 0x90, 0xb4, 0x20, 0xc6, 0x81, 0x3d, 0x8d, 0x52, 0xcc, 0xe3, 0x1c]),
  ([0xed, 0xee, 0x46, 0xfb, 0x3f, 0x9e, 0x8b, 0x86, 0xa9, 0x1c, 0x72, 0xa9, 0x6a, 0x2d, 0x7f, 0xfc],
    [0x4c, 0xbd, 0xee, 0x45, 0xed, 0xd7, 0x70, 0x1f, 0xea, 0xde, 0x82, 0xb4, 0x9b, 0xdf, 0x16, 0x0d])]

/-- AES-128's block function as the sample runs need it: exact under the sample key on the
blocks of `sampleAesBlocks`. -/
def sampleAes128 (key block : List UInt8) : List UInt8 :=
  if key = sampleCipherKey then (sampleAesBlocks.lookup block).getD block else block

/-- `aes-128-cfb` under the key of the password "key", with the IV `01 … 10`, on four bytes
whose keystream is the AES block of that IV. -/
theorem aes_cfb_stream_round_trips_on_a_sample :
    ∃ c, ssEncryptChunks (cfbLib idleLib.crypto sampleAes128) sampleEnv
        (encCtxNewInstance (cfbLib idleLib.crypto sampleAes128) sampleEnv true ⟨fun i => i.toUInt8, 1⟩).1
        [[0x00, 0x24, 0x2d, 0x06]] = some c ∧
      (ssEncryptAll (cfbLib idleLib.crypto sampleAes128) sampleEnv [[0x00, 0x24, 0x2d, 0x06]].flatten
        ⟨fun i => i.toUInt8, 1⟩).1 = some c ∧
      c.take sampleEnv.encIvLen = (randBytes ⟨fun i => i.toUInt8, 1⟩ sampleEnv.encIvLen).1 ∧
      ∀ (ctx : EncCtx CfbCtx) (b : Buffer) (bs : List Buffer), ctx.init = false →
        ((b :: bs).map Buffer.data).flatten = c → sampleEnv.encIvLen ≤ b.len →
        (∀ x ∈ b :: bs, x.capacity < 2 ^ 64) →
        (2 < sampleEnv.encMethod.code →
          (cfbLib idleLib.crypto sampleAes128).cacheKeyExist sampleEnv.ivCache (c.take sampleEnv.encIvLen) = false) →
        ssDecryptChunks (cfbLib idleLib.crypto sampleAes128) sampleEnv ctx (b :: bs) =
          pure (some [[0x00, 0x24, 0x2d, 0x06]].flatten) :=
  ss_stream_round_trip (cfbLib idleLib.crypto sampleAes128) sampleEnv (cfbLib_streamLib _ _) (by decide)
    ⟨fun i => i.toUInt8, 1⟩ [0x00, 0x24, 0x2d, 0x06] []

example : ssEncryptChunks (cfbLib idleLib.crypto sampleAes128) sampleEnv
    (encCtxNewInstance (cfbLib idleLib.crypto sampleAes128) sampleEnv true ⟨fun i => i.toUInt8, 1⟩).1
    [[0x00, 0x24, 0x2d, 0x06]] =
      some ((List.range 16).map (fun i => (i + 1).toUInt8) ++ [0xed, 0xc3, 0x30, 0x57]) := by
  decide +kernel

/-- `aes-128-cfb`, whose IV has 16 bytes, and a first read of 3. -/
theorem aes_cfb_three_byte_first_read_faults :
    ssDecrypt idleLib ⟨[], [], [], 16, .aes128Cfb, ()⟩ (bufferCreateFrom [1, 2, 3])
      (some ⟨false, 0, ⟨(), List.replicate 16 0⟩⟩) = throw .outOfBounds :=
  ss_decrypt_faults_on_a_first_read_shorter_than_the_iv idleLib _ _ rfl _ (by decide) (by decide)
    (by decide) (fun _ => rfl)

/-! ## The table method -/

/-- The `table` method: for every password `enc_table_init` builds a permutation of the
bytes and its inverse, so `ss_decrypt` and `ss_decrypt_all` undo `ss_encrypt` and
`ss_encrypt_all` on every buffer. -/
theorem table_cipher_round_trip {σ κ : Type} (lib : CipherLib σ κ) (pass : List UInt8) (cache : κ) :
    ∃ env, cipherEnvNewTable lib.crypto pass cache = some env ∧ env.encTable.Perm identityTable ∧
      (∀ x : UInt8, byteAt env.decTable (byteAt env.encTable x.toNat).toNat = x) ∧
      (∀ x : UInt8, byteAt env.encTable (byteAt env.decTable x.toNat).toNat = x) ∧
      ∀ (plain : List UInt8) (e : Entropy), ∃ c,
        ssEncrypt lib env plain none = (some c, none) ∧ (ssEncryptAll lib env plain e).1 = some c ∧
        (∀ b : Buffer, b.data = c → ssDecrypt lib env b none = pure ⟨some plain, none, cache⟩) ∧
        ssDecryptAll lib env c = some plain := by
  obtain ⟨t, ht, hp⟩ := encTableInit_spec lib.crypto pass
  have hperm := isPermTable_of_perm hp
  refine ⟨⟨t, decTableOf t, CString.cstr pass, 0, .table, cache⟩, ?_, hp, fun x => ?_, fun x => ?_,
    fun plain e => ⟨tableTranslate t plain, rfl, rfl, ?_, ?_⟩⟩
  · simp [cipherEnvNewTable, ht]
  · dsimp only
    exact decTableOf_encTable hperm x
  · dsimp only
    exact encTable_decTableOf hperm x
  · intro b hb
    simp only [ssDecrypt, hb, if_true, tableTranslate_decrypt_encrypt hperm]
  · simp only [ssDecryptAll, SsCipherType.code, Nat.lt_irrefl, if_false, if_true,
      tableTranslate_decrypt_encrypt hperm]

end ShadowsocksR.Encrypt
