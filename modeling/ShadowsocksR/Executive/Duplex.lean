/-
  ShadowsocksR.Executive.Duplex — the two directions of a `tunnel_cipher_ctx`, on the client and
  on the server.

  In the streaming stage `tunnel_extract_data` hands a read of one socket to the encrypt path
  and a read of the other to the decrypt path, both on the one `tunnel_cipher_ctx`, in whatever
  order the reads come. `Tunnel.Streaming` takes `tunnel_extract_data` as a function of the
  reads of one socket (`Extract`). This module shows which of the two endpoints' cipher
  pipelines, for `auth_sha1_v4` over obfs `plain`, is such a function.

  On the client the encrypt path reads and writes the protocol's state but `recv_buffer`, the
  `server_info_t`, the process's world and `e_ctx`, and reads the cipher environment but its
  IV cache (`SendPart`); the decrypt path reads and writes `recv_buffer`, `d_ctx`, the IV cache
  and the fault flag, and reads the rest of the environment (`RecvPart`); each keeps what the
  other uses (`clientCall_frame`, `clientDecryptCall_frame`). So the two directions are
  independent parties (`clientExtractData_independent`), and
  (`client_extract_data_reads_one_socket`) what every call returns is `cipherExtract` of the
  reads of its socket, the `Extract` the streaming model runs with.

  On the server the decrypt path has one more effect: when the protocol's receiver asks for
  feedback, `tunnel_cipher_server_decrypt` encrypts an empty buffer as the confirmation, which
  moves `e_ctx` and the encoder's draws, and `tunnel_extract_data` drops it. The directions are
  independent parties up to that echo (`serverExtractData_independent`): what a call returns
  on a read of one socket is what it returns after that socket's reads alone, the target's
  socket seeing an empty buffer after every read of the client that asked a confirmation
  (`server_extract_data_reads_one_socket_and_its_confirms`), so no more than its own reads
  while none asks (`server_extract_data_reads_one_socket`).
-/

import ShadowsocksR.Executive.Reply
import ShadowsocksR.Lib.Interleave
import ShadowsocksR.Tunnel.Streaming

namespace ShadowsocksR.Executive

open Framing Layers StreamCipher Bytes Encrypt AuthSha1V4 Interleave Tunnel Server

variable {τ κ : Type} (crypto : Crypto) (lib : CipherLib τ κ)

/-! ## The client's `tunnel_extract_data` -/

/-- `tunnel_extract_data` of `client.c` on a read of a socket: the incoming socket's data is
encrypted, the outgoing socket's decrypted (a feedback, never asked for here, would be
released); the result is the buffer when the call returns `ssr_ok`, else `NULL`. -/
def clientExtractData (c : Sha1V4Client τ κ) : Side × List UInt8 → Sha1V4Client τ κ × Option (List UInt8)
  | (.incoming, buf) => clientCall crypto lib c buf
  | (.outgoing, buf) => clientDecryptCall lib c buf

/-! ## What each path reads and writes -/

/-- Two client states that agree on what the encrypt path reads: the protocol's state but
`recv_buffer`, the `server_info_t`, the world, `e_ctx`, and the environment but its IV cache. -/
structure SendPart (c c' : Sha1V4Client τ κ) : Prop where
  ld : { c.ld with recvBuffer := [] } = { c'.ld with recvBuffer := [] }
  server : c.server = c'.server
  world : c.world = c'.world
  eCtx : c.eCtx = c'.eCtx
  env : ∀ x : κ, { c.env with ivCache := x } = { c'.env with ivCache := x }

/-- Two client states that agree on what the decrypt path reads: `recv_buffer`, the whole
environment, `d_ctx`, and the fault flag it sets. -/
structure RecvPart (c c' : Sha1V4Client τ κ) : Prop where
  recvBuffer : c.ld.recvBuffer = c'.ld.recvBuffer
  env : c.env = c'.env
  dCtx : c.dCtx = c'.dCtx
  faulted : c.faulted = c'.faulted

/-- The part of the state each socket's reads go through. -/
def Part : Side → Sha1V4Client τ κ → Sha1V4Client τ κ → Prop
  | .incoming => SendPart
  | .outgoing => RecvPart

theorem part_refl : ∀ (S : Side) (c : Sha1V4Client τ κ), Part S c c
  | .incoming, _ => ⟨rfl, rfl, rfl, rfl, fun _ => rfl⟩
  | .outgoing, _ => ⟨rfl, rfl, rfl, rfl⟩

section Frames

/-- The encrypt path writes `has_sent_header`, the world and `e_ctx`, and nothing else. -/
theorem clientCall_frame (c : Sha1V4Client τ κ) (buf : List UInt8) :
    ∃ sent eCtx, (clientCall crypto lib c buf).1 =
      { c with ld := { c.ld with hasSentHeader := sent }, world := fun k => c.world (k + 1), eCtx } := by
  exact ⟨_, _, by rw [clientCall_eq]; dsimp only; rw [authSha1V4ClientPreEncrypt_localData]⟩

theorem clientDecryptCall_nil (c : Sha1V4Client τ κ) :
    clientDecryptCall lib c [] =
      ({ c with ld := (authSha1V4ClientPostDecrypt c.ld []).1 }, (authSha1V4ClientPostDecrypt c.ld []).2) := by
  simp only [clientDecryptCall, Client.tunnelCipherClientDecrypt, Client.decryptRest,
    sha1V4ClientDecryptPipeline, List.length_nil, gt_iff_lt, Nat.lt_irrefl, ↓reduceIte]
  cases authSha1V4ClientPostDecrypt c.ld [] with
  | mk ld' o => cases o <;> rfl

/-- A read that makes `ss_decrypt` read past an allocation marks the state faulted. -/
theorem clientDecryptCall_of_fault (c : Sha1V4Client τ κ) {r : List UInt8} (hpos : 0 < r.length)
    {f : Fault} (hd : Encrypt.ssDecrypt lib c.env (bufferCreateFrom r) c.dCtx = .error f) :
    clientDecryptCall lib c r = ({ c with faulted := true }, none) := by
  simp only [clientDecryptCall, Client.tunnelCipherClientDecrypt, Client.decryptRest,
    sha1V4ClientDecryptPipeline, gt_iff_lt, hpos, ↓reduceIte, hd]
  rfl

/-- The decrypt path writes `recv_buffer`, the IV cache, `d_ctx` and the fault flag, and
nothing else. -/
theorem clientDecryptCall_frame (c : Sha1V4Client τ κ) (r : List UInt8) :
    ∃ recvBuffer ivCache dCtx faulted, (clientDecryptCall lib c r).1 =
      { c with ld := { c.ld with recvBuffer }, env := { c.env with ivCache }, dCtx, faulted } := by
  cases r with
  | nil =>
    rw [clientDecryptCall_nil, authSha1V4ClientPostDecrypt_fst]
    exact ⟨_, c.env.ivCache, c.dCtx, c.faulted, rfl⟩
  | cons b bs =>
    have hpos : 0 < (b :: bs).length := Nat.succ_pos _
    cases hd : Encrypt.ssDecrypt lib c.env (bufferCreateFrom (b :: bs)) c.dCtx with
    | error f =>
      rw [clientDecryptCall_of_fault lib c hpos hd]
      exact ⟨c.ld.recvBuffer, c.env.ivCache, c.dCtx, true, rfl⟩
    | ok d =>
      rw [clientDecryptCall_of_decrypted lib c hpos hd]
      -- a plaintext goes to the protocol's receiver, which writes only `recv_buffer`
      obtain ⟨_ | p, ctx, cache⟩ := d
      · exact ⟨c.ld.recvBuffer, cache, ctx, c.faulted, rfl⟩
      · refine ⟨(authSha1V4ClientPostDecrypt c.ld p).1.recvBuffer, cache, ctx, c.faulted, ?_⟩
        simp only [Option.map_some, Option.getD_some]
        rw [← authSha1V4ClientPostDecrypt_fst]

end Frames

section Parts

/-- What the encrypt path returns, and its part of the state after it, depend only on its
part before it. -/
theorem clientCall_sendPart {s t : Sha1V4Client τ κ} (h : SendPart s t) (buf : List UInt8) :
    (clientCall crypto lib s buf).2 = (clientCall crypto lib t buf).2 ∧
      SendPart (clientCall crypto lib s buf).1 (clientCall crypto lib t buf).1 := by
  obtain ⟨hld, hserver, hworld, heCtx, henv⟩ := h
  have hflag : s.ld.hasSentHeader = t.ld.hasSentHeader := by
    have h := congrArg AuthSimpleLocal.hasSentHeader hld
    exact h
  have hss : Encrypt.ssEncrypt lib s.env = Encrypt.ssEncrypt lib t.env := by
    rw [show s.env = { t.env with ivCache := s.env.ivCache } from henv s.env.ivCache, ssEncrypt_ivCache]
  rw [clientCall_eq, clientCall_eq]
  dsimp only
  rw [hserver, hworld, heCtx, hss, authSha1V4ClientPreEncrypt_out_congr crypto _ _ hflag,
    authSha1V4ClientPreEncrypt_localData, authSha1V4ClientPreEncrypt_localData, hflag]
  -- both encoders set the same flag on states that agree off `recv_buffer`
  exact ⟨rfl, ⟨congrArg (fun l => { l with hasSentHeader := t.ld.hasSentHeader || decide (buf.length > 0) }) hld,
    rfl, rfl, rfl, henv⟩⟩

/-- The encrypt path keeps the decrypt path's part. -/
theorem clientCall_keeps_recvPart {s t : Sha1V4Client τ κ} (h : RecvPart s t) (buf : List UInt8) :
    RecvPart (clientCall crypto lib s buf).1 t := by
  obtain ⟨sent, eCtx, hs⟩ := clientCall_frame crypto lib s buf
  rw [hs]
  exact ⟨h.recvBuffer, h.env, h.dCtx, h.faulted⟩

/-- What the decrypt path returns, and its part of the state after it, depend only on its
part before it. -/
theorem clientDecryptCall_recvPart {s t : Sha1V4Client τ κ} (h : RecvPart s t) (r : List UInt8) :
    (clientDecryptCall lib s r).2 = (clientDecryptCall lib t r).2 ∧
      RecvPart (clientDecryptCall lib s r).1 (clientDecryptCall lib t r).1 := by
  obtain ⟨hbuf, henv, hdctx, hf⟩ := h
  cases r with
  | nil =>
    rw [clientDecryptCall_nil, clientDecryptCall_nil]
    have hpost := authSha1V4ClientPostDecrypt_congr hbuf []
    exact ⟨hpost.1, ⟨hpost.2, henv, hdctx, hf⟩⟩
  | cons b bs =>
    have hpos : 0 < (b :: bs).length := Nat.succ_pos _
    -- both states hand `ss_decrypt` the same environment and context
    cases hd : Encrypt.ssDecrypt lib s.env (bufferCreateFrom (b :: bs)) s.dCtx with
    | error f =>
      have hd' := hd
      rw [henv, hdctx] at hd'
      rw [clientDecryptCall_of_fault lib s hpos hd, clientDecryptCall_of_fault lib t hpos hd']
      exact ⟨rfl, ⟨hbuf, henv, hdctx, rfl⟩⟩
    | ok d =>
      have hd' := hd
      rw [henv, hdctx] at hd'
      rw [clientDecryptCall_of_decrypted lib s hpos hd, clientDecryptCall_of_decrypted lib t hpos hd']
      obtain ⟨_ | p, ctx, cache⟩ := d
      · exact ⟨rfl, ⟨hbuf, by rw [henv], rfl, hf⟩⟩
      · have hpost := authSha1V4ClientPostDecrypt_congr hbuf p
        exact ⟨hpost.1, ⟨hpost.2, by rw [henv], rfl, hf⟩⟩

/-- The decrypt path keeps the encrypt path's part. -/
theorem clientDecryptCall_keeps_sendPart {s t : Sha1V4Client τ κ} (h : SendPart s t) (r : List UInt8) :
    SendPart (clientDecryptCall lib s r).1 t := by
  obtain ⟨recvBuffer, ivCache, dCtx, faulted, hs⟩ := clientDecryptCall_frame lib s r
  rw [hs]
  exact ⟨h.ld, h.server, h.world, h.eCtx, h.env⟩

/-- The two sockets' reads are independent parties of `tunnel_extract_data`. -/
theorem clientExtractData_independent :
    Independent (clientExtractData crypto lib) Prod.fst (Part (τ := τ) (κ := κ)) where
  out e := by
    obtain ⟨_ | _, buf⟩ := e
    · exact fun h => (clientCall_sendPart crypto lib h buf).1
    · exact fun h => (clientDecryptCall_recvPart lib h buf).1
  own e := by
    obtain ⟨_ | _, buf⟩ := e
    · exact fun h => (clientCall_sendPart crypto lib h buf).2
    · exact fun h => (clientDecryptCall_recvPart lib h buf).2
  keep e := by
    -- a read of one socket keeps the other socket's part
    obtain ⟨_ | _, buf⟩ := e <;> intro j hj <;> cases j
    · exact absurd rfl hj
    · exact fun h => clientCall_keeps_recvPart crypto lib h buf
    · exact fun h => clientDecryptCall_keeps_sendPart lib h buf
    · exact absurd rfl hj

end Parts

/-! ## Every interleaving -/

/-- The data of the reads of socket `S` in a log of reads, as `Streaming.readsOf` takes them. -/
def socketReads (l : List (Side × List UInt8)) (S : Side) : List (List UInt8) :=
  (l.filter (·.1 == S)).map (·.2)

theorem socketReads_concat (l : List (Side × List UInt8)) (S : Side) (d : List UInt8) :
    socketReads (l ++ [(S, d)]) S = socketReads l S ++ [d] := by
  simp [socketReads]

/-- The reads of one socket, tagged with it again, are the log's reads of that socket. -/
theorem socketReads_tag (l : List (Side × List UInt8)) (S : Side) :
    (socketReads l S).map (S, ·) = l.filter (·.1 = S) := by
  have hf : l.filter (·.1 == S) = l.filter (·.1 = S) := List.filter_congr fun x _ => rfl
  rw [socketReads, List.map_map, hf]
  conv_rhs => rw [← List.map_id (l.filter _)]
  refine List.map_congr_left fun x hx => ?_
  have hx : x.1 = S := by simpa using (List.mem_filter.mp hx).2
  exact Prod.ext hx.symm rfl

/-- `tunnel_extract_data` as the streaming model takes it: what the client's cipher makes of
the last of a socket's reads, run from `c` on the reads of that socket alone. -/
def cipherExtract (c : Sha1V4Client τ κ) : Extract := fun S reads =>
  reads.getLast?.bind fun d =>
    (clientExtractData crypto lib (after (clientExtractData crypto lib) c (reads.dropLast.map (S, ·))) (S, d)).2

/-- **The client's `tunnel_extract_data` reads one socket at a time.** From any state of the
`tunnel_cipher_ctx`, after any interleaving of the two sockets' reads, what the call on a
read of socket `S` returns is `cipherExtract` of the reads of `S` so far: the reads of the
other socket change nothing of it, and `Tunnel.Streaming` running with `cipherExtract c` is
the tunnel with this cipher. -/
theorem client_extract_data_reads_one_socket (c : Sha1V4Client τ κ) (hist : List (Side × List UInt8))
    (S : Side) (d : List UInt8) :
    (clientExtractData crypto lib (after (clientExtractData crypto lib) c hist) (S, d)).2 =
      cipherExtract crypto lib c S (socketReads (hist ++ [(S, d)]) S) := by
  rw [call_after_filter (clientExtractData_independent crypto lib) part_refl c hist (S, d),
    cipherExtract, socketReads_concat, List.getLast?_concat, List.dropLast_concat, socketReads_tag]
  rfl



/-! ## The server's two sockets -/

section Server

variable (now : UInt32)

/-- `tunnel_extract_data` of `server.c` on a read of a socket: the target's data (outgoing) is
encrypted for the client and the client's (incoming) decrypted; the receipt and the
confirmation `tunnel_cipher_server_decrypt` may make are dropped after their `ASSERT`s. -/
def serverExtractData (s : Sha1V4Server τ κ) : Side × List UInt8 → Sha1V4Server τ κ × Option (List UInt8)
  | (.outgoing, buf) => tunnelCipherServerEncrypt (sha1V4ServerPipeline crypto lib now) s buf
  | (.incoming, buf) => serverCall crypto lib now s buf

/-- Whether `tunnel_cipher_server_decrypt` confirms a read: the feedback of the protocol's
receiver on what `ss_decrypt` makes of it. -/
def serverAsksConfirm (s : Sha1V4Server τ κ) (buf : List UInt8) : Bool :=
  match serverDecryptStage (sha1V4ServerPipeline crypto lib now) s buf true with
  | (st, some ret) => authSha1V4ServerNeedFeedback crypto st.server now st.ld ret
  | (_, none) => false

/-- The encrypt calls a call of the server makes on the way: on a read of the client that
asks a confirmation, the encrypt of an empty buffer. -/
def serverEcho (s : Sha1V4Server τ κ) : Side × List UInt8 → List (Side × List UInt8)
  | (.incoming, buf) => if serverAsksConfirm crypto lib now s buf then [(.outgoing, [])] else []
  | (.outgoing, _) => []

/-- Two server states that agree on what the encrypt path reads: `unit_len`, the encoder's
draws, `e_ctx`, and the environment but its IV cache. -/
structure ServerSendPart (s t : Sha1V4Server τ κ) : Prop where
  unitLen : s.ld.unitLen = t.ld.unitLen
  rngs : s.rngs = t.rngs
  eCtx : s.eCtx = t.eCtx
  env : ∀ x : κ, { s.env with ivCache := x } = { t.env with ivCache := x }

/-- Two server states that agree on every field but the encoder's draws and `e_ctx`: on all
the decrypt path reads and writes, its confirmation apart. -/
def ServerRecvPart (s t : Sha1V4Server τ κ) : Prop := { s with rngs := t.rngs, eCtx := t.eCtx } = t

/-- The part of the server's state each socket's reads go through. -/
def ServerPart : Side → Sha1V4Server τ κ → Sha1V4Server τ κ → Prop
  | .incoming => ServerRecvPart
  | .outgoing => ServerSendPart

theorem serverPart_refl : ∀ (S : Side) (s : Sha1V4Server τ κ), ServerPart S s s
  | .incoming, _ => rfl
  | .outgoing, _ => ⟨rfl, rfl, rfl, fun _ => rfl⟩

/-- The capture of `recv_iv` and `ss_decrypt` write `recv_iv`, the IV cache, `d_ctx` and the
fault flag, and nothing else. -/
theorem serverDecryptStage_frame (s : Sha1V4Server τ κ) (buf : List UInt8) :
    ∃ recvIv ivCache dCtx faulted,
      (serverDecryptStage (sha1V4ServerPipeline crypto lib now) s buf true).1 =
        { s with server := { s.server with recvIv }, env := { s.env with ivCache }, dCtx, faulted } := by
  unfold serverDecryptStage
  split_ifs
  · simp only [sha1V4ServerPipeline_protocol, sha1V4ServerProtocol]
    -- `recv_iv` is taken or not, then `ss_decrypt` fails or not
    split_ifs <;> rw [sha1V4ServerPipeline_ssDecrypt] <;> split
    all_goals exact ⟨_, _, _, _, rfl⟩
  · exact ⟨s.server.recvIv, s.env.ivCache, s.dCtx, s.faulted, rfl⟩

/-- The capture of `recv_iv` and `ss_decrypt` never look at the encoder's draws or `e_ctx`. -/
theorem serverDecryptStage_setSend (s : Sha1V4Server τ κ) (r : Nat → Shift128) (e : Option (EncCtx τ))
    (buf : List UInt8) :
    serverDecryptStage (sha1V4ServerPipeline crypto lib now) { s with rngs := r, eCtx := e } buf true =
      ({ (serverDecryptStage (sha1V4ServerPipeline crypto lib now) s buf true).1 with rngs := r, eCtx := e },
        (serverDecryptStage (sha1V4ServerPipeline crypto lib now) s buf true).2) := by
  unfold serverDecryptStage
  split_ifs
  · simp only [sha1V4ServerPipeline_protocol, sha1V4ServerProtocol]
    split_ifs <;> rw [sha1V4ServerPipeline_ssDecrypt, sha1V4ServerPipeline_ssDecrypt] <;> dsimp only <;>
      cases Encrypt.ssDecrypt lib s.env (readClone buf) s.dCtx <;> rfl
  · rfl

/-- One call of the server on a read of the client: the capture and `ss_decrypt`, then the
protocol's receiver on the plaintext, and on its feedback the confirmation, an encrypt of an
empty buffer whose result is dropped. -/
theorem serverCall_eq_stage (s : Sha1V4Server τ κ) (buf : List UInt8) :
    serverCall crypto lib now s buf =
      match serverDecryptStage (sha1V4ServerPipeline crypto lib now) s buf true with
      | (st, none) => (st, none)
      | (st, some ret) =>
        let st' := { st with ld := (authSha1V4ServerPostDecrypt crypto st.server now st.ld ret).1 }
        (if authSha1V4ServerNeedFeedback crypto st.server now st.ld ret then
            (tunnelCipherServerEncrypt (sha1V4ServerPipeline crypto lib now) st' []).1
          else st',
          (authSha1V4ServerPostDecrypt crypto st.server now st.ld ret).2) := by
  simp only [serverCall, tunnelCipherServerDecrypt, sha1V4ServerPipeline_obfs]
  rw [serverDecryptRest_eq]
  obtain ⟨st, _ | ret⟩ := serverDecryptStage (sha1V4ServerPipeline crypto lib now) s buf true
  · rfl
  · simp only [sha1V4ServerPipeline_protocol, sha1V4ServerProtocol, Option.bind_some]
    split <;> rfl

/-- The encrypt path: what it returns, and its part after it, depend only on its part before. -/
theorem serverEncrypt_sendPart {s t : Sha1V4Server τ κ} (h : ServerSendPart s t) (buf : List UInt8) :
    (tunnelCipherServerEncrypt (sha1V4ServerPipeline crypto lib now) s buf).2 =
        (tunnelCipherServerEncrypt (sha1V4ServerPipeline crypto lib now) t buf).2 ∧
      ServerSendPart (tunnelCipherServerEncrypt (sha1V4ServerPipeline crypto lib now) s buf).1
        (tunnelCipherServerEncrypt (sha1V4ServerPipeline crypto lib now) t buf).1 := by
  obtain ⟨hunit, hrngs, heCtx, henv⟩ := h
  have hss : Encrypt.ssEncrypt lib s.env = Encrypt.ssEncrypt lib t.env := by
    rw [show s.env = { t.env with ivCache := s.env.ivCache } from henv s.env.ivCache, ssEncrypt_ivCache]
  rw [serverEncrypt_eq, serverEncrypt_eq, authSha1V4ServerPreEncrypt_congr hunit, hrngs, heCtx, hss]
  exact ⟨rfl, ⟨hunit, rfl, rfl, henv⟩⟩

/-- The encrypt path keeps the decrypt path's part. -/
theorem serverEncrypt_keeps_recvPart {s t : Sha1V4Server τ κ} (h : ServerRecvPart s t) (buf : List UInt8) :
    ServerRecvPart (tunnelCipherServerEncrypt (sha1V4ServerPipeline crypto lib now) s buf).1 t := by
  rw [serverEncrypt_eq]
  exact h

/-- A call of the server on a read of the client from a state with other draws and `e_ctx`
returns the same and leaves the same but for those. -/
theorem serverCall_setSend (s : Sha1V4Server τ κ) (r : Nat → Shift128) (e : Option (EncCtx τ))
    (buf : List UInt8) :
    ∃ r' e', serverCall crypto lib now { s with rngs := r, eCtx := e } buf =
      ({ (serverCall crypto lib now s buf).1 with rngs := r', eCtx := e' }, (serverCall crypto lib now s buf).2) := by
  rw [serverCall_eq_stage, serverCall_eq_stage, serverDecryptStage_setSend]
  obtain ⟨st, _ | ret⟩ := serverDecryptStage (sha1V4ServerPipeline crypto lib now) s buf true
  · exact ⟨r, e, rfl⟩
  · dsimp only
    -- the confirmation moves the draws and `e_ctx` from where each state has them
    split_ifs
    · rw [serverEncrypt_eq, serverEncrypt_eq]
      exact ⟨_, _, rfl⟩
    · exact ⟨r, e, rfl⟩

/-- The decrypt path: what it returns, and its part after it, depend only on its part before. -/
theorem serverCall_recvPart {s t : Sha1V4Server τ κ} (h : ServerRecvPart s t) (buf : List UInt8) :
    (serverCall crypto lib now s buf).2 = (serverCall crypto lib now t buf).2 ∧
      ServerRecvPart (serverCall crypto lib now s buf).1 (serverCall crypto lib now t buf).1 := by
  unfold ServerRecvPart at h
  obtain ⟨r', e', hc⟩ := serverCall_setSend crypto lib now s t.rngs t.eCtx buf
  rw [← h, hc]
  exact ⟨rfl, rfl⟩

/-- The decrypt path keeps the encrypt path's part, but for its confirmation, which is an
encrypt of an empty buffer. -/
theorem serverCall_keeps_sendPart {s t : Sha1V4Server τ κ} (h : ServerSendPart s t) (buf : List UInt8) :
    ServerSendPart (serverCall crypto lib now s buf).1
      (if serverAsksConfirm crypto lib now s buf then
        (tunnelCipherServerEncrypt (sha1V4ServerPipeline crypto lib now) t []).1 else t) := by
  obtain ⟨recvIv, ivCache, dCtx, faulted, hfr⟩ := serverDecryptStage_frame crypto lib now s buf
  rw [serverCall_eq_stage]
  unfold serverAsksConfirm
  generalize serverDecryptStage (sha1V4ServerPipeline crypto lib now) s buf true = X at hfr ⊢
  obtain ⟨st, ret⟩ := X
  dsimp only at hfr
  subst hfr
  -- what the stage and the receiver write is none of the encrypt path's part
  have hst : ServerSendPart { s with server := { s.server with recvIv }, env := { s.env with ivCache }, dCtx, faulted } t :=
    ⟨h.unitLen, h.rngs, h.eCtx, h.env⟩
  cases ret with
  | none => exact hst
  | some ret =>
    dsimp only
    have hpost : ServerSendPart
        { s with ld := (authSha1V4ServerPostDecrypt crypto { s.server with recvIv } now s.ld ret).1,
                 server := { s.server with recvIv }, env := { s.env with ivCache }, dCtx := dCtx,
                 faulted := faulted } t :=
      ⟨by rw [authSha1V4ServerPostDecrypt_unitLen]; exact h.unitLen, h.rngs, h.eCtx, h.env⟩
    split_ifs
    · exact (serverEncrypt_sendPart crypto lib now hpost []).2
    · exact hpost

/-- The two sockets' reads are independent parties of the server's `tunnel_extract_data`, but
for the confirmations, which act on the encrypt path as an encrypt of an empty buffer. -/
theorem serverExtractData_independent :
    IndependentEcho (serverExtractData crypto lib now) Prod.fst (ServerPart (τ := τ) (κ := κ))
      (serverEcho crypto lib now) where
  out e := by
    obtain ⟨_ | _, buf⟩ := e
    · exact fun h => (serverCall_recvPart crypto lib now h buf).1
    · exact fun h => (serverEncrypt_sendPart crypto lib now h buf).1
  own e := by
    obtain ⟨_ | _, buf⟩ := e
    · exact fun h => (serverCall_recvPart crypto lib now h buf).2
    · exact fun h => (serverEncrypt_sendPart crypto lib now h buf).2
  echo_other s e := by
    -- the only echo is the confirmation, a call of the target's socket
    obtain ⟨_ | _, buf⟩ := e
    · intro e' he'
      simp only [serverEcho] at he'
      split_ifs at he'
      · rw [List.mem_singleton.mp he']
        exact Side.other_ne .incoming
      · exact absurd he' List.not_mem_nil
    · exact fun _ he' => absurd he' List.not_mem_nil
  keep e := by
    obtain ⟨_ | _, buf⟩ := e <;> intro j hj <;> cases j
    · exact absurd rfl hj
    · intro s t h
      have hk := serverCall_keeps_sendPart crypto lib now h buf
      simp only [serverEcho]
      split_ifs at hk ⊢
      · exact hk
      · exact hk
    · exact fun h => serverEncrypt_keeps_recvPart crypto lib now h buf
    · exact absurd rfl hj

/-- **The server's `tunnel_extract_data` reads one socket at a time, and sees its confirmations
on the other.** From any state of the `tunnel_cipher_ctx`, after any interleaving of reads, what
the call on a read of socket `S` returns is what it returns after the reads of `S` alone, where
the target's socket also sees, after every read of the client that asked a confirmation, an
encrypt of an empty buffer: the confirmation `tunnel_cipher_server_decrypt` encrypts, which
moves `e_ctx` and the encoder's draws, and which `tunnel_extract_data` drops. -/
theorem server_extract_data_reads_one_socket_and_its_confirms (s : Sha1V4Server τ κ)
    (hist : List (Side × List UInt8)) (S : Side) (d : List UInt8) :
    (serverExtractData crypto lib now (after (serverExtractData crypto lib now) s hist) (S, d)).2 =
      (serverExtractData crypto lib now (after (serverExtractData crypto lib now) s
        ((withEchoes (serverExtractData crypto lib now) (serverEcho crypto lib now) s hist).filter
          (·.1 = S))) (S, d)).2 :=
  call_after_filter_echo (serverExtractData_independent crypto lib now) serverPart_refl s hist (S, d)

/-- **While no read of the client asks a confirmation, the server's `tunnel_extract_data` reads
one socket at a time.** From any state, after any interleaving of reads none of which, on the
client's socket, asks `tunnel_cipher_server_decrypt` for a confirmation, what the call on a
read of socket `S` returns is what it returns after the reads of `S` alone. -/
theorem server_extract_data_reads_one_socket (s : Sha1V4Server τ κ) (hist : List (Side × List UInt8))
    (hquiet : ∀ pre b post, hist = pre ++ (.incoming, b) :: post →
      serverAsksConfirm crypto lib now (after (serverExtractData crypto lib now) s pre) b = false)
    (S : Side) (d : List UInt8) :
    (serverExtractData crypto lib now (after (serverExtractData crypto lib now) s hist) (S, d)).2 =
      (serverExtractData crypto lib now (after (serverExtractData crypto lib now) s (hist.filter (·.1 = S)))
        (S, d)).2 := by
  -- no call echoes, so each socket sees its own reads only
  have hq : withEchoes (serverExtractData crypto lib now) (serverEcho crypto lib now) s hist = hist := by
    refine withEchoes_eq_self _ _ hist s fun pre e post hl => ?_
    obtain ⟨_ | _, b⟩ := e
    · simp only [serverEcho, hquiet pre b post hl, Bool.false_eq_true, ↓reduceIte]
    · rfl
  rw [call_after_filter_echo (serverExtractData_independent crypto lib now) serverPart_refl s hist (S, d), hq]

/-- The first read of a server made by `tunnel_cipher_create`: the client's IV and the first
four bytes of its header, under AES-128-CFB. -/
def sampleFirstClientRead : List UInt8 :=
  (List.range 16).map (fun i => (i + 1).toUInt8) ++ [0xed, 0xc3, 0x30, 0x57]

/-- The server reads the client's IV and part of its header, then one read from the target:
the first read asks no confirmation. -/
theorem sample_server_reads_one_socket :
    (serverExtractData pipelineCrypto sampleCfbLib sampleWorld.now
        (after (serverExtractData pipelineCrypto sampleCfbLib sampleWorld.now)
          (sha1V4ServerCreate sampleCfbLib sampleEnv sampleServer sampleEntropy fun _ => ⟨0, 0⟩)
          [(.incoming, sampleFirstClientRead), (.outgoing, [5])]) (.outgoing, [6])).2 =
      (serverExtractData pipelineCrypto sampleCfbLib sampleWorld.now
        (after (serverExtractData pipelineCrypto sampleCfbLib sampleWorld.now)
          (sha1V4ServerCreate sampleCfbLib sampleEnv sampleServer sampleEntropy fun _ => ⟨0, 0⟩)
          ([(.incoming, sampleFirstClientRead), (.outgoing, [5])].filter (·.1 = .outgoing)))
        (.outgoing, [6])).2 :=
  server_extract_data_reads_one_socket pipelineCrypto sampleCfbLib sampleWorld.now _ _
    (fun pre b post h => by
      rcases pre with _ | ⟨x, _ | ⟨y, pre⟩⟩
      · obtain ⟨hb, -⟩ := List.cons_eq_cons.mp h
        obtain ⟨-, rfl⟩ := Prod.mk.inj hb
        decide +kernel
      · simp at h
      · simp at h)
    .outgoing [6]

end Server

end ShadowsocksR.Executive
