/-
  ShadowsocksR.Client.Feedback — client.c from the SSR auth packet on: the stages that
  wait for the server's confirmation, and the streaming that follows.

  When the protocol or the obfs needs feedback (`tunnel_cipher_client_need_feedback`),
  `do_ssr_auth_sent` reads the server's first bytes in `tunnel_stage_ssr_waiting_feedback`;
  `do_ssr_receipt_for_feedback` hands them to `tunnel_cipher_client_decrypt`, writes the
  feedback it makes (the obfs's `client_encode` of an empty buffer) to the server, and
  then asserts that the decrypted buffer is empty and releases it. The SOCKS5 reply goes
  to the application (`do_socks5_reply_success`), and from `do_launch_streaming` on every
  read of the server is decrypted by `tunnel_extract_data` and written to the application
  (`tunnel_traditional_streaming`).

  `tunnel_cipher_client_decrypt` is modelled over its plugins (`ClientPipeline`), each a
  function of one state that stands for the plugins' local data and the decrypt context:
  so what is proved holds for every obfs, protocol and cipher. The application's
  direction of the streaming (its reads, encrypted and written to the server) touches
  neither the decrypt state nor the application socket's writes, and is left out, as is
  the over-TLS path.

  Proved (`Inv`, `inv_reach`): over every order of the server's reads and of the write
  completions, once the server's first read `r` has come, the buffers written to the
  application after the SOCKS5 reply are exactly what the streaming stage decrypts from
  the reads after `r`, from the state the decrypt of `r` left (`streamRun`), and
  `ASSERT(buf->len == 0)` has failed whenever the decrypt of `r` was not empty
  (`feedback_read_drops_its_data`). So what the server sent along with its confirmation
  in one segment is decrypted, taken out of the cipher's stream and never written: a
  release build, where the `ASSERT` is empty, loses it.
-/

import Mathlib
import ShadowsocksR.Lib.Machine
import ShadowsocksR.Obfs.AuthSha1V4

namespace ShadowsocksR.Client

open StateMachine

/-! ## `tunnel_cipher_client_decrypt` -/

/-- `enum ssr_error`, the values the client's decrypt path returns. -/
inductive SsrError where
  | ok
  | clientDecode
  | invalidPassword
  | clientPostDecrypt
  deriving DecidableEq, Repr

/-- The plugins of a `tunnel_cipher_ctx` as the client's decrypt path calls them, over one
state `σ`: the obfs's `client_decode` (its result, `NULL` as `none`, and `needsendback`)
and `client_encode`, `ss_decrypt` (`none` when it returns an error), the protocol's
`client_post_decrypt` (`none` for a negative length), and whether either plugin needs
feedback. A plugin the tunnel does not have is `none`. -/
structure ClientPipeline (σ : Type) where
  obfsClientDecode : Option (σ → List UInt8 → σ × Option (List UInt8) × Bool)
  obfsClientEncode : Option (σ → List UInt8 → σ × List UInt8)
  ssDecrypt : σ → List UInt8 → σ × Option (List UInt8)
  protocolClientPostDecrypt : Option (σ → List UInt8 → σ × Option (List UInt8))
  needFeedback : Bool

/-- What `tunnel_cipher_client_decrypt` leaves: the state, the error, `buf`, and
`*feedback`. -/
structure ClientDecrypted (σ : Type) where
  state : σ
  error : SsrError
  buf : List UInt8
  feedback : Option (List UInt8)

variable {σ : Type} (pl : ClientPipeline σ)

/-- `tunnel_cipher_client_decrypt` after the obfs: `ss_decrypt` of a buffer that is not
empty, then the protocol's `client_post_decrypt`. -/
def decryptRest (st : σ) (buf : List UInt8) (feedback : Option (List UInt8)) : ClientDecrypted σ :=
  match (if buf.length > 0 then pl.ssDecrypt st buf else (st, some buf)) with
  | (st, none) => ⟨st, .invalidPassword, buf, feedback⟩
  | (st, some buf) =>
    match pl.protocolClientPostDecrypt with
    | none => ⟨st, .ok, buf, feedback⟩
    | some post =>
      match post st buf with
      | (st, none) => ⟨st, .clientPostDecrypt, buf, feedback⟩
      | (st, some buf) => ⟨st, .ok, buf, feedback⟩

/-- `tunnel_cipher_client_decrypt(tc, buf, &feedback)`. -/
def tunnelCipherClientDecrypt (st : σ) (buf : List UInt8) : ClientDecrypted σ :=
  match pl.obfsClientDecode with
  | none => decryptRest pl st buf none
  | some decode =>
    match decode st buf with
    | (st, none, _) => ⟨st, .clientDecode, buf, none⟩
    | (st, some result, needsendback) =>
      -- the send-back is `client_encode` of an empty buffer
      match needsendback, pl.obfsClientEncode with
      | true, some encode =>
        let (st, sendback) := encode st []
        decryptRest pl st result (some sendback)
      | _, _ => decryptRest pl st result none

/-! ## The client's stages -/

/-- The stages of `client.c` from the SSR auth packet on. -/
inductive Stage where
  | ssrAuthSent
  | ssrWaitingFeedback
  | ssrReceiptOfFeedbackSent
  | authComplitionDone
  | streaming
  deriving DecidableEq, Repr

/-- A client tunnel: its stage, the cipher context's state, `init_pkg` (the address the
SOCKS5 reply echoes), which of its reads and writes libuv owes, and what it wrote. -/
structure ClientTunnel (σ : Type) where
  stage : Stage
  cipher : σ
  initPkg : List UInt8
  outgoingReading : Bool
  outgoingWriting : Bool
  incomingWriting : Bool
  terminated : Bool
  assertFailed : Bool
  /-- What each read of the server brought, in order. -/
  serverReads : List (List UInt8)
  /-- The buffers given to `socket_write` on the application's socket and on the server's. -/
  toApp : List (List UInt8)
  toServer : List (List UInt8)

namespace ClientTunnel

/-- `ASSERT(cond)`: a failure is recorded; a release build goes on. -/
def assert (t : ClientTunnel σ) (cond : Bool) : ClientTunnel σ :=
  { t with assertFailed := t.assertFailed || !cond }

@[simp] theorem assert_stage (t : ClientTunnel σ) (c : Bool) : (t.assert c).stage = t.stage := rfl
@[simp] theorem assert_cipher (t : ClientTunnel σ) (c : Bool) : (t.assert c).cipher = t.cipher := rfl
@[simp] theorem assert_initPkg (t : ClientTunnel σ) (c : Bool) : (t.assert c).initPkg = t.initPkg := rfl
@[simp] theorem assert_outgoingReading (t : ClientTunnel σ) (c : Bool) :
    (t.assert c).outgoingReading = t.outgoingReading := rfl
@[simp] theorem assert_outgoingWriting (t : ClientTunnel σ) (c : Bool) :
    (t.assert c).outgoingWriting = t.outgoingWriting := rfl
@[simp] theorem assert_incomingWriting (t : ClientTunnel σ) (c : Bool) :
    (t.assert c).incomingWriting = t.incomingWriting := rfl
@[simp] theorem assert_terminated (t : ClientTunnel σ) (c : Bool) :
    (t.assert c).terminated = t.terminated := rfl
@[simp] theorem assert_assertFailed (t : ClientTunnel σ) (c : Bool) :
    (t.assert c).assertFailed = (t.assertFailed || !c) := rfl
@[simp] theorem assert_serverReads (t : ClientTunnel σ) (c : Bool) :
    (t.assert c).serverReads = t.serverReads := rfl
@[simp] theorem assert_toApp (t : ClientTunnel σ) (c : Bool) : (t.assert c).toApp = t.toApp := rfl
@[simp] theorem assert_toServer (t : ClientTunnel σ) (c : Bool) : (t.assert c).toServer = t.toServer := rfl

end ClientTunnel

/-- The SOCKS5 reply: version 5, success, reserved, then `init_pkg`. -/
def socks5Reply (initPkg : List UInt8) : List UInt8 := [5, 0, 0] ++ initPkg

/-- `do_socks5_reply_success`. -/
def doSocks5ReplySuccess (t : ClientTunnel σ) : ClientTunnel σ :=
  { t with toApp := t.toApp ++ [socks5Reply t.initPkg], incomingWriting := true,
           stage := .authComplitionDone }

/-- `do_ssr_auth_sent`, after the auth packet is written. -/
def doSsrAuthSent (t : ClientTunnel σ) : ClientTunnel σ :=
  if pl.needFeedback then { t with outgoingReading := true, stage := .ssrWaitingFeedback }
  else doSocks5ReplySuccess t

/-- `do_ssr_receipt_for_feedback`, and whether it wrote feedback. The decrypted `buf` is
asserted empty and released. -/
def doSsrReceiptForFeedback (t : ClientTunnel σ) (data : List UInt8) : ClientTunnel σ × Bool :=
  let d := tunnelCipherClientDecrypt pl t.cipher data
  let t := (({ t with cipher := d.state } : ClientTunnel σ).assert (d.error == .ok)).assert
    (d.buf.length == 0)
  match d.feedback with
  | some feedback =>
    ({ t with toServer := t.toServer ++ [feedback], outgoingWriting := true,
              stage := .ssrReceiptOfFeedbackSent }, true)
  | none => (t, false)

/-- `do_launch_streaming`: the reads of both sockets start; the application's is not
followed here. -/
def doLaunchStreaming (t : ClientTunnel σ) : ClientTunnel σ :=
  { t with outgoingReading := true, stage := .streaming }

/-- `tunnel_traditional_streaming` on a read of the server: `tunnel_extract_data`
decrypts it, and what it returns is written to the application, or the tunnel is shut
down when it returns `NULL`. -/
def streamServerRead (t : ClientTunnel σ) (data : List UInt8) : ClientTunnel σ :=
  let d := tunnelCipherClientDecrypt pl t.cipher data
  let t := ({ t with cipher := d.state } : ClientTunnel σ).assert d.feedback.isNone
  if d.error = .ok then { t with toApp := t.toApp ++ [d.buf], incomingWriting := true }
  else { t with terminated := true }

/-- `do_next` after a read of the server's socket. -/
def outgoingReadDone (t : ClientTunnel σ) (data : List UInt8) : ClientTunnel σ :=
  match t.stage with
  | .ssrWaitingFeedback =>
    let (t, done) := doSsrReceiptForFeedback pl t data
    if done then t else doSocks5ReplySuccess t
  | .streaming => streamServerRead pl t data
  | _ => t.assert false

/-- Only the event records a read; no stage of the read path touches the record. -/
theorem outgoingReadDone_serverReads (t : ClientTunnel σ) (data : List UInt8) :
    (outgoingReadDone pl t data).serverReads = t.serverReads := by
  unfold outgoingReadDone doSsrReceiptForFeedback streamServerRead
  split
  · cases hf : (tunnelCipherClientDecrypt pl t.cipher data).feedback <;> simp [hf, doSocks5ReplySuccess]
  · dsimp only
    split <;> simp
  · simp

/-- `do_next` after a write to the server's socket. -/
def outgoingWriteDone (t : ClientTunnel σ) : ClientTunnel σ :=
  match t.stage with
  | .ssrAuthSent => doSsrAuthSent pl t
  | .ssrReceiptOfFeedbackSent => doSocks5ReplySuccess t
  | _ => t.assert false

/-- `do_next` after a write to the application's socket; in the streaming stage the
server's socket is read again if it is not being read. -/
def incomingWriteDone (t : ClientTunnel σ) : ClientTunnel σ :=
  match t.stage with
  | .authComplitionDone => doLaunchStreaming t
  | .streaming => if t.outgoingReading then t else { t with outgoingReading := true }
  | _ => t.assert false

/-- What libuv may deliver: a read of the server (never of 0 bytes, which stops nothing
here) while its socket is read, and the completion of a pending write. -/
inductive ClientEvent where
  | serverRead (data : List UInt8)
  | outgoingWritten
  | incomingWritten

def clientMachine : Machine (ClientTunnel σ) ClientEvent where
  enabled t e :=
    t.terminated = false ∧
      match e with
      | .serverRead data => t.outgoingReading = true ∧ data ≠ []
      | .outgoingWritten => t.outgoingWriting = true
      | .incomingWritten => t.incomingWriting = true
  step t e :=
    match e with
    | .serverRead data =>
      outgoingReadDone pl { t with outgoingReading := false, serverReads := t.serverReads ++ [data] } data
    | .outgoingWritten => outgoingWriteDone pl { t with outgoingWriting := false }
    | .incomingWritten => incomingWriteDone { t with incomingWriting := false }

/-- The tunnel as `do_connect_ssr_server_done` leaves it: the auth packet being written. -/
def ClientTunnel.start (st₀ : σ) (initPkg : List UInt8) : ClientTunnel σ :=
  ⟨.ssrAuthSent, st₀, initPkg, false, true, false, false, false, [], [], []⟩

/-! ## What the streaming writes -/

/-- The streaming stage over reads of the server from the state `st`: the buffers it
writes to the application, and the state after them, `none` once a decrypt failed and
the tunnel was shut down. -/
def streamRun : σ → List (List UInt8) → List (List UInt8) × Option σ
  | st, [] => ([], some st)
  | st, r :: rs =>
    let d := tunnelCipherClientDecrypt pl st r
    if d.error = .ok then ((d.buf :: (streamRun d.state rs).1), (streamRun d.state rs).2)
    else ([], none)

/-- One more read of a live streaming stage. -/
theorem streamRun_append {st st' : σ} {rs out : List (List UInt8)}
    (h : streamRun pl st rs = (out, some st')) (x : List UInt8) :
    streamRun pl st (rs ++ [x]) =
      if (tunnelCipherClientDecrypt pl st' x).error = .ok then
        (out ++ [(tunnelCipherClientDecrypt pl st' x).buf], some (tunnelCipherClientDecrypt pl st' x).state)
      else (out, none) := by
  induction rs generalizing st out with
  | nil =>
    simp only [streamRun, Prod.mk.injEq, Option.some.injEq] at h
    obtain ⟨rfl, rfl⟩ := h
    simp only [List.nil_append, streamRun]
  | cons r rs ih =>
    simp only [streamRun] at h
    split at h
    · next hok =>
      simp only [Prod.mk.injEq] at h
      obtain ⟨rfl, hst⟩ := h
      have hrest : streamRun pl (tunnelCipherClientDecrypt pl st r).state rs =
          ((streamRun pl (tunnelCipherClientDecrypt pl st r).state rs).1, some st') := by
        rw [← hst]
      rw [List.cons_append, streamRun, if_pos hok, ih hrest]
      split <;> simp
    · simp at h

/-! ## The invariant -/

section Invariant

variable (st₀ : σ)

/-- The data the confirmation's read `r` decrypted to, when there was any, failed
`ASSERT(buf->len == 0)`. -/
def Marked (t : ClientTunnel σ) (r : List UInt8) : Prop :=
  (tunnelCipherClientDecrypt pl st₀ r).buf ≠ [] → t.assertFailed = true

/-- Where a tunnel started from the state `st₀` stands, stage by stage: the reads of the
server so far, what went to the application, the cipher's state, and which reads and
writes libuv owes. -/
def Inv (t : ClientTunnel σ) : Prop :=
  match t.stage with
  | .ssrAuthSent =>
    t.terminated = false ∧ t.serverReads = [] ∧ t.toApp = [] ∧ t.cipher = st₀ ∧
      t.outgoingReading = false ∧ t.outgoingWriting = true ∧ t.incomingWriting = false
  | .ssrWaitingFeedback =>
    t.terminated = false ∧ t.serverReads = [] ∧ t.toApp = [] ∧ t.cipher = st₀ ∧
      t.outgoingReading = true ∧ t.outgoingWriting = false ∧ t.incomingWriting = false
  | .ssrReceiptOfFeedbackSent =>
    ∃ r, t.terminated = false ∧ t.serverReads = [r] ∧ t.toApp = [] ∧
      t.cipher = (tunnelCipherClientDecrypt pl st₀ r).state ∧ Marked pl st₀ t r ∧
      t.outgoingReading = false ∧ t.outgoingWriting = true ∧ t.incomingWriting = false
  | .authComplitionDone =>
    ∃ r, t.terminated = false ∧ t.serverReads = [r] ∧ t.toApp = [socks5Reply t.initPkg] ∧
      t.cipher = (tunnelCipherClientDecrypt pl st₀ r).state ∧ Marked pl st₀ t r ∧
      t.outgoingReading = false ∧ t.outgoingWriting = false ∧ t.incomingWriting = true
  | .streaming =>
    ∃ r rs, t.serverReads = r :: rs ∧
      t.toApp = socks5Reply t.initPkg :: (streamRun pl (tunnelCipherClientDecrypt pl st₀ r).state rs).1 ∧
      Marked pl st₀ t r ∧ t.outgoingWriting = false ∧
      (t.terminated = false →
        (streamRun pl (tunnelCipherClientDecrypt pl st₀ r).state rs).2 = some t.cipher ∧
          t.outgoingReading ≠ t.incomingWriting)

variable {pl st₀}

/-- An assertion that has failed stays failed. -/
theorem Marked.of_imp {t t' : ClientTunnel σ} {r : List UInt8} (h : Marked pl st₀ t r)
    (himp : t.assertFailed = true → t'.assertFailed = true) : Marked pl st₀ t' r :=
  fun hb => himp (h hb)

/-- A read of the server's: the confirmation in the waiting stage, or data while
streaming. -/
theorem inv_serverRead {t : ClientTunnel σ} (hi : Inv pl st₀ t)
    {data : List UInt8} (he : (clientMachine pl).enabled t (.serverRead data)) :
    Inv pl st₀ ((clientMachine pl).step t (.serverRead data)) := by
  obtain ⟨hterm, hread, -⟩ := he
  simp only [clientMachine]
  unfold Inv at hi
  cases hs : t.stage with
  | ssrAuthSent => simp only [hs] at hi; simp [hi.2.2.2.2.1] at hread
  | ssrReceiptOfFeedbackSent =>
    simp only [hs] at hi
    obtain ⟨r, -, -, -, -, -, hr, -⟩ := hi
    simp [hr] at hread
  | authComplitionDone =>
    simp only [hs] at hi
    obtain ⟨r, -, -, -, -, -, hr, -⟩ := hi
    simp [hr] at hread
  | ssrWaitingFeedback =>
    simp only [hs] at hi
    obtain ⟨hterm, hreads, happ, hcipher, -, hwr, hiw⟩ := hi
    -- `do_ssr_receipt_for_feedback`: with feedback to write, or straight to the reply
    cases hf : (tunnelCipherClientDecrypt pl st₀ data).feedback with
    | some feedback =>
      simp [Inv, outgoingReadDone, doSsrReceiptForFeedback, hterm, hreads, happ, hcipher, hf, hiw, Marked]
      exact fun hb => .inr hb
    | none =>
      simp [Inv, outgoingReadDone, doSsrReceiptForFeedback, doSocks5ReplySuccess, hterm, hreads, happ,
        hcipher, hf, hwr, Marked]
      exact fun hb => .inr hb
  | streaming =>
    simp only [hs] at hi
    obtain ⟨r, rs, hreads, happ, hmark, hwr, hlive⟩ := hi
    obtain ⟨hrun, -⟩ := hlive hterm
    have hrun' : streamRun pl (tunnelCipherClientDecrypt pl st₀ r).state rs =
        ((streamRun pl (tunnelCipherClientDecrypt pl st₀ r).state rs).1, some t.cipher) := by
      rw [← hrun]
    have happend := streamRun_append pl hrun' data
    by_cases hok : (tunnelCipherClientDecrypt pl t.cipher data).error = .ok
    · rw [if_pos hok] at happend
      simp only [Inv, outgoingReadDone, streamServerRead, hok, if_true]
      refine ⟨r, rs ++ [data], ?_⟩
      simp [hreads, happ, happend, hwr]
      exact hmark.of_imp fun h => by simp [h]
    · rw [if_neg hok] at happend
      simp only [Inv, outgoingReadDone, streamServerRead, hok, if_false]
      refine ⟨r, rs ++ [data], ?_⟩
      simp [hreads, happ, happend, hwr]
      exact hmark.of_imp fun h => by simp [h]

/-- The write of the auth packet or of the feedback is done. -/
theorem inv_outgoingWritten (hfb : pl.needFeedback = true) {t : ClientTunnel σ} (hi : Inv pl st₀ t)
    (he : (clientMachine pl).enabled t .outgoingWritten) :
    Inv pl st₀ ((clientMachine pl).step t .outgoingWritten) := by
  obtain ⟨hterm, hwrite⟩ := he
  simp only [clientMachine]
  unfold Inv at hi
  cases hs : t.stage with
  | ssrAuthSent =>
    simp only [hs] at hi
    obtain ⟨-, hreads, happ, hcipher, -, -, hiw⟩ := hi
    simp [Inv, outgoingWriteDone, doSsrAuthSent, hfb, hterm, hreads, happ, hcipher, hiw]
  | ssrWaitingFeedback => simp only [hs] at hi; simp [hi.2.2.2.2.2.1] at hwrite
  | ssrReceiptOfFeedbackSent =>
    simp only [hs] at hi
    obtain ⟨r, -, hreads, happ, hcipher, hmark, hrd, -, -⟩ := hi
    simp only [Inv, outgoingWriteDone, doSocks5ReplySuccess]
    exact ⟨r, hterm, hreads, by simp [happ], hcipher, hmark, hrd, trivial, trivial⟩
  | authComplitionDone =>
    simp only [hs] at hi
    obtain ⟨r, -, -, -, -, -, -, hwr, -⟩ := hi
    simp [hwr] at hwrite
  | streaming =>
    simp only [hs] at hi
    obtain ⟨r, rs, -, -, -, hwr, -⟩ := hi
    simp [hwr] at hwrite

/-- The write of the SOCKS5 reply, or of streamed data, to the application is done. -/
theorem inv_incomingWritten {t : ClientTunnel σ} (hi : Inv pl st₀ t)
    (he : (clientMachine pl).enabled t .incomingWritten) :
    Inv pl st₀ ((clientMachine pl).step t .incomingWritten) := by
  obtain ⟨hterm, hiw⟩ := he
  simp only [clientMachine]
  unfold Inv at hi
  cases hs : t.stage with
  | ssrAuthSent => simp only [hs] at hi; simp [hi.2.2.2.2.2.2] at hiw
  | ssrWaitingFeedback => simp only [hs] at hi; simp [hi.2.2.2.2.2.2] at hiw
  | ssrReceiptOfFeedbackSent =>
    simp only [hs] at hi
    obtain ⟨r, -, -, -, -, -, -, -, hiw'⟩ := hi
    simp [hiw'] at hiw
  | authComplitionDone =>
    simp only [hs] at hi
    obtain ⟨r, -, hreads, happ, hcipher, hmark, -, hwr, -⟩ := hi
    simp only [Inv, incomingWriteDone, doLaunchStreaming]
    exact ⟨r, [], hreads, by simp [happ, streamRun], hmark, hwr,
      fun _ => ⟨by simp [streamRun, hcipher], by simp⟩⟩
  | streaming =>
    simp only [hs] at hi
    obtain ⟨r, rs, hreads, happ, hmark, hwr, hlive⟩ := hi
    obtain ⟨hrun, hflags⟩ := hlive hterm
    -- reading and writing alternate: the write that is done means no read is pending
    have hrd : t.outgoingReading = false := by simpa [hiw] using hflags
    simp only [Inv, incomingWriteDone, hrd]
    exact ⟨r, rs, hreads, happ, hmark, hwr, fun _ => ⟨hrun, by simp⟩⟩

theorem inv_step (hfb : pl.needFeedback = true) {t : ClientTunnel σ} (hi : Inv pl st₀ t)
    {e : ClientEvent} (he : (clientMachine pl).enabled t e) :
    Inv pl st₀ ((clientMachine pl).step t e) := by
  cases e with
  | serverRead data => exact inv_serverRead hi he
  | outgoingWritten => exact inv_outgoingWritten hfb hi he
  | incomingWritten => exact inv_incomingWritten hi he

theorem inv_start (initPkg : List UInt8) : Inv pl st₀ (ClientTunnel.start st₀ initPkg) := by
  simp [Inv, ClientTunnel.start]

/-- Every state a client tunnel reaches from the auth packet on. -/
theorem inv_reach (hfb : pl.needFeedback = true) {initPkg : List UInt8} {t : ClientTunnel σ}
    (ht : (clientMachine pl).Reach (· = ClientTunnel.start st₀ initPkg) t) : Inv pl st₀ t :=
  Machine.Reach.inv (Inv pl st₀) (fun _ h => by subst h; exact inv_start initPkg)
    (fun _ _ _ hi he => inv_step hfb hi he) ht

/-- Once the server's first read `r` has come: the assertion on its decrypt, and what the
application has been sent after the SOCKS5 reply. -/
theorem Inv.after_first_read {t : ClientTunnel σ} (hi : Inv pl st₀ t) {r : List UInt8}
    {rs : List (List UInt8)} (hreads : t.serverReads = r :: rs) :
    Marked pl st₀ t r ∧
      t.toApp.drop 1 = (streamRun pl (tunnelCipherClientDecrypt pl st₀ r).state rs).1 := by
  unfold Inv at hi
  cases hs : t.stage with
  | ssrAuthSent => simp only [hs] at hi; simp [hi.2.1] at hreads
  | ssrWaitingFeedback => simp only [hs] at hi; simp [hi.2.1] at hreads
  | ssrReceiptOfFeedbackSent =>
    simp only [hs] at hi
    obtain ⟨r', -, hr, happ, -, hmark, -⟩ := hi
    rw [hr] at hreads
    obtain ⟨rfl, rfl⟩ := List.cons.inj hreads
    exact ⟨hmark, by simp [happ, streamRun]⟩
  | authComplitionDone =>
    simp only [hs] at hi
    obtain ⟨r', -, hr, happ, -, hmark, -⟩ := hi
    rw [hr] at hreads
    obtain ⟨rfl, rfl⟩ := List.cons.inj hreads
    exact ⟨hmark, by simp [happ, streamRun]⟩
  | streaming =>
    simp only [hs] at hi
    obtain ⟨r', rs', hr, happ, hmark, -⟩ := hi
    rw [hr] at hreads
    obtain ⟨rfl, rfl⟩ := List.cons.inj hreads
    exact ⟨hmark, by simp [happ]⟩

/-- What the server sent along with its confirmation is lost: when the decrypt of the first
read is not empty, `ASSERT(buf->len == 0)` has failed, and what the application gets after
the SOCKS5 reply is the streaming of the later reads alone, so not the streaming of all
the server's reads. -/
theorem feedback_read_drops_its_data (hfb : pl.needFeedback = true) {initPkg : List UInt8}
    {t : ClientTunnel σ} (ht : (clientMachine pl).Reach (· = ClientTunnel.start st₀ initPkg) t)
    {r : List UInt8} {rs : List (List UInt8)} (hreads : t.serverReads = r :: rs)
    (hdata : (tunnelCipherClientDecrypt pl st₀ r).buf ≠ []) :
    t.assertFailed = true ∧
      (t.toApp.drop 1).flatten =
        (streamRun pl (tunnelCipherClientDecrypt pl st₀ r).state rs).1.flatten ∧
      ((tunnelCipherClientDecrypt pl st₀ r).error = .ok →
        (t.toApp.drop 1).flatten ≠ (streamRun pl st₀ t.serverReads).1.flatten) := by
  obtain ⟨hmark, happ⟩ := (inv_reach hfb ht).after_first_read hreads
  refine ⟨hmark hdata, by rw [happ], fun hok hall => hdata ?_⟩
  -- the streaming of all the reads writes the first read's data before the rest
  rw [hreads, streamRun, if_pos hok, List.flatten_cons, happ] at hall
  simpa using hall

end Invariant

/-! ## The protocol `auth_sha1_v4` -/

/-- A client of `auth_sha1_v4` over the `plain` obfs and the `none` method, whose
`ss_decrypt` has no context and leaves the buffer: the protocol needs feedback. -/
def authSha1V4Client : ClientPipeline AuthSimpleLocal where
  obfsClientDecode := none
  obfsClientEncode := none
  ssDecrypt st buf := (st, some buf)
  protocolClientPostDecrypt := some AuthSha1V4.authSha1V4ClientPostDecrypt
  needFeedback := true

/-- The server's confirmation (`tunnel_cipher_server_encrypt` of the empty buffer, one frame
that carries nothing) and its first reply, in one segment. -/
def confirmationWithReply : List UInt8 :=
  AuthSha1V4.serverSends (AuthSha1V4.authSha1V4NewObfs AuthSha1V4.sampleEntropy).1
    (fun _ => ⟨0, 0⟩) [[], AuthSha1V4.sampleReply]

/-- The tunnel after the auth packet was written and the server's confirmation came in one
read with the reply. -/
def confirmationRun : ClientTunnel AuthSimpleLocal :=
  (clientMachine authSha1V4Client).step
    ((clientMachine authSha1V4Client).step
      (ClientTunnel.start (AuthSha1V4.authSha1V4NewObfs AuthSha1V4.sampleEntropy).1 [])
      .outgoingWritten)
    (.serverRead confirmationWithReply)

theorem decrypt_confirmationWithReply :
    (tunnelCipherClientDecrypt authSha1V4Client
      (AuthSha1V4.authSha1V4NewObfs AuthSha1V4.sampleEntropy).1 confirmationWithReply).buf =
      AuthSha1V4.sampleReply := by
  decide +kernel

/-- The reply the server sent with its confirmation never reaches the application, and
the assertion on it fails. -/
theorem sha1v4_reply_with_confirmation_is_dropped :
    confirmationRun.assertFailed = true ∧
      (confirmationRun.toApp.drop 1).flatten =
        (streamRun authSha1V4Client (tunnelCipherClientDecrypt authSha1V4Client
          (AuthSha1V4.authSha1V4NewObfs AuthSha1V4.sampleEntropy).1 confirmationWithReply).state
          []).1.flatten ∧
      ((tunnelCipherClientDecrypt authSha1V4Client
          (AuthSha1V4.authSha1V4NewObfs AuthSha1V4.sampleEntropy).1 confirmationWithReply).error =
          .ok →
        (confirmationRun.toApp.drop 1).flatten ≠
          (streamRun authSha1V4Client (AuthSha1V4.authSha1V4NewObfs AuthSha1V4.sampleEntropy).1
            confirmationRun.serverReads).1.flatten) := by
  have hreach : (clientMachine authSha1V4Client).Reach
      (· = ClientTunnel.start (AuthSha1V4.authSha1V4NewObfs AuthSha1V4.sampleEntropy).1 [])
      confirmationRun := by
    unfold confirmationRun
    exact .step _ (.step _ (.init rfl) ⟨rfl, rfl⟩)
      ⟨rfl, rfl, by decide +kernel⟩
  exact feedback_read_drops_its_data rfl hreach
    (by simp [confirmationRun, clientMachine, outgoingReadDone_serverReads, outgoingWriteDone,
      doSsrAuthSent, authSha1V4Client, ClientTunnel.start])
    (by rw [decrypt_confirmationWithReply]; decide)

end ShadowsocksR.Client
