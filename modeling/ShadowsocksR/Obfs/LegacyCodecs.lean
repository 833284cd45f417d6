/-
  ShadowsocksR.Obfs.LegacyCodecs — the data frames of `verify_simple` (`verify.c`) and of
  `auth_simple`, `auth_sha1` and `auth_sha1_v2` (`auth.c`), and their client decoders.

  The four senders write one frame: its length in two bytes, big-endian; random padding
  whose first byte is its own length (in `auth_sha1_v2`, `FF` and two bytes more for a
  padding of 128 bytes or more); the data; and a four-byte trailer over all before it.
  `verify_simple` and `auth_simple` close the frame with the CRC seal of `fillcrc32`,
  `auth_sha1` and `auth_sha1_v2` with `filladler32`. `verify_simple` fills the padding
  from `rand_bytes`, the others leave it as `malloc` gave it (`junk`). The padding is 1 to
  16 bytes, or in `auth_sha1_v2` drawn as `auth_sha1_v4` draws it, 1 to 1024.

  The four `*_client_post_decrypt` refuse a read that would fill the receive buffer past
  16384 bytes, then run one loop (`legacyStep`): while more than two bytes are buffered,
  read the length, reject it outside `[7, 8192)`, wait for the whole frame, check the
  trailer, and cut the data from where the padding ends. They differ only in the check
  and in that offset.

  Proved here:
  - `legacyStep_reads`: the loop reads every frame whose trailer its check accepts and
    whose padding its offset steps over, and waits on every proper prefix of one;
  - `verifySimple_reads`, `authSimple_reads`, `authSha1_reads`, `authSha1V2_reads`: each
    decoder reads each frame of its sender, whatever its padding;
  - `legacy_codecs_round_trip_under_every_segmentation`: for each of the four, the frames
    of payloads of up to 2000 bytes, cut into reads of at most 8192 bytes in any way, are
    given back whole, with no `-1` and nothing left buffered.
-/

import Mathlib
import ShadowsocksR.Lib.Framing
import ShadowsocksR.Obfs.AuthSimple
import ShadowsocksR.Obfs.AuthSha1V4
import ShadowsocksR.Obfs.Crc32

namespace ShadowsocksR.Legacy

open Bytes Framing AuthSha1V4

/-! ## The senders -/

/-- A frame before its trailer: the frame's length `rand_len + datalength + 6`, the
padding, the data. -/
def frameBody (pad data : List UInt8) : List UInt8 := be16 (pad.length + data.length + 6) ++ pad ++ data

/-- A frame sealed by `fillcrc32(outdata, out_size)`, in a buffer whose four bytes after
the data held `t`. -/
def crcFrame (pad data t : List UInt8) : List UInt8 :=
  fillcrc32 (frameBody pad data ++ t) (pad.length + data.length + 6)

/-- A frame closed by `filladler32(outdata, out_size)`. -/
def adlerFrame (pad data : List UInt8) : List UInt8 := frameBody pad data ++ filladler32 (frameBody pad data)

/-- `(xorshift128plus() & 0xF) + 1`. -/
def randLen16 (rng : Shift128) : Nat × Shift128 :=
  let (x, rng) := xorshift128plus rng
  ((x &&& 0xF).toNat + 1, rng)

/-- `verify_simple_pack_data` into a buffer that held `junk`: `rand_bytes` fills the
padding, whose first byte is then set to its length. -/
def verifySimplePackData (data : List UInt8) (rng : Shift128) (entropy : Entropy)
    (junk : Nat → UInt8) : List UInt8 × Shift128 × Entropy :=
  let (randLen, rng) := randLen16 rng
  let (rnd, entropy) := randBytes entropy randLen
  (crcFrame (randLen.toUInt8 :: rnd.drop 1) data (junkBytes junk (randLen + data.length + 2) 4),
    rng, entropy)

/-- `auth_simple_pack_data`: of the padding only its first byte is written. -/
def authSimplePackData (data : List UInt8) (rng : Shift128) (junk : Nat → UInt8) :
    List UInt8 × Shift128 :=
  let (randLen, rng) := randLen16 rng
  (crcFrame (randLen.toUInt8 :: junkBytes junk 3 (randLen - 1)) data
    (junkBytes junk (randLen + data.length + 2) 4), rng)

/-- `auth_sha1_pack_data`: the frame of `auth_simple_pack_data`, closed by Adler-32. -/
def authSha1PackData (data : List UInt8) (rng : Shift128) (junk : Nat → UInt8) :
    List UInt8 × Shift128 :=
  let (randLen, rng) := randLen16 rng
  (adlerFrame (randLen.toUInt8 :: junkBytes junk 3 (randLen - 1)) data, rng)

/-- `auth_sha1_v2_pack_data`: the padding length of `auth_sha1_v4`, escaped by `FF` from
128 on. -/
def authSha1V2PackData (data : List UInt8) (rng : Shift128) (junk : Nat → UInt8) :
    List UInt8 × Shift128 :=
  let (randLen, rng) := randLen data.length rng
  (adlerFrame (padField be16 randLen (junkBytes junk 2 randLen)) data, rng)

/-- The frames a sender writes for the payloads in order, the `k`-th with the random
values `rs k`. -/
def sends {ρ : Type} (pack : List UInt8 → ρ → List UInt8) (rs : Nat → ρ) : List (List UInt8) → List UInt8
  | [] => []
  | p :: ps => pack p (rs 0) ++ sends pack (fun k => rs (k + 1)) ps

/-! ## The receivers -/

/-- One pass of the loop of the four client decoders, `while (len > 2)`: `check` is the
trailer's test, `dataPos` where the padding ends. A length out of `[7, 8192)` and a failed
check empty the buffer. -/
def legacyStep (check : List UInt8 → Nat → Bool) (dataPos : List UInt8 → Nat) (u : Unit)
    (buffer : List UInt8) : Step Unit UInt8 (List UInt8) :=
  if buffer.length ≤ 2 then .more u
  else
    let length := rdBe16 buffer 0
    if length ≥ 8192 ∨ length < 7 then .fail u []
    else if length > buffer.length then .more u
    else if check buffer length = false then .fail u []
    else
      let pos := dataPos buffer
      .frame length ((buffer.drop pos).take (length - pos - 4)) u

/-- A client decoder on the bytes `recv` it has buffered and a read `buf`: `-1` (`none`)
when they would fill the receive buffer past 16384 bytes, else the loop, and what it
leaves stays buffered. -/
def legacyPostDecrypt (step : Unit → List UInt8 → Step Unit UInt8 (List UInt8))
    (recv buf : List UInt8) : List UInt8 × Option (List UInt8) :=
  if recv.length + buf.length > 16384 then (recv, none)
  else
    let r := drainAll step () (recv ++ buf)
    (r.rest, if r.ok then some r.out.flatten else none)

/-- `(int)crc32_imp(recv_buffer, length) == -1`. -/
def crcCheck (buffer : List UInt8) (length : Nat) : Bool := crc32Imp (buffer.take length) == 0xFFFFFFFF

/-- `verify_simple_client_post_decrypt` on `recv_buffer`: the data is the
`length - recv_buffer[2] - 6` bytes from `2 + recv_buffer[2]`. -/
def verifySimpleClientPostDecrypt (recv buf : List UInt8) : List UInt8 × Option (List UInt8) :=
  legacyPostDecrypt (legacyStep crcCheck fun b => 2 + (byteAt b 2).toNat) recv buf

/-- A decoder of `auth.c` on the `recv_buffer` of its `auth_simple_local_data`. -/
def authClientPostDecrypt (step : Unit → List UInt8 → Step Unit UInt8 (List UInt8))
    (ld : AuthSimpleLocal) (buf : List UInt8) : AuthSimpleLocal × Option (List UInt8) :=
  let r := legacyPostDecrypt step ld.recvBuffer buf
  ({ ld with recvBuffer := r.1 }, r.2)

/-- `auth_simple_client_post_decrypt`. -/
def authSimpleClientPostDecrypt : AuthSimpleLocal → List UInt8 → AuthSimpleLocal × Option (List UInt8) :=
  authClientPostDecrypt (legacyStep crcCheck fun b => 2 + (byteAt b 2).toNat)

/-- `auth_sha1_client_post_decrypt`: `pos = recv_buffer[2] + 2`. -/
def authSha1ClientPostDecrypt : AuthSimpleLocal → List UInt8 → AuthSimpleLocal × Option (List UInt8) :=
  authClientPostDecrypt (legacyStep checkadler32 fun b => (byteAt b 2).toNat + 2)

/-- `auth_sha1_v2_client_post_decrypt`: `pos` is `recv_buffer[2] + 2`, or where that is 255
the two bytes after it, big-endian, plus 2. An error breaks the loop and returns `-1`. -/
def authSha1V2ClientPostDecrypt : AuthSimpleLocal → List UInt8 → AuthSimpleLocal × Option (List UInt8) :=
  authClientPostDecrypt (legacyStep checkadler32 fun b => padEnd rdBe16 b 2)

/-! ## Reading a frame -/

@[simp] theorem frameBody_length (pad data : List UInt8) :
    (frameBody pad data).length = 2 + pad.length + data.length := by
  simp [frameBody]; omega

section Reads

variable {check : List UInt8 → Nat → Bool} {dataPos : List UInt8 → Nat}

/-- The loop reads a frame `frameBody pad data ++ t` whose trailer `check` accepts and
whose padding `dataPos` steps over, and waits on every proper prefix of it. -/
theorem legacyStep_reads {pad data t F : List UInt8} (hF : F = frameBody pad data ++ t)
    (ht : t.length = 4) (hpad : 1 ≤ pad.length) (hlen : pad.length + data.length + 6 < 8192)
    (hcheck : ∀ r, check (F ++ r) F.length = true) (hpos : ∀ r, dataPos (F ++ r) = 2 + pad.length) :
    Reads (legacyStep check dataPos) () F data () := by
  have hFlen : F.length = pad.length + data.length + 6 := by
    rw [hF, List.length_append, frameBody_length, ht]; omega
  -- every buffer that starts with two bytes of the frame reads its length
  have hhead : ∀ q, q <+: F → 2 ≤ q.length → rdBe16 q 0 = F.length := by
    intro q hq h2
    have hb : rdBe16 F 0 = pad.length + data.length + 6 := by
      have := rdBe16_be16 [] (pad ++ data ++ t) (x := pad.length + data.length + 6) (by omega)
      rw [hF, frameBody]
      simpa [List.append_assoc] using this
    rw [rdBe16_of_prefix_lt hq (by omega), hb, hFlen]
  exact {
    pos := by omega
    whole := fun r => by
      have hr : rdBe16 (F ++ r) 0 = F.length := by
        rw [← rdBe16_of_prefix_lt (List.prefix_append F r) (by omega)]
        exact hhead F (List.prefix_refl F) (by omega)
      have hdata : ((F ++ r).drop (2 + pad.length)).take (F.length - (2 + pad.length) - 4) = data := by
        have e : F ++ r = (be16 (pad.length + data.length + 6) ++ pad) ++ data ++ (t ++ r) := by
          simp [hF, frameBody]
        rw [e, show F.length - (2 + pad.length) - 4 = data.length by omega,
          show 2 + pad.length = (be16 (pad.length + data.length + 6) ++ pad).length by simp]
        exact take_drop_append_field _ data _
      unfold legacyStep
      dsimp only
      rw [hr, hcheck r, hpos r, hdata, List.length_append, if_neg (by omega), if_neg (by omega),
        if_neg (by omega), if_neg (by decide)]
    part := fun q hq hlt => by
      unfold legacyStep
      by_cases h2 : q.length ≤ 2
      · rw [if_pos h2]
      · rw [if_neg h2]
        dsimp only
        rw [hhead q hq (by omega), if_neg (by omega), if_pos hlt] }

end Reads

/-- A CRC frame is its body and the four bytes of the seal, and passes the check over its
own length, whatever follows it. -/
theorem crcFrame_spec (pad data : List UInt8) {t : List UInt8} (ht : t.length = 4) :
    ∃ t', t'.length = 4 ∧ crcFrame pad data t = frameBody pad data ++ t' ∧
      ∀ r, crcCheck (crcFrame pad data t ++ r) (crcFrame pad data t).length = true := by
  have hsize : pad.length + data.length + 6 = (frameBody pad data).length + 4 := by simp; omega
  have hv : (⟨t.toArray, by simp [ht]⟩ : Vector UInt8 4).toList = t := by simp
  have hseal := (crc32_seal (frameBody pad data) ⟨t.toArray, by simp [ht]⟩).1
  have happ := fillcrc32_append (frameBody pad data) ⟨t.toArray, by simp [ht]⟩
  rw [hv] at hseal happ
  refine ⟨_, le32_length _, by rw [crcFrame, hsize, happ], fun r => ?_⟩
  rw [crcCheck, List.take_left, crcFrame, hsize, hseal]
  rfl

theorem adlerFrame_check (pad data r : List UInt8) :
    checkadler32 (adlerFrame pad data ++ r) (adlerFrame pad data).length = true := by
  have h := checkadler32_filled (frameBody pad data) r
  rwa [show (frameBody pad data).length + 4 = (adlerFrame pad data).length by
    simp [adlerFrame, filladler32]] at h

/-- The byte after the length is the padding's first byte. -/
theorem byteAt_frameBody_two (b : UInt8) (pad data r : List UInt8) :
    byteAt (frameBody (b :: pad) data ++ r) 2 = b := by
  rfl

/-- A one-byte padding length below 256 reads back as the padding's length. -/
theorem toNat_toUInt8_of_lt {n : Nat} (h : n < 256) : n.toUInt8.toNat = n := by
  rw [Nat.toUInt8_eq, UInt8.toNat_ofNat']
  omega

/-! ## Each decoder reads its sender's frames -/

theorem randLen16_bounds (rng : Shift128) : 1 ≤ (randLen16 rng).1 ∧ (randLen16 rng).1 ≤ 16 := by
  unfold randLen16
  have h : ((xorshift128plus rng).1 &&& 0xF).toNat ≤ 15 := by
    rw [UInt64.toNat_and]; exact Nat.and_le_right
  dsimp only
  omega

theorem verifySimplePackData_spec (data : List UInt8) (rng : Shift128) (entropy : Entropy)
    (junk : Nat → UInt8) :
    ∃ n, 1 ≤ n ∧ n ≤ 16 ∧ (verifySimplePackData data rng entropy junk).1 =
      crcFrame (n.toUInt8 :: ((randBytes entropy n).1.drop 1)) data (junkBytes junk (n + data.length + 2) 4) :=
  ⟨(randLen16 rng).1, (randLen16_bounds rng).1, (randLen16_bounds rng).2, rfl⟩

theorem authSimplePackData_spec (data : List UInt8) (rng : Shift128) (junk : Nat → UInt8) :
    ∃ n, 1 ≤ n ∧ n ≤ 16 ∧ (authSimplePackData data rng junk).1 =
      crcFrame (n.toUInt8 :: junkBytes junk 3 (n - 1)) data (junkBytes junk (n + data.length + 2) 4) :=
  ⟨(randLen16 rng).1, (randLen16_bounds rng).1, (randLen16_bounds rng).2, rfl⟩

theorem authSha1PackData_spec (data : List UInt8) (rng : Shift128) (junk : Nat → UInt8) :
    ∃ n, 1 ≤ n ∧ n ≤ 16 ∧ (authSha1PackData data rng junk).1 =
      adlerFrame (n.toUInt8 :: junkBytes junk 3 (n - 1)) data :=
  ⟨(randLen16 rng).1, (randLen16_bounds rng).1, (randLen16_bounds rng).2, rfl⟩

theorem authSha1V2PackData_spec (data : List UInt8) (rng : Shift128) (junk : Nat → UInt8) :
    ∃ n, 1 ≤ n ∧ n ≤ 1024 ∧ (authSha1V2PackData data rng junk).1 =
      adlerFrame (padField be16 n (junkBytes junk 2 n)) data :=
  ⟨(randLen data.length rng).1, (randLen_bounds data.length rng).1, (randLen_bounds data.length rng).2.1, rfl⟩

/-- The padding of the three short-padding senders: its length, then `n - 1` bytes. -/
theorem short_pad_length (n : Nat) (rest : List UInt8) (hrest : rest.length = n - 1) (hn : 1 ≤ n) :
    (n.toUInt8 :: rest).length = n := by
  simp [hrest]; omega

theorem verifySimple_reads (data : List UInt8) (rng : Shift128) (entropy : Entropy)
    (junk : Nat → UInt8) (hd : data.length ≤ 2000) :
    Reads (legacyStep crcCheck fun b => 2 + (byteAt b 2).toNat) ()
      (verifySimplePackData data rng entropy junk).1 data () := by
  obtain ⟨n, h1, h16, heq⟩ := verifySimplePackData_spec data rng entropy junk
  rw [heq]
  have hpad : (n.toUInt8 :: ((randBytes entropy n).1.drop 1)).length = n :=
    short_pad_length n _ (by simp) h1
  obtain ⟨t', ht', hF, hcheck⟩ := crcFrame_spec (n.toUInt8 :: ((randBytes entropy n).1.drop 1)) data
    (junkBytes_length junk (n + data.length + 2) 4)
  refine legacyStep_reads hF ht' (by omega) (by omega) hcheck (fun r => ?_)
  rw [hF, List.append_assoc, byteAt_frameBody_two, toNat_toUInt8_of_lt (by omega), hpad]

theorem authSimple_reads (data : List UInt8) (rng : Shift128) (junk : Nat → UInt8)
    (hd : data.length ≤ 2000) :
    Reads (legacyStep crcCheck fun b => 2 + (byteAt b 2).toNat) ()
      (authSimplePackData data rng junk).1 data () := by
  obtain ⟨n, h1, h16, heq⟩ := authSimplePackData_spec data rng junk
  rw [heq]
  have hpad : (n.toUInt8 :: junkBytes junk 3 (n - 1)).length = n :=
    short_pad_length n _ (junkBytes_length _ _ _) h1
  obtain ⟨t', ht', hF, hcheck⟩ := crcFrame_spec (n.toUInt8 :: junkBytes junk 3 (n - 1)) data
    (junkBytes_length junk (n + data.length + 2) 4)
  refine legacyStep_reads hF ht' (by omega) (by omega) hcheck (fun r => ?_)
  rw [hF, List.append_assoc, byteAt_frameBody_two, toNat_toUInt8_of_lt (by omega), hpad]

theorem authSha1_reads (data : List UInt8) (rng : Shift128) (junk : Nat → UInt8)
    (hd : data.length ≤ 2000) :
    Reads (legacyStep checkadler32 fun b => (byteAt b 2).toNat + 2) ()
      (authSha1PackData data rng junk).1 data () := by
  obtain ⟨n, h1, h16, heq⟩ := authSha1PackData_spec data rng junk
  rw [heq]
  have hpad : (n.toUInt8 :: junkBytes junk 3 (n - 1)).length = n :=
    short_pad_length n _ (junkBytes_length _ _ _) h1
  refine legacyStep_reads rfl (le32_length _) (by omega) (by omega)
    (adlerFrame_check _ data) (fun r => ?_)
  rw [adlerFrame, List.append_assoc, byteAt_frameBody_two, toNat_toUInt8_of_lt (by omega), hpad,
    Nat.add_comm]

theorem authSha1V2_reads (data : List UInt8) (rng : Shift128) (junk : Nat → UInt8)
    (hd : data.length ≤ 2000) :
    Reads (legacyStep checkadler32 fun b => padEnd rdBe16 b 2) ()
      (authSha1V2PackData data rng junk).1 data () := by
  obtain ⟨n, h1, h1024, heq⟩ := authSha1V2PackData_spec data rng junk
  rw [heq]
  have hpad : (padField be16 n (junkBytes junk 2 n)).length = n :=
    padField_length (fun x => be16_length x) h1 (junkBytes_length _ _ _)
  refine legacyStep_reads rfl (le32_length _) (by omega) (by omega)
    (adlerFrame_check _ data) (fun r => ?_)
  -- the padding's end, found as `padEnd_padField` says, past the two bytes of the length
  have hend := @padEnd_padField be16 rdBe16 (fun pre post x hx => rdBe16_be16 pre post hx)
    (be16 (n + data.length + 6)) (data ++ filladler32 (frameBody (padField be16 n (junkBytes junk 2 n)) data) ++ r)
    (junkBytes junk 2 n) n h1 (by omega) (junkBytes_length _ _ _)
  simp only [be16_length] at hend
  have hbuf : ∀ T, frameBody (padField be16 n (junkBytes junk 2 n)) data ++ T ++ r =
      be16 (n + data.length + 6) ++ padField be16 n (junkBytes junk 2 n) ++ (data ++ T ++ r) := by
    intro T
    simp only [frameBody, hpad, List.append_assoc]
  rw [adlerFrame, hbuf, hend, hpad]
  omega

/-! ## Every cut of the frames -/

/-- A frame loop never rejects an empty buffer. -/
@[simp] theorem legacyStep_nil (check : List UInt8 → Nat → Bool) (dataPos : List UInt8 → Nat) :
    legacyStep check dataPos () [] = .more () := rfl

section Decoders

variable {step : Unit → List UInt8 → Step Unit UInt8 (List UInt8)}

theorem legacyPostDecrypt_drains (step : Unit → List UInt8 → Step Unit UInt8 (List UInt8)) :
    Drains step (legacyPostDecrypt step) (fun recv => ((), recv))
      (fun q c => q.length + c.length ≤ 16384) id := by
  intro t c hfit
  dsimp only at hfit
  unfold legacyPostDecrypt
  rw [if_neg (by omega)]
  refine ⟨fun hok => by simp [hok], fun hok => ⟨by simp [hok, List.flatMap_id], rfl⟩⟩

theorem authClientPostDecrypt_drains (step : Unit → List UInt8 → Step Unit UInt8 (List UInt8)) :
    Drains step (authClientPostDecrypt step) (fun ld => ((), ld.recvBuffer))
      (fun q c => q.length + c.length ≤ 16384) id := by
  intro t c hfit
  have h := legacyPostDecrypt_drains step t.recvBuffer c hfit
  exact ⟨h.1, fun hok => ⟨(h.2 hok).1, (h.2 hok).2⟩⟩

/-- The frames of payloads of at most 2000 bytes are a chain the loop reads, each at most
8192 bytes long. -/
theorem sends_chain {ρ : Type} {pack : List UInt8 → ρ → List UInt8}
    (hreads : ∀ p r, p.length ≤ 2000 → Reads step () (pack p r) p ())
    (hbound : ∀ p r, p.length ≤ 2000 → (pack p r).length ≤ 8192) :
    ∀ (ps : List (List UInt8)) (rs : Nat → ρ), (∀ p ∈ ps, p.length ≤ 2000) →
      ∃ fs, Chain step () fs () ∧ wire fs = sends pack rs ps ∧ outs fs = ps ∧ Bounded 8192 fs := by
  intro ps
  induction ps with
  | nil => intro rs _; exact ⟨[], .nil (), rfl, rfl, by simp⟩
  | cons p ps ih =>
    intro rs hps
    have hp := hps p List.mem_cons_self
    obtain ⟨fs, hch, hw, ho, hb⟩ := ih (fun k => rs (k + 1)) (fun q hq => hps q (List.mem_cons_of_mem p hq))
    refine ⟨(pack p (rs 0), p) :: fs, .cons (hreads p (rs 0) hp) hch, ?_, ?_, ?_⟩
    · rw [wire_cons, hw, sends]
    · rw [outs_cons, ho]
    · exact bounded_cons.mpr ⟨hbound p (rs 0) hp, hb⟩

/-- A decoder that drains every read fitting its buffer gives back the payloads of any
cut of a chain into reads of at most 8192 bytes. -/
theorem legacy_run {τ : Type} {call : τ → List UInt8 → τ × Option (List UInt8)} {view : τ → Unit × List UInt8}
    (hcall : Drains step call view (fun q c => q.length + c.length ≤ 16384) id)
    (hnil : step () [] = .more ()) {fs : List (List UInt8 × List UInt8)} (hch : Chain step () fs ())
    (hb : Bounded 8192 fs) {cs : List (List UInt8)} (hcs : cs.flatten = wire fs)
    (hc : ∀ c ∈ cs, c.length ≤ 8192) {t : τ} (ht : view t = ((), [])) :
    view (run call t cs).1 = ((), []) ∧ (run call t cs).2 = some (outs fs).flatten := by
  -- a pending tail is a proper prefix of a frame, so it and a read fit the buffer
  have hadm : ∀ q : List UInt8, q.length < 8192 ∨ q = [] → ∀ c ∈ cs, q.length + c.length ≤ 16384 := by
    intro q hq c hc'
    have := hc c hc'
    rcases hq with hq | rfl
    · omega
    · simp only [List.length_nil]; omega
  have hrun := run_chain hcall hch hnil hb hadm hcs ht
  exact ⟨hrun.1, by rw [hrun.2, List.flatMap_id]⟩

end Decoders

/-! ## The four codecs -/

/-- A frame the loop cuts is shorter than 8192 bytes: its length is the length field,
which the loop checks. -/
theorem frame_length_lt {check : List UInt8 → Nat → Bool} {dataPos : List UInt8 → Nat}
    {F data : List UInt8} (h : Reads (legacyStep check dataPos) () F data ()) : F.length < 8192 := by
  have hw := h.whole []
  rw [List.append_nil] at hw
  unfold legacyStep at hw
  split at hw
  · cases hw
  · dsimp only at hw
    split at hw
    · cases hw
    · rename_i hrange
      split at hw
      · cases hw
      · split at hw
        · cases hw
        · injection hw with hL
          omega

/-- A client decoder that gives back, with no `-1` and nothing left buffered, the payloads
of any frames `pack` writes for payloads of 1 to 2000 bytes, whatever random values each
frame draws, however their bytes are cut into reads of at most 8192 bytes. -/
def RoundTrips {τ ρ : Type} (pack : List UInt8 → ρ → List UInt8)
    (call : τ → List UInt8 → τ × Option (List UInt8)) (buffered : τ → List UInt8) (t : τ) : Prop :=
  ∀ (rs : Nat → ρ) (ps cs : List (List UInt8)), (∀ p ∈ ps, 1 ≤ p.length ∧ p.length ≤ 2000) →
    (∀ c ∈ cs, c.length ≤ 8192) → cs.flatten = sends pack rs ps →
    buffered (run call t cs).1 = [] ∧ (run call t cs).2 = some ps.flatten

/-- Each decoder round-trips its own frames, from a state with nothing buffered. -/
theorem roundTrips_of_reads {τ ρ : Type} {step : Unit → List UInt8 → Step Unit UInt8 (List UInt8)}
    {pack : List UInt8 → ρ → List UInt8} {call : τ → List UInt8 → τ × Option (List UInt8)}
    {buffered : τ → List UInt8} (hcall : Drains step call (fun t => ((), buffered t))
      (fun q c => q.length + c.length ≤ 16384) id)
    (hnil : step () [] = .more ()) (hreads : ∀ p r, p.length ≤ 2000 → Reads step () (pack p r) p ())
    (hbound : ∀ p r, p.length ≤ 2000 → (pack p r).length ≤ 8192) {t : τ} (ht : buffered t = []) :
    RoundTrips pack call buffered t := by
  intro rs ps cs hps hc hcs
  obtain ⟨fs, hch, hw, ho, hb⟩ := sends_chain hreads hbound ps rs (fun p hp => (hps p hp).2)
  have hrun := legacy_run hcall hnil hch hb (hcs.trans hw.symm) hc (show _ = _ by rw [ht])
  refine ⟨?_, by rw [hrun.2, ho]⟩
  have := congrArg Prod.snd hrun.1
  exact this

/-- **The four legacy codecs carry their payloads under every segmentation.** For
`verify_simple`, `auth_simple`, `auth_sha1` and `auth_sha1_v2`, started with an empty
receive buffer, the client decoder turns every cut of its sender's frames into reads of
at most 8192 bytes back into the payloads. -/
theorem legacy_codecs_round_trip_under_every_segmentation :
    RoundTrips (fun p (r : Shift128 × Entropy × (Nat → UInt8)) => (verifySimplePackData p r.1 r.2.1 r.2.2).1)
        verifySimpleClientPostDecrypt id [] ∧
      ∀ ld : AuthSimpleLocal, ld.recvBuffer = [] →
        RoundTrips (fun p (r : Shift128 × (Nat → UInt8)) => (authSimplePackData p r.1 r.2).1)
            authSimpleClientPostDecrypt AuthSimpleLocal.recvBuffer ld ∧
          RoundTrips (fun p (r : Shift128 × (Nat → UInt8)) => (authSha1PackData p r.1 r.2).1)
            authSha1ClientPostDecrypt AuthSimpleLocal.recvBuffer ld ∧
          RoundTrips (fun p (r : Shift128 × (Nat → UInt8)) => (authSha1V2PackData p r.1 r.2).1)
            authSha1V2ClientPostDecrypt AuthSimpleLocal.recvBuffer ld := by
  refine ⟨?verify, fun ld hld => ⟨?simple, ?sha1, ?v2⟩⟩
  case verify =>
    exact roundTrips_of_reads (legacyPostDecrypt_drains _) rfl
      (fun p r hp => verifySimple_reads p r.1 r.2.1 r.2.2 hp)
      (fun p r hp => (frame_length_lt (verifySimple_reads p r.1 r.2.1 r.2.2 hp)).le) rfl
  case simple =>
    exact roundTrips_of_reads (authClientPostDecrypt_drains _) rfl
      (fun p r hp => authSimple_reads p r.1 r.2 hp)
      (fun p r hp => (frame_length_lt (authSimple_reads p r.1 r.2 hp)).le) hld
  case sha1 =>
    exact roundTrips_of_reads (authClientPostDecrypt_drains _) rfl
      (fun p r hp => authSha1_reads p r.1 r.2 hp)
      (fun p r hp => (frame_length_lt (authSha1_reads p r.1 r.2 hp)).le) hld
  case v2 =>
    exact roundTrips_of_reads (authClientPostDecrypt_drains _) rfl
      (fun p r hp => authSha1V2_reads p r.1 r.2 hp)
      (fun p r hp => (frame_length_lt (authSha1V2_reads p r.1 r.2 hp)).le) hld

/-- The random values of every frame: a generator, zero random bytes, a zeroed buffer. -/
def sampleDraws : Nat → Shift128 × Entropy × (Nat → UInt8) :=
  fun _ => (⟨1, 2⟩, ⟨fun _ => 0, 0⟩, fun _ => 0)

/-- The `verify_simple` frame of the one-byte payload `A`. -/
def sampleWire : List UInt8 :=
  sends (fun p r => (verifySimplePackData p r.1 r.2.1 r.2.2).1) sampleDraws [[0x41]]

/-- A receiver state of `auth.c` with nothing buffered. -/
def freshLocal : AuthSimpleLocal := (authSimpleLocalDataInit [] ⟨fun _ => 0, 0⟩).1

theorem verify_frame_cut_after_three_bytes :
    (run verifySimpleClientPostDecrypt [] [sampleWire.take 3, sampleWire.drop 3]).1 = [] ∧
      (run verifySimpleClientPostDecrypt [] [sampleWire.take 3, sampleWire.drop 3]).2 = some [0x41] ∧
    freshLocal.recvBuffer = [] ∧
      (RoundTrips (fun p (r : Shift128 × (Nat → UInt8)) => (authSimplePackData p r.1 r.2).1)
          authSimpleClientPostDecrypt AuthSimpleLocal.recvBuffer freshLocal ∧
        RoundTrips (fun p (r : Shift128 × (Nat → UInt8)) => (authSha1PackData p r.1 r.2).1)
          authSha1ClientPostDecrypt AuthSimpleLocal.recvBuffer freshLocal ∧
        RoundTrips (fun p (r : Shift128 × (Nat → UInt8)) => (authSha1V2PackData p r.1 r.2).1)
          authSha1V2ClientPostDecrypt AuthSimpleLocal.recvBuffer freshLocal) := by
  have hframe : sampleWire.length < 8192 := by
    have h := frame_length_lt (verifySimple_reads [0x41] (sampleDraws 0).1 (sampleDraws 0).2.1
      (sampleDraws 0).2.2 (by decide))
    simpa [sampleWire, sends] using h
  have hcuts : ∀ c ∈ [sampleWire.take 3, sampleWire.drop 3], c.length ≤ 8192 := by
    intro c hc
    simp only [List.mem_cons, List.not_mem_nil, or_false] at hc
    rcases hc with rfl | rfl
    · simp only [List.length_take]; omega
    · simp only [List.length_drop]; omega
  have hrun := legacy_codecs_round_trip_under_every_segmentation.1 sampleDraws [[0x41]]
    [sampleWire.take 3, sampleWire.drop 3] (by decide) hcuts (by simp [sampleWire])
  exact ⟨hrun.1, hrun.2, rfl, legacy_codecs_round_trip_under_every_segmentation.2 freshLocal rfl⟩

end ShadowsocksR.Legacy
