/-
  ShadowsocksR.Obfs.AuthChain.Stream — auth_chain's TCP stream past the header, both ways and
  over every cut of it into reads (`auth_chain.c`: the frame loops of
  `auth_chain_a_client_pre_encrypt` and `auth_chain_a_server_pre_encrypt`, read back by
  `auth_chain_a_server_post_decrypt` and `auth_chain_a_client_post_decrypt`).

  The receivers' loops read a frame alike from any generator and, but for the server's pass
  over one buffered byte, from any byte past the buffer: seen through `TcpLocal.settle`, which
  drops both, a pass is the pass from the settled context (`serverStep_settle`). So the frames a
  synced sender writes are a chain of the settled pass (`Framing.ChainWhen`), and the receiver
  follows it (`Framing.FollowsOn`, through `Framing.drain_chainWhen_map`).

  Proved: the server hands on what the client's frame loop sent, and is synced with the client
  after it, however the frames are cut into reads, as long as no read ends one byte into a
  frame (`server_reads_every_cut_not_one_byte_into_a_frame`; the one-byte case is
  `server_fails_on_one_byte_tail`); the client hands on what the server's frame loop sent past
  its first reply over every cut into reads it can buffer
  (`client_reads_every_cut_of_a_reply`), and from the first reply it takes `tcp_mss` as well
  (`client_learns_tcp_mss_from_the_first_reply`).
-/

import ShadowsocksR.Obfs.AuthChain.Tcp

namespace ShadowsocksR.AuthChain

open Framing Bytes StreamCipher

/-! ## What the passes read of a context -/

section Settle

variable (ld : TcpLocal)

@[simp] theorem TcpLocal.settle_lastClientHash : ld.settle.lastClientHash = ld.lastClientHash := rfl
@[simp] theorem TcpLocal.settle_lastServerHash : ld.settle.lastServerHash = ld.lastServerHash := rfl
@[simp] theorem TcpLocal.settle_userKey : ld.settle.userKey = ld.userKey := rfl
@[simp] theorem TcpLocal.settle_recvId : ld.settle.recvId = ld.recvId := rfl
@[simp] theorem TcpLocal.settle_packId : ld.settle.packId = ld.packId := rfl
@[simp] theorem TcpLocal.settle_keystream : ld.settle.keystream = ld.keystream := rfl
@[simp] theorem TcpLocal.settle_decryptPos : ld.settle.decryptPos = ld.decryptPos := rfl
@[simp] theorem TcpLocal.settle_encryptPos : ld.settle.encryptPos = ld.encryptPos := rfl
@[simp] theorem TcpLocal.settle_hasRecvHeader : ld.settle.hasRecvHeader = ld.hasRecvHeader := rfl
@[simp] theorem TcpLocal.settle_recvBuffer : ld.settle.recvBuffer = ld.recvBuffer := rfl
@[simp] theorem TcpLocal.settle_randomClient : ld.settle.randomClient = ⟨0, 0⟩ := rfl
@[simp] theorem TcpLocal.settle_randomServer : ld.settle.randomServer = ⟨0, 0⟩ := rfl
@[simp] theorem TcpLocal.settle_recvByte1 : ld.settle.recvByte1 = 0 := rfl

theorem TcpLocal.clear_of_nil {ld : TcpLocal} (h : ld.recvBuffer = []) : { ld with recvBuffer := [] } = ld := by
  cases ld
  cases h
  rfl

end Settle

section ServerSettle

variable (v : TcpRandLen) (crypto : Crypto)

/-- The padding drawn from two generators: the same length, and the same generator after it
when there is padding. -/
theorem TcpRandLen.run_agree (d : Nat) (random random' : Shift128) (h : List UInt8) :
    (v.run d random' h).1 = (v.run d random h).1 ∧
      (0 < (v.run d random h).1 → v.run d random' h = v.run d random h) :=
  ⟨v.fst_indep d random' random h, v.indep_of_pos d random random' h⟩

/-- Past the first two bytes, or on none, the server's pass does not read the generator or the
byte past the buffer: seen through `settle` it is the pass from the settled context. -/
theorem serverStep_settle (s : TcpLocal) {buf : List UInt8} (h1 : buf.length ≠ 1) :
    (serverStep v crypto s buf).map TcpLocal.settle = settledServerStep v crypto s.settle buf := by
  unfold settledServerStep serverStep
  by_cases h0 : buf.length = 0
  · rw [if_pos h0, if_pos h0]; rfl
  rw [if_neg h0, if_neg h0, if_neg h1, if_neg h1, TcpLocal.settle_lastClientHash,
    TcpLocal.settle_randomClient]
  obtain ⟨d, hd⟩ : ∃ d, unmaskLength (byteAt buf 0) (byteAt buf 1) s.lastClientHash = d := ⟨_, rfl⟩
  obtain ⟨n, r, hp⟩ : ∃ n r, v.run d s.randomClient s.lastClientHash = (n, r) := ⟨_, _, rfl⟩
  obtain ⟨n', r', hp'⟩ : ∃ n r, v.run d ⟨0, 0⟩ s.lastClientHash = (n, r) := ⟨_, _, rfl⟩
  obtain ⟨hfst, hpos⟩ := v.run_agree d s.randomClient ⟨0, 0⟩ s.lastClientHash
  rw [hp, hp'] at hfst hpos
  simp only at hfst hpos
  obtain rfl : n = n' := hfst.symm
  rw [hd]
  simp only [hp, hp', TcpLocal.settle_userKey, TcpLocal.settle_recvId, TcpLocal.settle_keystream,
    TcpLocal.settle_decryptPos]
  -- with padding both generators are one; without, the start is 2 and the generators are dropped
  by_cases hn : 0 < n
  · obtain ⟨rfl⟩ : r' = r := (Prod.mk.inj (hpos hn)).2
    split_ifs <;> rfl
  · simp only [gt_iff_lt, hn, and_false, if_false]
    split_ifs <;> rfl

/-- A pass that cuts a frame cuts its four bytes of length and MAC at least, and no more than
is buffered. -/
theorem serverStep_frame_length {s t : TcpLocal} {buf : List UInt8} {n : Nat} {o : List UInt8 × Bool}
    (h : serverStep v crypto s buf = .frame n o t) : 4 ≤ n ∧ n ≤ buf.length := by
  unfold serverStep at h
  by_cases h0 : buf.length = 0
  · rw [if_pos h0] at h; cases h
  rw [if_neg h0] at h
  obtain ⟨m, r, hp⟩ : ∃ m r, v.run (unmaskLength (byteAt buf 0)
      (if buf.length = 1 then s.recvByte1 else byteAt buf 1) s.lastClientHash) s.randomClient
      s.lastClientHash = (m, r) := ⟨_, _, rfl⟩
  simp only [hp] at h
  split_ifs at h
  all_goals (simp only [Step.frame.injEq] at h; obtain ⟨rfl, -, -⟩ := h; omega)

/-- No pass changes the header flag or the buffer field of the state it goes on from. -/
theorem serverStep_keeps (s : TcpLocal) (buf : List UInt8) (hs : s.hasRecvHeader = true ∧ s.recvBuffer = []) :
    Keeps (fun t : TcpLocal => t.hasRecvHeader = true ∧ t.recvBuffer = []) (serverStep v crypto s buf) := by
  unfold serverStep
  by_cases h0 : buf.length = 0
  · rw [if_pos h0]; exact hs
  rw [if_neg h0]
  obtain ⟨m, r, hp⟩ : ∃ m r, v.run (unmaskLength (byteAt buf 0)
      (if buf.length = 1 then s.recvByte1 else byteAt buf 1) s.lastClientHash) s.randomClient
      s.lastClientHash = (m, r) := ⟨_, _, rfl⟩
  simp only [hp]
  split_ifs <;> exact hs

end ServerSettle

/-! ## The client's frames, read by the server -/

section ClientFrames

variable (v : TcpRandLen) (crypto : Crypto)

/-- The frames `auth_chain_a_client_pre_encrypt`'s loop writes (`packClientFrames`), each on
its own. -/
def clientFrames (unitSize : Nat) (ld : TcpLocal) (entropy : Entropy) (data : List UInt8) :
    List (List UInt8) :=
  if data.length > unitSize ∧ 0 < unitSize then
    let (out, ld, entropy) := authChainAPackClientData v crypto ld entropy (data.take unitSize)
    out :: clientFrames unitSize ld entropy (data.drop unitSize)
  else if data.length > 0 then [(authChainAPackClientData v crypto ld entropy data).1]
  else []
termination_by data.length
decreasing_by simp only [List.length_drop]; omega

theorem authChainAPackClientData_key (ld : TcpLocal) (entropy : Entropy) (data : List UInt8) :
    (authChainAPackClientData v crypto ld entropy data).2.1.userKey = ld.userKey ∧
      (authChainAPackClientData v crypto ld entropy data).2.1.keystream = ld.keystream := by
  obtain ⟨rnd, random, e', -, h⟩ := authChainAPackClientData_spec v crypto ld entropy data
  rw [h]
  exact ⟨rfl, rfl⟩

/-- After a frame the server, moved on to where the client stands, is synced with it again. -/
theorem Synced.follow {c s c' : TcpLocal} {e e' : Entropy} {data f : List UInt8} (hs : Synced c s)
    (hpack : authChainAPackClientData v crypto c e data = (f, c', e')) :
    Synced c' (s.follow c').settle := by
  have hk := authChainAPackClientData_key v crypto c e data
  rw [hpack] at hk
  exact ⟨rfl, rfl, hs.key.trans hk.1.symm, hs.keystream.trans hk.2.symm, rfl⟩

/-- A frame the client packs from a synced context is a frame of the settled pass from the
settled server: followed by anything it is cut with its data, and every proper prefix of it
but its first byte waits. -/
theorem clientFrame_readsWhen {c s c' : TcpLocal} {e e' : Entropy} {data f : List UInt8}
    (hs : Synced c s) (hset : s.settle = s) (hlen : data.length < 4096)
    (hpack : authChainAPackClientData v crypto c e data = (f, c', e')) :
    ReadsWhen (settledServerStep v crypto) (fun q => q.length ≠ 1) s f (data, data.length == 0)
      (s.follow c').settle := by
  have hf := authChainAPackClientData_length v crypto c e data
  rw [hpack] at hf
  simp only at hf
  refine ⟨by omega, fun r => ?whole, fun q hq hlt h1 => ?part⟩
  case whole =>
    obtain ⟨random, h⟩ := serverStep_clientFrame v crypto hs hlen hpack r
    rw [settledServerStep, h]
    rfl
  case part =>
    rw [settledServerStep]
    by_cases h0 : q.length = 0
    · rw [List.eq_nil_of_length_eq_zero h0, serverStep_nil]
      exact congrArg Step.more hset
    -- two bytes or more: the length reads right and the frame is not all there
    obtain ⟨rnd, random, e'', -, hspec⟩ := authChainAPackClientData_spec v crypto c e data
    rw [hpack] at hspec
    obtain ⟨rfl, -, -⟩ := Prod.mk.inj hspec
    have hbyte : ∀ i < 2, byteAt q i = byteAt (maskLength data.length c.lastClientHash) i := fun i hi =>
      (byteAt_of_prefix_lt hq (by omega)).trans (frameMsg_append_byteAt hi _)
    obtain ⟨n, r, hp⟩ : ∃ n r, v.run data.length s.randomClient s.lastClientHash = (n, r) := ⟨_, _, rfl⟩
    have hn : n = (v.run data.length c.randomClient c.lastClientHash).1 := by
      rw [← hs.hash, v.fst_indep data.length c.randomClient s.randomClient, hp]
    have hok : data.length + n < 4096 := hn ▸ (v.ok data.length c.randomClient c.lastClientHash).2 hlen
    rw [serverStep_wait v crypto (d := data.length) (by omega)
      (by rw [hbyte 0 (by omega), hbyte 1 (by omega), hs.hash, unmaskLength_maskLength (by omega)])
      hp hok (by omega)]
    exact congrArg Step.more hset

/-- The loop's output, where it returns, is its frames back to back. -/
theorem packClientFrames_fst (unitSize : Nat) (ld : TcpLocal) (entropy : Entropy) (data : List UInt8) :
    ∀ p, packClientFrames v crypto unitSize ld entropy data = .ok p →
      p.1 = (clientFrames v crypto unitSize ld entropy data).flatten := by
  fun_induction packClientFrames v crypto unitSize ld entropy data with
  | case1 ld entropy data hgt hz => intro p hp; cases hp
  | case2 ld entropy data hgt hz out ld₁ e₁ hpack ih =>
    intro p hp
    cases hq : packClientFrames v crypto unitSize ld₁ e₁ (data.drop unitSize) with
    | error t => rw [hq] at hp; cases hp
    | ok q =>
      rw [hq] at hp
      cases hp
      rw [clientFrames, if_pos ⟨hgt, Nat.pos_of_ne_zero hz⟩]
      simp only [hpack, List.flatten_cons, ← ih q hq]
  | case3 ld entropy data hle hpos =>
    intro p hp
    cases hp
    rw [clientFrames, if_neg (fun h => hle h.1), if_pos hpos]
    simp
  | case4 ld entropy data hle hpos =>
    intro p hp
    cases hp
    rw [clientFrames, if_neg (fun h => hle h.1), if_neg hpos]
    rfl

theorem clientFrames_single {unitSize : Nat} (ld : TcpLocal) (entropy : Entropy) {data : List UInt8}
    (h0 : 0 < data.length) (hle : data.length ≤ unitSize) :
    clientFrames v crypto unitSize ld entropy data = [(authChainAPackClientData v crypto ld entropy data).1] := by
  rw [clientFrames, if_neg (by omega), if_pos h0]

/-- **The client's frames are a chain of the server's settled pass.** From a server synced
with the client, the frames of a run of the client's loop that returns are read one after
another, waiting on every proper prefix but one byte long; their data are the client's, and the
server ends synced with where the client's loop leaves it. -/
theorem packClientFrames_chainWhen {unitSize : Nat} (hunit : unitSize < 4096) (ld : TcpLocal)
    (entropy : Entropy) (data : List UInt8) :
    ∀ p, packClientFrames v crypto unitSize ld entropy data = .ok p →
      ∀ s : TcpLocal, Synced ld s → s.settle = s →
      ∃ fs u, ChainWhen (settledServerStep v crypto) (fun q => q.length ≠ 1) s fs u ∧
        fs.map Prod.fst = clientFrames v crypto unitSize ld entropy data ∧
        ((outs fs).map Prod.fst).flatten = data ∧ Synced p.2.1 u ∧ u.settle = u := by
  fun_induction packClientFrames v crypto unitSize ld entropy data with
  | case1 ld entropy data hgt hz => intro p hp; cases hp
  | case2 ld entropy data hgt hz out ld₁ e₁ hpack ih =>
    intro p hp s hs hset
    cases hq : packClientFrames v crypto unitSize ld₁ e₁ (data.drop unitSize) with
    | error t => rw [hq] at hp; cases hp
    | ok q =>
      rw [hq] at hp
      cases hp
      -- a frame of `unit_size` bytes, then the loop on the rest from where it leaves both ends
      have hr := clientFrame_readsWhen v crypto hs hset (by simp only [List.length_take]; omega) hpack
      obtain ⟨fs, u, hc, hw, ho, hsync, hu⟩ :=
        ih q hq _ (hs.follow v crypto hpack) (TcpLocal.settle_settle _)
      refine ⟨(out, (data.take unitSize, _)) :: fs, u, .cons hr hc, ?_, ?_, hsync, hu⟩
      · rw [clientFrames, if_pos ⟨hgt, Nat.pos_of_ne_zero hz⟩]
        simp only [hpack, List.map_cons, hw]
      · simp only [outs_cons, List.map_cons, List.flatten_cons, ho, List.take_append_drop]
  | case3 ld entropy data hle hpos =>
    intro p hp s hs hset
    cases hp
    have hlen : data.length < 4096 := by omega
    generalize hpack : authChainAPackClientData v crypto ld entropy data = p
    obtain ⟨f, c', e'⟩ := p
    refine ⟨[(f, (data, data.length == 0))], (s.follow c').settle,
      .cons (clientFrame_readsWhen v crypto hs hset hlen hpack) (.nil _), ?_, by simp,
      hs.follow v crypto hpack, TcpLocal.settle_settle _⟩
    rw [clientFrames, if_neg (fun h => hle h.1), if_pos hpos, hpack]
    rfl
  | case4 ld entropy data hle hpos =>
    intro p hp s hs hset
    cases hp
    obtain rfl : data = [] := List.eq_nil_of_length_eq_zero (by omega)
    refine ⟨[], s, .nil s, ?_, rfl, hs, hset⟩
    rw [clientFrames, if_neg (fun h => hle h.1), if_neg hpos]
    rfl

end ClientFrames


/-! ## The server's post-decrypt over a cut -/

section ServerReads

variable (v : TcpRandLen) (crypto : Crypto) (rc4 : List UInt8 → Nat → UInt8) (now : UInt32)

/-- `auth_chain_a_server_post_decrypt` as a receiver's call: the connection and `out_buf`. -/
def serverRead (o : ChainObfs) (buf : List UInt8) : ChainObfs × Option (List UInt8) :=
  let r := authChainAServerPostDecrypt v crypto rc4 now o buf
  (r.1, r.2.1)

/-- What the server's loop starts from, seen through `settle`, and what it has buffered. -/
def serverView (o : ChainObfs) : TcpLocal × List UInt8 :=
  ({ o.ld with recvBuffer := [] }.settle, o.ld.recvBuffer)

theorem Synced.of_view {c : TcpLocal} {o : ChainObfs} (h : Synced c (serverView o).1) : Synced c o.ld :=
  ⟨h.hash, h.id, h.key, h.keystream, h.pos⟩

/-- Past the header, `auth_chain_a_server_post_decrypt` follows the chains of the settled pass
over every tail but one byte long. -/
theorem serverRead_follows :
    FollowsOn (settledServerStep v crypto) (fun q => q.length ≠ 1)
      (fun o : ChainObfs => o.ld.hasRecvHeader = true) (serverRead v crypto rc4 now) serverView
      Prod.fst := by
  intro t c fs u q' hhead hc hcq hW hwait
  simp only [serverView] at hc hcq
  -- the frames are at least four bytes long, so no buffer the loop meets is one byte long
  have hfs : ∀ f ∈ fs.map Prod.fst, ∀ r : List UInt8, (f ++ r).length ≠ 1 := by
    intro f hf r
    obtain ⟨s', o, t', hcut⟩ := hc.cut_of_mem f hf
    obtain ⟨o', t'', hcut'⟩ : ∃ o' t'', serverStep v crypto s' f = .frame f.length o' t'' := by
      unfold settledServerStep at hcut
      cases h : serverStep v crypto s' f <;> rw [h] at hcut <;> simp only [Step.map, reduceCtorEq] at hcut
      case frame n o' t'' =>
        obtain ⟨rfl, -, -⟩ := Step.frame.inj hcut
        exact ⟨o', t'', rfl⟩
    have := (serverStep_frame_length v crypto hcut').1
    simp only [List.length_append]
    omega
  have hloop := drain_chainWhen_map TcpLocal.settle
    (fun q => q.length ≠ 1) (fun s _ h => serverStep_settle v crypto s h) hc hfs hW hwait
    (show fs.length < (t.ld.recvBuffer ++ c).length + 1 by
      have := hc.length_le; rw [hcq, List.length_append]; omega)
  have hkeep := drain_keeps _ (serverStep_keeps v crypto) ((t.ld.recvBuffer ++ c).length + 1)
    { t.ld with recvBuffer := [] } (t.ld.recvBuffer ++ c) ⟨hhead, rfl⟩
  rw [← hcq] at hloop
  unfold serverRead
  rw [authChainAServerPostDecrypt_of_header v crypto rc4 now hhead c]
  unfold drainAll
  generalize drain (serverStep v crypto) ((t.ld.recvBuffer ++ c).length + 1)
    { t.ld with recvBuffer := [] } (t.ld.recvBuffer ++ c) = r at hloop hkeep ⊢
  obtain ⟨ok, st, rest, out⟩ := r
  simp only [Drained.map, Drained.mk.injEq] at hloop hkeep
  obtain ⟨rfl, rfl, rfl, rfl⟩ := hloop
  obtain ⟨hh, hb⟩ := hkeep
  refine ⟨hh, by simp [List.flatMap_def], ?_⟩
  simp only [serverView, TcpLocal.clear_of_nil hb]

/-- **The server reads every cut not one byte into a frame.** Past the header, from a server
synced with the client and with nothing buffered, the frames the client's pre-encrypt sends
for `data` (with units under 4096 bytes), cut into reads none of which ends one byte into a
frame, come back as `data`: no read returns `NULL`, and the server ends synced with the client,
past the header, with nothing buffered. -/
theorem server_reads_every_cut_not_one_byte_into_a_frame {server : ServerInfo} {oc oc' : ChainObfs}
    {s : TcpLocal} {global global' : ChainGlobal} {e e' : Entropy} {data f : List UInt8}
    (hsent : oc.ld.hasSentHeader = true)
    (hunit : sizeSub oc.server.tcpMss oc.server.overhead < 4096)
    (hpre : authChainAClientPreEncrypt v crypto rc4 global now oc e data = .ok (f, oc', global', e'))
    (hs : Synced oc.ld s) (hhead : s.hasRecvHeader = true) (hbuf : s.recvBuffer = [])
    {cs : List (List UInt8)} (hcs : cs.flatten = f)
    (htails : ∀ k ≤ cs.length,
      ∀ j < (clientFrames v crypto (sizeSub oc.server.tcpMss oc.server.overhead) oc.ld e data).length,
        (cs.take k).flatten.length ≠
          ((clientFrames v crypto (sizeSub oc.server.tcpMss oc.server.overhead) oc.ld e data).take j).flatten.length + 1) :
    (run (serverRead v crypto rc4 now) ⟨server, s⟩ cs).2 = some data ∧
      Synced oc'.ld (run (serverRead v crypto rc4 now) ⟨server, s⟩ cs).1.ld ∧
      (run (serverRead v crypto rc4 now) ⟨server, s⟩ cs).1.ld.recvBuffer = [] ∧
      (run (serverRead v crypto rc4 now) ⟨server, s⟩ cs).1.ld.hasRecvHeader = true := by
  obtain ⟨ld', hp, rfl⟩ := packClientFrames_of_preEncrypt v crypto hsent hpre
  -- the frames are a chain of the settled pass from what the server's loop starts from
  obtain ⟨fs, u, hc, hw, ho, hsync, hu⟩ := packClientFrames_chainWhen v crypto hunit oc.ld e data _ hp
    (serverView ⟨server, s⟩).1 ⟨hs.hash, hs.id, hs.key, hs.keystream, hs.pos⟩ (TcpLocal.settle_settle _)
  have hf : f = _ := packClientFrames_fst v crypto _ _ _ _ _ hp
  have hwire : cs.flatten = wire fs := by rw [hcs, hf, ← hw]; rfl
  -- a tail one byte long would be a read ending one byte into a frame
  have htw : TailsWhen (fun q => q.length ≠ 1) fs [] cs := by
    intro k fs₁ fs₂ q' hfs hk hp h1
    rcases hp with ⟨-, rfl⟩ | ⟨f, o, gs, rfl, -, -⟩
    · simp at h1
    · have hj : fs₁.length < (fs.map Prod.fst).length := by rw [List.length_map, hfs]; simp
      have hpre : ((fs.map Prod.fst).take fs₁.length).flatten = wire fs₁ := by
        rw [hfs, List.map_append, List.take_left' (by simp)]; rfl
      rw [hw] at hj hpre
      refine htails (min k cs.length) (Nat.min_le_right _ _) fs₁.length hj ?_
      rw [hpre, ← List.take_take, List.take_length, ← h1, ← List.length_append, ← hk, List.nil_append]
  have hnil : settledServerStep v crypto u [] = .more u := by
    rw [settledServerStep, serverStep_nil]
    exact congrArg Step.more hu
  obtain ⟨hP, hv, hout⟩ := run_chainWhen (serverRead_follows v crypto rc4 now) hc hnil hwire htw
    (t := ⟨server, s⟩) hhead (by simp [serverView, hbuf])
  have hsync' := Synced.of_view (o := (run (serverRead v crypto rc4 now) ⟨server, s⟩ cs).1)
    (by rw [hv]; exact hsync)
  refine ⟨by rw [hout, List.flatMap_def, ho], ⟨hsync'.hash, hsync'.id, hsync'.key, hsync'.keystream,
    hsync'.pos⟩, congrArg Prod.snd hv, hP⟩

/-- The sample frame of `server_fails_on_one_byte_tail`, read in two parts of 10 and 11 bytes,
comes back whole. -/
theorem sample_frame_in_two_reads :
    (run (serverRead aTcpRandLen sampleCrypto (fun _ _ => 0) 0) ⟨sampleServer, sampleServerLocal⟩
        [sampleSent.1.take 10, sampleSent.1.drop 10]).2 = some sampleRequest ∧
      Synced { sampleSent.2.1 with lastDataLen := 16 } (run (serverRead aTcpRandLen sampleCrypto (fun _ _ => 0) 0)
        ⟨sampleServer, sampleServerLocal⟩ [sampleSent.1.take 10, sampleSent.1.drop 10]).1.ld ∧
      (run (serverRead aTcpRandLen sampleCrypto (fun _ _ => 0) 0) ⟨sampleServer, sampleServerLocal⟩
        [sampleSent.1.take 10, sampleSent.1.drop 10]).1.ld.recvBuffer = [] ∧
      (run (serverRead aTcpRandLen sampleCrypto (fun _ _ => 0) 0) ⟨sampleServer, sampleServerLocal⟩
        [sampleSent.1.take 10, sampleSent.1.drop 10]).1.ld.hasRecvHeader = true :=
  @server_reads_every_cut_not_one_byte_into_a_frame aTcpRandLen sampleCrypto (fun _ _ => 0) 0 sampleServer
    sampleClient { sampleClient with ld := { sampleSent.2.1 with lastDataLen := 16 } } sampleServerLocal
    ⟨Vector.replicate 4 0, 0⟩ ⟨Vector.replicate 4 0, 0⟩ sampleEntropy sampleSent.2.2 sampleRequest
    sampleSent.1 rfl (by decide)
    (by
      rw [authChainAClientPreEncrypt_sent _ _ _ _ _ rfl,
        packClientFrames_single _ _ _ _ (by decide) (by decide)]
      rfl)
    ⟨rfl, rfl, rfl, rfl, rfl⟩ rfl rfl [sampleSent.1.take 10, sampleSent.1.drop 10]
    (by rw [List.flatten_cons, List.flatten_cons, List.flatten_nil, List.append_nil, List.take_append_drop])
    (by
      rw [clientFrames_single _ _ _ _ (by decide) (by decide)]
      decide +kernel)

end ServerReads

/-! ## The server's replies, read by the client -/

/-- What the client's context agrees on with the server's before the server's next frame: the
hash the length is masked with, the frame's number, the key, and where both stand in the
keystream. -/
structure ReplySynced (s c : TcpLocal) : Prop where
  hash : c.lastServerHash = s.lastServerHash
  id : c.recvId = s.packId
  key : c.userKey = s.userKey
  keystream : c.keystream = s.keystream
  pos : c.decryptPos = s.encryptPos

/-- The connection with its context settled. -/
def ChainObfs.settle (o : ChainObfs) : ChainObfs := { o with ld := o.ld.settle }

@[simp] theorem ChainObfs.settle_ld (o : ChainObfs) : o.settle.ld = o.ld.settle := rfl
@[simp] theorem ChainObfs.settle_server (o : ChainObfs) : o.settle.server = o.server := rfl

theorem ChainObfs.settle_settle (o : ChainObfs) : o.settle.settle = o.settle := rfl

section ServerFrames

variable (v : TcpRandLen) (crypto : Crypto)

/-- `auth_chain_a_pack_server_data` writes a frame as the client's does: the masked length, the
buffer encrypted from where the context stands at the drawn position in the padding, and two
bytes of its HMAC under the frame's number, which becomes the context's hash. -/
theorem authChainAPackServerData_spec (ld : TcpLocal) (entropy : Entropy) (buf : List UInt8) :
    let p := v.run buf.length ld.randomServer ld.lastServerHash
    ∃ rnd random entropy', rnd.length = p.1 ∧
      let msg := frameMsg buf.length ld.lastServerHash rnd (startOf p.1 buf.length p.2)
        (xorFrom ld.keystream ld.encryptPos buf)
      let hash := frameHash crypto (frameKey ld.userKey ld.packId) msg
      authChainAPackServerData v crypto ld entropy buf =
        (msg ++ hash.take 2,
         { ld with encryptPos := ld.encryptPos + buf.length, randomServer := random,
                   lastServerHash := hash, packId := ld.packId + 1 }, entropy') := by
  intro p
  obtain ⟨n, r, hp⟩ : ∃ n r, v.run buf.length ld.randomServer ld.lastServerHash = (n, r) := ⟨_, _, rfl⟩
  have hpn : p = (n, r) := hp
  rw [hpn]
  refine ⟨(randBytes entropy n).1, if buf.length > 0 ∧ n > 0 then (getRandStartPos n r).2 else r,
    (randBytes entropy n).2, randBytes_length _ _, ?_⟩
  unfold authChainAPackServerData authChainARndData
  simp only [xorFrom_length, hp]
  by_cases h0 : buf.length = 0
  · obtain rfl : buf = [] := List.eq_nil_of_length_eq_zero h0
    simp [startOf, frameMsg, frameHash]
  by_cases hn : 0 < n
  · simp [h0, hn, startOf, getRandStartPos, frameMsg, frameHash, Nat.pos_of_ne_zero h0]
  · obtain rfl : n = 0 := by omega
    simp [h0, startOf, frameMsg, frameHash, randBytes]

/-- The client's loop body seen through `settle`. -/
def settledClientStep (o : ChainObfs) (buffer : List UInt8) : Step ChainObfs UInt8 (List UInt8) :=
  (clientStep v crypto o buffer).map ChainObfs.settle

/-- The client's pass does not read the generator it is handed: seen through `settle` it is the
pass from the settled connection. -/
theorem clientStep_settle (o : ChainObfs) (buf : List UInt8) :
    (clientStep v crypto o buf).map ChainObfs.settle = settledClientStep v crypto o.settle buf := by
  unfold settledClientStep clientStep
  by_cases h4 : buf.length ≤ 4
  · rw [if_pos h4, if_pos h4]; rfl
  rw [if_neg h4, if_neg h4]
  obtain ⟨d, hd⟩ : ∃ d, unmaskLength (byteAt buf 0) (byteAt buf 1) o.ld.lastServerHash = d := ⟨_, rfl⟩
  obtain ⟨n, r, hp⟩ : ∃ n r, v.run d o.ld.randomServer o.ld.lastServerHash = (n, r) := ⟨_, _, rfl⟩
  obtain ⟨n', r', hp'⟩ : ∃ n r, v.run d ⟨0, 0⟩ o.ld.lastServerHash = (n, r) := ⟨_, _, rfl⟩
  obtain ⟨hfst, hpos⟩ := v.run_agree d o.ld.randomServer ⟨0, 0⟩ o.ld.lastServerHash
  rw [hp, hp'] at hfst hpos
  simp only at hfst hpos
  obtain rfl : n = n' := hfst.symm
  simp only [ChainObfs.settle_ld, ChainObfs.settle_server, TcpLocal.settle_lastServerHash,
    TcpLocal.settle_randomServer, TcpLocal.settle_userKey, TcpLocal.settle_recvId,
    TcpLocal.settle_keystream, TcpLocal.settle_decryptPos, hd, hp, hp']
  -- with padding both generators are one; without, the start is 2 and the generators are dropped
  by_cases hn : 0 < n
  · obtain ⟨rfl⟩ : r' = r := (Prod.mk.inj (hpos hn)).2
    split_ifs <;> rfl
  · simp only [gt_iff_lt, hn, and_false, if_false]
    split_ifs <;> rfl

theorem clientStep_wait {o : ChainObfs} {buffer : List UInt8} {d n : Nat} {r : Shift128}
    (h4 : 4 < buffer.length)
    (hd : unmaskLength (byteAt buffer 0) (byteAt buffer 1) o.ld.lastServerHash = d)
    (hp : v.run d o.ld.randomServer o.ld.lastServerHash = (n, r)) (hlt : n + d < 4096)
    (hshort : buffer.length < n + d + 4) :
    clientStep v crypto o buffer = .more { o with ld := { o.ld with randomServer := r } } := by
  unfold clientStep
  rw [if_neg (by omega)]
  simp only [hd, hp]
  rw [if_neg (by simp only [ssrBuffSize]; omega), if_pos (by omega)]

theorem clientStep_cut {o : ChainObfs} {buffer : List UInt8} {d n : Nat} {r : Shift128}
    (h4 : 4 < buffer.length)
    (hd : unmaskLength (byteAt buffer 0) (byteAt buffer 1) o.ld.lastServerHash = d)
    (hp : v.run d o.ld.randomServer o.ld.lastServerHash = (n, r)) (hlt : n + d < 4096)
    (hlong : n + d + 4 ≤ buffer.length)
    (hmac : (frameHash crypto (frameKey o.ld.userKey o.ld.recvId) (buffer.take (n + d + 2))).take 2 =
      (buffer.drop (n + d + 2)).take 2) :
    let out := xorFrom o.ld.keystream o.ld.decryptPos ((buffer.drop (2 + startOf n d r)).take d)
    clientStep v crypto o buffer =
      .frame (n + d + 4) (if o.ld.recvId = 1 then out.drop 2 else out)
        { server := { o.server with tcpMss := if o.ld.recvId = 1 then rdLe16 out 0 else o.server.tcpMss },
          ld := { o.ld with randomServer := if d > 0 ∧ n > 0 then (getRandStartPos n r).2 else r,
                            decryptPos := o.ld.decryptPos + d,
                            lastServerHash :=
                              frameHash crypto (frameKey o.ld.userKey o.ld.recvId) (buffer.take (n + d + 2)),
                            recvId := o.ld.recvId + 1 } } := by
  intro out
  unfold clientStep
  rw [if_neg (by omega)]
  simp only [hd, hp]
  rw [if_neg (by simp only [ssrBuffSize]; omega), if_neg (by omega)]
  unfold frameHash at hmac
  rw [if_neg (by simpa using hmac)]
  by_cases hpos : d > 0 ∧ n > 0
  · by_cases hid : o.ld.recvId = 1
    · simp only [if_pos hpos, if_pos hid, out, startOf, frameHash]
    · simp only [if_pos hpos, if_neg hid, out, startOf, frameHash]
  · by_cases hid : o.ld.recvId = 1
    · simp only [if_neg hpos, if_pos hid, out, startOf, frameHash]
    · simp only [if_neg hpos, if_neg hid, out, startOf, frameHash]

/-- The client cuts a frame the server packed from a context it is synced with, whatever
follows it, and hands on its data, past the two bytes of `tcp_mss` on frame number 1; it ends
where the server's context stands. -/
theorem clientStep_serverFrame {o : ChainObfs} {s s' : TcpLocal} {e e' : Entropy} {data f : List UInt8}
    (hs : ReplySynced s o.ld) (h0 : 0 < data.length) (hlen : data.length < 4096)
    (hpack : authChainAPackServerData v crypto s e data = (f, s', e')) (r : List UInt8) :
    ∃ random, clientStep v crypto o (f ++ r) =
      .frame f.length (if s.packId = 1 then data.drop 2 else data)
        { server := { o.server with tcpMss := if s.packId = 1 then rdLe16 data 0 else o.server.tcpMss },
          ld := { o.ld with randomServer := random, decryptPos := s'.encryptPos,
                            lastServerHash := s'.lastServerHash, recvId := s'.packId } } := by
  obtain ⟨rnd, random, e'', hrnd, hspec⟩ := authChainAPackServerData_spec v crypto s e data
  rw [hpack] at hspec
  simp only [Prod.mk.injEq] at hspec
  obtain ⟨rfl, rfl, -⟩ := hspec
  set d := data.length with hd
  set p := v.run d s.randomServer s.lastServerHash with hp
  have hst : startOf p.1 d p.2 ≤ rnd.length := hrnd ▸ startOf_le _ _ _
  have henc : (xorFrom s.keystream s.encryptPos data).length = d := xorFrom_length _ _ _
  have hok : d + p.1 < 4096 := (v.ok d s.randomServer s.lastServerHash).2 hlen
  obtain ⟨n, r', hrun⟩ : ∃ n r', v.run d o.ld.randomServer o.ld.lastServerHash = (n, r') := ⟨_, _, rfl⟩
  have hrun' : v.run d o.ld.randomServer s.lastServerHash = (n, r') := hs.hash ▸ hrun
  have hn : n = rnd.length := by
    rw [hrnd, hp, v.fst_indep d s.randomServer o.ld.randomServer, hrun']
  have hstart : startOf n d r' = startOf p.1 d p.2 := by
    have h := startOf_run_indep v d s.randomServer o.ld.randomServer s.lastServerHash
    rwa [hrun'] at h
  have hlen' : (frameMsg d s.lastServerHash rnd (startOf p.1 d p.2)
      (xorFrom s.keystream s.encryptPos data)).length = 2 + rnd.length + d := by
    rw [frameMsg_length hst, henc]
  have hcut : n + d + 2 = d + rnd.length + 2 := by omega
  refine ⟨if d > 0 ∧ n > 0 then (getRandStartPos n r').2 else r', ?_⟩
  rw [List.append_assoc]
  rw [clientStep_cut v crypto (d := d) (n := n) (r := r') (by simp [hlen']; omega)
    (by rw [frameMsg_append_byteAt (by omega), frameMsg_append_byteAt (by omega), hs.hash,
      unmaskLength_maskLength (by omega)]) hrun (by omega) (by simp [hlen']; omega)
    (by rw [hcut, frameMsg_append_take hst henc, frameMsg_append_drop hst henc, hs.key, hs.id,
      List.take_left' (by simp)])]
  rw [hstart, frameMsg_append_data hst henc, hs.keystream, hs.pos, xorFrom_xorFrom, hcut,
    frameMsg_append_take hst henc, hs.key, hs.id]
  have h2 : (List.take 2 (frameHash crypto (frameKey s.userKey s.packId) (frameMsg d s.lastServerHash
      rnd (startOf p.1 d p.2) (xorFrom s.keystream s.encryptPos data)))).length = 2 := by simp
  simp only [List.length_append, hlen', h2]
  rw [show n + d + 4 = 2 + rnd.length + d + 2 by omega]

/-- A frame the server packs from a context the client is synced with is a frame of the settled
pass from the settled connection: followed by anything it is cut with its data, and every
proper prefix of it waits. -/
theorem serverFrame_reads {o : ChainObfs} {s s' : TcpLocal} {e e' : Entropy} {data f : List UInt8}
    (hs : ReplySynced s o.ld) (hset : o.settle = o) (h0 : 0 < data.length) (hlen : data.length < 4096)
    (hpack : authChainAPackServerData v crypto s e data = (f, s', e')) :
    Reads (settledClientStep v crypto) o f (if s.packId = 1 then data.drop 2 else data)
      ({ server := { o.server with tcpMss := if s.packId = 1 then rdLe16 data 0 else o.server.tcpMss },
         ld := { o.ld with decryptPos := s'.encryptPos, lastServerHash := s'.lastServerHash,
                           recvId := s'.packId } } : ChainObfs).settle := by
  obtain ⟨rnd, random, e'', hrnd, hspec⟩ := authChainAPackServerData_spec v crypto s e data
  rw [hpack] at hspec
  obtain ⟨rfl, -, -⟩ := Prod.mk.inj hspec
  have hflen : (frameMsg data.length s.lastServerHash rnd
      (startOf (v.run data.length s.randomServer s.lastServerHash).1 data.length
        (v.run data.length s.randomServer s.lastServerHash).2)
      (xorFrom s.keystream s.encryptPos data)).length = 2 + rnd.length + data.length :=
    by rw [frameMsg_length (hrnd ▸ startOf_le _ _ _), xorFrom_length]
  refine ⟨by simp [hflen], fun r => ?whole, fun q hq hlt => ?part⟩
  case whole =>
    obtain ⟨random, h⟩ := clientStep_serverFrame v crypto hs h0 hlen hpack r
    rw [settledClientStep, h]
    rfl
  case part =>
    rw [settledClientStep]
    by_cases h4 : q.length ≤ 4
    · rw [clientStep, if_pos h4]
      exact congrArg Step.more hset
    -- past four bytes: the length reads right and the frame is not all there
    have hbyte : ∀ i < 2, byteAt q i = byteAt (maskLength data.length s.lastServerHash) i := fun i hi =>
      (byteAt_of_prefix_lt hq (by omega)).trans (frameMsg_append_byteAt hi _)
    obtain ⟨n, r, hp⟩ : ∃ n r, v.run data.length o.ld.randomServer o.ld.lastServerHash = (n, r) :=
      ⟨_, _, rfl⟩
    have hn : n = rnd.length := by
      rw [hrnd, ← hs.hash, v.fst_indep data.length s.randomServer o.ld.randomServer, hp]
    have hok : n + data.length < 4096 := by
      have := (v.ok data.length s.randomServer s.lastServerHash).2 hlen
      rw [hn, hrnd]
      omega
    rw [clientStep_wait v crypto (d := data.length) (by omega)
      (by rw [hbyte 0 (by omega), hbyte 1 (by omega), hs.hash, unmaskLength_maskLength (by omega)])
      hp hok (by simp [hflen] at hlt; omega)]
    exact congrArg Step.more hset

/-- Past frame number 1 the client hands on the frame's data and keeps its `tcp_mss`. -/
theorem serverFrame_reads_of_ne {o : ChainObfs} {s s' : TcpLocal} {e e' : Entropy} {data f : List UInt8}
    (hs : ReplySynced s o.ld) (hset : o.settle = o) (h0 : 0 < data.length) (hlen : data.length < 4096)
    (hpack : authChainAPackServerData v crypto s e data = (f, s', e')) (hne : s.packId ≠ 1) :
    Reads (settledClientStep v crypto) o f data
      ({ o with ld := { o.ld with decryptPos := s'.encryptPos, lastServerHash := s'.lastServerHash,
                                  recvId := s'.packId } } : ChainObfs).settle := by
  have hr := serverFrame_reads v crypto hs hset h0 hlen hpack
  rw [if_neg hne, if_neg hne] at hr
  exact hr

theorem authChainAPackServerData_fields (ld : TcpLocal) (entropy : Entropy) (buf : List UInt8) :
    let r := authChainAPackServerData v crypto ld entropy buf
    r.1.length = buf.length + (v.run buf.length ld.randomServer ld.lastServerHash).1 + 4 ∧
      r.2.1.packId = ld.packId + 1 ∧ r.2.1.userKey = ld.userKey ∧ r.2.1.keystream = ld.keystream := by
  obtain ⟨rnd, random, e', hrnd, h⟩ := authChainAPackServerData_spec v crypto ld entropy buf
  have hst : startOf (v.run buf.length ld.randomServer ld.lastServerHash).1 buf.length
      (v.run buf.length ld.randomServer ld.lastServerHash).2 ≤ rnd.length := hrnd ▸ startOf_le _ _ _
  intro r
  refine ⟨?_, by simp only [r, h], by simp only [r, h], by simp only [r, h]⟩
  simp only [r, h, List.length_append, frameMsg_length hst, xorFrom_length, List.length_take,
    frameHash_length]
  omega

/-- After a frame the client, moved on to where the server stands, is synced with it again. -/
theorem ReplySynced.follow {s s' c : TcpLocal} {e e' : Entropy} {data f : List UInt8}
    (hs : ReplySynced s c) (hpack : authChainAPackServerData v crypto s e data = (f, s', e')) :
    ReplySynced s' { c with decryptPos := s'.encryptPos, lastServerHash := s'.lastServerHash,
                            recvId := s'.packId }.settle := by
  have hk := authChainAPackServerData_fields v crypto s e data
  rw [hpack] at hk
  exact ⟨rfl, rfl, hs.key.trans hk.2.2.1.symm, hs.keystream.trans hk.2.2.2.symm, rfl⟩

/-- **The server's replies are a chain of the client's settled pass.** Past the first reply,
with frame numbers that do not wrap, the frames of the server's loop on a buffer that is not
empty are read one after another by a client synced with it, hand on the buffer, and leave the
client synced with where the loop leaves the server, its `tcp_mss` as it was. -/
theorem packServerFrames_chain {unitLen : Nat} (hunit : unitLen < 4096) (ld : TcpLocal)
    (entropy : Entropy) (buf : List UInt8) :
    ∀ p, packServerFrames v crypto unitLen ld entropy buf = some p →
      ∀ o : ChainObfs, ReplySynced ld o.ld → o.settle = o →
      0 < buf.length → 2 ≤ ld.packId.toNat → ld.packId.toNat + buf.length ≤ 2 ^ 32 →
      ∃ fs u, Chain (settledClientStep v crypto) o fs u ∧ wire fs = p.1 ∧ (outs fs).flatten = buf ∧
        ReplySynced p.2.1 u.ld ∧ u.settle = u ∧ u.server = o.server ∧ Bounded 4099 fs := by
  fun_induction packServerFrames v crypto unitLen ld entropy buf with
  | case1 ld entropy buf hgt hz => intro p hp; cases hp
  | case2 ld entropy buf hgt hz out ld₁ e₁ hpack ih =>
    intro p hp o hs hset h0 hid hwrap
    cases hq : packServerFrames v crypto unitLen ld₁ e₁ (buf.drop unitLen) with
    | none => rw [hq] at hp; cases hp
    | some q =>
      rw [hq] at hp
      cases hp
      have hf := authChainAPackServerData_fields v crypto ld entropy (buf.take unitLen)
      rw [hpack] at hf
      simp only at hf
      obtain ⟨hflen, hid₁, -, -⟩ := hf
      have hne : ld.packId ≠ 1 := fun h => by rw [h] at hid; simp at hid
      have hr := serverFrame_reads_of_ne v crypto hs hset (by simp only [List.length_take]; omega)
        (by simp only [List.length_take]; omega) hpack hne
      -- the next frame's number is one more, and still does not wrap
      have hid' : ld₁.packId.toNat = ld.packId.toNat + 1 := by
        rw [hid₁, UInt32.toNat_add]
        simp only [UInt32.toNat_one]
        omega
      obtain ⟨fs, u, hc, hw, ho, hsync, hu, hsrv, hb⟩ := ih q hq
        ({ o with ld := { o.ld with decryptPos := ld₁.encryptPos, lastServerHash := ld₁.lastServerHash,
                                    recvId := ld₁.packId } } : ChainObfs).settle
        (hs.follow v crypto hpack) (ChainObfs.settle_settle _) (by simp only [List.length_drop]; omega)
        (by omega) (by simp only [List.length_drop]; omega)
      have hlen := (v.ok (buf.take unitLen).length ld.randomServer ld.lastServerHash).2
        (by simp only [List.length_take]; omega)
      refine ⟨(out, buf.take unitLen) :: fs, u, .cons hr hc, by rw [wire_cons, hw],
        by rw [outs_cons, List.flatten_cons, ho, List.take_append_drop], hsync, hu,
        hsrv, bounded_cons.mpr ⟨by omega, hb⟩⟩
  | case3 ld entropy buf hle =>
    intro p hp o hs hset h0 hid _
    cases hp
    have hlen : buf.length < 4096 := by omega
    generalize hpack : authChainAPackServerData v crypto ld entropy buf = p
    obtain ⟨f, s', e'⟩ := p
    have hf := authChainAPackServerData_fields v crypto ld entropy buf
    rw [hpack] at hf
    simp only at hf
    obtain ⟨hflen, -, -, -⟩ := hf
    have hne : ld.packId ≠ 1 := fun h => by rw [h] at hid; simp at hid
    have hr := serverFrame_reads_of_ne v crypto hs hset h0 hlen hpack hne
    have hok := (v.ok buf.length ld.randomServer ld.lastServerHash).2 hlen
    refine ⟨[(f, buf)], _, .cons hr (.nil _), by simp, by simp, hs.follow v crypto hpack,
      ChainObfs.settle_settle _, rfl, bounded_cons.mpr ⟨by omega, bounded_nil _⟩⟩

theorem rdLe16_le16_append (x : Nat) (rest : List UInt8) : rdLe16 (le16 x ++ rest) 0 = x % 2 ^ 16 := by
  simpa using rdLe16_le16_mod [] rest x

/-- **The first reply is a chain too.** Its frame number 1 carries `tcp_mss` in front of the
buffer; the client strips it and takes it, and the frames after it are read as any others. -/
theorem firstReply_chain {unitLen : Nat} (h2 : 2 ≤ unitLen) (hunit : unitLen < 4096) (ld : TcpLocal)
    (entropy : Entropy) (mss : Nat) (buf : List UInt8) {p : List UInt8 × TcpLocal × Entropy}
    (hp : packServerFrames v crypto unitLen ld entropy (le16 mss ++ buf) = some p) (o : ChainObfs)
    (hs : ReplySynced ld o.ld) (hset : o.settle = o) (hid : ld.packId = 1) (hwrap : buf.length + 2 ≤ 2 ^ 32) :
    ∃ fs u, Chain (settledClientStep v crypto) o fs u ∧ wire fs = p.1 ∧ (outs fs).flatten = buf ∧
      ReplySynced p.2.1 u.ld ∧ u.settle = u ∧ u.server = { o.server with tcpMss := mss % 2 ^ 16 } ∧
      Bounded 4099 fs := by
  have hlen2 : (le16 mss ++ buf).length = buf.length + 2 := by simp; omega
  rw [packServerFrames] at hp
  by_cases hsplit : (le16 mss ++ buf).length > unitLen
  · rw [if_pos hsplit, if_neg (by omega)] at hp
    generalize hpack : authChainAPackServerData v crypto ld entropy ((le16 mss ++ buf).take unitLen) = x at hp
    obtain ⟨out, ld₁, e₁⟩ := x
    dsimp only at hp
    cases hq : packServerFrames v crypto unitLen ld₁ e₁ ((le16 mss ++ buf).drop unitLen) with
    | none => rw [hq] at hp; cases hp
    | some q =>
      rw [hq] at hp
      cases hp
      have hlen : ((le16 mss ++ buf).take unitLen).length = unitLen := by simp only [List.length_take]; omega
      have hr := serverFrame_reads v crypto hs hset (by omega) (by omega) hpack
      rw [if_pos hid, if_pos hid] at hr
      have hf := authChainAPackServerData_fields v crypto ld entropy ((le16 mss ++ buf).take unitLen)
      rw [hpack] at hf
      simp only at hf
      obtain ⟨hflen, hid₁, -, -⟩ := hf
      have hok := (v.ok ((le16 mss ++ buf).take unitLen).length ld.randomServer ld.lastServerHash).2
        (by omega)
      -- the frames after the first are numbered from 2
      have hid' : ld₁.packId.toNat = 2 := by rw [hid₁, hid]; rfl
      obtain ⟨fs, u, hc, hw, ho, hsync, hu, hsrv, hb⟩ := packServerFrames_chain v crypto hunit ld₁ e₁
        ((le16 mss ++ buf).drop unitLen) q hq
        ({ server := { o.server with tcpMss := rdLe16 ((le16 mss ++ buf).take unitLen) 0 },
           ld := { o.ld with decryptPos := ld₁.encryptPos, lastServerHash := ld₁.lastServerHash,
                             recvId := ld₁.packId } } : ChainObfs).settle
        (hs.follow v crypto hpack) (ChainObfs.settle_settle _) (by simp only [List.length_drop]; omega)
        (by omega) (by simp only [List.length_drop]; omega)
      have htake : (le16 mss ++ buf).take unitLen = le16 mss ++ buf.take (unitLen - 2) := by
        rw [List.take_append, List.take_of_length_le (by simp; omega), le16_length]
      have hdrop : (le16 mss ++ buf).drop unitLen = buf.drop (unitLen - 2) := by
        rw [List.drop_append, List.drop_eq_nil_of_le (by simp; omega), le16_length, List.nil_append]
      refine ⟨(out, ((le16 mss ++ buf).take unitLen).drop 2) :: fs, u, .cons hr hc,
        by simp only [wire_cons, hw], ?_, hsync, hu, ?_, bounded_cons.mpr ⟨by omega, hb⟩⟩
      · rw [outs_cons, List.flatten_cons, ho, htake, hdrop, List.drop_left' (le16_length mss),
          List.take_append_drop]
      · rw [hsrv, ChainObfs.settle_server, htake, rdLe16_le16_append]
  · rw [if_neg hsplit] at hp
    cases hp
    have hle : (le16 mss ++ buf).length ≤ unitLen := by omega
    generalize hpack : authChainAPackServerData v crypto ld entropy (le16 mss ++ buf) = p
    obtain ⟨f, s', e'⟩ := p
    have hr := serverFrame_reads v crypto hs hset (by omega) (by omega) hpack
    rw [if_pos hid, if_pos hid] at hr
    have hf := authChainAPackServerData_fields v crypto ld entropy (le16 mss ++ buf)
    rw [hpack] at hf
    simp only at hf
    obtain ⟨hflen, -, -, -⟩ := hf
    have hok := (v.ok (le16 mss ++ buf).length ld.randomServer ld.lastServerHash).2 (by omega)
    refine ⟨[(f, (le16 mss ++ buf).drop 2)], _, .cons hr (.nil _), by simp,
      by rw [outs_cons, outs_nil, List.flatten_cons, List.flatten_nil, List.append_nil,
        List.drop_left' (le16_length mss)],
      hs.follow v crypto hpack, ChainObfs.settle_settle _, ?_, bounded_cons.mpr ⟨by omega, bounded_nil _⟩⟩
    rw [ChainObfs.settle_server, rdLe16_le16_append]

end ServerFrames

/-! ## The client's post-decrypt over a cut -/

section ClientReads

variable (v : TcpRandLen) (crypto : Crypto)

/-- What the client's loop starts from, seen through `settle`, and what it has buffered. -/
def clientView (o : ChainObfs) : ChainObfs × List UInt8 :=
  ({ o with ld := { o.ld with recvBuffer := [] } }.settle, o.ld.recvBuffer)

/-- No pass of the client's loop touches the buffer field of the state it goes on from. -/
theorem clientStep_keeps (o : ChainObfs) (buf : List UInt8) (hs : o.ld.recvBuffer = []) :
    Keeps (fun o : ChainObfs => o.ld.recvBuffer = []) (clientStep v crypto o buf) := by
  unfold clientStep
  by_cases h4 : buf.length ≤ 4
  · rw [if_pos h4]; exact hs
  rw [if_neg h4]
  obtain ⟨n, r, hp⟩ : ∃ n r, v.run (unmaskLength (byteAt buf 0) (byteAt buf 1) o.ld.lastServerHash)
      o.ld.randomServer o.ld.lastServerHash = (n, r) := ⟨_, _, rfl⟩
  simp only [hp]
  split_ifs <;> exact hs

/-- `auth_chain_a_client_post_decrypt` drains every chunk that fits its 16384-byte buffer with
what is buffered. -/
theorem clientPostDecrypt_drains :
    Drains (settledClientStep v crypto) (authChainAClientPostDecrypt v crypto) clientView
      (fun q c => q.length + c.length ≤ 16384) id := by
  intro t c hfit
  simp only [clientView] at hfit ⊢
  have hmap := drainAll_map ChainObfs.settle (clientStep_settle v crypto)
    { t with ld := { t.ld with recvBuffer := [] } } (t.ld.recvBuffer ++ c)
  have hkeep : (drainAll (clientStep v crypto) { t with ld := { t.ld with recvBuffer := [] } }
      (t.ld.recvBuffer ++ c)).state.ld.recvBuffer = [] :=
    drain_keeps _ (clientStep_keeps v crypto) _ _ _ rfl
  rw [← hmap]
  unfold authChainAClientPostDecrypt
  rw [if_neg (by omega)]
  generalize drainAll (clientStep v crypto) { t with ld := { t.ld with recvBuffer := [] } }
    (t.ld.recvBuffer ++ c) = r at hkeep ⊢
  refine ⟨fun hok => by simp [Drained.map] at hok; simp [hok], fun hok => ?_⟩
  simp only [Drained.map] at hok ⊢
  refine ⟨by simp [hok, List.flatMap_id], ?_⟩
  simp only [TcpLocal.clear_of_nil hkeep]

/-- A client with nothing buffered, given a cut into reads of at most 12286 bytes of a chain of
its settled pass whose frames are under 4099 bytes, hands on the chain's outputs and ends at the
chain's end with nothing buffered. -/
theorem run_clientPostDecrypt_of_chain {oc u : ChainObfs} {fs : List (List UInt8 × List UInt8)}
    (hc : Chain (settledClientStep v crypto) (clientView oc).1 fs u) (hu : u.settle = u)
    (hb : Bounded 4099 fs) (hbuf : oc.ld.recvBuffer = []) {cs : List (List UInt8)}
    (hread : ∀ c ∈ cs, c.length ≤ 12286) (hcs : cs.flatten = wire fs) :
    clientView (run (authChainAClientPostDecrypt v crypto) oc cs).1 = (u, []) ∧
      (run (authChainAClientPostDecrypt v crypto) oc cs).2 = some (outs fs).flatten := by
  have hnil : settledClientStep v crypto u [] = .more u := by
    rw [settledClientStep, clientStep, if_pos (by simp)]
    exact congrArg Step.more hu
  -- whatever is pending is a proper prefix of a frame, so every read fits the buffer
  have hfit : ∀ q : List UInt8, q.length < 4099 ∨ q = [] → ∀ c ∈ cs, q.length + c.length ≤ 16384 := by
    intro q hq c hc
    have := hread c hc
    rcases hq with hq | rfl
    · omega
    · simp only [List.length_nil]; omega
  obtain ⟨hv, hout⟩ := run_chain (clientPostDecrypt_drains v crypto) hc hnil hb hfit hcs (t := oc)
    (by simp [clientView, hbuf])
  exact ⟨hv, by rw [hout, List.flatMap_id]⟩

/-- Past the first reply the server's pre-encrypt is its frame loop. -/
theorem authChainAServerPreEncrypt_of_ne {o : ChainObfs} (hne : o.ld.packId ≠ 1) (entropy : Entropy)
    (buf : List UInt8) :
    authChainAServerPreEncrypt v crypto o entropy buf =
      (packServerFrames v crypto o.ld.unitLen o.ld entropy buf).map
        fun p => (p.1, { o with ld := p.2.1 }, p.2.2) := by
  simp only [authChainAServerPreEncrypt, if_neg hne]
  cases packServerFrames v crypto o.ld.unitLen o.ld entropy buf <;> rfl

theorem packServerFrames_single {unitLen : Nat} (ld : TcpLocal) (entropy : Entropy) {buf : List UInt8}
    (hle : buf.length ≤ unitLen) :
    packServerFrames v crypto unitLen ld entropy buf = some (authChainAPackServerData v crypto ld entropy buf) := by
  rw [packServerFrames, if_neg (by omega)]

/-- **The client reads every cut of a reply.** Past the first reply, from a client synced with
the server and with nothing buffered, what the server's pre-encrypt sends for a buffer that is
not empty, with units under 4096 bytes and frame numbers that do not wrap, cut into reads of at
most 12286 bytes (the client refuses to buffer more than 16384, and a pending frame is under
4099), comes back as the buffer: no read returns `-1`, and the client ends synced with the
server, with nothing buffered and its `tcp_mss` as it was. -/
theorem client_reads_every_cut_of_a_reply {sv sv' oc : ChainObfs} {e e' : Entropy} {buf f : List UInt8}
    (hid : 2 ≤ sv.ld.packId.toNat) (hwrap : sv.ld.packId.toNat + buf.length ≤ 2 ^ 32)
    (h0 : 0 < buf.length) (hunit : sv.ld.unitLen < 4096)
    (hpre : authChainAServerPreEncrypt v crypto sv e buf = some (f, sv', e'))
    (hs : ReplySynced sv.ld oc.ld) (hbuf : oc.ld.recvBuffer = [])
    {cs : List (List UInt8)} (hcs : cs.flatten = f) (hread : ∀ c ∈ cs, c.length ≤ 12286) :
    (run (authChainAClientPostDecrypt v crypto) oc cs).2 = some buf ∧
      ReplySynced sv'.ld (run (authChainAClientPostDecrypt v crypto) oc cs).1.ld ∧
      (run (authChainAClientPostDecrypt v crypto) oc cs).1.ld.recvBuffer = [] ∧
      (run (authChainAClientPostDecrypt v crypto) oc cs).1.server = oc.server := by
  have hne : sv.ld.packId ≠ 1 := fun h => by rw [h] at hid; simp at hid
  rw [authChainAServerPreEncrypt_of_ne v crypto hne] at hpre
  obtain ⟨p, hp, hfp⟩ := Option.map_eq_some_iff.mp hpre
  simp only [Prod.mk.injEq] at hfp
  obtain ⟨hf, rfl, -⟩ := hfp
  -- the frames are a chain of the settled pass from what the client's loop starts from
  obtain ⟨fs, u, hc, hw, ho, hsync, hu, hsrv, hb⟩ := packServerFrames_chain v crypto hunit sv.ld e buf p hp
    (clientView oc).1 ⟨hs.hash, hs.id, hs.key, hs.keystream, hs.pos⟩ (ChainObfs.settle_settle _)
    h0 hid hwrap
  obtain ⟨hv, hout⟩ := run_clientPostDecrypt_of_chain v crypto hc hu hb hbuf hread (by rw [hcs, ← hf, hw])
  have hu' : u = ({ (run (authChainAClientPostDecrypt v crypto) oc cs).1 with
      ld := { (run (authChainAClientPostDecrypt v crypto) oc cs).1.ld with recvBuffer := [] } }).settle :=
    (congrArg Prod.fst hv).symm
  refine ⟨by rw [hout, ho], ?_, congrArg Prod.snd hv, ?_⟩
  · rw [hu'] at hsync
    exact ⟨hsync.hash, hsync.id, hsync.key, hsync.keystream, hsync.pos⟩
  · rw [hu'] at hsrv
    exact hsrv

/-- A server past its first reply, of 2 bytes, with the sample's key and keystream. -/
def sampleReplyServer : ChainObfs :=
  ⟨sampleServer, { authChainAContextInit (CString.ascii "auth_chain_a") with
    hasRecvHeader := true, userKey := sampleKey, packId := 2, unitLen := 1456,
    lastServerHash := sampleHash, keystream := sampleKeystream, encryptPos := 2 }⟩

/-- The client synced with it, with nothing buffered. -/
def sampleReplyClient : ChainObfs :=
  ⟨sampleServer, { sampleClient.ld with recvId := 2, lastServerHash := sampleHash, decryptPos := 2 }⟩

def sampleReply : List UInt8 := CString.ascii "HTTP/1.1 200 OK\r\n"

/-- The sample reply's frame, as `auth_chain_a_pack_server_data` writes it. -/
def sampleReplySent : List UInt8 × TcpLocal × Entropy :=
  authChainAPackServerData aTcpRandLen sampleCrypto sampleReplyServer.ld sampleEntropy sampleReply

/-- The sample reply's frame, read in two parts, comes back whole. -/
theorem sample_reply_in_two_reads :
    (run (authChainAClientPostDecrypt aTcpRandLen sampleCrypto) sampleReplyClient
        [sampleReplySent.1.take 7, sampleReplySent.1.drop 7]).2 = some sampleReply ∧
      ReplySynced sampleReplySent.2.1 (run (authChainAClientPostDecrypt aTcpRandLen sampleCrypto)
        sampleReplyClient [sampleReplySent.1.take 7, sampleReplySent.1.drop 7]).1.ld ∧
      (run (authChainAClientPostDecrypt aTcpRandLen sampleCrypto) sampleReplyClient
        [sampleReplySent.1.take 7, sampleReplySent.1.drop 7]).1.ld.recvBuffer = [] ∧
      (run (authChainAClientPostDecrypt aTcpRandLen sampleCrypto) sampleReplyClient
        [sampleReplySent.1.take 7, sampleReplySent.1.drop 7]).1.server = sampleReplyClient.server :=
  @client_reads_every_cut_of_a_reply aTcpRandLen sampleCrypto sampleReplyServer
    { sampleReplyServer with ld := sampleReplySent.2.1 } sampleReplyClient sampleEntropy sampleReplySent.2.2
    sampleReply sampleReplySent.1 (by decide) (by decide) (by decide) (by decide)
    (by
      rw [authChainAServerPreEncrypt_of_ne _ _ (by decide), packServerFrames_single _ _ _ _ (by decide)]
      rfl)
    ⟨rfl, rfl, rfl, rfl, rfl⟩ rfl [sampleReplySent.1.take 7, sampleReplySent.1.drop 7]
    (by rw [List.flatten_cons, List.flatten_cons, List.flatten_nil, List.append_nil, List.take_append_drop])
    (by decide +kernel)

/-- On its first reply the server's pre-encrypt puts `tcp_mss` in front and sets `unit_len`. -/
theorem authChainAServerPreEncrypt_first {o : ChainObfs} (hfirst : o.ld.packId = 1) (entropy : Entropy)
    (buf : List UInt8) :
    let ld := { o.ld with unitLen := sizeSub o.server.tcpMss o.ld.clientOverHead }
    authChainAServerPreEncrypt v crypto o entropy buf =
      (packServerFrames v crypto ld.unitLen ld entropy (le16 o.server.tcpMss ++ buf)).map
        fun p => (p.1, { o with ld := p.2.1 }, p.2.2) := by
  intro ld
  simp only [authChainAServerPreEncrypt, if_pos hfirst]
  cases packServerFrames v crypto ld.unitLen ld entropy (le16 o.server.tcpMss ++ buf) <;> rfl

/-- **The client learns `tcp_mss` from the first reply.** From a client synced with a server
that has not replied yet, with nothing buffered, what the server's first pre-encrypt sends for
any buffer (with a unit of 2 to 4095 bytes), cut into reads of at most 12286 bytes, comes back
as the buffer, and the client takes the server's `tcp_mss` (its low 16 bits) from it; it ends
synced with the server, with nothing buffered. -/
theorem client_learns_tcp_mss_from_the_first_reply {sv sv' oc : ChainObfs} {e e' : Entropy}
    {buf f : List UInt8} (hfirst : sv.ld.packId = 1)
    (h2 : 2 ≤ sizeSub sv.server.tcpMss sv.ld.clientOverHead)
    (hunit : sizeSub sv.server.tcpMss sv.ld.clientOverHead < 4096) (hwrap : buf.length + 2 ≤ 2 ^ 32)
    (hpre : authChainAServerPreEncrypt v crypto sv e buf = some (f, sv', e'))
    (hs : ReplySynced sv.ld oc.ld) (hbuf : oc.ld.recvBuffer = [])
    {cs : List (List UInt8)} (hcs : cs.flatten = f) (hread : ∀ c ∈ cs, c.length ≤ 12286) :
    (run (authChainAClientPostDecrypt v crypto) oc cs).2 = some buf ∧
      (run (authChainAClientPostDecrypt v crypto) oc cs).1.server.tcpMss = sv.server.tcpMss % 2 ^ 16 ∧
      ReplySynced sv'.ld (run (authChainAClientPostDecrypt v crypto) oc cs).1.ld ∧
      (run (authChainAClientPostDecrypt v crypto) oc cs).1.ld.recvBuffer = [] := by
  rw [authChainAServerPreEncrypt_first v crypto hfirst] at hpre
  obtain ⟨p, hp, hfp⟩ := Option.map_eq_some_iff.mp hpre
  simp only [Prod.mk.injEq] at hfp
  obtain ⟨hf, rfl, -⟩ := hfp
  obtain ⟨fs, u, hc, hw, ho, hsync, hu, hsrv, hb⟩ := firstReply_chain v crypto h2 hunit
    { sv.ld with unitLen := sizeSub sv.server.tcpMss sv.ld.clientOverHead } e sv.server.tcpMss buf hp
    (clientView oc).1 ⟨hs.hash, hs.id, hs.key, hs.keystream, hs.pos⟩ (ChainObfs.settle_settle _)
    hfirst hwrap
  obtain ⟨hv, hout⟩ := run_clientPostDecrypt_of_chain v crypto hc hu hb hbuf hread (by rw [hcs, ← hf, hw])
  have hu' : u = ({ (run (authChainAClientPostDecrypt v crypto) oc cs).1 with
      ld := { (run (authChainAClientPostDecrypt v crypto) oc cs).1.ld with recvBuffer := [] } }).settle :=
    (congrArg Prod.fst hv).symm
  refine ⟨by rw [hout, ho], ?_, ?_, congrArg Prod.snd hv⟩
  · rw [hu'] at hsrv
    exact congrArg ServerInfo.tcpMss hsrv
  · rw [hu'] at hsync
    exact ⟨hsync.hash, hsync.id, hsync.key, hsync.keystream, hsync.pos⟩

/-- A server that has not replied yet, with the sample's key and keystream and a client
overhead of 4, so units of 1456 bytes. -/
def sampleFirstServer : ChainObfs :=
  ⟨sampleServer, { authChainAContextInit (CString.ascii "auth_chain_a") with
    hasRecvHeader := true, userKey := sampleKey, clientOverHead := 4, lastServerHash := sampleHash,
    keystream := sampleKeystream }⟩

/-- The client synced with it, not knowing `tcp_mss` yet. -/
def sampleFirstClient : ChainObfs :=
  ⟨{ sampleServer with tcpMss := 0 }, { sampleClient.ld with recvId := 1, lastServerHash := sampleHash }⟩

/-- The sample's first reply, as `auth_chain_a_server_pre_encrypt` writes it: one frame. -/
def sampleFirstSent : List UInt8 × TcpLocal × Entropy :=
  authChainAPackServerData aTcpRandLen sampleCrypto { sampleFirstServer.ld with unitLen := 1456 }
    sampleEntropy (le16 1460 ++ sampleReply)

/-- The sample's first reply, read in two parts, gives the reply, and the client takes 1460
for `tcp_mss`. -/
theorem sample_first_reply_sets_tcp_mss :
    (run (authChainAClientPostDecrypt aTcpRandLen sampleCrypto) sampleFirstClient
        [sampleFirstSent.1.take 3, sampleFirstSent.1.drop 3]).2 = some sampleReply ∧
      (run (authChainAClientPostDecrypt aTcpRandLen sampleCrypto) sampleFirstClient
        [sampleFirstSent.1.take 3, sampleFirstSent.1.drop 3]).1.server.tcpMss = 1460 % 2 ^ 16 ∧
      ReplySynced sampleFirstSent.2.1 (run (authChainAClientPostDecrypt aTcpRandLen sampleCrypto)
        sampleFirstClient [sampleFirstSent.1.take 3, sampleFirstSent.1.drop 3]).1.ld ∧
      (run (authChainAClientPostDecrypt aTcpRandLen sampleCrypto) sampleFirstClient
        [sampleFirstSent.1.take 3, sampleFirstSent.1.drop 3]).1.ld.recvBuffer = [] :=
  @client_learns_tcp_mss_from_the_first_reply aTcpRandLen sampleCrypto sampleFirstServer
    { sampleFirstServer with ld := sampleFirstSent.2.1 } sampleFirstClient sampleEntropy sampleFirstSent.2.2
    sampleReply sampleFirstSent.1 rfl (by decide) (by decide) (by decide)
    (by
      rw [authChainAServerPreEncrypt_first _ _ rfl, packServerFrames_single _ _ _ _ (by decide)]
      rfl)
    ⟨rfl, rfl, rfl, rfl, rfl⟩ rfl [sampleFirstSent.1.take 3, sampleFirstSent.1.drop 3]
    (by rw [List.flatten_cons, List.flatten_cons, List.flatten_nil, List.append_nil, List.take_append_drop])
    (by decide +kernel)

end ClientReads

end ShadowsocksR.AuthChain
