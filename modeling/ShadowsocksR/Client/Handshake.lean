/-
  ShadowsocksR.Client.Handshake — client.c from the application's first read to the SSR auth
  packet: `do_next` in `tunnel_stage_handshake`, `tunnel_stage_handshake_replied`,
  `tunnel_stage_s5_request`, `tunnel_stage_s5_udp_accoc`,
  `tunnel_stage_resolve_ssr_server_host_done`, `tunnel_stage_connecting_ssr_server` and
  `tunnel_stage_kill`, with `do_handshake`, `do_wait_s5_request`, `do_parse_s5_request`,
  `do_resolve_ssr_server_host_aftercare`, `do_connect_ssr_server` and
  `do_connect_ssr_server_done`, over `s5_parse` (`S5`), `initial_package_create` (`SockAddr`)
  and `build_udp_assoc_package` (`s5.c`).

  The tunnel's `tunnel_cipher_ctx` is a parameter (`HandshakeCipher`): the state
  `tunnel_cipher_create` makes, the `server_info_t` fields `do_parse_s5_request` sets on it,
  and `tunnel_cipher_client_encrypt`; so what is proved holds for every protocol, obfs and
  cipher. So is what the configuration and the system answer (`ClientConfig`). `tunnel.c`
  shuts a tunnel down on a negative status before `do_next` runs, so the handlers'
  `result < 0` branches, and with them the replies "Host unreachable" and "Connection
  refused", are never reached and are left out, as is `tunnel->desired_addr`, which the client
  only logs. With `over_tls_enable` a CONNECT hands the tunnel to `tls_client_launch`
  (`tunnel_stage_tls_connecting`), whose TLS stages are outside this module.

  Proved:
  - `s5_parse` called on each read while it returns `s5_ok` (`s5ParseReads`) computes what one
    call on all the reads computes (`s5ParseReads_flatten`), unless a read ends between the two
    port bytes (`CutFree`): never inside a greeting (`cutFree_of_greeting`), and never inside a
    request whose last read holds two bytes (`cutFree_of_last`);
  - over every run, whatever the cipher, the configuration and the order of events (`Inv`, from
    one inversion lemma per handler and one lemma per event; `inv_reach`): no `ASSERT` fails and
    every event meets a stage that handles it (`client_handshake_asserts_hold`), and the server
    is written to once at most, with `tunnel_cipher_client_encrypt` of the header
    `initial_package_create` made from a CONNECT request read whole after a whole greeting
    that offered no authentication and was answered `05 00`
    (`client_writes_the_server_only_a_connect_header`);
  - each phase is taken read by read as one call would take it (`trace_reads`), so whatever the
    cut of the reads (anywhere but between the port bytes) the handshake does what its bytes ask:
    a greeting that does not list method 0 is answered `05 ff`
    (`client_refuses_a_greeting_without_no_auth`); a UDP ASSOCIATE is answered with
    `build_udp_assoc_package`'s reply (`client_answers_udp_associate_under_every_cut`); with
    `over_tls_enable` a CONNECT is handed to `tls_client_launch`
    (`client_hands_a_tls_tunnel_to_tls_client_launch`); without it a greeting that offers no
    authentication and a CONNECT request with a well-formed address take the tunnel from
    `init_done_cb` to `ssr_auth_sent` (`client_reaches_the_server_under_every_cut`), and a
    server that `can_access` refuses is never connected to
    (`client_refuses_a_server_the_ruleset_denies`).
-/

import ShadowsocksR.Lib.Machine
import ShadowsocksR.SockAddr

namespace ShadowsocksR.Client

open StateMachine S5 Bytes CString

/-! ## `s5_parse` over several reads -/

/-- `s5_parse` on each read in turn while it returns `s5_ok`, as `do_handshake` and
`do_parse_s5_request` call it on the reads of one phase: the result of the last call. -/
def s5ParseReads (cx : S5Ctx) : List (List UInt8) → S5Parsed
  | [] => ⟨.ok, cx, []⟩
  | r :: rs =>
    let p := s5Parse cx r
    if p.err = .ok then s5ParseReads p.cx rs else p

theorem s5ParseReads_cons_ok {cx : S5Ctx} {r : List UInt8} (h : (s5Parse cx r).err = .ok)
    (rs : List (List UInt8)) : s5ParseReads cx (r :: rs) = s5ParseReads (s5Parse cx r).cx rs := by
  rw [s5ParseReads, if_pos h]

/-- `goto out` never returns `s5_ok`. -/
theorem s5Step_stop_ne_ok {cx cx' : S5Ctx} {port : Port} {c : UInt8} {err : S5Err}
    (h : s5Step cx port c = .stop err cx') : err ≠ .ok := by
  revert h
  unfold s5Step
  split <;> grind

/-- A parse that returns `s5_ok` has read all its bytes. -/
theorem s5ParseLoop_data_of_ok : ∀ {u : List UInt8} {cx : S5Ctx} {p : Port},
    (s5ParseLoop cx p u).err = .ok → (s5ParseLoop cx p u).data = [] := by
  intro u
  induction u with
  | nil => intro _ _ _; rfl
  | cons c rest ih =>
    intro cx p h
    rw [s5ParseLoop] at h ⊢
    split at h
    · exact ih h
    · rename_i err cx' hstep
      exact absurd h (s5Step_stop_ne_ok hstep)

theorem s5Parse_eq_of_ok {cx : S5Ctx} {u : List UInt8} (h : (s5Parse cx u).err = .ok) :
    s5Parse cx u = ⟨.ok, (s5Parse cx u).cx, []⟩ := by
  have hd : (s5Parse cx u).data = [] := s5ParseLoop_data_of_ok h
  revert h hd
  cases s5Parse cx u
  intro h hd
  simp only at h hd
  rw [h, hd]

theorem s5Parse_data_of_ok {cx cx' : S5Ctx} {u d : List UInt8} {err : S5Err}
    (h : s5Parse cx u = ⟨err, cx', d⟩) (hok : err = .ok) : d = [] := by
  have hd : (s5Parse cx u).data = [] :=
    s5ParseLoop_data_of_ok (show (s5Parse cx u).err = .ok by rw [h]; exact hok)
  rwa [h] at hd

/-- The read after reads that all returned `s5_ok` is parsed from where they left the
context. -/
theorem s5ParseReads_concat {cx : S5Ctx} :
    ∀ {rs : List (List UInt8)}, (s5ParseReads cx rs).err = .ok → ∀ r : List UInt8,
      s5ParseReads cx (rs ++ [r]) = s5Parse (s5ParseReads cx rs).cx r := by
  intro rs
  induction rs generalizing cx with
  | nil =>
    intro _ r
    show (if (s5Parse cx r).err = .ok then s5ParseReads (s5Parse cx r).cx [] else s5Parse cx r) = _
    split
    · rename_i h
      exact (s5Parse_eq_of_ok h).symm
    · rfl
  | cons r' rs ih =>
    intro hok r
    by_cases h : (s5Parse cx r').err = .ok
    · rw [List.cons_append, s5ParseReads_cons_ok h, s5ParseReads_cons_ok h]
      rw [s5ParseReads_cons_ok h] at hok
      exact ih hok r
    · rw [s5ParseReads, if_neg h] at hok
      exact absurd hok h

/-- A parse that stops inside `u` stops at the same byte inside `u ++ v`. -/
theorem s5ParseLoop_append_stop : ∀ {u : List UInt8} {cx cx' : S5Ctx} {p : Port} {err : S5Err}
    {r : List UInt8}, s5ParseLoop cx p u = ⟨err, cx', r⟩ → err ≠ .ok → ∀ v : List UInt8,
      s5ParseLoop cx p (u ++ v) = ⟨err, cx', r ++ v⟩ := by
  intro u
  induction u with
  | nil =>
    intro cx cx' p err r h herr _
    simp only [s5ParseLoop, S5Parsed.mk.injEq] at h
    exact absurd h.1.symm herr
  | cons c rest ih =>
    intro cx cx' p err r h herr v
    rw [List.cons_append, s5ParseLoop]
    rw [s5ParseLoop] at h
    split at h
    · exact ih h herr v
    · simp only [S5Parsed.mk.injEq] at h
      obtain ⟨rfl, rfl, rfl⟩ := h
      rfl

/-- A parse that ends with its input does not stop before: every proper prefix is read with
`s5_ok`. -/
theorem s5Parse_prefix_ok {cx cx' : S5Ctx} {err : S5Err} {u v : List UInt8}
    (h : s5Parse cx (u ++ v) = ⟨err, cx', []⟩) (hv : v ≠ []) :
    s5Parse cx u = ⟨.ok, (s5Parse cx u).cx, []⟩ := by
  by_cases hok : (s5Parse cx u).err = .ok
  · exact s5Parse_eq_of_ok hok
  · -- a stop inside `u` would leave `v` unread
    have hstop := s5ParseLoop_append_stop (show s5ParseLoop cx (0, 0) u = ⟨_, _, _⟩ from rfl) hok v
    rw [s5Parse, hstop] at h
    simp only [S5Parsed.mk.injEq, List.append_eq_nil_iff] at h
    exact absurd h.2.2.2 hv

/-- A parse that waits between the two port bytes stops at the next byte: what follows the
cut, in a parse that ends with its input, is one byte. -/
theorem s5Parse_dport1_cut {cx cx' cx₁ : S5Ctx} {err : S5Err} {u v : List UInt8}
    (h : s5Parse cx (u ++ v) = ⟨err, cx', []⟩) (hu : s5Parse cx u = ⟨.ok, cx₁, []⟩)
    (hst : cx₁.state = .reqDport1) : v.length ≤ 1 := by
  obtain ⟨p', hp'⟩ := s5ParseLoop_append hu v
  rw [s5Parse, hp'] at h
  cases v with
  | nil => simp
  | cons c w =>
    have hstep : s5Step cx₁ p' c = .stop .execCmd
        { cx₁ with dport := Bytes.rdBe16 [p'.1, c] 0, state := .dead } := by
      simp [s5Step, hst]
    rw [s5ParseLoop_stop hstep] at h
    simp only [S5Parsed.mk.injEq] at h
    simp [h.2.2]

/-- No read of `rs` but the last ends where the parser keeps a byte in `port`. -/
def CutFree (cx : S5Ctx) (rs : List (List UInt8)) : Prop :=
  ∀ k, 0 < k → k < rs.length → (s5Parse cx (rs.take k).flatten).cx.state ≠ .reqDport1

/-- A cut-free parse that ends with its input takes its first read with `s5_ok`, and the rest,
cut free from where that leaves the context, ends as the whole did. -/
theorem s5Parse_cons_of_cutFree {r r' : List UInt8} {rs : List (List UInt8)} {cx cx' : S5Ctx} {err : S5Err}
    (hne : ∀ x ∈ r :: r' :: rs, x ≠ []) (h : s5Parse cx (r :: r' :: rs).flatten = ⟨err, cx', []⟩)
    (hcut : CutFree cx (r :: r' :: rs)) :
    s5Parse cx r = ⟨.ok, (s5Parse cx r).cx, []⟩ ∧ s5Parse (s5Parse cx r).cx (r' :: rs).flatten = ⟨err, cx', []⟩ ∧
      CutFree (s5Parse cx r).cx (r' :: rs) := by
  have hv : (r' :: rs).flatten ≠ [] := by
    simpa using fun h' => absurd h' (hne r' (by simp))
  rw [List.flatten_cons] at h
  have hr := s5Parse_prefix_ok h hv
  have hst : (s5Parse cx r).cx.state ≠ .reqDport1 := by
    simpa using hcut 1 (by omega) (by simp)
  have happ : ∀ w, s5Parse cx (r ++ w) = s5Parse (s5Parse cx r).cx w := fun w => by
    rw [hr] at hst ⊢
    exact s5Parse_append hr hst w
  refine ⟨hr, by rw [← happ]; exact h, fun k hk hlt => ?_⟩
  have := hcut (k + 1) (by omega) (by simp at hlt ⊢; omega)
  rwa [List.take_succ_cons, List.flatten_cons, happ] at this

/-- **Reads that cut a parse only where the machine keeps no byte in `port`** are parsed, call
by call, as the concatenation is parsed in one call. -/
theorem s5ParseReads_flatten : ∀ {rs : List (List UInt8)} {cx cx' : S5Ctx} {err : S5Err},
    (∀ r ∈ rs, r ≠ []) → s5Parse cx rs.flatten = ⟨err, cx', []⟩ → err ≠ .ok → CutFree cx rs →
    s5ParseReads cx rs = ⟨err, cx', []⟩ := by
  intro rs
  induction rs with
  | nil =>
    intro cx cx' err _ h herr _
    simp only [List.flatten_nil, s5Parse, s5ParseLoop, S5Parsed.mk.injEq] at h
    exact absurd h.1.symm herr
  | cons r rs ih =>
    intro cx cx' err hne h herr hcut
    cases rs with
    | nil =>
      rw [List.flatten_cons, List.flatten_nil, List.append_nil] at h
      simp only [s5ParseReads, h, herr, if_false]
    | cons r' rs' =>
      obtain ⟨hr, h', hcut'⟩ := s5Parse_cons_of_cutFree hne h hcut
      rw [s5ParseReads_cons_ok (by rw [hr])]
      exact ih (fun x hx => hne x (List.mem_cons_of_mem r hx)) h' herr hcut'

/-- The states of a greeting: the version, the count and the methods. -/
def GreetingState (s : S5State) : Prop := s = .version ∨ s = .nmethods ∨ s = .methods

/-- A property of contexts that every byte keeps holds of the context a parse ends with when
it returns `s5_ok`; and what each stop gives holds of the code and context it returns. -/
theorem s5ParseLoop_keeps (P : S5Ctx → Prop) (Q : S5Err → S5Ctx → Prop)
    (hnext : ∀ {cx cx' : S5Ctx} {p p' : Port} {c : UInt8}, P cx → s5Step cx p c = .next cx' p' → P cx')
    (hstop : ∀ {cx cx' : S5Ctx} {p : Port} {c : UInt8} {e : S5Err}, P cx → s5Step cx p c = .stop e cx' →
      Q e cx') :
    ∀ (u : List UInt8) {cx : S5Ctx} {p : Port}, P cx →
      ((s5ParseLoop cx p u).err = .ok → P (s5ParseLoop cx p u).cx) ∧
        ((s5ParseLoop cx p u).err ≠ .ok → Q (s5ParseLoop cx p u).err (s5ParseLoop cx p u).cx) := by
  intro u
  induction u with
  | nil => intro cx p h; exact ⟨fun _ => h, fun h' => absurd rfl h'⟩
  | cons c rest ih =>
    intro cx p h
    rw [s5ParseLoop]
    split
    · rename_i cx₁ p₁ hstep
      exact ih (hnext h hstep)
    · rename_i err cx₁ hstep
      exact ⟨fun hok => absurd hok (s5Step_stop_ne_ok hstep), fun _ => hstop h hstep⟩

/-- A greeting never leaves its states but by stopping. -/
theorem s5Step_greeting {cx cx' : S5Ctx} {p p' : Port} {c : UInt8} (h : GreetingState cx.state)
    (hs : s5Step cx p c = .next cx' p') : GreetingState cx'.state := by
  unfold GreetingState at h ⊢
  unfold s5Step at hs
  rcases h with h | h | h <;> rw [h] at hs <;> dsimp only at hs <;> (try split_ifs at hs) <;>
    cases hs <;> simp [h]

/-- A cut of a parse that ends with its input leaves a prefix read with `s5_ok`. -/
theorem s5Parse_take_ok {rs : List (List UInt8)} {cx cx' : S5Ctx} {err : S5Err}
    (hne : ∀ r ∈ rs, r ≠ []) (h : s5Parse cx rs.flatten = ⟨err, cx', []⟩) {k : Nat} (hlt : k < rs.length) :
    s5Parse cx (rs.take k).flatten = ⟨.ok, (s5Parse cx (rs.take k).flatten).cx, []⟩ := by
  have hsplit : rs.flatten = (rs.take k).flatten ++ (rs.drop k).flatten := by
    rw [← List.flatten_append, List.take_append_drop]
  have hdrop : (rs.drop k).flatten ≠ [] := by
    obtain ⟨r, hr⟩ : ∃ r, r ∈ rs.drop k :=
      ⟨rs[k], by rw [List.mem_iff_getElem]; exact ⟨0, by simp; omega, by simp⟩⟩
    simpa using ⟨r, hr, hne r (List.mem_of_mem_drop hr)⟩
  rw [hsplit] at h
  exact s5Parse_prefix_ok h hdrop

/-- A greeting is cut free however its reads cut it: it never reaches the port. -/
theorem cutFree_of_greeting {rs : List (List UInt8)} {cx cx' : S5Ctx} {err : S5Err}
    (hg : GreetingState cx.state) (hne : ∀ r ∈ rs, r ≠ []) (h : s5Parse cx rs.flatten = ⟨err, cx', []⟩) :
    CutFree cx rs := by
  intro k hk hlt
  have hok := s5Parse_take_ok hne h hlt
  -- a cut inside the parse is read with `s5_ok`, so it stays in the greeting's states
  have hgs := (s5ParseLoop_keeps (fun cx => GreetingState cx.state) (fun _ _ => True)
    (fun h hs => s5Step_greeting h hs) (fun _ _ => trivial) (rs.take k).flatten hg).1
    (show (s5Parse cx (rs.take k).flatten).err = .ok by rw [hok])
  intro hd
  rcases hgs with h' | h' | h' <;> simp [s5Parse, h'] at hd

/-- Reads whose last holds two bytes at least are cut free, in a parse that ends with them. -/
theorem cutFree_of_last {rs : List (List UInt8)} {cx cx' : S5Ctx} {err : S5Err}
    (hne : ∀ r ∈ rs, r ≠ []) (hlast : ∀ r ∈ rs.getLast?, 2 ≤ r.length)
    (h : s5Parse cx rs.flatten = ⟨err, cx', []⟩) : CutFree cx rs := by
  intro k hk hlt
  have hsplit : rs.flatten = (rs.take k).flatten ++ (rs.drop k).flatten := by
    rw [← List.flatten_append, List.take_append_drop]
  -- what follows a cut holds the last read
  have hlong : 2 ≤ (rs.drop k).flatten.length := by
    have hne' : rs.drop k ≠ [] := by simp; omega
    have h2 := hlast _ (List.getLast?_eq_some_getLast (List.ne_nil_of_length_pos (by omega)))
    rw [← List.getLast_drop hne'] at h2
    calc 2 ≤ ((rs.drop k).getLast hne').length := h2
      _ ≤ (rs.drop k).flatten.length := by
        rw [List.length_flatten]
        exact List.le_sum_of_mem (List.mem_map_of_mem (List.getLast_mem hne'))
  have hok := s5Parse_take_ok hne h hlt
  rw [hsplit] at h
  intro hd
  have := s5Parse_dport1_cut h hok hd
  omega

/-- The states of a request; the command is known once it has been read. -/
def RequestState (cx : S5Ctx) : Prop :=
  cx.state = .reqVersion ∨ cx.state = .reqCmd ∨
    (cx.cmd.isSome ∧ (cx.state = .reqReserved ∨ cx.state = .reqAtyp ∨ cx.state = .reqAtypHost ∨
      cx.state = .reqDaddr ∨ cx.state = .reqDport0 ∨ cx.state = .reqDport1))

/-- A request never leaves its states but by stopping. -/
theorem s5Step_request {cx cx' : S5Ctx} {p p' : Port} {c : UInt8} (h : RequestState cx)
    (hs : s5Step cx p c = .next cx' p') : RequestState cx' := by
  unfold RequestState at h ⊢
  unfold s5Step at hs
  rcases h with h | h | ⟨hcmd, h | h | h | h | h | h⟩ <;> rw [h] at hs <;> dsimp only at hs <;>
    (try split_ifs at hs) <;> (try split at hs) <;> cases hs <;> simp_all [S5Atyp.next]
  -- the address type's next state
  rename_i a _
  cases a <;> simp

/-- A request stops with `s5_exec_cmd` only after its command has been read. -/
theorem s5Step_request_stop {cx cx' : S5Ctx} {p : Port} {c : UInt8} {e : S5Err} (h : RequestState cx)
    (hs : s5Step cx p c = .stop e cx') : e = .execCmd → cx'.cmd.isSome := by
  unfold RequestState at h
  unfold s5Step at hs
  rcases h with h | h | ⟨hcmd, h | h | h | h | h | h⟩ <;> rw [h] at hs <;> dsimp only at hs <;>
    (try split_ifs at hs) <;> (try split at hs) <;> cases hs <;> simp_all

/-- What a request's read leaves: a request state on `s5_ok`, a known command on
`s5_exec_cmd`. -/
theorem s5Parse_request_state {cx cx' : S5Ctx} {u d : List UInt8} {err : S5Err} (h : RequestState cx)
    (hp : s5Parse cx u = ⟨err, cx', d⟩) :
    (err = .ok → RequestState cx') ∧ (err = .execCmd → cx'.cmd.isSome) := by
  have hk := s5ParseLoop_keeps RequestState (fun e cx => e = .execCmd → cx.cmd.isSome)
    (fun h hs => s5Step_request h hs) (fun h hs => s5Step_request_stop h hs) u (p := (0, 0)) h
  change ((s5Parse cx u).err = .ok → RequestState (s5Parse cx u).cx) ∧
    ((s5Parse cx u).err ≠ .ok → (s5Parse cx u).err = .execCmd → (s5Parse cx u).cx.cmd.isSome) at hk
  rw [hp] at hk
  exact ⟨hk.1, fun he => hk.2 (by rw [he]; simp) he⟩

/-! ## The handshake -/

/-- The stages of `client.c` before the SSR auth packet is written. `do_handshake` never
enters `tunnel_stage_handshake_auth`: it shuts password authentication down. -/
inductive HandshakeStage where
  | handshake
  | handshakeReplied
  | s5Request
  | s5UdpAssoc
  | tlsConnecting
  | resolveSsrServerHostDone
  | connectingSsrServer
  | ssrAuthSent
  | kill
  deriving DecidableEq, Repr

/-- An address as `convert_universal_address` reads it: four or sixteen octets. -/
inductive ListenAddr where
  | ipv4 (a : Vector UInt8 4)
  | ipv6 (a : Vector UInt8 16)
  deriving DecidableEq, Repr

/-- What the handshake asks of the configuration and the system: whether
`convert_universal_address` reads `config->remote_host` as an address, whether `can_access`
admits the server's address (a debug build admits every address, a release build refuses a
loopback one), whether `socket_connect` starts, `config->udp`, and `config->listen_host` and
`config->listen_port` as `convert_universal_address` reads them (`none` when it fails: a
name, or port 0), and `config->over_tls_enable`. -/
structure ClientConfig where
  remoteIsAddress : Bool
  canAccess : Bool
  connects : Bool
  udp : Bool
  listen : Option ListenAddr
  listenPort : UInt16
  overTlsEnable : Bool

/-- The tunnel's `tunnel_cipher_ctx` as the handshake uses it: the state `tunnel_cipher_create`
makes, `do_parse_s5_request` setting `buffer_size` and `head_len` in the `server_info_t` of
its plugins, and `tunnel_cipher_client_encrypt` (`none` for an error). -/
structure HandshakeCipher (σ : Type) where
  create : σ
  setHeadLen : σ → Nat → σ
  encrypt : σ → List UInt8 → σ × Option (List UInt8)

/-- The context `do_parse_s5_request` makes for the header `initPkg`. -/
def HandshakeCipher.start {σ : Type} (ci : HandshakeCipher σ) (initPkg : List UInt8) : σ :=
  ci.setHeadLen ci.create (getS5HeadSize initPkg 30)

/-- A client tunnel in its handshake: its stage, the `s5_ctx`, the cipher context (`NULL` until
the request), `init_pkg`, which reads and writes libuv owes (the application's socket read or
written, the server's name looked up, the connect, the write to the server), and what was
read from the application and written to each side. -/
structure HandshakeTunnel (σ : Type) where
  stage : HandshakeStage
  parser : S5Ctx
  cipher : Option σ
  initPkg : List UInt8
  incomingReading : Bool
  incomingWriting : Bool
  resolving : Bool
  connecting : Bool
  outgoingWriting : Bool
  terminated : Bool
  assertFailed : Bool
  /-- `socket_write` was handed `NULL`, or a `NULL` cipher context was used. -/
  faulted : Bool
  appReads : List (List UInt8)
  toApp : List (List UInt8)
  toServer : List (List UInt8)

namespace HandshakeTunnel

variable {σ : Type}

/-- `ASSERT(cond)`: a failure is recorded; a release build goes on. -/
def assert (t : HandshakeTunnel σ) (cond : Bool) : HandshakeTunnel σ :=
  { t with assertFailed := t.assertFailed || !cond }

/-- `tunnel_shutdown`. -/
def shutdown (t : HandshakeTunnel σ) : HandshakeTunnel σ := { t with terminated := true }

/-- `socket_write` on the application's socket, and the stage that waits for it. -/
def writeApp (t : HandshakeTunnel σ) (data : List UInt8) (stage : HandshakeStage) : HandshakeTunnel σ :=
  { t.assert (!t.incomingWriting) with toApp := t.toApp ++ [data], incomingWriting := true, stage }

/-- The reads and writes libuv owes, in the order of the fields. -/
def owes (t : HandshakeTunnel σ) : Bool × Bool × Bool × Bool × Bool :=
  (t.incomingReading, t.incomingWriting, t.resolving, t.connecting, t.outgoingWriting)

@[simp] theorem assert_true (t : HandshakeTunnel σ) : t.assert true = t := by
  cases t; simp [assert]

end HandshakeTunnel

/-- `can_auth_none`. -/
def canAuthNone : Bool := true

/-- `can_auth_passwd`. -/
def canAuthPasswd : Bool := false

/-- `build_udp_assoc_package(allow, listen_host, listen_port, buf, &len)` on a buffer of
`bufLen` bytes: version 5, success or "command not supported", the listening address and its
port, or `NULL`. -/
def buildUdpAssocPackage (allow : Bool) (listen : Option ListenAddr) (port : UInt16) (bufLen : Nat) :
    Option (List UInt8) :=
  match listen with
  | none => none
  | some (.ipv6 a) =>
    if bufLen < 22 then none else some ([5, if allow then 0 else 7, 0, 4] ++ a.toList ++ be16 port.toNat)
  | some (.ipv4 a) =>
    if bufLen < 10 then none else some ([5, if allow then 0 else 7, 0, 1] ++ a.toList ++ be16 port.toNat)

section Handlers

variable {σ : Type} (cfg : ClientConfig) (ci : HandshakeCipher σ)

/-- What `do_handshake` does once `s5_parse` has returned `r` on the greeting's read: read
again on `s5_ok`; shut down on junk after the greeting or another error; answer `05 00` when
no authentication is offered and `05 ff` when nothing acceptable is. -/
def handshakeParsed (t : HandshakeTunnel σ) (r : S5Parsed) : HandshakeTunnel σ :=
  let t := { t with parser := r.cx }
  if r.err = .ok then { t with incomingReading := true, stage := .handshake }
  else if r.data ≠ [] then t.shutdown
  else if r.err ≠ .authSelect then t.shutdown
  else if r.cx.methods &&& S5AuthMethod.none.bit ≠ 0 ∧ canAuthNone = true then
    ({ t with parser := (s5SelectAuth r.cx .none).2 } : HandshakeTunnel σ).writeApp [5, 0] .handshakeReplied
  -- username and password authentication is not implemented
  else if r.cx.methods &&& S5AuthMethod.passwd.bit ≠ 0 ∧ canAuthPasswd = true then t.shutdown
  else t.writeApp [5, 255] .kill

/-- `do_handshake` on a read of the application. -/
def doHandshake (t : HandshakeTunnel σ) (data : List UInt8) : HandshakeTunnel σ :=
  handshakeParsed (t.assert (!t.incomingReading && !t.incomingWriting)) (s5Parse t.parser data)

/-- `do_wait_s5_request`, once the method reply is written. -/
def doWaitS5Request (t : HandshakeTunnel σ) : HandshakeTunnel σ :=
  { t.assert (!t.incomingReading && !t.incomingWriting) with incomingReading := true, stage := .s5Request }

/-- `do_connect_ssr_server`: "Connection not allowed by ruleset" when `can_access` refuses the
server's address, else `socket_connect`. -/
def doConnectSsrServer (t : HandshakeTunnel σ) : HandshakeTunnel σ :=
  let t := t.assert (!t.incomingReading && !t.incomingWriting && !t.outgoingWriting)
  if cfg.canAccess = false then t.writeApp [5, 2, 0, 1, 0, 0, 0, 0, 0, 0] .kill
  else if cfg.connects = false then t.shutdown
  else { t with connecting := true, stage := .connectingSsrServer }

/-- What `do_parse_s5_request` does once `s5_parse` has returned `r` on the request's read:
read again on `s5_ok`; shut down on junk after the request, another error or BIND; answer a
UDP ASSOCIATE; for a CONNECT make `init_pkg` and the cipher context, and resolve the server's
name or connect to its address. -/
def requestParsed (t : HandshakeTunnel σ) (r : S5Parsed) : HandshakeTunnel σ :=
  let t := { t with parser := r.cx }
  if r.err = .ok then { t with incomingReading := true, stage := .s5Request }
  else if r.data ≠ [] then t.shutdown
  else if r.err ≠ .execCmd then t.shutdown
  -- "BIND requests are not supported."
  else if r.cx.cmd = some .tcpBind then t.shutdown
  else if r.cx.cmd = some .udpAssoc then
    -- `len` is `incoming->buf->len`, the size the read was allocated
    match buildUdpAssocPackage cfg.udp cfg.listen cfg.listenPort ssrBuffSize with
    | some pkg => t.writeApp pkg .s5UdpAssoc
    | none => { t with faulted := true }
  else
    let t := t.assert (r.cx.cmd == some .tcpConnect)
    let initPkg := SockAddr.initialPackageCreate r.cx
    let t := { t with initPkg, cipher := some (ci.start initPkg) }
    -- `tls_client_launch` takes the tunnel over from `do_next`
    if cfg.overTlsEnable then { t with stage := .tlsConnecting }
    else if cfg.remoteIsAddress then doConnectSsrServer cfg t
    else { t with resolving := true, stage := .resolveSsrServerHostDone }

/-- `do_parse_s5_request` on a read of the application. -/
def doParseS5Request (t : HandshakeTunnel σ) (data : List UInt8) : HandshakeTunnel σ :=
  requestParsed cfg ci (t.assert (!t.incomingReading && !t.incomingWriting && !t.outgoingWriting))
    (s5Parse t.parser data)

/-- `do_resolve_ssr_server_host_aftercare`: the port is set in the resolved address, and the
server connected to. -/
def doResolveSsrServerHostAftercare (t : HandshakeTunnel σ) : HandshakeTunnel σ :=
  doConnectSsrServer cfg (t.assert (!t.incomingReading && !t.incomingWriting && !t.outgoingWriting))

/-- `do_connect_ssr_server_done`: the auth packet, `tunnel_cipher_client_encrypt` of a clone of
`init_pkg`, is written to the server; an error shuts the tunnel down. -/
def doConnectSsrServerDone (t : HandshakeTunnel σ) : HandshakeTunnel σ :=
  let t := t.assert (!t.incomingReading && !t.incomingWriting && !t.outgoingWriting)
  match t.cipher with
  | none => { t with faulted := true }
  | some st =>
    match ci.encrypt st t.initPkg with
    | (st, none) => ({ t with cipher := some st } : HandshakeTunnel σ).shutdown
    | (st, some pkt) =>
      { t with cipher := some st, toServer := t.toServer ++ [pkt], outgoingWriting := true,
               stage := .ssrAuthSent }

/-- `do_next` after a read of the application's socket. A stage that does not read it fails
`do_next`'s `ASSERT` on the socket's state. -/
def appReadDone (t : HandshakeTunnel σ) (data : List UInt8) : HandshakeTunnel σ :=
  match t.stage with
  | .handshake => doHandshake t data
  | .s5Request => doParseS5Request cfg ci t data
  | _ => t.assert false

/-- `do_next` after a write to the application's socket: after the method reply the request is
read; after the UDP reply or a refusal the tunnel is shut down. -/
def appWriteDone (t : HandshakeTunnel σ) : HandshakeTunnel σ :=
  match t.stage with
  | .handshakeReplied => doWaitS5Request t
  | .s5UdpAssoc => t.shutdown
  | .kill => t.shutdown
  | _ => t.assert false

/-- `do_next` after the server's name is resolved. -/
def serverResolved (t : HandshakeTunnel σ) : HandshakeTunnel σ :=
  match t.stage with
  | .resolveSsrServerHostDone => doResolveSsrServerHostAftercare cfg t
  | _ => t.assert false

/-- `do_next` after the connection to the server is made. -/
def serverConnected (t : HandshakeTunnel σ) : HandshakeTunnel σ :=
  match t.stage with
  | .connectingSsrServer => doConnectSsrServerDone ci t
  | _ => t.assert false

end Handlers

/-- What libuv may deliver before the auth packet is written: a read of the application's
socket while it is read, the completion of a write to it, the server's name resolved, the
connection to the server made. -/
inductive HandshakeEvent where
  | appRead (data : List UInt8)
  | appWritten
  | resolved
  | connected

def handshakeMachine {σ : Type} (cfg : ClientConfig) (ci : HandshakeCipher σ) :
    Machine (HandshakeTunnel σ) HandshakeEvent where
  enabled t e :=
    t.terminated = false ∧ t.faulted = false ∧
      match e with
      | .appRead data => t.incomingReading = true ∧ data ≠ []
      | .appWritten => t.incomingWriting = true
      | .resolved => t.resolving = true
      | .connected => t.connecting = true
  step t e :=
    match e with
    | .appRead data =>
      appReadDone cfg ci { t with incomingReading := false, appReads := t.appReads ++ [data] } data
    | .appWritten => appWriteDone { t with incomingWriting := false }
    | .resolved => serverResolved cfg { t with resolving := false }
    | .connected => serverConnected ci { t with connecting := false }

/-- The tunnel as `init_done_cb` and `tunnel_initialize` leave it: the parser initialised, no
cipher context yet, and the application's socket read. -/
def HandshakeTunnel.start {σ : Type} : HandshakeTunnel σ :=
  ⟨.handshake, s5Init, none, [], true, false, false, false, false, false, false, false, [], [], []⟩

/-! ## What a handler can do -/

section Outcomes

variable {σ : Type} (cfg : ClientConfig) (ci : HandshakeCipher σ)

/-- `do_handshake` after `s5_parse`: read on, shut down, answer `05 00`, or answer `05 ff`. -/
theorem handshakeParsed_cases (t : HandshakeTunnel σ) (r : S5Parsed) :
    (r.err = .ok ∧
        handshakeParsed t r = { t with parser := r.cx, incomingReading := true, stage := .handshake }) ∨
      handshakeParsed t r = ({ t with parser := r.cx } : HandshakeTunnel σ).shutdown ∨
      (r.err = .authSelect ∧ r.data = [] ∧ r.cx.methods &&& S5AuthMethod.none.bit ≠ 0 ∧
        handshakeParsed t r = ({ t with parser := (s5SelectAuth r.cx .none).2 } : HandshakeTunnel σ).writeApp
          [5, 0] .handshakeReplied) ∨
      handshakeParsed t r = ({ t with parser := r.cx } : HandshakeTunnel σ).writeApp [5, 255] .kill := by
  unfold handshakeParsed
  split_ifs with h1 h2 h3 h4 h5
  · exact .inl ⟨h1, rfl⟩
  · exact .inr (.inl rfl)
  · exact .inr (.inl rfl)
  · exact .inr (.inr (.inl ⟨not_not.mp h3, not_not.mp h2, h4.1, rfl⟩))
  · exact .inr (.inl rfl)
  · exact .inr (.inr (.inr rfl))

/-- `do_connect_ssr_server` with no read or write owed: refuse, shut down, or connect. -/
theorem doConnectSsrServer_cases {t : HandshakeTunnel σ}
    (h : t.incomingReading = false ∧ t.incomingWriting = false ∧ t.outgoingWriting = false) :
    doConnectSsrServer cfg t = t.writeApp [5, 2, 0, 1, 0, 0, 0, 0, 0, 0] .kill ∨
      doConnectSsrServer cfg t = t.shutdown ∨
      doConnectSsrServer cfg t = { t with connecting := true, stage := .connectingSsrServer } := by
  obtain ⟨h1, h2, h3⟩ := h
  unfold doConnectSsrServer
  simp only [h1, h2, h3, Bool.not_false, Bool.and_self, HandshakeTunnel.assert_true]
  split_ifs
  · exact .inl rfl
  · exact .inr (.inl rfl)
  · exact .inr (.inr rfl)

/-- `do_parse_s5_request` after `s5_parse`: read on, shut down, answer a UDP ASSOCIATE or fault
on its `NULL`, or take a CONNECT on to the server. -/
theorem requestParsed_cases (t : HandshakeTunnel σ) (r : S5Parsed) :
    (r.err = .ok ∧
        requestParsed cfg ci t r = { t with parser := r.cx, incomingReading := true, stage := .s5Request }) ∨
      requestParsed cfg ci t r = ({ t with parser := r.cx } : HandshakeTunnel σ).shutdown ∨
      (∃ pkg, requestParsed cfg ci t r =
        ({ t with parser := r.cx } : HandshakeTunnel σ).writeApp pkg .s5UdpAssoc) ∨
      requestParsed cfg ci t r = { t with parser := r.cx, faulted := true } ∨
      (r.err = .execCmd ∧ r.data = [] ∧ r.cx.cmd ≠ some .tcpBind ∧ r.cx.cmd ≠ some .udpAssoc ∧
        let t₁ : HandshakeTunnel σ :=
          { ({ t with parser := r.cx } : HandshakeTunnel σ).assert (r.cx.cmd == some .tcpConnect) with
            initPkg := SockAddr.initialPackageCreate r.cx,
            cipher := some (ci.start (SockAddr.initialPackageCreate r.cx)) }
        requestParsed cfg ci t r =
          if cfg.overTlsEnable then { t₁ with stage := .tlsConnecting }
          else if cfg.remoteIsAddress then doConnectSsrServer cfg t₁
          else { t₁ with resolving := true, stage := .resolveSsrServerHostDone }) := by
  unfold requestParsed
  dsimp only
  by_cases h1 : r.err = .ok
  · exact .inl ⟨h1, by rw [if_pos h1]⟩
  rw [if_neg h1]
  by_cases h2 : r.data ≠ []
  · exact .inr (.inl (by rw [if_pos h2]))
  rw [if_neg h2]
  by_cases h3 : r.err ≠ .execCmd
  · exact .inr (.inl (by rw [if_pos h3]))
  rw [if_neg h3]
  by_cases h4 : r.cx.cmd = some .tcpBind
  · exact .inr (.inl (by rw [if_pos h4]))
  rw [if_neg h4]
  by_cases h5 : r.cx.cmd = some .udpAssoc
  · rw [if_pos h5]
    split
    · exact .inr (.inr (.inl ⟨_, rfl⟩))
    · exact .inr (.inr (.inr (.inl rfl)))
  rw [if_neg h5]
  exact .inr (.inr (.inr (.inr ⟨not_not.mp h3, not_not.mp h2, h4, h5, rfl⟩)))

end Outcomes

/-! ## What every run keeps -/

namespace HandshakeTunnel

variable {σ : Type} (cfg : ClientConfig) (ci : HandshakeCipher σ)

/-- The reads `g` were a whole greeting that offered no authentication. -/
def Greeted (g : List (List UInt8)) (cxG : S5Ctx) : Prop :=
  s5ParseReads s5Init g = ⟨.authSelect, cxG, []⟩ ∧ cxG.methods &&& S5AuthMethod.none.bit ≠ 0

/-- The application's reads were a greeting that offered no authentication, answered `05 00`,
and then a whole CONNECT request, from which `init_pkg` was made. -/
def Connecting (t : HandshakeTunnel σ) : Prop :=
  ∃ g q cxG cxR, t.appReads = g ++ q ∧ Greeted g cxG ∧
    s5ParseReads (s5SelectAuth cxG .none).2 q = ⟨.execCmd, cxR, []⟩ ∧ cxR.cmd = some .tcpConnect ∧
    t.toApp = [[5, 0]] ∧ t.initPkg = SockAddr.initialPackageCreate cxR

/-- Where a tunnel that is neither shut down nor faulted stands, stage by stage: what the
application's reads were, what went to each side, and which reads and writes libuv owes. -/
def Live (t : HandshakeTunnel σ) : Prop :=
  match t.stage with
  | .handshake =>
    s5ParseReads s5Init t.appReads = ⟨.ok, t.parser, []⟩ ∧ t.toApp = [] ∧ t.toServer = [] ∧
      t.owes = (true, false, false, false, false)
  | .handshakeReplied =>
    (∃ cxG, Greeted t.appReads cxG ∧ t.parser = (s5SelectAuth cxG .none).2) ∧ t.toApp = [[5, 0]] ∧
      t.toServer = [] ∧ t.owes = (false, true, false, false, false)
  | .s5Request =>
    (∃ g q cxG, t.appReads = g ++ q ∧ Greeted g cxG ∧
        s5ParseReads (s5SelectAuth cxG .none).2 q = ⟨.ok, t.parser, []⟩) ∧ RequestState t.parser ∧
      t.toApp = [[5, 0]] ∧ t.toServer = [] ∧ t.owes = (true, false, false, false, false)
  | .s5UdpAssoc =>
    (∃ pkg, t.toApp = [[5, 0], pkg]) ∧ t.toServer = [] ∧ t.owes = (false, true, false, false, false)
  | .tlsConnecting =>
    t.Connecting ∧ t.cipher = some (ci.start t.initPkg) ∧ t.toServer = [] ∧
      t.owes = (false, false, false, false, false)
  | .resolveSsrServerHostDone =>
    t.Connecting ∧ t.cipher = some (ci.start t.initPkg) ∧ t.toServer = [] ∧
      t.owes = (false, false, true, false, false)
  | .connectingSsrServer =>
    t.Connecting ∧ t.cipher = some (ci.start t.initPkg) ∧ t.toServer = [] ∧
      t.owes = (false, false, false, true, false)
  | .ssrAuthSent =>
    t.Connecting ∧ (∃ st pkt, ci.encrypt (ci.start t.initPkg) t.initPkg = (st, some pkt) ∧
      t.cipher = some st ∧ t.toServer = [pkt]) ∧ t.owes = (false, false, false, false, true)
  | .kill =>
    (t.toApp = [[5, 255]] ∨ t.toApp = [[5, 0], [5, 2, 0, 1, 0, 0, 0, 0, 0, 0]]) ∧ t.toServer = [] ∧
      t.owes = (false, true, false, false, false)

/-- Every `ASSERT` has held, the server has been written to only once the auth packet was
sent, and a tunnel that is neither shut down nor faulted stands where its stage says. -/
def Inv (t : HandshakeTunnel σ) : Prop :=
  t.assertFailed = false ∧ (t.toServer ≠ [] → t.stage = .ssrAuthSent ∧ t.Live ci) ∧
    (t.terminated = false → t.faulted = false → t.Live ci)

variable {ci}

theorem Inv.of_live {t : HandshakeTunnel σ} (ha : t.assertFailed = false) (hl : t.Live ci)
    (hs : t.toServer ≠ [] → t.stage = .ssrAuthSent) : t.Inv ci :=
  ⟨ha, fun h => ⟨hs h, hl⟩, fun _ _ => hl⟩

theorem Inv.of_stopped {t : HandshakeTunnel σ} (ha : t.assertFailed = false) (hs : t.toServer = [])
    (hstop : t.terminated = true ∨ t.faulted = true) : t.Inv ci :=
  ⟨ha, fun h => absurd hs h, fun h₁ h₂ => by rcases hstop with h | h <;> simp_all⟩

/-- `init_pkg` and what went to the application decide `Connecting`. -/
theorem Connecting.congr {t t' : HandshakeTunnel σ} (h : t.Connecting) (hr : t'.appReads = t.appReads)
    (ha : t'.toApp = t.toApp) (hi : t'.initPkg = t.initPkg) : t'.Connecting := by
  obtain ⟨g, q, cxG, cxR, h₁, h₂, h₃, h₄, h₅, h₆⟩ := h
  exact ⟨g, q, cxG, cxR, hr ▸ h₁, h₂, h₃, h₄, ha ▸ h₅, hi ▸ h₆⟩

/-- A read of the greeting. -/
theorem inv_greetingRead {t : HandshakeTunnel σ} (ha : t.assertFailed = false) (hs : t.stage = .handshake)
    (hl : t.Live ci) (data : List UInt8) :
    ((handshakeMachine cfg ci).step t (.appRead data)).Inv ci := by
  unfold Live at hl
  rw [hs] at hl
  obtain ⟨hparse, happ, hsrv, howes⟩ := hl
  simp only [owes, Prod.mk.injEq] at howes
  obtain ⟨-, hw, hres, hcon, how⟩ := howes
  -- the greeting's reads so far all returned `s5_ok`, so this read is parsed from where they left
  have hreads : s5ParseReads s5Init (t.appReads ++ [data]) = s5Parse t.parser data := by
    rw [s5ParseReads_concat (by rw [hparse]), hparse]
  have hstep : (handshakeMachine cfg ci).step t (.appRead data) =
      handshakeParsed { t with incomingReading := false, appReads := t.appReads ++ [data] }
        (s5Parse t.parser data) := by
    simp only [handshakeMachine, appReadDone, hs, doHandshake, hw, Bool.not_false, Bool.and_self,
      assert_true]
  rw [hstep]
  generalize hr : s5Parse t.parser data = r at hreads
  obtain ⟨err, cx', d⟩ := r
  rcases handshakeParsed_cases { t with incomingReading := false, appReads := t.appReads ++ [data] }
      ⟨err, cx', d⟩ with ⟨hok, h⟩ | h | ⟨herr, hd, hnone, h⟩ | h <;> rw [h]
  · -- `s5_ok`: the greeting goes on in the next read
    change err = .ok at hok
    have hd : d = [] := s5Parse_data_of_ok hr hok
    refine Inv.of_live ha ?_ (fun h' => absurd hsrv h')
    simp only [Live, owes]
    exact ⟨by rw [hreads, hok, hd], happ, hsrv, by simp [hw, hres, hcon, how]⟩
  · exact Inv.of_stopped ha hsrv (.inl rfl)
  · -- the greeting offered no authentication: `05 00`
    change err = .authSelect at herr
    change d = [] at hd
    refine Inv.of_live (by simp [writeApp, assert, ha, hw]) ?_ (fun h' => absurd hsrv h')
    simp only [Live, writeApp, assert, owes]
    exact ⟨⟨cx', ⟨by rw [hreads, herr, hd], hnone⟩, rfl⟩,
      by simp [happ], hsrv, by simp [hres, hcon, how]⟩
  · refine Inv.of_live (by simp [writeApp, assert, ha, hw]) ?_ (fun h' => absurd hsrv h')
    simp only [Live, writeApp, assert, owes]
    exact ⟨.inl (by simp [happ]), hsrv, by simp [hres, hcon, how]⟩

/-- A read of the request. -/
theorem inv_requestRead {t : HandshakeTunnel σ} (ha : t.assertFailed = false) (hs : t.stage = .s5Request)
    (hl : t.Live ci) (data : List UInt8) :
    ((handshakeMachine cfg ci).step t (.appRead data)).Inv ci := by
  unfold Live at hl
  rw [hs] at hl
  obtain ⟨⟨g, q, cxG, hreads₀, hG, hq⟩, hreq, happ, hsrv, howes⟩ := hl
  simp only [owes, Prod.mk.injEq] at howes
  obtain ⟨-, hw, hres, hcon, how⟩ := howes
  have hreads : s5ParseReads (s5SelectAuth cxG .none).2 (q ++ [data]) = s5Parse t.parser data := by
    rw [s5ParseReads_concat (by rw [hq]), hq]
  have hstep : (handshakeMachine cfg ci).step t (.appRead data) =
      requestParsed cfg ci { t with incomingReading := false, appReads := t.appReads ++ [data] }
        (s5Parse t.parser data) := by
    simp only [handshakeMachine, appReadDone, hs, doParseS5Request, hw, how, Bool.not_false,
      Bool.and_self, assert_true]
  rw [hstep]
  generalize hr : s5Parse t.parser data = r at hreads
  obtain ⟨err, cx', d⟩ := r
  have hst := s5Parse_request_state hreq hr
  have hg : t.appReads ++ [data] = g ++ (q ++ [data]) := by rw [hreads₀, List.append_assoc]
  rcases requestParsed_cases cfg ci { t with incomingReading := false, appReads := t.appReads ++ [data] }
      ⟨err, cx', d⟩ with ⟨hok, h⟩ | h | ⟨pkg, h⟩ | h | ⟨herr, hd, hbind, hudp, h⟩ <;> rw [h]
  · -- `s5_ok`: the request goes on in the next read
    change err = .ok at hok
    have hd : d = [] := s5Parse_data_of_ok hr hok
    refine Inv.of_live ha ?_ (fun h' => absurd hsrv h')
    simp only [Live, owes]
    exact ⟨⟨g, q ++ [data], cxG, hg, hG, by rw [hreads, hok, hd]⟩, hst.1 hok, happ, hsrv,
      by simp [hw, hres, hcon, how]⟩
  · exact Inv.of_stopped ha hsrv (.inl rfl)
  · -- UDP ASSOCIATE: the reply
    refine Inv.of_live (by simp [writeApp, assert, ha, hw]) ?_ (fun h' => absurd hsrv h')
    simp only [Live, writeApp, assert, owes]
    exact ⟨⟨pkg, by simp [happ]⟩, hsrv, by simp [hres, hcon, how]⟩
  · exact Inv.of_stopped ha hsrv (.inr rfl)
  · -- CONNECT: the command is known, so the `ASSERT` holds
    change err = .execCmd at herr
    change d = [] at hd
    have hcmd : cx'.cmd = some .tcpConnect := by
      have hsome := hst.2 herr
      cases hc : cx'.cmd with
      | none => simp [hc] at hsome
      | some c => cases c <;> simp_all
    have hconn : Connecting
        { t with incomingReading := false, appReads := t.appReads ++ [data], parser := cx',
                 initPkg := SockAddr.initialPackageCreate cx',
                 cipher := some (ci.start (SockAddr.initialPackageCreate cx')) } :=
      ⟨g, q ++ [data], cxG, cx', hg, hG, by rw [hreads, herr, hd], hcmd, happ, rfl⟩
    simp only [hcmd, beq_self_eq_true, assert_true]
    by_cases htls : cfg.overTlsEnable = true
    · rw [if_pos htls]
      refine Inv.of_live ha ?_ (fun h' => absurd hsrv h')
      simp only [Live, owes]
      exact ⟨hconn.congr rfl rfl rfl, trivial, hsrv, by simp [hw, hres, hcon, how]⟩
    rw [if_neg htls]
    by_cases hra : cfg.remoteIsAddress = true
    · rw [if_pos hra]
      rcases @doConnectSsrServer_cases σ cfg
          { t with incomingReading := false, appReads := t.appReads ++ [data], parser := cx',
                   initPkg := SockAddr.initialPackageCreate cx',
                   cipher := some (ci.start (SockAddr.initialPackageCreate cx')) }
          ⟨rfl, hw, how⟩ with h' | h' | h' <;> rw [h']
      · -- `can_access` refuses the server's address
        refine Inv.of_live (by simp [writeApp, assert, ha, hw]) ?_ (fun h' => absurd hsrv h')
        simp only [Live, writeApp, assert, owes]
        exact ⟨.inr (by simp [happ]), hsrv, by simp [hres, hcon, how]⟩
      · exact Inv.of_stopped ha hsrv (.inl rfl)
      · refine Inv.of_live ha ?_ (fun h' => absurd hsrv h')
        simp only [Live, owes]
        exact ⟨hconn.congr rfl rfl rfl, trivial, hsrv, by simp [hw, hres, how]⟩
    · rw [if_neg hra]
      refine Inv.of_live ha ?_ (fun h' => absurd hsrv h')
      simp only [Live, owes]
      exact ⟨hconn.congr rfl rfl rfl, trivial, hsrv, by simp [hw, hcon, how]⟩


theorem inv_appRead {t : HandshakeTunnel σ} (hi : t.Inv ci) {data : List UInt8}
    (he : (handshakeMachine cfg ci).enabled t (.appRead data)) :
    ((handshakeMachine cfg ci).step t (.appRead data)).Inv ci := by
  obtain ⟨hterm, hfault, hread, -⟩ := he
  have hl := hi.2.2 hterm hfault
  cases hs : t.stage with
  | handshake => exact inv_greetingRead cfg hi.1 hs hl data
  | s5Request => exact inv_requestRead cfg hi.1 hs hl data
  | _ =>
    -- the other stages do not read the application
    unfold Live at hl
    rw [hs] at hl
    simp [owes, hread] at hl

/-- The write of a reply to the application is done: after `05 00` the request is read, after
any other reply the tunnel is shut down. -/
theorem inv_appWritten {t : HandshakeTunnel σ} (hi : t.Inv ci)
    (he : (handshakeMachine cfg ci).enabled t .appWritten) :
    ((handshakeMachine cfg ci).step t .appWritten).Inv ci := by
  obtain ⟨hterm, hfault, hwrite⟩ := he
  have hl := hi.2.2 hterm hfault
  unfold Live at hl
  cases hs : t.stage with
  | handshakeReplied =>
    rw [hs] at hl
    obtain ⟨⟨cxG, hG, hp⟩, happ, hsrv, howes⟩ := hl
    simp only [owes, Prod.mk.injEq] at howes
    obtain ⟨hrd, -, hres, hcon, how⟩ := howes
    have hstep : (handshakeMachine cfg ci).step t .appWritten =
        { t with incomingWriting := false, incomingReading := true, stage := .s5Request } := by
      simp only [handshakeMachine, appWriteDone, hs, doWaitS5Request, hrd, Bool.not_false,
        Bool.and_self, assert_true]
    rw [hstep]
    refine Inv.of_live hi.1 ?_ (fun h' => absurd hsrv h')
    simp only [Live, owes]
    exact ⟨⟨t.appReads, [], cxG, by simp, hG, by rw [hp]; rfl⟩, by rw [hp]; exact .inl rfl, happ,
      hsrv, by simp [hres, hcon, how]⟩
  | s5UdpAssoc =>
    rw [hs] at hl
    have hstep : (handshakeMachine cfg ci).step t .appWritten =
        ({ t with incomingWriting := false } : HandshakeTunnel σ).shutdown := by
      simp only [handshakeMachine, appWriteDone, hs]
    rw [hstep]
    exact Inv.of_stopped hi.1 hl.2.1 (.inl rfl)
  | kill =>
    rw [hs] at hl
    have hstep : (handshakeMachine cfg ci).step t .appWritten =
        ({ t with incomingWriting := false } : HandshakeTunnel σ).shutdown := by
      simp only [handshakeMachine, appWriteDone, hs]
    rw [hstep]
    exact Inv.of_stopped hi.1 hl.2.1 (.inl rfl)
  | _ =>
    -- the other stages write nothing to the application
    rw [hs] at hl
    simp [owes, hwrite] at hl

/-- The server's name is resolved: the connect follows. -/
theorem inv_resolved {t : HandshakeTunnel σ} (hi : t.Inv ci)
    (he : (handshakeMachine cfg ci).enabled t .resolved) :
    ((handshakeMachine cfg ci).step t .resolved).Inv ci := by
  obtain ⟨hterm, hfault, hres⟩ := he
  have hl := hi.2.2 hterm hfault
  unfold Live at hl
  cases hs : t.stage with
  | resolveSsrServerHostDone =>
    rw [hs] at hl
    obtain ⟨hconn, hcip, hsrv, howes⟩ := hl
    simp only [owes, Prod.mk.injEq] at howes
    obtain ⟨hrd, hw, -, hcon, how⟩ := howes
    have hstep : (handshakeMachine cfg ci).step t .resolved =
        doConnectSsrServer cfg { t with resolving := false } := by
      simp only [handshakeMachine, serverResolved, hs, doResolveSsrServerHostAftercare, hrd, hw, how,
        Bool.not_false, Bool.and_self, assert_true]
    rw [hstep]
    rcases @doConnectSsrServer_cases σ cfg { t with resolving := false } ⟨hrd, hw, how⟩ with h | h | h <;>
      rw [h]
    · -- `can_access` refuses the server's address
      obtain ⟨-, -, -, -, -, -, -, -, happ, -⟩ := hconn
      refine Inv.of_live (by simp [writeApp, assert, hi.1, hw]) ?_ (fun h' => absurd hsrv h')
      simp only [Live, writeApp, assert, owes]
      exact ⟨.inr (by simp [happ]), hsrv, by simp [hrd, hcon, how]⟩
    · exact Inv.of_stopped hi.1 hsrv (.inl rfl)
    · refine Inv.of_live hi.1 ?_ (fun h' => absurd hsrv h')
      simp only [Live, owes]
      exact ⟨hconn.congr rfl rfl rfl, hcip, hsrv, by simp [hrd, hw, how]⟩
  | _ =>
    -- no other stage looks a name up
    rw [hs] at hl
    simp [owes, hres] at hl

/-- The connection to the server is made: the auth packet is written to it. -/
theorem inv_connected {t : HandshakeTunnel σ} (hi : t.Inv ci)
    (he : (handshakeMachine cfg ci).enabled t .connected) :
    ((handshakeMachine cfg ci).step t .connected).Inv ci := by
  obtain ⟨hterm, hfault, hcon⟩ := he
  have hl := hi.2.2 hterm hfault
  unfold Live at hl
  cases hs : t.stage with
  | connectingSsrServer =>
    rw [hs] at hl
    obtain ⟨hconn, hcip, hsrv, howes⟩ := hl
    simp only [owes, Prod.mk.injEq] at howes
    obtain ⟨hrd, hw, hres, -, how⟩ := howes
    have hstep : (handshakeMachine cfg ci).step t .connected =
        match ci.encrypt (ci.start t.initPkg) t.initPkg with
        | (st, none) => ({ t with connecting := false, cipher := some st } : HandshakeTunnel σ).shutdown
        | (st, some pkt) =>
          { t with connecting := false, cipher := some st, toServer := t.toServer ++ [pkt],
                   outgoingWriting := true, stage := .ssrAuthSent } := by
      simp only [handshakeMachine, serverConnected, hs, doConnectSsrServerDone, hrd, hw, how, hcip,
        Bool.not_false, Bool.and_self, assert_true]
    rw [hstep]
    cases henc : ci.encrypt (ci.start t.initPkg) t.initPkg with
    | mk st o =>
      cases o with
      | none => exact Inv.of_stopped hi.1 hsrv (.inl rfl)
      | some pkt =>
        refine Inv.of_live hi.1 ?_ (fun _ => rfl)
        simp only [Live, owes]
        exact ⟨hconn.congr rfl rfl rfl, ⟨st, pkt, henc, rfl, by simp [hsrv]⟩, by simp [hrd, hw, hres]⟩
  | _ =>
    -- no other stage connects
    rw [hs] at hl
    simp [owes, hcon] at hl

theorem inv_step {t : HandshakeTunnel σ} (hi : t.Inv ci) {e : HandshakeEvent}
    (he : (handshakeMachine cfg ci).enabled t e) : ((handshakeMachine cfg ci).step t e).Inv ci := by
  cases e with
  | appRead data => exact inv_appRead cfg hi he
  | appWritten => exact inv_appWritten cfg hi he
  | resolved => exact inv_resolved cfg hi he
  | connected => exact inv_connected cfg hi he

theorem inv_start : (start : HandshakeTunnel σ).Inv ci := by
  refine Inv.of_live rfl ?_ (fun h => absurd rfl h)
  simp [Live, start, owes, s5ParseReads]

/-- Every state a client tunnel reaches from its first read to the auth packet. -/
theorem inv_reach {t : HandshakeTunnel σ} (ht : (handshakeMachine cfg ci).Reach (· = start) t) :
    t.Inv ci :=
  Machine.Reach.inv (Inv ci) (fun _ h => by subst h; exact inv_start)
    (fun _ _ _ hi he => inv_step cfg hi he) ht


/-- **The server gets only a CONNECT request's header.** In every run, whatever the cipher, the
configuration and the order of events, every `ASSERT` has held, and a tunnel that has written
to the server has written one packet, in `tunnel_stage_ssr_auth_sent`:
`tunnel_cipher_client_encrypt` of the header `initial_package_create` made from a CONNECT
request read whole after a whole greeting that offered no authentication, the application
having been answered `05 00` and nothing else. -/
theorem client_writes_the_server_only_a_connect_header {t : HandshakeTunnel σ}
    (ht : (handshakeMachine cfg ci).Reach (· = start) t) (hs : t.toServer ≠ []) :
    t.stage = .ssrAuthSent ∧ t.assertFailed = false ∧
      ∃ g q cxG cxR st pkt, t.appReads = g ++ q ∧
        s5ParseReads s5Init g = ⟨.authSelect, cxG, []⟩ ∧ cxG.methods &&& S5AuthMethod.none.bit ≠ 0 ∧
        s5ParseReads (s5SelectAuth cxG .none).2 q = ⟨.execCmd, cxR, []⟩ ∧ cxR.cmd = some .tcpConnect ∧
        t.toApp = [[5, 0]] ∧ t.initPkg = SockAddr.initialPackageCreate cxR ∧
        ci.encrypt (ci.start t.initPkg) t.initPkg = (st, some pkt) ∧ t.toServer = [pkt] := by
  obtain ⟨ha, hsent, -⟩ := inv_reach cfg ht
  obtain ⟨hstage, hl⟩ := hsent hs
  unfold Live at hl
  rw [hstage] at hl
  obtain ⟨⟨g, q, cxG, cxR, hreads, ⟨hG, hnone⟩, hq, hcmd, happ, hinit⟩, ⟨st, pkt, henc, -, hsrv⟩, -⟩ := hl
  exact ⟨hstage, ha, g, q, cxG, cxR, st, pkt, hreads, hG, hnone, hq, hcmd, happ, hinit, henc, hsrv⟩

/-- **Every event meets a stage that handles it.** In every run, whatever the cipher, the
configuration and the order of events, no `ASSERT` of the handshake fails: a read of the
application comes in a stage that parses it, every write completes in a stage that waits for
it, and a CONNECT's command is known when `do_parse_s5_request` asserts it. -/
theorem client_handshake_asserts_hold {t : HandshakeTunnel σ}
    (ht : (handshakeMachine cfg ci).Reach (· = start) t) : t.assertFailed = false :=
  (inv_reach cfg ht).1

end HandshakeTunnel

/-! ## A run -/

/-- The cipher that leaves the auth packet as it is. -/
def plainCipher : HandshakeCipher Unit := ⟨(), fun _ _ => (), fun _ buf => ((), some buf)⟩

/-- A configuration whose server is an address that `can_access` admits and connects. -/
def sampleClientConfig : ClientConfig := ⟨true, true, true, false, none, 0, false⟩

/-- Greeting `05 01 00`, its reply written, CONNECT 127.0.0.1:80, and the connect. -/
def sampleConnectRun : HandshakeTunnel Unit :=
  let M := handshakeMachine sampleClientConfig plainCipher
  M.step (M.step (M.step (M.step .start (.appRead [5, 1, 0])) .appWritten)
    (.appRead [5, 1, 0, 1, 127, 0, 0, 1, 0, 80])) .connected

theorem sampleConnectRun_reach :
    (handshakeMachine sampleClientConfig plainCipher).Reach (· = .start) sampleConnectRun := by
  unfold sampleConnectRun
  exact .step _ (.step _ (.step _ (.step _ (.init rfl) ⟨rfl, rfl, rfl, by decide⟩) ⟨rfl, rfl, rfl⟩)
    ⟨rfl, rfl, rfl, by decide⟩) ⟨rfl, rfl, rfl⟩

theorem sample_connect_writes_its_header :
    sampleConnectRun.stage = .ssrAuthSent ∧ sampleConnectRun.assertFailed = false ∧
      ∃ g q cxG cxR st pkt, sampleConnectRun.appReads = g ++ q ∧
        s5ParseReads s5Init g = ⟨.authSelect, cxG, []⟩ ∧ cxG.methods &&& S5AuthMethod.none.bit ≠ 0 ∧
        s5ParseReads (s5SelectAuth cxG .none).2 q = ⟨.execCmd, cxR, []⟩ ∧ cxR.cmd = some .tcpConnect ∧
        sampleConnectRun.toApp = [[5, 0]] ∧ sampleConnectRun.initPkg = SockAddr.initialPackageCreate cxR ∧
        plainCipher.encrypt (plainCipher.start sampleConnectRun.initPkg) sampleConnectRun.initPkg =
          (st, some pkt) ∧ sampleConnectRun.toServer = [pkt] :=
  HandshakeTunnel.client_writes_the_server_only_a_connect_header sampleClientConfig
    sampleConnectRun_reach (by decide)

theorem sample_connect_asserts_hold : sampleConnectRun.assertFailed = false :=
  HandshakeTunnel.client_handshake_asserts_hold sampleClientConfig sampleConnectRun_reach

/-! ## The reads of one phase -/

section Runs

variable {σ : Type} (cfg : ClientConfig) (ci : HandshakeCipher σ)

/-- What `do_next` does with a read of the application once `s5_parse` has returned `r`. -/
def readParsed (t : HandshakeTunnel σ) (r : S5Parsed) : HandshakeTunnel σ :=
  match t.stage with
  | .handshake => handshakeParsed t r
  | .s5Request => requestParsed cfg ci t r
  | _ => t.assert false

/-- A live tunnel in a stage that reads the application, owing that read only. -/
def Reading (t : HandshakeTunnel σ) : Prop :=
  (t.stage = .handshake ∨ t.stage = .s5Request) ∧ t.terminated = false ∧ t.faulted = false ∧
    t.owes = (true, false, false, false, false)

theorem Reading.owes {t : HandshakeTunnel σ} (ht : Reading t) :
    t.incomingReading = true ∧ t.incomingWriting = false ∧ t.resolving = false ∧ t.connecting = false ∧
      t.outgoingWriting = false := by
  simpa only [HandshakeTunnel.owes, Prod.mk.injEq] using ht.2.2.2

/-- `do_next` sets the parser from the read, so what it was before does not matter. -/
theorem readParsed_congr {u v : HandshakeTunnel σ} (hs : u.stage = .handshake ∨ u.stage = .s5Request)
    (h : { u with parser := v.parser } = v) (r : S5Parsed) :
    readParsed cfg ci u r = readParsed cfg ci v r := by
  rw [← h]
  cases u with
  | mk stage =>
    simp only at hs
    rcases hs with rfl | rfl <;> rfl

theorem step_appRead {t : HandshakeTunnel σ} (ht : Reading t) (data : List UInt8) :
    (handshakeMachine cfg ci).step t (.appRead data) =
      readParsed cfg ci { t with incomingReading := false, appReads := t.appReads ++ [data] }
        (s5Parse t.parser data) := by
  obtain ⟨-, hw, -, -, how⟩ := ht.owes
  rcases ht.1 with hs | hs <;>
    simp only [handshakeMachine, appReadDone, readParsed, hs, doHandshake, doParseS5Request, hw, how,
      Bool.not_false, Bool.and_self, HandshakeTunnel.assert_true]

theorem readParsed_ok {t : HandshakeTunnel σ} (hs : t.stage = .handshake ∨ t.stage = .s5Request)
    {r : S5Parsed} (hok : r.err = .ok) :
    readParsed cfg ci t r = { t with parser := r.cx, incomingReading := true } := by
  cases t with
  | mk stage =>
    simp only at hs
    rcases hs with rfl | rfl <;> simp [readParsed, handshakeParsed, requestParsed, hok]

theorem Reading.enabled {t : HandshakeTunnel σ} (ht : Reading t) {data : List UInt8} (hd : data ≠ []) :
    (handshakeMachine cfg ci).enabled t (.appRead data) :=
  ⟨ht.2.1, ht.2.2.1, ht.owes.1, hd⟩

/-- **The reads of one phase.** Reads of the application that make up what the parser takes in
one call, cut where it keeps no byte in `port`, are taken one by one with `s5_ok` until the
last, which `do_next` handles as `s5_parse` called read by read has returned. -/
theorem trace_reads : ∀ {rs : List (List UInt8)} {t : HandshakeTunnel σ} {err : S5Err} {cx' : S5Ctx},
    Reading t → rs ≠ [] → (∀ r ∈ rs, r ≠ []) → s5Parse t.parser rs.flatten = ⟨err, cx', []⟩ →
      CutFree t.parser rs →
      (handshakeMachine cfg ci).Trace t (rs.map .appRead)
        (readParsed cfg ci { t with incomingReading := false, appReads := t.appReads ++ rs }
          (s5ParseReads t.parser rs)) := by
  intro rs
  induction rs with
  | nil => intro _ _ _ _ h _; exact absurd rfl h
  | cons r rs ih =>
    intro t err cx' ht _ hne h hcut
    have henab := ht.enabled cfg ci (hne r List.mem_cons_self)
    cases rs with
    | nil =>
      rw [List.flatten_cons, List.flatten_nil, List.append_nil] at h
      have hone : s5ParseReads t.parser [r] = s5Parse t.parser r := by
        simp only [s5ParseReads, h]
        split <;> simp_all
      rw [List.map_singleton, hone, ← step_appRead cfg ci ht r]
      exact .single henab
    | cons r' rs' =>
      obtain ⟨hr, h', hcut'⟩ := s5Parse_cons_of_cutFree hne h hcut
      have hstep : (handshakeMachine cfg ci).step t (.appRead r) =
          { t with appReads := t.appReads ++ [r], parser := (s5Parse t.parser r).cx } := by
        rw [step_appRead cfg ci ht r,
          readParsed_ok cfg ci (t := { t with incomingReading := false, appReads := t.appReads ++ [r] }) ht.1 (by rw [hr])]
        have hreading := ht.owes.1
        cases t
        simp only at hreading
        subst hreading
        rfl
      have ht₁ : Reading { t with appReads := t.appReads ++ [r], parser := (s5Parse t.parser r).cx } := ht
      have hrest := ih ht₁ (by simp) (fun x hx => hne x (List.mem_cons_of_mem r hx)) h' hcut'
      refine .cons henab ?_
      rw [hstep, s5ParseReads_cons_ok (by rw [hr])]
      convert hrest using 1
      refine (readParsed_congr cfg ci ?_ ?_ _).symm
      · exact ht.1
      · simp

theorem addMethod_keeps_none (m : Nat) (c : UInt8) (h : m &&& S5AuthMethod.none.bit ≠ 0) :
    addMethod m c &&& S5AuthMethod.none.bit ≠ 0 := by
  simp only [S5AuthMethod.bit, Nat.and_one_is_mod] at h ⊢
  unfold addMethod
  split <;> simp_all [S5AuthMethod.bit, Nat.or_mod_two_eq_one]

theorem foldl_addMethod_keeps_none (ms : List UInt8) {m : Nat} (h : m &&& S5AuthMethod.none.bit ≠ 0) :
    ms.foldl addMethod m &&& S5AuthMethod.none.bit ≠ 0 := by
  induction ms generalizing m with
  | nil => exact h
  | cons c ms ih => exact ih (addMethod_keeps_none m c h)

/-- A greeting that lists method 0 offers no authentication. -/
theorem foldl_addMethod_none {ms : List UInt8} (h0 : (0 : UInt8) ∈ ms) (m : Nat) :
    ms.foldl addMethod m &&& S5AuthMethod.none.bit ≠ 0 := by
  induction ms generalizing m with
  | nil => simp at h0
  | cons c ms ih =>
    rw [List.foldl_cons]
    by_cases hc : c = 0
    · subst hc
      refine foldl_addMethod_keeps_none ms ?_
      simp [addMethod, S5AuthMethod.bit, Nat.and_one_is_mod, Nat.or_mod_two_eq_one]
    · exact ih (by simpa [Ne.symm hc] using h0) _

/-- A method byte other than 0 does not add "no authentication". -/
theorem addMethod_keeps_no_none (m : Nat) {c : UInt8} (hc : c ≠ 0) (h : m &&& S5AuthMethod.none.bit = 0) :
    addMethod m c &&& S5AuthMethod.none.bit = 0 := by
  simp only [S5AuthMethod.bit, Nat.and_one_is_mod] at h ⊢
  -- the other methods' bits are even, so `|||` keeps the low bit clear
  have hor : ∀ k, k % 2 = 0 → (m ||| k) % 2 = 0 := fun k hk => by
    have h1 := @Nat.or_mod_two_eq_one m k
    have h2 := Nat.mod_two_eq_zero_or_one (m ||| k)
    omega
  unfold addMethod
  split
  · exact absurd rfl hc
  · exact hor 2 rfl
  · exact hor 4 rfl
  · exact h

/-- A greeting that does not list method 0 does not offer "no authentication". -/
theorem foldl_addMethod_no_none {ms : List UInt8} (h0 : (0 : UInt8) ∉ ms) {m : Nat}
    (h : m &&& S5AuthMethod.none.bit = 0) : ms.foldl addMethod m &&& S5AuthMethod.none.bit = 0 := by
  induction ms generalizing m with
  | nil => exact h
  | cons c ms ih =>
    rw [List.mem_cons, not_or] at h0
    exact ih h0.2 (addMethod_keeps_no_none m (Ne.symm h0.1) h)

/-- A greeting read in any pieces from `init_done_cb`'s tunnel: each read is taken in turn, and
the last is handled as `s5_parse`'s `s5_auth_select` on the whole greeting. -/
theorem trace_greeting {gs : List (List UInt8)} {ms : List UInt8} (hms : ms ≠ []) (hlen : ms.length ≤ 255)
    (hgs : gs.flatten = [5, ms.length.toUInt8] ++ ms) (hgne : ∀ r ∈ gs, r ≠ []) :
    (handshakeMachine cfg ci).Trace HandshakeTunnel.start (gs.map .appRead)
      (readParsed cfg ci
        { (HandshakeTunnel.start : HandshakeTunnel σ) with
          incomingReading := false, appReads := (HandshakeTunnel.start : HandshakeTunnel σ).appReads ++ gs }
        ⟨.authSelect, { s5Init with state := .methods, methods := ms.foldl addMethod 0,
                                    arg0 := ms.length, arg1 := ms.length }, []⟩) := by
  have hgs' : gs ≠ [] := by rintro rfl; simp at hgs
  have hp : s5Parse s5Init gs.flatten =
      ⟨.authSelect, { s5Init with state := .methods, methods := ms.foldl addMethod 0,
                                  arg0 := ms.length, arg1 := ms.length }, []⟩ := by
    rw [hgs, ← List.append_nil ([5, ms.length.toUInt8] ++ ms)]
    exact s5Parse_greeting ms [] hms hlen
  have hcut := cutFree_of_greeting (.inl rfl) hgne hp
  have tr := trace_reads cfg ci (t := HandshakeTunnel.start) ⟨.inl rfl, rfl, rfl, rfl⟩ hgs' hgne hp hcut
  rw [show (HandshakeTunnel.start : HandshakeTunnel σ).parser = s5Init from rfl,
    s5ParseReads_flatten hgne hp (by decide) hcut] at tr
  exact tr

/-- The events of the connection to the server once the request is read: its name resolved
unless it is an address, then the connection made. -/
def connectEvents (cfg : ClientConfig) : List HandshakeEvent :=
  if cfg.remoteIsAddress then [.connected] else [.resolved, .connected]

/-- The events that take a parsed CONNECT to `do_connect_ssr_server`: the server's name
resolved, unless it is an address. -/
def resolveEvents (cfg : ClientConfig) : List HandshakeEvent :=
  if cfg.remoteIsAddress then [] else [.resolved]

theorem connectEvents_eq (cfg : ClientConfig) : connectEvents cfg = resolveEvents cfg ++ [.connected] := by
  unfold connectEvents resolveEvents
  split <;> rfl

/-- A CONNECT parsed whole: `init_pkg` and the cipher context are made, and once the server's
name is resolved, unless it is an address, `do_connect_ssr_server` runs. -/
theorem trace_resolve (p : S5Ctx) (reads out : List (List UInt8)) {cx : S5Ctx} (hcmd : cx.cmd = some .tcpConnect)
    (htls : cfg.overTlsEnable = false) :
    ∃ stage, (handshakeMachine cfg ci).Trace
      (readParsed cfg ci ⟨.s5Request, p, none, [], false, false, false, false, false, false, false, false, reads,
        out, []⟩ ⟨.execCmd, cx, []⟩)
      (resolveEvents cfg)
      (doConnectSsrServer cfg ⟨stage, cx, some (ci.start (SockAddr.initialPackageCreate cx)),
        SockAddr.initialPackageCreate cx, false, false, false, false, false, false, false, false, reads, out, []⟩) := by
  let I := SockAddr.initialPackageCreate cx
  cases hra : cfg.remoteIsAddress
  · -- the server's name is resolved first
    refine ⟨.resolveSsrServerHostDone, ?_⟩
    let t₃ : HandshakeTunnel σ := ⟨.resolveSsrServerHostDone, cx, some (ci.start I), I, false, false, true, false,
      false, false, false, false, reads, out, []⟩
    have ht₃ : readParsed cfg ci ⟨.s5Request, p, none, [], false, false, false, false, false, false, false, false,
        reads, out, []⟩ ⟨.execCmd, cx, []⟩ = t₃ := by
      simp [t₃, I, readParsed, requestParsed, hcmd, htls, hra, HandshakeTunnel.assert]
    have hres : (handshakeMachine cfg ci).step t₃ .resolved = doConnectSsrServer cfg ⟨.resolveSsrServerHostDone,
        cx, some (ci.start I), I, false, false, false, false, false, false, false, false, reads, out, []⟩ := by
      simp [t₃, handshakeMachine, serverResolved, doResolveSsrServerHostAftercare, HandshakeTunnel.assert]
    rw [ht₃, resolveEvents, hra, ← hres]
    exact .single ⟨rfl, rfl, rfl⟩
  · refine ⟨.s5Request, ?_⟩
    have ht₃ : readParsed cfg ci ⟨.s5Request, p, none, [], false, false, false, false, false, false, false, false,
        reads, out, []⟩ ⟨.execCmd, cx, []⟩ = doConnectSsrServer cfg ⟨.s5Request, cx, some (ci.start I), I, false,
        false, false, false, false, false, false, false, reads, out, []⟩ := by
      simp [I, readParsed, requestParsed, hcmd, htls, hra, HandshakeTunnel.assert]
    rw [ht₃, resolveEvents, hra]
    exact .nil _

/-- **A CONNECT parsed whole reaches the server.** `init_pkg` and the cipher context are made,
the server's name resolved unless it is an address, and once it is connected the auth packet is
written. -/
theorem trace_connect (p : S5Ctx) (reads out : List (List UInt8)) {cx : S5Ctx} (hcmd : cx.cmd = some .tcpConnect)
    (htls : cfg.overTlsEnable = false) (hacc : cfg.canAccess = true) (hconn : cfg.connects = true)
    {st : σ} {pkt : List UInt8}
    (hst : ci.encrypt (ci.start (SockAddr.initialPackageCreate cx)) (SockAddr.initialPackageCreate cx) =
      (st, some pkt)) :
    (handshakeMachine cfg ci).Trace
      (readParsed cfg ci ⟨.s5Request, p, none, [], false, false, false, false, false, false, false, false, reads,
        out, []⟩ ⟨.execCmd, cx, []⟩)
      (connectEvents cfg)
      ⟨.ssrAuthSent, cx, some st, SockAddr.initialPackageCreate cx, false, false, false, false, true, false, false,
        false, reads, out, [pkt]⟩ := by
  let I := SockAddr.initialPackageCreate cx
  let t₄ : HandshakeTunnel σ := ⟨.connectingSsrServer, cx, some (ci.start I), I, false, false, false, true,
    false, false, false, false, reads, out, []⟩
  obtain ⟨stage, tr₃⟩ := trace_resolve cfg ci p reads out hcmd htls
  -- `can_access` admits the server and `socket_connect` goes ahead, whatever the stage was
  have hconnect : doConnectSsrServer cfg ⟨stage, cx, some (ci.start I), I, false, false, false, false, false, false,
      false, false, reads, out, []⟩ = t₄ := by
    simp [t₄, doConnectSsrServer, hacc, hconn, HandshakeTunnel.assert]
  have hstep : (handshakeMachine cfg ci).step t₄ .connected = ⟨.ssrAuthSent, cx, some st, I, false, false,
      false, false, true, false, false, false, reads, out, [pkt]⟩ := by
    simp [t₄, I, handshakeMachine, serverConnected, doConnectSsrServerDone, hst, HandshakeTunnel.assert]
  rw [hconnect] at tr₃
  rw [connectEvents_eq, ← hstep]
  exact tr₃.append (.single ⟨rfl, rfl, rfl⟩)

/-- A greeting that offers no authentication and a request, each read in any pieces, the
request's last at least two bytes long: `05 00` is written, and the request's last read is
handled as `s5_parse`'s `s5_exec_cmd` on the whole request. -/
theorem trace_request {gs rs : List (List UInt8)} {ms : List UInt8}
    (hms : ms ≠ []) (hlen : ms.length ≤ 255) (h0 : (0 : UInt8) ∈ ms)
    (hgs : gs.flatten = [5, ms.length.toUInt8] ++ ms) (hgne : ∀ r ∈ gs, r ≠ [])
    {cmd : UInt8} {c : S5Cmd} (hc : cmdOf cmd = some c)
    {rsv : UInt8} {a : S5Atyp} {addr : List UInt8} (hfit : AddrFits a addr) (hne : addr ≠ [])
    {p0 p1 : UInt8} (hrs : rs.flatten = requestBytes cmd rsv a addr p0 p1) (hrne : ∀ r ∈ rs, r ≠ [])
    (hlast : ∀ r ∈ rs.getLast?, 2 ≤ r.length) :
    ∃ p cx : S5Ctx, cx.cmd = some c ∧ cx.atyp = some a ∧
      cx.daddr.toList.take (addr.length + 1) = addr ++ [0] ∧ cx.dport = p0.toNat * 256 + p1.toNat ∧
      (handshakeMachine cfg ci).Trace HandshakeTunnel.start (gs.map .appRead ++ .appWritten :: rs.map .appRead)
        (readParsed cfg ci ⟨.s5Request, p, none, [], false, false, false, false, false, false, false, false,
          gs ++ rs, [[5, 0]], []⟩ ⟨.execCmd, cx, []⟩) := by
  -- the greeting, read in the pieces `gs`
  have tr₁ := trace_greeting cfg ci hms hlen hgs hgne
  set cxG : S5Ctx := { s5Init with state := .methods, methods := ms.foldl addMethod 0,
                                   arg0 := ms.length, arg1 := ms.length }
  have hbit : cxG.methods &&& S5AuthMethod.none.bit ≠ 0 := foldl_addMethod_none h0 0
  -- `05 00` is written, and once it is the request is read
  have ht₁ : readParsed cfg ci
      { (HandshakeTunnel.start : HandshakeTunnel σ) with
        incomingReading := false, appReads := (HandshakeTunnel.start : HandshakeTunnel σ).appReads ++ gs }
      ⟨.authSelect, cxG, []⟩ =
      ⟨.handshakeReplied, (s5SelectAuth cxG .none).2, none, [], false, true, false, false, false, false,
        false, false, gs, [[5, 0]], []⟩ := by
    simp [readParsed, HandshakeTunnel.start, handshakeParsed, hbit, canAuthNone, HandshakeTunnel.writeApp,
      HandshakeTunnel.assert]
  rw [ht₁] at tr₁
  -- the request, read in the pieces `rs`
  have hrs' : rs ≠ [] := by rintro rfl; simp [requestBytes] at hrs
  obtain ⟨hexec, hdata, hcmd, hatyp, hdaddr, hdport⟩ :=
    s5Parse_request (show (s5SelectAuth cxG .none).2.state = .reqVersion from rfl) hc rsv hfit hne p0 p1 []
  rw [List.append_nil, ← hrs] at hexec hdata hcmd hatyp hdaddr hdport
  set cxR := (s5Parse (s5SelectAuth cxG .none).2 rs.flatten).cx
  have hp₂ : s5Parse (s5SelectAuth cxG .none).2 rs.flatten = ⟨.execCmd, cxR, []⟩ := by
    rw [← hexec, ← hdata]
  let t₂ : HandshakeTunnel σ := ⟨.s5Request, (s5SelectAuth cxG .none).2, none, [], true, false, false, false,
    false, false, false, false, gs, [[5, 0]], []⟩
  have hcut := cutFree_of_last hrne hlast hp₂
  have tr₂ := trace_reads cfg ci (t := t₂) ⟨.inr rfl, rfl, rfl, rfl⟩ hrs' hrne hp₂ hcut
  rw [s5ParseReads_flatten hrne hp₂ (by decide) hcut] at tr₂
  have hstep₂ : (handshakeMachine cfg ci).step ⟨.handshakeReplied, (s5SelectAuth cxG .none).2, none, [], false,
      true, false, false, false, false, false, false, gs, [[5, 0]], []⟩ .appWritten = t₂ := rfl
  exact ⟨_, cxR, hcmd, hatyp, hdaddr, hdport, tr₁.append (.cons ⟨rfl, rfl, rfl⟩ (by rw [hstep₂]; exact tr₂))⟩

/-- **The client reaches the server under every cut of its reads.** With `over_tls_enable` off,
a greeting that offers no authentication and a CONNECT request with a well-formed address, read
in any pieces (the last piece of the request at least two bytes long, so that the port is never
split), take the tunnel from `init_done_cb` to `ssr_auth_sent`: `05 00` is written to the application, and
once the server is reached the auth packet made from the request's `init_pkg` to the server. -/
theorem client_reaches_the_server_under_every_cut {gs rs : List (List UInt8)} {ms : List UInt8}
    (hms : ms ≠ []) (hlen : ms.length ≤ 255) (h0 : (0 : UInt8) ∈ ms)
    (hgs : gs.flatten = [5, ms.length.toUInt8] ++ ms) (hgne : ∀ r ∈ gs, r ≠ [])
    {rsv : UInt8} {a : S5Atyp} {addr : List UInt8} (hfit : AddrFits a addr) (hne : addr ≠ [])
    {p0 p1 : UInt8} (hrs : rs.flatten = requestBytes 1 rsv a addr p0 p1) (hrne : ∀ r ∈ rs, r ≠ [])
    (hlast : ∀ r ∈ rs.getLast?, 2 ≤ r.length)
    (htls : cfg.overTlsEnable = false) (hacc : cfg.canAccess = true) (hconn : cfg.connects = true)
    (henc : ∀ st pkg, (ci.encrypt st pkg).2.isSome) :
    ∃ t, (handshakeMachine cfg ci).Trace HandshakeTunnel.start
        (gs.map .appRead ++ .appWritten :: (rs.map .appRead ++ connectEvents cfg)) t ∧
      t.stage = .ssrAuthSent ∧ t.assertFailed = false ∧ t.appReads = gs ++ rs ∧
      t.toApp = [[5, 0]] ∧ t.toServer.length = 1 ∧
      ∃ cx : S5Ctx, cx.cmd = some .tcpConnect ∧ cx.atyp = some a ∧
        cx.daddr.toList.take (addr.length + 1) = addr ++ [0] ∧
        cx.dport = p0.toNat * 256 + p1.toNat ∧ t.initPkg = SockAddr.initialPackageCreate cx := by
  obtain ⟨p, cxR, hcmd, hatyp, hdaddr, hdport, tr₂⟩ :=
    trace_request cfg ci hms hlen h0 hgs hgne (show cmdOf 1 = some .tcpConnect from rfl) hfit hne hrs hrne hlast
  -- the request is a CONNECT: `init_pkg` and the cipher context are made, and the server reached
  obtain ⟨pkt, hpkt⟩ := Option.isSome_iff_exists.mp
    (henc (ci.start (SockAddr.initialPackageCreate cxR)) (SockAddr.initialPackageCreate cxR))
  have tr₃ := trace_connect cfg ci p (gs ++ rs) [[5, 0]] hcmd htls hacc hconn (Prod.ext rfl hpkt)
  have tr := tr₂.append tr₃
  rw [List.append_assoc, List.cons_append] at tr
  exact ⟨_, tr, rfl, rfl, rfl, rfl, rfl, cxR, hcmd, hatyp, hdaddr, hdport, rfl⟩

/-- Greeting `05 01 00` in two reads, and CONNECT 127.0.0.1:80 in three, cut inside the address. -/
theorem sample_split_connect_reaches_the_server :
    ∃ t, (handshakeMachine sampleClientConfig plainCipher).Trace HandshakeTunnel.start
        ([[5], [1, 0]].map .appRead ++ .appWritten ::
          ([[5, 1, 0, 1, 127], [0, 0], [1, 0, 80]].map .appRead ++ connectEvents sampleClientConfig)) t ∧
      t.stage = .ssrAuthSent ∧ t.assertFailed = false ∧
      t.appReads = [[5], [1, 0]] ++ [[5, 1, 0, 1, 127], [0, 0], [1, 0, 80]] ∧
      t.toApp = [[5, 0]] ∧ t.toServer.length = 1 ∧
      ∃ cx : S5Ctx, cx.cmd = some .tcpConnect ∧ cx.atyp = some .ipv4 ∧
        cx.daddr.toList.take ([127, 0, 0, 1].length + 1) = [127, 0, 0, 1] ++ [0] ∧
        cx.dport = (0 : UInt8).toNat * 256 + (80 : UInt8).toNat ∧ t.initPkg = SockAddr.initialPackageCreate cx :=
  @client_reaches_the_server_under_every_cut Unit sampleClientConfig plainCipher [[5], [1, 0]]
    [[5, 1, 0, 1, 127], [0, 0], [1, 0, 80]] [0] (by decide) (by decide) (by decide) rfl (by decide) 0 .ipv4
    [127, 0, 0, 1] rfl (by decide) 0 80 rfl (by decide) (by decide) rfl rfl rfl (fun _ _ => rfl)

/-- **A greeting that offers no acceptable method is refused under every cut.** Read in any
pieces, a greeting that does not list method 0 is answered `05 ff`, even when it offers username
and password (`can_auth_passwd` is false), and once the answer is written the tunnel is shut
down, having written nothing to the server. -/
theorem client_refuses_a_greeting_without_no_auth {gs : List (List UInt8)} {ms : List UInt8}
    (hms : ms ≠ []) (hlen : ms.length ≤ 255) (h0 : (0 : UInt8) ∉ ms)
    (hgs : gs.flatten = [5, ms.length.toUInt8] ++ ms) (hgne : ∀ r ∈ gs, r ≠ []) :
    ∃ t, (handshakeMachine cfg ci).Trace HandshakeTunnel.start (gs.map .appRead ++ [.appWritten]) t ∧
      t.terminated = true ∧ t.assertFailed = false ∧ t.appReads = gs ∧ t.toApp = [[5, 255]] ∧
        t.toServer = [] := by
  have tr₁ := trace_greeting cfg ci hms hlen hgs hgne
  set cxG : S5Ctx := { s5Init with state := .methods, methods := ms.foldl addMethod 0,
                                   arg0 := ms.length, arg1 := ms.length }
  have hbit : cxG.methods &&& S5AuthMethod.none.bit = 0 := foldl_addMethod_no_none h0 rfl
  -- neither branch of `do_handshake` that accepts a method is taken: `05 ff`, then `tunnel_stage_kill`
  have ht₁ : readParsed cfg ci
      { (HandshakeTunnel.start : HandshakeTunnel σ) with
        incomingReading := false, appReads := (HandshakeTunnel.start : HandshakeTunnel σ).appReads ++ gs }
      ⟨.authSelect, cxG, []⟩ =
      ⟨.kill, cxG, none, [], false, true, false, false, false, false, false, false, gs, [[5, 255]], []⟩ := by
    simp [readParsed, HandshakeTunnel.start, handshakeParsed, hbit, canAuthPasswd, HandshakeTunnel.writeApp,
      HandshakeTunnel.assert]
  rw [ht₁] at tr₁
  refine ⟨_, tr₁.append (.single ⟨rfl, rfl, rfl⟩), rfl, rfl, rfl, rfl, rfl⟩

/-- Greeting `05 01 02`, username and password only, in two reads. -/
theorem sample_passwd_greeting_is_refused :
    ∃ t, (handshakeMachine sampleClientConfig plainCipher).Trace HandshakeTunnel.start
        ([[5, 1], [2]].map .appRead ++ [.appWritten]) t ∧
      t.terminated = true ∧ t.assertFailed = false ∧ t.appReads = [[5, 1], [2]] ∧ t.toApp = [[5, 255]] ∧
        t.toServer = [] :=
  @client_refuses_a_greeting_without_no_auth Unit sampleClientConfig plainCipher [[5, 1], [2]] [2]
    (by decide) (by decide) (by decide) rfl (by decide)

/-- `build_udp_assoc_package` on `incoming`'s buffer of `SSR_BUFF_SIZE` bytes answers every
listening address, with success when UDP is relayed and "command not supported" when not. -/
theorem buildUdpAssocPackage_listen (allow : Bool) (l : ListenAddr) (port : UInt16) :
    ∃ pkg, buildUdpAssocPackage allow (some l) port ssrBuffSize = some pkg ∧
      pkg.take 2 = [5, if allow then 0 else 7] := by
  cases l <;> simp [buildUdpAssocPackage, ssrBuffSize]

/-- **A UDP ASSOCIATE is answered under every cut of its reads.** A greeting that offers no
authentication and a UDP ASSOCIATE request with a well-formed address, read in any pieces (the
request's last at least two bytes long), with a listening address configured: the request is
answered with `build_udp_assoc_package`'s reply, and once it is written the tunnel is shut
down, having written nothing to the server. -/
theorem client_answers_udp_associate_under_every_cut {gs rs : List (List UInt8)} {ms : List UInt8}
    (hms : ms ≠ []) (hlen : ms.length ≤ 255) (h0 : (0 : UInt8) ∈ ms)
    (hgs : gs.flatten = [5, ms.length.toUInt8] ++ ms) (hgne : ∀ r ∈ gs, r ≠ [])
    {rsv : UInt8} {a : S5Atyp} {addr : List UInt8} (hfit : AddrFits a addr) (hne : addr ≠ [])
    {p0 p1 : UInt8} (hrs : rs.flatten = requestBytes 3 rsv a addr p0 p1) (hrne : ∀ r ∈ rs, r ≠ [])
    (hlast : ∀ r ∈ rs.getLast?, 2 ≤ r.length) {l : ListenAddr} (hl : cfg.listen = some l) :
    ∃ t, (handshakeMachine cfg ci).Trace HandshakeTunnel.start
        (gs.map .appRead ++ .appWritten :: (rs.map .appRead ++ [.appWritten])) t ∧
      t.terminated = true ∧ t.assertFailed = false ∧ t.faulted = false ∧ t.appReads = gs ++ rs ∧
      t.toServer = [] ∧
      ∃ pkg, buildUdpAssocPackage cfg.udp cfg.listen cfg.listenPort ssrBuffSize = some pkg ∧
        pkg.take 2 = [5, if cfg.udp then 0 else 7] ∧ t.toApp = [[5, 0], pkg] := by
  obtain ⟨p, cx, hcmd, -, -, -, tr₂⟩ :=
    trace_request cfg ci hms hlen h0 hgs hgne (show cmdOf 3 = some .udpAssoc from rfl) hfit hne hrs hrne hlast
  obtain ⟨pkg, hpkg, hreply⟩ := buildUdpAssocPackage_listen cfg.udp l cfg.listenPort
  rw [← hl] at hpkg
  -- the reply is written in `tunnel_stage_s5_udp_accoc`, whose `do_next` shuts the tunnel down
  have ht₃ : readParsed cfg ci ⟨.s5Request, p, none, [], false, false, false, false, false, false, false, false,
      gs ++ rs, [[5, 0]], []⟩ ⟨.execCmd, cx, []⟩ =
      ⟨.s5UdpAssoc, cx, none, [], false, true, false, false, false, false, false, false, gs ++ rs,
        [[5, 0], pkg], []⟩ := by
    simp [readParsed, requestParsed, hcmd, hpkg, HandshakeTunnel.writeApp, HandshakeTunnel.assert]
  rw [ht₃] at tr₂
  have tr := tr₂.append (.single (e := .appWritten) ⟨rfl, rfl, rfl⟩)
  rw [List.append_assoc, List.cons_append] at tr
  exact ⟨_, tr, rfl, rfl, rfl, rfl, rfl, pkg, hpkg, hreply, rfl⟩

/-- Greeting `05 01 00`, and UDP ASSOCIATE 0.0.0.0:0 cut after its header, with the client
listening on 127.0.0.1:1080 and relaying UDP. -/
theorem sample_udp_associate_is_answered :
    ∃ t, (handshakeMachine ⟨true, true, true, true, some (.ipv4 #v[127, 0, 0, 1]), 1080, false⟩ plainCipher).Trace
        HandshakeTunnel.start
        ([[5, 1, 0]].map .appRead ++ .appWritten ::
          ([[5, 3, 0, 1], [0, 0, 0, 0, 0, 0]].map .appRead ++ [.appWritten])) t ∧
      t.terminated = true ∧ t.assertFailed = false ∧ t.faulted = false ∧
      t.appReads = [[5, 1, 0]] ++ [[5, 3, 0, 1], [0, 0, 0, 0, 0, 0]] ∧ t.toServer = [] ∧
      ∃ pkg, buildUdpAssocPackage true (some (.ipv4 #v[127, 0, 0, 1])) 1080 ssrBuffSize = some pkg ∧
        pkg.take 2 = [5, if true then 0 else 7] ∧ t.toApp = [[5, 0], pkg] :=
  @client_answers_udp_associate_under_every_cut Unit ⟨true, true, true, true, some (.ipv4 #v[127, 0, 0, 1]), 1080, false⟩
    plainCipher [[5, 1, 0]] [[5, 3, 0, 1], [0, 0, 0, 0, 0, 0]] [0] (by decide) (by decide) (by decide) rfl
    (by decide) 0 .ipv4 [0, 0, 0, 0] rfl (by decide) 0 0 rfl (by decide) (by decide) _ rfl

/-- **A server the ruleset refuses is never connected to.** With `over_tls_enable` off, a
greeting that offers no authentication and a CONNECT request, read in any pieces (the request's last at least two bytes
long), when `can_access` refuses the server's address: the application is answered "Connection
not allowed by ruleset" (`05 02 00 01`, a zero address and port), and once that is written the
tunnel is shut down, with no connect made and nothing written to the server. -/
theorem client_refuses_a_server_the_ruleset_denies {gs rs : List (List UInt8)} {ms : List UInt8}
    (hms : ms ≠ []) (hlen : ms.length ≤ 255) (h0 : (0 : UInt8) ∈ ms)
    (hgs : gs.flatten = [5, ms.length.toUInt8] ++ ms) (hgne : ∀ r ∈ gs, r ≠ [])
    {rsv : UInt8} {a : S5Atyp} {addr : List UInt8} (hfit : AddrFits a addr) (hne : addr ≠ [])
    {p0 p1 : UInt8} (hrs : rs.flatten = requestBytes 1 rsv a addr p0 p1) (hrne : ∀ r ∈ rs, r ≠ [])
    (hlast : ∀ r ∈ rs.getLast?, 2 ≤ r.length) (htls : cfg.overTlsEnable = false) (hacc : cfg.canAccess = false) :
    ∃ t, (handshakeMachine cfg ci).Trace HandshakeTunnel.start
        (gs.map .appRead ++ .appWritten :: (rs.map .appRead ++ (resolveEvents cfg ++ [.appWritten]))) t ∧
      t.terminated = true ∧ t.assertFailed = false ∧ t.connecting = false ∧ t.appReads = gs ++ rs ∧
      t.toApp = [[5, 0], [5, 2, 0, 1, 0, 0, 0, 0, 0, 0]] ∧ t.toServer = [] := by
  obtain ⟨p, cx, hcmd, -, -, -, tr₂⟩ :=
    trace_request cfg ci hms hlen h0 hgs hgne (show cmdOf 1 = some .tcpConnect from rfl) hfit hne hrs hrne hlast
  obtain ⟨stage, tr₃⟩ := trace_resolve cfg ci p (gs ++ rs) [[5, 0]] hcmd htls
  let I := SockAddr.initialPackageCreate cx
  -- the refusal is written, and `tunnel_stage_kill` shuts the tunnel down once it is
  have hrefuse : doConnectSsrServer cfg ⟨stage, cx, some (ci.start I), I, false, false, false, false, false, false,
      false, false, gs ++ rs, [[5, 0]], []⟩ = ⟨.kill, cx, some (ci.start I), I, false, true, false, false, false,
      false, false, false, gs ++ rs, [[5, 0], [5, 2, 0, 1, 0, 0, 0, 0, 0, 0]], []⟩ := by
    simp [doConnectSsrServer, hacc, HandshakeTunnel.writeApp, HandshakeTunnel.assert]
  rw [hrefuse] at tr₃
  have tr := tr₂.append (tr₃.append (.single (e := .appWritten) ⟨rfl, rfl, rfl⟩))
  rw [List.append_assoc, List.cons_append] at tr
  exact ⟨_, tr, rfl, rfl, rfl, rfl, rfl, rfl⟩

/-- CONNECT 127.0.0.1:80 in two reads, to a server address that `can_access` refuses. -/
theorem sample_denied_connect_is_refused :
    ∃ t, (handshakeMachine ⟨true, false, true, false, none, 0, false⟩ plainCipher).Trace HandshakeTunnel.start
        ([[5, 1, 0]].map .appRead ++ .appWritten ::
          ([[5, 1, 0, 1], [127, 0, 0, 1, 0, 80]].map .appRead ++
            (resolveEvents ⟨true, false, true, false, none, 0, false⟩ ++ [.appWritten]))) t ∧
      t.terminated = true ∧ t.assertFailed = false ∧ t.connecting = false ∧
      t.appReads = [[5, 1, 0]] ++ [[5, 1, 0, 1], [127, 0, 0, 1, 0, 80]] ∧
      t.toApp = [[5, 0], [5, 2, 0, 1, 0, 0, 0, 0, 0, 0]] ∧ t.toServer = [] :=
  @client_refuses_a_server_the_ruleset_denies Unit ⟨true, false, true, false, none, 0, false⟩ plainCipher [[5, 1, 0]]
    [[5, 1, 0, 1], [127, 0, 0, 1, 0, 80]] [0] (by decide) (by decide) (by decide) rfl (by decide) 0 .ipv4
    [127, 0, 0, 1] rfl (by decide) 0 80 rfl (by decide) (by decide) rfl rfl

/-- **With `over_tls_enable` the handshake hands the tunnel to `tls_client_launch`.** A greeting
that offers no authentication and a CONNECT request, read in any pieces (the request's last at
least two bytes long): the request takes the tunnel to `tunnel_stage_tls_connecting` with
`init_pkg` and the cipher context made, whatever `can_access` would say; nothing is written to
the server and libuv owes `do_next` nothing, so no event of the handshake is enabled. -/
theorem client_hands_a_tls_tunnel_to_tls_client_launch {gs rs : List (List UInt8)} {ms : List UInt8}
    (hms : ms ≠ []) (hlen : ms.length ≤ 255) (h0 : (0 : UInt8) ∈ ms)
    (hgs : gs.flatten = [5, ms.length.toUInt8] ++ ms) (hgne : ∀ r ∈ gs, r ≠ [])
    {rsv : UInt8} {a : S5Atyp} {addr : List UInt8} (hfit : AddrFits a addr) (hne : addr ≠ [])
    {p0 p1 : UInt8} (hrs : rs.flatten = requestBytes 1 rsv a addr p0 p1) (hrne : ∀ r ∈ rs, r ≠ [])
    (hlast : ∀ r ∈ rs.getLast?, 2 ≤ r.length) (htls : cfg.overTlsEnable = true) :
    ∃ t, (handshakeMachine cfg ci).Trace HandshakeTunnel.start
        (gs.map .appRead ++ .appWritten :: rs.map .appRead) t ∧
      t.stage = .tlsConnecting ∧ t.assertFailed = false ∧ t.appReads = gs ++ rs ∧ t.toApp = [[5, 0]] ∧
      t.toServer = [] ∧ (∀ e, ¬ (handshakeMachine cfg ci).enabled t e) ∧
      ∃ cx : S5Ctx, cx.cmd = some .tcpConnect ∧ cx.atyp = some a ∧
        cx.daddr.toList.take (addr.length + 1) = addr ++ [0] ∧ cx.dport = p0.toNat * 256 + p1.toNat ∧
        t.initPkg = SockAddr.initialPackageCreate cx ∧ t.cipher = some (ci.start t.initPkg) := by
  obtain ⟨p, cx, hcmd, hatyp, hdaddr, hdport, tr₂⟩ :=
    trace_request cfg ci hms hlen h0 hgs hgne (show cmdOf 1 = some .tcpConnect from rfl) hfit hne hrs hrne hlast
  have ht₃ : readParsed cfg ci ⟨.s5Request, p, none, [], false, false, false, false, false, false, false, false,
      gs ++ rs, [[5, 0]], []⟩ ⟨.execCmd, cx, []⟩ =
      ⟨.tlsConnecting, cx, some (ci.start (SockAddr.initialPackageCreate cx)), SockAddr.initialPackageCreate cx,
        false, false, false, false, false, false, false, false, gs ++ rs, [[5, 0]], []⟩ := by
    simp [readParsed, requestParsed, hcmd, htls, HandshakeTunnel.assert]
  rw [ht₃] at tr₂
  refine ⟨_, tr₂, rfl, rfl, rfl, rfl, rfl, ?_, cx, hcmd, hatyp, hdaddr, hdport, rfl, rfl⟩
  rintro e ⟨-, -, he⟩
  cases e <;> simp at he

/-- The sample CONNECT with `over_tls_enable` on. -/
theorem sample_tls_connect_is_handed_over :
    ∃ t, (handshakeMachine ⟨true, true, true, false, none, 0, true⟩ plainCipher).Trace HandshakeTunnel.start
        ([[5, 1, 0]].map .appRead ++ .appWritten :: [[5, 1, 0, 1], [127, 0, 0, 1, 0, 80]].map .appRead) t ∧
      t.stage = .tlsConnecting ∧ t.assertFailed = false ∧
      t.appReads = [[5, 1, 0]] ++ [[5, 1, 0, 1], [127, 0, 0, 1, 0, 80]] ∧ t.toApp = [[5, 0]] ∧
      t.toServer = [] ∧ (∀ e, ¬ (handshakeMachine ⟨true, true, true, false, none, 0, true⟩ plainCipher).enabled t e) ∧
      ∃ cx : S5Ctx, cx.cmd = some .tcpConnect ∧ cx.atyp = some .ipv4 ∧
        cx.daddr.toList.take ([127, 0, 0, 1].length + 1) = [127, 0, 0, 1] ++ [0] ∧
        cx.dport = (0 : UInt8).toNat * 256 + (80 : UInt8).toNat ∧
        t.initPkg = SockAddr.initialPackageCreate cx ∧ t.cipher = some (plainCipher.start t.initPkg) :=
  @client_hands_a_tls_tunnel_to_tls_client_launch Unit ⟨true, true, true, false, none, 0, true⟩ plainCipher
    [[5, 1, 0]] [[5, 1, 0, 1], [127, 0, 0, 1, 0, 80]] [0] (by decide) (by decide) (by decide) rfl (by decide) 0
    .ipv4 [127, 0, 0, 1] rfl (by decide) 0 80 rfl (by decide) (by decide) rfl

end Runs

end ShadowsocksR.Client
