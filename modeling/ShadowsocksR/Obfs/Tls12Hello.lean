/-
  ShadowsocksR.Obfs.Tls12Hello — the ClientHello of `tls1.2_ticket_auth`, read as TLS.

  `tls12_ticket_auth_client_encode` builds its hello back to front: it concatenates the
  extensions (`tls_data1`, the server name of `tls12_ticket_auth_sni`, `tls_data2`, the
  ticket's length and bytes, `tls_data3`), then inserts each enclosing length before
  what it covers. Read against `TlsRecord`, `tls_data0` is the cipher-suite vector and
  the one compression method, `tls_data1` is `renegotiation_info`, `tls_data2` an empty
  `extended_master_secret` and the type of `session_ticket`, and `tls_data3` six more
  extensions.

  The host is drawn from the comma-separated `obfs_param` (or the server's host) by
  `rand_integer() % host_num`, and the ticket's size is `(32 + rand_integer() % 164) * 2`.
  `rand_integer` is `abs` of four random bytes, and `abs(INT_MIN)` is `INT_MIN`: when the
  four bytes of the ticket's draw are `00 00 00 80` the remainder is -80, the size is
  `(size_t)-96`, `calloc` of it fails and `rand_bytes` writes through the null pointer.
  The model's `calloc` fails past `PTRDIFF_MAX` (`callocFails`), and the hello then
  carries the flag of that write; its bytes, with a ticket of `2 ^ 64 - 96` bytes, are
  the record of no hello whose lengths fit.

  Proved here:
  - `tls12TicketAuthSni_eq`, `helloExtensions_encode`: the server name and the fixed
    strings are the encodings of the extensions they stand for;
  - `clientHello_eq_record`: the client's hello is the record of `helloMessage` on the
    drawn random, the client id, the selected host and the ticket, and
    `helloMessage_fits`: that hello fits when the host is a host name and the ticket's
    draw is not `INT_MIN`;
  - `splitAtComma_intercalate`: a list of host names joined by commas splits back into it;
  - `tls12_hello_is_a_record_unless_the_ticket_draw_is_int_min`: every hello built from a
    list of host names is a fitting record whose one server name is the selected host,
    which `parse_tls_header` reads back, except when the ticket's draw is `INT_MIN`;
  - `tls12_client_writes_through_null_exactly_at_the_int_min_draw`: a fresh client's first
    call writes through `NULL` exactly at that draw.
-/

import Mathlib
import ShadowsocksR.Lib.TlsRecord
import ShadowsocksR.Obfs.Tls12Ticket
import ShadowsocksR.Tls

namespace ShadowsocksR.Tls12Ticket

open Bytes CString TlsRecord

/-! ## The draws -/

/-- The host list of the hello: `obfs_param` when it is set and not empty, else the
server's host. -/
def helloHosts (server : ServerInfo) : List UInt8 :=
  match server.param with
  | some p => if strlen p > 0 then cstr p else cstr server.host
  | none => cstr server.host

/-- The host `phost[rand_integer() % host_num]`. -/
def selectedHost (hosts : List (List UInt8)) (r : Int) : List UInt8 := hosts.getD (sizeT r % hosts.length) []

/-- The ticket's size for the draw `r`, `(32 + r % (196 - 32)) * 2` as a `size_t`. -/
def ticketSize (r : Int) : Nat := sizeT ((32 + r.tmod (196 - 32)) * 2)

/-- The integer drawn for the host, after the 18 random bytes of the auth data. -/
def hostDraw (entropy : Entropy) : Int := (randInteger (randBytes entropy 18).2).1

/-- The integer drawn for the ticket's size. -/
def ticketDraw (entropy : Entropy) : Int := (randInteger (randInteger (randBytes entropy 18).2).2).1

/-- The ticket's bytes. -/
def ticketBytes (entropy : Entropy) : List UInt8 :=
  (randBytes (randInteger (randInteger (randBytes entropy 18).2).2).2 (ticketSize (ticketDraw entropy))).1

/-- The host the hello names. -/
def helloHost (server : ServerInfo) (entropy : Entropy) : List UInt8 :=
  selectedHost (splitAtComma (helloHosts server)) (hostDraw entropy)

/-- The hello, with its draws named. -/
theorem clientHello_eq (crypto : Crypto) (server : ServerInfo) (localClientId : List UInt8)
    (now : UInt32) (entropy : Entropy) :
    (clientHello crypto server localClientId now entropy).1 =
      let ext := tlsData1 ++ tls12TicketAuthSni (helloHost server entropy) ++ tlsData2 ++
        be16 (ticketSize (ticketDraw entropy)) ++ ticketBytes entropy ++ tlsData3
      let r := tlsVersion ++ ((tls12TicketPackAuthData crypto server now entropy localClientId).1 ++
        [32] ++ localClientId ++ tlsData0 ++ (be16 ext.length ++ ext))
      let result := [0x01, 0x00] ++ be16 r.length ++ r
      [0x16, 0x03, 0x01] ++ be16 result.length ++ result :=
  rfl

theorem tls12TicketPackAuthData_length (crypto : Crypto) (server : ServerInfo) (now : UInt32)
    (entropy : Entropy) (clientId : List UInt8) :
    (tls12TicketPackAuthData crypto server now entropy clientId).1.length = 32 := by
  simp [tls12TicketPackAuthData, tls12Sha1Hmac, obfsHmacSha1Len]

@[simp] theorem ticketBytes_length (entropy : Entropy) :
    (ticketBytes entropy).length = ticketSize (ticketDraw entropy) :=
  randBytes_length _ _

/-- A draw of `rand_integer` other than `INT_MIN` is not negative. -/
theorem randInteger_nonneg {e : Entropy} (h : (randInteger e).1 ≠ -2 ^ 31) : 0 ≤ (randInteger e).1 := by
  simp only [randInteger] at h ⊢
  split
  · simp_all
  · omega

theorem ticketSize_le {r : Int} (h0 : 0 ≤ r) : ticketSize r ≤ 390 := by
  have hm : 0 ≤ r.tmod 164 ∧ r.tmod 164 < 164 := by
    rw [Int.tmod_eq_emod_of_nonneg h0]
    omega
  simp only [ticketSize, sizeT, show (196 - 32 : Int) = 164 from rfl]
  omega

theorem ticketSize_int_min : ticketSize (-2 ^ 31) = 2 ^ 64 - 96 := by
  decide

/-- The hello's flag is `calloc`'s answer for the drawn ticket size. -/
theorem clientHello_nullTicket (crypto : Crypto) (server : ServerInfo) (localClientId : List UInt8)
    (now : UInt32) (entropy : Entropy) :
    (clientHello crypto server localClientId now entropy).2.2 =
      callocFails (sizeT (ticketSize (ticketDraw entropy) + 1)) :=
  rfl

/-- `calloc` fails on the ticket exactly at the draw `INT_MIN`: any other draw asks for at
most 391 bytes, `INT_MIN` for `2 ^ 64 - 95`. -/
theorem callocFails_ticket_iff {e : Entropy} :
    callocFails (sizeT (ticketSize (randInteger e).1 + 1)) = true ↔ (randInteger e).1 = -2 ^ 31 := by
  by_cases h : (randInteger e).1 = -2 ^ 31
  · rw [h, ticketSize_int_min]
    decide
  · have hle := ticketSize_le (randInteger_nonneg h)
    have hsmall : sizeT (ticketSize (randInteger e).1 + 1) = ticketSize (randInteger e).1 + 1 := by
      simp only [sizeT]
      omega
    simp only [h, iff_false, hsmall, callocFails, decide_eq_true_eq, not_le]
    omega

/-! ## The hello as TLS -/

/-- The cipher suites of `tls_data0`, between their length and the compression methods. -/
def helloCipherSuites : List UInt8 := (tlsData0.drop 2).take 28

/-- The extensions of `tls_data3`: `signature_algorithms`, `status_request`,
`signed_certificate_timestamp`, `0x7550`, `ec_point_formats`, `supported_groups`. -/
def tlsData3Extensions : List Extension :=
  [⟨0x000d, [0x00, 0x14, 0x06, 0x01, 0x06, 0x03, 0x05, 0x01, 0x05, 0x03, 0x04, 0x01, 0x04, 0x03,
      0x03, 0x01, 0x03, 0x03, 0x02, 0x01, 0x02, 0x03]⟩,
   ⟨0x0005, [0x01, 0x00, 0x00, 0x00, 0x00]⟩, ⟨0x0012, []⟩, ⟨0x7550, []⟩, ⟨0x000b, [0x01, 0x00]⟩,
   ⟨0x000a, [0x00, 0x04, 0x00, 0x17, 0x00, 0x18]⟩]

/-- The hello's extensions in the order the code concatenates them:
`renegotiation_info`, `server_name`, `extended_master_secret`, `session_ticket`, then
those of `tls_data3`. -/
def helloExtensions (host ticket : List UInt8) : List Extension :=
  ⟨0xff01, [0x00]⟩ :: serverName [cstr host] :: ⟨0x0017, []⟩ :: ⟨0x0023, ticket⟩ :: tlsData3Extensions

/-- The hello the client means to send. -/
def helloMessage (random clientId host ticket : List UInt8) : ClientHello :=
  ⟨random, clientId, helloCipherSuites, [0x00], helloExtensions host ticket⟩

theorem tlsData0_eq : tlsData0 = be16 28 ++ helloCipherSuites ++ [0x01, 0x00] := by
  decide

theorem tlsData3_eq : tlsData3 = encodeAll tlsData3Extensions := by
  decide

theorem tlsData1_eq : tlsData1 = (⟨0xff01, [0x00]⟩ : Extension).encode := by
  decide

/-- `tls_data2` is an empty extension and the type of the next one. -/
theorem tlsData2_eq : tlsData2 = (⟨0x0017, []⟩ : Extension).encode ++ be16 0x0023 := by
  decide

theorem tls12TicketAuthSni_eq (url : List UInt8) :
    tls12TicketAuthSni url = (serverName [cstr url]).encode := by
  have e1 : 3 + (cstr url).length + 2 = 2 + (3 + (cstr url).length) := by omega
  simp only [tls12TicketAuthSni, serverName, Extension.encode, serverNameList, List.flatMap_cons,
    List.flatMap_nil, List.append_nil, List.length_append, be16_length, hostName_length, Nat.reduceAdd, e1]
  rfl

theorem helloExtensions_encode (host ticket : List UInt8) :
    encodeAll (helloExtensions host ticket) =
      tlsData1 ++ tls12TicketAuthSni host ++ tlsData2 ++ be16 ticket.length ++ ticket ++ tlsData3 := by
  rw [tls12TicketAuthSni_eq, tlsData1_eq, tlsData2_eq, tlsData3_eq]
  simp [helloExtensions, Extension.encode]

@[simp] theorem helloMessage_body_length (random clientId host ticket : List UInt8) :
    (helloMessage random clientId host ticket).body.length =
      118 + random.length + clientId.length + (cstr host).length + ticket.length := by
  simp [helloMessage, helloExtensions, serverName, helloCipherSuites, tlsData0, tlsData3Extensions,
    ClientHello.body, ClientHello.fromSessionId, ClientHello.fromCipherSuites,
    ClientHello.fromCompression, ClientHello.fromExtensions]
  omega

/-- The hello is the record of `helloMessage`, whenever its body fits the 16-bit field
that the code writes for its 24-bit length. -/
theorem clientHello_eq_record (crypto : Crypto) (server : ServerInfo) (localClientId : List UInt8)
    (now : UInt32) (entropy : Entropy) (hid : localClientId.length = 32)
    (hlen : (cstr (helloHost server entropy)).length + ticketSize (ticketDraw entropy) < 2 ^ 16 - 182) :
    (clientHello crypto server localClientId now entropy).1 =
      (helloMessage (tls12TicketPackAuthData crypto server now entropy localClientId).1 localClientId
        (helloHost server entropy) (ticketBytes entropy)).record := by
  set m := helloMessage (tls12TicketPackAuthData crypto server now entropy localClientId).1 localClientId
    (helloHost server entropy) (ticketBytes entropy) with hm
  have hbody : m.body.length < 2 ^ 16 := by
    rw [hm, helloMessage_body_length, tls12TicketPackAuthData_length, hid, ticketBytes_length]
    omega
  have hext : encodeAll m.extensions = tlsData1 ++ tls12TicketAuthSni (helloHost server entropy) ++
      tlsData2 ++ be16 (ticketSize (ticketDraw entropy)) ++ ticketBytes entropy ++ tlsData3 := by
    rw [hm, helloMessage, helloExtensions_encode, ticketBytes_length]
  have hr : tlsVersion ++ ((tls12TicketPackAuthData crypto server now entropy localClientId).1 ++
      [32] ++ localClientId ++ tlsData0 ++ (be16 (encodeAll m.extensions).length ++ encodeAll m.extensions)) =
      m.body := by
    have hsid : m.sessionId.length.toUInt8 = 32 := by rw [hm, helloMessage]; simp [hid]
    simp only [ClientHello.body, ClientHello.fromSessionId, ClientHello.fromCipherSuites,
      ClientHello.fromCompression, ClientHello.fromExtensions, hsid, tlsData0_eq, tlsVersion]
    simp [hm, helloMessage, helloCipherSuites, tlsData0]
  rw [clientHello_eq, ← hext]
  dsimp only
  rw [hr, ClientHello.record, ClientHello.handshake, be24_of_lt hbody]
  simp

/-! ## The hosts -/

theorem splitAtComma_ne_nil (l : List UInt8) : splitAtComma l ≠ [] := by
  cases l with
  | nil => simp [splitAtComma]
  | cons c r =>
    simp only [splitAtComma]
    split
    · split <;> simp
    · simp

/-- A name with no comma joins the first piece of what follows it. -/
theorem splitAtComma_append {h : List UInt8} (hc : 44 ∉ h) {r s : List UInt8} {t : List (List UInt8)}
    (hr : splitAtComma r = s :: t) : splitAtComma (h ++ r) = (h ++ s) :: t := by
  induction h with
  | nil => simpa using hr
  | cons c h ih =>
    have hc' : c ≠ 44 := fun e => hc (e ▸ List.mem_cons_self)
    rw [List.cons_append, splitAtComma, ih (fun e => hc (List.mem_cons_of_mem c e))]
    simp [hc']

theorem splitAtComma_comma (r : List UInt8) : splitAtComma (44 :: r) = [] :: splitAtComma r := by
  obtain ⟨s, t, hst⟩ := List.exists_cons_of_ne_nil (splitAtComma_ne_nil r)
  rw [splitAtComma, hst]
  simp

/-- Host names joined by commas split back into the names. -/
theorem splitAtComma_intercalate :
    ∀ (hosts : List (List UInt8)), hosts ≠ [] → (∀ h ∈ hosts, 44 ∉ h) →
      splitAtComma ([44].intercalate hosts) = hosts
  | [], hne, _ => absurd rfl hne
  | [h], _, hc => by
    have := splitAtComma_append (hc h List.mem_cons_self) (r := []) (s := []) (t := []) rfl
    simpa using this
  | h :: h2 :: hs, _, hc => by
    have ih := splitAtComma_intercalate (h2 :: hs) (List.cons_ne_nil h2 hs)
      (fun x hx => hc x (List.mem_cons_of_mem h hx))
    rw [List.intercalate_cons_cons, List.append_assoc]
    rw [splitAtComma_append (hc h List.mem_cons_self) (by rw [List.singleton_append, splitAtComma_comma, ih])]
    simp

theorem selectedHost_mem {hosts : List (List UInt8)} (hne : hosts ≠ []) (r : Int) :
    selectedHost hosts r ∈ hosts := by
  have hlt : sizeT r % hosts.length < hosts.length := Nat.mod_lt _ (List.length_pos_iff.mpr hne)
  simp only [selectedHost, List.getD_eq_getElem _ _ hlt]
  exact List.getElem_mem hlt

/-- A host name: not empty, at most 255 bytes (RFC 1035 §2.3.4), no NUL (it sits in a C
string) and no comma (it separates the names). -/
def HostName (h : List UInt8) : Prop := h ≠ [] ∧ h.length ≤ 255 ∧ NoNul h ∧ 44 ∉ h

instance (h : List UInt8) : Decidable (HostName h) :=
  inferInstanceAs (Decidable (h ≠ [] ∧ h.length ≤ 255 ∧ NoNul h ∧ 44 ∉ h))

/-! ## What the hello is -/

section Hello

variable {host ticket : List UInt8}

theorem helloMessage_fits (random clientId : List UInt8) (hrand : random.length = 32)
    (hid : clientId.length = 32) (hhost : (cstr host).length ≤ 255) (hticket : ticket.length ≤ 390) :
    (helloMessage random clientId host ticket).Fits where
  random := hrand
  sessionId := by simp [helloMessage, hid]
  compression := by simp [helloMessage]
  bodies := by
    intro e he
    simp only [helloMessage, helloExtensions, List.mem_cons] at he
    rcases he with rfl | rfl | rfl | rfl | he
    · simp
    · simp [serverName]; omega
    · simp
    · simp; omega
    · revert e; decide
  handshake := by
    simp only [ClientHello.handshake_length, helloMessage_body_length]
    omega

theorem helloExtensions_serverNames :
    (helloExtensions host ticket).filter (fun e => e.type == 0) = [serverName [cstr host]] := by
  simp [helloExtensions, serverName, tlsData3Extensions]

/-- The parser reads the host back from any fitting `helloMessage`. -/
theorem parseTlsHeader_helloMessage {random clientId : List UInt8}
    (hm : (helloMessage random clientId host ticket).Fits) (hne : cstr host ≠ []) :
    Tls.parseTlsHeader (helloMessage random clientId host ticket).record
        (helloMessage random clientId host ticket).record.length =
      (((cstr host).length : Int), some (cstr host)) := by
  have hext : (helloMessage random clientId host ticket).extensions =
      [⟨0xff01, [0x00]⟩] ++ serverName [cstr host] :: ⟨0x0017, []⟩ :: ⟨0x0023, ticket⟩ :: tlsData3Extensions :=
    rfl
  have h := Tls.parseTlsHeader_record hm hext (by decide) hne
  rwa [cstr_of_noNul (noNul_cstr host)] at h

end Hello

/-- The tls1.2_ticket_auth ClientHello, built from a comma-separated list of host
names: for every draw of the ticket's size other than `INT_MIN` it is the record of a
fitting ClientHello whose session id is the client id and whose one server name is the
selected host, and `parse_tls_header` returns that host; for the draw `INT_MIN` the
ticket's size is `2 ^ 64 - 96`, and the hello is the record of no fitting ClientHello. -/
theorem tls12_hello_is_a_record_unless_the_ticket_draw_is_int_min :
    (∀ (crypto : Crypto) (server : ServerInfo) (localClientId : List UInt8) (now : UInt32)
        (entropy : Entropy) (hosts : List (List UInt8)),
        localClientId.length = 32 → helloHosts server = [44].intercalate hosts → hosts ≠ [] →
        hosts.length ≤ 128 → (∀ h ∈ hosts, HostName h) → ticketDraw entropy ≠ -2 ^ 31 →
        ∃ m : ClientHello, (clientHello crypto server localClientId now entropy).1 = m.record ∧
          m.Fits ∧ m.sessionId = localClientId ∧
          m.extensions.filter (fun e => e.type == 0) = [serverName [selectedHost hosts (hostDraw entropy)]] ∧
          selectedHost hosts (hostDraw entropy) ∈ hosts ∧
          Tls.parseTlsHeader m.record m.record.length =
            (((selectedHost hosts (hostDraw entropy)).length : Int),
              some (selectedHost hosts (hostDraw entropy)))) ∧
    (∀ (crypto : Crypto) (server : ServerInfo) (localClientId : List UInt8) (now : UInt32)
        (entropy : Entropy), localClientId.length = 32 → ticketDraw entropy = -2 ^ 31 →
        ticketSize (ticketDraw entropy) = 2 ^ 64 - 96 ∧
          ∀ m : ClientHello, m.Fits → (clientHello crypto server localClientId now entropy).1 ≠ m.record) := by
  constructor
  · intro crypto server localClientId now entropy hosts hid hparam hne _ hnames hdraw
    have hsplit : splitAtComma (helloHosts server) = hosts := by
      rw [hparam]
      exact splitAtComma_intercalate hosts hne (fun h hh => (hnames h hh).2.2.2)
    have hsel : helloHost server entropy = selectedHost hosts (hostDraw entropy) := by
      rw [helloHost, hsplit]
    have hmem := selectedHost_mem hne (hostDraw entropy)
    obtain ⟨hsne, hslen, hsnul, -⟩ := hnames _ hmem
    have hcstr : cstr (helloHost server entropy) = selectedHost hosts (hostDraw entropy) := by
      rw [hsel, cstr_of_noNul hsnul]
    have hticket : ticketSize (ticketDraw entropy) ≤ 390 := ticketSize_le (randInteger_nonneg hdraw)
    have hfits : (helloMessage (tls12TicketPackAuthData crypto server now entropy localClientId).1
        localClientId (helloHost server entropy) (ticketBytes entropy)).Fits := helloMessage_fits
      _ localClientId (tls12TicketPackAuthData_length crypto server now entropy localClientId) hid
      (by rw [hcstr]; exact hslen) (by rw [ticketBytes_length]; exact hticket)
    refine ⟨_, clientHello_eq_record crypto server localClientId now entropy hid (by rw [hcstr]; omega),
      hfits, rfl, ?_, hmem, ?_⟩
    · rw [helloMessage, helloExtensions_serverNames, hcstr]
    · rw [parseTlsHeader_helloMessage hfits (by rw [hcstr]; exact hsne), hcstr]
  · intro crypto server localClientId now entropy hid hdraw
    refine ⟨by rw [hdraw, ticketSize_int_min], fun m hm heq => ?_⟩
    have hlen := congrArg List.length heq
    rw [clientHello_eq] at hlen
    simp only [List.length_append, ticketBytes_length, hdraw, ticketSize_int_min,
      tls12TicketPackAuthData_length, hid, be16_length, ClientHello.record_length] at hlen
    have := hm.handshake
    omega

/-- A server whose `obfs_param` names two hosts, `a,b`. -/
def twoHostServer : ServerInfo := { sampleServer with param := some [0x61, 0x2c, 0x62] }

def twoHosts : List (List UInt8) := [[0x61], [0x62]]

/-- Four bytes `00 00 00 80` at the ticket's draw. -/
def intMinEntropy : Entropy := ⟨fun i => if i = 25 then 0x80 else 0, 0⟩

theorem two_host_hello_and_the_int_min_draw :
    (ticketDraw sampleEntropy ≠ -2 ^ 31 ∧
      ∃ m : ClientHello, (clientHello sampleCrypto twoHostServer sampleClientId.toList 0 sampleEntropy).1 =
          m.record ∧
        m.Fits ∧ m.sessionId = sampleClientId.toList ∧
        m.extensions.filter (fun e => e.type == 0) =
          [serverName [selectedHost twoHosts (hostDraw sampleEntropy)]] ∧
        selectedHost twoHosts (hostDraw sampleEntropy) ∈ twoHosts ∧
        Tls.parseTlsHeader m.record m.record.length =
          (((selectedHost twoHosts (hostDraw sampleEntropy)).length : Int),
            some (selectedHost twoHosts (hostDraw sampleEntropy)))) ∧
    (ticketDraw intMinEntropy = -2 ^ 31 ∧
      ticketSize (ticketDraw intMinEntropy) = 2 ^ 64 - 96 ∧
        ∀ m : ClientHello, m.Fits →
          (clientHello sampleCrypto sampleServer sampleClientId.toList 0 intMinEntropy).1 ≠ m.record) :=
  have hdraw : ticketDraw sampleEntropy ≠ -2 ^ 31 := by decide
  have hmin : ticketDraw intMinEntropy = -2 ^ 31 := by decide
  have hnames : ∀ h ∈ twoHosts, HostName h := by
    intro h hh
    simp only [twoHosts, List.mem_cons, List.not_mem_nil, or_false] at hh
    rcases hh with rfl | rfl
    · exact ⟨by simp, by simp, noNul_of_all rfl, by decide⟩
    · exact ⟨by simp, by simp, noNul_of_all rfl, by decide⟩
  ⟨⟨hdraw, tls12_hello_is_a_record_unless_the_ticket_draw_is_int_min.1 sampleCrypto twoHostServer
      sampleClientId.toList 0 sampleEntropy twoHosts (by simp) (by decide) (by decide) (by decide)
      hnames hdraw⟩,
    ⟨hmin, tls12_hello_is_a_record_unless_the_ticket_draw_is_int_min.2 sampleCrypto sampleServer
      sampleClientId.toList 0 intMinEntropy (by simp) hmin⟩⟩

/-- **A fresh client faults on its hello exactly at the draw `INT_MIN`.** Whatever it is
asked to send, the first call of `tls12_ticket_auth_client_encode` writes through the
`NULL` that `calloc` returns for the ticket exactly when the ticket's draw is `INT_MIN`. -/
theorem tls12_client_writes_through_null_exactly_at_the_int_min_draw (crypto : Crypto)
    (server : ServerInfo) (localClientId : List UInt8) (now : UInt32) (entropy : Entropy)
    (fastauth : Bool) (buf : List UInt8) :
    (tls12TicketAuthClientEncode crypto server localClientId now entropy
      (tls12TicketAuthLocalDataInit fastauth) buf).nullWrite = true ↔ ticketDraw entropy = -2 ^ 31 := by
  rw [(tls12TicketAuthClientEncode_hello crypto server localClientId now entropy fastauth buf).2,
    clientHello_nullTicket]
  exact callocFails_ticket_iff

end ShadowsocksR.Tls12Ticket
