/-
  ShadowsocksR.Obfs.AuthChain.ServerInfo — the seeding each variant's `set_server_info`
  does (`auth_chain.c`: `auth_chain_{a,b,c,d,f}_set_server_info`; `e` is `d`'s obfs with
  another salt and padding, and keeps `d`'s), over the key length the cipher gives the
  server (`server_info.key_len = enc_get_key_len(env->cipher)`, `encKeyLen`).

  `a` seeds nothing there. `b`, `c`, `d` and `e` seed `shift128plus` from the first 16
  bytes of `server->key`. `f` copies the `key_len` bytes of the key, XORs the day's
  number into the first eight, and seeds from all `key_len` of them, through the 16-byte
  `fill_bin` of `shift128plus_init_from_bin`. The per-frame seedings
  (`shift128plus_init_from_bin_datalen` in every `get_rand_len`) pass 16.

  Proved (`auth_chain_seed_overflows_exactly_for_f_with_a_long_key`): for every variant,
  method, password, key and day, `set_server_info` writes past a buffer exactly when the
  variant is `f` and the key is not 8 to 16 bytes long: the 24- and 32-byte keys of
  `aes-192`, `aes-256`, `camellia-192`, `camellia-256`, `salsa20`, `chacha20` and
  `chacha20-ietf`, and a `table` password of fewer than 8 or more than 16 bytes. Every
  other case seeds within the buffer and returns its lists
  (`authChainSetServerInfo_ok_or_overflow`), and with a `qsort` that sorts those are
  the size lists each `get_rand_len` assumes (`auth_chain_set_server_info_builds_size_lists`).
-/

import ShadowsocksR.Obfs.AuthChain.DataSize
import ShadowsocksR.Encrypt.Cipher

namespace ShadowsocksR.AuthChain

open Encrypt

/-- The six variants, by the `new_obfs` that builds them. -/
inductive AuthChainVariant where
  | a | b | c | d | e | f
  deriving DecidableEq, Repr

/-- What `set_server_info` leaves in the variant's context: nothing for `a`, `b`'s two
lists, and the `data_size_list0` of `c`, `d`, `e` and `f`. -/
inductive DataSizes where
  | none
  | two (lists : AuthChainB)
  | list0 (l : List Int)

/-- `obfs->set_server_info(obfs, server)` of each variant, after `set_server_info` has
copied the server's key; `datetimeKeyBytes` is `f`'s `key_change_datetime_key_bytes`. -/
def authChainSetServerInfo (qsort : List Int → List Int) (v : AuthChainVariant) (key : List UInt8)
    (keyLen : Nat) (datetimeKeyBytes : List UInt8) : Except Trap DataSizes :=
  match v with
  | .a => pure .none
  | .b => DataSizes.two <$> authChainBInitDataSize qsort key
  | .c => DataSizes.list0 <$> authChainCInitDataSize qsort key
  | .d | .e => DataSizes.list0 <$> authChainDInitDataSize qsort key
  | .f => DataSizes.list0 <$> authChainFInitDataSize qsort key keyLen datetimeKeyBytes

variable {qsort : List Int → List Int}

theorem pure_ne_throw {α : Type} (x : α) (t : Trap) : (pure x : Except Trap α) ≠ throw t := nofun

/-- A seeding that fits keeps the outcome of what follows it. -/
theorem authChainFInitDataSize_of_fits (key : List UInt8) {keyLen : Nat} (h8 : ¬ keyLen < 8)
    (h16 : keyLen ≤ 16) (datetimeKeyBytes : List UInt8) :
    ∃ l, authChainFInitDataSize qsort key keyLen datetimeKeyBytes = pure l := by
  simp only [authChainFInitDataSize, if_neg h8, shift128plusInitFromBin_of_le _ h16, pure_bind]
  exact ⟨_, rfl⟩

theorem authChainFInitDataSize_of_short (key : List UInt8) {keyLen : Nat} (h8 : keyLen < 8)
    (datetimeKeyBytes : List UInt8) :
    authChainFInitDataSize qsort key keyLen datetimeKeyBytes = throw .bufferOverflow := by
  simp only [authChainFInitDataSize, if_pos h8]
  rfl

theorem authChainFInitDataSize_of_long (key : List UInt8) {keyLen : Nat} (h8 : ¬ keyLen < 8)
    (h16 : 16 < keyLen) (datetimeKeyBytes : List UInt8) :
    authChainFInitDataSize qsort key keyLen datetimeKeyBytes = throw .bufferOverflow := by
  simp only [authChainFInitDataSize, if_neg h8, shift128plusInitFromBin_of_lt h16]
  rfl

/-- Every variant seeds within the buffer and returns its lists unless it is `f` with a key
outside 8 to 16 bytes, which writes past one. -/
theorem authChainSetServerInfo_ok_or_overflow (v : AuthChainVariant) (key : List UInt8)
    (keyLen : Nat) (datetimeKeyBytes : List UInt8) :
    (v = .f ∧ (keyLen < 8 ∨ 16 < keyLen) ∧
        authChainSetServerInfo qsort v key keyLen datetimeKeyBytes = throw .bufferOverflow) ∨
      (¬ (v = .f ∧ (keyLen < 8 ∨ 16 < keyLen)) ∧
        ∃ sizes, authChainSetServerInfo qsort v key keyLen datetimeKeyBytes = pure sizes) := by
  have h16 := shift128plusInitFromBin_of_le key (le_refl 16)
  cases v with
  | a => exact .inr ⟨(fun h => by cases h.1), _, rfl⟩
  | b => exact .inr ⟨(fun h => by cases h.1), _, by simp only [authChainSetServerInfo, authChainBInitDataSize, h16]; rfl⟩
  | c => exact .inr ⟨(fun h => by cases h.1), _, by simp only [authChainSetServerInfo, authChainCInitDataSize, h16]; rfl⟩
  | d => exact .inr ⟨(fun h => by cases h.1), _, by simp only [authChainSetServerInfo, authChainDInitDataSize, h16]; rfl⟩
  | e => exact .inr ⟨(fun h => by cases h.1), _, by simp only [authChainSetServerInfo, authChainDInitDataSize, h16]; rfl⟩
  | f =>
    simp only [authChainSetServerInfo, true_and]
    by_cases h8 : keyLen < 8
    · rw [authChainFInitDataSize_of_short key h8]
      exact .inl ⟨.inl h8, rfl⟩
    by_cases hlong : 16 < keyLen
    · rw [authChainFInitDataSize_of_long key h8 hlong]
      exact .inl ⟨.inr hlong, rfl⟩
    obtain ⟨l, hl⟩ := @authChainFInitDataSize_of_fits qsort key _ h8 (by omega) datetimeKeyBytes
    rw [hl]
    exact .inr ⟨by omega, _, rfl⟩

theorem authChainSetServerInfo_eq_overflow_iff (v : AuthChainVariant) (key : List UInt8)
    (keyLen : Nat) (datetimeKeyBytes : List UInt8) :
    authChainSetServerInfo qsort v key keyLen datetimeKeyBytes = throw .bufferOverflow ↔
      v = .f ∧ (keyLen < 8 ∨ 16 < keyLen) := by
  rcases @authChainSetServerInfo_ok_or_overflow qsort v key keyLen datetimeKeyBytes with
    ⟨hv, hk, h⟩ | ⟨hn, sizes, h⟩
  · exact iff_of_true h ⟨hv, hk⟩
  · rw [h]
    exact iff_of_false (pure_ne_throw _ _) hn

/-- The server keys that do not fit the seed: those of the 24- and 32-byte methods, and a
`table` password outside 8 to 16 bytes. -/
theorem encKeyLen_outside_seed_iff (m : SsCipherType) (pass : List UInt8) :
    (encKeyLen m pass < 8 ∨ 16 < encKeyLen m pass) ↔
      m ∈ [.aes192Cfb, .aes256Cfb, .aes192Ctr, .aes256Ctr, .camellia192Cfb, .camellia256Cfb,
          .salsa20, .chacha20, .chacha20ietf] ∨
        m = .table ∧ (CString.strlen pass < 8 ∨ 16 < CString.strlen pass) := by
  cases m <;> simp [encKeyLen, ssCipherKeySize]

/-- What each variant's `get_rand_len` reads from its context: `b`'s two size lists, `c`'s
size list, and the list of `d`, `e` and `f`, which ends at 1300 or more unless it holds
64 sizes. -/
def DataSizes.Valid : AuthChainVariant → DataSizes → Prop
  | .a, .none => True
  | .b, .two lists => SizeList lists.dataSizeList ∧ SizeList lists.dataSizeList2
  | .c, .list0 l => SizeList l
  | .d, .list0 l | .e, .list0 l | .f, .list0 l => DSizeList l
  | _, _ => False

/-- With a `qsort` that sorts, every `set_server_info` whose seed fits returns the lists
the variant's `get_rand_len` needs. -/
theorem auth_chain_set_server_info_builds_size_lists (hq : IsSort qsort) (v : AuthChainVariant)
    (key : List UInt8) {keyLen : Nat} (hfits : v = .f → 8 ≤ keyLen ∧ keyLen ≤ 16)
    (datetimeKeyBytes : List UInt8) :
    ∃ sizes, authChainSetServerInfo qsort v key keyLen datetimeKeyBytes = pure sizes ∧
      sizes.Valid v := by
  cases v with
  | a => exact ⟨_, rfl, trivial⟩
  | b =>
    obtain ⟨lists, hb, h1, h2⟩ := authChainBInitDataSize_spec hq key
    exact ⟨.two lists, by rw [authChainSetServerInfo, hb]; rfl, h1, h2⟩
  | c =>
    obtain ⟨l, hl, hs⟩ := authChainCInitDataSize_spec hq key
    exact ⟨.list0 l, by rw [authChainSetServerInfo, hl]; rfl, hs⟩
  | d =>
    obtain ⟨l, hl, hs⟩ := authChainDInitDataSize_spec hq key
    exact ⟨.list0 l, by rw [authChainSetServerInfo, hl]; rfl, hs⟩
  | e =>
    -- `e` keeps `d`'s `set_server_info`
    obtain ⟨l, hl, hs⟩ := authChainDInitDataSize_spec hq key
    exact ⟨.list0 l, by rw [authChainSetServerInfo, hl]; rfl, hs⟩
  | f =>
    obtain ⟨h8, h16⟩ := hfits rfl
    obtain ⟨l, hl, hs⟩ := authChainFInitDataSize_spec hq key h8 h16 datetimeKeyBytes
    exact ⟨.list0 l, by rw [authChainSetServerInfo, hl]; rfl, hs⟩

/-- `f` with the 16-byte key of `aes-128-cfb` on the first day of 1970. -/
theorem f_server_info_builds_its_size_list :
    ∃ sizes, authChainSetServerInfo (fun l => l.mergeSort fun a b => decide (a ≤ b)) .f
      (List.replicate 16 7) 16 (keyChangeDatetimeKeyBytes 0) = pure sizes ∧ sizes.Valid .f :=
  auth_chain_set_server_info_builds_size_lists isSort_mergeSort .f _ (fun _ => ⟨by decide, by decide⟩) _

theorem auth_chain_seed_overflows_exactly_for_f_with_a_long_key (v : AuthChainVariant)
    (m : SsCipherType) (pass key datetimeKeyBytes : List UInt8) :
    authChainSetServerInfo qsort v key (encKeyLen m pass) datetimeKeyBytes = throw .bufferOverflow ↔
      v = .f ∧
        (m ∈ [.aes192Cfb, .aes256Cfb, .aes192Ctr, .aes256Ctr, .camellia192Cfb, .camellia256Cfb,
            .salsa20, .chacha20, .chacha20ietf] ∨
          m = .table ∧ (CString.strlen pass < 8 ∨ 16 < CString.strlen pass)) := by
  rw [authChainSetServerInfo_eq_overflow_iff, encKeyLen_outside_seed_iff]

end ShadowsocksR.AuthChain
