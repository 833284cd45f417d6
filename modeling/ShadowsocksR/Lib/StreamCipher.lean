/-
  ShadowsocksR.Lib.StreamCipher — two shapes of a stream cipher, over any state type.

  A keystream cipher XORs byte `j` of a message with byte `n + j` of its keystream, `n`
  being where the message starts in the stream (`xorFrom`). A library's cipher context
  is a state machine `update : σ → List α → Option (σ × List β)` (`none`: the library
  reports an error); it is a stream transform (`IsStream`) when feeding a message in
  two pieces does what feeding it whole does, and `feed` gives it chunks in order.

  Proved: `xorFrom` splits wherever its message does and undoes itself; a block-aligned
  call on a message behind zero padding, with the padding cut off after, is the call from
  the unaligned position (`xorFrom_pad`); a keystream of period `P` may start anywhere
  modulo `P`; and feeding a stream transform chunk by chunk is one update on their
  concatenation (`feed_eq_update`). CFB-128 over any block function (`cfbUpdate`) is such a
  transform, and a context keyed for decryption undoes one keyed for encryption with the same
  key and register (`cfbUpdate_inverse`).
  Nothing here names the program it is used for.
-/

import Mathlib

namespace StreamCipher

/-- The message XORed with the keystream from position `n` on. -/
def xorFrom (ks : Nat → UInt8) : Nat → List UInt8 → List UInt8
  | _, [] => []
  | n, b :: m => (b ^^^ ks n) :: xorFrom ks (n + 1) m

section Keystream

variable (ks : Nat → UInt8)

@[simp] theorem xorFrom_nil (n : Nat) : xorFrom ks n [] = [] := rfl

@[simp] theorem xorFrom_length : ∀ (n : Nat) (m : List UInt8), (xorFrom ks n m).length = m.length
  | _, [] => rfl
  | n, _ :: m => by simp [xorFrom, xorFrom_length (n + 1) m]

theorem xorFrom_append : ∀ (n : Nat) (a b : List UInt8),
    xorFrom ks n (a ++ b) = xorFrom ks n a ++ xorFrom ks (n + a.length) b
  | _, [], _ => rfl
  | n, x :: a, b => by
    simp only [List.cons_append, xorFrom, xorFrom_append (n + 1) a b, List.length_cons]
    rw [Nat.add_assoc, Nat.add_comm 1]

theorem xorFrom_xorFrom : ∀ (n : Nat) (m : List UInt8), xorFrom ks n (xorFrom ks n m) = m
  | _, [] => rfl
  | n, b :: m => by simp [xorFrom, xorFrom_xorFrom (n + 1) m]

/-- The bytes of a message behind `p` bytes of padding, from position `n`, are the
message's own from `n + p`. -/
theorem xorFrom_drop_pad (n : Nat) (pad m : List UInt8) :
    (xorFrom ks n (pad ++ m)).drop pad.length = xorFrom ks (n + pad.length) m := by
  rw [xorFrom_append, List.drop_left' (xorFrom_length ks n pad)]

/-- A call from the block boundary below `c` on `c % B` zero bytes and the message, with
those first bytes cut off, is the message XORed from position `c`. -/
theorem xorFrom_pad (B c : Nat) (m : List UInt8) :
    (xorFrom ks (B * (c / B)) (List.replicate (c % B) 0 ++ m)).drop (c % B) = xorFrom ks c m := by
  have h := xorFrom_drop_pad ks (B * (c / B)) (List.replicate (c % B) 0) m
  rw [List.length_replicate, Nat.div_add_mod] at h
  exact h

/-- A keystream of period `P` reads the same from `n + P * q` as from `n`. -/
theorem xorFrom_periodic {P : Nat} (hP : ∀ j, ks (j + P) = ks j) (q : Nat) :
    ∀ (n : Nat) (m : List UInt8), xorFrom ks (n + P * q) m = xorFrom ks n m := by
  have hks : ∀ j, ks (j + P * q) = ks j := by
    intro j
    induction q with
    | zero => rfl
    | succ q ih => rw [Nat.mul_succ, ← Nat.add_assoc, hP, ih]
  intro n m
  induction m generalizing n with
  | nil => rfl
  | cons b m ih =>
    simp only [xorFrom, hks]
    rw [Nat.add_right_comm, ih]

end Keystream

/-! ## Stateful stream transforms -/

section Transform

variable {σ α β : Type} (update : σ → List α → Option (σ × List β))

/-- The chunks given to `update` one call after another, the outputs concatenated; `none`
as soon as one call fails. -/
def feed : σ → List (List α) → Option (σ × List β)
  | s, [] => some (s, [])
  | s, c :: cs =>
    match update s c with
    | none => none
    | some (s₁, o₁) =>
      match feed s₁ cs with
      | none => none
      | some (s₂, o₂) => some (s₂, o₁ ++ o₂)

/-- A stream transform: an empty message changes nothing, and a message in two pieces is
handled as it is whole. -/
structure IsStream : Prop where
  nil : ∀ s, update s [] = some (s, [])
  append : ∀ s a b, update s (a ++ b) =
    match update s a with
    | none => none
    | some (s₁, o₁) =>
      match update s₁ b with
      | none => none
      | some (s₂, o₂) => some (s₂, o₁ ++ o₂)

variable {update}

theorem feed_eq_update (h : IsStream update) :
    ∀ (s : σ) (cs : List (List α)), feed update s cs = update s cs.flatten := by
  intro s cs
  induction cs generalizing s with
  | nil => exact (h.nil s).symm
  | cons c cs ih =>
    rw [List.flatten_cons, h.append, feed]
    cases update s c with
    | none => rfl
    | some r => simp only [ih]

end Transform

/-! ## A feedback cipher: CFB-128 -/

/-- A CFB-128 context, as `mbedtls_aes_crypt_cfb128` keeps it: the key, the 16-byte feedback
register, the offset into it and the direction. -/
structure CfbCtx where
  key : List UInt8
  iv : List UInt8
  off : Nat
  enc : Bool

section Cfb

variable (E : List UInt8 → List UInt8 → List UInt8)

/-- One byte under the block function `E` (`E key block`): at offset 0 the register is
replaced by its block's image, the byte is XORed with the register at the offset, and the
ciphertext byte takes that place in the register. -/
def cfbByte (c : CfbCtx) (b : UInt8) : CfbCtx × UInt8 :=
  let reg := if c.off = 0 then E c.key c.iv else c.iv
  let out := b ^^^ reg.getD c.off 0
  ({ c with iv := reg.set c.off (if c.enc then out else b), off := (c.off + 1) % 16 }, out)

def cfbUpdate (c : CfbCtx) : List UInt8 → CfbCtx × List UInt8
  | [] => (c, [])
  | b :: m => ((cfbUpdate (cfbByte E c b).1 m).1, (cfbByte E c b).2 :: (cfbUpdate (cfbByte E c b).1 m).2)

@[simp] theorem cfbUpdate_length (c : CfbCtx) (m : List UInt8) : (cfbUpdate E c m).2.length = m.length := by
  induction m generalizing c with
  | nil => rfl
  | cons b m ih => simp [cfbUpdate, ih]

theorem cfbUpdate_append (c : CfbCtx) (a b : List UInt8) :
    cfbUpdate E c (a ++ b) =
      ((cfbUpdate E (cfbUpdate E c a).1 b).1, (cfbUpdate E c a).2 ++ (cfbUpdate E (cfbUpdate E c a).1 b).2) := by
  induction a generalizing c with
  | nil => rfl
  | cons x a ih => simp [cfbUpdate, ih]

/-- The decrypting context a byte meets is the encrypting one with the other direction: both
see the same register, and both write the ciphertext byte into it. -/
theorem cfbByte_inverse {c : CfbCtx} (hc : c.enc = true) (b : UInt8) :
    cfbByte E { c with enc := false } (cfbByte E c b).2 = ({ (cfbByte E c b).1 with enc := false }, b) := by
  simp [cfbByte, hc]

theorem cfbUpdate_inverse {c : CfbCtx} (hc : c.enc = true) (p : List UInt8) :
    cfbUpdate E { c with enc := false } (cfbUpdate E c p).2 = ({ (cfbUpdate E c p).1 with enc := false }, p) := by
  induction p generalizing c with
  | nil => rfl
  | cons b p ih =>
    have henc : (cfbByte E c b).1.enc = true := by simp [cfbByte, hc]
    simp only [cfbUpdate, cfbByte_inverse E hc b, ih henc]

/-- CFB-128 as a library's context: a stream transform that never reports an error. -/
theorem cfbUpdate_isStream : IsStream (fun c m => some (cfbUpdate E c m)) where
  nil _ := rfl
  append c a b := by simp only [cfbUpdate_append]

end Cfb

end StreamCipher
