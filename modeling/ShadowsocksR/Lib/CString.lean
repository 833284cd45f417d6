/-
  CString — NUL-terminated strings over a byte buffer.

  The string functions of C read a buffer up to its first 0 byte: `strlen` counts the
  bytes before it, `strchr` and `strstr` search only there. A buffer here is a list of
  `UInt8`, and a pointer into it an offset; `cstr l` is the string that starts at the
  buffer's first byte. Literals are written as `ascii "…"`.

  Proved here:
  - `cstr_of_noNul`, `strlen_of_noNul`: a buffer with no 0 byte is its own string,
    and `cstr_append_of_noNul`: a NUL-free text before a buffer stays in its string;
  - for one byte, `strchr_append_cons` and `strchr_of_not_mem` say where `strchr`
    stops, and `exists_split_first` / `append_cons_inj` split a text at the first
    occurrence of a byte, uniquely;
  - `le_strspn_iff`: `strspn` reaches `k` exactly when the first `k` bytes are all in
    the accepted set;
  - `strrchr_of_split`: `strrchr` stops at the last occurrence of a byte;
  - `strtol10_ascii_toString`, `atoi_ascii_toString`: what `sprintf` writes for `%d` of a
    number reads back as that number.
-/

import Mathlib

namespace CString

/-- The bytes of a string literal (its characters are ASCII). -/
def ascii (s : String) : List UInt8 := s.toList.map (fun c => c.toNat.toUInt8)

/-- No 0 byte: a text that `sprintf` and `strcat` copy whole. -/
def NoNul (l : List UInt8) : Prop := ∀ b ∈ l, b ≠ 0

instance (l : List UInt8) : Decidable (NoNul l) :=
  inferInstanceAs (Decidable (∀ b ∈ l, b ≠ 0))

/-- The string a buffer holds: its bytes before the first 0. -/
def cstr (l : List UInt8) : List UInt8 := l.takeWhile (· ≠ 0)

/-- `strlen`. -/
def strlen (l : List UInt8) : Nat := (cstr l).length

/-- The offset of the first occurrence of `p` in `l`. -/
def indexOf (p : List UInt8) : List UInt8 → Option Nat
  | [] => if p.isEmpty then some 0 else none
  | b :: l => if p.isPrefixOf (b :: l) then some 0 else (indexOf p l).map (· + 1)

/-- `strstr`: the first occurrence of `p` in the string the buffer holds. -/
def strstr (l p : List UInt8) : Option Nat := indexOf p (cstr l)

/-- `strchr`: the first occurrence of the byte `c` in the string the buffer holds. -/
def strchr (l : List UInt8) (c : UInt8) : Option Nat := indexOf [c] (cstr l)

/-- `strspn`: the length of the string's longest prefix of bytes from the string `accept`. -/
def strspn (l accept : List UInt8) : Nat := ((cstr l).takeWhile fun b => (cstr accept).contains b).length

/-- `strcspn`: the length of the string's longest prefix of bytes not in the string `reject`. -/
def strcspn (l reject : List UInt8) : Nat := ((cstr l).takeWhile fun b => !(cstr reject).contains b).length

/-- The offset of the last occurrence of the byte `c` in `l`. -/
def lastIndexOf (c : UInt8) : List UInt8 → Option Nat
  | [] => none
  | b :: l =>
    match lastIndexOf c l with
    | some i => some (i + 1)
    | none => if b = c then some 0 else none

/-- `strrchr`: the last occurrence of the byte `c` in the string the buffer holds. -/
def strrchr (l : List UInt8) (c : UInt8) : Option Nat := lastIndexOf c (cstr l)

/-- `isspace` in the C locale: blank, tab, newline, vertical tab, form feed, return. -/
def isSpace (b : UInt8) : Bool := b == 0x20 || (0x09 ≤ b && b ≤ 0x0d)

/-- The value of the decimal digits at the front of a string, after `acc`. -/
def digitsValue : List UInt8 → Nat → Nat
  | b :: l, acc => if 0x30 ≤ b ∧ b ≤ 0x39 then digitsValue l (acc * 10 + (b - 0x30).toNat) else acc
  | [], acc => acc

/-- `strtol(s, NULL, 10)` as the C standard specifies it, for a 64-bit `long`: white space,
an optional sign, then the longest run of decimal digits, clamped to `LONG_MIN`..`LONG_MAX`;
0 when no digit follows. -/
def strtol10 (s : List UInt8) : Int :=
  let s := (cstr s).dropWhile isSpace
  let (neg, s) : Bool × List UInt8 :=
    match s with
    | 0x2d :: t => (true, t)
    | 0x2b :: t => (false, t)
    | t => (false, t)
  let v : Int := digitsValue s 0
  max (-2 ^ 63) (min (2 ^ 63 - 1) (if neg then -v else v))

example : strtol10 (ascii " -42x") = -42 := by decide

/-- `atoi`, as glibc has it: `(int) strtol(s, NULL, 10)`, the cast keeping the low 32 bits. -/
def atoi (s : List UInt8) : Int := (strtol10 s).bmod (2 ^ 32)

/-! ## NUL-free texts -/

@[simp] theorem noNul_nil : NoNul [] := by simp [NoNul]

theorem noNul_cons {b : UInt8} {l : List UInt8} : NoNul (b :: l) ↔ b ≠ 0 ∧ NoNul l := by
  simp [NoNul]

@[simp] theorem noNul_append {l r : List UInt8} : NoNul (l ++ r) ↔ NoNul l ∧ NoNul r := by
  simp only [NoNul, List.mem_append]
  constructor
  · intro h
    exact ⟨fun b hb => h b (.inl hb), fun b hb => h b (.inr hb)⟩
  · rintro ⟨hl, hr⟩ b (hb | hb)
    · exact hl b hb
    · exact hr b hb

theorem cstr_append_of_noNul {l : List UInt8} (h : NoNul l) (r : List UInt8) :
    cstr (l ++ r) = l ++ cstr r := by
  induction l with
  | nil => rfl
  | cons b l ih =>
    have hb : b ≠ 0 := h b List.mem_cons_self
    have hl : NoNul l := fun x hx => h x (List.mem_cons_of_mem b hx)
    simp [cstr, hb] at ih ⊢
    exact ih hl

/-- A literal is checked by running `List.all`. -/
theorem noNul_of_all {l : List UInt8} (h : l.all (· != 0) = true) : NoNul l := by
  intro b hb
  simpa using List.all_eq_true.mp h b hb

/-- What `strlen` counts has no 0 byte. -/
theorem noNul_cstr (l : List UInt8) : NoNul (cstr l) := by
  intro b hb
  simpa using List.mem_takeWhile_imp hb

theorem cstr_of_noNul {l : List UInt8} (h : NoNul l) : cstr l = l := by
  simpa [cstr] using cstr_append_of_noNul h []

/-- A string as a program holds it: its bytes, none of them NUL. -/
@[ext] structure Str where
  bytes : List UInt8
  noNul : NoNul bytes
  deriving DecidableEq

/-- `strdup`: a copy of the string the buffer holds. -/
def strdup (l : List UInt8) : Str := ⟨cstr l, noNul_cstr l⟩

theorem strdup_bytes (s : Str) : strdup s.bytes = s :=
  Str.ext (cstr_of_noNul s.noNul)

theorem strlen_of_noNul {l : List UInt8} (h : NoNul l) : strlen l = l.length := by
  rw [strlen, cstr_of_noNul h]

/-- A 0 after a text ends the string there, whatever comes before it. -/
theorem cstr_append_zero_cons (l r : List UInt8) : cstr (l ++ 0 :: r) = cstr l := by
  induction l with
  | nil => simp [cstr]
  | cons b l ih =>
    by_cases hb : b = 0
    · simp [cstr, hb]
    · simp [cstr, hb] at ih ⊢
      exact ih

/-- What a decoder writes before its NUL is what `strdup` copies. -/
theorem strdup_append_zero (s : Str) (r : List UInt8) : strdup (s.bytes ++ 0 :: r) = s :=
  Str.ext (show cstr (s.bytes ++ 0 :: r) = s.bytes by rw [cstr_append_zero_cons, cstr_of_noNul s.noNul])

theorem take_strlen (l : List UInt8) : l.take (strlen l) = cstr l :=
  (List.prefix_iff_eq_take.mp (List.takeWhile_prefix _)).symm

theorem strlen_le_length (l : List UInt8) : strlen l ≤ l.length :=
  (List.takeWhile_prefix _).length_le

theorem strlen_lt_of_not_noNul {l : List UInt8} (h : ¬ NoNul l) : strlen l < l.length := by
  refine lt_of_le_of_ne (strlen_le_length l) fun heq => h ?_
  have hc : cstr l = l := by rw [← take_strlen, heq, List.take_length]
  rw [← hc]
  exact noNul_cstr l

/-! ## Searching -/

theorem isPrefixOf_iff {p l : List UInt8} : p.isPrefixOf l = true ↔ p <+: l :=
  List.isPrefixOf_iff_prefix

/-! ## One byte -/

/-- A text holding a byte splits at its first occurrence. -/
theorem exists_split_first {c : UInt8} {l : List UInt8} (h : c ∈ l) :
    ∃ s u, c ∉ s ∧ l = s ++ c :: u := by
  induction l with
  | nil => cases h
  | cons b l ih =>
    by_cases hb : b = c
    · exact ⟨[], l, List.not_mem_nil, by rw [hb]; rfl⟩
    · obtain ⟨s, u, hs, rfl⟩ := ih (List.mem_of_ne_of_mem (Ne.symm hb) h)
      refine ⟨b :: s, u, ?_, rfl⟩
      simp [Ne.symm hb, hs]

/-- The split at a first occurrence is unique. -/
theorem append_cons_inj {c : UInt8} {s s' u u' : List UInt8} (hs : c ∉ s) (hs' : c ∉ s')
    (h : s ++ c :: u = s' ++ c :: u') : s = s' ∧ u = u' := by
  induction s generalizing s' with
  | nil =>
    cases s' with
    | nil => simpa using h
    | cons b s' =>
      simp only [List.nil_append, List.cons_append, List.cons.injEq] at h
      exact absurd (h.1 ▸ List.mem_cons_self) hs'
  | cons b s ih =>
    cases s' with
    | nil =>
      simp only [List.nil_append, List.cons_append, List.cons.injEq] at h
      exact absurd (h.1 ▸ List.mem_cons_self) hs
    | cons b' s' =>
      simp only [List.cons_append, List.cons.injEq] at h
      obtain ⟨rfl, h⟩ := h
      have := ih (fun hm => hs (List.mem_cons_of_mem b hm)) (fun hm => hs' (List.mem_cons_of_mem b hm)) h
      exact ⟨by rw [this.1], this.2⟩

theorem indexOf_singleton_append {c : UInt8} {l : List UInt8} (hc : c ∉ l) (r : List UInt8) :
    indexOf [c] (l ++ c :: r) = some l.length := by
  induction l with
  | nil => simp [indexOf]
  | cons b l ih =>
    have hb : c ≠ b := by
      rintro rfl
      exact hc List.mem_cons_self
    rw [List.cons_append, indexOf, ih (fun h => hc (List.mem_cons_of_mem b h))]
    simp [hb]

theorem indexOf_singleton_of_not_mem {c : UInt8} {l : List UInt8} (hc : c ∉ l) :
    indexOf [c] l = none := by
  induction l with
  | nil => simp [indexOf]
  | cons b l ih =>
    have hb : c ≠ b := by
      rintro rfl
      exact hc List.mem_cons_self
    rw [indexOf, ih (fun h => hc (List.mem_cons_of_mem b h))]
    simp [hb]

/-- `strchr` on a NUL-terminated text stops at the first occurrence of the byte. -/
theorem strchr_append_cons {t : List UInt8} (ht : NoNul t) {c : UInt8} {l u : List UInt8}
    (hl : t = l ++ c :: u) (hc : c ∉ l) (r : List UInt8) : strchr (t ++ 0 :: r) c = some l.length := by
  rw [strchr, cstr_append_zero_cons, cstr_of_noNul ht, hl, indexOf_singleton_append hc]

theorem strchr_of_not_mem {t : List UInt8} (ht : NoNul t) {c : UInt8} (hc : c ∉ t) (r : List UInt8) :
    strchr (t ++ 0 :: r) c = none := by
  rw [strchr, cstr_append_zero_cons, cstr_of_noNul ht, indexOf_singleton_of_not_mem hc]

theorem le_length_takeWhile_iff (p : UInt8 → Bool) {t : List UInt8} {k : Nat} (hk : k ≤ t.length) :
    k ≤ (t.takeWhile p).length ↔ ∀ b ∈ t.take k, p b = true := by
  induction t generalizing k with
  | nil => simp at hk; simp [hk]
  | cons b t ih =>
    cases k with
    | zero => simp
    | succ k =>
      have hk' : k ≤ t.length := by simpa using hk
      by_cases hb : p b = true
      · simp [hb, ih hk']
      · simp [hb]

/-- `strspn` of a NUL-terminated text reaches `k` exactly when its first `k` bytes are
accepted. -/
theorem le_strspn_iff {t : List UInt8} (ht : NoNul t) (r accept : List UInt8) {k : Nat}
    (hk : k ≤ t.length) : k ≤ strspn (t ++ 0 :: r) accept ↔ ∀ b ∈ t.take k, b ∈ cstr accept := by
  rw [strspn, cstr_append_zero_cons, cstr_of_noNul ht, le_length_takeWhile_iff _ hk]
  simp

/-! ## The last occurrence of a byte -/

theorem lastIndexOf_of_not_mem {c : UInt8} {l : List UInt8} (hc : c ∉ l) : lastIndexOf c l = none := by
  induction l with
  | nil => rfl
  | cons b l ih =>
    have hb : b ≠ c := by
      rintro rfl
      exact hc List.mem_cons_self
    rw [lastIndexOf, ih (fun h => hc (List.mem_cons_of_mem b h))]
    simp [hb]

theorem lastIndexOf_append_cons (c : UInt8) (l : List UInt8) {u : List UInt8} (hu : c ∉ u) :
    lastIndexOf c (l ++ c :: u) = some l.length := by
  induction l with
  | nil => simp [lastIndexOf, lastIndexOf_of_not_mem hu]
  | cons b l ih => simp [lastIndexOf, ih]

/-- `strrchr` on a string stops at the last occurrence of the byte. -/
theorem strrchr_of_split {t : List UInt8} (ht : NoNul t) {c : UInt8} {l u : List UInt8}
    (hl : t = l ++ c :: u) (hu : c ∉ u) : strrchr t c = some l.length := by
  rw [strrchr, cstr_of_noNul ht, hl, lastIndexOf_append_cons c l hu]

/-- `strchr` on a string stops at the first occurrence of the byte. -/
theorem strchr_of_split {t : List UInt8} (ht : NoNul t) {c : UInt8} {l u : List UInt8}
    (hl : t = l ++ c :: u) (hc : c ∉ l) : strchr t c = some l.length := by
  rw [strchr, cstr_of_noNul ht, hl, indexOf_singleton_append hc]

/-! ## Decimal numbers

`sprintf`'s `%d` of a number that is not negative writes `Nat.toDigits 10`, as
`toString` does; `strtol` reads the digits back.
-/

theorem digitsValue_append {l : List UInt8} (hl : ∀ b ∈ l, 0x30 ≤ b ∧ b ≤ 0x39) (r : List UInt8)
    (acc : Nat) : digitsValue (l ++ r) acc = digitsValue r (digitsValue l acc) := by
  induction l generalizing acc with
  | nil => rfl
  | cons b l ih =>
    have hb := hl b List.mem_cons_self
    rw [List.cons_append, digitsValue, digitsValue, if_pos hb, if_pos hb]
    exact ih (fun x hx => hl x (List.mem_cons_of_mem b hx)) _

theorem ascii_toString (n : Nat) :
    ascii (toString n) = (Nat.toDigits 10 n).map (fun c => c.toNat.toUInt8) := by
  simp [ascii, toString, Nat.repr]

theorem toDigits_ten_of_le {n : Nat} (h : 10 ≤ n) :
    Nat.toDigits 10 n = Nat.toDigits 10 (n / 10) ++ [Nat.digitChar (n % 10)] := by
  have hd : n % 10 < 10 := Nat.mod_lt n (by decide)
  rw [← Nat.toDigits_of_lt_base hd,
    Nat.toDigits_append_toDigits (by decide) (Nat.div_pos h (by decide)) hd, Nat.div_add_mod]

theorem digitChar_byte : ∀ d < 10,
    0x30 ≤ (Nat.digitChar d).toNat.toUInt8 ∧ (Nat.digitChar d).toNat.toUInt8 ≤ 0x39 ∧
      ((Nat.digitChar d).toNat.toUInt8 - 0x30).toNat = d := by
  decide

/-- The digits of `n` are decimal digits, and `strtol`'s loop reads them back as `n`. -/
theorem digitsValue_ascii_toString (n : Nat) :
    (∀ b ∈ ascii (toString n), 0x30 ≤ b ∧ b ≤ 0x39) ∧ digitsValue (ascii (toString n)) 0 = n := by
  rw [ascii_toString]
  induction n using Nat.strong_induction_on with
  | _ n ih =>
    by_cases h : n < 10
    · obtain ⟨h1, h2, h3⟩ := digitChar_byte n h
      rw [Nat.toDigits_of_lt_base h]
      simp [digitsValue, h1, h2, h3]
    · obtain ⟨hd, hv⟩ := ih (n / 10) (Nat.div_lt_self (by omega) (by decide))
      obtain ⟨h1, h2, h3⟩ := digitChar_byte (n % 10) (Nat.mod_lt n (by decide))
      rw [toDigits_ten_of_le (by omega), List.map_append, digitsValue_append hd]
      refine ⟨?_, ?_⟩
      · intro b hb
        rcases List.mem_append.1 hb with hb | hb
        · exact hd b hb
        · simp only [List.map_cons, List.map_nil, List.mem_singleton] at hb
          exact hb ▸ ⟨h1, h2⟩
      · simp only [List.map_cons, List.map_nil, digitsValue, if_pos (And.intro h1 h2), hv, h3]
        omega

theorem noNul_ascii_toString (n : Nat) : NoNul (ascii (toString n)) := by
  intro b hb h0
  have := ((digitsValue_ascii_toString n).1 b hb).1
  rw [h0] at this
  exact absurd this (by decide)

/-- `strtol` reads back what `sprintf` writes for `%d`. -/
theorem strtol10_ascii_toString {n : Nat} (h : n < 2 ^ 63) : strtol10 (ascii (toString n)) = n := by
  obtain ⟨hd, hv⟩ := digitsValue_ascii_toString n
  obtain ⟨b, t, hbt⟩ : ∃ b t, ascii (toString n) = b :: t := by
    rw [ascii_toString]
    cases hl : Nat.toDigits 10 n with
    | nil => exact absurd hl Nat.toDigits_ne_nil
    | cons c l => exact ⟨_, _, rfl⟩
  have hb := hd b (by rw [hbt]; exact List.mem_cons_self)
  have hsp : isSpace b = false := by
    have h48 := UInt8.le_iff_toNat_le.1 hb.1
    simp only [isSpace, Bool.or_eq_false_iff, beq_eq_false_iff_ne, Bool.and_eq_false_iff,
      decide_eq_false_iff_not, UInt8.le_iff_toNat_le, ne_eq, ← UInt8.toNat_inj] at h48 ⊢
    simp only [UInt8.reduceToNat] at h48 ⊢
    omega
  unfold strtol10
  rw [cstr_of_noNul (noNul_ascii_toString n), hbt, List.dropWhile_cons_of_neg (by simp [hsp])]
  dsimp only
  split
  · next heq => exact absurd (List.cons.inj heq).1 (by rintro rfl; exact absurd hb (by decide))
  · next heq => exact absurd (List.cons.inj heq).1 (by rintro rfl; exact absurd hb (by decide))
  · rw [← hbt, hv]
    simp only [Bool.false_eq_true, if_false]
    omega

/-- `atoi` reads back what `sprintf` writes for `%d` of an `int`. -/
theorem atoi_ascii_toString {n : Nat} (h : n < 2 ^ 31) : atoi (ascii (toString n)) = n := by
  rw [atoi, strtol10_ascii_toString (by omega), Int.bmod_def,
    Int.emod_eq_of_lt (by omega) (by omega), if_pos (by omega)]

end CString
