/-
  ShadowsocksR.NetUtils — `validate_hostname` (netutils.c), the check `do_parse` makes on a
  name before the server resolves it (server.c: a name it refuses shuts the tunnel down).

  The loop walks the name label by label: `strchr` finds the next '.', the label runs up
  to it or to the end of the name, and the label is refused when it is empty or longer
  than 63 bytes, starts or ends with '-', or holds a byte `strspn` does not accept from
  `valid_label_bytes`. Past the label and its dot the loop goes on, so a '.' at the very
  end leaves nothing to check.

  Proved: `validate_hostname_accepts_exactly_hostnames`: for every NUL-free `h` and
  `n = strlen(h)`, `validate_hostname(h, n)` returns 1 exactly when `1 ≤ n ≤ 255` and `h`
  is labels joined by '.', with at most one '.' after the last, each label 1..63 bytes from
  `[A-Za-z0-9_-]` and neither starting nor ending with '-' (`IsHostname`). The grammar as
  the loop reads it, one label then the rest, is `Labels` (`labels_iff`); `loop_iff` is the
  loop's invariant over the text after the labels already checked.
-/

import ShadowsocksR.Lib.CString
import ShadowsocksR.Lib.Bytes

namespace ShadowsocksR.NetUtils

open CString Bytes

def dot : UInt8 := 0x2e

def hyphen : UInt8 := 0x2d

/-- `valid_label_bytes`. -/
def validLabelBytes : List UInt8 :=
  ascii "-0123456789ABCDEFGHIJKLMNOPQRSTUVWXYZ_abcdefghijklmnopqrstuvwxyz"

/-! ## The source -/

/-- `label_len`: up to the next '.', or to the end of the name. -/
def labelLength (hostname : List UInt8) (hostnameLen label : Nat) : Nat :=
  match strchr (hostname.drop label) dot with
  | some nextDot => nextDot
  | none => hostnameLen - label

/-- The `while (label < hostname + hostname_len)` loop of `validate_hostname`, from the
label at offset `label`. -/
def validateHostnameLoop (hostname : List UInt8) (hostnameLen label : Nat) : Bool :=
  if h : label < hostnameLen then
    let labelLen := labelLength hostname hostnameLen label
    if label + labelLen > hostnameLen then false
    else if labelLen > 63 || labelLen < 1 then false
    else if byteAt hostname label == hyphen || byteAt hostname (label + labelLen - 1) == hyphen then
      false
    else if strspn (hostname.drop label) validLabelBytes < labelLen then false
    else validateHostnameLoop hostname hostnameLen (label + labelLen + 1)
  else true
termination_by hostnameLen - label

/-- `validate_hostname(hostname, hostname_len)` on a name that is not `NULL`. -/
def validateHostname (hostname : List UInt8) (hostnameLen : Nat) : Bool :=
  if hostnameLen < 1 || hostnameLen > 255 then false
  else if byteAt hostname 0 == dot then false
  else validateHostnameLoop hostname hostnameLen 0

/-! ## The grammar -/

/-- A label of a host name: 1 to 63 bytes from `[A-Za-z0-9_-]`, not starting or ending
with '-'. -/
structure LabelOk (l : List UInt8) : Prop where
  length_pos : 0 < l.length
  length_le : l.length ≤ 63
  bytes : ∀ b ∈ l, b ∈ validLabelBytes
  head_ne : l.head? ≠ some hyphen
  last_ne : l.getLast? ≠ some hyphen

/-- A host name: 1 to 255 bytes, labels joined by '.', with at most one '.' after the
last. -/
def IsHostname (h : List UInt8) : Prop :=
  1 ≤ h.length ∧ h.length ≤ 255 ∧
    ∃ ls : List (List UInt8), ls ≠ [] ∧ (∀ l ∈ ls, LabelOk l) ∧
      (h = [dot].intercalate ls ∨ h = [dot].intercalate ls ++ [dot])

/-- The same names read one label at a time. -/
inductive Labels : List UInt8 → Prop
  | last {l : List UInt8} : LabelOk l → Labels l
  | lastDot {l : List UInt8} : LabelOk l → Labels (l ++ [dot])
  | cons {l t : List UInt8} : LabelOk l → Labels t → Labels (l ++ dot :: t)

theorem dot_not_mem_validLabelBytes : dot ∉ validLabelBytes := by decide

theorem LabelOk.dot_not_mem {l : List UInt8} (h : LabelOk l) : dot ∉ l :=
  fun hm => dot_not_mem_validLabelBytes (h.bytes dot hm)

/-- A text with no '.' is one label. -/
theorem labels_of_not_mem {t : List UInt8} (hd : dot ∉ t) : Labels t ↔ LabelOk t := by
  constructor
  · intro h
    cases h with
    | last hl => exact hl
    | lastDot => simp at hd
    | cons => simp at hd
  · exact Labels.last

/-- A text whose first '.' ends `l`: the label `l`, then nothing or more labels. -/
theorem labels_append_cons {l t : List UInt8} (hl : dot ∉ l) :
    Labels (l ++ dot :: t) ↔ LabelOk l ∧ (t = [] ∨ Labels t) := by
  constructor
  · intro h
    generalize hx : l ++ dot :: t = x at h
    cases h with
    | last hok =>
      subst hx
      exact absurd (by simp) hok.dot_not_mem
    | @lastDot l₀ hok =>
      obtain ⟨rfl, rfl⟩ := append_cons_inj hok.dot_not_mem hl hx.symm
      exact ⟨hok, Or.inl rfl⟩
    | @cons l₀ t₀ hok ht =>
      obtain ⟨rfl, rfl⟩ := append_cons_inj hok.dot_not_mem hl hx.symm
      exact ⟨hok, Or.inr ht⟩
  · rintro ⟨hok, rfl | ht⟩
    · exact Labels.lastDot hok
    · exact Labels.cons hok ht

theorem intercalate_cons_of_ne_nil (l : List UInt8) {ls : List (List UInt8)} (h : ls ≠ []) :
    [dot].intercalate (l :: ls) = l ++ dot :: [dot].intercalate ls := by
  obtain ⟨l', ls', rfl⟩ := List.exists_cons_of_ne_nil h
  simp [List.intercalate_cons_cons]

theorem labels_iff (t : List UInt8) :
    Labels t ↔ ∃ ls : List (List UInt8), ls ≠ [] ∧ (∀ l ∈ ls, LabelOk l) ∧
      (t = [dot].intercalate ls ∨ t = [dot].intercalate ls ++ [dot]) := by
  constructor
  · intro h
    induction h with
    | @last l hl => exact ⟨[l], by simp, by simpa using hl, Or.inl (by simp)⟩
    | @lastDot l hl => exact ⟨[l], by simp, by simpa using hl, Or.inr (by simp)⟩
    | @cons l t hl _ ih =>
      obtain ⟨ls, hne, hok, heq⟩ := ih
      refine ⟨l :: ls, by simp, ?_, ?_⟩
      · intro l' hl'
        rcases List.mem_cons.mp hl' with rfl | hm
        · exact hl
        · exact hok l' hm
      · rw [intercalate_cons_of_ne_nil l hne]
        rcases heq with rfl | rfl
        · exact Or.inl rfl
        · exact Or.inr (by simp)
  · rintro ⟨ls, hne, hok, heq⟩
    induction ls generalizing t with
    | nil => exact absurd rfl hne
    | cons l ls ih =>
      have hl := hok l List.mem_cons_self
      by_cases hls : ls = []
      · subst hls
        rcases heq with rfl | rfl
        · exact Labels.last (by simpa using hl)
        · exact Labels.lastDot (by simpa using hl)
      · have hrest : ∀ l' ∈ ls, LabelOk l' := fun l' hm => hok l' (List.mem_cons_of_mem l hm)
        rw [intercalate_cons_of_ne_nil l hls] at heq
        rcases heq with rfl | rfl
        · exact Labels.cons hl (ih _ hls hrest (Or.inl rfl))
        · rw [List.append_assoc, List.cons_append]
          exact Labels.cons hl (ih _ hls hrest (Or.inr rfl))

/-- A name of labels starts with a label's byte, never with '.'. -/
theorem Labels.head_ne_dot {t : List UInt8} (h : Labels t) : t.head? ≠ some dot := by
  have key : ∀ {l : List UInt8} (x : List UInt8), LabelOk l → (l ++ x).head? ≠ some dot := by
    intro l x hl
    obtain ⟨b, l', rfl⟩ := List.exists_cons_of_ne_nil (List.ne_nil_of_length_pos hl.length_pos)
    intro hb
    simp only [List.cons_append, List.head?_cons, Option.some.injEq] at hb
    exact hl.dot_not_mem (hb ▸ List.mem_cons_self)
  cases h with
  | @last l hl => simpa using key [] hl
  | lastDot hl => exact key _ hl
  | cons hl _ => exact key _ hl

/-! ## One label -/

theorem head_eq_byteAt_zero {l t : List UInt8} (hp : l <+: t) (hne : l ≠ []) :
    l.head? = some (byteAt t 0) := by
  obtain ⟨b, l', rfl⟩ := List.exists_cons_of_ne_nil hne
  rw [← byteAt_of_prefix_lt hp (by simp)]
  rfl

theorem last_eq_byteAt_pred {l t : List UInt8} (hp : l <+: t) (hne : l ≠ []) :
    l.getLast? = some (byteAt t (l.length - 1)) := by
  have hlt : l.length - 1 < l.length := by
    have := List.length_pos_of_ne_nil hne
    omega
  rw [← byteAt_of_prefix_lt hp hlt, byteAt_eq_getElem hlt, List.getLast?_eq_getElem?,
    List.getElem?_eq_getElem hlt]

/-- The checks `validate_hostname` makes on a label `l` at the front of the text `t` are
`LabelOk l`. -/
theorem label_checks {t l : List UInt8} (ht : NoNul t) (hp : l <+: t) (r : List UInt8) :
    (1 ≤ l.length ∧ l.length ≤ 63 ∧ byteAt t 0 ≠ hyphen ∧ byteAt t (l.length - 1) ≠ hyphen ∧
      l.length ≤ strspn (t ++ 0 :: r) validLabelBytes) ↔ LabelOk l := by
  have hvalid : cstr validLabelBytes = validLabelBytes := cstr_of_noNul (noNul_of_all rfl)
  have hspn := le_strspn_iff ht r validLabelBytes hp.length_le
  rw [hvalid, ← List.prefix_iff_eq_take.mp hp] at hspn
  constructor
  · rintro ⟨h1, h63, hh, hl, hs⟩
    have hne : l ≠ [] := List.ne_nil_of_length_pos h1
    refine ⟨h1, h63, hspn.mp hs, ?_, ?_⟩
    · rw [head_eq_byteAt_zero hp hne]
      simpa using hh
    · rw [last_eq_byteAt_pred hp hne]
      simpa using hl
  · intro h
    have hne : l ≠ [] := List.ne_nil_of_length_pos h.length_pos
    refine ⟨h.length_pos, h.length_le, ?_, ?_, ?_⟩
    · have := h.head_ne
      rw [head_eq_byteAt_zero hp hne] at this
      simpa using this
    · have := h.last_ne
      rw [last_eq_byteAt_pred hp hne] at this
      simpa using this
    · exact hspn.mpr h.bytes

/-! ## The loop -/

section Loop

variable {pre t r : List UInt8}

/-- The text after the labels checked so far, at offset `pre.length` of the buffer. -/
theorem drop_text (pre t r : List UInt8) : (pre ++ t ++ 0 :: r).drop pre.length = t ++ 0 :: r := by
  simp

/-- One turn of the loop: the label `l` at the front of the text passes its checks, and the
loop goes on past it and its dot. -/
theorem loop_step {l : List UInt8} (ht : NoNul t) (hp : l <+: t) (hne : t ≠ [])
    (hlen : labelLength (pre ++ t ++ 0 :: r) (pre.length + t.length) pre.length = l.length) :
    validateHostnameLoop (pre ++ t ++ 0 :: r) (pre.length + t.length) pre.length = true ↔
      LabelOk l ∧
        validateHostnameLoop (pre ++ t ++ 0 :: r) (pre.length + t.length)
          (pre.length + l.length + 1) = true := by
  have hpos := List.length_pos_of_ne_nil hne
  have hle : l.length ≤ t.length := hp.length_le
  have hb0 : byteAt (pre ++ t ++ 0 :: r) pre.length = byteAt t 0 :=
    byteAt_append_field pre t _ hpos
  have hb1 (h1 : 1 ≤ l.length) :
      byteAt (pre ++ t ++ 0 :: r) (pre.length + l.length - 1) = byteAt t (l.length - 1) := by
    rw [show pre.length + l.length - 1 = pre.length + (l.length - 1) by omega]
    exact byteAt_append_field pre t _ (by omega)
  rw [validateHostnameLoop, dif_pos (by omega)]
  simp only [hlen, drop_text]
  rw [← label_checks ht hp r]
  split_ifs with h1 h2 h3 h4
  · omega
  · refine iff_of_false not_false ?_
    rintro ⟨⟨h1', h63, -⟩, -⟩
    simp only [Bool.or_eq_true, decide_eq_true_eq] at h2
    omega
  · refine iff_of_false not_false ?_
    rintro ⟨⟨h1', -, hh, hl, -⟩, -⟩
    rw [hb0, hb1 h1'] at h3
    simp only [Bool.or_eq_true, beq_iff_eq] at h3
    exact h3.elim hh hl
  · refine iff_of_false not_false ?_
    rintro ⟨⟨-, -, -, -, hs⟩, -⟩
    omega
  · simp only [Bool.or_eq_true, decide_eq_true_eq, not_or, not_lt] at h2
    simp only [Bool.or_eq_true, beq_iff_eq, not_or] at h3
    have h1' : 1 ≤ l.length := h2.2
    rw [hb0, hb1 h1'] at h3
    exact ⟨fun h => ⟨⟨h1', h2.1, h3.1, h3.2, by omega⟩, h⟩, fun h => h.2⟩

/-- Past the end of the name the loop stops and accepts. -/
theorem loop_of_le {mem : List UInt8} {n i : Nat} (h : n ≤ i) : validateHostnameLoop mem n i = true := by
  rw [validateHostnameLoop, dif_neg (by omega)]

/-- The loop's invariant: from the label at `pre.length`, it accepts exactly when the rest
of the name is labels. -/
theorem loop_iff (r : List UInt8) : ∀ (n : Nat) (pre t : List UInt8), t.length = n → NoNul t →
    t ≠ [] →
    (validateHostnameLoop (pre ++ t ++ 0 :: r) (pre.length + t.length) pre.length = true ↔
      Labels t) := by
  intro n
  induction n using Nat.strong_induction_on with
  | _ n ih =>
    intro pre t hn ht hne
    by_cases hd : dot ∈ t
    · -- the label ends at the first '.'
      obtain ⟨l, u, hl, rfl⟩ := exists_split_first hd
      have hlen : labelLength (pre ++ (l ++ dot :: u) ++ 0 :: r)
          (pre.length + (l ++ dot :: u).length) pre.length = l.length := by
        rw [labelLength, drop_text, strchr_append_cons ht rfl hl r]
      rw [loop_step ht (List.prefix_append l _) hne hlen, labels_append_cons hl]
      apply and_congr_right
      intro _
      by_cases hu : u = []
      · subst hu
        simp only [true_or, iff_true]
        exact loop_of_le (by simp only [List.length_append, List.length_singleton]; omega)
      · have hu' : NoNul u := fun b hb => ht b (by simp [hb])
        have hmem : pre ++ (l ++ dot :: u) ++ 0 :: r = pre ++ l ++ [dot] ++ u ++ 0 :: r := by simp
        have hlen' : pre.length + (l ++ dot :: u).length = (pre ++ l ++ [dot]).length + u.length := by
          simp only [List.length_append, List.length_cons, List.length_nil]
          omega
        have hi : pre.length + l.length + 1 = (pre ++ l ++ [dot]).length := by
          simp only [List.length_append, List.length_singleton]
        rw [hmem, hlen', hi, ih u.length (by simp at hn; omega) _ u rfl hu' hu]
        simp [hu]
    · -- the label runs to the end of the name
      have hlen : labelLength (pre ++ t ++ 0 :: r) (pre.length + t.length) pre.length = t.length := by
        rw [labelLength, drop_text, strchr_of_not_mem ht hd r]
        simp
      rw [loop_step ht (List.prefix_refl t) hne hlen, labels_of_not_mem hd]
      simp only [and_iff_left_iff_imp]
      exact fun _ => loop_of_le (by omega)

end Loop

theorem validate_hostname_accepts_exactly_hostnames (h r : List UInt8) (hn : NoNul h) :
    validateHostname (h ++ 0 :: r) (strlen (h ++ 0 :: r)) = true ↔ IsHostname h := by
  have hlen : strlen (h ++ 0 :: r) = h.length := by
    rw [strlen, cstr_append_zero_cons, cstr_of_noNul hn]
  rw [hlen, IsHostname, ← labels_iff]
  unfold validateHostname
  by_cases hb : h.length < 1 ∨ h.length > 255
  · rw [if_pos (by simpa using hb)]
    refine iff_of_false Bool.false_ne_true ?_
    rintro ⟨h1, h255, -⟩
    omega
  · rw [if_neg (by simpa using hb)]
    have hne : h ≠ [] := List.ne_nil_of_length_pos (by omega)
    have hloop := loop_iff r h.length [] h rfl hn hne
    simp only [List.nil_append, List.length_nil, Nat.zero_add] at hloop
    by_cases h0 : byteAt (h ++ 0 :: r) 0 = dot
    · -- a leading '.' is refused before the loop
      rw [if_pos (by simpa using h0)]
      refine iff_of_false Bool.false_ne_true ?_
      rintro ⟨-, -, hl⟩
      obtain ⟨b, h', rfl⟩ := List.exists_cons_of_ne_nil hne
      exact hl.head_ne_dot (by simpa using h0)
    · rw [if_neg (by simpa using h0), hloop]
      exact ⟨fun hl => ⟨by omega, by omega, hl⟩, fun hl => hl.2.2⟩

theorem example_com_is_checked_by_the_grammar :
    NoNul (ascii "example.com") ∧
      (validateHostname (ascii "example.com" ++ [0]) (strlen (ascii "example.com" ++ [0])) = true ↔
        IsHostname (ascii "example.com")) :=
  ⟨noNul_of_all rfl, validate_hostname_accepts_exactly_hostnames _ [] (noNul_of_all rfl)⟩

end ShadowsocksR.NetUtils
