/-
ChatSystem.CString — the C string operations the chat system's messaging,
registry and client code are written with.

A C string is modelled by its characters before the terminating NUL: a
`List Char` with no `'\x00'` in it. A `char[n + 1]` array that holds a
terminated string is a `CStr n`, a structure that carries the length bound and
the absence of NUL, so a value that would overflow its array cannot be built.

* `cstr` is what `%s`, `strlen` and `strstr` read of a buffer: everything up to
  the first NUL.
* `CStr.ofList n` is the idiom `strncpy(dst, src, n); dst[n] = '\0';` that
  every copy of the server into a fixed array uses.
* `strncmpEq a b n` is `strncmp(a, b, n) == 0` on terminated strings.
* `isspace` is the classification of the C locale.
* `strstr` and `scanSet` are the two halves of the JSON decoders: `strstr`
  finds the first occurrence of a key, and the `%n[^"]` conversion of `sscanf`
  reads at most `n` characters up to the next double quote. A conversion that
  matches no character fails and leaves its destination as it was, which is
  the empty string in every decoder of `commonMessaging.c`; `scanSet` returns
  the empty string then.
-/
import Mathlib.Data.List.Basic

namespace ChatSystem

/-! ## Terminated strings -/

/-- What `%s`, `strlen` and `strstr` read of a buffer: its characters up to the
first NUL. -/
def cstr (buf : List Char) : List Char := buf.takeWhile (· != '\x00')

/-- The contents of a `char[n + 1]` array that holds a terminated string. -/
structure CStr (n : Nat) where
  chars : List Char
  length_le : chars.length ≤ n
  nul_free : '\x00' ∉ chars
deriving DecidableEq

theorem not_nul_of_mem_cstr {buf : List Char} {c : Char} (h : c ∈ cstr buf) : c ≠ '\x00' := by
  simpa using List.mem_takeWhile_imp h

/-- An array whose first byte is NUL. -/
def CStr.empty : CStr n := ⟨[], Nat.zero_le n, List.not_mem_nil _⟩

/-- `strncpy(dst, src, n); dst[n] = '\0';`: the first `n` characters of the
string `src`. -/
def CStr.ofList (n : Nat) (src : List Char) : CStr n :=
  ⟨(cstr src).take n, List.length_take_le _ _,
    fun h => not_nul_of_mem_cstr (List.mem_of_mem_take h) rfl⟩

/-- A list is a terminated string when it holds no NUL. -/
def NulFree (s : List Char) : Prop := '\x00' ∉ s

instance : DecidablePred NulFree := fun s => inferInstanceAs (Decidable ('\x00' ∉ s))

@[simp] theorem cstr_of_nulFree {s : List Char} (h : NulFree s) : cstr s = s :=
  List.takeWhile_eq_self_iff.mpr fun c hc => by
    have : c ≠ '\x00' := fun e => h (e ▸ hc)
    simpa using this

@[simp] theorem nulFree_append {a b : List Char} : NulFree (a ++ b) ↔ NulFree a ∧ NulFree b := by
  simp [NulFree, not_or]

/-- What `%s` reads is a terminated string. -/
theorem nulFree_cstr (buf : List Char) : NulFree (cstr buf) := fun h => not_nul_of_mem_cstr h rfl

/-- `%s` reads a NUL-free stretch whole and goes on after it. -/
theorem cstr_append_of_nulFree {a : List Char} (h : NulFree a) (b : List Char) :
    cstr (a ++ b) = a ++ cstr b :=
  List.takeWhile_append_of_pos fun c hc => by
    have : c ≠ '\x00' := fun e => h (e ▸ hc)
    simpa using this

/-- `%s` reads on past any other character. -/
@[simp] theorem cstr_cons_of_ne {c : Char} (h : c ≠ '\x00') (b : List Char) :
    cstr (c :: b) = c :: cstr b := by
  simp [cstr, List.takeWhile_cons, h]

/-- `%s` stops at a NUL. -/
@[simp] theorem cstr_nul_cons (b : List Char) : cstr ('\x00' :: b) = [] := by simp [cstr]

/-- Reading a cut buffer is cutting what is read. -/
theorem cstr_take (buf : List Char) (n : Nat) : cstr (buf.take n) = (cstr buf).take n :=
  (List.take_takeWhile _ _).symm

/-- A cut string is still a string. -/
theorem cstr_take_cstr (buf : List Char) (n : Nat) : cstr ((cstr buf).take n) = (cstr buf).take n := by
  rw [cstr_take, cstr_of_nulFree (nulFree_cstr buf)]

/-- `%s` stops at the first NUL, whatever follows it. -/
theorem cstr_append_nul_cons (buf rest : List Char) : cstr (buf ++ '\x00' :: rest) = cstr buf := by
  induction buf with
  | nil => simp [cstr]
  | cons c buf ih => simp only [cstr] at ih ⊢; simp [List.takeWhile_cons, ih]

@[simp] theorem CStr.empty_chars : (CStr.empty : CStr n).chars = [] := rfl

@[simp] theorem CStr.ofList_chars (n : Nat) (src : List Char) :
    (CStr.ofList n src).chars = (cstr src).take n := rfl

/-- Copying a string that fits, into an array it fits in, copies it whole. -/
theorem CStr.ofList_of_fits {s : List Char} (hn : NulFree s) (hl : s.length ≤ n) :
    (CStr.ofList n s).chars = s := by
  simp [cstr_of_nulFree hn, List.take_of_length_le hl]

theorem CStr.ext_chars {a b : CStr n} (h : a.chars = b.chars) : a = b := by
  cases a; cases b; cases h; rfl

/-- A terminated string copied into an array of its own size is unchanged. -/
theorem CStr.ofList_self (s : CStr n) : CStr.ofList n s.chars = s :=
  CStr.ext_chars (CStr.ofList_of_fits s.nul_free s.length_le)

/-- `strncmp(a, b, n) == 0`: the strings agree on their first `n` characters,
the terminator included when one is shorter. -/
def strncmpEq (a b : List Char) (n : Nat) : Bool := (cstr a).take n == (cstr b).take n

/-- `isspace` in the C locale: space, tab, newline, vertical tab, form feed and
carriage return. -/
def isspace (c : Char) : Bool := c == ' ' || (9 ≤ c.toNat && c.toNat ≤ 13)

/-! ## Searching and scanning -/

/-- `strstr(haystack, needle)`: the rest of `haystack` from the first place
`needle` occurs, or `none` (the C `NULL`). -/
def strstr (needle : List Char) : List Char → Option (List Char)
  | [] => if needle.isPrefixOf [] then some [] else none
  | c :: rest =>
    if needle.isPrefixOf (c :: rest) then some (c :: rest) else strstr needle rest

/-- The `%n[^"]` conversion of `sscanf`: at most `n` characters up to the next
double quote (or the end of the string). -/
def scanSet (n : Nat) (s : List Char) : CStr n := CStr.ofList n (s.takeWhile (· != '"'))

theorem strstr_cons (needle : List Char) (c : Char) (rest : List Char) :
    strstr needle (c :: rest) =
      if needle.isPrefixOf (c :: rest) then some (c :: rest) else strstr needle rest := rfl

/-- A haystack that starts with the needle is found at once. -/
theorem strstr_append_self {needle : List Char} (rest : List Char) :
    strstr needle (needle ++ rest) = some (needle ++ rest) := by
  cases h : needle ++ rest with
  | nil => simp_all [strstr]
  | cons c t =>
    have hp : needle.isPrefixOf (c :: t) = true := by
      rw [← h, List.isPrefixOf_iff_prefix]; exact List.prefix_append _ _
    simp [strstr_cons, hp]

/-- `strstr` walks past characters where the needle does not start. -/
theorem strstr_append_of_no_match {needle : List Char} :
    ∀ (pre rest : List Char),
      (∀ k < pre.length, ¬ needle <+: (pre ++ rest).drop k) →
        strstr needle (pre ++ rest) = strstr needle rest
  | [], _, _ => rfl
  | c :: pre, rest, h => by
    have h0 : needle.isPrefixOf (c :: (pre ++ rest)) = false :=
      Bool.eq_false_iff.mpr fun hp => h 0 (by simp) (List.isPrefixOf_iff_prefix.mp hp)
    rw [List.cons_append, strstr_cons, h0, if_neg Bool.false_ne_true]
    exact strstr_append_of_no_match pre rest fun k hk => by
      simpa using h (k + 1) (by simp; omega)

/-- The scan reads a quote-free stretch whole and goes on after it. -/
theorem takeWhile_quote_append {s : List Char} (hq : '"' ∉ s) (rest : List Char) :
    (s ++ rest).takeWhile (· != '"') = s ++ rest.takeWhile (· != '"') :=
  List.takeWhile_append_of_pos fun c hc => by
    have : c ≠ '"' := fun e => hq (e ▸ hc)
    simpa using this

/-- A scan over a field that stops at a double quote reads the field. -/
theorem scanSet_field {s : List Char} (rest : List Char) (hq : '"' ∉ s) (hn : NulFree s)
    (hl : s.length ≤ n) : (scanSet n (s ++ '"' :: rest)).chars = s := by
  rw [scanSet, takeWhile_quote_append hq]
  simpa using CStr.ofList_of_fits hn hl

/-- A scan over a field that fills the array reads the field, whatever
follows. -/
theorem scanSet_of_length {s : List Char} (rest : List Char) (hq : '"' ∉ s) (hn : NulFree s)
    (hl : s.length = n) : (scanSet n (s ++ rest)).chars = s := by
  rw [scanSet, takeWhile_quote_append hq, CStr.ofList_chars, cstr_append_of_nulFree hn, ← hl,
    List.take_left]

/-- A scan over a field of at most the width, which fills the width or is
followed by a double quote, reads the field up to its first double quote. -/
theorem scanSet_append_takeWhile {s : List Char} (rest : List Char) (hn : NulFree s) (hl : s.length ≤ n)
    (hfill : s.length = n ∨ rest.takeWhile (· != '"') = []) :
    (scanSet n (s ++ rest)).chars = s.takeWhile (· != '"') := by
  have hpre := List.takeWhile_prefix (· != '"') (l := s)
  rw [scanSet, CStr.ofList_chars, List.takeWhile_append]
  split
  · next hlen =>
    rw [hpre.eq_of_length hlen, cstr_append_of_nulFree hn]
    rcases hfill with hfull | hq
    · exact List.take_left' hfull
    · rw [hq, show cstr [] = [] from rfl, List.append_nil, List.take_of_length_le hl]
  · rw [cstr_of_nulFree fun h => hn (hpre.subset h), List.take_of_length_le (hpre.length_le.trans hl)]

end ChatSystem
