import Mathlib.Data.List.Basic
import Mathlib.Data.Nat.Digits
import Mathlib.Tactic.Lemma

/-!
# C strings and `out_string`

`EventsTrace` prints every text field of an event with `out_string`, which walks the field as
a NUL-terminated C string and escapes it byte by byte. This module models a fixed-capacity
`char` array as the list of its bytes, `strlen` as a search that stops at the end of the
array, the two signednesses of plain `char`, the `printf` conversions the printers use, and
the escaping loop of `out_string`.

`strlen` returns `none` when the array holds no NUL: the C call would then read past the
array, and every printer that reaches such a call has no defined output.
-/

namespace EventsTrace

/-! ### `toDigits` -/

/-- The digits `toDigitsCore` has produced so far stay at the end of its result. -/
lemma toDigitsCore_acc (base f n : Nat) (ds : List Char) :
    Nat.toDigitsCore base f n ds = Nat.toDigitsCore base f n [] ++ ds := by
  induction f generalizing n ds with
  | zero => rfl
  | succ f ih =>
    simp only [Nat.toDigitsCore]
    split
    · rfl
    · rw [ih _ (_ :: ds), ih _ [_], List.append_assoc, List.singleton_append]

/-- Any fuel above `n` gives `toDigitsCore` the same result. -/
lemma toDigitsCore_fuel {base : Nat} (hb : 1 < base) :
    ∀ {f f' n : Nat} (ds : List Char), n < f → n < f' →
      Nat.toDigitsCore base f n ds = Nat.toDigitsCore base f' n ds
  | 0, _, _, _, h, _ => absurd h (Nat.not_lt_zero _)
  | _, 0, _, _, _, h => absurd h (Nat.not_lt_zero _)
  | f + 1, f' + 1, n, ds, h, h' => by
    simp only [Nat.toDigitsCore]
    split
    · rfl
    · next hne =>
      have : n / base < n := Nat.div_lt_self (Nat.pos_of_ne_zero fun h0 => hne (by simp [h0])) hb
      exact toDigitsCore_fuel hb _ (by omega) (by omega)

lemma toDigits_of_lt {base n : Nat} (h : n < base) :
    Nat.toDigits base n = [Nat.digitChar n] := by
  simp [Nat.toDigits, Nat.toDigitsCore, Nat.div_eq_of_lt h, Nat.mod_eq_of_lt h]

/-- `toDigits` peels off the last digit of a number with more than one. -/
lemma toDigits_of_le {base n : Nat} (hb : 1 < base) (h : base ≤ n) :
    Nat.toDigits base n = Nat.toDigits base (n / base) ++ [Nat.digitChar (n % base)] := by
  have hd : n / base ≠ 0 := by
    rw [Ne, Nat.div_eq_zero_iff (by omega)]; omega
  have hlt : n / base < n := Nat.div_lt_self (by omega) hb
  rw [Nat.toDigits, Nat.toDigits]
  conv_lhs => rw [Nat.toDigitsCore]
  simp only [hd, if_false]
  rw [toDigitsCore_acc, toDigitsCore_fuel hb [] hlt (Nat.lt_succ_self _)]

/-- Every character `toDigits` writes is the digit of a value below the base. -/
lemma forall_mem_toDigits {P : Char → Prop} {base : Nat} (hb : 1 < base)
    (hd : ∀ d < base, P (Nat.digitChar d)) (n : Nat) : ∀ c ∈ Nat.toDigits base n, P c := by
  induction n using Nat.strong_induction_on with
  | _ n ih =>
    by_cases h : n < base
    · rw [toDigits_of_lt h]
      simpa using hd n h
    · rw [toDigits_of_le hb (by omega), List.forall_mem_append]
      exact ⟨ih _ (Nat.div_lt_self (by omega) hb), by simpa using hd _ (Nat.mod_lt n (by omega))⟩

/-! ### Buffers and `strlen` -/

/-- `strlen` on a fixed-capacity array, searching no further than its end: `none` when the
array holds no NUL. -/
def strlen? : List UInt8 → Option Nat
  | [] => none
  | b :: s => if b = 0 then some 0 else (strlen? s).map (· + 1)

@[simp] lemma strlen?_nil : strlen? [] = none := rfl

lemma strlen?_cons (b : UInt8) (s : List UInt8) :
    strlen? (b :: s) = if b = 0 then some 0 else (strlen? s).map (· + 1) := rfl

/-- `strlen` finds the first NUL: its index is the length of the NUL-free prefix. -/
lemma strlen?_append_nul {s : List UInt8} (hs : 0 ∉ s) (t : List UInt8) :
    strlen? (s ++ 0 :: t) = some s.length := by
  induction s with
  | nil => simp [strlen?_cons]
  | cons b s ih =>
    simp only [List.mem_cons, not_or] at hs
    simp [strlen?_cons, Ne.symm hs.1, ih hs.2]

lemma strlen?_eq_none {s : List UInt8} (hs : 0 ∉ s) : strlen? s = none := by
  induction s with
  | nil => rfl
  | cons b s ih =>
    simp only [List.mem_cons, not_or] at hs
    simp [strlen?_cons, Ne.symm hs.1, ih hs.2]

/-- A buffer holding a NUL splits at its first one. -/
lemma exists_first_nul {s : List UInt8} (h : 0 ∈ s) :
    ∃ p t, s = p ++ 0 :: t ∧ 0 ∉ p := by
  induction s with
  | nil => simp at h
  | cons b s ih =>
    by_cases hb : b = 0
    · exact ⟨[], s, by simp [hb], by simp⟩
    · obtain ⟨p, t, rfl, hp⟩ := ih (by simpa [Ne.symm hb] using h)
      exact ⟨b :: p, t, rfl, by simp [Ne.symm hb, hp]⟩

/-- The C string a fixed-capacity array holds: its bytes before the first NUL, or `none` when
it holds no NUL. -/
def cString? (buf : List UInt8) : Option (List UInt8) := (strlen? buf).map buf.take

lemma cString?_append_nul {s : List UInt8} (hs : 0 ∉ s) (t : List UInt8) :
    cString? (s ++ 0 :: t) = some s := by
  simp [cString?, strlen?_append_nul hs]

lemma cString?_eq_none {s : List UInt8} (hs : 0 ∉ s) : cString? s = none := by
  simp [cString?, strlen?_eq_none hs]

lemma cString?_isSome_iff (s : List UInt8) : (cString? s).isSome ↔ 0 ∈ s := by
  by_cases h : 0 ∈ s
  · obtain ⟨p, t, rfl, hp⟩ := exists_first_nul h
    simp [cString?_append_nul hp, h]
  · simp [cString?_eq_none h, h]

/-- A C string holds no NUL. -/
lemma nul_not_mem_of_cString? {buf s : List UInt8} (h : cString? buf = some s) : 0 ∉ s := by
  by_cases hb : 0 ∈ buf
  · obtain ⟨p, t, rfl, hp⟩ := exists_first_nul hb
    rw [cString?_append_nul hp, Option.some.injEq] at h
    exact h ▸ hp
  · rw [cString?_eq_none hb] at h
    cases h

/-! ### Plain `char` and the `ctype` tests -/

/-- The signedness of plain `char`: signed on x86-64, unsigned on aarch64. -/
inductive CharSign
  | signed
  | unsigned
  deriving DecidableEq, Repr

/-- The `int` value of `char c = value[i]` once promoted, for a byte `b` of the buffer. -/
def CharSign.promote : CharSign → UInt8 → Int
  | .signed, b => if b.toNat < 128 then b.toNat else b.toNat - 256
  | .unsigned, b => b.toNat

/-- `isascii(c)`, that is `(c & ~0x7f) == 0`. -/
def isascii (c : Int) : Bool := decide (0 ≤ c ∧ c < 128)

/-- `iscntrl(c)` in the C locale, on the values `isascii` admits. -/
def iscntrl (c : Int) : Bool := decide ((0 ≤ c ∧ c < 32) ∨ c = 127)

/-! ### `printf` conversions -/

/-- `printf("%lu", v)`. -/
def printfLu (v : Nat) : List Char := Nat.toDigits 10 v

/-- `printf("%ld", v)`. -/
def printfLd : Int → List Char
  | .ofNat m => Nat.toDigits 10 m
  | .negSucc m => '-' :: Nat.toDigits 10 (m + 1)

/-- `printf("%02x", c)` for an `int`: the digits of the `unsigned int` with the same bits,
zero-padded to at least two (`0x100000000` is `UINT_MAX + 1`). -/
def printfHex02 (c : Int) : List Char :=
  let d := Nat.toDigits 16 (c % 0x100000000).toNat
  List.replicate (2 - d.length) '0' ++ d

/-- The two lowercase hex digits of a byte value. -/
def hexByte (n : Nat) : List Char := [Nat.digitChar (n / 16), Nat.digitChar (n % 16)]

lemma printfHex02_of_lt {n : Nat} (h : n < 256) : printfHex02 n = hexByte n := by
  have hm : ((n : Int) % 0x100000000).toNat = n := by omega
  rw [printfHex02, hm, hexByte]
  by_cases h16 : n < 16
  · simp [toDigits_of_lt h16, Nat.div_eq_of_lt h16, Nat.mod_eq_of_lt h16, Nat.digitChar]
  · rw [toDigits_of_le (by decide) (by omega), toDigits_of_lt (by omega)]
    rfl

/-- A byte above `0x7f` read as a signed `char` prints with six leading `f`s. -/
lemma printfHex02_sub_256 {n : Nat} (h : 128 ≤ n) (h' : n < 256) :
    printfHex02 ((n : Int) - 256) = ['f', 'f', 'f', 'f', 'f', 'f'] ++ hexByte n := by
  have hm : (((n : Int) - 256) % 0x100000000).toNat = 0xFFFFFF00 + n := by omega
  have h1 : (0xFFFFFF00 + n) / 16 = 0xFFFFFF0 + n / 16 := by omega
  have h2 : (0xFFFFFF0 + n / 16) / 16 = 0xFFFFFF := by omega
  have h3 : (0xFFFFFF0 + n / 16) % 16 = n / 16 := by omega
  have h4 : (0xFFFFFF00 + n) % 16 = n % 16 := by omega
  rw [printfHex02, hm, toDigits_of_le (by decide) (by omega), h1,
    toDigits_of_le (by decide) (by omega), h2, h3, h4]
  rfl

/-! ### `out_string` -/

/-- `printf("\"%s\":", name)`, the opening of every member an `out_*` printer writes. -/
def outName (name : String) : List Char := '"' :: name.toList ++ ['"', ':']

/-- The body of `out_string`'s loop: what it prints for the byte `b = value[i]`. -/
def outStringChar (sign : CharSign) (b : UInt8) : List Char :=
  let c := sign.promote b
  if c = '\n'.toNat then ['\\', 'n']
  else if c = '\r'.toNat then ['\\', 'r']
  else if c = '\\'.toNat then ['\\', '\\']
  else if c = '"'.toNat then ['\\', '"']
  else if c = '\t'.toNat then ['\\', 't']
  else if c = '\x08'.toNat then ['\\', 'b']
  else if !isascii c || iscntrl c then '\\' :: 'x' :: printfHex02 c
  else [Char.ofNat b.toNat]

/-- What `out_string`'s loop prints for the bytes `s` before the terminator. -/
def escapeString (sign : CharSign) (s : List UInt8) : List Char :=
  s.flatMap (outStringChar sign)

@[simp] lemma escapeString_nil (sign : CharSign) : escapeString sign [] = [] := rfl

@[simp] lemma escapeString_cons (sign : CharSign) (b : UInt8) (s : List UInt8) :
    escapeString sign (b :: s) = outStringChar sign b ++ escapeString sign s := rfl

@[simp] lemma escapeString_append (sign : CharSign) (s t : List UInt8) :
    escapeString sign (s ++ t) = escapeString sign s ++ escapeString sign t := by
  simp [escapeString]

/-- The string literal `out_string` prints for the C string `s`, quotes included. -/
def stringLiteral (sign : CharSign) (s : List UInt8) : List Char :=
  '"' :: escapeString sign s ++ ['"']

/-- `out_string(name, value)`: the loop runs over `value[0 .. strlen(value))`; `none` when
`value` holds no NUL. -/
def outString (sign : CharSign) (name : String) (value : List UInt8) : Option (List Char) :=
  (cString? value).map fun s => outName name ++ stringLiteral sign s

/-- `out_string` prints the bytes before the first NUL. -/
lemma outString_append_nul (sign : CharSign) (name : String) {s : List UInt8} (hs : 0 ∉ s)
    (t : List UInt8) :
    outString sign name (s ++ 0 :: t) = some (outName name ++ stringLiteral sign s) := by
  simp [outString, cString?_append_nul hs]

lemma outString_isSome_iff (sign : CharSign) (name : String) (value : List UInt8) :
    (outString sign name value).isSome ↔ 0 ∈ value := by
  simp [outString, ← cString?_isSome_iff]

end EventsTrace
