import EventsTrace.CString
import Mathlib.Algebra.Group.Nat.Even
import Mathlib.Algebra.Ring.Parity

/-!
# Escaping in `out_string`

What `out_string` prints for one byte depends on the byte and on the signedness of plain
`char`. Below `0x80` both signednesses print the escape the spec describes: a named escape, the
character itself, or `\x` and two hex digits. Above, an unsigned `char` prints `\x` and two
digits, while a signed one is promoted to a negative `int` and `printf("\\x%02x", c)` writes
all eight digits of its `unsigned int` image.

Either way the string literal `out_string` writes is printable ASCII, cannot be closed early
by the string's own bytes, and determines the string: each signedness has a decoder that
inverts it.
-/

namespace EventsTrace

/-! ### Characters -/

lemma Char.toNat_ofNat_of_lt {n : Nat} (h : n < 0xd800) : (Char.ofNat n).toNat = n := by
  have hv : n.isValidChar := Or.inl h
  simp only [Char.ofNat, hv, dite_true, Char.ofNatAux, Char.toNat, UInt32.toNat]
  simp

lemma UInt8.toUInt8_toNat (b : UInt8) : b.toNat.toUInt8 = b :=
  UInt8.toNat.inj (UInt8.toNat_ofNat_of_lt (UInt8.toNat_lt_size b))

lemma UInt8.eq_of_toNat_eq {b : UInt8} {n : Nat} (h : b.toNat = n) : b = n.toUInt8 := by
  rw [← h, UInt8.toUInt8_toNat]

/-- A printable ASCII character, `0x20` to `0x7e`. -/
def IsPrintableAscii (c : Char) : Prop := 0x20 ≤ c.toNat ∧ c.toNat ≤ 0x7e

instance : DecidablePred IsPrintableAscii := fun _ => inferInstanceAs (Decidable (_ ∧ _))

/-- The value of a lowercase hex digit. -/
def hexVal? (c : Char) : Option Nat :=
  if '0' ≤ c ∧ c ≤ '9' then some (c.toNat - '0'.toNat)
  else if 'a' ≤ c ∧ c ≤ 'f' then some (c.toNat - 'a'.toNat + 10) else none

/-- The byte two hex digits spell. -/
def hexPair? (h l : Char) : Option Nat := do
  let a ← hexVal? h
  let b ← hexVal? l
  pure (a * 16 + b)

/-- Everything the escapes need of a hex digit. -/
lemma digitChar_hex : ∀ d < 16, IsPrintableAscii (Nat.digitChar d) ∧
    Nat.digitChar d ≠ '"' ∧ Nat.digitChar d ≠ '\\' ∧ hexVal? (Nat.digitChar d) = some d := by
  decide

lemma hexPair?_hexByte {n : Nat} (h : n < 256) :
    hexPair? (Nat.digitChar (n / 16)) (Nat.digitChar (n % 16)) = some n := by
  simp only [hexPair?, (digitChar_hex (n / 16) (by omega)).2.2.2,
    (digitChar_hex (n % 16) (by omega)).2.2.2]
  simp only [Option.bind_eq_bind, Option.some_bind, pure, Option.some.injEq]
  omega

/-! ### What `out_string` prints for a byte -/

/-- The escape the spec asks of a byte of a text field: the six named escapes for newline,
carriage return, backslash, double quote, tab and backspace, `\x` with two lowercase hex
digits for a byte that is not printable ASCII, and the character itself otherwise. -/
def specEscape (b : UInt8) : List Char :=
  if b.toNat = 10 then ['\\', 'n']
  else if b.toNat = 13 then ['\\', 'r']
  else if b.toNat = 92 then ['\\', '\\']
  else if b.toNat = 34 then ['\\', '"']
  else if b.toNat = 9 then ['\\', 't']
  else if b.toNat = 8 then ['\\', 'b']
  else if b.toNat < 0x20 ∨ 0x7e < b.toNat then '\\' :: 'x' :: hexByte b.toNat
  else [Char.ofNat b.toNat]

/-- The byte a named escape stands for. -/
def namedEscape? : Char → Option UInt8
  | 'n' => some 10
  | 'r' => some 13
  | '\\' => some 92
  | '"' => some 34
  | 't' => some 9
  | 'b' => some 8
  | _ => none

/-- The cases of `specEscape`: one of the six named escapes, `\\x` and two hex digits for a byte
outside printable ASCII, or the character itself. -/
lemma specEscape_cases (b : UInt8) :
    (∃ e, specEscape b = ['\\', e] ∧ namedEscape? e = some b ∧ IsPrintableAscii e) ∨
    ((b.toNat < 0x20 ∨ 0x7e < b.toNat) ∧ specEscape b = '\\' :: 'x' :: hexByte b.toNat) ∨
    (0x20 ≤ b.toNat ∧ b.toNat ≤ 0x7e ∧ b.toNat ≠ 92 ∧ b.toNat ≠ 34 ∧
      specEscape b = [Char.ofNat b.toNat]) := by
  unfold specEscape
  by_cases h1 : b.toNat = 10
  · exact .inl ⟨'n', if_pos h1, by rw [UInt8.eq_of_toNat_eq h1]; rfl, by decide⟩
  rw [if_neg h1]
  by_cases h2 : b.toNat = 13
  · exact .inl ⟨'r', if_pos h2, by rw [UInt8.eq_of_toNat_eq h2]; rfl, by decide⟩
  rw [if_neg h2]
  by_cases h3 : b.toNat = 92
  · exact .inl ⟨'\\', if_pos h3, by rw [UInt8.eq_of_toNat_eq h3]; rfl, by decide⟩
  rw [if_neg h3]
  by_cases h4 : b.toNat = 34
  · exact .inl ⟨'"', if_pos h4, by rw [UInt8.eq_of_toNat_eq h4]; rfl, by decide⟩
  rw [if_neg h4]
  by_cases h5 : b.toNat = 9
  · exact .inl ⟨'t', if_pos h5, by rw [UInt8.eq_of_toNat_eq h5]; rfl, by decide⟩
  rw [if_neg h5]
  by_cases h6 : b.toNat = 8
  · exact .inl ⟨'b', if_pos h6, by rw [UInt8.eq_of_toNat_eq h6]; rfl, by decide⟩
  rw [if_neg h6]
  by_cases h7 : b.toNat < 0x20 ∨ 0x7e < b.toNat
  · exact .inr (.inl ⟨h7, if_pos h7⟩)
  · exact .inr (.inr ⟨by omega, by omega, h3, h4, if_neg h7⟩)

lemma promote_of_lt (sign : CharSign) {b : UInt8} (h : b.toNat < 128) :
    sign.promote b = b.toNat := by
  cases sign <;> simp [CharSign.promote, h]

/-- The tests of `out_string`'s loop as arithmetic on the promoted `char`. -/
lemma outStringChar_def (sign : CharSign) (b : UInt8) : outStringChar sign b =
    let c := sign.promote b
    if c = 10 then ['\\', 'n'] else if c = 13 then ['\\', 'r']
    else if c = 92 then ['\\', '\\'] else if c = 34 then ['\\', '"']
    else if c = 9 then ['\\', 't'] else if c = 8 then ['\\', 'b']
    else if ¬ (0 ≤ c ∧ c < 128) ∨ ((0 ≤ c ∧ c < 32) ∨ c = 127) then
      '\\' :: 'x' :: printfHex02 c
    else [Char.ofNat b.toNat] := by
  simp only [outStringChar, isascii, iscntrl, Char.reduceToNat, Bool.or_eq_true,
    Bool.not_eq_true', decide_eq_false_iff_not, decide_eq_true_eq]
  rfl

/-- Below `0x80` the signedness of `char` does not matter: `out_string` prints the spec's
escape. -/
lemma outStringChar_of_lt (sign : CharSign) {b : UInt8} (h : b.toNat < 128) :
    outStringChar sign b = specEscape b := by
  have hc : (¬ (0 ≤ (b.toNat : Int) ∧ (b.toNat : Int) < 128) ∨
      ((0 ≤ (b.toNat : Int) ∧ (b.toNat : Int) < 32) ∨ (b.toNat : Int) = 127)) ↔
      (b.toNat < 0x20 ∨ 0x7e < b.toNat) := by omega
  simp only [outStringChar_def, promote_of_lt sign h, hc, specEscape,
    printfHex02_of_lt (show b.toNat < 256 by omega)]
  norm_cast

lemma outStringChar_unsigned_of_ge {b : UInt8} (h : 128 ≤ b.toNat) :
    outStringChar .unsigned b = '\\' :: 'x' :: hexByte b.toNat := by
  have hb : b.toNat < 256 := UInt8.toNat_lt_size b
  simp (disch := omega) only [outStringChar_def, CharSign.promote, if_pos, if_neg,
    printfHex02_of_lt hb]

/-- Above `0x7f` a signed `char` is negative, and `%02x` prints its eight digits. -/
lemma outStringChar_signed_of_ge {b : UInt8} (h : 128 ≤ b.toNat) :
    outStringChar .signed b =
      '\\' :: 'x' :: (['f', 'f', 'f', 'f', 'f', 'f'] ++ hexByte b.toNat) := by
  have hb : b.toNat < 256 := UInt8.toNat_lt_size b
  simp (disch := omega) only [outStringChar_def, CharSign.promote, if_pos, if_neg,
    printfHex02_sub_256 h hb]

/-- With unsigned `char`, `out_string` prints exactly the spec's escape of every byte. -/
lemma outStringChar_unsigned (b : UInt8) : outStringChar .unsigned b = specEscape b := by
  by_cases h : b.toNat < 128
  · exact outStringChar_of_lt _ h
  · simp (disch := omega) only [outStringChar_unsigned_of_ge, specEscape, if_pos, if_neg]

/-- Every byte is printed as the spec's escape or, for a signed `char` above `0x7f`, as `\x`
and eight hex digits. -/
lemma outStringChar_cases (sign : CharSign) (b : UInt8) :
    outStringChar sign b = specEscape b ∨ (128 ≤ b.toNat ∧
      outStringChar sign b = '\\' :: 'x' :: (['f', 'f', 'f', 'f', 'f', 'f'] ++ hexByte b.toNat)) := by
  by_cases h : b.toNat < 128
  · exact .inl (outStringChar_of_lt sign h)
  · cases sign
    · exact .inr ⟨by omega, outStringChar_signed_of_ge (by omega)⟩
    · exact .inl (outStringChar_unsigned b)

/-! ### The literal is printable and cannot be closed early -/

/-- A string body in which every `"` and `\` is escaped: plain characters other than `"` and
`\`, and escapes made of `\` and one more character. -/
inductive EscapedBody : List Char → Prop
  | nil : EscapedBody []
  | plain {c : Char} {s : List Char} (hq : c ≠ '"') (hb : c ≠ '\\') :
      EscapedBody s → EscapedBody (c :: s)
  | escape (c : Char) {s : List Char} : EscapedBody s → EscapedBody ('\\' :: c :: s)

lemma EscapedBody.append {s t : List Char} (hs : EscapedBody s) (ht : EscapedBody t) :
    EscapedBody (s ++ t) := by
  induction hs with
  | nil => exact ht
  | plain hq hb _ ih => exact .plain hq hb ih
  | escape c _ ih => exact .escape c ih

lemma EscapedBody.of_forall {s : List Char} (h : ∀ c ∈ s, c ≠ '"' ∧ c ≠ '\\') :
    EscapedBody s := by
  induction s with
  | nil => exact .nil
  | cons c s ih =>
    simp only [List.mem_cons, forall_eq_or_imp] at h
    exact .plain h.1.1 h.1.2 (ih h.2)

lemma hexByte_chars {n : Nat} (h : n < 256) :
    ∀ c ∈ hexByte n, IsPrintableAscii c ∧ c ≠ '"' ∧ c ≠ '\\' := by
  simp only [hexByte, List.mem_cons, List.mem_singleton, List.not_mem_nil, or_false]
  rintro c (rfl | rfl)
  · exact (digitChar_hex _ (by omega)).imp_right fun h => ⟨h.1, h.2.1⟩
  · exact (digitChar_hex _ (by omega)).imp_right fun h => ⟨h.1, h.2.1⟩

/-- The characters of an escape: `\`, then characters that are neither `"` nor `\`. -/
lemma escape_chars {e : Char} {t : List Char} (he : IsPrintableAscii e)
    (ht : ∀ c ∈ t, IsPrintableAscii c ∧ c ≠ '"' ∧ c ≠ '\\') :
    EscapedBody ('\\' :: e :: t) ∧ ∀ c ∈ '\\' :: e :: t, IsPrintableAscii c := by
  refine ⟨.escape e (.of_forall fun c hc => (ht c hc).2), ?_⟩
  simp only [List.mem_cons, forall_eq_or_imp]
  exact ⟨by decide, he, fun c hc => (ht c hc).1⟩

lemma specEscape_safe (b : UInt8) :
    EscapedBody (specEscape b) ∧ ∀ c ∈ specEscape b, IsPrintableAscii c := by
  have hnil : ∀ c ∈ ([] : List Char), IsPrintableAscii c ∧ c ≠ '"' ∧ c ≠ '\\' := by simp
  rcases specEscape_cases b with ⟨e, he, -, hp⟩ | ⟨-, he⟩ | ⟨h1, h2, h92, h34, he⟩ <;> rw [he]
  · exact escape_chars hp hnil
  · exact escape_chars (by decide) (hexByte_chars (UInt8.toNat_lt_size b))
  · have hc := Char.toNat_ofNat_of_lt (show b.toNat < 0xd800 by omega)
    have hp : IsPrintableAscii (Char.ofNat b.toNat) := by
      simp only [IsPrintableAscii, hc]; omega
    refine ⟨.plain ?_ ?_ .nil, by simpa using hp⟩
    · intro h; have := congrArg Char.toNat h; simp only [hc, Char.reduceToNat] at this; omega
    · intro h; have := congrArg Char.toNat h; simp only [hc, Char.reduceToNat] at this; omega

lemma outStringChar_safe (sign : CharSign) (b : UInt8) :
    EscapedBody (outStringChar sign b) ∧ ∀ c ∈ outStringChar sign b, IsPrintableAscii c := by
  rcases outStringChar_cases sign b with h | ⟨-, h⟩ <;> rw [h]
  · exact specEscape_safe b
  · refine escape_chars (by decide) fun c hc => ?_
    simp only [List.mem_append, List.mem_cons, List.mem_singleton, List.not_mem_nil,
      or_false] at hc
    rcases hc with (rfl | rfl | rfl | rfl | rfl | rfl) | hc
    any_goals decide
    exact hexByte_chars (UInt8.toNat_lt_size b) c hc

lemma escapeString_safe (sign : CharSign) (s : List UInt8) :
    EscapedBody (escapeString sign s) ∧ ∀ c ∈ escapeString sign s, IsPrintableAscii c := by
  induction s with
  | nil => exact ⟨.nil, by simp⟩
  | cons b s ih =>
    obtain ⟨hb, hb'⟩ := outStringChar_safe sign b
    simp only [escapeString_cons, List.mem_append]
    exact ⟨hb.append ih.1, fun c hc => hc.elim (hb' c) (ih.2 c)⟩

/-- The length of the run of backslashes that `p` ends with. -/
def trailingBackslashes (p : List Char) : Nat :=
  p.foldl (fun n c => if c = '\\' then n + 1 else 0) 0

/-- In an escaped body, counting backslashes from an even count, every `"` is reached after an
odd number of them. -/
lemma EscapedBody.odd_before_quote {s : List Char} (hs : EscapedBody s) :
    ∀ {k : Nat} {p r : List Char}, Even k → s = p ++ '"' :: r →
      Odd (p.foldl (fun n c => if c = '\\' then n + 1 else 0) k) := by
  induction hs with
  | nil => intro k p r _ h; simp at h
  | plain hq hb _ ih =>
    intro k p r _ h
    cases p with
    | nil => exact absurd (List.cons.inj h).1 hq
    | cons x p =>
      simp only [List.cons_append, List.cons.injEq] at h
      obtain ⟨rfl, h⟩ := h
      simpa [hb] using ih (k := 0) (by decide) h
  | @escape c _ _ ih =>
    intro k p r hk h
    match p, h with
    | [], h => simp at h
    | [x], h =>
      simp only [List.singleton_append, List.cons.injEq] at h
      obtain ⟨rfl, rfl, -⟩ := h
      simpa using hk.add_one
    | x :: y :: p, h =>
      simp only [List.cons_append, List.cons.injEq] at h
      obtain ⟨rfl, rfl, h⟩ := h
      have hk' : Even (if c = '\\' then k + 1 + 1 else 0) := by
        split
        · exact hk.add_one.add_one
        · decide
      simpa using ih hk' h

/-- Counting backslashes from an even count over an escaped body ends even: the body does not
escape what follows it. -/
lemma EscapedBody.even_end {s : List Char} (hs : EscapedBody s) :
    ∀ {k : Nat}, Even k → Even (s.foldl (fun n c => if c = '\\' then n + 1 else 0) k) := by
  induction hs with
  | nil => exact id
  | plain _ hb _ ih => intro _ _; simpa [hb] using ih (k := 0) (by decide)
  | @escape c _ _ ih =>
    intro k hk
    have hk' : Even (if c = '\\' then k + 1 + 1 else 0) := by
      split
      · exact hk.add_one.add_one
      · decide
    simpa using ih hk'

/-- The closing `"` of the literal follows an even run of backslashes, so it is not escaped. -/
lemma stringLiteral_close_unescaped (sign : CharSign) (s : List UInt8) {p : List Char}
    (h : stringLiteral sign s = p ++ ['"']) : Even (trailingBackslashes p) := by
  rw [stringLiteral] at h
  obtain rfl := List.append_inj_left' h.symm rfl
  simpa [trailingBackslashes] using (escapeString_safe sign s).1.even_end (k := 0) (by decide)

/-- Every `"` of the literal but the first and the last is preceded by an odd run of
backslashes, so it is escaped. -/
lemma stringLiteral_quote_escaped (sign : CharSign) (s : List UInt8) {p q : List Char}
    (h : stringLiteral sign s = p ++ '"' :: q) (hp : p ≠ []) (hq : q ≠ []) :
    Odd (trailingBackslashes p) := by
  obtain ⟨x, p, rfl⟩ := List.exists_cons_of_ne_nil hp
  rw [← List.dropLast_append_getLast hq] at h
  simp only [stringLiteral, List.cons_append, List.cons.injEq] at h
  obtain ⟨rfl, h⟩ := h
  have h' : escapeString sign s = p ++ '"' :: q.dropLast := by
    rw [← List.cons_append, ← List.append_assoc] at h
    exact List.append_inj_left' h rfl
  simpa [trailingBackslashes] using
    (escapeString_safe sign s).1.odd_before_quote (k := 0) (by decide) h'

/-! ### Reading the literal back -/

/-- Decodes the body of a literal `out_string` printed with the given signedness of `char`.
With `.unsigned` this is the spec's grammar: the six named escapes, `\x` and two hex digits,
and any other printable character but `"` as itself. With `.signed` a byte above `0x7f` is
read back from `\xffffff` and two more digits. -/
def unescape (sign : CharSign) : List Char → Option (List UInt8)
  | [] => some []
  | c :: s =>
    if c = '\\' then
      match s with
      | 'x' :: h :: l :: s => do
        let v ← hexPair? h l
        if sign = .unsigned ∨ v < 128 then (unescape sign s).map (v.toUInt8 :: ·)
        else if v = 255 then
          match s with
          | 'f' :: 'f' :: 'f' :: 'f' :: h :: l :: s => do
            let b ← hexPair? h l
            if 128 ≤ b then (unescape sign s).map (b.toUInt8 :: ·) else none
          | _ => none
        else none
      | e :: s => do
        let b ← namedEscape? e
        (unescape sign s).map (b :: ·)
      | [] => none
    else if IsPrintableAscii c ∧ c ≠ '"' then (unescape sign s).map (c.toNat.toUInt8 :: ·)
    else none

/-- The spec's escape grammar, which the decoder reads when `char` is unsigned. -/
def specUnescape : List Char → Option (List UInt8) := unescape .unsigned

lemma unescape_named (sign : CharSign) {e : Char} {b : UInt8} (he : namedEscape? e = some b)
    (rest : List Char) :
    unescape sign ('\\' :: e :: rest) = (unescape sign rest).map (b :: ·) := by
  unfold namedEscape? at he
  split at he <;> cases he <;> rfl

lemma unescape_hexByte (sign : CharSign) {b : UInt8} (h : sign = .unsigned ∨ b.toNat < 128)
    (rest : List Char) :
    unescape sign ('\\' :: 'x' :: (hexByte b.toNat ++ rest)) =
      (unescape sign rest).map (b :: ·) := by
  simp only [hexByte, List.cons_append, List.nil_append]
  conv_lhs => unfold unescape
  simp [hexPair?_hexByte (UInt8.toNat_lt_size b), h, UInt8.toUInt8_toNat]

lemma unescape_plain (sign : CharSign) {c : Char} (hp : IsPrintableAscii c) (hq : c ≠ '"')
    (hb : c ≠ '\\') (rest : List Char) :
    unescape sign (c :: rest) = (unescape sign rest).map (c.toNat.toUInt8 :: ·) := by
  conv_lhs => unfold unescape
  rw [if_neg hb, if_pos ⟨hp, hq⟩]

/-- The spec's escape of a byte reads back as the byte, for a byte `out_string` escapes this
way under the given signedness. -/
lemma unescape_specEscape (sign : CharSign) {b : UInt8} (h : sign = .unsigned ∨ b.toNat < 128)
    (rest : List Char) :
    unescape sign (specEscape b ++ rest) = (unescape sign rest).map (b :: ·) := by
  rcases specEscape_cases b with ⟨e, he, hn, -⟩ | ⟨-, he⟩ | ⟨h1, h2, h92, h34, he⟩ <;> rw [he]
  · exact unescape_named sign hn rest
  · exact unescape_hexByte sign h rest
  · have hc := Char.toNat_ofNat_of_lt (show b.toNat < 0xd800 by omega)
    have hne : ∀ d : Char, d.toNat ≠ b.toNat → Char.ofNat b.toNat ≠ d := fun d hd he =>
      hd (by rw [← he, hc])
    rw [List.singleton_append, unescape_plain sign (by simp only [IsPrintableAscii, hc]; omega)
      (hne _ (by simp only [Char.reduceToNat]; omega))
      (hne _ (by simp only [Char.reduceToNat]; omega)), hc, UInt8.toUInt8_toNat]

/-- What `out_string` prints for a byte reads back as the byte. -/
lemma unescape_outStringChar (sign : CharSign) (b : UInt8) (rest : List Char) :
    unescape sign (outStringChar sign b ++ rest) = (unescape sign rest).map (b :: ·) := by
  by_cases h : b.toNat < 128
  · rw [outStringChar_of_lt sign h]
    exact unescape_specEscape sign (.inr h) rest
  · cases sign
    · have hb : b.toNat < 256 := UInt8.toNat_lt_size b
      rw [outStringChar_signed_of_ge (by omega)]
      simp only [hexByte, List.cons_append, List.nil_append]
      conv_lhs => unfold unescape
      simp [show hexPair? 'f' 'f' = some 255 from rfl, hexPair?_hexByte hb,
        show 128 ≤ b.toNat by omega, UInt8.toUInt8_toNat]
    · rw [outStringChar_unsigned]
      exact unescape_specEscape _ (.inl rfl) rest

theorem unescape_escapeString (sign : CharSign) (s : List UInt8) :
    unescape sign (escapeString sign s) = some s := by
  induction s with
  | nil => rfl
  | cons b s ih => rw [escapeString_cons, unescape_outStringChar, ih]; rfl

lemma stringLiteral_injective (sign : CharSign) {s s' : List UInt8}
    (h : stringLiteral sign s' = stringLiteral sign s) : s' = s := by
  simp only [stringLiteral, List.cons.injEq, List.append_cancel_right_eq, true_and] at h
  simpa [unescape_escapeString] using congrArg (unescape sign) h

/-! ### The literal `out_string` prints -/

/-- What the spec asks of a string literal printed from untrusted bytes: it is printable ASCII,
opens and closes with `"`, the closing `"` follows an even run of backslashes, so the literal
does close there, and every other `"` in it follows an odd run of backslashes. -/
structure SafeLiteral (lit : List Char) : Prop where
  printable : ∀ c ∈ lit, IsPrintableAscii c
  opens : lit.head? = some '"'
  closes : lit.getLast? = some '"'
  closesUnescaped : ∀ p, lit = p ++ ['"'] → Even (trailingBackslashes p)
  escaped : ∀ p q, lit = p ++ '"' :: q → p ≠ [] → q ≠ [] → Odd (trailingBackslashes p)

lemma stringLiteral_safe (sign : CharSign) (s : List UInt8) :
    SafeLiteral (stringLiteral sign s) where
  printable := by
    simp only [stringLiteral, List.forall_mem_append, List.forall_mem_cons,
      List.forall_mem_singleton]
    exact ⟨⟨by decide, (escapeString_safe sign s).2⟩, by decide⟩
  opens := rfl
  closes := List.getLast?_concat _
  closesUnescaped _ h := stringLiteral_close_unescaped sign s h
  escaped _ _ h hp hq := stringLiteral_quote_escaped sign s h hp hq

/-- For a string `s`, the bytes before the first NUL of a text field, `out_string` prints a
literal that is safe and from which `s` can be read back: two strings never print the same
literal. -/
theorem outString_literal_safe (sign : CharSign) (name : String) {s : List UInt8}
    (hs : 0 ∉ s) (t : List UInt8) :
    outString sign name (s ++ 0 :: t) = some (outName name ++ stringLiteral sign s) ∧
      SafeLiteral (stringLiteral sign s) ∧
      ∀ {s' : List UInt8} (t' : List UInt8), 0 ∉ s' →
        outString sign name (s' ++ 0 :: t') = outString sign name (s ++ 0 :: t) → s' = s := by
  refine ⟨outString_append_nul sign name hs t, stringLiteral_safe sign s, fun t' hs' h => ?_⟩
  rw [outString_append_nul sign name hs t, outString_append_nul sign name hs' t',
    Option.some.injEq, List.append_cancel_left_eq] at h
  exact stringLiteral_injective sign h

theorem outString_literal_safe_comm :
    (0 : UInt8) ∉ [0x41] ∧
      outString .signed "comm" [0x41, 0] = some (outName "comm" ++ stringLiteral .signed [0x41]) ∧
      SafeLiteral (stringLiteral .signed [0x41]) ∧
      ∀ {s' : List UInt8} (t' : List UInt8), 0 ∉ s' →
        outString .signed "comm" (s' ++ 0 :: t') = outString .signed "comm" [0x41, 0] →
          s' = [0x41] :=
  ⟨by decide, outString_literal_safe .signed "comm" (s := [0x41]) (by decide) []⟩

/-- With a signed `char` (x86-64), `out_string` prints the byte `0x80` as `\xffffff80`, which
the spec's grammar reads as seven bytes. -/
theorem outString_signed_high_byte :
    outString .signed "path" [0x80, 0] = some "\"path\":\"\\xffffff80\"".toList ∧
      specUnescape (escapeString .signed [0x80]) =
        some [0xff, 0x66, 0x66, 0x66, 0x66, 0x38, 0x30] := by
  decide

/-- With an unsigned `char` (aarch64), `out_string` prints the spec's escape of every byte, and
the spec's grammar reads the string back. -/
theorem outString_unsigned_spec (name : String) {s : List UInt8} (hs : 0 ∉ s)
    (t : List UInt8) :
    outString .unsigned name (s ++ 0 :: t) =
        some (outName name ++ ('"' :: s.flatMap specEscape ++ ['"'])) ∧
      specUnescape (s.flatMap specEscape) = some s := by
  have he : escapeString .unsigned s = s.flatMap specEscape := by
    rw [escapeString, show outStringChar .unsigned = specEscape from funext outStringChar_unsigned]
  refine ⟨by rw [outString_append_nul _ _ hs, stringLiteral, he], ?_⟩
  rw [← he]
  exact unescape_escapeString .unsigned s

theorem outString_unsigned_spec_path :
    (0 : UInt8) ∉ [0xe9] ∧
      outString .unsigned "path" [0xe9, 0] =
        some (outName "path" ++ ('"' :: [0xe9].flatMap specEscape ++ ['"'])) ∧
      specUnescape ([0xe9].flatMap specEscape) = some [0xe9] :=
  ⟨by decide, outString_unsigned_spec "path" (s := [0xe9]) (by decide) []⟩

end EventsTrace
