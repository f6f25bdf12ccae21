import EventsTrace.Validity

/-!
# What a JSON reader gets from a line

The test harness reads each line of stdout with `json.Unmarshal`. This module models such a
reader: `jsonDecode`, a recursive descent over an RFC 8259 text, with fuel for the values and
members it reads (the length of the text is always enough). It gives a `JVal`: a number with
neither fraction nor exponent as the integer it spells, a string as the code points of its
characters with each escape replaced by the unit it stands for.

The meaning of a document the printers write is `JsonDoc.toJVal`: its numbers as integers and
its strings with their escapes undone. The reader gets that meaning from the line of every
well-formed document, and gets nothing from a line with a string that reaches `\x`. For a
record its printer writes whole, the reader therefore gets the record back under the member
names of its kind, each number as the field's value and each text field as its bytes before the
NUL, exactly when every byte of those fields is one `out_string` escapes the way JSON does.
-/

namespace EventsTrace

/-! ### Values -/

/-- A JSON value as a reader gets it: a number with neither fraction nor exponent as the integer
it spells and any other number as written, a string as the code points of its characters and
the units its escapes stand for (a `\u` escape gives its 16-bit unit). -/
inductive JVal
  | null
  | bool (b : Bool)
  | int (n : Int)
  | num (text : List Char)
  | str (units : List Nat)
  | arr (vs : List JVal)
  | obj (ms : List (List Nat × JVal))

/-! ### Whitespace and punctuation -/

/-- The whitespace RFC 8259 allows around a token, skipped. -/
def skipWs : List Char → List Char
  | [] => []
  | c :: cs => if isJsonWs c then skipWs cs else c :: cs

/-- The character `c` after optional whitespace, and the text after it. -/
def skipChar (c : Char) (cs : List Char) : Option (List Char) :=
  match skipWs cs with
  | d :: r => if d = c then some r else none
  | [] => none

/-! ### Numbers -/

/-- The longest run of decimal digits at the start, and the text after it. -/
def spanDigits : List Char → List Char × List Char
  | [] => ([], [])
  | c :: cs => if c.isDigit then Prod.map (c :: ·) id (spanDigits cs) else ([], c :: cs)

/-- The number decimal digits spell. -/
def digitsValue (ds : List Char) : Nat := ds.foldl (fun n c => 10 * n + (c.toNat - '0'.toNat)) 0

/-- `int`: `0`, or a digit other than `0` followed by digits. -/
def parseIntPart : List Char → Option (List Char × List Char)
  | [] => none
  | c :: cs =>
    if c = '0' then some (['0'], cs)
    else if c.isDigit then some (Prod.map (c :: ·) id (spanDigits cs)) else none

/-- `frac`, or nothing: a point and at least one digit. -/
def parseFrac : List Char → Option (List Char × List Char)
  | [] => some ([], [])
  | c :: cs =>
    if c = '.' then
      match spanDigits cs with
      | ([], _) => none
      | (d :: ds, r) => some ('.' :: d :: ds, r)
    else some ([], c :: cs)

/-- `exp`, or nothing: `e` or `E`, an optional sign and at least one digit. -/
def parseExp : List Char → Option (List Char × List Char)
  | [] => some ([], [])
  | c :: cs =>
    if c = 'e' ∨ c = 'E' then
      let (sgn, r) := match cs with
        | s :: r => if s = '+' ∨ s = '-' then ([s], r) else ([], s :: r)
        | [] => ([], [])
      match spanDigits r with
      | ([], _) => none
      | (d :: ds, r) => some (c :: sgn ++ d :: ds, r)
    else some ([], c :: cs)

/-- A number from its sign, integer digits, fraction and exponent. -/
def numberValue (neg : Bool) (i f e : List Char) : JVal :=
  if f = [] ∧ e = [] then .int (if neg then -(digitsValue i : Int) else digitsValue i)
  else .num ((if neg then ['-'] else []) ++ i ++ f ++ e)

/-- A number after its sign. -/
def parseUnsigned (neg : Bool) (cs : List Char) : Option (JVal × List Char) :=
  (parseIntPart cs).bind fun (i, r) =>
    (parseFrac r).bind fun (f, r) => (parseExp r).map fun (e, r) => (numberValue neg i f e, r)

/-- `number`: an optional minus sign, then `int`, `frac` and `exp`. -/
def parseNumber : List Char → Option (JVal × List Char)
  | [] => none
  | c :: cs => if c = '-' then parseUnsigned true cs else parseUnsigned false (c :: cs)

/-! ### Strings -/

/-- The unit a two-character escape stands for. -/
def escapeUnit? : Char → Option Nat
  | '"' => some 0x22
  | '\\' => some 0x5c
  | '/' => some 0x2f
  | 'b' => some 0x08
  | 'f' => some 0x0c
  | 'n' => some 0x0a
  | 'r' => some 0x0d
  | 't' => some 0x09
  | _ => none

/-- The value of a hex digit of either case. -/
def hexDigitValue? (c : Char) : Option Nat :=
  if c.isDigit then some (c.toNat - '0'.toNat)
  else if 'a' ≤ c ∧ c ≤ 'f' then some (c.toNat - 'a'.toNat + 10)
  else if 'A' ≤ c ∧ c ≤ 'F' then some (c.toNat - 'A'.toNat + 10) else none

/-- The unit four hex digits spell. -/
def hexUnit? (a b c d : Char) : Option Nat :=
  [a, b, c, d].foldlM (fun v h => (hexDigitValue? h).map (16 * v + ·)) 0

mutual
/-- A string's units up to its closing quote, and the text after that quote. -/
def parseStrBody : List Char → Option (List Nat × List Char)
  | [] => none
  | c :: cs =>
    if c = '"' then some ([], cs)
    else if c = '\\' then parseEscape cs
    else if c.toNat < 0x20 then none
    else (parseStrBody cs).map fun p => (c.toNat :: p.1, p.2)

/-- What follows a backslash: an escape, then the rest of the string. -/
def parseEscape : List Char → Option (List Nat × List Char)
  | [] => none
  | e :: r =>
    if e = 'u' then parseHexEscape r
    else (escapeUnit? e).bind fun u => (parseStrBody r).map fun p => (u :: p.1, p.2)

/-- What follows `\u`: four hex digits, then the rest of the string. -/
def parseHexEscape : List Char → Option (List Nat × List Char)
  | a :: b :: c :: d :: r =>
    (hexUnit? a b c d).bind fun u => (parseStrBody r).map fun p => (u :: p.1, p.2)
  | _ => none
end

/-! ### Values, members and elements -/

mutual
/-- A value after optional whitespace, and the text after it. -/
def parseValue : Nat → List Char → Option (JVal × List Char)
  | 0, _ => none
  | n + 1, cs =>
    match skipWs cs with
    | [] => none
    | c :: r =>
      if c = '{' then
        match skipChar '}' r with
        | some r => some (.obj [], r)
        | none => (parseMembers n r).map fun p => (.obj p.1, p.2)
      else if c = '[' then
        match skipChar ']' r with
        | some r => some (.arr [], r)
        | none => (parseElems n r).map fun p => (.arr p.1, p.2)
      else if c = '"' then (parseStrBody r).map fun p => (.str p.1, p.2)
      else if c = 't' then if "rue".toList.isPrefixOf r then some (.bool true, r.drop 3) else none
      else if c = 'f' then if "alse".toList.isPrefixOf r then some (.bool false, r.drop 4) else none
      else if c = 'n' then if "ull".toList.isPrefixOf r then some (.null, r.drop 3) else none
      else parseNumber (c :: r)

/-- Members `"name":value` separated by commas, up to and with the closing brace. -/
def parseMembers : Nat → List Char → Option (List (List Nat × JVal) × List Char)
  | 0, _ => none
  | n + 1, cs =>
    (skipChar '"' cs).bind fun r => (parseStrBody r).bind fun (k, r) =>
      (skipChar ':' r).bind fun r => (parseValue n r).bind fun (v, r) =>
        match skipChar ',' r with
        | some r => (parseMembers n r).map fun p => ((k, v) :: p.1, p.2)
        | none => (skipChar '}' r).map fun r => ([(k, v)], r)

/-- Values separated by commas, up to and with the closing bracket. -/
def parseElems : Nat → List Char → Option (List JVal × List Char)
  | 0, _ => none
  | n + 1, cs =>
    (parseValue n cs).bind fun (v, r) =>
      match skipChar ',' r with
      | some r => (parseElems n r).map fun p => (v :: p.1, p.2)
      | none => (skipChar ']' r).map fun r => ([v], r)
end

/-- What a reader gets from a JSON text: its one value, with only whitespace after it. -/
def jsonDecode (t : List Char) : Option JVal :=
  (parseValue (t.length + 1) t).bind fun (v, r) => if skipWs r = [] then some v else none

example : jsonDecode "\x7b\"a\": [1, -0.5e+3, true, null], \"b\": \x7b\x7d, \"c\":\"x\\u0041\\n\"\x7d\n".toList =
    some (.obj [([97], .arr [.int 1, .num "-0.5e+3".toList, .bool true, .null]), ([98], .obj []),
      ([99], .str [120, 65, 10])]) := rfl
example : jsonDecode "\x7b\"a\":1,\x7d".toList = none ∧ jsonDecode "[01]".toList = none ∧
    jsonDecode "\"\\x41\"".toList = none := ⟨rfl, rfl, rfl⟩

/-! ### The meaning of a document -/

mutual
/-- The units a string body the printers write stands for: each character's code point, and
each two-character escape's unit. -/
def bodyUnits : List Char → List Nat
  | [] => []
  | c :: s => if c = '\\' then escapedUnits s else c.toNat :: bodyUnits s

/-- The units of a string body after a backslash. -/
def escapedUnits : List Char → List Nat
  | [] => []
  | e :: s => (escapeUnit? e).getD 0 :: bodyUnits s
end

def JsonScalar.toJVal : JsonScalar → JVal
  | .num n => .int n
  | .str body => .str (bodyUnits body)

/-- Members as a reader gets them: the units of each name, and the meaning of its value. -/
def membersJVal {α : Type} (dec : α → JVal) (ms : List (String × α)) : List (List Nat × JVal) :=
  ms.map fun m => (bodyUnits m.1.toList, dec m.2)

def JsonValue.toJVal : JsonValue → JVal
  | .scalar v => v.toJVal
  | .object ms => .obj (membersJVal JsonScalar.toJVal ms)

def JsonDoc.toMembers (doc : JsonDoc) : List (List Nat × JVal) := membersJVal JsonValue.toJVal doc

def JsonDoc.toJVal (doc : JsonDoc) : JVal := .obj doc.toMembers

/-! ### Numbers round trip -/

lemma spanDigits_append {ds : List Char} (hds : ∀ x ∈ ds, x.isDigit) {c : Char}
    (hc : c.isDigit = false) (r : List Char) : spanDigits (ds ++ c :: r) = (ds, c :: r) := by
  induction ds with
  | nil => simp [spanDigits, hc]
  | cons d ds ih =>
    simp only [List.mem_cons, forall_eq_or_imp] at hds
    simp [spanDigits, hds.1, ih hds.2]

lemma digitChar_sub_zero : ∀ d < 10, (Nat.digitChar d).toNat - '0'.toNat = d := by decide

lemma digitsValue_toDigits (m : Nat) : digitsValue (Nat.toDigits 10 m) = m := by
  induction m using Nat.strong_induction_on with
  | _ m ih =>
    by_cases h : m < 10
    · rw [toDigits_of_lt h, digitsValue, List.foldl_cons, List.foldl_nil,
        digitChar_sub_zero m h, Nat.mul_zero, Nat.zero_add]
    · rw [toDigits_of_le (by decide) (by omega), digitsValue, List.foldl_append, ← digitsValue,
        ih _ (by omega), List.foldl_cons, List.foldl_nil,
        digitChar_sub_zero _ (Nat.mod_lt m (by decide))]
      omega

/-- The digits `printf` writes for a number, then a separator or bracket: the reader takes the
digits as the integer part and finds neither fraction nor exponent. -/
lemma parseUnsigned_toDigits (neg : Bool) (m : Nat) {c : Char} (hc : IsCloser c)
    (r : List Char) :
    parseUnsigned neg (Nat.toDigits 10 m ++ c :: r) =
      some (.int (if neg then -(m : Int) else m), c :: r) := by
  have hfe : parseFrac (c :: r) = some ([], c :: r) ∧ parseExp (c :: r) = some ([], c :: r) := by
    rcases hc with rfl | rfl <;> exact ⟨rfl, rfl⟩
  have hi : parseIntPart (Nat.toDigits 10 m ++ c :: r) = some (Nat.toDigits 10 m, c :: r) := by
    rcases Nat.eq_zero_or_pos m with rfl | hm
    · rfl
    · obtain ⟨d, ds, hds, hd, h0, hdig⟩ := toDigits_ten_of_pos hm
      rw [hds, List.cons_append, parseIntPart, if_neg h0, if_pos hd,
        spanDigits_append hdig (by rcases hc with rfl | rfl <;> rfl)]
      rfl
  simp [parseUnsigned, hi, hfe.1, hfe.2, numberValue, digitsValue_toDigits]

/-- Decimal digits start with a digit. -/
lemma toDigits_cons (m : Nat) : ∃ d ds, Nat.toDigits 10 m = d :: ds ∧ d.isDigit := by
  rcases Nat.eq_zero_or_pos m with rfl | hm
  · exact ⟨'0', [], rfl, rfl⟩
  · obtain ⟨d, ds, hds, hd, -⟩ := toDigits_ten_of_pos hm
    exact ⟨d, ds, hds, hd⟩

/-- `printf("%ld", n)` starts with a digit or a minus sign. -/
lemma printfLd_cons (n : Int) : ∃ d t, printfLd n = d :: t ∧ (d.isDigit ∨ d = '-') := by
  match n with
  | .ofNat m =>
    obtain ⟨d, ds, hds, hd⟩ := toDigits_cons m
    exact ⟨d, ds, hds, .inl hd⟩
  | .negSucc m => exact ⟨'-', _, rfl, .inr rfl⟩

/-- `printf("%ld", n)` and a separator or bracket: the reader gets `n`. -/
lemma parseNumber_printfLd (n : Int) {c : Char} (hc : IsCloser c) (r : List Char) :
    parseNumber (printfLd n ++ c :: r) = some (.int n, c :: r) := by
  match n with
  | .ofNat m =>
    obtain ⟨d, ds, hds, hd⟩ := toDigits_cons m
    rw [printfLd, hds, List.cons_append, parseNumber, if_neg (ne_of_isDigit hd (c := '-') rfl),
      ← List.cons_append, ← hds, parseUnsigned_toDigits false m hc]
    rfl
  | .negSucc m =>
    rw [printfLd, List.cons_append, parseNumber, if_pos rfl, parseUnsigned_toDigits true _ hc]
    simp [Int.negSucc_eq]

/-- A value that starts with a digit or a minus sign is a number. -/
lemma parseValue_number {d : Char} (hd : d.isDigit ∨ d = '-') (n : Nat) (r : List Char) :
    parseValue (n + 1) (d :: r) = parseNumber (d :: r) := by
  have hne : ∀ x ∈ ['{', '[', '"', 't', 'f', 'n', ' ', '\t', '\n', '\r'], d ≠ x := by
    rcases hd with hd | rfl
    · have hx : ∀ x ∈ ['{', '[', '"', 't', 'f', 'n', ' ', '\t', '\n', '\r'], x.isDigit = false := by
        decide
      exact fun x hx' => ne_of_isDigit hd (hx x hx')
    · decide
  simp only [List.mem_cons, List.mem_singleton, List.not_mem_nil, or_false, forall_eq_or_imp,
    forall_eq] at hne
  obtain ⟨h1, h2, h3, h4, h5, h6, h7, h8, h9, h10⟩ := hne
  simp [parseValue, skipWs, isJsonWs, h1, h2, h3, h4, h5, h6, h7, h8, h9, h10]

/-- `printf("%ld", n)` and a separator or bracket, as a value. -/
lemma parseValue_printfLd (n : Int) (k : Nat) {c : Char} (hc : IsCloser c) (r : List Char) :
    parseValue (k + 1) (printfLd n ++ c :: r) = some (.int n, c :: r) := by
  obtain ⟨d, t, ht, hd⟩ := printfLd_cons n
  rw [ht, List.cons_append, parseValue_number hd, ← List.cons_append, ← ht,
    parseNumber_printfLd n hc]

/-! ### Strings round trip -/

/-- A two-character escape. -/
lemma parseStrBody_escape {e : Char} {u : Nat} (he : escapeUnit? e = some u) (s : List Char) :
    parseStrBody ('\\' :: e :: s) = (parseStrBody s).map fun p => (u :: p.1, p.2) := by
  have hu : e ≠ 'u' := by rintro rfl; cases he
  rw [parseStrBody, if_neg (by decide), if_pos rfl, parseEscape, if_neg hu, he, Option.some_bind]

/-- A character that stands for itself. -/
lemma parseStrBody_plain {c : Char} (h1 : 0x20 ≤ c.toNat) (h2 : c ≠ '"') (h3 : c ≠ '\\')
    (s : List Char) :
    parseStrBody (c :: s) = (parseStrBody s).map fun p => (c.toNat :: p.1, p.2) := by
  rw [parseStrBody, if_neg h2, if_neg h3, if_neg (by omega)]

/-- Each escape the printers write stands for a unit. -/
lemma escapeUnit_of_mem {e : Char} (he : e ∈ ['"', '\\', '/', 'b', 'f', 'n', 'r', 't']) :
    escapeUnit? e = some ((escapeUnit? e).getD 0) := by
  simp only [List.mem_cons, List.mem_singleton, List.not_mem_nil, or_false] at he
  rcases he with rfl | rfl | rfl | rfl | rfl | rfl | rfl | rfl <;> rfl

/-- The first character of a well-formed body that does not start an escape stands for
itself. -/
lemma strBodyOk_plain {c : Char} {s : List Char} (hne : ∀ e s', c = '\\' → s = e :: s' → False)
    (h : strBodyOk (c :: s)) : (0x20 ≤ c.toNat ∧ c ≠ '"' ∧ c ≠ '\\') ∧ strBodyOk s := by
  have hc : c ≠ '\\' := by
    rintro rfl
    cases s with
    | nil => exact absurd h (by decide)
    | cons e s => exact hne e s rfl rfl
  simp only [strBodyOk_cons hc, Bool.and_eq_true, decide_eq_true_eq] at h
  exact ⟨⟨h.1.1, h.1.2, hc⟩, h.2⟩

/-- The reader gets the units of a well-formed body, then reads on. -/
lemma parseStrBody_append {body : List Char} (h : strBodyOk body) (t : List Char) :
    parseStrBody (body ++ t) = (parseStrBody t).map fun p => (bodyUnits body ++ p.1, p.2) := by
  induction body using strBodyOk.induct with
  | case1 => simp [bodyUnits]
  | case2 e s ih =>
    rw [strBodyOk_escape, Bool.and_eq_true, decide_eq_true_eq] at h
    rw [List.cons_append, List.cons_append, parseStrBody_escape (escapeUnit_of_mem h.1), ih h.2,
      Option.map_map]
    rfl
  | case3 c s hne ih =>
    obtain ⟨⟨h1, h2, h3⟩, h⟩ := strBodyOk_plain hne h
    rw [List.cons_append, parseStrBody_plain h1 h2 h3, ih h, Option.map_map, bodyUnits, if_neg h3]
    rfl

/-- A string the printers write: the reader gets the units of its body and stops after its
closing quote. -/
lemma parseStrBody_closed {body : List Char} (h : strBodyOk body) (rest : List Char) :
    parseStrBody (body ++ '"' :: rest) = some (bodyUnits body, rest) := by
  rw [parseStrBody_append h, show parseStrBody ('"' :: rest) = some ([], rest) from rfl,
    Option.map_some', List.append_nil]

/-- A body that reaches `\x`, an escape RFC 8259 does not have, after a well-formed start: the
reader gets nothing. -/
lemma parseStrBody_hexEscape {p : List Char} (hp : strBodyOk p) (q : List Char) :
    parseStrBody (p ++ '\\' :: 'x' :: q) = none := by
  rw [parseStrBody_append hp]
  rfl

/-- A string, as a value. -/
lemma parseValue_quote (n : Nat) (s : List Char) :
    parseValue (n + 1) ('"' :: s) = (parseStrBody s).map fun p => (.str p.1, p.2) := rfl

/-! ### Documents round trip -/

section Roundtrip

/-- What a reader makes of a value the printers write: with fuel at least its length, and the
separator or bracket after it, it gets the value's meaning and stops at that character. -/
def DecodesAs (t : List Char) (v : JVal) : Prop :=
  ∀ n c rest, t.length ≤ n → IsCloser c → parseValue n (t ++ c :: rest) = some (v, c :: rest)

lemma JsonScalar.decodesAs_render {v : JsonScalar} (hv : v.wf) : DecodesAs v.render v.toJVal := by
  intro n c rest hn hc
  cases v with
  | num m =>
    obtain ⟨d, t, ht, -⟩ := printfLd_cons m
    obtain ⟨k, rfl⟩ : ∃ k, n = k + 1 := Nat.exists_eq_add_one.2 (by
      simp only [JsonScalar.render, ht, List.length_cons] at hn
      omega)
    exact parseValue_printfLd m k hc rest
  | str body =>
    obtain ⟨k, rfl⟩ : ∃ k, n = k + 1 := Nat.exists_eq_add_one.2 (by
      simp only [JsonScalar.render, List.cons_append, List.length_cons] at hn
      omega)
    simp only [JsonScalar.render, List.cons_append, List.append_assoc, List.singleton_append]
    rw [parseValue_quote, parseStrBody_closed hv]
    rfl

variable {α : Type} (r : α → List Char) (dec : α → JVal)

/-- A member: its name and colon, then the value the reader gets from the text `t`, then a comma
and more members, or the closing brace. -/
lemma parseMembers_member (n : Nat) {k : String} (hk : strBodyOk k.toList) (t : List Char) :
    parseMembers (n + 1) (outName k ++ t) = (parseValue n t).bind fun (v, r) =>
      match skipChar ',' r with
      | some r => (parseMembers n r).map fun p => ((bodyUnits k.toList, v) :: p.1, p.2)
      | none => (skipChar '}' r).map fun r => ([(bodyUnits k.toList, v)], r) := by
  simp only [outName, List.cons_append, List.append_assoc, List.singleton_append,
    List.nil_append]
  rw [parseMembers, show skipChar '"' ('"' :: _) = some _ from rfl, Option.some_bind,
    parseStrBody_closed hk]
  rfl

/-- A nonempty run of members and the `}` after them: the reader gets the members' meanings and
stops after the bracket. -/
lemma parseMembers_renderMembers :
    ∀ {ms : List (String × α)}, ms ≠ [] →
      (∀ m ∈ ms, strBodyOk m.1.toList ∧ DecodesAs (r m.2) (dec m.2)) →
      ∀ n rest, (renderMembers r ms).length < n →
        parseMembers n (renderMembers r ms ++ '}' :: rest) = some (membersJVal dec ms, rest)
  | [], h, _, _, _, _ => absurd rfl h
  | _ :: _, _, _, 0, _, hn => absurd hn (Nat.not_lt_zero _)
  | [(k, v)], _, hms, n + 1, rest, hn => by
    obtain ⟨hk, hv⟩ : strBodyOk k.toList ∧ DecodesAs (r v) (dec v) :=
      hms (k, v) (List.mem_singleton_self _)
    rw [renderMembers] at hn ⊢
    simp only [outName, List.length_append, List.length_cons] at hn
    rw [List.append_assoc, parseMembers_member n hk, hv n '}' rest (by omega) (.inr rfl)]
    rfl
  | (k, v) :: m :: ms, _, hms, n + 1, rest, hn => by
    obtain ⟨hk, hv⟩ : strBodyOk k.toList ∧ DecodesAs (r v) (dec v) :=
      hms (k, v) (List.mem_cons_self _ _)
    have hrest := parseMembers_renderMembers (List.cons_ne_nil m ms)
      (fun m' hm' => hms m' (List.mem_cons_of_mem _ hm')) n rest
    rw [renderMembers] at hn ⊢
    simp only [outName, List.length_append, List.length_cons] at hn
    rw [List.append_assoc, List.append_assoc, List.cons_append, parseMembers_member n hk,
      hv n ',' _ (by omega) (.inl rfl), Option.some_bind]
    show (parseMembers n (renderMembers r (m :: ms) ++ '}' :: rest)).map _ = _
    rw [hrest (by omega)]
    rfl

/-- An object with members: the reader reads them after the brace. -/
lemma parseValue_renderObject_cons (n : Nat) (m : String × α) (ms : List (String × α))
    (rest : List Char) :
    parseValue (n + 1) (renderObject r (m :: ms) ++ rest) =
      (parseMembers n (renderMembers r (m :: ms) ++ '}' :: rest)).map fun p => (.obj p.1, p.2) := by
  obtain ⟨t, ht⟩ : ∃ t, renderMembers r (m :: ms) = '"' :: t := by
    cases ms <;> exact ⟨_, rfl⟩
  simp only [renderObject, List.cons_append, List.append_assoc, List.singleton_append, ht]
  rfl

/-- An object the printers write, and what follows it: the reader gets the members' meanings. -/
lemma parseValue_renderObject {ms : List (String × α)}
    (hms : ∀ m ∈ ms, strBodyOk m.1.toList ∧ DecodesAs (r m.2) (dec m.2)) {n : Nat}
    (hn : (renderObject r ms).length ≤ n) (rest : List Char) :
    parseValue n (renderObject r ms ++ rest) = some (.obj (membersJVal dec ms), rest) := by
  simp only [renderObject, List.length_cons, List.length_append, List.length_singleton] at hn
  obtain ⟨n, rfl⟩ : ∃ k, n = k + 1 := Nat.exists_eq_add_one.2 (by omega)
  cases ms with
  | nil => rfl
  | cons m ms =>
    rw [parseValue_renderObject_cons,
      parseMembers_renderMembers r dec (List.cons_ne_nil m ms) hms n rest (by omega)]
    rfl

lemma decodesAs_renderObject {ms : List (String × α)}
    (hms : ∀ m ∈ ms, strBodyOk m.1.toList ∧ DecodesAs (r m.2) (dec m.2)) :
    DecodesAs (renderObject r ms) (.obj (membersJVal dec ms)) :=
  fun _ c rest hn _ => parseValue_renderObject r dec hms hn (c :: rest)

end Roundtrip

lemma JsonValue.decodesAs_render {v : JsonValue} (hv : v.wf) : DecodesAs v.render v.toJVal := by
  cases v with
  | scalar v => exact JsonScalar.decodesAs_render hv
  | object ms =>
    exact decodesAs_renderObject _ _ fun m hm =>
      ⟨hv.names m hm, JsonScalar.decodesAs_render (hv.values m hm)⟩

/-! ### Strings that reach `\x` -/

lemma JsonValue.parseValue_hexEscaped {v : JsonValue} (hv : HexEscaped v) (n : Nat)
    (rest : List Char) : parseValue n (v.render ++ rest) = none := by
  obtain ⟨p, q, rfl, hp⟩ := hv
  cases n with
  | zero => rfl
  | succ n =>
    simp only [JsonValue.render, JsonScalar.render, List.cons_append, List.append_assoc]
    rw [parseValue_quote, parseStrBody_hexEscape hp]
    rfl

/-- Members before the first string that reaches `\x` that the reader gets do not save the
object: the reader gets nothing from it. -/
lemma parseMembers_hexEscaped :
    ∀ {ms : JsonDoc}, (∀ m ∈ ms, strBodyOk m.1.toList ∧ (m.2.wf ∨ HexEscaped m.2)) →
      (∃ m ∈ ms, HexEscaped m.2) → ∀ n rest, (renderMembers JsonValue.render ms).length < n →
        parseMembers n (renderMembers JsonValue.render ms ++ rest) = none
  | [], _, ⟨_, hm, _⟩, _, _, _ => absurd hm (List.not_mem_nil _)
  | _ :: _, _, _, 0, _, _ => rfl
  | [(k, v)], hms, ⟨_, hm, hx⟩, n + 1, rest, _ => by
    obtain rfl := List.mem_singleton.1 hm
    rw [renderMembers, List.append_assoc, parseMembers_member n (hms _ (List.mem_singleton_self _)).1,
      JsonValue.parseValue_hexEscaped hx]
    rfl
  | (k, v) :: m :: ms, hms, ⟨m', hm', hx⟩, n + 1, rest, hn => by
    obtain ⟨hk, hv⟩ : strBodyOk k.toList ∧ (v.wf ∨ HexEscaped v) :=
      hms (k, v) (List.mem_cons_self _ _)
    rw [renderMembers] at hn ⊢
    simp only [outName, List.length_append, List.length_cons] at hn
    rw [List.append_assoc, List.append_assoc, parseMembers_member n hk]
    by_cases hxv : HexEscaped v
    · rw [JsonValue.parseValue_hexEscaped hxv]
      rfl
    have htail : ∃ x ∈ m :: ms, HexEscaped x.2 := by
      rcases List.mem_cons.1 hm' with rfl | h
      · exact absurd hx hxv
      · exact ⟨m', h, hx⟩
    rw [List.cons_append, JsonValue.decodesAs_render (hv.resolve_right hxv) n ',' _ (by omega)
      (.inl rfl), Option.some_bind]
    show (parseMembers n (renderMembers JsonValue.render (m :: ms) ++ rest)).map _ = _
    rw [parseMembers_hexEscaped (fun m hm => hms m (List.mem_cons_of_mem _ hm)) htail n rest
      (by omega)]
    rfl

/-! ### The line of a document -/

/-- A reader gets the meaning of a well-formed document from the line the printers write for it. -/
lemma JsonDoc.jsonDecode_render {doc : JsonDoc} (h : doc.wf) :
    jsonDecode (doc.render ++ ['\n']) = some doc.toJVal := by
  rw [jsonDecode, JsonDoc.render, parseValue_renderObject JsonValue.render JsonValue.toJVal
    (fun m hm => ⟨h.names m hm, JsonValue.decodesAs_render (h.values m hm)⟩)
    (by simp only [List.length_append, List.length_singleton]; omega) ['\n']]
  rfl

/-- A reader gets nothing from the line of a document with a string that reaches `\x`, every
other member being well formed or such a string. -/
lemma JsonDoc.jsonDecode_render_of_hexEscaped {doc : JsonDoc}
    (h : ∀ m ∈ doc, strBodyOk m.1.toList ∧ (m.2.wf ∨ HexEscaped m.2))
    (hx : ∃ m ∈ doc, HexEscaped m.2) : jsonDecode (doc.render ++ ['\n']) = none := by
  obtain ⟨m, ms, rfl⟩ : ∃ m ms, doc = m :: ms := by
    obtain ⟨m, hm, -⟩ := hx
    exact List.exists_cons_of_ne_nil (List.ne_nil_of_mem hm)
  rw [jsonDecode, JsonDoc.render, List.length_append, parseValue_renderObject_cons,
    parseMembers_hexEscaped h hx _ _
      (by simp only [renderObject, List.length_cons, List.length_append]; omega)]
  rfl

/-! ### Text fields -/

lemma bodyUnits_specEscape_append {b : UInt8} (hb : IsPrintableByte b) (t : List Char) :
    bodyUnits (specEscape b ++ t) = b.toNat :: bodyUnits t := by
  obtain ⟨h1, h2⟩ := hb
  by_cases h92 : b.toNat = 92
  · simp only [specEscape, h92]
    rfl
  by_cases h34 : b.toNat = 34
  · simp only [specEscape, h34]
    rfl
  have hc : (Char.ofNat b.toNat).toNat = b.toNat := Char.toNat_ofNat_of_lt (by omega)
  have hne : Char.ofNat b.toNat ≠ '\\' := fun h => h92 (by rw [← hc, h]; rfl)
  simp (disch := omega) only [specEscape, if_neg]
  rw [List.singleton_append, bodyUnits, if_neg hne, hc]

/-- A byte `out_string` escapes the way JSON does: the reader gets it back. -/
lemma bodyUnits_outStringChar_append (sign : CharSign) {b : UInt8} (hb : JsonSafeByte b)
    (t : List Char) : bodyUnits (outStringChar sign b ++ t) = b.toNat :: bodyUnits t := by
  rcases hb with hp | h | h | h | h
  · rw [outStringChar_of_lt sign (by have := hp.2; omega)]
    exact bodyUnits_specEscape_append hp t
  all_goals
    rw [outStringChar_of_lt sign (by omega)]
    simp only [specEscape, h]
    rfl

/-- Bytes `out_string` escapes the way JSON does: the reader gets them back. -/
lemma bodyUnits_escapeString_append (sign : CharSign) :
    ∀ {s : List UInt8}, (∀ b ∈ s, JsonSafeByte b) → ∀ t,
      bodyUnits (escapeString sign s ++ t) = s.map UInt8.toNat ++ bodyUnits t
  | [], _, _ => rfl
  | b :: s, h, t => by
    rw [escapeString_cons, List.append_assoc,
      bodyUnits_outStringChar_append sign (h b (List.mem_cons_self _ _)),
      bodyUnits_escapeString_append sign (fun b' hb' => h b' (List.mem_cons_of_mem _ hb')) t]
    rfl

/-- Characters other than the backslash stand for themselves. -/
lemma bodyUnits_of_forall_ne {s : List Char} (h : ∀ c ∈ s, c ≠ '\\') :
    bodyUnits s = s.map Char.toNat := by
  induction s with
  | nil => rfl
  | cons c s ih =>
    simp only [List.mem_cons, forall_eq_or_imp] at h
    rw [bodyUnits, if_neg h.1, ih h.2, List.map_cons]

/-! ### The line a record's printer writes -/

/-- The bytes a record's printers hand to `out_string`, up to each NUL, are ones it escapes the
way JSON does. -/
def EbpfEvent.TextJsonSafe (evt : EbpfEvent) : Prop :=
  ∀ f ∈ evt.outStrings, ∀ b ∈ f.takeWhile (· != 0), JsonSafeByte b

instance : DecidablePred EbpfEvent.TextJsonSafe := fun evt =>
  inferInstanceAs (Decidable (∀ f ∈ evt.outStrings, _))

lemma EbpfEventType.memberNames_plain (t : EbpfEventType) :
    ∀ n ∈ t.memberNames, ∀ c ∈ n.toList, c ≠ '\\' := by
  cases t <;> decide

/-- A reader gets the member names of the record's kind, in order. -/
lemma EbpfEvent.toMembers_names (sign : CharSign) (evt : EbpfEvent) :
    (evt.doc sign).toMembers.map Prod.fst =
      evt.type.memberNames.map fun n => n.toList.map Char.toNat := by
  rw [JsonDoc.toMembers, membersJVal, List.map_map, ← evt.doc_map_fst sign, List.map_map]
  exact List.map_congr_left fun m hm => bodyUnits_of_forall_ne
    (evt.type.memberNames_plain _ (evt.doc_map_fst sign ▸ List.mem_map_of_mem Prod.fst hm))

/-- A reader gets each text field of a JSON-safe record as its bytes before the NUL. -/
lemma EbpfEvent.mem_toMembers_text (sign : CharSign) (evt : EbpfEvent) (hs : evt.TextJsonSafe) :
    ∀ f ∈ evt.outStrings,
      ∃ k, (k, JVal.str ((f.takeWhile (· != 0)).map UInt8.toNat)) ∈ (evt.doc sign).toMembers := by
  intro f hf
  obtain ⟨k, hk⟩ := EbpfEvent.exists_mem_doc sign evt f hf
  have hmem : (bodyUnits k.toList, JVal.str (bodyUnits (printedText sign f))) ∈
      (evt.doc sign).toMembers := List.mem_map_of_mem (fun m => (bodyUnits m.1.toList, m.2.toJVal)) hk
  have hunits := bodyUnits_escapeString_append sign (hs f hf) []
  rw [List.append_nil, show bodyUnits [] = [] from rfl, List.append_nil] at hunits
  rw [printedText, hunits] at hmem
  exact ⟨_, hmem⟩

/-- For a record its printer writes whole, a reader of the line gets the record's document, under
the member names of its kind and with each text field as its bytes before the NUL, when every
byte of the text fields is one `out_string` escapes the way JSON does; otherwise it gets
nothing. -/
theorem eventCtxCallback_jsonDecode (sign : CharSign) (evt : EbpfEvent) (hp : evt.Printable) :
    ∃ line, eventCtxCallback sign evt = some line ∧
      jsonDecode line = (if evt.TextJsonSafe then some (evt.doc sign).toJVal else none) ∧
      (evt.doc sign).toMembers.map Prod.fst =
        evt.type.memberNames.map (fun n => n.toList.map Char.toNat) ∧
      (evt.TextJsonSafe → ∀ f ∈ evt.outStrings,
        ∃ k, (k, JVal.str ((f.takeWhile (· != 0)).map UInt8.toNat)) ∈ (evt.doc sign).toMembers) := by
  refine ⟨_, eventCtxCallback_eq_doc sign hp, ?_, EbpfEvent.toMembers_names sign evt,
    EbpfEvent.mem_toMembers_text sign evt⟩
  by_cases hs : evt.TextJsonSafe
  · rw [if_pos hs]
    exact JsonDoc.jsonDecode_render ⟨EbpfEvent.doc_names sign evt, EbpfEvent.doc_nodup sign evt,
      fun m hm => (EbpfEvent.doc_values sign evt m hm).elim id
        fun ⟨f, hf, hv⟩ => hv ▸ strBodyOk_printedText_of_jsonSafe sign (hs f hf)⟩
  · rw [if_neg hs]
    simp only [EbpfEvent.TextJsonSafe, not_forall, exists_prop] at hs
    obtain ⟨f, hf, hb⟩ := hs
    obtain ⟨p, q, hpq, hpre⟩ := escapeString_hexEscaped sign hb
    obtain ⟨k, hk⟩ := EbpfEvent.exists_mem_doc sign evt f hf
    exact JsonDoc.jsonDecode_render_of_hexEscaped
      (fun m hm => ⟨EbpfEvent.doc_names sign evt m hm, (EbpfEvent.doc_values sign evt m hm).elim
        .inl fun ⟨f, _, hv⟩ => hv ▸ printedText_wf_or_hexEscaped sign f⟩)
      ⟨_, hk, p, q, by rw [printedText, hpq], hpre⟩

/-- A file deleted by `rm`: the reader gets the record back. -/
theorem eventCtxCallback_jsonDecode_rm :
    let evt := EbpfEvent.fileDelete ⟨⟨1, 1, 1, 1, 1, 0⟩, [0x2f, 0x61, 0], 1, [0x72, 0x6d, 0]⟩
    evt.Printable ∧
      ∃ line, eventCtxCallback .signed evt = some line ∧
        jsonDecode line = (if evt.TextJsonSafe then some (evt.doc .signed).toJVal else none) ∧
        (evt.doc .signed).toMembers.map Prod.fst =
          evt.type.memberNames.map (fun n => n.toList.map Char.toNat) ∧
        (evt.TextJsonSafe → ∀ f ∈ evt.outStrings,
          ∃ k, (k, JVal.str ((f.takeWhile (· != 0)).map UInt8.toNat)) ∈
            (evt.doc .signed).toMembers) :=
  ⟨⟨by decide, (fun _ h => by cases h), (fun _ h => by cases h)⟩,
    eventCtxCallback_jsonDecode .signed _ ⟨by decide, (fun _ h => by cases h), (fun _ h => by cases h)⟩⟩

end EventsTrace
