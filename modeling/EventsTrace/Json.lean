import EventsTrace.CString
import Mathlib.Data.List.Nodup

/-!
# JSON texts

`EventsTrace` promises one JSON object per line. This module says what a JSON text is, after
RFC 8259, as a pushdown recognizer that reads a text one character at a time and keeps the
containers it is inside on a stack. It then gives the documents the printers write, objects
whose members are numbers, strings, or objects of those, with their rendering, and proves that
the recognizer accepts the rendering of every well-formed document.

The recognizer is structurally recursive on the text, so it runs by `decide` on a printed line,
and a run over a concatenation is a run over each part in turn.
-/

namespace EventsTrace

/-! ### The recognizer -/

/-- A container the recognizer is inside. -/
inductive JsonFrame
  | object
  | array
  deriving DecidableEq, Repr

/-- A position inside a string: in plain text, after a backslash, or inside the hex digits of
a `\u` escape with `n + 1` of them still to come. -/
inductive JsonStrPos
  | plain
  | escape
  | hex (n : Nat)
  deriving DecidableEq, Repr

/-- A position inside a number: after the minus sign, after a leading zero, in the integer
digits, after the point, in the fraction digits, after the `e`, after the exponent's sign, in
the exponent digits. -/
inductive JsonNumPos
  | minus
  | zero
  | int
  | point
  | frac
  | exp
  | expSign
  | expDigits
  deriving DecidableEq, Repr

/-- What the recognizer reads next. -/
inductive JsonLex
  /-- A value: at the start, after a `:`, or after a `,` in an array. -/
  | value
  /-- A value or `]`, right after a `[`. -/
  | valueOrClose
  /-- A member name, after a `,` in an object. -/
  | key
  /-- A member name or `}`, right after a `{`. -/
  | keyOrClose
  /-- The `:` after a member name. -/
  | colon
  /-- After a complete value: whitespace, a `,`, or the end of the innermost container. -/
  | after
  /-- Inside a string, a member name when `key`. -/
  | str (key : Bool) (pos : JsonStrPos)
  /-- Inside a number. -/
  | num (pos : JsonNumPos)
  /-- Inside `true`, `false` or `null`, with these letters still to come. -/
  | lit (rest : List Char)
  deriving DecidableEq, Repr

/-- The recognizer's state: what it reads next, and the containers it is inside, innermost
first. -/
structure JsonState where
  lex : JsonLex
  stack : List JsonFrame
  deriving DecidableEq, Repr

/-- RFC 8259's `ws` characters. -/
def isJsonWs (c : Char) : Bool := c == ' ' || c == '\t' || c == '\n' || c == '\r'

/-- RFC 8259's `HEXDIG`. -/
def isJsonHexDigit (c : Char) : Bool :=
  c.isDigit || ('a' ≤ c && c ≤ 'f') || ('A' ≤ c && c ≤ 'F')

/-- The first character of a value. -/
def startValue (st : List JsonFrame) (c : Char) : Option JsonState :=
  if c = '{' then some ⟨.keyOrClose, .object :: st⟩
  else if c = '[' then some ⟨.valueOrClose, .array :: st⟩
  else if c = '"' then some ⟨.str false .plain, st⟩
  else if c = '-' then some ⟨.num .minus, st⟩
  else if c = '0' then some ⟨.num .zero, st⟩
  else if c.isDigit then some ⟨.num .int, st⟩
  else if c = 't' then some ⟨.lit ['r', 'u', 'e'], st⟩
  else if c = 'f' then some ⟨.lit ['a', 'l', 's', 'e'], st⟩
  else if c = 'n' then some ⟨.lit ['u', 'l', 'l'], st⟩
  else none

/-- A character after a complete value: whitespace, a separator, or the bracket that closes
the innermost container. -/
def afterValue (st : List JsonFrame) (c : Char) : Option JsonState :=
  if isJsonWs c then some ⟨.after, st⟩
  else match c, st with
    | ',', .object :: _ => some ⟨.key, st⟩
    | ',', .array :: _ => some ⟨.value, st⟩
    | '}', .object :: st => some ⟨.after, st⟩
    | ']', .array :: st => some ⟨.after, st⟩
    | _, _ => none

/-- The next position in a number, `none` where the number cannot go on. -/
def JsonNumPos.next : JsonNumPos → Char → Option JsonNumPos
  | .minus, c => if c = '0' then some .zero else if c.isDigit then some .int else none
  | .zero, c => if c = '.' then some .point else if c = 'e' ∨ c = 'E' then some .exp else none
  | .int, c =>
    if c.isDigit then some .int
    else if c = '.' then some .point
    else if c = 'e' ∨ c = 'E' then some .exp
    else none
  | .point, c => if c.isDigit then some .frac else none
  | .frac, c => if c.isDigit then some .frac else if c = 'e' ∨ c = 'E' then some .exp else none
  | .exp, c => if c = '+' ∨ c = '-' then some .expSign else if c.isDigit then some .expDigits else none
  | .expSign, c => if c.isDigit then some .expDigits else none
  | .expDigits, c => if c.isDigit then some .expDigits else none

/-- A number may end at this position. -/
def JsonNumPos.complete : JsonNumPos → Bool
  | .zero | .int | .frac | .expDigits => true
  | _ => false

/-- A character inside a string; a member name goes on to its `:`. -/
def strStep (key : Bool) (st : List JsonFrame) : JsonStrPos → Char → Option JsonState
  | .plain, c =>
    if c = '"' then some ⟨if key then .colon else .after, st⟩
    else if c = '\\' then some ⟨.str key .escape, st⟩
    else if c.toNat < 0x20 then none
    else some ⟨.str key .plain, st⟩
  | .escape, c =>
    if c ∈ ['"', '\\', '/', 'b', 'f', 'n', 'r', 't'] then some ⟨.str key .plain, st⟩
    else if c = 'u' then some ⟨.str key (.hex 3), st⟩
    else none
  | .hex n, c =>
    if isJsonHexDigit c then
      some ⟨.str key (match n with | 0 => .plain | n + 1 => .hex n), st⟩
    else none

/-- One character of a JSON text. A number or a literal ends at the first character that cannot
go on with it, which is then read as coming after the value. -/
def jsonStep (s : JsonState) (c : Char) : Option JsonState :=
  match s.lex with
  | .value => if isJsonWs c then some s else startValue s.stack c
  | .valueOrClose =>
    if isJsonWs c then some s
    else if c = ']' then some ⟨.after, s.stack.tail⟩
    else startValue s.stack c
  | .key => if isJsonWs c then some s else if c = '"' then some ⟨.str true .plain, s.stack⟩ else none
  | .keyOrClose =>
    if isJsonWs c then some s
    else if c = '"' then some ⟨.str true .plain, s.stack⟩
    else if c = '}' then some ⟨.after, s.stack.tail⟩
    else none
  | .colon => if isJsonWs c then some s else if c = ':' then some ⟨.value, s.stack⟩ else none
  | .after => afterValue s.stack c
  | .str key pos => strStep key s.stack pos c
  | .num pos =>
    match pos.next c with
    | some p => some ⟨.num p, s.stack⟩
    | none => if pos.complete then afterValue s.stack c else none
  | .lit [] => afterValue s.stack c
  | .lit (l :: ls) => if c = l then some ⟨.lit ls, s.stack⟩ else none

/-- The recognizer over a text, `none` at the first character it rejects. -/
def jsonRun (s : JsonState) : List Char → Option JsonState
  | [] => some s
  | c :: cs => (jsonStep s c).bind fun s' => jsonRun s' cs

@[simp] lemma jsonRun_nil (s : JsonState) : jsonRun s [] = some s := rfl

@[simp] lemma jsonRun_cons (s : JsonState) (c : Char) (cs : List Char) :
    jsonRun s (c :: cs) = (jsonStep s c).bind fun s' => jsonRun s' cs := rfl

lemma jsonRun_append (s : JsonState) (a b : List Char) :
    jsonRun s (a ++ b) = (jsonRun s a).bind fun s' => jsonRun s' b := by
  induction a generalizing s with
  | nil => rfl
  | cons c a ih =>
    simp only [List.cons_append, jsonRun_cons, ih, Option.bind_assoc]

/-- The recognizer may stop here: a value is complete and no container is open. -/
def JsonState.accepting (s : JsonState) : Bool :=
  s.stack.isEmpty && match s.lex with
    | .after | .lit [] => true
    | .num p => p.complete
    | _ => false

/-- RFC 8259's `JSON-text`: one value between optional whitespace. -/
def jsonText (t : List Char) : Bool :=
  match jsonRun ⟨.value, []⟩ t with
  | some s => s.accepting
  | none => false

example : jsonText "\x7b\"a\": [1, -0.5e+3, true, null], \"b\": \x7b\x7d\x7d\n".toList = true := by
  decide
example : jsonText "\x7b\"a\":1,\x7d".toList = false ∧ jsonText "[01]".toList = false := by decide

/-! ### Strings -/

/-- Text that can stand between the quotes of a JSON string and that the printers write:
characters other than `"`, `\` and controls, and two-character escapes. -/
def strBodyOk : List Char → Bool
  | [] => true
  | '\\' :: e :: s => e ∈ ['"', '\\', '/', 'b', 'f', 'n', 'r', 't'] && strBodyOk s
  | c :: s => 0x20 ≤ c.toNat && c ≠ '"' && c ≠ '\\' && strBodyOk s

lemma strBodyOk_cons {c : Char} (hc : c ≠ '\\') (s : List Char) :
    strBodyOk (c :: s) = (0x20 ≤ c.toNat && c ≠ '"' && strBodyOk s) := by
  cases s <;> simp [strBodyOk, hc]

lemma strBodyOk_escape (e : Char) (s : List Char) :
    strBodyOk ('\\' :: e :: s) = (e ∈ ['"', '\\', '/', 'b', 'f', 'n', 'r', 't'] && strBodyOk s) := by
  rw [strBodyOk]

/-- Text of plain characters only is a string body. -/
lemma strBodyOk_of_forall {s : List Char} (h : ∀ c ∈ s, 0x20 ≤ c.toNat ∧ c ≠ '"' ∧ c ≠ '\\') :
    strBodyOk s := by
  induction s with
  | nil => rfl
  | cons c s ih =>
    simp only [List.mem_cons, forall_eq_or_imp] at h
    simp [strBodyOk_cons h.1.2.2, h.1.1, h.1.2.1, ih h.2]

/-- The recognizer reads a string body and stays inside the string. -/
lemma jsonRun_strBody_append (key : Bool) (st : List JsonFrame) {body : List Char}
    (h : strBodyOk body) (rest : List Char) :
    jsonRun ⟨.str key .plain, st⟩ (body ++ rest) = jsonRun ⟨.str key .plain, st⟩ rest := by
  induction body using strBodyOk.induct with
  | case1 => rfl
  | case2 e s ih =>
    rw [strBodyOk_escape, Bool.and_eq_true, decide_eq_true_eq] at h
    have he : e = '"' ∨ e = '\\' ∨ e = '/' ∨ e = 'b' ∨ e = 'f' ∨ e = 'n' ∨ e = 'r' ∨ e = 't' := by
      simpa using h.1
    simp [jsonStep, strStep, he, ih h.2]
  | case3 c s hne ih =>
    have hc : c ≠ '\\' := by
      rintro rfl
      cases s with
      | nil => exact absurd h (by decide)
      | cons e s => exact hne e s rfl rfl
    simp only [strBodyOk_cons hc, Bool.and_eq_true, decide_eq_true_eq] at h
    simp [jsonStep, strStep, h.1.2, hc, ih h.2, Nat.not_lt.mpr h.1.1]

/-- The recognizer reads a string body up to the closing quote. -/
lemma jsonRun_strBody (key : Bool) (st : List JsonFrame) {body : List Char}
    (h : strBodyOk body) (rest : List Char) :
    jsonRun ⟨.str key .plain, st⟩ (body ++ '"' :: rest) =
      jsonRun ⟨if key then .colon else .after, st⟩ rest := by
  rw [jsonRun_strBody_append key st h]
  simp [jsonStep, strStep]

/-! ### Numbers -/

lemma digitChar_isDigit {d : Nat} (h : d < 10) : (Nat.digitChar d).isDigit := by
  revert d; decide

/-- The decimal digits of a positive number: a digit other than `0`, then digits. -/
lemma toDigits_ten_of_pos {n : Nat} (hn : 0 < n) :
    ∃ d ds, Nat.toDigits 10 n = d :: ds ∧ d.isDigit ∧ d ≠ '0' ∧ ∀ x ∈ ds, x.isDigit := by
  induction n using Nat.strong_induction_on with
  | _ n ih =>
    by_cases h : n < 10
    · refine ⟨_, [], toDigits_of_lt h, digitChar_isDigit h, ?_, by simp⟩
      clear ih; revert hn; revert h; revert n; decide
    · obtain ⟨d, ds, hd, h1, h2, h3⟩ := ih (n / 10) (by omega) (by omega)
      refine ⟨d, ds ++ [Nat.digitChar (n % 10)], ?_, h1, h2, ?_⟩
      · rw [toDigits_of_le (by decide) (by omega), hd, List.cons_append]
      · simpa [List.mem_append] using
          fun x hx => hx.elim (h3 x) fun hx => hx ▸ digitChar_isDigit (Nat.mod_lt _ (by decide))

/-- Inside the integer digits of a number, digits keep the recognizer there. -/
lemma jsonRun_int_digits (st : List JsonFrame) :
    ∀ ds : List Char, (∀ x ∈ ds, x.isDigit) → jsonRun ⟨.num .int, st⟩ ds = some ⟨.num .int, st⟩
  | [], _ => rfl
  | x :: ds, h => by
    simp only [List.mem_cons, forall_eq_or_imp] at h
    simp [jsonStep, JsonNumPos.next, h.1, jsonRun_int_digits st ds h.2]


/-- The separators and brackets that end a member's value in the printers' output. -/
def IsCloser (c : Char) : Prop := c = ',' ∨ c = '}'

/-- A number is ended by the separator or bracket after it. -/
lemma jsonStep_num_closer {p : JsonNumPos} (hp : p = .zero ∨ p = .int) (st : List JsonFrame)
    {c : Char} (hc : IsCloser c) : jsonStep ⟨.num p, st⟩ c = afterValue st c := by
  rcases hp with rfl | rfl <;> rcases hc with rfl | rfl <;> rfl

lemma ne_of_isDigit {d c : Char} (hd : d.isDigit) (hc : c.isDigit = false) : d ≠ c := by
  rintro rfl; simp [hc] at hd

/-- The digits of a positive number, from a state that reads a digit other than `0` as the
start of integer digits, up to the separator or bracket after them. -/
lemma jsonRun_toDigits {s : JsonState} {st : List JsonFrame}
    (hs : ∀ d : Char, d.isDigit → d ≠ '0' → jsonStep s d = some ⟨.num .int, st⟩)
    {m : Nat} (hm : 0 < m) {c : Char} (hc : IsCloser c) :
    jsonRun s (Nat.toDigits 10 m ++ [c]) = afterValue st c := by
  obtain ⟨d, ds, hds, h1, h2, hdig⟩ := toDigits_ten_of_pos hm
  simp [hds, hs d h1 h2, jsonRun_append, jsonRun_int_digits st ds hdig,
    jsonStep_num_closer (.inr rfl) st hc]

/-- `printf("%ld", n)` is read as one number. -/
lemma jsonRun_printfLd (n : Int) (st : List JsonFrame) {c : Char} (hc : IsCloser c) :
    jsonRun ⟨.value, st⟩ (printfLd n ++ [c]) = afterValue st c := by
  match n with
  | .ofNat 0 =>
    rw [show printfLd (.ofNat 0) ++ [c] = '0' :: [c] from rfl, jsonRun_cons,
      show jsonStep ⟨.value, st⟩ '0' = some ⟨.num .zero, st⟩ from rfl]
    simp [jsonStep_num_closer (.inl rfl) st hc]
  | .ofNat (m + 1) =>
    refine jsonRun_toDigits (fun d hd h0 => ?_) (Nat.succ_pos m) hc
    simp [jsonStep, isJsonWs, startValue, h0, hd, ne_of_isDigit hd (c := ' ') rfl,
      ne_of_isDigit hd (c := '\t') rfl, ne_of_isDigit hd (c := '\n') rfl,
      ne_of_isDigit hd (c := '\r') rfl, ne_of_isDigit hd (c := '{') rfl,
      ne_of_isDigit hd (c := '[') rfl, ne_of_isDigit hd (c := '"') rfl,
      ne_of_isDigit hd (c := '-') rfl]
  | .negSucc m =>
    rw [show printfLd (.negSucc m) ++ [c] = '-' :: (Nat.toDigits 10 (m + 1) ++ [c]) from rfl,
      jsonRun_cons, show jsonStep ⟨.value, st⟩ '-' = some ⟨.num .minus, st⟩ from rfl,
      Option.some_bind]
    exact jsonRun_toDigits (fun d hd h0 => by simp [jsonStep, JsonNumPos.next, h0, hd])
      (Nat.succ_pos m) hc

/-! ### Documents -/

/-- A value the printers write that holds no member: a number, or a string given by the text
between its quotes. -/
inductive JsonScalar
  | num (n : Int)
  | str (body : List Char)
  deriving DecidableEq, Repr

/-- A member's value: a scalar, or an object of scalar members. -/
inductive JsonValue
  | scalar (v : JsonScalar)
  | object (ms : List (String × JsonScalar))
  deriving DecidableEq, Repr

/-- The members of a printed object, in order. -/
abbrev JsonDoc := List (String × JsonValue)

def JsonScalar.render : JsonScalar → List Char
  | .num n => printfLd n
  | .str body => '"' :: body ++ ['"']

/-- Members as `"name":value`, separated by one comma each. -/
def renderMembers {α : Type} (r : α → List Char) : List (String × α) → List Char
  | [] => []
  | [(k, v)] => outName k ++ r v
  | (k, v) :: m :: ms => outName k ++ r v ++ ',' :: renderMembers r (m :: ms)

def renderObject {α : Type} (r : α → List Char) (ms : List (String × α)) : List Char :=
  '{' :: renderMembers r ms ++ ['}']

def JsonValue.render : JsonValue → List Char
  | .scalar v => v.render
  | .object ms => renderObject JsonScalar.render ms

/-- The line a printer writes for a document. -/
def JsonDoc.render (doc : JsonDoc) : List Char := renderObject JsonValue.render doc

def JsonScalar.wf : JsonScalar → Prop
  | .num _ => True
  | .str body => strBodyOk body

/-- The members of an object are well formed: names that need no escape, pairwise distinct,
and well-formed values. -/
structure MembersWf {α : Type} (wf : α → Prop) (ms : List (String × α)) : Prop where
  names : ∀ m ∈ ms, strBodyOk m.1.toList
  nodup : (ms.map Prod.fst).Nodup
  values : ∀ m ∈ ms, wf m.2

def JsonValue.wf : JsonValue → Prop
  | .scalar v => v.wf
  | .object ms => MembersWf JsonScalar.wf ms

/-- A document is well formed: so are its members, and every object nested in it. -/
def JsonDoc.wf (doc : JsonDoc) : Prop := MembersWf JsonValue.wf doc

/-! ### The recognizer accepts every well-formed document -/

section Roundtrip

/-- What the recognizer does with the characters of a value and the separator or bracket
after it, inside any containers: it reads them as a whole value followed by that character. -/
def ReadsAsValue (t : List Char) : Prop :=
  ∀ st c, IsCloser c → jsonRun ⟨.value, st⟩ (t ++ [c]) = afterValue st c

lemma JsonScalar.readsAsValue_render {v : JsonScalar} (hv : v.wf) : ReadsAsValue v.render := by
  intro st c hc
  cases v with
  | num n => exact jsonRun_printfLd n st hc
  | str body =>
    simp only [JsonScalar.render, List.cons_append, List.append_assoc, List.singleton_append,
      jsonRun_cons]
    rw [show jsonStep ⟨.value, st⟩ '"' = some ⟨.str false .plain, st⟩ from rfl, Option.some_bind,
      jsonRun_strBody false st hv]
    simp [jsonStep]

/-- The states that read a member name's opening quote. -/
def OpensKey (lex : JsonLex) : Prop := lex = .key ∨ lex = .keyOrClose

lemma jsonStep_quote_of_opensKey {lex : JsonLex} (h : OpensKey lex) (st : List JsonFrame) :
    jsonStep ⟨lex, st⟩ '"' = some ⟨.str true .plain, st⟩ := by
  rcases h with rfl | rfl <;> rfl

variable {α : Type} (r : α → List Char)

/-- One member, then the separator or bracket after it. -/
lemma jsonRun_member {lex : JsonLex} (hlex : OpensKey lex) (st : List JsonFrame) {k : String}
    (hk : strBodyOk k.toList) {v : α} (hv : ReadsAsValue (r v)) {c : Char} (hc : IsCloser c) :
    jsonRun ⟨lex, st⟩ (outName k ++ r v ++ [c]) = afterValue st c := by
  simp only [outName, List.cons_append, List.append_assoc, List.singleton_append, jsonRun_cons,
    jsonStep_quote_of_opensKey hlex, Option.some_bind]
  rw [jsonRun_strBody true st hk]
  simpa [jsonStep] using hv st c hc

/-- A nonempty run of members and the `}` after them close the object. -/
lemma jsonRun_renderMembers (st : List JsonFrame) :
    ∀ {ms : List (String × α)} {lex : JsonLex}, ms ≠ [] → OpensKey lex →
      (∀ m ∈ ms, strBodyOk m.1.toList ∧ ReadsAsValue (r m.2)) →
      jsonRun ⟨lex, .object :: st⟩ (renderMembers r ms ++ ['}']) = some ⟨.after, st⟩
  | [], _, h, _, _ => absurd rfl h
  | [(k, v)], lex, _, hlex, hms => by
    have hm := hms (k, v) (List.mem_singleton_self _)
    rw [renderMembers, jsonRun_member r hlex _ hm.1 hm.2 (.inr rfl)]
    rfl
  | (k, v) :: m :: ms, lex, _, hlex, hms => by
    have hm := hms (k, v) (List.mem_cons_self _ _)
    have hrest := jsonRun_renderMembers st (List.cons_ne_nil m ms) (.inl rfl)
      fun m' hm' => hms m' (List.mem_cons_of_mem _ hm')
    have heq : renderMembers r ((k, v) :: m :: ms) ++ ['}'] =
        (outName k ++ r v ++ [',']) ++ (renderMembers r (m :: ms) ++ ['}']) := by
      simp [renderMembers]
    rw [heq, jsonRun_append, jsonRun_member r hlex _ hm.1 hm.2 (.inl rfl)]
    exact hrest

/-- An object reads as one value. -/
lemma jsonRun_renderObject (st : List JsonFrame) {ms : List (String × α)}
    (hms : ∀ m ∈ ms, strBodyOk m.1.toList ∧ ReadsAsValue (r m.2)) :
    jsonRun ⟨.value, st⟩ (renderObject r ms) = some ⟨.after, st⟩ := by
  rw [renderObject, List.cons_append, jsonRun_cons,
    show jsonStep ⟨.value, st⟩ '{' = some ⟨.keyOrClose, .object :: st⟩ from rfl, Option.some_bind]
  cases ms with
  | nil => rfl
  | cons m ms => exact jsonRun_renderMembers r st (List.cons_ne_nil m ms) (.inr rfl) hms

lemma readsAsValue_renderObject {ms : List (String × α)}
    (hms : ∀ m ∈ ms, strBodyOk m.1.toList ∧ ReadsAsValue (r m.2)) :
    ReadsAsValue (renderObject r ms) := by
  intro st c _
  rw [jsonRun_append, jsonRun_renderObject r st hms]
  simp [jsonStep]

/-- A member name and the `{` that opens its value. -/
lemma jsonRun_name_open {lex : JsonLex} (hlex : OpensKey lex) (st : List JsonFrame) {k : String}
    (hk : strBodyOk k.toList) (rest : List Char) :
    jsonRun ⟨lex, st⟩ (outName k ++ '{' :: rest) = jsonRun ⟨.keyOrClose, .object :: st⟩ rest := by
  simp only [outName, List.cons_append, List.append_assoc, List.singleton_append, jsonRun_cons,
    jsonStep_quote_of_opensKey hlex, Option.some_bind]
  rw [jsonRun_strBody true st hk]
  rfl

/-- A comma where a member name should start is rejected. -/
lemma jsonRun_comma_of_opensKey {lex : JsonLex} (hlex : OpensKey lex) (st : List JsonFrame)
    (rest : List Char) : jsonRun ⟨lex, st⟩ (',' :: rest) = none := by
  rcases hlex with rfl | rfl <;> rfl

end Roundtrip

lemma JsonValue.readsAsValue_render {v : JsonValue} (hv : v.wf) : ReadsAsValue v.render := by
  cases v with
  | scalar v => exact JsonScalar.readsAsValue_render hv
  | object ms =>
    exact readsAsValue_renderObject _ fun m hm =>
      ⟨hv.names m hm, JsonScalar.readsAsValue_render (hv.values m hm)⟩

/-- The line printed for a well-formed document, newline included, is a JSON text. -/
theorem JsonDoc.jsonText_render {doc : JsonDoc} (h : doc.wf) :
    jsonText (doc.render ++ ['\n']) = true := by
  have hrun := jsonRun_renderObject JsonValue.render [] fun m hm =>
    ⟨h.names m hm, JsonValue.readsAsValue_render (h.values m hm)⟩
  rw [jsonText, JsonDoc.render, jsonRun_append, hrun]
  rfl

/-! ### The recognizer rejects a `\\x` escape -/

/-- A string value that reaches a `\\x`, an escape RFC 8259 does not have, after a well-formed
start. -/
def HexEscaped (v : JsonValue) : Prop :=
  ∃ p q, v = .scalar (.str (p ++ '\\' :: 'x' :: q)) ∧ strBodyOk p

lemma jsonRun_hexEscaped_member {lex : JsonLex} (hlex : OpensKey lex) (st : List JsonFrame)
    {k : String} (hk : strBodyOk k.toList) {v : JsonValue} (hv : HexEscaped v) (rest : List Char) :
    jsonRun ⟨lex, st⟩ (outName k ++ v.render ++ rest) = none := by
  obtain ⟨p, q, rfl, hp⟩ := hv
  simp only [outName, JsonValue.render, JsonScalar.render, List.cons_append, List.append_assoc,
    List.singleton_append, jsonRun_cons, jsonStep_quote_of_opensKey hlex, Option.some_bind]
  rw [jsonRun_strBody true st hk]
  simp only [↓reduceIte, jsonRun_cons, List.nil_append]
  rw [show jsonStep ⟨.colon, st⟩ ':' = some ⟨.value, st⟩ from rfl, Option.some_bind,
    show jsonStep ⟨.value, st⟩ '"' = some ⟨.str false .plain, st⟩ from rfl, Option.some_bind,
    jsonRun_strBody_append false st hp]
  rfl

/-- Members before the first `\\x` that read as values do not save the object: the recognizer
rejects it there. -/
lemma jsonRun_renderMembers_hexEscaped (st : List JsonFrame) :
    ∀ {ms : JsonDoc} {lex : JsonLex}, OpensKey lex →
      (∀ m ∈ ms, strBodyOk m.1.toList ∧ (m.2.wf ∨ HexEscaped m.2)) → (∃ m ∈ ms, HexEscaped m.2) →
      ∀ rest, jsonRun ⟨lex, .object :: st⟩ (renderMembers JsonValue.render ms ++ rest) = none
  | [], _, _, _, ⟨_, hm, _⟩, _ => absurd hm (List.not_mem_nil _)
  | [(k, v)], _, hlex, hms, ⟨_, hm, hx⟩, rest => by
    rw [List.mem_singleton] at hm
    subst hm
    exact jsonRun_hexEscaped_member hlex _ (hms _ (List.mem_singleton_self _)).1 hx rest
  | (k, v) :: m :: ms, _, hlex, hms, ⟨m', hm', hx⟩, rest => by
    have hkv := hms (k, v) (List.mem_cons_self _ _)
    have heq : renderMembers JsonValue.render ((k, v) :: m :: ms) ++ rest =
        (outName k ++ v.render ++ [',']) ++ (renderMembers JsonValue.render (m :: ms) ++ rest) := by
      simp [renderMembers]
    rw [heq]
    by_cases hv : HexEscaped v
    · rw [List.append_assoc]
      exact jsonRun_hexEscaped_member hlex _ hkv.1 hv _
    · have htail : ∃ n ∈ m :: ms, HexEscaped n.2 := by
        rcases List.mem_cons.1 hm' with rfl | h
        · exact absurd hx hv
        · exact ⟨m', h, hx⟩
      rw [jsonRun_append, jsonRun_member JsonValue.render hlex _ hkv.1
          (JsonValue.readsAsValue_render (hkv.2.resolve_right hv)) (.inl rfl)]
      exact jsonRun_renderMembers_hexEscaped st (.inl rfl)
        (fun m hm => hms m (List.mem_cons_of_mem _ hm)) htail rest

/-- A line whose document has a string member that reaches `\\x`, every member being well formed
or such a string, is not a JSON text. -/
lemma JsonDoc.jsonText_render_of_hexEscaped {doc : JsonDoc}
    (h : ∀ m ∈ doc, strBodyOk m.1.toList ∧ (m.2.wf ∨ HexEscaped m.2))
    (hx : ∃ m ∈ doc, HexEscaped m.2) : jsonText (doc.render ++ ['\n']) = false := by
  have hrun : jsonRun ⟨.value, []⟩ (doc.render ++ ['\n']) = none := by
    simp only [JsonDoc.render, renderObject, List.cons_append, List.append_assoc, jsonRun_cons]
    rw [show jsonStep ⟨.value, []⟩ '{' = some ⟨.keyOrClose, [.object]⟩ from rfl, Option.some_bind]
    exact jsonRun_renderMembers_hexEscaped [] (.inr rfl) h hx _
  simp [jsonText, hrun]

/-! ### The letters of a literal -/

/-- What is left of `true`, `false` or `null` once the recognizer has read their first
letters. -/
def litRests : List (List Char) :=
  [['r', 'u', 'e'], ['u', 'e'], ['e'], ['a', 'l', 's', 'e'], ['l', 's', 'e'], ['s', 'e'],
    ['u', 'l', 'l'], ['l', 'l'], ['l'], []]

lemma litRests_tail : ∀ l ∈ litRests, l.tail ∈ litRests := by decide

/-- Inside a literal, the recognizer waits for the rest of `true`, `false` or `null`. -/
def JsonState.LitOk (s : JsonState) : Prop := ∀ l, s.lex = .lit l → l ∈ litRests

lemma startValue_litOk {st : List JsonFrame} {c : Char} {t : JsonState}
    (h : startValue st c = some t) : t.LitOk := by
  simp only [startValue, ite_eq_iff, Option.some.injEq, reduceCtorEq, and_false, or_false] at h
  rcases h with ⟨-, rfl⟩ | ⟨-, ⟨-, rfl⟩ | ⟨-, ⟨-, rfl⟩ | ⟨-, ⟨-, rfl⟩ | ⟨-, ⟨-, rfl⟩ | ⟨-, ⟨-, rfl⟩ |
    ⟨-, ⟨-, rfl⟩ | ⟨-, ⟨-, rfl⟩ | ⟨-, -, rfl⟩⟩⟩⟩⟩⟩⟩⟩ <;> rintro l ⟨⟩ <;> decide

lemma afterValue_litOk {st : List JsonFrame} {c : Char} {t : JsonState}
    (h : afterValue st c = some t) : t.LitOk := by
  unfold afterValue at h
  split_ifs at h
  · cases h; rintro l ⟨⟩
  · split at h <;> cases h <;> rintro l ⟨⟩

lemma strStep_litOk {key : Bool} {st : List JsonFrame} {pos : JsonStrPos} {c : Char}
    {t : JsonState} (h : strStep key st pos c = some t) : t.LitOk := by
  cases pos <;> simp only [strStep, ite_eq_iff, Option.some.injEq, reduceCtorEq, and_false,
    or_false, false_or] at h
  · rcases h with ⟨-, rfl⟩ | ⟨-, ⟨-, rfl⟩ | ⟨-, -, rfl⟩⟩ <;> rintro l hl <;> cases key <;> cases hl
  · rcases h with ⟨-, rfl⟩ | ⟨-, -, rfl⟩ <;> rintro l ⟨⟩
  · rcases h with ⟨-, rfl⟩
    rintro l ⟨⟩

/-- One character keeps the recognizer within the letters of a literal. -/
lemma jsonStep_litOk {s t : JsonState} {c : Char} (hs : s.LitOk) (h : jsonStep s c = some t) :
    t.LitOk := by
  rcases s with ⟨lex, st⟩
  cases lex with
  | value | valueOrClose | key | keyOrClose | colon =>
    simp only [jsonStep] at h
    split_ifs at h <;> first | exact startValue_litOk h | (cases h; first | exact hs | rintro l ⟨⟩)
  | after => exact afterValue_litOk h
  | str key pos => exact strStep_litOk h
  | num pos =>
    simp only [jsonStep] at h
    split at h
    · cases h; rintro l ⟨⟩
    · split_ifs at h; exact afterValue_litOk h
  | lit l =>
    cases l with
    | nil => exact afterValue_litOk h
    | cons a ls =>
      simp only [jsonStep] at h
      split_ifs at h
      cases h
      rintro l ⟨⟩
      exact litRests_tail _ (hs _ rfl)

/-- Every state the recognizer reaches from the start waits, inside a literal, for the rest of
`true`, `false` or `null`. -/
lemma jsonRun_litOk : ∀ (cs : List Char) {s t : JsonState}, s.LitOk → jsonRun s cs = some t →
    t.LitOk
  | [], _, _, hs, h => Option.some.inj h ▸ hs
  | c :: cs, _, _, hs, h => by
    obtain ⟨s', hs', h'⟩ := Option.bind_eq_some.1 h
    exact jsonRun_litOk cs (jsonStep_litOk hs hs') h'

end EventsTrace
