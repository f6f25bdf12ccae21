import EventsTrace.Lines

/-!
# When a line is a JSON text

`out_string` writes a byte outside printable ASCII with one of the six escapes it names (`\n`,
`\r`, `\\`, `\"`, `\t`, `\b`), and any other one as `\x` and hex digits. RFC 8259 has the six
but no `\x`, so a single such byte in a text field, the escape character that starts a terminal's
control sequence or any byte above `0x7f`, makes the whole line a text no JSON parser accepts.

This module proves the exact criterion, for either signedness of `char`: the line a record's
printer writes whole is a JSON text exactly when every byte it hands to `out_string` is printable
ASCII, a backspace, a tab, a newline or a carriage return.
-/

namespace EventsTrace

/-- The bytes `out_string` writes as JSON does: printable ASCII, and the controls it escapes the
way JSON does (backspace, tab, newline, carriage return). -/
def JsonSafeByte (b : UInt8) : Prop :=
  IsPrintableByte b ∨ b.toNat = 8 ∨ b.toNat = 9 ∨ b.toNat = 10 ∨ b.toNat = 13

instance : DecidablePred JsonSafeByte := fun _ => inferInstanceAs (Decidable (_ ∨ _))

/-! ### One byte, one array -/

lemma strBodyOk_outStringChar_append (sign : CharSign) {b : UInt8} (hb : JsonSafeByte b)
    (t : List Char) : strBodyOk (outStringChar sign b ++ t) = strBodyOk t := by
  rcases hb with hp | h | h | h | h
  · rw [outStringChar_of_lt sign (by have := hp.2; omega)]
    exact strBodyOk_specEscape_append hp t
  all_goals
    rw [outStringChar_of_lt sign (by omega)]
    simp [specEscape, h, strBodyOk_escape]

/-- Every other byte comes out as `\x` and hex digits. -/
lemma outStringChar_of_not_jsonSafe (sign : CharSign) {b : UInt8} (hb : ¬ JsonSafeByte b) :
    ∃ q, outStringChar sign b = '\\' :: 'x' :: q := by
  simp only [JsonSafeByte, IsPrintableByte, not_or, not_and_or, Nat.not_le] at hb
  by_cases h : b.toNat < 128
  · rw [outStringChar_of_lt sign h]
    exact ⟨hexByte b.toNat, by simp (disch := omega) only [specEscape, if_neg, if_pos]⟩
  · rcases outStringChar_cases sign b with h' | ⟨-, h'⟩ <;> rw [h']
    · exact ⟨hexByte b.toNat, by simp (disch := omega) only [specEscape, if_neg, if_pos]⟩
    · exact ⟨_, rfl⟩

lemma strBodyOk_escapeString_append (sign : CharSign) :
    ∀ {s : List UInt8}, (∀ b ∈ s, JsonSafeByte b) → ∀ t,
      strBodyOk (escapeString sign s ++ t) = strBodyOk t
  | [], _, _ => rfl
  | b :: s, h, t => by
    rw [escapeString_cons, List.append_assoc,
      strBodyOk_outStringChar_append sign (h b (List.mem_cons_self _ _))]
    exact strBodyOk_escapeString_append sign (fun b' hb' => h b' (List.mem_cons_of_mem _ hb')) t

/-- The escaping of bytes holding one that is not JSON-safe reaches `\x` after a well-formed
start: the escapes of the bytes before the first such one. -/
lemma escapeString_hexEscaped (sign : CharSign) :
    ∀ {s : List UInt8}, (∃ b ∈ s, ¬ JsonSafeByte b) →
      ∃ p q, escapeString sign s = p ++ '\\' :: 'x' :: q ∧ strBodyOk p
  | [], ⟨_, hb, _⟩ => absurd hb (List.not_mem_nil _)
  | b :: s, ⟨b', hb', hbad⟩ => by
    rw [escapeString_cons]
    by_cases hb : JsonSafeByte b
    · have hs : ∃ c ∈ s, ¬ JsonSafeByte c := by
        rcases List.mem_cons.1 hb' with rfl | h
        · exact absurd hb hbad
        · exact ⟨b', h, hbad⟩
      obtain ⟨p, q, hpq, hp⟩ := escapeString_hexEscaped sign hs
      refine ⟨outStringChar sign b ++ p, q, by rw [hpq, List.append_assoc], ?_⟩
      rw [strBodyOk_outStringChar_append sign hb]
      exact hp
    · obtain ⟨q, hq⟩ := outStringChar_of_not_jsonSafe sign hb
      exact ⟨[], q ++ escapeString sign s, by simp [hq], rfl⟩

lemma strBodyOk_printedText_of_jsonSafe (sign : CharSign) {f : List UInt8}
    (h : ∀ b ∈ f.takeWhile (· != 0), JsonSafeByte b) : strBodyOk (printedText sign f) := by
  have h' := strBodyOk_escapeString_append sign h []
  rwa [List.append_nil] at h'

/-- The member `out_string` writes for an array is a well-formed string or reaches `\x`. -/
lemma printedText_wf_or_hexEscaped (sign : CharSign) (f : List UInt8) :
    (JsonValue.scalar (.str (printedText sign f))).wf ∨
      HexEscaped (.scalar (.str (printedText sign f))) := by
  by_cases h : ∀ b ∈ f.takeWhile (· != 0), JsonSafeByte b
  · exact .inl (strBodyOk_printedText_of_jsonSafe sign h)
  · simp only [not_forall, exists_prop] at h
    obtain ⟨p, q, hpq, hp⟩ := escapeString_hexEscaped sign h
    exact .inr ⟨p, q, by rw [printedText, hpq], hp⟩

/-! ### The line -/

/-- For a record its printer writes whole, the line is a JSON text exactly when every byte the
printer hands to `out_string` is printable ASCII, a backspace, a tab, a newline or a carriage
return, whichever signedness `char` has. -/
theorem eventCtxCallback_jsonText_iff (sign : CharSign) (evt : EbpfEvent) (hp : evt.Printable) :
    ∃ line, eventCtxCallback sign evt = some line ∧
      (jsonText line = true ↔
        ∀ f ∈ evt.outStrings, ∀ b ∈ f.takeWhile (· != 0), JsonSafeByte b) := by
  refine ⟨_, eventCtxCallback_eq_doc sign hp, fun hj => ?_, fun hs => ?_⟩
  · by_contra hbad
    simp only [not_forall, exists_prop] at hbad
    obtain ⟨f, hf, hb⟩ := hbad
    obtain ⟨p, q, hpq, hpre⟩ := escapeString_hexEscaped sign hb
    obtain ⟨k, hk⟩ := EbpfEvent.exists_mem_doc sign evt f hf
    have hm : ∀ m ∈ evt.doc sign, strBodyOk m.1.toList ∧ (m.2.wf ∨ HexEscaped m.2) :=
      fun m hm => ⟨EbpfEvent.doc_names sign evt m hm,
        (EbpfEvent.doc_values sign evt m hm).elim .inl
          fun ⟨f, _, hv⟩ => hv ▸ printedText_wf_or_hexEscaped sign f⟩
    have hrej := JsonDoc.jsonText_render_of_hexEscaped hm
      ⟨_, hk, p, q, by rw [printedText, hpq], hpre⟩
    exact Bool.false_ne_true (hrej.symm.trans hj)
  · refine JsonDoc.jsonText_render ⟨EbpfEvent.doc_names sign evt, EbpfEvent.doc_nodup sign evt,
      fun m hm => ?_⟩
    obtain hwf | ⟨f, hf, hv⟩ := EbpfEvent.doc_values sign evt m hm
    · exact hwf
    · exact hv ▸ strBodyOk_printedText_of_jsonSafe sign (hs f hf)

/-- A TTY write whose output holds a terminal's control sequence `ESC [ m`: the line is no JSON
text. -/
theorem eventCtxCallback_jsonText_iff_escape :
    let evt := EbpfEvent.processTtyWrite
      ⟨⟨1, 1, 1, 1, 1, 0⟩, 3, 0, ⟨136, 0, 24, 80, 8⟩, [0x1b, 0x5b, 0x6d, 0], [0x73, 0x68, 0]⟩
    evt.Printable ∧
      (∃ line, eventCtxCallback .unsigned evt = some line ∧
        (jsonText line = true ↔
          ∀ f ∈ evt.outStrings, ∀ b ∈ f.takeWhile (· != 0), JsonSafeByte b)) ∧
      ¬ ∀ f ∈ evt.outStrings, ∀ b ∈ f.takeWhile (· != 0), JsonSafeByte b :=
  ⟨⟨by decide, (fun _ h => by cases h), (fun _ h => by cases h)⟩,
    eventCtxCallback_jsonText_iff .unsigned _
      ⟨by decide, (fun _ h => by cases h), (fun _ h => by cases h)⟩,
    by decide⟩

end EventsTrace
