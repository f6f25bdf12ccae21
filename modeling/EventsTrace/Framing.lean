import EventsTrace.Lines
import EventsTrace.Main

/-!
# One record, one line

`EventsTrace` writes newline-delimited JSON: a reader such as the test harness takes stdout apart
at each newline and reads each piece as the text of one record, the first one as the init message
when `--print-features-on-init` was given. This module proves the framing such a reader relies on,
for every record and either signedness of `char`, whatever bytes its text fields hold and whichever
family a network record names: `event_ctx_callback` has defined output exactly when every array it
hands to `strlen` holds a NUL and `argv` is not blank, and that output is printable ASCII followed
by one newline. Over a run, splitting stdout at its newlines gives the init message, when asked
for, and then the text of each record in the order the records came.

`out_string` escapes every byte outside printable ASCII, and the names, numbers and addresses the
printers write are printable, so no line holds a control character of its own.
-/

namespace EventsTrace

/-! ### Printable text -/

/-- Text made of printable ASCII characters, `0x20` to `0x7e`. -/
def PrintableText (s : List Char) : Prop := ∀ c ∈ s, IsPrintableAscii c

instance : DecidablePred PrintableText := fun s => inferInstanceAs (Decidable (∀ c ∈ s, _))

@[simp] lemma printableText_nil : PrintableText [] := List.forall_mem_nil _

@[simp] lemma printableText_append {a b : List Char} :
    PrintableText (a ++ b) ↔ PrintableText a ∧ PrintableText b :=
  List.forall_mem_append

@[simp] lemma printableText_cons {c : Char} {s : List Char} :
    PrintableText (c :: s) ↔ IsPrintableAscii c ∧ PrintableText s :=
  List.forall_mem_cons

lemma newline_not_mem {s : List Char} (h : PrintableText s) : '\n' ∉ s :=
  fun hn => absurd (h _ hn).1 (by decide)

lemma isPrintableAscii_digitChar : ∀ d < 16, IsPrintableAscii (Nat.digitChar d) := by decide

@[simp] lemma printableText_printfLu (v : Nat) : PrintableText (printfLu v) :=
  forall_mem_toDigits (by decide) (fun d h => isPrintableAscii_digitChar d (by omega)) v

@[simp] lemma printableText_printfLd (v : Int) : PrintableText (printfLd v) := by
  cases v with
  | ofNat m => exact printableText_printfLu m
  | negSucc m => exact printableText_cons.2 ⟨by decide, printableText_printfLu (m + 1)⟩

@[simp] lemma printableText_outName (name : String) :
    PrintableText (outName name) ↔ PrintableText name.toList := by
  simp +decide [outName]

@[simp] lemma printableText_outInt (name : String) (v : Int) :
    PrintableText (outInt name v) ↔ PrintableText name.toList := by
  simp [outInt]

@[simp] lemma printableText_outUint (name : String) (v : Nat) :
    PrintableText (outUint name v) ↔ PrintableText name.toList := by
  simp [outUint]

@[simp] lemma printableText_outBool (name : String) (v : Bool) :
    PrintableText (outBool name v) ↔ PrintableText name.toList := by
  cases v <;> simp +decide [outBool]

@[simp] lemma printableText_outEventType (type : String) :
    PrintableText (outEventType type) ↔ PrintableText type.toList := by
  simp +decide [outEventType]

@[simp] lemma printableText_outPidInfo (name : String) (p : EbpfPidInfo) :
    PrintableText (outPidInfo name p) ↔ PrintableText name.toList := by
  simp +decide [outPidInfo, outObjectStart, outObjectEnd, outComma]

@[simp] lemma printableText_outCredInfo (name : String) (c : EbpfCredInfo) :
    PrintableText (outCredInfo name c) ↔ PrintableText name.toList := by
  simp +decide [outCredInfo, outObjectStart, outObjectEnd, outComma]

@[simp] lemma printableText_outTtyDev (name : String) (t : EbpfTtyDev) :
    PrintableText (outTtyDev name t) ↔ PrintableText name.toList := by
  simp +decide [outTtyDev, outObjectStart, outObjectEnd, outComma]

@[simp] lemma printableText_outIpAddr (name : String) (addr : List UInt8) :
    PrintableText (outIpAddr name addr) ↔ PrintableText name.toList := by
  have h : PrintableText (inetNtop4 addr) :=
    forall_mem_inetNtop4 (fun d h => isPrintableAscii_digitChar d (by omega)) (by decide) addr
  simp +decide [outIpAddr, h]

@[simp] lemma printableText_outIp6Addr (name : String) (addr : List UInt8) :
    PrintableText (outIp6Addr name addr) ↔ PrintableText name.toList := by
  have h : PrintableText (inetNtop6 addr) :=
    forall_mem_inetNtop6 isPrintableAscii_digitChar (by decide) (by decide) addr
  simp +decide [outIp6Addr, h]

/-! ### Calls -/

/-- A call whose text, when it has one, is printable ASCII. -/
def PrintsText (p : Option (List Char)) : Prop := ∀ a ∈ p, PrintableText a

@[simp] lemma printsText_some {a : List Char} : PrintsText (some a) ↔ PrintableText a := by
  simp [PrintsText]

lemma printsText_printSeq :
    ∀ {ps : List (Option (List Char))}, (∀ p ∈ ps, PrintsText p) → PrintsText (printSeq ps)
  | [], _ => by simp +decide
  | p :: ps, h => fun a ha => by
    obtain ⟨x, hx, r, hr, rfl⟩ := mem_printSeq_cons.1 ha
    exact printableText_append.2 ⟨h p (List.mem_cons_self _ _) x hx,
      printsText_printSeq (fun q hq => h q (List.mem_cons_of_mem _ hq)) r hr⟩

section Printers

variable (sign : CharSign)

lemma printsText_outString {name : String} (h : PrintableText name.toList) (value : List UInt8) :
    PrintsText (outString sign name value) := fun a ha => by
  obtain ⟨s, -, rfl⟩ := Option.mem_map.1 ha
  exact printableText_append.2 ⟨(printableText_outName name).2 h, (stringLiteral_safe sign s).1⟩

lemma printsText_outNetInfo {name : String} (h : PrintableText name.toList) (evt : EbpfNetEvent) :
    PrintsText (outNetInfo sign name evt) := by
  have hs := fun n (hn : PrintableText (String.toList n)) v => printsText_outString sign hn v
  refine printsText_printSeq ?_
  simp only [List.forall_mem_cons, List.not_mem_nil, false_imp_iff, implies_true, and_true]
  refine ⟨by simpa using h, by simp +decide [outObjectStart], ?transport, ?family,
    by simp +decide [outComma], by simp +decide, ?closed, by simp +decide [outObjectEnd]⟩
  case transport =>
    split
    · exact printsText_printSeq (by simp +decide [hs, outComma])
    · simp
  case family =>
    split
    · exact printsText_printSeq (by simp +decide [hs, outNetAddrs, outComma])
    · exact printsText_printSeq (by simp +decide [hs, outNetAddrs, outComma])
    · simp
  case closed => split <;> simp +decide [outComma]

/-- `out_net_info` hands `out_string` only literals of the source, which hold their NUL. -/
lemma outNetInfo_isSome (name : String) (evt : EbpfNetEvent) :
    (outNetInfo sign name evt).isSome := by
  have hs := fun n s => (outString_isSome_iff sign n (cLiteral s)).2 (nul_mem_cLiteral s)
  simp only [outNetInfo, printSeq_isSome_iff, List.forall_mem_cons, List.not_mem_nil,
    false_imp_iff, implies_true, and_true, Option.isSome_some, true_and]
  refine ⟨?_, ?_, ?_⟩
  · split <;> simp [printSeq_isSome_iff, hs]
  · split <;> simp [printSeq_isSome_iff, hs]
  · split <;> rfl

end Printers

/-! ### Lines -/

/-- Printable ASCII text followed by one newline. -/
def OneLine (line : List Char) : Prop := ∃ body, line = body ++ ['\n'] ∧ PrintableText body

/-- The calls an event printer makes: calls whose text is printable ASCII, and `out_newline()`
last. -/
def LineCalls : List (Option (List Char)) → Prop
  | [] => False
  | [p] => p = some outNewline
  | p :: q :: ps => PrintsText p ∧ LineCalls (q :: ps)

lemma oneLine_some {body : List Char} (h : PrintableText body) :
    ∀ l ∈ some (body ++ outNewline), OneLine l := by
  rintro _ ⟨⟩
  exact ⟨body, rfl, h⟩

lemma printSeq_oneLine :
    ∀ {ps : List (Option (List Char))}, LineCalls ps → ∀ l ∈ printSeq ps, OneLine l
  | [_], rfl, _, rfl => ⟨[], rfl, by decide⟩
  | p :: q :: ps, ⟨hp, h⟩, l, hl => by
    obtain ⟨x, hx, r, hr, rfl⟩ := mem_printSeq_cons.1 hl
    obtain ⟨body, rfl, hbody⟩ := printSeq_oneLine h r hr
    exact ⟨x ++ body, by simp, printableText_append.2 ⟨hp x hx, hbody⟩⟩

/-- Every array `event_ctx_callback`'s printers read through `strlen` holds a NUL: each array
they hand to `out_string`, and `out_argv`'s copy of `argv`. -/
def EbpfEvent.Terminated (evt : EbpfEvent) : Prop :=
  (∀ f ∈ evt.cStrings, 0 ∈ f) ∧ ∀ e, evt = .processExec e → ArgvNonBlank e.argv

section Callback

variable (sign : CharSign)

/-- What the callback prints for a record is one line of printable ASCII. -/
lemma eventCtxCallback_oneLine (evt : EbpfEvent) :
    ∀ line ∈ eventCtxCallback sign evt, OneLine line := by
  have hs := fun n (hn : PrintableText (String.toList n)) v => printsText_outString sign hn v
  cases evt with
  | processSetsid e | processSetuid e | processSetgid e =>
    exact oneLine_some (by simp +decide [outObjectStart, outObjectEnd, outComma])
  | processExec e =>
    exact printSeq_oneLine (by simp +decide [LineCalls, hs, outArgv, outObjectStart,
      outObjectEnd, outComma])
  | networkConnectionAccepted e | networkConnectionAttempted e | networkConnectionClosed e =>
    exact printSeq_oneLine (by simp +decide [LineCalls, hs, printsText_outNetInfo,
      outObjectStart, outObjectEnd, outComma])
  | _ =>
    exact printSeq_oneLine (by simp +decide [LineCalls, hs, outObjectStart, outObjectEnd,
      outComma])

/-- The callback has defined output exactly when the record is terminated. -/
lemma eventCtxCallback_isSome_iff (evt : EbpfEvent) :
    (eventCtxCallback sign evt).isSome ↔ evt.Terminated := by
  cases evt <;> simp only [eventCtxCallback, EbpfEvent.Terminated, EbpfEvent.cStrings,
    outProcessFork, outProcessExec, outProcessExit, outProcessTtyWrite, outFileDelete,
    outFileCreate, outFileEvent, outFileRename, outNetworkConnectionAcceptedEvent,
    outNetworkConnectionAttemptedEvent, outNetworkConnectionClosedEvent, outNetworkEvent,
    printSeq_isSome_iff, List.forall_mem_cons, List.not_mem_nil, false_imp_iff, implies_true,
    Option.isSome_some, outString_isSome_iff, outArgv_isSome_iff, outNetInfo_isSome,
    List.mem_cons, List.mem_singleton, forall_eq_or_imp, forall_eq, EbpfEvent.processExec.injEq,
    forall_eq', reduceCtorEq, IsEmpty.forall_iff, true_and, and_true, and_assoc]

end Callback

/-! ### A run -/

/-- The init message is one line of printable ASCII, and a JSON text. -/
lemma printInitMsg_line (bpfTramp features : BitVec 64) :
    printInitMsg bpfTramp features = (printInitMsg bpfTramp features).dropLast ++ ['\n'] ∧
      PrintableText (printInitMsg bpfTramp features).dropLast ∧
      jsonText (printInitMsg bpfTramp features) = true := by
  unfold printInitMsg
  split <;> decide

/-- What `main` writes to stdout once the event context exists: the init message when
`--print-features-on-init` was given, then what `event_ctx_callback` prints for each record the
polls deliver, in the order they come; `features` is what `ebpf_event_ctx__get_features`
returns. -/
def stdoutText (sign : CharSign) (g : Globals) (bpfTramp features : BitVec 64)
    (evts : List EbpfEvent) : Option (List Char) :=
  printSeq (some (if g.printFeaturesInit then printInitMsg bpfTramp features else []) ::
    evts.map (eventCtxCallback sign))

/-- Splitting at newlines gives back the lines of a text made of lines each ended by one. -/
lemma splitOn_flatMap_lines :
    ∀ {lines : List (List Char)}, (∀ l ∈ lines, '\n' ∉ l) →
      (lines.flatMap (· ++ ['\n'])).splitOn '\n' = lines ++ [[]]
  | [], _ => rfl
  | l :: lines, h => by
    have hl : ∀ c ∈ l, ¬(c == '\n') = true := fun c hc he =>
      h l (List.mem_cons_self _ _) (beq_iff_eq.1 he ▸ hc)
    rw [List.flatMap_cons, List.append_assoc, List.singleton_append, List.splitOn,
      List.splitOnP_first _ _ hl _ (beq_self_eq_true _)]
    exact congrArg (l :: ·) (splitOn_flatMap_lines fun l' hl' => h l' (List.mem_cons_of_mem _ hl'))

/-- The callbacks of a run print one line per record, in order. -/
lemma printSeq_eventCtxCallback_lines (sign : CharSign) :
    ∀ (evts : List EbpfEvent) (out : List Char),
      printSeq (evts.map (eventCtxCallback sign)) = some out →
      ∃ lines : List (List Char),
        List.Forall₂ (fun evt line => eventCtxCallback sign evt = some (line ++ ['\n']))
          evts lines ∧
        (∀ line ∈ lines, PrintableText line) ∧ out = lines.flatMap (· ++ ['\n'])
  | [], out, h => ⟨[], .nil, by simp, by simpa [eq_comm] using h⟩
  | evt :: evts, out, h => by
    obtain ⟨x, hx, r, hr, rfl⟩ := mem_printSeq_cons.1 h
    obtain ⟨body, rfl, hb⟩ := eventCtxCallback_oneLine sign evt x hx
    obtain ⟨lines, h₂, hp, rfl⟩ := printSeq_eventCtxCallback_lines sign evts r hr
    exact ⟨body :: lines, .cons hx h₂, List.forall_mem_cons.2 ⟨hb, hp⟩, by simp⟩

/-- The lines of a run's stdout: the init message when it was asked for, then one line of
printable ASCII per record, each the text the callback printed for that record. -/
lemma stdoutText_splitOn (sign : CharSign) (g : Globals) (bpfTramp features : BitVec 64)
    {evts : List EbpfEvent} {out : List Char} (h : stdoutText sign g bpfTramp features evts = some out) :
    ∃ lines : List (List Char),
      List.Forall₂ (fun evt line => eventCtxCallback sign evt = some (line ++ ['\n'])) evts lines ∧
      (∀ line ∈ lines, PrintableText line) ∧
      out.splitOn '\n' =
        (if g.printFeaturesInit then [(printInitMsg bpfTramp features).dropLast] else []) ++
          lines ++ [[]] := by
  obtain ⟨hinit, hprint, -⟩ := printInitMsg_line bpfTramp features
  obtain ⟨_, ⟨⟩, r, hr, rfl⟩ := mem_printSeq_cons.1 h
  obtain ⟨lines, h₂, hp, rfl⟩ := printSeq_eventCtxCallback_lines sign evts r hr
  have hn : ∀ l ∈ lines, '\n' ∉ l := fun l hl => newline_not_mem (hp l hl)
  refine ⟨lines, h₂, hp, ?_⟩
  by_cases hf : g.printFeaturesInit
  · have hout : printInitMsg bpfTramp features ++ lines.flatMap (· ++ ['\n']) =
        ([(printInitMsg bpfTramp features).dropLast] ++ lines).flatMap (· ++ ['\n']) := by
      rw [List.singleton_append, List.flatMap_cons, ← hinit]
    simp only [hf, ↓reduceIte, hout]
    exact splitOn_flatMap_lines
      (List.forall_mem_append.2 ⟨by simpa using newline_not_mem hprint, hn⟩)
  · simpa [hf] using splitOn_flatMap_lines hn

/-- Over a run, stdout has defined text exactly when every record is terminated, and a reader
that splits it at newlines gets the init message, when it was asked for, then one line of
printable ASCII per record, in order, each the text the callback printed for that record. The
init message is a JSON text. -/
theorem stdoutText_lines (sign : CharSign) (g : Globals) (bpfTramp features : BitVec 64)
    (evts : List EbpfEvent) :
    ((stdoutText sign g bpfTramp features evts).isSome ↔ ∀ evt ∈ evts, evt.Terminated) ∧
    (∀ out, stdoutText sign g bpfTramp features evts = some out →
      ∃ lines : List (List Char),
        List.Forall₂ (fun evt line => eventCtxCallback sign evt = some (line ++ ['\n']))
          evts lines ∧
        (∀ line ∈ lines, PrintableText line) ∧
        out.splitOn '\n' =
          (if g.printFeaturesInit then [(printInitMsg bpfTramp features).dropLast] else []) ++
            lines ++ [[]]) ∧
    jsonText (printInitMsg bpfTramp features) = true :=
  ⟨by simp [stdoutText, printSeq_isSome_iff, eventCtxCallback_isSome_iff],
    fun _ h => stdoutText_splitOn sign g bpfTramp features h,
    (printInitMsg_line bpfTramp features).2.2⟩

end EventsTrace
