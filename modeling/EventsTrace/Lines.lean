import EventsTrace.Printers
import EventsTrace.Json
import EventsTrace.Escape

/-!
# The line `event_ctx_callback` prints

What a printer writes for a record is described here by a `JsonDoc`, the members of the object
in the order the printer writes them: `EbpfEvent.doc`. The printers' calls write the rendering
of that document, newline included, when every array they hand to `out_string` holds a NUL,
`argv` holds a byte other than NUL and space before its last one, and a network record's
family is one `out_net_info` names. The document is well formed when the text fields are
printable ASCII, so the line is then a JSON text.

Outside these conditions the line is not one: an argument vector of blanks leaves the copy
`out_argv` hands to `out_string` without a terminator, and a family `out_net_info` does not
name leaves a comma where a member should start.
-/

namespace EventsTrace

/-! ### Text fields -/

/-- The text `out_string` prints between the quotes for an array that holds a NUL. -/
def printedText (sign : CharSign) (buf : List UInt8) : List Char :=
  escapeString sign (buf.takeWhile (· != 0))

/-- The C string of an array holding a NUL is its bytes before the first one. -/
lemma cString?_eq_takeWhile {buf : List UInt8} (h : 0 ∈ buf) :
    cString? buf = some (buf.takeWhile (· != 0)) := by
  obtain ⟨p, t, rfl, hp⟩ := exists_first_nul h
  rw [cString?_append_nul hp, List.takeWhile_append_of_pos fun a ha => by
    simpa using ne_of_mem_of_not_mem ha hp]
  simp

lemma outString_of_mem (sign : CharSign) (name : String) {buf : List UInt8} (h : 0 ∈ buf) :
    outString sign name buf =
      some (outName name ++ (JsonValue.scalar (.str (printedText sign buf))).render) := by
  simp [outString, cString?_eq_takeWhile h, stringLiteral, printedText, JsonValue.render,
    JsonScalar.render]

/-! ### Nested records -/

@[simp] lemma printfLd_natCast (n : Nat) : printfLd n = printfLu n := rfl

/-- The object `out_pid_info` writes. -/
def pidInfoJson (p : EbpfPidInfo) : JsonValue :=
  .object [("tid", .num p.tid), ("tgid", .num p.tgid), ("ppid", .num p.ppid),
    ("pgid", .num p.pgid), ("sid", .num p.sid), ("start_time_ns", .num p.startTimeNs)]

/-- The object `out_cred_info` writes. -/
def credInfoJson (c : EbpfCredInfo) : JsonValue :=
  .object [("ruid", .num c.ruid), ("rgid", .num c.rgid), ("euid", .num c.euid),
    ("egid", .num c.egid), ("suid", .num c.suid), ("sgid", .num c.sgid)]

/-- The object `out_tty_dev` writes; `ECHO` is the string `TRUE` or `FALSE`. -/
def ttyDevJson (t : EbpfTtyDev) : JsonValue :=
  .object [("major", .num t.major), ("minor", .num t.minor),
    ("winsize_rows", .num t.winsizeRows), ("winsize_cols", .num t.winsizeCols),
    ("ECHO", .str (if t.cLflag &&& ECHO != 0 then "TRUE" else "FALSE").toList)]

lemma outPidInfo_eq (name : String) (p : EbpfPidInfo) :
    outPidInfo name p = outName name ++ (pidInfoJson p).render := by
  simp [outPidInfo, pidInfoJson, JsonValue.render, renderObject, renderMembers, outInt, outUint,
    outComma, outObjectStart, outObjectEnd, JsonScalar.render]

lemma outCredInfo_eq (name : String) (c : EbpfCredInfo) :
    outCredInfo name c = outName name ++ (credInfoJson c).render := by
  simp [outCredInfo, credInfoJson, JsonValue.render, renderObject, renderMembers, outInt,
    outComma, outObjectStart, outObjectEnd, JsonScalar.render]

lemma outTtyDev_eq (name : String) (t : EbpfTtyDev) :
    outTtyDev name t = outName name ++ (ttyDevJson t).render := by
  simp [outTtyDev, ttyDevJson, JsonValue.render, renderObject, renderMembers, outInt, outBool,
    outComma, outObjectStart, outObjectEnd, JsonScalar.render]

/-- The members `out_net_info` writes for an address family, from `"family"` on. -/
def netAddrMembers (family : String) (saddr daddr : List Char) (sport dport : Int) :
    List (String × JsonScalar) :=
  [("family", .str family.toList), ("source_address", .str saddr), ("source_port", .num sport),
    ("destination_address", .str daddr), ("destination_port", .num dport)]

/-- The object `out_net_info` writes when its `switch` on the family takes a named case. -/
def netInfoJson (evt : EbpfNetEvent) : JsonValue :=
  let net := evt.net
  .object (
    (match net.transport with
      | .tcp => [("transport", .str "TCP".toList)]
      | .other => []) ++
    (match net.family with
      | .afInet => netAddrMembers "AF_INET" (inetNtop4 net.saddr) (inetNtop4 net.daddr)
          net.sport net.dport
      | .afInet6 => netAddrMembers "AF_INET6" (inetNtop6 net.saddr6) (inetNtop6 net.daddr6)
          net.sport net.dport
      | .other => []) ++
    ("network_namespace", .num net.netns) ::
    (if evt.hdr.type = .networkConnectionClosed then
      [("bytes_sent", .num net.bytesSent), ("bytes_received", .num net.bytesReceived)]
    else []))

/-- `out_string` on a literal `out_net_info` passes: its characters, quoted. -/
lemma outString_cLiteral (sign : CharSign) (name : String) {s : String}
    (hs : s ∈ ["TCP", "AF_INET", "AF_INET6"]) :
    outString sign name (cLiteral s) = some (outName name ++ '"' :: s.toList ++ ['"']) := by
  have h : (cString? (cLiteral s)).map (stringLiteral sign) = some ('"' :: s.toList ++ ['"']) := by
    simp only [List.mem_cons, List.mem_singleton, List.not_mem_nil, or_false] at hs
    rcases hs with rfl | rfl | rfl <;> cases sign <;> decide
  rw [outString, show (fun s => outName name ++ stringLiteral sign s) =
    (outName name ++ ·) ∘ stringLiteral sign from rfl, ← Option.map_map, h]
  simp

lemma outNetInfo_eq (sign : CharSign) (name : String) {evt : EbpfNetEvent}
    (hfam : evt.net.family ≠ .other) :
    outNetInfo sign name evt = some (outName name ++ (netInfoJson evt).render) := by
  have h1 := outString_cLiteral sign "transport" (s := "TCP") (by simp)
  have h2 := outString_cLiteral sign "family" (s := "AF_INET") (by simp)
  have h3 := outString_cLiteral sign "family" (s := "AF_INET6") (by simp)
  rcases evt with ⟨⟨type⟩, pids, ⟨transport, family, saddr, saddr6, daddr, daddr6, sport, dport,
    netns, sent, received⟩, comm⟩
  cases transport <;> cases family <;> simp only [ne_eq, not_true_eq_false] at hfam <;>
    by_cases hc : type = .networkConnectionClosed <;>
    simp only [outNetInfo, netInfoJson, h1, h2, h3, hc, ↓reduceIte, outNetAddrs, netAddrMembers,
      outIpAddr, outIp6Addr, outInt, outUint, printfLd_natCast, outComma, outObjectStart,
      outObjectEnd, JsonValue.render, renderObject, renderMembers, JsonScalar.render,
      printSeq_cons_some, printSeq_nil, Option.map_some', List.append_assoc, List.cons_append,
      List.singleton_append, List.nil_append, List.append_nil]

/-! ### The calls of a printer -/

/-- The calls a printer makes for the members of a document: each member, and `out_comma()`
between two. -/
def memberCalls : JsonDoc → List (Option (List Char))
  | [] => []
  | [(k, v)] => [some (outName k ++ v.render)]
  | (k, v) :: m :: ms => some (outName k ++ v.render) :: some outComma :: memberCalls (m :: ms)

lemma printSeq_memberCalls_append (ms : JsonDoc) (rest : List (Option (List Char))) :
    printSeq (memberCalls ms ++ rest) =
      (printSeq rest).map (renderMembers JsonValue.render ms ++ ·) := by
  match ms with
  | [] => simp [memberCalls, renderMembers]
  | [(k, v)] => simp [memberCalls, renderMembers]
  | (k, v) :: m :: ms =>
    simp [memberCalls, renderMembers, printSeq_memberCalls_append (m :: ms), outComma,
      Function.comp_def]

/-- A printer that writes `{`, the members of a document, `}` and a newline writes the
document's line. -/
lemma printSeq_line (doc : JsonDoc) :
    printSeq (some outObjectStart :: (memberCalls doc ++ [some outObjectEnd, some outNewline])) =
      some (doc.render ++ ['\n']) := by
  simp [printSeq_memberCalls_append, JsonDoc.render, renderObject, outObjectStart, outObjectEnd,
    outNewline]

/-! ### The document of each record -/

/-- The event type a record's printer writes. -/
def EbpfEventType.typeName : EbpfEventType → String
  | .processFork => "PROCESS_FORK"
  | .processExec => "PROCESS_EXEC"
  | .processExit => "PROCESS_EXIT"
  | .processSetsid => "PROCESS_SETSID"
  | .processSetuid => "PROCESS_SETUID"
  | .processSetgid => "PROCESS_SETGID"
  | .processTtyWrite => "PROCESS_TTY_WRITE"
  | .fileDelete => "FILE_DELETE"
  | .fileCreate => "FILE_CREATE"
  | .fileRename => "FILE_RENAME"
  | .networkConnectionAccepted => "NETWORK_CONNECTION_ACCEPTED"
  | .networkConnectionAttempted => "NETWORK_CONNECTION_ATTEMPTED"
  | .networkConnectionClosed => "NETWORK_CONNECTION_CLOSED"

/-- The `"event_type"` member every printer writes first. -/
def eventTypeMember (type : String) : String × JsonValue := ("event_type", .scalar (.str type.toList))

/-- A member written by `out_string` for an array. -/
def textMember (sign : CharSign) (name : String) (buf : List UInt8) : String × JsonValue :=
  (name, .scalar (.str (printedText sign buf)))

/-- A member written by `out_int` or `out_uint`. -/
def numMember (name : String) (n : Int) : String × JsonValue := (name, .scalar (.num n))

/-- The members `out_network_event` writes. -/
def netEventDoc (sign : CharSign) (type : String) (evt : EbpfNetEvent) : JsonDoc :=
  [eventTypeMember type, ("pids", pidInfoJson evt.pids), ("net", netInfoJson evt),
    textMember sign "comm" evt.comm]

/-- The members `out_file_delete` and `out_file_create` write. -/
def fileDoc (sign : CharSign) (type : String) (evt : EbpfFileEvent) : JsonDoc :=
  [eventTypeMember type, ("pids", pidInfoJson evt.pids), textMember sign "path" evt.path,
    numMember "mount_namespace" evt.mntns, textMember sign "comm" evt.comm]

/-- The members `out_process_setuid` and `out_process_setgid` write. -/
def setidDoc (type nameR nameE : String) (pids : EbpfPidInfo) (newR newE : Nat) : JsonDoc :=
  [eventTypeMember type, ("pids", pidInfoJson pids), numMember nameR newR, numMember nameE newE]

/-- The members the printer of a record writes, in order. -/
def EbpfEvent.doc (sign : CharSign) : EbpfEvent → JsonDoc
  | .processFork e =>
    [eventTypeMember "PROCESS_FORK", ("parent_pids", pidInfoJson e.parentPids),
      ("child_pids", pidInfoJson e.childPids),
      textMember sign "pids_ss_cgroup_path" e.pidsSsCgroupPath]
  | .processExec e =>
    [eventTypeMember "PROCESS_EXEC", ("pids", pidInfoJson e.pids), ("creds", credInfoJson e.creds),
      ("ctty", ttyDevJson e.ctty), textMember sign "filename" e.filename,
      textMember sign "cwd" e.cwd, textMember sign "pids_ss_cgroup_path" e.pidsSsCgroupPath,
      textMember sign "argv" (argvScratch e.argv)]
  | .processExit e =>
    [eventTypeMember "PROCESS_EXIT", ("pids", pidInfoJson e.pids),
      textMember sign "pids_ss_cgroup_path" e.pidsSsCgroupPath, numMember "exit_code" e.exitCode]
  | .processSetsid e => [eventTypeMember "PROCESS_SETSID", ("pids", pidInfoJson e.pids)]
  | .processSetuid e =>
    setidDoc "PROCESS_SETUID" "new_ruid" "new_euid" e.pids e.newRuid e.newEuid
  | .processSetgid e =>
    setidDoc "PROCESS_SETGID" "new_rgid" "new_egid" e.pids e.newRgid e.newEgid
  | .processTtyWrite e =>
    [eventTypeMember "PROCESS_TTY_WRITE", ("pids", pidInfoJson e.pids),
      numMember "tty_out_len" e.ttyOutLen, numMember "tty_out_truncated" e.ttyOutTruncated,
      ("tty", ttyDevJson e.tty), textMember sign "tty_out" e.ttyOut, textMember sign "comm" e.comm]
  | .fileDelete e => fileDoc sign "FILE_DELETE" e
  | .fileCreate e => fileDoc sign "FILE_CREATE" e
  | .fileRename e =>
    [eventTypeMember "FILE_RENAME", ("pids", pidInfoJson e.pids),
      textMember sign "old_path" e.oldPath, textMember sign "new_path" e.newPath,
      numMember "mount_namespace" e.mntns, textMember sign "comm" e.comm]
  | .networkConnectionAccepted e => netEventDoc sign "NETWORK_CONNECTION_ACCEPTED" e
  | .networkConnectionAttempted e => netEventDoc sign "NETWORK_CONNECTION_ATTEMPTED" e
  | .networkConnectionClosed e => netEventDoc sign "NETWORK_CONNECTION_CLOSED" e

/-- Every document opens with the event type of its record. -/
lemma EbpfEvent.doc_head (sign : CharSign) (evt : EbpfEvent) :
    (evt.doc sign).head? = some (eventTypeMember evt.type.typeName) := by
  cases evt <;> rfl

/-- The arrays the printers of a record hand to `out_string`, in order: its C strings and, for
an exec, `out_argv`'s copy of `argv`. -/
def EbpfEvent.outStrings : EbpfEvent → List (List UInt8)
  | .processExec e => [e.filename, e.cwd, e.pidsSsCgroupPath, argvScratch e.argv]
  | evt => evt.cStrings

/-- The member names of the document of each kind of record, in order. -/
def EbpfEventType.memberNames : EbpfEventType → List String
  | .processFork => ["event_type", "parent_pids", "child_pids", "pids_ss_cgroup_path"]
  | .processExec => ["event_type", "pids", "creds", "ctty", "filename", "cwd",
      "pids_ss_cgroup_path", "argv"]
  | .processExit => ["event_type", "pids", "pids_ss_cgroup_path", "exit_code"]
  | .processSetsid => ["event_type", "pids"]
  | .processSetuid => ["event_type", "pids", "new_ruid", "new_euid"]
  | .processSetgid => ["event_type", "pids", "new_rgid", "new_egid"]
  | .processTtyWrite => ["event_type", "pids", "tty_out_len", "tty_out_truncated", "tty",
      "tty_out", "comm"]
  | .fileDelete | .fileCreate => ["event_type", "pids", "path", "mount_namespace", "comm"]
  | .fileRename => ["event_type", "pids", "old_path", "new_path", "mount_namespace", "comm"]
  | .networkConnectionAccepted | .networkConnectionAttempted | .networkConnectionClosed =>
    ["event_type", "pids", "net", "comm"]

/-- The names of a document depend on the kind of record only. -/
lemma EbpfEvent.doc_map_fst (sign : CharSign) (evt : EbpfEvent) :
    (evt.doc sign).map Prod.fst = evt.type.memberNames := by
  cases evt <;> rfl

lemma EbpfEventType.memberNames_ok (t : EbpfEventType) :
    (∀ n ∈ t.memberNames, strBodyOk n.toList) ∧ t.memberNames.Nodup := by
  cases t <;> decide

/-- The member names of every document need no escape. -/
lemma EbpfEvent.doc_names (sign : CharSign) (evt : EbpfEvent) :
    ∀ m ∈ evt.doc sign, strBodyOk m.1.toList := fun m hm =>
  (evt.type.memberNames_ok).1 m.1 (evt.doc_map_fst sign ▸ List.mem_map_of_mem Prod.fst hm)

/-- No document repeats a member name. -/
lemma EbpfEvent.doc_nodup (sign : CharSign) (evt : EbpfEvent) :
    ((evt.doc sign).map Prod.fst).Nodup :=
  evt.doc_map_fst sign ▸ (evt.type.memberNames_ok).2

/-! ### The printers write their documents -/

/-- `out_argv`'s copy holds a NUL when `argv` holds a byte other than NUL and space before its
last one. -/
def ArgvNonBlank (argv : List UInt8) : Prop := ∃ b ∈ argv.take (argv.length - 1), b ≠ 0 ∧ b ≠ 0x20

/-- `out_argv` has defined output exactly when `argv` is not blank. -/
lemma outArgv_isSome_iff (sign : CharSign) (name : String) (argv : List UInt8) :
    (outArgv sign name argv).isSome ↔ ArgvNonBlank argv := by
  simp only [Option.isSome_iff_ne_none, Ne, outArgv_eq_none_iff, ArgvNonBlank, not_forall,
    not_or, exists_prop]

lemma nul_mem_argvScratch {argv : List UInt8} (h : ArgvNonBlank argv) : 0 ∈ argvScratch argv :=
  (outString_isSome_iff .unsigned "argv" _).1 ((outArgv_isSome_iff .unsigned "argv" argv).2 h)

/-- What the printers need of a record to write its whole document: a NUL in every array handed
to `out_string`, a non-blank `argv` for an exec, and a named family for a network event. -/
structure EbpfEvent.Printable (evt : EbpfEvent) : Prop where
  cStrings : ∀ f ∈ evt.cStrings, 0 ∈ f
  argv : ∀ e, evt = .processExec e → ArgvNonBlank e.argv
  family : ∀ e, evt.netEvent? = some e → e.net.family ≠ .other

section Printers

variable (sign : CharSign)

lemma outNetworkEvent_eq (type : String) {evt : EbpfNetEvent} (hcomm : 0 ∈ evt.comm)
    (hfam : evt.net.family ≠ .other) :
    outNetworkEvent sign type evt = some ((netEventDoc sign type evt).render ++ ['\n']) := by
  rw [outNetworkEvent, outString_of_mem sign _ hcomm, outNetInfo_eq sign _ hfam, outPidInfo_eq]
  exact printSeq_line (netEventDoc sign type evt)

lemma outFileEvent_eq (type : String) {evt : EbpfFileEvent} (hpath : 0 ∈ evt.path)
    (hcomm : 0 ∈ evt.comm) :
    outFileEvent sign type evt = some ((fileDoc sign type evt).render ++ ['\n']) := by
  rw [outFileEvent, outString_of_mem sign _ hpath, outString_of_mem sign _ hcomm, outPidInfo_eq]
  exact printSeq_line (fileDoc sign type evt)

lemma outProcessSetid_eq (type nameR nameE : String) (pids : EbpfPidInfo) (newR newE : Nat) :
    outProcessSetid type nameR nameE pids newR newE =
      (setidDoc type nameR nameE pids newR newE).render ++ ['\n'] := by
  simp [outProcessSetid, setidDoc, outPidInfo_eq, eventTypeMember, numMember, outEventType,
    outUint, outComma, outObjectStart, outObjectEnd, outNewline, JsonDoc.render, renderObject,
    renderMembers, JsonValue.render, JsonScalar.render]

/-- The printer of a record writes the record's document. -/
theorem eventCtxCallback_eq_doc {evt : EbpfEvent} (h : evt.Printable) :
    eventCtxCallback sign evt = some ((evt.doc sign).render ++ ['\n']) := by
  have hs := h.cStrings
  cases evt with
  | processFork e =>
    simp only [EbpfEvent.cStrings, List.mem_singleton, forall_eq] at hs
    rw [eventCtxCallback, outProcessFork, outString_of_mem sign _ hs, outPidInfo_eq, outPidInfo_eq]
    exact printSeq_line (EbpfEvent.doc sign (.processFork e))
  | processExec e =>
    simp only [EbpfEvent.cStrings, List.mem_cons, forall_eq_or_imp, List.mem_singleton,
      forall_eq, List.not_mem_nil, false_imp_iff, implies_true, and_true] at hs
    rw [eventCtxCallback, outProcessExec, outString_of_mem sign _ hs.1,
      outString_of_mem sign _ hs.2.1, outString_of_mem sign _ hs.2.2, outArgv,
      outString_of_mem sign _ (nul_mem_argvScratch (h.argv e rfl)), outPidInfo_eq,
      outCredInfo_eq, outTtyDev_eq]
    exact printSeq_line (EbpfEvent.doc sign (.processExec e))
  | processExit e =>
    simp only [EbpfEvent.cStrings, List.mem_singleton, forall_eq] at hs
    rw [eventCtxCallback, outProcessExit, outString_of_mem sign _ hs, outPidInfo_eq]
    exact printSeq_line (EbpfEvent.doc sign (.processExit e))
  | processSetsid e =>
    rw [eventCtxCallback, ← printSeq_line]
    simp [outProcessSetsid, EbpfEvent.doc, memberCalls, outPidInfo_eq, eventTypeMember,
      outEventType, JsonValue.render, JsonScalar.render]
  | processSetuid e => rw [eventCtxCallback, outProcessSetuid, outProcessSetid_eq]; rfl
  | processSetgid e => rw [eventCtxCallback, outProcessSetgid, outProcessSetid_eq]; rfl
  | processTtyWrite e =>
    simp only [EbpfEvent.cStrings, List.mem_cons, forall_eq_or_imp, List.mem_singleton,
      forall_eq, List.not_mem_nil, false_imp_iff, implies_true, and_true] at hs
    rw [eventCtxCallback, outProcessTtyWrite, outString_of_mem sign _ hs.1,
      outString_of_mem sign _ hs.2, outPidInfo_eq, outTtyDev_eq]
    exact printSeq_line (EbpfEvent.doc sign (.processTtyWrite e))
  | fileDelete e | fileCreate e =>
    simp only [EbpfEvent.cStrings, List.mem_cons, forall_eq_or_imp, List.mem_singleton,
      forall_eq, List.not_mem_nil, false_imp_iff, implies_true, and_true] at hs
    exact outFileEvent_eq sign _ hs.1 hs.2
  | fileRename e =>
    simp only [EbpfEvent.cStrings, List.mem_cons, forall_eq_or_imp, List.mem_singleton,
      forall_eq, List.not_mem_nil, false_imp_iff, implies_true, and_true] at hs
    rw [eventCtxCallback, outFileRename, outString_of_mem sign _ hs.1,
      outString_of_mem sign _ hs.2.1, outString_of_mem sign _ hs.2.2, outPidInfo_eq]
    exact printSeq_line (EbpfEvent.doc sign (.fileRename e))
  | networkConnectionAccepted e | networkConnectionAttempted e | networkConnectionClosed e =>
    simp only [EbpfEvent.cStrings, List.mem_singleton, forall_eq] at hs
    exact outNetworkEvent_eq sign _ hs (h.family e rfl)

end Printers

/-! ### Printable text makes well-formed documents -/

/-- Printable ASCII, the bytes `0x20` to `0x7e`. -/
def IsPrintableByte (b : UInt8) : Prop := 0x20 ≤ b.toNat ∧ b.toNat ≤ 0x7e

/-- An array whose bytes other than NUL are printable ASCII. -/
def PrintableField (f : List UInt8) : Prop := ∀ b ∈ f, b = 0 ∨ IsPrintableByte b

/-- Text whose characters stand for themselves inside a JSON string. -/
def PlainText (s : List Char) : Prop := ∀ c ∈ s, 0x20 ≤ c.toNat ∧ c ≠ '"' ∧ c ≠ '\\'

instance : DecidablePred PlainText := fun s => inferInstanceAs (Decidable (∀ c ∈ s, _))

lemma plainText_digitChar :
    ∀ d < 16, 0x20 ≤ (Nat.digitChar d).toNat ∧ Nat.digitChar d ≠ '"' ∧ Nat.digitChar d ≠ '\\' := by
  decide

lemma plainText_inetNtop4 (addr : List UInt8) : PlainText (inetNtop4 addr) :=
  forall_mem_inetNtop4 (fun d h => plainText_digitChar d (by omega)) (by decide) addr

lemma plainText_inetNtop6 (addr : List UInt8) : PlainText (inetNtop6 addr) :=
  forall_mem_inetNtop6 plainText_digitChar (by decide) (by decide) addr

lemma strBodyOk_specEscape_append {b : UInt8} (hb : IsPrintableByte b) (t : List Char) :
    strBodyOk (specEscape b ++ t) = strBodyOk t := by
  obtain ⟨h1, h2⟩ := hb
  by_cases h92 : b.toNat = 92
  · simp [specEscape, h92, strBodyOk_escape]
  by_cases h34 : b.toNat = 34
  · simp [specEscape, h34, strBodyOk_escape]
  have hc : (Char.ofNat b.toNat).toNat = b.toNat := Char.toNat_ofNat_of_lt (by omega)
  have hne : Char.ofNat b.toNat ≠ '\\' := fun h => h92 (by rw [← hc, h]; rfl)
  have hnq : Char.ofNat b.toNat ≠ '"' := fun h => h34 (by rw [← hc, h]; rfl)
  simp (disch := omega) only [specEscape, if_neg]
  simp [strBodyOk_cons hne, hnq, hc, h1]

lemma strBodyOk_escapeString (sign : CharSign) :
    ∀ {s : List UInt8}, (∀ b ∈ s, IsPrintableByte b) → strBodyOk (escapeString sign s)
  | [], _ => rfl
  | b :: s, h => by
    have hb := h b (List.mem_cons_self _ _)
    rw [escapeString_cons, outStringChar_of_lt sign (by have := hb.2; omega),
      strBodyOk_specEscape_append hb]
    exact strBodyOk_escapeString sign fun b' hb' => h b' (List.mem_cons_of_mem _ hb')

lemma strBodyOk_printedText (sign : CharSign) {f : List UInt8} (h : PrintableField f) :
    strBodyOk (printedText sign f) :=
  strBodyOk_escapeString sign fun b hb =>
    (h b ((List.takeWhile_prefix _).subset hb)).resolve_left
      (by simpa using List.mem_takeWhile_imp hb)

/-- `out_argv`'s copy holds the bytes of `argv` with NULs made spaces, and NULs it writes. -/
lemma printableField_argvScratch {argv : List UInt8} (h : PrintableField argv) :
    PrintableField (argvScratch argv) := by
  have hmap : PrintableField (argv.map nulToSpace) := fun x hx => by
    obtain ⟨b, hb, rfl⟩ := List.mem_map.1 hx
    rcases h b hb with rfl | hp
    · exact .inr ⟨by decide, by decide⟩
    · have hb0 : b ≠ 0 := by rintro rfl; exact absurd hp.1 (by decide)
      exact .inr (by rw [nulToSpace, if_neg hb0]; exact hp)
  suffices ∀ s i, PrintableField s → PrintableField (argvTrim s i) from this _ _ hmap
  intro s i hs
  induction i with
  | zero => exact hs
  | succ i ih =>
    rw [argvTrim]
    split
    · exact fun x hx => (List.mem_or_eq_of_mem_set hx).elim (hs x) .inl
    · exact ih

@[simp] lemma JsonValue.wf_str (body : List Char) :
    (JsonValue.scalar (.str body)).wf ↔ strBodyOk body := Iff.rfl

@[simp] lemma JsonValue.wf_num (n : Int) : (JsonValue.scalar (.num n)).wf := trivial

@[simp] lemma pidInfoJson_wf (p : EbpfPidInfo) : (pidInfoJson p).wf :=
  ⟨by simp +decide [pidInfoJson], by simp [pidInfoJson], by simp [pidInfoJson, JsonScalar.wf]⟩

@[simp] lemma credInfoJson_wf (c : EbpfCredInfo) : (credInfoJson c).wf :=
  ⟨by simp +decide [credInfoJson], by simp [credInfoJson], by simp [credInfoJson, JsonScalar.wf]⟩

@[simp] lemma ttyDevJson_wf (t : EbpfTtyDev) : (ttyDevJson t).wf := by
  refine ⟨by simp +decide [ttyDevJson], by simp [ttyDevJson], ?_⟩
  simp only [ttyDevJson, List.mem_cons, List.mem_singleton, List.not_mem_nil, or_false]
  rintro m (rfl | rfl | rfl | rfl | rfl) <;> try trivial
  by_cases h : (t.cLflag &&& ECHO != 0) = true <;> simp only [h, ↓reduceIte]
  · exact (by decide : strBodyOk "TRUE".toList = true)
  · exact (by decide : strBodyOk "FALSE".toList = true)

/-- Members whose names are drawn, in order, from distinct names that need no escape. -/
lemma membersWf_of_sublist {α : Type} {wf : α → Prop} {ms : List (String × α)}
    (names : List String) (hsub : (ms.map Prod.fst).Sublist names)
    (hnames : ∀ n ∈ names, strBodyOk n.toList) (hnodup : names.Nodup)
    (hvalues : ∀ m ∈ ms, wf m.2) : MembersWf wf ms :=
  ⟨fun _ hm => hnames _ (hsub.subset (List.mem_map_of_mem _ hm)), hnodup.sublist hsub, hvalues⟩

@[simp] lemma netInfoJson_wf (evt : EbpfNetEvent) : (netInfoJson evt).wf := by
  have h4 := fun a => strBodyOk_of_forall (plainText_inetNtop4 a)
  have h6 := fun a => strBodyOk_of_forall (plainText_inetNtop6 a)
  -- the names are, in order, some of the nine `out_net_info` can write
  refine membersWf_of_sublist (["transport"] ++ ["family", "source_address",
    "source_port", "destination_address", "destination_port"] ++ "network_namespace" ::
    ["bytes_sent", "bytes_received"]) ?_ (by decide) (by decide) ?_
  · simp only [netInfoJson, List.map_append, List.map_cons]
    refine .append (.append ?_ ?_) (.cons₂ _ ?_) <;> split <;> simp [netAddrMembers]
  -- the values part by part: transport, family, namespace, byte counts
  · simp only [netInfoJson, List.forall_mem_append, List.forall_mem_cons]
    refine ⟨⟨?_, ?_⟩, trivial, ?_⟩ <;> split <;>
      simp only [netAddrMembers, List.forall_mem_cons, JsonScalar.wf, h4, h6, List.not_mem_nil,
        false_imp_iff, implies_true, and_true, true_and] <;> decide

/-- Every member of a document is well formed whatever the record holds, or is the text
`out_string` prints for one of the record's arrays. -/
lemma EbpfEvent.doc_values (sign : CharSign) (evt : EbpfEvent) : ∀ m ∈ evt.doc sign,
    m.2.wf ∨ ∃ f ∈ evt.outStrings, m.2 = .scalar (.str (printedText sign f)) := by
  cases evt <;> simp only [EbpfEvent.doc, EbpfEvent.outStrings, EbpfEvent.cStrings,
    eventTypeMember, textMember, numMember, setidDoc, fileDoc, netEventDoc, List.mem_cons,
    List.not_mem_nil, or_false, forall_eq_or_imp, forall_eq, exists_eq_or_imp, false_and,
    exists_false, JsonValue.wf_num, JsonValue.wf_str, pidInfoJson_wf, credInfoJson_wf,
    ttyDevJson_wf, netInfoJson_wf, exists_eq_left, true_or, or_true, and_true, true_and] <;>
    -- what is left is the event type's name
    first | decide | exact .inl (by decide)

/-- Each array handed to `out_string` has its member in the document. -/
lemma EbpfEvent.exists_mem_doc (sign : CharSign) (evt : EbpfEvent) :
    ∀ f ∈ evt.outStrings, ∃ k, (k, JsonValue.scalar (.str (printedText sign f))) ∈ evt.doc sign := by
  cases evt <;> simp only [EbpfEvent.doc, EbpfEvent.outStrings, EbpfEvent.cStrings, textMember,
    fileDoc, netEventDoc, List.mem_cons, List.not_mem_nil, or_false, forall_eq_or_imp, forall_eq,
    false_imp_iff, implies_true, Prod.mk.injEq, exists_eq_left, exists_or, true_or, or_true,
    and_true, and_self]

/-- Printable text fields make a well-formed document. -/
lemma EbpfEvent.doc_wf (sign : CharSign) {evt : EbpfEvent}
    (htext : ∀ f ∈ evt.textFields, PrintableField f) : (evt.doc sign).wf := by
  have hout : ∀ f ∈ evt.outStrings, PrintableField f := by
    cases evt <;> simp only [EbpfEvent.textFields, EbpfEvent.outStrings, EbpfEvent.cStrings,
      List.forall_mem_cons] at htext ⊢ <;> try exact htext
    exact ⟨htext.1, htext.2.1, htext.2.2.1, printableField_argvScratch htext.2.2.2.1, htext.2.2.2.2⟩
  refine ⟨EbpfEvent.doc_names sign evt, EbpfEvent.doc_nodup sign evt, fun m hm => ?_⟩
  obtain hwf | ⟨f, hf, hv⟩ := EbpfEvent.doc_values sign evt m hm
  · exact hwf
  · exact hv ▸ strBodyOk_printedText sign (hout f hf)

instance : DecidablePred IsPrintableByte := fun _ => inferInstanceAs (Decidable (_ ∧ _))

instance : DecidablePred PrintableField := fun f => inferInstanceAs (Decidable (∀ b ∈ f, _))

/-- For a record its printer can write whole and whose text fields are printable ASCII, the
printer writes one line: a JSON text, the rendering of a well-formed document whose first
member is the event type, and a newline. -/
theorem eventCtxCallback_json_line (sign : CharSign) (evt : EbpfEvent) (hp : evt.Printable)
    (htext : ∀ f ∈ evt.textFields, PrintableField f) :
    eventCtxCallback sign evt = some ((evt.doc sign).render ++ ['\n']) ∧ (evt.doc sign).wf ∧
      jsonText ((evt.doc sign).render ++ ['\n']) = true ∧
      (evt.doc sign).head? = some (eventTypeMember evt.type.typeName) :=
  ⟨eventCtxCallback_eq_doc sign hp, EbpfEvent.doc_wf sign htext,
    JsonDoc.jsonText_render (EbpfEvent.doc_wf sign htext), EbpfEvent.doc_head sign evt⟩

/-- An IPv6 connection closed by `curl`. -/
theorem eventCtxCallback_json_line_curl :
    let evt := EbpfEvent.networkConnectionClosed ⟨⟨.networkConnectionClosed⟩,
      ⟨100, 100, 1, 100, 1, 0⟩, ⟨.tcp, .afInet6, [0, 0, 0, 0], List.replicate 15 0 ++ [1],
      [0, 0, 0, 0], [0x20, 0x01, 0x0d, 0xb8] ++ List.replicate 11 0 ++ [1], 4242, 443,
      4026531840, 12, 34⟩, [0x63, 0x75, 0x72, 0x6c, 0]⟩
    eventCtxCallback .signed evt = some ((evt.doc .signed).render ++ ['\n']) :=
  (eventCtxCallback_json_line .signed _
    ⟨by decide, (fun _ h => by cases h), (fun _ h => by cases h; decide)⟩ (by decide)).1

/-! ### Records the printers cannot write as JSON -/

lemma printSeq_eq_none {ps : List (Option (List Char))} (h : none ∈ ps) : printSeq ps = none := by
  induction ps with
  | nil => cases h
  | cons p ps ih =>
    rcases List.mem_cons.1 h with rfl | hps
    · rfl
    · cases p <;> simp [ih hps]

/-- An exec record whose `argv` holds only NULs and spaces before its last byte, as an empty
argument vector does: the copy `out_argv` hands to `out_string` holds no NUL, so `strlen` reads
past it, whatever the other fields hold. -/
theorem eventCtxCallback_blank_argv (sign : CharSign) (evt : EbpfProcessExecEvent)
    (hblank : ∀ b ∈ evt.argv.take (evt.argv.length - 1), b = 0 ∨ b = 0x20) :
    0 ∉ argvScratch evt.argv ∧ eventCtxCallback sign (.processExec evt) = none := by
  have hnone : outArgv sign "argv" evt.argv = none := (outArgv_eq_none_iff sign _ _).2 hblank
  refine ⟨fun h => ?_, printSeq_eq_none ?_⟩
  · have hs := (outString_isSome_iff sign "argv" _).2 h
    rw [← outArgv, hnone] at hs
    cases hs
  · simp [hnone]

/-- `ls` run with no arguments at all: every text field holds a NUL, and `argv` only NULs. -/
theorem eventCtxCallback_blank_argv_empty :
    let evt : EbpfProcessExecEvent := ⟨⟨7, 7, 1, 7, 1, 0⟩, ⟨0, 0, 0, 0, 0, 0⟩,
      ⟨136, 0, 24, 80, 8⟩, [0x2f, 0x62, 0x69, 0x6e, 0x2f, 0x6c, 0x73, 0], [0x2f, 0], [0x2f, 0],
      [0, 0, 0, 0]⟩
    (∀ f ∈ (EbpfEvent.processExec evt).textFields, 0 ∈ f) ∧
      0 ∉ argvScratch evt.argv ∧ eventCtxCallback .signed (.processExec evt) = none :=
  ⟨by decide, eventCtxCallback_blank_argv .signed _ (by decide)⟩

/-- What `out_net_info`'s `switch` on the transport writes: for TCP, the member and a comma. -/
def transportText : EbpfNetTransport → List Char
  | .tcp => outName "transport" ++ (JsonValue.scalar (.str "TCP".toList)).render ++ [',']
  | .other => []

/-- For a family `out_net_info` does not name, the comma after the family's members follows the
transport's text, or the `{` itself. -/
lemma outNetworkEvent_of_other (sign : CharSign) (name : String) {evt : EbpfNetEvent}
    (hfam : evt.net.family = .other) (hcomm : 0 ∈ evt.comm) :
    ∃ rest, outNetworkEvent sign name evt = some ('{' ::
      ((outName "event_type" ++ (JsonValue.scalar (.str name.toList)).render ++ [',']) ++
      ((outName "pids" ++ (pidInfoJson evt.pids).render ++ [',']) ++
      (outName "net" ++ '{' :: (transportText evt.net.transport ++ ',' :: rest))))) := by
  have h1 := outString_cLiteral sign "transport" (s := "TCP") (by simp)
  rcases evt with ⟨hdr, pids, ⟨transport, family, saddr, saddr6, daddr, daddr6, sport, dport,
    netns, sent, received⟩, comm⟩
  subst hfam
  cases transport <;> by_cases hc : hdr.type = .networkConnectionClosed <;>
    simp only [outNetworkEvent, outNetInfo, h1, hc, ↓reduceIte, outString_of_mem sign _ hcomm,
      outPidInfo_eq, transportText, outEventType, outUint, outInt, outComma, outObjectStart,
      outObjectEnd, outNewline, JsonValue.render, JsonScalar.render, printSeq_cons_some,
      printSeq_nil, Option.map_some', Option.some.injEq, List.append_assoc, List.cons_append,
      List.singleton_append, List.nil_append, List.append_cancel_left_eq, List.cons.injEq,
      true_and, exists_eq']

/-- A network record whose family `out_net_info` does not name: whatever else it holds, its line
has a comma where a member name should start, `{,` or `"TCP",,`, and is not a JSON text. -/
theorem eventCtxCallback_unnamed_family (sign : CharSign) (ev : EbpfEvent) (evt : EbpfNetEvent)
    (hnet : ev.netEvent? = some evt) (hfam : evt.net.family = .other) (hcomm : 0 ∈ evt.comm) :
    ∃ line, eventCtxCallback sign ev = some line ∧ jsonText line = false := by
  have key : ∀ name, strBodyOk name.toList →
      ∃ line, outNetworkEvent sign name evt = some line ∧ jsonText line = false := by
    intro name hname
    obtain ⟨rest, h⟩ := outNetworkEvent_of_other sign name hfam hcomm
    refine ⟨_, h, ?_⟩
    have htail : jsonRun ⟨.keyOrClose, [.object, .object]⟩
        (transportText evt.net.transport ++ ',' :: rest) = none := by
      cases evt.net.transport with
      | tcp =>
        rw [transportText, jsonRun_append,
          jsonRun_member JsonValue.render (.inr rfl) [.object, .object] (k := "transport")
            (by decide)
            (v := .scalar (.str "TCP".toList))
            (JsonValue.readsAsValue_render ((JsonValue.wf_str _).2 (by decide)))
            (.inl rfl)]
        exact jsonRun_comma_of_opensKey (.inl rfl) [.object, .object] rest
      | other => exact jsonRun_comma_of_opensKey (.inr rfl) [.object, .object] rest
    rw [jsonText, jsonRun_cons,
      show jsonStep ⟨.value, []⟩ '{' = some ⟨.keyOrClose, [.object]⟩ from rfl, Option.some_bind,
      jsonRun_append, jsonRun_member JsonValue.render (.inr rfl) [.object] (k := "event_type")
        (by decide) (v := .scalar (.str name.toList)) (JsonValue.readsAsValue_render hname)
        (.inl rfl),
      show afterValue [.object] ',' = some ⟨.key, [.object]⟩ from rfl, Option.some_bind,
      jsonRun_append, jsonRun_member JsonValue.render (.inl rfl) [.object] (k := "pids")
        (by decide)
        (v := pidInfoJson evt.pids) (JsonValue.readsAsValue_render (pidInfoJson_wf evt.pids))
        (.inl rfl),
      show afterValue [.object] ',' = some ⟨.key, [.object]⟩ from rfl, Option.some_bind,
      jsonRun_name_open (.inl rfl) [.object] (k := "net") (by decide), htail]
  cases ev <;> simp only [EbpfEvent.netEvent?, Option.some.injEq, reduceCtorEq] at hnet <;>
    subst hnet <;> exact key _ (by decide)

/-- A connection closed whose family is neither of the two `out_net_info` names: every text
field is printable and NUL-terminated, and the line is not JSON. -/
theorem eventCtxCallback_unnamed_family_closed :
    let evt : EbpfNetEvent := ⟨⟨.networkConnectionClosed⟩, ⟨100, 100, 1, 100, 1, 0⟩,
      ⟨.tcp, .other, [0, 0, 0, 0], List.replicate 16 0, [0, 0, 0, 0], List.replicate 16 0,
      4242, 443, 4026531840, 12, 34⟩, [0x63, 0x75, 0x72, 0x6c, 0]⟩
    (∀ f ∈ (EbpfEvent.networkConnectionClosed evt).textFields, PrintableField f ∧ 0 ∈ f) ∧
      ∃ line, eventCtxCallback .signed (.networkConnectionClosed evt) = some line ∧
        jsonText line = false :=
  ⟨by decide, eventCtxCallback_unnamed_family .signed _ _ rfl rfl (by decide)⟩

/-! ### `tty_out` -/

/-- The bytes before an array's first NUL are its first `n` bytes exactly when `strlen` is `n`. -/
lemma takeWhile_eq_take_iff {buf : List UInt8} (h : 0 ∈ buf) (n : Nat) :
    buf.takeWhile (· != 0) = buf.take n ↔ strlen? buf = some n := by
  obtain ⟨p, t, rfl, hp⟩ := exists_first_nul h
  have hw : (p ++ 0 :: t).takeWhile (· != 0) = p :=
    Option.some.inj ((cString?_eq_takeWhile h).symm.trans (cString?_append_nul hp t))
  rw [hw, strlen?_append_nul hp, Option.some.injEq]
  constructor
  · intro he
    have hl := congrArg List.length he
    simp only [List.length_take, List.length_append, List.length_cons] at hl
    omega
  · rintro rfl
    exact (List.take_left' rfl).symm

/-- `out_process_tty_write` prints `tty_out` as a C string: what its text decodes to is the
bytes before the first NUL, whatever `tty_out_len` and `tty_out_truncated` say, and these are
the first `tty_out_len` bytes exactly when the first NUL is at `tty_out_len`. -/
theorem outProcessTtyWrite_ttyOut (sign : CharSign) (evt : EbpfProcessTtyWriteEvent)
    (hout : 0 ∈ evt.ttyOut) (hcomm : 0 ∈ evt.comm) :
    outProcessTtyWrite sign evt =
        some (((EbpfEvent.processTtyWrite evt).doc sign).render ++ ['\n']) ∧
      ((EbpfEvent.processTtyWrite evt).doc sign).lookup "tty_out" =
        some (.scalar (.str (printedText sign evt.ttyOut))) ∧
      unescape sign (printedText sign evt.ttyOut) = some (evt.ttyOut.takeWhile (· != 0)) ∧
      (evt.ttyOut.takeWhile (· != 0) = evt.ttyOut.take evt.ttyOutLen ↔
        strlen? evt.ttyOut = some evt.ttyOutLen) :=
  ⟨eventCtxCallback_eq_doc sign (show (EbpfEvent.processTtyWrite evt).Printable from
      ⟨by simp [EbpfEvent.cStrings, hout, hcomm], (fun _ h => by cases h),
        (fun _ h => by cases h)⟩),
    rfl, unescape_escapeString sign _, takeWhile_eq_take_iff hout _⟩

/-- A capture of `ok` and a newline: the printed text decodes to the bytes before the NUL, which
are the first `tty_out_len` bytes. -/
theorem outProcessTtyWrite_ttyOut_ok :
    unescape .signed (printedText .signed [0x6f, 0x6b, 0x0a, 0]) = some [0x6f, 0x6b, 0x0a] ∧
      strlen? [0x6f, 0x6b, 0x0a, 0] = some 3 :=
  let h := outProcessTtyWrite_ttyOut .signed ⟨⟨1, 1, 1, 1, 1, 0⟩, 3, 0, ⟨136, 0, 24, 80, 8⟩,
    [0x6f, 0x6b, 0x0a, 0], [0x73, 0x68, 0]⟩ (by decide) (by decide)
  ⟨h.2.2.1, h.2.2.2.1 rfl⟩

set_option maxRecDepth 4000 in
/-- `tty_out_len = 3` within a capacity of four and nothing truncated, with a NUL inside the
write: the line's `tty_out` is `A`, one byte, not the three bytes `A`, NUL, `B`. -/
theorem outProcessTtyWrite_stops_at_nul :
    outProcessTtyWrite .signed ⟨⟨1, 1, 1, 1, 1, 0⟩, 3, 0, ⟨136, 0, 24, 80, 8⟩,
      [0x41, 0, 0x42, 0], [0x73, 0x68, 0]⟩ = some ("\x7b\"event_type\":\"PROCESS_TTY_WRITE\"," ++
      "\"pids\":\x7b\"tid\":1,\"tgid\":1,\"ppid\":1,\"pgid\":1,\"sid\":1," ++
      "\"start_time_ns\":0\x7d,\"tty_out_len\":3,\"tty_out_truncated\":0," ++
      "\"tty\":\x7b\"major\":136,\"minor\":0,\"winsize_rows\":24,\"winsize_cols\":80," ++
      "\"ECHO\":\"TRUE\"\x7d,\"tty_out\":\"A\",\"comm\":\"sh\"\x7d\n").toList ∧
    unescape .signed ['A'] = some [0x41] ∧ ([0x41, 0, 0x42, 0] : List UInt8).take 3 = [0x41, 0, 0x42] :=
  ⟨rfl, by decide, by decide⟩

end EventsTrace
