import EventsTrace.Events
import EventsTrace.Argv

/-!
# The printers

`EventsTrace` prints each event as a run of `printf` calls made by small `out_*` functions.
Each function here is one of them, with its calls in the order the source makes them. A
function that prints numbers and constant text only is a list of characters; a function that
reaches `out_string` is partial, since `out_string` has no defined output for an array that
holds no NUL, and `printSeq` joins the text of a sequence of calls.

The two `inet_ntop` conversions the network printers call are modelled after the C library's
(`inet_ntop4` and `inet_ntop6`), so that a printer's text is a function of the record alone.
-/

namespace EventsTrace

/-! ### Sequences of calls -/

/-- The text of a sequence of calls, `none` as soon as one of them has no defined output. -/
def printSeq : List (Option (List Char)) → Option (List Char)
  | [] => some []
  | p :: ps => p.bind fun a => (printSeq ps).map (a ++ ·)

@[simp] lemma printSeq_nil : printSeq [] = some [] := rfl

@[simp] lemma printSeq_cons_some (a : List Char) (ps : List (Option (List Char))) :
    printSeq (some a :: ps) = (printSeq ps).map (a ++ ·) := rfl

@[simp] lemma printSeq_cons_none (ps : List (Option (List Char))) :
    printSeq (none :: ps) = none := rfl

lemma mem_printSeq_cons {a : List Char} {p : Option (List Char)} {ps : List (Option (List Char))} :
    a ∈ printSeq (p :: ps) ↔ ∃ x ∈ p, ∃ r ∈ printSeq ps, a = x ++ r := by
  cases p <;> simp [eq_comm]

/-- A sequence of calls has defined output exactly when each of its calls has. -/
lemma printSeq_isSome_iff {ps : List (Option (List Char))} :
    (printSeq ps).isSome ↔ ∀ p ∈ ps, p.isSome := by
  induction ps with
  | nil => simp
  | cons p ps ih => cases p <;> simp [ih]

/-! ### Constant text and numbers -/

/-- `out_comma()`. -/
def outComma : List Char := [',']

/-- `out_newline()`. -/
def outNewline : List Char := ['\n']

/-- `out_object_start()`. -/
def outObjectStart : List Char := ['{']

/-- `out_object_end()`. -/
def outObjectEnd : List Char := ['}']

/-- `out_event_type(type)`, that is `printf("\"event_type\":\"%s\"", type)`. -/
def outEventType (type : String) : List Char := outName "event_type" ++ '"' :: type.toList ++ ['"']

/-- `out_uint(name, value)`. -/
def outUint (name : String) (value : Nat) : List Char := outName name ++ printfLu value

/-- `out_int(name, value)`. -/
def outInt (name : String) (value : Int) : List Char := outName name ++ printfLd value

/-- `out_bool(name, value)`. -/
def outBool (name : String) (value : Bool) : List Char :=
  outName name ++ '"' :: (if value then "TRUE" else "FALSE").toList ++ ['"']

/-- A string literal of the source as the `char` array the compiler lays out for it. -/
def cLiteral (s : String) : List UInt8 := s.toList.map (fun c => c.toNat.toUInt8) ++ [0]

lemma nul_mem_cLiteral (s : String) : 0 ∈ cLiteral s :=
  List.mem_append_right _ (List.mem_singleton_self 0)

/-! ### Nested records -/

/-- `out_tty_dev(name, tty_dev)`; `out_bool` receives `c_lflag & ECHO` converted to `bool`. -/
def outTtyDev (name : String) (ttyDev : EbpfTtyDev) : List Char :=
  outName name ++ outObjectStart ++
    outInt "major" ttyDev.major ++ outComma ++
    outInt "minor" ttyDev.minor ++ outComma ++
    outInt "winsize_rows" ttyDev.winsizeRows ++ outComma ++
    outInt "winsize_cols" ttyDev.winsizeCols ++ outComma ++
    outBool "ECHO" (ttyDev.cLflag &&& ECHO != 0) ++
    outObjectEnd

/-- `out_pid_info(name, pid_info)`. -/
def outPidInfo (name : String) (pidInfo : EbpfPidInfo) : List Char :=
  outName name ++ outObjectStart ++
    outInt "tid" pidInfo.tid ++ outComma ++
    outInt "tgid" pidInfo.tgid ++ outComma ++
    outInt "ppid" pidInfo.ppid ++ outComma ++
    outInt "pgid" pidInfo.pgid ++ outComma ++
    outInt "sid" pidInfo.sid ++ outComma ++
    outUint "start_time_ns" pidInfo.startTimeNs ++
    outObjectEnd

/-- `out_cred_info(name, cred_info)`. -/
def outCredInfo (name : String) (credInfo : EbpfCredInfo) : List Char :=
  outName name ++ outObjectStart ++
    outInt "ruid" credInfo.ruid ++ outComma ++
    outInt "rgid" credInfo.rgid ++ outComma ++
    outInt "euid" credInfo.euid ++ outComma ++
    outInt "egid" credInfo.egid ++ outComma ++
    outInt "suid" credInfo.suid ++ outComma ++
    outInt "sgid" credInfo.sgid ++
    outObjectEnd

/-! ### `inet_ntop` -/

/-- `inet_ntop4`: `sprintf("%u.%u.%u.%u", ...)` over the first four bytes. -/
def inetNtop4 (addr : List UInt8) : List Char :=
  ['.'].intercalate ((addr.take 4).map fun b => Nat.toDigits 10 b.toNat)

/-- The eight 16-bit words of an IPv6 address given as its sixteen bytes. -/
def ipv6Words (addr : List UInt8) : List Nat :=
  (List.range 8).map fun i => (addr.getD (2 * i) 0).toNat * 256 + (addr.getD (2 * i + 1) 0).toNat

/-- `best = cur` when `best.base == -1 || cur.len > best.len`; a run is `(base, len)`. -/
def keepLonger : Option (Nat × Nat) → Option (Nat × Nat) → Option (Nat × Nat)
  | some c, none => some c
  | some c, some b => if b.2 < c.2 then some c else some b
  | none, b => b

/-- One turn of `inet_ntop6`'s first loop, over word `w` at index `i`, on `(cur, best)`. -/
def zeroRunStep (st : Option (Nat × Nat) × Option (Nat × Nat)) (iw : Nat × Nat) :
    Option (Nat × Nat) × Option (Nat × Nat) :=
  if iw.2 = 0 then
    (some (match st.1 with | none => (iw.1, 1) | some (b, l) => (b, l + 1)), st.2)
  else (none, keepLonger st.1 st.2)

/-- The run of zero words `inet_ntop6` abbreviates to `::`: the first longest one, and none
when it is a single word. -/
def bestZeroRun (words : List Nat) : Option (Nat × Nat) :=
  let st := words.enum.foldl zeroRunStep (none, none)
  match keepLonger st.1 st.2 with
  | some (b, l) => if l < 2 then none else some (b, l)
  | none => none

/-- `inet_ntop6`: the words in `%x` separated by `:`, the best run of zeros shortened to `::`,
and the last four bytes as an IPv4 address after six zero words or five and `ffff`. -/
def inetNtop6 (addr : List UInt8) : List Char :=
  let words := ipv6Words addr
  let best := bestZeroRun words
  let inRun (i : Nat) : Bool := match best with | some (b, l) => b ≤ i && i < b + l | none => false
  let mapped : Bool := match best with
    | some (0, 6) => true
    | some (0, 5) => words.getD 5 0 == 0xffff
    | _ => false
  let piece (i : Nat) : List Char :=
    if inRun i then (if best.map Prod.fst = some i then [':'] else [])
    else if mapped && i == 7 then []
    else (if i = 0 then [] else [':']) ++
      (if mapped && i == 6 then inetNtop4 (addr.drop 12) else Nat.toDigits 16 (words.getD i 0))
  (List.range 8).flatMap piece ++
    match best with
    | some (b, l) => if b + l = 8 then [':'] else []
    | none => []

lemma forall_mem_intercalate {P : Char → Prop} {sep : List Char} (hs : ∀ c ∈ sep, P c) :
    ∀ xs : List (List Char), (∀ x ∈ xs, ∀ c ∈ x, P c) → ∀ c ∈ sep.intercalate xs, P c
  | [], _ => by simp [List.intercalate]
  | [x], h => by simpa [List.intercalate] using h x (List.mem_singleton_self x)
  | x :: y :: xs, h => by
    have ih := forall_mem_intercalate hs (y :: xs) fun z hz => h z (List.mem_cons_of_mem _ hz)
    rw [List.intercalate, List.intersperse_cons₂, List.flatten_cons, List.flatten_cons]
    exact List.forall_mem_append.2
      ⟨h x (List.mem_cons_self _ _), List.forall_mem_append.2 ⟨hs, ih⟩⟩

/-- Every character `inet_ntop4` writes is a decimal digit or a dot. -/
lemma forall_mem_inetNtop4 {P : Char → Prop} (hd : ∀ d < 10, P (Nat.digitChar d)) (hdot : P '.')
    (addr : List UInt8) : ∀ c ∈ inetNtop4 addr, P c :=
  forall_mem_intercalate (by simpa using hdot) _ fun _ hx => by
    obtain ⟨b, -, rfl⟩ := List.mem_map.1 hx
    exact forall_mem_toDigits (by decide) hd _

/-- Every character `inet_ntop6` writes is a lowercase hex digit, a colon or a dot. -/
lemma forall_mem_inetNtop6 {P : Char → Prop} (hd : ∀ d < 16, P (Nat.digitChar d))
    (hdot : P '.') (hcolon : P ':') (addr : List UInt8) : ∀ c ∈ inetNtop6 addr, P c := by
  have hc : ∀ c ∈ [':'], P c := by simpa using hcolon
  have hn : ∀ c ∈ ([] : List Char), P c := by simp
  have h4 := forall_mem_inetNtop4 (fun d h => hd d (by omega)) hdot (addr.drop 12)
  have h16 := forall_mem_toDigits (show 1 < 16 by decide) hd
  refine List.forall_mem_append.2 ⟨List.forall_mem_flatMap.2 fun i _ => ?_, ?_⟩
  · split_ifs <;> first
      | assumption
      | exact List.forall_mem_append.2 ⟨‹_›, h4⟩
      | exact List.forall_mem_append.2 ⟨‹_›, h16 _⟩
  · split
    · split_ifs <;> assumption
    · exact hn

/-- `out_ip_addr(name, addr)`. -/
def outIpAddr (name : String) (addr : List UInt8) : List Char :=
  outName name ++ '"' :: inetNtop4 addr ++ ['"']

/-- `out_ip6_addr(name, addr)`. -/
def outIp6Addr (name : String) (addr : List UInt8) : List Char :=
  outName name ++ '"' :: inetNtop6 addr ++ ['"']

/-! ### Event printers -/

section Printers

variable (sign : CharSign)

/-- The members `out_net_info` prints for one address family, after `"family"`. -/
def outNetAddrs (outAddr : String → List UInt8 → List Char) (saddr daddr : List UInt8)
    (sport dport : Int) : List Char :=
  outAddr "source_address" saddr ++ outComma ++
    outInt "source_port" sport ++ outComma ++
    outAddr "destination_address" daddr ++ outComma ++
    outInt "destination_port" dport

/-- `out_net_info(name, evt)`. Neither `switch` has a `default`: a transport other than TCP
prints nothing, and so does a family other than the two named ones, before the unconditional
`out_comma()`. -/
def outNetInfo (name : String) (evt : EbpfNetEvent) : Option (List Char) :=
  let net := evt.net
  printSeq [
    some (outName name), some outObjectStart,
    (match net.transport with
      | .tcp => printSeq [outString sign "transport" (cLiteral "TCP"), some outComma]
      | .other => some []),
    (match net.family with
      | .afInet => printSeq [outString sign "family" (cLiteral "AF_INET"), some outComma,
          some (outNetAddrs outIpAddr net.saddr net.daddr net.sport net.dport)]
      | .afInet6 => printSeq [outString sign "family" (cLiteral "AF_INET6"), some outComma,
          some (outNetAddrs outIp6Addr net.saddr6 net.daddr6 net.sport net.dport)]
      | .other => some []),
    some outComma, some (outInt "network_namespace" net.netns),
    (if evt.hdr.type = .networkConnectionClosed then
      some (outComma ++ outUint "bytes_sent" net.bytesSent ++
        outComma ++ outUint "bytes_received" net.bytesReceived)
    else some []),
    some outObjectEnd]

/-- `out_network_event(name, evt)`. -/
def outNetworkEvent (name : String) (evt : EbpfNetEvent) : Option (List Char) :=
  printSeq [some outObjectStart, some (outEventType name), some outComma,
    some (outPidInfo "pids" evt.pids), some outComma,
    outNetInfo sign "net" evt, some outComma,
    outString sign "comm" evt.comm,
    some outObjectEnd, some outNewline]

/-- `out_network_connection_accepted_event(evt)`. -/
def outNetworkConnectionAcceptedEvent (evt : EbpfNetEvent) : Option (List Char) :=
  outNetworkEvent sign "NETWORK_CONNECTION_ACCEPTED" evt

/-- `out_network_connection_attempted_event(evt)`. -/
def outNetworkConnectionAttemptedEvent (evt : EbpfNetEvent) : Option (List Char) :=
  outNetworkEvent sign "NETWORK_CONNECTION_ATTEMPTED" evt

/-- `out_network_connection_closed_event(evt)`. -/
def outNetworkConnectionClosedEvent (evt : EbpfNetEvent) : Option (List Char) :=
  outNetworkEvent sign "NETWORK_CONNECTION_CLOSED" evt

/-- `out_file_delete` and `out_file_create`, which differ only in the event type they print. -/
def outFileEvent (type : String) (evt : EbpfFileEvent) : Option (List Char) :=
  printSeq [some outObjectStart, some (outEventType type), some outComma,
    some (outPidInfo "pids" evt.pids), some outComma,
    outString sign "path" evt.path, some outComma,
    some (outInt "mount_namespace" evt.mntns), some outComma,
    outString sign "comm" evt.comm,
    some outObjectEnd, some outNewline]

/-- `out_file_delete(evt)`. -/
def outFileDelete (evt : EbpfFileEvent) : Option (List Char) :=
  outFileEvent sign "FILE_DELETE" evt

/-- `out_file_create(evt)`. -/
def outFileCreate (evt : EbpfFileEvent) : Option (List Char) :=
  outFileEvent sign "FILE_CREATE" evt

/-- `out_file_rename(evt)`. -/
def outFileRename (evt : EbpfFileRenameEvent) : Option (List Char) :=
  printSeq [some outObjectStart, some (outEventType "FILE_RENAME"), some outComma,
    some (outPidInfo "pids" evt.pids), some outComma,
    outString sign "old_path" evt.oldPath, some outComma,
    outString sign "new_path" evt.newPath, some outComma,
    some (outInt "mount_namespace" evt.mntns), some outComma,
    outString sign "comm" evt.comm,
    some outObjectEnd, some outNewline]

/-- `out_process_fork(evt)`. -/
def outProcessFork (evt : EbpfProcessForkEvent) : Option (List Char) :=
  printSeq [some outObjectStart, some (outEventType "PROCESS_FORK"), some outComma,
    some (outPidInfo "parent_pids" evt.parentPids), some outComma,
    some (outPidInfo "child_pids" evt.childPids), some outComma,
    outString sign "pids_ss_cgroup_path" evt.pidsSsCgroupPath,
    some outObjectEnd, some outNewline]

/-- `out_process_exec(evt)`; `argv` goes through `out_argv` with the whole array. -/
def outProcessExec (evt : EbpfProcessExecEvent) : Option (List Char) :=
  printSeq [some outObjectStart, some (outEventType "PROCESS_EXEC"), some outComma,
    some (outPidInfo "pids" evt.pids), some outComma,
    some (outCredInfo "creds" evt.creds), some outComma,
    some (outTtyDev "ctty" evt.ctty), some outComma,
    outString sign "filename" evt.filename, some outComma,
    outString sign "cwd" evt.cwd, some outComma,
    outString sign "pids_ss_cgroup_path" evt.pidsSsCgroupPath, some outComma,
    outArgv sign "argv" evt.argv,
    some outObjectEnd, some outNewline]

/-- `out_process_setsid(evt)`. -/
def outProcessSetsid (evt : EbpfProcessSetsidEvent) : List Char :=
  outObjectStart ++ outEventType "PROCESS_SETSID" ++ outComma ++
    outPidInfo "pids" evt.pids ++
    outObjectEnd ++ outNewline

/-- `out_process_setuid` and `out_process_setgid`, which differ only in their names. -/
def outProcessSetid (type nameR nameE : String) (pids : EbpfPidInfo) (newR newE : Nat) :
    List Char :=
  outObjectStart ++ outEventType type ++ outComma ++
    outPidInfo "pids" pids ++ outComma ++
    outUint nameR newR ++ outComma ++
    outUint nameE newE ++
    outObjectEnd ++ outNewline

/-- `out_process_setuid(evt)`. -/
def outProcessSetuid (evt : EbpfProcessSetuidEvent) : List Char :=
  outProcessSetid "PROCESS_SETUID" "new_ruid" "new_euid" evt.pids evt.newRuid evt.newEuid

/-- `out_process_setgid(evt)`. -/
def outProcessSetgid (evt : EbpfProcessSetgidEvent) : List Char :=
  outProcessSetid "PROCESS_SETGID" "new_rgid" "new_egid" evt.pids evt.newRgid evt.newEgid

/-- `out_process_tty_write(evt)`: `tty_out` is printed as a C string, and `tty_out_len` only
as a number. -/
def outProcessTtyWrite (evt : EbpfProcessTtyWriteEvent) : Option (List Char) :=
  printSeq [some outObjectStart, some (outEventType "PROCESS_TTY_WRITE"), some outComma,
    some (outPidInfo "pids" evt.pids), some outComma,
    some (outUint "tty_out_len" evt.ttyOutLen), some outComma,
    some (outUint "tty_out_truncated" evt.ttyOutTruncated), some outComma,
    some (outTtyDev "tty" evt.tty), some outComma,
    outString sign "tty_out" evt.ttyOut, some outComma,
    outString sign "comm" evt.comm,
    some outObjectEnd, some outNewline]

/-- `out_process_exit(evt)`. -/
def outProcessExit (evt : EbpfProcessExitEvent) : Option (List Char) :=
  printSeq [some outObjectStart, some (outEventType "PROCESS_EXIT"), some outComma,
    some (outPidInfo "pids" evt.pids), some outComma,
    outString sign "pids_ss_cgroup_path" evt.pidsSsCgroupPath, some outComma,
    some (outInt "exit_code" evt.exitCode),
    some outObjectEnd, some outNewline]

/-- `event_ctx_callback(evt_hdr)`: what it prints; it always returns `0`. -/
def eventCtxCallback : EbpfEvent → Option (List Char)
  | .processFork evt => outProcessFork sign evt
  | .processExec evt => outProcessExec sign evt
  | .processExit evt => outProcessExit sign evt
  | .processSetsid evt => some (outProcessSetsid evt)
  | .processSetuid evt => some (outProcessSetuid evt)
  | .processSetgid evt => some (outProcessSetgid evt)
  | .processTtyWrite evt => outProcessTtyWrite sign evt
  | .fileDelete evt => outFileDelete sign evt
  | .fileCreate evt => outFileCreate sign evt
  | .fileRename evt => outFileRename sign evt
  | .networkConnectionAccepted evt => outNetworkConnectionAcceptedEvent sign evt
  | .networkConnectionAttempted evt => outNetworkConnectionAttemptedEvent sign evt
  | .networkConnectionClosed evt => outNetworkConnectionClosedEvent sign evt

end Printers

/-! ### The init message -/

/-- `print_init_msg(features)`, which `main` calls once the event context exists when
`--print-features-on-init` was given; `bpfTramp` is `EBPF_FEATURE_BPF_TRAMP`, whose value the
library's header defines. -/
def printInitMsg (bpfTramp features : BitVec 64) : List Char :=
  "\x7b\"probes_initialized\": true, \"features\": \x7b".toList ++
    "\"bpf_tramp\": ".toList ++ (if features &&& bpfTramp ≠ 0 then "true" else "false").toList ++
    "\x7d\x7d\n".toList

end EventsTrace
