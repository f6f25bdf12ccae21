import EventsTrace.Framing

/-!
# The `printf` calls

The printers of `Printers` give the text each `out_*` function writes. This module gives the same
functions one level down, as the `printf` calls they make, each with the text it writes:
`out_string` makes one call for the member's opening, one for each byte and one for the closing
quote; every other printer makes one call for each constant, number or address it prints. Joining
the calls gives the printers' text back (`eventCtxCallbackCalls_flatten`,
`printInitMsgCalls_flatten`).

Where one call ends and the next begins matters once `sig_int` is taken into account: the handler
writes to `stdout` with `fprintf`, which is defined between two of `main`'s calls and undefined
inside one of them (`Run`).
-/

namespace EventsTrace

/-! ### Sequences of calls -/

/-- The calls of a sequence of printers, `none` as soon as one of them has no defined output. -/
def callSeq : List (Option (List (List Char))) → Option (List (List Char))
  | [] => some []
  | p :: ps => p.bind fun a => (callSeq ps).map (a ++ ·)

/-- Joining the calls of a sequence of printers gives the text of the sequence. -/
lemma callSeq_flatten (ps : List (Option (List (List Char)))) :
    (callSeq ps).map List.flatten = printSeq (ps.map (Option.map List.flatten)) := by
  induction ps with
  | nil => rfl
  | cons p ps ih =>
    cases p with
    | none => rfl
    | some a =>
      simp only [callSeq, Option.some_bind, Option.map_map, List.map_cons, Option.map_some',
        printSeq_cons_some, ← ih]
      congr 1
      funext x
      simp

lemma callSeq_append (ps qs : List (Option (List (List Char)))) :
    callSeq (ps ++ qs) = (callSeq ps).bind fun a => (callSeq qs).map (a ++ ·) := by
  induction ps with
  | nil => simp [callSeq]
  | cons p ps ih => cases p <;> simp [callSeq, ih, Option.map_bind, Option.bind_map, Function.comp_def]

/-! ### The printers' calls -/

/-- The calls of `out_string(name, value)`: `printf("\"%s\":\"", name)`, one call for each byte
before the NUL, and `printf("\"")`. -/
def outStringCalls (sign : CharSign) (name : String) (value : List UInt8) :
    Option (List (List Char)) :=
  (cString? value).map fun s => (outName name ++ ['"']) :: s.map (outStringChar sign) ++ [['"']]

lemma outStringCalls_flatten (sign : CharSign) (name : String) (value : List UInt8) :
    (outStringCalls sign name value).map List.flatten = outString sign name value := by
  simp only [outStringCalls, outString, Option.map_map]
  congr 1
  funext s
  simp [stringLiteral, escapeString, List.flatMap]

/-- The calls of `out_tty_dev(name, tty_dev)`. -/
def outTtyDevCalls (name : String) (ttyDev : EbpfTtyDev) : List (List Char) :=
  [outName name, outObjectStart,
    outInt "major" ttyDev.major, outComma,
    outInt "minor" ttyDev.minor, outComma,
    outInt "winsize_rows" ttyDev.winsizeRows, outComma,
    outInt "winsize_cols" ttyDev.winsizeCols, outComma,
    outBool "ECHO" (ttyDev.cLflag &&& ECHO != 0),
    outObjectEnd]

/-- The calls of `out_pid_info(name, pid_info)`. -/
def outPidInfoCalls (name : String) (pidInfo : EbpfPidInfo) : List (List Char) :=
  [outName name, outObjectStart,
    outInt "tid" pidInfo.tid, outComma,
    outInt "tgid" pidInfo.tgid, outComma,
    outInt "ppid" pidInfo.ppid, outComma,
    outInt "pgid" pidInfo.pgid, outComma,
    outInt "sid" pidInfo.sid, outComma,
    outUint "start_time_ns" pidInfo.startTimeNs,
    outObjectEnd]

/-- The calls of `out_cred_info(name, cred_info)`. -/
def outCredInfoCalls (name : String) (credInfo : EbpfCredInfo) : List (List Char) :=
  [outName name, outObjectStart,
    outInt "ruid" credInfo.ruid, outComma,
    outInt "rgid" credInfo.rgid, outComma,
    outInt "euid" credInfo.euid, outComma,
    outInt "egid" credInfo.egid, outComma,
    outInt "suid" credInfo.suid, outComma,
    outInt "sgid" credInfo.sgid,
    outObjectEnd]

@[simp] lemma outTtyDevCalls_flatten (name : String) (ttyDev : EbpfTtyDev) :
    (outTtyDevCalls name ttyDev).flatten = outTtyDev name ttyDev := by
  simp [outTtyDevCalls, outTtyDev]

@[simp] lemma outPidInfoCalls_flatten (name : String) (pidInfo : EbpfPidInfo) :
    (outPidInfoCalls name pidInfo).flatten = outPidInfo name pidInfo := by
  simp [outPidInfoCalls, outPidInfo]

@[simp] lemma outCredInfoCalls_flatten (name : String) (credInfo : EbpfCredInfo) :
    (outCredInfoCalls name credInfo).flatten = outCredInfo name credInfo := by
  simp [outCredInfoCalls, outCredInfo]

section Printers

variable (sign : CharSign)

/-- The calls of `out_argv(name, buf, buf_size)`: those of `out_string` over its scratch copy. -/
def outArgvCalls (name : String) (buf : List UInt8) : Option (List (List Char)) :=
  outStringCalls sign name (argvScratch buf)

/-- The calls of the members `out_net_info` prints for one address family; `out_ip_addr` and
`out_ip6_addr` make one call each, after `inet_ntop`. -/
def outNetAddrsCalls (outAddr : String → List UInt8 → List Char) (saddr daddr : List UInt8)
    (sport dport : Int) : List (List Char) :=
  [outAddr "source_address" saddr, outComma,
    outInt "source_port" sport, outComma,
    outAddr "destination_address" daddr, outComma,
    outInt "destination_port" dport]

/-- The calls of `out_net_info(name, evt)`. -/
def outNetInfoCalls (name : String) (evt : EbpfNetEvent) : Option (List (List Char)) :=
  let net := evt.net
  callSeq [
    some [outName name], some [outObjectStart],
    (match net.transport with
      | .tcp => callSeq [outStringCalls sign "transport" (cLiteral "TCP"), some [outComma]]
      | .other => some []),
    (match net.family with
      | .afInet => callSeq [outStringCalls sign "family" (cLiteral "AF_INET"), some [outComma],
          some (outNetAddrsCalls outIpAddr net.saddr net.daddr net.sport net.dport)]
      | .afInet6 => callSeq [outStringCalls sign "family" (cLiteral "AF_INET6"), some [outComma],
          some (outNetAddrsCalls outIp6Addr net.saddr6 net.daddr6 net.sport net.dport)]
      | .other => some []),
    some [outComma], some [outInt "network_namespace" net.netns],
    (if evt.hdr.type = .networkConnectionClosed then
      some [outComma, outUint "bytes_sent" net.bytesSent,
        outComma, outUint "bytes_received" net.bytesReceived]
    else some []),
    some [outObjectEnd]]

/-- The calls of `out_network_event(name, evt)`. -/
def outNetworkEventCalls (name : String) (evt : EbpfNetEvent) : Option (List (List Char)) :=
  callSeq [some [outObjectStart], some [outEventType name], some [outComma],
    some (outPidInfoCalls "pids" evt.pids), some [outComma],
    outNetInfoCalls sign "net" evt, some [outComma],
    outStringCalls sign "comm" evt.comm,
    some [outObjectEnd], some [outNewline]]

/-- The calls of `out_network_connection_accepted_event(evt)`. -/
def outNetworkConnectionAcceptedEventCalls (evt : EbpfNetEvent) : Option (List (List Char)) :=
  outNetworkEventCalls sign "NETWORK_CONNECTION_ACCEPTED" evt

/-- The calls of `out_network_connection_attempted_event(evt)`. -/
def outNetworkConnectionAttemptedEventCalls (evt : EbpfNetEvent) : Option (List (List Char)) :=
  outNetworkEventCalls sign "NETWORK_CONNECTION_ATTEMPTED" evt

/-- The calls of `out_network_connection_closed_event(evt)`. -/
def outNetworkConnectionClosedEventCalls (evt : EbpfNetEvent) : Option (List (List Char)) :=
  outNetworkEventCalls sign "NETWORK_CONNECTION_CLOSED" evt

/-- The calls of `out_file_delete` and `out_file_create`. -/
def outFileEventCalls (type : String) (evt : EbpfFileEvent) : Option (List (List Char)) :=
  callSeq [some [outObjectStart], some [outEventType type], some [outComma],
    some (outPidInfoCalls "pids" evt.pids), some [outComma],
    outStringCalls sign "path" evt.path, some [outComma],
    some [outInt "mount_namespace" evt.mntns], some [outComma],
    outStringCalls sign "comm" evt.comm,
    some [outObjectEnd], some [outNewline]]

/-- The calls of `out_file_delete(evt)`. -/
def outFileDeleteCalls (evt : EbpfFileEvent) : Option (List (List Char)) :=
  outFileEventCalls sign "FILE_DELETE" evt

/-- The calls of `out_file_create(evt)`. -/
def outFileCreateCalls (evt : EbpfFileEvent) : Option (List (List Char)) :=
  outFileEventCalls sign "FILE_CREATE" evt

/-- The calls of `out_file_rename(evt)`. -/
def outFileRenameCalls (evt : EbpfFileRenameEvent) : Option (List (List Char)) :=
  callSeq [some [outObjectStart], some [outEventType "FILE_RENAME"], some [outComma],
    some (outPidInfoCalls "pids" evt.pids), some [outComma],
    outStringCalls sign "old_path" evt.oldPath, some [outComma],
    outStringCalls sign "new_path" evt.newPath, some [outComma],
    some [outInt "mount_namespace" evt.mntns], some [outComma],
    outStringCalls sign "comm" evt.comm,
    some [outObjectEnd], some [outNewline]]

/-- The calls of `out_process_fork(evt)`. -/
def outProcessForkCalls (evt : EbpfProcessForkEvent) : Option (List (List Char)) :=
  callSeq [some [outObjectStart], some [outEventType "PROCESS_FORK"], some [outComma],
    some (outPidInfoCalls "parent_pids" evt.parentPids), some [outComma],
    some (outPidInfoCalls "child_pids" evt.childPids), some [outComma],
    outStringCalls sign "pids_ss_cgroup_path" evt.pidsSsCgroupPath,
    some [outObjectEnd], some [outNewline]]

/-- The calls of `out_process_exec(evt)`. -/
def outProcessExecCalls (evt : EbpfProcessExecEvent) : Option (List (List Char)) :=
  callSeq [some [outObjectStart], some [outEventType "PROCESS_EXEC"], some [outComma],
    some (outPidInfoCalls "pids" evt.pids), some [outComma],
    some (outCredInfoCalls "creds" evt.creds), some [outComma],
    some (outTtyDevCalls "ctty" evt.ctty), some [outComma],
    outStringCalls sign "filename" evt.filename, some [outComma],
    outStringCalls sign "cwd" evt.cwd, some [outComma],
    outStringCalls sign "pids_ss_cgroup_path" evt.pidsSsCgroupPath, some [outComma],
    outArgvCalls sign "argv" evt.argv,
    some [outObjectEnd], some [outNewline]]

/-- The calls of `out_process_setsid(evt)`. -/
def outProcessSetsidCalls (evt : EbpfProcessSetsidEvent) : List (List Char) :=
  [outObjectStart, outEventType "PROCESS_SETSID", outComma] ++
    outPidInfoCalls "pids" evt.pids ++
    [outObjectEnd, outNewline]

/-- The calls of `out_process_setuid` and `out_process_setgid`. -/
def outProcessSetidCalls (type nameR nameE : String) (pids : EbpfPidInfo) (newR newE : Nat) :
    List (List Char) :=
  [outObjectStart, outEventType type, outComma] ++
    outPidInfoCalls "pids" pids ++
    [outComma, outUint nameR newR, outComma, outUint nameE newE, outObjectEnd, outNewline]

/-- The calls of `out_process_setuid(evt)`. -/
def outProcessSetuidCalls (evt : EbpfProcessSetuidEvent) : List (List Char) :=
  outProcessSetidCalls "PROCESS_SETUID" "new_ruid" "new_euid" evt.pids evt.newRuid evt.newEuid

/-- The calls of `out_process_setgid(evt)`. -/
def outProcessSetgidCalls (evt : EbpfProcessSetgidEvent) : List (List Char) :=
  outProcessSetidCalls "PROCESS_SETGID" "new_rgid" "new_egid" evt.pids evt.newRgid evt.newEgid

/-- The calls of `out_process_tty_write(evt)`. -/
def outProcessTtyWriteCalls (evt : EbpfProcessTtyWriteEvent) : Option (List (List Char)) :=
  callSeq [some [outObjectStart], some [outEventType "PROCESS_TTY_WRITE"], some [outComma],
    some (outPidInfoCalls "pids" evt.pids), some [outComma],
    some [outUint "tty_out_len" evt.ttyOutLen], some [outComma],
    some [outUint "tty_out_truncated" evt.ttyOutTruncated], some [outComma],
    some (outTtyDevCalls "tty" evt.tty), some [outComma],
    outStringCalls sign "tty_out" evt.ttyOut, some [outComma],
    outStringCalls sign "comm" evt.comm,
    some [outObjectEnd], some [outNewline]]

/-- The calls of `out_process_exit(evt)`. -/
def outProcessExitCalls (evt : EbpfProcessExitEvent) : Option (List (List Char)) :=
  callSeq [some [outObjectStart], some [outEventType "PROCESS_EXIT"], some [outComma],
    some (outPidInfoCalls "pids" evt.pids), some [outComma],
    outStringCalls sign "pids_ss_cgroup_path" evt.pidsSsCgroupPath, some [outComma],
    some [outInt "exit_code" evt.exitCode],
    some [outObjectEnd], some [outNewline]]

/-- The calls `event_ctx_callback(evt_hdr)` makes. -/
def eventCtxCallbackCalls : EbpfEvent → Option (List (List Char))
  | .processFork evt => outProcessForkCalls sign evt
  | .processExec evt => outProcessExecCalls sign evt
  | .processExit evt => outProcessExitCalls sign evt
  | .processSetsid evt => some (outProcessSetsidCalls evt)
  | .processSetuid evt => some (outProcessSetuidCalls evt)
  | .processSetgid evt => some (outProcessSetgidCalls evt)
  | .processTtyWrite evt => outProcessTtyWriteCalls sign evt
  | .fileDelete evt => outFileDeleteCalls sign evt
  | .fileCreate evt => outFileCreateCalls sign evt
  | .fileRename evt => outFileRenameCalls sign evt
  | .networkConnectionAccepted evt => outNetworkConnectionAcceptedEventCalls sign evt
  | .networkConnectionAttempted evt => outNetworkConnectionAttemptedEventCalls sign evt
  | .networkConnectionClosed evt => outNetworkConnectionClosedEventCalls sign evt

end Printers

/-- The calls of `print_init_msg(features)`: three `printf`s. -/
def printInitMsgCalls (bpfTramp features : BitVec 64) : List (List Char) :=
  ["\x7b\"probes_initialized\": true, \"features\": \x7b".toList,
    "\"bpf_tramp\": ".toList ++ (if features &&& bpfTramp ≠ 0 then "true" else "false").toList,
    "\x7d\x7d\n".toList]

/-! ### Joining the calls gives the printers' text -/

section Flatten

variable (sign : CharSign)

lemma outNetInfoCalls_flatten (name : String) (evt : EbpfNetEvent) :
    (outNetInfoCalls sign name evt).map List.flatten = outNetInfo sign name evt := by
  simp only [outNetInfoCalls, outNetInfo, callSeq_flatten, List.map_cons, List.map_nil]
  cases evt.net.transport <;> cases evt.net.family <;>
    simp [callSeq_flatten, outStringCalls_flatten, outNetAddrsCalls, outNetAddrs,
      apply_ite (Option.map List.flatten)]

@[simp] lemma outNetworkEventCalls_flatten (name : String) (evt : EbpfNetEvent) :
    (outNetworkEventCalls sign name evt).map List.flatten = outNetworkEvent sign name evt := by
  simp [outNetworkEventCalls, outNetworkEvent, callSeq_flatten, outStringCalls_flatten,
    outNetInfoCalls_flatten]

@[simp] lemma outFileEventCalls_flatten (type : String) (evt : EbpfFileEvent) :
    (outFileEventCalls sign type evt).map List.flatten = outFileEvent sign type evt := by
  simp [outFileEventCalls, outFileEvent, callSeq_flatten, outStringCalls_flatten]

@[simp] lemma outFileRenameCalls_flatten (evt : EbpfFileRenameEvent) :
    (outFileRenameCalls sign evt).map List.flatten = outFileRename sign evt := by
  simp [outFileRenameCalls, outFileRename, callSeq_flatten, outStringCalls_flatten]

@[simp] lemma outProcessForkCalls_flatten (evt : EbpfProcessForkEvent) :
    (outProcessForkCalls sign evt).map List.flatten = outProcessFork sign evt := by
  simp [outProcessForkCalls, outProcessFork, callSeq_flatten, outStringCalls_flatten]

@[simp] lemma outProcessExecCalls_flatten (evt : EbpfProcessExecEvent) :
    (outProcessExecCalls sign evt).map List.flatten = outProcessExec sign evt := by
  simp [outProcessExecCalls, outProcessExec, outArgvCalls, outArgv, callSeq_flatten,
    outStringCalls_flatten]

@[simp] lemma outProcessSetidCalls_flatten (type nameR nameE : String) (pids : EbpfPidInfo)
    (newR newE : Nat) :
    (outProcessSetidCalls type nameR nameE pids newR newE).flatten =
      outProcessSetid type nameR nameE pids newR newE := by
  simp [outProcessSetidCalls, outProcessSetid]

@[simp] lemma outProcessTtyWriteCalls_flatten (evt : EbpfProcessTtyWriteEvent) :
    (outProcessTtyWriteCalls sign evt).map List.flatten = outProcessTtyWrite sign evt := by
  simp [outProcessTtyWriteCalls, outProcessTtyWrite, callSeq_flatten, outStringCalls_flatten]

@[simp] lemma outProcessExitCalls_flatten (evt : EbpfProcessExitEvent) :
    (outProcessExitCalls sign evt).map List.flatten = outProcessExit sign evt := by
  simp [outProcessExitCalls, outProcessExit, callSeq_flatten, outStringCalls_flatten]

/-- Joining the calls of the callback gives what it prints, for every record. -/
lemma eventCtxCallbackCalls_flatten (evt : EbpfEvent) :
    (eventCtxCallbackCalls sign evt).map List.flatten = eventCtxCallback sign evt := by
  cases evt <;>
    simp [eventCtxCallbackCalls, eventCtxCallback, outProcessSetsidCalls, outProcessSetsid,
      outProcessSetuidCalls, outProcessSetuid, outProcessSetgidCalls, outProcessSetgid,
      outFileDeleteCalls, outFileDelete, outFileCreateCalls, outFileCreate,
      outNetworkConnectionAcceptedEventCalls, outNetworkConnectionAcceptedEvent,
      outNetworkConnectionAttemptedEventCalls, outNetworkConnectionAttemptedEvent,
      outNetworkConnectionClosedEventCalls, outNetworkConnectionClosedEvent]

lemma printInitMsgCalls_flatten (bpfTramp features : BitVec 64) :
    (printInitMsgCalls bpfTramp features).flatten = printInitMsg bpfTramp features := by
  simp [printInitMsgCalls, printInitMsg]

end Flatten

/-! ### The calls `main` makes to stdout -/

/-- The calls `main` makes to stdout once the event context exists: those of `print_init_msg`
when `--print-features-on-init` was given, then those of `event_ctx_callback` for each record the
polls deliver. -/
def stdoutCalls (sign : CharSign) (g : Globals) (bpfTramp features : BitVec 64)
    (evts : List EbpfEvent) : Option (List (List Char)) :=
  callSeq (some (if g.printFeaturesInit then printInitMsgCalls bpfTramp features else []) ::
    evts.map (eventCtxCallbackCalls sign))

/-- Joined, the calls `main` makes are the text of `stdoutText`. -/
lemma stdoutCalls_flatten (sign : CharSign) (g : Globals) (bpfTramp features : BitVec 64)
    (evts : List EbpfEvent) :
    (stdoutCalls sign g bpfTramp features evts).map List.flatten =
      stdoutText sign g bpfTramp features evts := by
  rw [stdoutCalls, callSeq_flatten, stdoutText, List.map_cons, List.map_map]
  congr 2
  · split <;> simp [printInitMsgCalls_flatten]
  · exact congrArg (evts.map ·) (funext (eventCtxCallbackCalls_flatten sign))

/-- The records of a poll extend the calls by those of the callback. -/
lemma stdoutCalls_append (sign : CharSign) {g : Globals} {bpfTramp features : BitVec 64}
    {recs evts : List EbpfEvent} {a o : List (List Char)}
    (h : stdoutCalls sign g bpfTramp features recs = some a)
    (ho : callSeq (evts.map (eventCtxCallbackCalls sign)) = some o) :
    stdoutCalls sign g bpfTramp features (recs ++ evts) = some (a ++ o) := by
  rw [stdoutCalls, List.map_append, ← List.cons_append, callSeq_append]
  rw [stdoutCalls] at h
  rw [h, ho]
  rfl

end EventsTrace
