import EventsTrace.CString

/-!
# Event records

The records `event_ctx_callback` receives, with the fields its printers read. The declarations
come from `EbpfEvents.h`, which is not among the sources: each numeric field is the value the
printer passes to `printf` (a `long` for `out_int`, an `unsigned long` for `out_uint`), each text
field is the bytes of its fixed-capacity array, and each enumeration keeps the cases the
printers tell apart. A record is one of the thirteen event kinds, tagged by its header.
-/

namespace EventsTrace

/-- `enum ebpf_event_type`: the kinds `event_ctx_callback` dispatches on. Its `switch` needs
thirteen distinct labels. -/
inductive EbpfEventType
  | processFork
  | processExec
  | processExit
  | processSetsid
  | processSetuid
  | processSetgid
  | processTtyWrite
  | fileDelete
  | fileCreate
  | fileRename
  | networkConnectionAccepted
  | networkConnectionAttempted
  | networkConnectionClosed
  deriving DecidableEq, Repr

/-- `struct ebpf_event_header`. -/
structure EbpfEventHeader where
  type : EbpfEventType
  deriving DecidableEq, Repr

/-- `struct ebpf_pid_info`. -/
structure EbpfPidInfo where
  tid : Int
  tgid : Int
  ppid : Int
  pgid : Int
  sid : Int
  startTimeNs : Nat
  deriving DecidableEq, Repr

/-- `struct ebpf_cred_info`. -/
structure EbpfCredInfo where
  ruid : Int
  rgid : Int
  euid : Int
  egid : Int
  suid : Int
  sgid : Int
  deriving DecidableEq, Repr

/-- `struct ebpf_tty_dev`: device numbers, window size and the terminal's local modes. -/
structure EbpfTtyDev where
  major : Int
  minor : Int
  winsizeRows : Int
  winsizeCols : Int
  cLflag : Nat
  deriving DecidableEq, Repr

/-- `ECHO` of `<linux/termios.h>`, a bit of `c_lflag`. -/
def ECHO : Nat := 0o10

/-- `struct ebpf_file_delete_event` and `struct ebpf_file_create_event`, which have the same
fields. -/
structure EbpfFileEvent where
  pids : EbpfPidInfo
  path : List UInt8
  mntns : Int
  comm : List UInt8
  deriving DecidableEq, Repr

/-- `struct ebpf_file_rename_event`. -/
structure EbpfFileRenameEvent where
  pids : EbpfPidInfo
  oldPath : List UInt8
  newPath : List UInt8
  mntns : Int
  comm : List UInt8
  deriving DecidableEq, Repr

/-- `struct ebpf_process_fork_event`. -/
structure EbpfProcessForkEvent where
  parentPids : EbpfPidInfo
  childPids : EbpfPidInfo
  pidsSsCgroupPath : List UInt8
  deriving DecidableEq, Repr

/-- `struct ebpf_process_exec_event`. -/
structure EbpfProcessExecEvent where
  pids : EbpfPidInfo
  creds : EbpfCredInfo
  ctty : EbpfTtyDev
  filename : List UInt8
  cwd : List UInt8
  pidsSsCgroupPath : List UInt8
  argv : List UInt8
  deriving DecidableEq, Repr

/-- `struct ebpf_process_setsid_event`. -/
structure EbpfProcessSetsidEvent where
  pids : EbpfPidInfo
  deriving DecidableEq, Repr

/-- `struct ebpf_process_setuid_event`. -/
structure EbpfProcessSetuidEvent where
  pids : EbpfPidInfo
  newRuid : Nat
  newEuid : Nat
  deriving DecidableEq, Repr

/-- `struct ebpf_process_setgid_event`. -/
structure EbpfProcessSetgidEvent where
  pids : EbpfPidInfo
  newRgid : Nat
  newEgid : Nat
  deriving DecidableEq, Repr

/-- `struct ebpf_process_tty_write_event`. -/
structure EbpfProcessTtyWriteEvent where
  pids : EbpfPidInfo
  ttyOutLen : Nat
  ttyOutTruncated : Nat
  tty : EbpfTtyDev
  ttyOut : List UInt8
  comm : List UInt8
  deriving DecidableEq, Repr

/-- `struct ebpf_process_exit_event`. -/
structure EbpfProcessExitEvent where
  pids : EbpfPidInfo
  pidsSsCgroupPath : List UInt8
  exitCode : Int
  deriving DecidableEq, Repr

/-- The `transport` field of `struct ebpf_net_info`, as `out_net_info`'s `switch` sees it:
`EBPF_NETWORK_EVENT_TRANSPORT_TCP`, or any other value the field holds. -/
inductive EbpfNetTransport
  | tcp
  | other
  deriving DecidableEq, Repr

/-- The `family` field of `struct ebpf_net_info`: `EBPF_NETWORK_EVENT_AF_INET`,
`EBPF_NETWORK_EVENT_AF_INET6`, or any other value the field holds. -/
inductive EbpfNetFamily
  | afInet
  | afInet6
  | other
  deriving DecidableEq, Repr

/-- `struct ebpf_net_info`; the addresses are in network byte order. -/
structure EbpfNetInfo where
  transport : EbpfNetTransport
  family : EbpfNetFamily
  saddr : List UInt8
  saddr6 : List UInt8
  daddr : List UInt8
  daddr6 : List UInt8
  sport : Int
  dport : Int
  netns : Int
  bytesSent : Nat
  bytesReceived : Nat
  deriving DecidableEq, Repr

/-- `struct ebpf_net_event`. Its header is read again by `out_net_info`. -/
structure EbpfNetEvent where
  hdr : EbpfEventHeader
  pids : EbpfPidInfo
  net : EbpfNetInfo
  comm : List UInt8
  deriving DecidableEq, Repr

/-- A record handed to `event_ctx_callback`, one case per kind its header can name. -/
inductive EbpfEvent
  | processFork (evt : EbpfProcessForkEvent)
  | processExec (evt : EbpfProcessExecEvent)
  | processExit (evt : EbpfProcessExitEvent)
  | processSetsid (evt : EbpfProcessSetsidEvent)
  | processSetuid (evt : EbpfProcessSetuidEvent)
  | processSetgid (evt : EbpfProcessSetgidEvent)
  | processTtyWrite (evt : EbpfProcessTtyWriteEvent)
  | fileDelete (evt : EbpfFileEvent)
  | fileCreate (evt : EbpfFileEvent)
  | fileRename (evt : EbpfFileRenameEvent)
  | networkConnectionAccepted (evt : EbpfNetEvent)
  | networkConnectionAttempted (evt : EbpfNetEvent)
  | networkConnectionClosed (evt : EbpfNetEvent)
  deriving DecidableEq, Repr

/-- The kind `event_ctx_callback` dispatches on. -/
def EbpfEvent.type : EbpfEvent → EbpfEventType
  | .processFork _ => .processFork
  | .processExec _ => .processExec
  | .processExit _ => .processExit
  | .processSetsid _ => .processSetsid
  | .processSetuid _ => .processSetuid
  | .processSetgid _ => .processSetgid
  | .processTtyWrite _ => .processTtyWrite
  | .fileDelete _ => .fileDelete
  | .fileCreate _ => .fileCreate
  | .fileRename _ => .fileRename
  | .networkConnectionAccepted _ => .networkConnectionAccepted
  | .networkConnectionAttempted _ => .networkConnectionAttempted
  | .networkConnectionClosed _ => .networkConnectionClosed

/-- The network record of a network event. -/
def EbpfEvent.netEvent? : EbpfEvent → Option EbpfNetEvent
  | .networkConnectionAccepted e | .networkConnectionAttempted e
  | .networkConnectionClosed e => some e
  | _ => none

/-- The arrays a record's printer hands to `out_string` as they are. -/
def EbpfEvent.cStrings : EbpfEvent → List (List UInt8)
  | .processFork e => [e.pidsSsCgroupPath]
  | .processExec e => [e.filename, e.cwd, e.pidsSsCgroupPath]
  | .processExit e => [e.pidsSsCgroupPath]
  | .processSetsid _ | .processSetuid _ | .processSetgid _ => []
  | .processTtyWrite e => [e.ttyOut, e.comm]
  | .fileDelete e | .fileCreate e => [e.path, e.comm]
  | .fileRename e => [e.oldPath, e.newPath, e.comm]
  | .networkConnectionAccepted e | .networkConnectionAttempted e
  | .networkConnectionClosed e => [e.comm]

/-- The text fields of a record: every array `event_ctx_callback`'s printers read as a C
string or, for `argv`, as an argument vector. -/
def EbpfEvent.textFields : EbpfEvent → List (List UInt8)
  | .processFork e => [e.pidsSsCgroupPath]
  | .processExec e => [e.filename, e.cwd, e.pidsSsCgroupPath, e.argv]
  | .processExit e => [e.pidsSsCgroupPath]
  | .processSetsid _ | .processSetuid _ | .processSetgid _ => []
  | .processTtyWrite e => [e.ttyOut, e.comm]
  | .fileDelete e | .fileCreate e => [e.path, e.comm]
  | .fileRename e => [e.oldPath, e.newPath, e.comm]
  | .networkConnectionAccepted e | .networkConnectionAttempted e
  | .networkConnectionClosed e => [e.comm]

end EventsTrace
