import EventsTrace.Events

/-!
# Options and the main loop

`argp_parse` calls `parse_arg` once per key it reads, and `parse_arg` records each option in a
global: a flag, or bits of the event mask `g_events_env` that `main` hands to the library. This
module models `parse_arg` on those globals, the calls `argp_parse` makes of it, and `main` from
the registration of its SIGINT handler to the status it returns.

The values of the `EBPF_EVENT_*` constants `cmdline_to_lib` holds come from `EbpfEvents.h`, which
is not among the sources: they are the parameter `lib`. A terminating run of `main`'s loop is
described by the results of the polls it makes before it stops, on a fatal error or because
SIGINT has set `exiting`; where the signal arrives decides only where that list ends.
-/

namespace EventsTrace

/-! ### `parse_arg` -/

/-- The thirteen event kinds, in the order of `enum cmdline_opts`. -/
def EbpfEventType.all : List EbpfEventType :=
  [.fileDelete, .fileCreate, .fileRename, .processFork, .processExec, .processExit,
    .processSetsid, .processSetuid, .processSetgid, .processTtyWrite,
    .networkConnectionAttempted, .networkConnectionAccepted, .networkConnectionClosed]

lemma EbpfEventType.mem_all (t : EbpfEventType) : t ∈ EbpfEventType.all := by
  cases t <;> decide

/-- `enum cmdline_opts`: the key of each event option, from `0x80` on. -/
def cmdlineOpt : EbpfEventType → Int
  | .fileDelete => 0x80
  | .fileCreate => 0x81
  | .fileRename => 0x82
  | .processFork => 0x83
  | .processExec => 0x84
  | .processExit => 0x85
  | .processSetsid => 0x86
  | .processSetuid => 0x87
  | .processSetgid => 0x88
  | .processTtyWrite => 0x89
  | .networkConnectionAttempted => 0x8a
  | .networkConnectionAccepted => 0x8b
  | .networkConnectionClosed => 0x8c

/-- The event option a key names, if any. -/
def eventOfKey? (key : Int) : Option EbpfEventType :=
  EbpfEventType.all.find? (cmdlineOpt · = key)

lemma eventOfKey?_cmdlineOpt (t : EbpfEventType) : eventOfKey? (cmdlineOpt t) = some t := by
  cases t <;> rfl

lemma cmdlineOpt_injective : Function.Injective cmdlineOpt := fun a b h =>
  Option.some_injective _ (by rw [← eventOfKey?_cmdlineOpt a, ← eventOfKey?_cmdlineOpt b, h])

lemma eventOfKey?_eq_none {key : Int} (h : eventOfKey? key = none) (t : EbpfEventType) :
    cmdlineOpt t ≠ key := by
  have := List.find?_eq_none.1 h t (EbpfEventType.mem_all t)
  simpa using this

lemma eq_cmdlineOpt_of_eventOfKey? {key : Int} {t : EbpfEventType} (h : eventOfKey? key = some t) :
    key = cmdlineOpt t :=
  (by simpa using List.find?_some h : cmdlineOpt t = key).symm

/-- `cmdline_to_lib[key]`: the library's constant for an event option's key. The other entries
of the array are zero and never read. -/
def cmdlineToLib (lib : EbpfEventType → BitVec 64) (key : Int) : BitVec 64 :=
  match eventOfKey? key with
  | some t => lib t
  | none => 0

/-- The globals `parse_arg` writes: `g_events_env`, `g_print_features_init`, `g_unbuffer_stdout`
and `g_libbpf_verbose`. -/
structure Globals where
  eventsEnv : BitVec 64
  printFeaturesInit : Bool
  unbufferStdout : Bool
  libbpfVerbose : Bool
  deriving DecidableEq, Repr

/-- The globals' initial values. -/
def Globals.init : Globals := ⟨0, false, false, false⟩

/-- `ARGP_KEY_ARG` of `<argp.h>`: the key of an argument that is not an option. -/
def ARGP_KEY_ARG : Int := 0

/-- `ARGP_ERR_UNKNOWN` of `<argp.h>`, which glibc defines as `E2BIG`. -/
def ARGP_ERR_UNKNOWN : Int := 7

/-- What a call of `parse_arg` does: return a value, leaving the globals as given, or call
`argp_usage`, which exits. -/
inductive ParseArgOutcome
  | ret (err : Int) (g : Globals)
  | usageExit
  deriving DecidableEq, Repr

/-- `parse_arg(key, arg, state)` on the globals `g`. -/
def parseArg (lib : EbpfEventType → BitVec 64) (key : Int) (g : Globals) : ParseArgOutcome :=
  if key = 'i'.toNat then .ret 0 { g with printFeaturesInit := true }
  else if key = 'u'.toNat then .ret 0 { g with unbufferStdout := true }
  else if key = 'v'.toNat then .ret 0 { g with libbpfVerbose := true }
  else if key = 'a'.toNat then .ret 0 { g with eventsEnv := BitVec.allOnes 64 }
  else if (eventOfKey? key).isSome then
    .ret 0 { g with eventsEnv := g.eventsEnv ||| cmdlineToLib lib key }
  else if key = ARGP_KEY_ARG then .usageExit
  else .ret ARGP_ERR_UNKNOWN g

/-- What one call of `parse_arg` does, with the test of its `switch` that chose it. -/
lemma parseArg_cases (lib : EbpfEventType → BitVec 64) (key : Int) (g : Globals) :
    (key = 'i'.toNat ∧ parseArg lib key g = .ret 0 { g with printFeaturesInit := true }) ∨
    (key = 'u'.toNat ∧ parseArg lib key g = .ret 0 { g with unbufferStdout := true }) ∨
    (key = 'v'.toNat ∧ parseArg lib key g = .ret 0 { g with libbpfVerbose := true }) ∨
    (key = 'a'.toNat ∧ parseArg lib key g = .ret 0 { g with eventsEnv := BitVec.allOnes 64 }) ∨
    (∃ t, key = cmdlineOpt t ∧
      parseArg lib key g = .ret 0 { g with eventsEnv := g.eventsEnv ||| lib t }) ∨
    (key = ARGP_KEY_ARG ∧ parseArg lib key g = .usageExit) ∨
    (key ≠ 'i'.toNat ∧ key ≠ 'u'.toNat ∧ key ≠ 'v'.toNat ∧ key ≠ 'a'.toNat ∧
      eventOfKey? key = none ∧ key ≠ ARGP_KEY_ARG ∧ parseArg lib key g = .ret ARGP_ERR_UNKNOWN g) := by
  unfold parseArg
  by_cases hi : key = 'i'.toNat
  · exact .inl ⟨hi, if_pos hi⟩
  rw [if_neg hi]
  by_cases hu : key = 'u'.toNat
  · exact .inr (.inl ⟨hu, if_pos hu⟩)
  rw [if_neg hu]
  by_cases hv : key = 'v'.toNat
  · exact .inr (.inr (.inl ⟨hv, if_pos hv⟩))
  rw [if_neg hv]
  by_cases ha : key = 'a'.toNat
  · exact .inr (.inr (.inr (.inl ⟨ha, if_pos ha⟩)))
  rw [if_neg ha]
  refine .inr (.inr (.inr (.inr ?_)))
  by_cases he : (eventOfKey? key).isSome
  · obtain ⟨t, ht⟩ := Option.isSome_iff_exists.1 he
    exact .inl ⟨t, eq_cmdlineOpt_of_eventOfKey? ht, by rw [if_pos he, cmdlineToLib, ht]⟩
  rw [if_neg he]
  by_cases harg : key = ARGP_KEY_ARG
  · exact .inr (.inl ⟨harg, if_pos harg⟩)
  · exact .inr (.inr ⟨hi, hu, hv, ha, by simpa using he, harg, if_neg harg⟩)

/-- A key `parse_arg` answers with `ARGP_ERR_UNKNOWN` leaves the globals as they were. -/
lemma parseArg_unknown {lib : EbpfEventType → BitVec 64} {key : Int} {g g' : Globals}
    (h : parseArg lib key g = .ret ARGP_ERR_UNKNOWN g') : g' = g := by
  rcases parseArg_cases lib key g with ⟨-, hp⟩ | ⟨-, hp⟩ | ⟨-, hp⟩ | ⟨-, hp⟩ | ⟨_, -, hp⟩ |
    ⟨-, hp⟩ | ⟨-, -, -, -, -, -, hp⟩ <;> rw [hp] at h <;> cases h
  rfl

/-- `argp_parse` calling `parse_arg` with each key in turn: the globals at the end, `none` once
`argp_usage` has exited. -/
def parseKeys (lib : EbpfEventType → BitVec 64) : List Int → Globals → Option Globals
  | [], g => some g
  | key :: keys, g =>
    match parseArg lib key g with
    | .ret _ g' => parseKeys lib keys g'
    | .usageExit => none

/-! ### What a set of keys determines -/

section Keys

variable (lib : EbpfEventType → BitVec 64)

/-- The OR of `cmdline_to_lib` over the event options among `keys`, each taken once. -/
def eventsOf (keys : List Int) : BitVec 64 :=
  EbpfEventType.all.foldr (fun t acc => if cmdlineOpt t ∈ keys then lib t ||| acc else acc) 0

/-- The globals after the keys `keys` from `g`, as a function of the set of keys. -/
def keysFrom (keys : List Int) (g : Globals) : Option Globals :=
  if ARGP_KEY_ARG ∈ keys then none
  else some
    { eventsEnv :=
        if ('a'.toNat : Int) ∈ keys then BitVec.allOnes 64 else g.eventsEnv ||| eventsOf lib keys
      printFeaturesInit := g.printFeaturesInit || decide (('i'.toNat : Int) ∈ keys)
      unbufferStdout := g.unbufferStdout || decide (('u'.toNat : Int) ∈ keys)
      libbpfVerbose := g.libbpfVerbose || decide (('v'.toNat : Int) ∈ keys) }

/-- What the options promise: with a non-option argument, the usage message and exit; otherwise
every event with `--all`, else the OR of the options' constants, and each flag set by its
option. -/
def keysGlobals (keys : List Int) : Option Globals :=
  if ARGP_KEY_ARG ∈ keys then none
  else some
    { eventsEnv := if ('a'.toNat : Int) ∈ keys then BitVec.allOnes 64 else eventsOf lib keys
      printFeaturesInit := decide (('i'.toNat : Int) ∈ keys)
      unbufferStdout := decide (('u'.toNat : Int) ∈ keys)
      libbpfVerbose := decide (('v'.toNat : Int) ∈ keys) }

lemma keysFrom_init (keys : List Int) : keysFrom lib keys Globals.init = keysGlobals lib keys := by
  simp [keysFrom, keysGlobals, Globals.init]

/-- Adding one condition to the fold of `eventsOf` ORs in that kind's constant once. -/
lemma foldr_or_insert (t : EbpfEventType) (p : EbpfEventType → Prop) [DecidablePred p] :
    ∀ l : List EbpfEventType,
      l.foldr (fun t' acc => if t' = t ∨ p t' then lib t' ||| acc else acc) 0 =
        (if t ∈ l then lib t else 0) ||| l.foldr (fun t' acc => if p t' then lib t' ||| acc else acc) 0
  | [] => by simp
  | t' :: l => by
    have ih := foldr_or_insert t p l
    simp only [List.foldr_cons, ih, List.mem_cons]
    by_cases h : t' = t
    · subst h
      by_cases hp : p t' <;> by_cases hm : t' ∈ l <;>
        simp [hp, hm, ← BitVec.or_assoc, BitVec.or_self]
    · by_cases hp : p t'
      · simp only [h, hp, Ne.symm h, or_true, if_true, false_or]
        ac_rfl
      · simp [h, hp, Ne.symm h]

lemma eventsOf_cons_event (t : EbpfEventType) (keys : List Int) :
    eventsOf lib (cmdlineOpt t :: keys) = lib t ||| eventsOf lib keys := by
  have h := foldr_or_insert lib t (fun t' => cmdlineOpt t' ∈ keys) EbpfEventType.all
  simp only [EbpfEventType.mem_all, if_true] at h
  simpa [eventsOf, List.mem_cons, cmdlineOpt_injective.eq_iff] using h

lemma eventsOf_cons_of_none {key : Int} (h : eventOfKey? key = none) (keys : List Int) :
    eventsOf lib (key :: keys) = eventsOf lib keys := by
  simp [eventsOf, List.mem_cons, eventOfKey?_eq_none h]

/-- One call of `parse_arg`, seen on the set of keys: it adds its key. -/
lemma keysFrom_cons {key : Int} {g g' : Globals} {err : Int} (keys : List Int)
    (h : parseArg lib key g = .ret err g') : keysFrom lib (key :: keys) g = keysFrom lib keys g' := by
  rcases parseArg_cases lib key g with ⟨rfl, hp⟩ | ⟨rfl, hp⟩ | ⟨rfl, hp⟩ | ⟨rfl, hp⟩ |
    ⟨t, rfl, hp⟩ | ⟨-, hp⟩ | ⟨hi, hu, hv, ha, hnone, harg, hp⟩ <;> rw [hp] at h <;> cases h
  · simp [keysFrom, ARGP_KEY_ARG, eventsOf_cons_of_none lib (show eventOfKey? 105 = none by rfl)]
  · simp [keysFrom, ARGP_KEY_ARG, eventsOf_cons_of_none lib (show eventOfKey? 117 = none by rfl)]
  · simp [keysFrom, ARGP_KEY_ARG, eventsOf_cons_of_none lib (show eventOfKey? 118 = none by rfl)]
  · simp [-BitVec.reduceAllOnes, keysFrom, ARGP_KEY_ARG, BitVec.allOnes_or]
  · have hne : cmdlineOpt t ≠ 0 ∧ cmdlineOpt t ≠ 97 ∧ cmdlineOpt t ≠ 105 ∧ cmdlineOpt t ≠ 117 ∧
        cmdlineOpt t ≠ 118 := by
      cases t <;> decide
    simp [keysFrom, ARGP_KEY_ARG, eventsOf_cons_event, BitVec.or_assoc, Ne.symm hne.1,
      Ne.symm hne.2.1, Ne.symm hne.2.2.1, Ne.symm hne.2.2.2.1, Ne.symm hne.2.2.2.2]
  · simp only [Char.reduceToNat] at hi hu hv ha
    have h105 : (105 : Int) ≠ key := by omega
    have h117 : (117 : Int) ≠ key := by omega
    have h118 : (118 : Int) ≠ key := by omega
    have h97 : (97 : Int) ≠ key := by omega
    simp [keysFrom, eventsOf_cons_of_none lib hnone, h105, h117, h118, h97, Ne.symm harg]

lemma keysFrom_cons_usage {key : Int} {g : Globals} (keys : List Int)
    (h : parseArg lib key g = .usageExit) : keysFrom lib (key :: keys) g = none := by
  -- only the branch for a non-option argument calls `argp_usage`
  have harg : key = ARGP_KEY_ARG := by
    rcases parseArg_cases lib key g with ⟨-, hp⟩ | ⟨-, hp⟩ | ⟨-, hp⟩ | ⟨-, hp⟩ | ⟨_, -, hp⟩ |
      ⟨harg, -⟩ | ⟨-, -, -, -, -, -, hp⟩ <;> first | exact harg | (rw [hp] at h; cases h)
  simp [keysFrom, harg]

/-- The calls of `parse_arg` leave the globals that the set of keys determines. -/
lemma parseKeys_eq_keysFrom : ∀ (keys : List Int) (g : Globals),
    parseKeys lib keys g = keysFrom lib keys g
  | [], g => by simp [parseKeys, keysFrom, eventsOf]
  | key :: keys, g => by
    rw [parseKeys]
    split
    · next err g' h => rw [keysFrom_cons lib keys h, parseKeys_eq_keysFrom keys g']
    · next h => rw [keysFrom_cons_usage lib keys h]

end Keys

/-- From the initial globals, the keys `argp_parse` feeds `parse_arg` leave globals that depend
only on which keys occur: with a non-option argument `argp_usage` exits; otherwise
`g_events_env` is all ones when `--all` occurs and the OR of `cmdline_to_lib` over the event
options that occur otherwise, each flag is set exactly when its option occurs, and a key
answered with `ARGP_ERR_UNKNOWN` changes nothing. -/
theorem parseKeys_init (lib : EbpfEventType → BitVec 64) (keys : List Int) :
    parseKeys lib keys Globals.init = keysGlobals lib keys ∧
      (∀ keys' : List Int, (∀ k, k ∈ keys' ↔ k ∈ keys) →
        parseKeys lib keys' Globals.init = parseKeys lib keys Globals.init) ∧
      (∀ key g g', parseArg lib key g = .ret ARGP_ERR_UNKNOWN g' → g' = g) := by
  have hinit : ∀ keys, parseKeys lib keys Globals.init = keysGlobals lib keys := fun keys => by
    rw [parseKeys_eq_keysFrom, keysFrom_init]
  refine ⟨hinit keys, fun keys' h => ?_, fun _ _ _ => parseArg_unknown⟩
  have hev : eventsOf lib keys' = eventsOf lib keys := by simp [eventsOf, h]
  simp [hinit, keysGlobals, h, hev]

example : parseKeys (fun t => BitVec.ofNat 64 (2 ^ (cmdlineOpt t - 0x80).toNat))
    [0x8c, 'u'.toNat, 0x80, 0x8c] Globals.init = some ⟨0x1001, false, true, false⟩ := by decide

/-! ### `sig_int` and `main` -/

/-- `EINTR` of `<errno.h>` on Linux. -/
def EINTR : Int := 4

/-- `sig_int(signo)` on the flag `exiting`: it sets the flag, and prints its message the first
time. -/
def sigInt (exiting : Bool) : Bool × List Char :=
  if exiting then (exiting, []) else (true, "Received SIGINT, exiting...\n".toList)

/-- A poll result that ends the loop: negative and not `-EINTR`. -/
def pollFatal (r : Int) : Bool := r < 0 && r != -EINTR

/-- The `while (!exiting)` loop over the results of the polls it makes before it stops: the
value it leaves in `err`. -/
def eventLoop (err : Int) : List Int → Int
  | [] => err
  | r :: rs => if pollFatal r then r else eventLoop r rs

/-- The outcomes of the calls `main` makes, and the globals `argp_parse` has left. -/
structure MainEnv where
  /-- `signal(SIGINT, sig_int) == SIG_ERR`. -/
  signalFails : Bool
  argpParse : Int
  globals : Globals
  setvbuf : Int
  ctxNew : Int
  /-- The results of `ebpf_event_ctx__next`, up to the point the loop stops. -/
  polls : List Int
  deriving DecidableEq, Repr

/-- The value `err` holds when `main` reaches `out`. A failed `signal` jumps there with `err`
still `0`, and the loop leaves in `err` the result of its last poll. -/
def mainErr (env : MainEnv) : Int :=
  if env.signalFails then 0
  else if env.argpParse ≠ 0 then env.argpParse
  else if env.globals.unbufferStdout ∧ env.setvbuf < 0 then env.setvbuf
  else if env.ctxNew < 0 then env.ctxNew
  else eventLoop env.ctxNew env.polls

/-- `main`: the status it returns, `err != 0`. -/
def main (env : MainEnv) : Int := if mainErr env ≠ 0 then 1 else 0

/-- The loop stops at the first fatal poll, and otherwise leaves the last poll's result. -/
lemma eventLoop_eq (err : Int) (rs : List Int) :
    eventLoop err rs = ((rs.find? pollFatal).getD (rs.getLastD err)) := by
  induction rs generalizing err with
  | nil => rfl
  | cons r rs ih =>
    by_cases h : pollFatal r
    · simp [eventLoop, h]
    · rw [eventLoop, if_neg h, ih, List.find?_cons_of_neg _ h, List.getLastD_cons]

/-- When `err` is not `0` at `out`. -/
lemma mainErr_ne_zero_iff (env : MainEnv) :
    mainErr env ≠ 0 ↔ env.signalFails = false ∧
      (env.argpParse ≠ 0 ∨ (env.globals.unbufferStdout ∧ env.setvbuf < 0) ∨ env.ctxNew < 0 ∨
        (env.polls.find? pollFatal).isSome ∨ env.polls.getLastD env.ctxNew ≠ 0) := by
  unfold mainErr
  rw [eventLoop_eq]
  split_ifs with h1 h2 h3 h4
  · simp [h1]
  · simp [Bool.not_eq_true _ ▸ h1, h2]
  · simp [Bool.not_eq_true _ ▸ h1, h3.1, h3.2, Int.ne_of_lt h3.2]
  · simp [Bool.not_eq_true _ ▸ h1, h4, Int.ne_of_lt h4]
  · rw [Bool.not_eq_true] at h1
    cases hf : env.polls.find? pollFatal with
    | none =>
      simp only [Option.getD_none, Option.isSome_none, Bool.false_eq_true, false_or, h1, true_and]
      tauto
    | some r =>
      have hr : r ≠ 0 := by
        have := List.find?_some hf
        simp only [pollFatal, Bool.and_eq_true, decide_eq_true_eq] at this
        omega
      simp [h1, hr]

/-- The status `main` returns: `0` when registering the handler fails; otherwise `1` when
`argp_parse`, unbuffering or creating the context fails, when a poll fails fatally, or when the
loop stops on SIGINT after a poll whose result is not `0`, one that consumed events or was
interrupted. -/
theorem main_status (env : MainEnv) :
    main env =
      if env.signalFails = false ∧
          (env.argpParse ≠ 0 ∨ (env.globals.unbufferStdout ∧ env.setvbuf < 0) ∨ env.ctxNew < 0 ∨
            (env.polls.find? pollFatal).isSome ∨ env.polls.getLastD env.ctxNew ≠ 0)
      then 1 else 0 := by
  simp only [main, mainErr_ne_zero_iff]

example : main ⟨true, 0, Globals.init, 0, 0, []⟩ = 0 ∧
    main ⟨false, 0, Globals.init, 0, 0, [0, 3]⟩ = 1 ∧
    main ⟨false, 0, Globals.init, 0, 0, [0, -4]⟩ = 1 := by
  decide

end EventsTrace
