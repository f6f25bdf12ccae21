import EventsTrace.Calls

/-!
# A run of `main`, step by step

`Main` describes `main` by the results of the calls it makes. This module runs it one step at a
time: each call returns what the environment gives, each poll hands the callback the records
the environment gives, `main` makes its `printf` calls one at a time (`Calls`), and SIGINT may
arrive between any two steps or inside a call. A run is the list of these inputs, and `mainRun`
what they do to the state of the process. `MainTransition` lists what one step can do, with the
tests that choose it; every invariant below is proved from that list, not from `mainStep` itself.

`sig_int` writes with `fprintf(stdout, ...)`. POSIX defines that call when the signal interrupts
no function that is not async-signal-safe: between two of `main`'s calls, or while a poll waits
in the kernel. Inside one of `main`'s `printf`s, inside `argp_parse`, `setvbuf` or
`ebpf_event_ctx__new`, inside the `fprintf` to stderr that reports a failure, or while the
process exits and flushes stdout, it is undefined. There the model sets `exiting`, as the handler
does before it writes, and leaves stdout undefined (`none`) from then on. Each call of the library
is one step whose result the run gives. What the library writes itself (argp's usage, error and
`--help` text, libbpf's log under `--libbpf-verbose`) is not modelled: the streams hold the text
of `main`'s and the handler's own `printf` and `fprintf` calls.

Two things are kept beside the program's state. `MainEnv.ofRun` collects from a run the
results `main`'s functional model reads, and `MainState.mainCalls` records the calls `main`
made to stdout itself, as opposed to the handler. Over every run:

* once `main` returns, its status and its stderr are those of the functional model of the
  results the run gave;
* stdout is undefined exactly when the first SIGINT landed inside a call that is not
  async-signal-safe; where it is defined, it is what `main` wrote, with the handler's message
  between two of its calls exactly when `exiting` is set;
* `main` writes nothing before the event context exists, then the init message and the lines of
  the records the polls delivered, all of it written once `main` returns;
* once `exiting` is set, `main` starts no new poll, and returns after at most two tests and
  the calls it has yet to make.

Conversely, whatever results the calls return, a run takes them and returns with the status and
the stderr text of the functional model, so the first result is not about runs that never end.
-/

namespace EventsTrace

/-! ### The messages on stderr -/

/-- `fprintf(stderr, "Failed to register SIGINT handler\n")`. -/
def registerFailedMsg : List Char := "Failed to register SIGINT handler\n".toList

/-- `fprintf(stderr, "Could not turn off stdout buffering: %d %s\n", err, strerror(err))`; the
text `strerror` gives is the C library's, the parameter `strerror`. -/
def setvbufFailedMsg (strerror : Int → List Char) (err : Int) : List Char :=
  "Could not turn off stdout buffering: ".toList ++ printfLd err ++ ' ' :: strerror err ++ ['\n']

/-- `fprintf(stderr, "Could not create event context: %d %s\n", err, strerror(-err))`. -/
def ctxNewFailedMsg (strerror : Int → List Char) (err : Int) : List Char :=
  "Could not create event context: ".toList ++ printfLd err ++ ' ' :: strerror (-err) ++ ['\n']

/-- `fprintf(stderr, "Failed to poll event context %d: %s\n", err, strerror(-err))`. -/
def pollFailedMsg (strerror : Int → List Char) (err : Int) : List Char :=
  "Failed to poll event context ".toList ++ printfLd err ++ ':' :: ' ' :: strerror (-err) ++
    ['\n']

/-- What `main` writes to stderr, from the results of its calls: the message of the call that
failed, and nothing when `argp_parse` fails (it reports its own errors) or the loop ends on
SIGINT. -/
def mainStderr (strerror : Int → List Char) (env : MainEnv) : List Char :=
  if env.signalFails then registerFailedMsg
  else if env.argpParse ≠ 0 then []
  else if env.globals.unbufferStdout ∧ env.setvbuf < 0 then setvbufFailedMsg strerror env.setvbuf
  else if env.ctxNew < 0 then ctxNewFailedMsg strerror env.ctxNew
  else match env.polls.find? pollFatal with
    | some r => pollFailedMsg strerror r
    | none => []

/-! ### The process -/

/-- Where `main` is: at one of the calls it makes, at a test, or returned. -/
inductive MainPc
  /-- `signal(SIGINT, sig_int)`. -/
  | signal
  | argpParse
  /-- `setvbuf`, reached only when `--unbuffer-stdout` was given. -/
  | setvbuf
  /-- `ebpf_event_ctx__new`, then `print_init_msg` when `--print-features-on-init` was given. -/
  | ctxNew
  /-- The test of `while (!exiting)`. -/
  | loop
  /-- `ebpf_event_ctx__next(ctx, 10)`. -/
  | poll
  /-- The test of the poll's result. -/
  | polled
  /-- `out:`: `main` returns `err != 0` and the process exits. -/
  | out
  /-- Ended by SIGINT before the handler was registered: the signal's default action. -/
  | killed
  deriving DecidableEq, Repr

/-- What happens next in a run: a call returns, SIGINT arrives, or `main` takes a step of its
own, a `printf` call or a test. -/
inductive MainInput
  | signal (ok : Bool)
  /-- `argp_parse` returns `err`, having left the globals `g`. -/
  | argpParse (err : Int) (g : Globals)
  | setvbuf (err : Int)
  /-- `ebpf_event_ctx__new` returns `err`; `features` is what `ebpf_event_ctx__get_features`
  reports for the context. -/
  | ctxNew (err : Int) (features : BitVec 64)
  /-- The poll hands the callback the records `evts`, then returns `err`. -/
  | poll (evts : List EbpfEvent) (err : Int)
  /-- SIGINT between two of `main`'s calls, or while a poll waits. -/
  | sigint
  /-- SIGINT inside a call of `main` that is not async-signal-safe. -/
  | sigintInCall
  | step
  deriving DecidableEq, Repr

/-- The state of the process: `main`'s position and variables, `exiting`, and what `main` and the
handler have written to stdout and stderr. -/
structure MainState where
  pc : MainPc
  globals : Globals
  exiting : Bool
  err : Int
  /-- `ctx` once created, given by the features the library reports for it. -/
  ctx : Option (BitVec 64)
  /-- The `printf` calls `main` has yet to make in the function it is in: `print_init_msg`, or
  the callback for a poll's records. -/
  pending : List (List Char)
  /-- `none` once the handler has written inside a call that is not async-signal-safe. -/
  stdout : Option (List Char)
  stderr : List Char
  /-- The calls to stdout `main` made, as opposed to `sig_int`: a record of the run kept for its
  invariants, not program state. -/
  mainCalls : List (List Char)
  deriving DecidableEq, Repr

/-- The process before `main` runs. -/
def MainState.init : MainState := ⟨.signal, Globals.init, false, 0, none, [], some [], [], []⟩

/-- `main` is inside a call that is not async-signal-safe: one of its `printf`s; `argp_parse`;
`setvbuf` or `ebpf_event_ctx__new`, with the `fprintf` that reports its failure; the `fprintf`
that reports a poll's failure, with `ebpf_event_ctx__destroy`; or the exit of the process. -/
def MainState.InUnsafeCall (s : MainState) : Prop :=
  s.pending ≠ [] ∨ s.pc = .argpParse ∨ s.pc = .setvbuf ∨ s.pc = .ctxNew ∨
    (s.pc = .polled ∧ pollFatal s.err) ∨ s.pc = .out

instance (s : MainState) : Decidable s.InUnsafeCall := by
  dsimp only [MainState.InUnsafeCall]
  infer_instance

variable (sign : CharSign) (bpfTramp : BitVec 64) (strerror : Int → List Char)

/-- One step of the process. `none` when the input cannot happen there: a call `main` is not
making, a step of `main` while it waits in a call, SIGINT inside a call where `main` is in none,
anything once the signal has killed the process, or a poll delivering a record whose printer
would read past one of its arrays. -/
def mainStep (s : MainState) : MainInput → Option MainState
  | .signal ok =>
    if s.pc ≠ .signal then none
    else if ok then some { s with pc := .argpParse }
    else some { s with pc := .out, stderr := s.stderr ++ registerFailedMsg }
  | .argpParse err g =>
    if s.pc ≠ .argpParse then none
    else some { s with
      globals := g, err := err,
      pc := if err ≠ 0 then .out else if g.unbufferStdout then .setvbuf else .ctxNew }
  | .setvbuf err =>
    if s.pc ≠ .setvbuf then none
    else if err < 0 then
      some { s with err := err, pc := .out, stderr := s.stderr ++ setvbufFailedMsg strerror err }
    else some { s with err := err, pc := .ctxNew }
  | .ctxNew err features =>
    if s.pc ≠ .ctxNew then none
    else if err < 0 then
      some { s with err := err, pc := .out, stderr := s.stderr ++ ctxNewFailedMsg strerror err }
    else some { s with
      err := err, ctx := some features, pc := .loop,
      pending := if s.globals.printFeaturesInit then printInitMsgCalls bpfTramp features else [] }
  | .poll evts err =>
    if s.pc ≠ .poll then none
    else (callSeq (evts.map (eventCtxCallbackCalls sign))).map fun o =>
      { s with err := err, pending := o, pc := .polled }
  | .sigint =>
    if s.pc = .signal then some { s with pc := .killed }
    else if s.pc = .killed then none
    else some { s with
      exiting := (sigInt s.exiting).1, stdout := s.stdout.map (· ++ (sigInt s.exiting).2) }
  | .sigintInCall =>
    if ¬s.InUnsafeCall then none
    -- `if (exiting) return;`, else the flag is set and the `fprintf` is undefined
    else if s.exiting then some s
    else some { s with exiting := true, stdout := none }
  | .step =>
    match s.pending with
    | p :: ps =>
      some { s with pending := ps, stdout := s.stdout.map (· ++ p), mainCalls := s.mainCalls ++ [p] }
    | [] =>
      if s.pc = .loop then some { s with pc := if s.exiting then .out else .poll }
      else if s.pc = .polled then
        if pollFatal s.err then
          some { s with pc := .out, stderr := s.stderr ++ pollFailedMsg strerror s.err }
        else some { s with pc := .loop }
      else none

/-- The transitions of `mainStep`, one constructor each, with the tests of `main` that choose
it. -/
inductive MainTransition (s : MainState) : MainInput → MainState → Prop
  | registered (hpc : s.pc = .signal) : MainTransition s (.signal true) { s with pc := .argpParse }
  | registerFailed (hpc : s.pc = .signal) :
    MainTransition s (.signal false) { s with pc := .out, stderr := s.stderr ++ registerFailedMsg }
  | argpFailed {err : Int} {g : Globals} (hpc : s.pc = .argpParse) (herr : err ≠ 0) :
    MainTransition s (.argpParse err g) { s with globals := g, err := err, pc := .out }
  | argpUnbuffer {err : Int} {g : Globals} (hpc : s.pc = .argpParse) (herr : err = 0)
      (hu : g.unbufferStdout) :
    MainTransition s (.argpParse err g) { s with globals := g, err := err, pc := .setvbuf }
  | argpParsed {err : Int} {g : Globals} (hpc : s.pc = .argpParse) (herr : err = 0)
      (hu : ¬g.unbufferStdout) :
    MainTransition s (.argpParse err g) { s with globals := g, err := err, pc := .ctxNew }
  | setvbufFailed {err : Int} (hpc : s.pc = .setvbuf) (herr : err < 0) :
    MainTransition s (.setvbuf err)
      { s with err := err, pc := .out, stderr := s.stderr ++ setvbufFailedMsg strerror err }
  | unbuffered {err : Int} (hpc : s.pc = .setvbuf) (herr : ¬err < 0) :
    MainTransition s (.setvbuf err) { s with err := err, pc := .ctxNew }
  | ctxNewFailed {err : Int} {features : BitVec 64} (hpc : s.pc = .ctxNew) (herr : err < 0) :
    MainTransition s (.ctxNew err features)
      { s with err := err, pc := .out, stderr := s.stderr ++ ctxNewFailedMsg strerror err }
  | ctxCreated {err : Int} {features : BitVec 64} (hpc : s.pc = .ctxNew) (herr : ¬err < 0) :
    MainTransition s (.ctxNew err features)
      { s with
        err := err, ctx := some features, pc := .loop,
        pending := if s.globals.printFeaturesInit then printInitMsgCalls bpfTramp features else [] }
  | polled {evts : List EbpfEvent} {err : Int} {o : List (List Char)} (hpc : s.pc = .poll)
      (ho : callSeq (evts.map (eventCtxCallbackCalls sign)) = some o) :
    MainTransition s (.poll evts err) { s with err := err, pending := o, pc := .polled }
  | killed (hpc : s.pc = .signal) : MainTransition s .sigint { s with pc := .killed }
  | handler (hpc : s.pc ≠ .signal) (hend : s.pc ≠ .killed) :
    MainTransition s .sigint
      { s with
        exiting := (sigInt s.exiting).1, stdout := s.stdout.map (· ++ (sigInt s.exiting).2) }
  | handlerInCall (hin : s.InUnsafeCall) (hx : s.exiting = false) :
    MainTransition s .sigintInCall { s with exiting := true, stdout := none }
  | ignoredInCall (hin : s.InUnsafeCall) (hx : s.exiting = true) : MainTransition s .sigintInCall s
  | write {p : List Char} {ps : List (List Char)} (hp : s.pending = p :: ps) :
    MainTransition s .step
      { s with pending := ps, stdout := s.stdout.map (· ++ p), mainCalls := s.mainCalls ++ [p] }
  | loopTest (hp : s.pending = []) (hpc : s.pc = .loop) :
    MainTransition s .step { s with pc := if s.exiting then .out else .poll }
  | pollFailed (hp : s.pending = []) (hpc : s.pc = .polled) (hf : pollFatal s.err) :
    MainTransition s .step { s with pc := .out, stderr := s.stderr ++ pollFailedMsg strerror s.err }
  | pollOk (hp : s.pending = []) (hpc : s.pc = .polled) (hf : ¬pollFatal s.err) :
    MainTransition s .step { s with pc := .loop }

/-- A call `main` is making: the step happens only where `main` is at it. -/
lemma eq_some_of_guard {α β : Type} [DecidableEq β] {a b : β} {x : Option α} {t : α}
    (h : (if a ≠ b then none else x) = some t) : a = b ∧ x = some t := by
  by_cases hab : a = b
  · rw [if_neg (not_not.2 hab)] at h
    exact ⟨hab, h⟩
  · rw [if_pos hab] at h
    cases h

/-- Every step `mainStep` takes is one of its transitions. -/
lemma mainStep_transition {s t : MainState} {i : MainInput}
    (h : mainStep sign bpfTramp strerror s i = some t) :
    MainTransition sign bpfTramp strerror s i t := by
  cases i with
  | signal ok =>
    obtain ⟨hpc, h⟩ := eq_some_of_guard h
    cases ok <;> cases h
    exacts [.registerFailed hpc, .registered hpc]
  | argpParse err g =>
    obtain ⟨hpc, h⟩ := eq_some_of_guard h
    cases h
    by_cases herr : err = 0
    · rw [if_neg (show ¬(err ≠ 0) from not_not.2 herr)]
      by_cases hu : g.unbufferStdout
      · rw [if_pos hu]
        exact .argpUnbuffer hpc herr hu
      · rw [if_neg hu]
        exact .argpParsed hpc herr hu
    · rw [if_pos herr]
      exact .argpFailed hpc herr
  | setvbuf err =>
    obtain ⟨hpc, h⟩ := eq_some_of_guard h
    by_cases herr : err < 0
    · rw [if_pos herr] at h
      cases h
      exact .setvbufFailed hpc herr
    · rw [if_neg herr] at h
      cases h
      exact .unbuffered hpc herr
  | ctxNew err features =>
    obtain ⟨hpc, h⟩ := eq_some_of_guard h
    by_cases herr : err < 0
    · rw [if_pos herr] at h
      cases h
      exact .ctxNewFailed hpc herr
    · rw [if_neg herr] at h
      cases h
      exact .ctxCreated hpc herr
  | poll evts err =>
    obtain ⟨hpc, h⟩ := eq_some_of_guard h
    obtain ⟨o, ho, rfl⟩ := Option.map_eq_some'.1 h
    exact .polled hpc ho
  | sigint =>
    simp only [mainStep] at h
    by_cases hpc : s.pc = .signal
    · rw [if_pos hpc] at h
      cases h
      exact .killed hpc
    rw [if_neg hpc] at h
    by_cases hend : s.pc = .killed
    · rw [if_pos hend] at h
      cases h
    · rw [if_neg hend] at h
      cases h
      exact .handler hpc hend
  | sigintInCall =>
    simp only [mainStep] at h
    by_cases hin : s.InUnsafeCall
    · rw [if_neg (not_not.2 hin)] at h
      cases hx : s.exiting
      · rw [hx, if_neg Bool.false_ne_true] at h
        cases h
        exact .handlerInCall hin hx
      · rw [hx, if_pos rfl] at h
        cases h
        exact .ignoredInCall hin hx
    · rw [if_pos hin] at h
      cases h
  | step =>
    simp only [mainStep] at h
    split at h
    · rename_i p ps hp
      cases h
      exact .write hp
    rename_i hp
    by_cases hl : s.pc = .loop
    · rw [if_pos hl] at h
      cases h
      exact .loopTest hp hl
    rw [if_neg hl] at h
    by_cases hd : s.pc = .polled
    · rw [if_pos hd] at h
      by_cases hf : pollFatal s.err
      · rw [if_pos hf] at h
        cases h
        exact .pollFailed hp hd hf
      · rw [if_neg hf] at h
        cases h
        exact .pollOk hp hd hf
    · rw [if_neg hd] at h
      cases h

/-- Each transition is a step `mainStep` takes. -/
lemma mainStep_of_transition {s t : MainState} {i : MainInput}
    (h : MainTransition sign bpfTramp strerror s i t) :
    mainStep sign bpfTramp strerror s i = some t := by
  cases h <;> simp [mainStep, *]

/-- The inputs of a run, one after another. -/
def mainRun (s : MainState) : List MainInput → Option MainState
  | [] => some s
  | i :: is => (mainStep sign bpfTramp strerror s i).bind fun t => mainRun t is

@[simp] lemma mainRun_nil (s : MainState) : mainRun sign bpfTramp strerror s [] = some s := rfl

lemma mainRun_cons (s : MainState) (i : MainInput) (is : List MainInput) :
    mainRun sign bpfTramp strerror s (i :: is) =
      (mainStep sign bpfTramp strerror s i).bind fun t => mainRun sign bpfTramp strerror t is := rfl

lemma mainRun_append (s : MainState) (is js : List MainInput) :
    mainRun sign bpfTramp strerror s (is ++ js) =
      (mainRun sign bpfTramp strerror s is).bind fun t => mainRun sign bpfTramp strerror t js := by
  induction is generalizing s with
  | nil => rfl
  | cons i is ih =>
    rw [List.cons_append, mainRun_cons, mainRun_cons, Option.bind_assoc]
    exact congrArg _ (funext ih)

/-! ### What a run gives -/

/-- The results a run's input gives `main`'s functional model. -/
def MainEnv.record (env : MainEnv) : MainInput → MainEnv
  | .signal ok => { env with signalFails := !ok }
  | .argpParse err g => { env with argpParse := err, globals := g }
  | .setvbuf err => { env with setvbuf := err }
  | .ctxNew err _ => { env with ctxNew := err }
  | .poll _ err => { env with polls := env.polls ++ [err] }
  | .sigint | .sigintInCall | .step => env

/-- The results of no call yet. -/
def MainEnv.init : MainEnv := ⟨false, 0, Globals.init, 0, 0, []⟩

/-- The results a run gives `main`'s functional model. -/
def MainEnv.ofRun (is : List MainInput) : MainEnv := is.foldl MainEnv.record MainEnv.init

/-- The records an input hands the callback: those of a poll. -/
def MainInput.records : MainInput → List EbpfEvent
  | .poll evts _ => evts
  | .signal _ | .argpParse _ _ | .setvbuf _ | .ctxNew _ _ | .sigint | .sigintInCall | .step => []

def MainInput.isPoll : MainInput → Bool
  | .poll _ _ => true
  | .signal _ | .argpParse _ _ | .setvbuf _ | .ctxNew _ _ | .sigint | .sigintInCall | .step => false

def MainInput.isSigint : MainInput → Bool
  | .sigint | .sigintInCall => true
  | .signal _ | .argpParse _ _ | .setvbuf _ | .ctxNew _ _ | .poll _ _ | .step => false

/-! ### Stdout: the handler's message between `main`'s calls -/

/-- What a step does to stdout: the handler appends its message, or makes stdout undefined
inside a call, `main` appends a call it makes, or stdout, `main`'s calls and `exiting` stay as
they were. -/
lemma mainStep_stdout {s t : MainState} {i : MainInput}
    (h : mainStep sign bpfTramp strerror s i = some t) :
    (t.exiting = (sigInt s.exiting).1 ∧ t.stdout = s.stdout.map (· ++ (sigInt s.exiting).2) ∧
        t.mainCalls = s.mainCalls) ∨
      (s.exiting = false ∧ t.stdout = none ∧ t.mainCalls = s.mainCalls) ∨
      (∃ p, t.exiting = s.exiting ∧ t.stdout = s.stdout.map (· ++ p) ∧
        t.mainCalls = s.mainCalls ++ [p]) ∨
      (t.exiting = s.exiting ∧ t.stdout = s.stdout ∧ t.mainCalls = s.mainCalls) := by
  cases mainStep_transition sign bpfTramp strerror h with
  | handler => exact .inl ⟨rfl, rfl, rfl⟩
  | handlerInCall _ hx => exact .inr (.inl ⟨hx, rfl, rfl⟩)
  | write => exact .inr (.inr (.inl ⟨_, rfl, rfl, rfl⟩))
  | _ => exact .inr (.inr (.inr ⟨rfl, rfl, rfl⟩))

/-- Where stdout is defined, it is what `main` wrote, with the handler's message between two of
its calls exactly when `exiting` is set. -/
def SigintInStdout (s : MainState) : Prop :=
  ∀ out, s.stdout = some out →
    if s.exiting then
      ∃ j ≤ s.mainCalls.length,
        out = (s.mainCalls.take j).flatten ++ (sigInt false).2 ++ (s.mainCalls.drop j).flatten
    else out = s.mainCalls.flatten

lemma sigintInStdout_init : SigintInStdout MainState.init := by
  rintro _ ⟨⟩
  rfl

lemma SigintInStdout.step {s t : MainState} {i : MainInput} (hs : SigintInStdout s)
    (h : mainStep sign bpfTramp strerror s i = some t) : SigintInStdout t := by
  intro out ho
  rcases mainStep_stdout sign bpfTramp strerror h with
    ⟨he, ht, hm⟩ | ⟨-, ht, -⟩ | ⟨p, he, ht, hm⟩ | ⟨he, ht, hm⟩
  · -- the handler: its message ends stdout the first time, and it adds nothing after
    obtain ⟨o, hso, rfl⟩ := Option.map_eq_some'.1 (ht ▸ ho)
    have hs := hs o hso
    rw [he, hm]
    cases hx : s.exiting
    · rw [hx, if_neg Bool.false_ne_true] at hs
      rw [show (sigInt false).1 = true from rfl, if_pos rfl]
      exact ⟨s.mainCalls.length, le_rfl, by
        rw [hs, List.take_length, List.drop_length, List.flatten_nil, List.append_nil]⟩
    · rw [hx] at hs
      rw [show (sigInt true).2 = [] from rfl, List.append_nil]
      exact hs
  · rw [ht] at ho
    cases ho
  · -- `main` makes a call, after the message or with no message
    obtain ⟨o, hso, rfl⟩ := Option.map_eq_some'.1 (ht ▸ ho)
    have hs := hs o hso
    rw [he, hm]
    cases hx : s.exiting
    · rw [hx, if_neg Bool.false_ne_true] at hs
      rw [if_neg Bool.false_ne_true, hs, List.flatten_append, List.flatten_singleton]
    · rw [hx, if_pos rfl] at hs
      obtain ⟨j, hj, rfl⟩ := hs
      refine ⟨j, by simp only [List.length_append]; omega, ?_⟩
      rw [List.take_append_of_le_length hj, List.drop_append_of_le_length hj,
        List.flatten_append, List.flatten_singleton, List.append_assoc]
  · rw [he, hm]
    exact hs out (ht ▸ ho)

lemma SigintInStdout.run {s t : MainState} (hs : SigintInStdout s) :
    ∀ {is : List MainInput}, mainRun sign bpfTramp strerror s is = some t → SigintInStdout t := by
  intro is
  induction is generalizing s with
  | nil => intro h; cases h; exact hs
  | cons i is ih =>
    intro h
    obtain ⟨u, hu, h⟩ := Option.bind_eq_some.1 h
    exact ih (hs.step sign bpfTramp strerror hu) h

/-! ### What `main` writes -/

/-- What `main` has written and has yet to write, at each point, given the records the polls
have delivered: nothing before the context exists, and after, the calls of the init message when
it was asked for and those of the callback for those records. -/
def MainOutOk (s : MainState) (recs : List EbpfEvent) : Prop :=
  match s.pc with
  | .signal | .argpParse | .setvbuf | .ctxNew | .killed =>
    s.ctx = none ∧ s.mainCalls = [] ∧ s.pending = [] ∧ recs = []
  | .loop | .polled =>
    ∃ f, s.ctx = some f ∧ stdoutCalls sign s.globals bpfTramp f recs = some (s.mainCalls ++ s.pending)
  | .poll =>
    ∃ f, s.ctx = some f ∧ s.pending = [] ∧ stdoutCalls sign s.globals bpfTramp f recs = some s.mainCalls
  | .out =>
    s.pending = [] ∧ (s.ctx = none ∧ s.mainCalls = [] ∨
      ∃ f, s.ctx = some f ∧ stdoutCalls sign s.globals bpfTramp f recs = some s.mainCalls)

lemma mainOutOk_init : MainOutOk sign bpfTramp MainState.init [] := ⟨rfl, rfl, rfl, rfl⟩

/-- Calls still to make means `main` is in the loop. -/
lemma MainOutOk.pending_eq_nil {s : MainState} {recs : List EbpfEvent}
    (hs : MainOutOk sign bpfTramp s recs) (hpc : s.pc ≠ .loop ∧ s.pc ≠ .polled) :
    s.pending = [] := by
  unfold MainOutOk at hs
  cases hp : s.pc <;> simp only [hp] at hs hpc
  case loop => exact absurd rfl hpc.1
  case polled => exact absurd rfl hpc.2
  case poll => obtain ⟨_, _, h, _⟩ := hs; exact h
  case out => exact hs.1
  all_goals exact hs.2.2.1

lemma MainOutOk.step {s t : MainState} {recs : List EbpfEvent} {i : MainInput}
    (hs : MainOutOk sign bpfTramp s recs) (h : mainStep sign bpfTramp strerror s i = some t) :
    MainOutOk sign bpfTramp t (recs ++ i.records) := by
  cases mainStep_transition sign bpfTramp strerror h with
  | registered hpc | registerFailed hpc | argpFailed hpc | argpUnbuffer hpc | argpParsed hpc
  | setvbufFailed hpc | unbuffered hpc | ctxNewFailed hpc | killed hpc =>
    simp only [MainOutOk, hpc] at hs
    simp [MainOutOk, MainInput.records, hs]
  | ctxCreated hpc =>
    simp only [MainOutOk, hpc] at hs
    simp [MainOutOk, MainInput.records, stdoutCalls, callSeq, hs]
  | polled hpc ho =>
    simp only [MainOutOk, hpc] at hs
    obtain ⟨f, hf, -, hrun⟩ := hs
    exact ⟨f, hf, stdoutCalls_append sign hrun ho⟩
  | handler | handlerInCall | ignoredInCall =>
    simpa only [MainInput.records, List.append_nil] using hs
  | write hp =>
    rw [MainInput.records, List.append_nil]
    have hpc : s.pc = .loop ∨ s.pc = .polled := by
      by_contra hpc
      rw [not_or] at hpc
      exact List.cons_ne_nil _ _ (hp ▸ hs.pending_eq_nil sign bpfTramp hpc)
    unfold MainOutOk at hs ⊢
    rcases hpc with hpc | hpc <;> simp only [hpc] at hs ⊢ <;> simpa [hp] using hs
  | loopTest hp hl =>
    rw [MainInput.records, List.append_nil]
    simp only [MainOutOk, hl] at hs
    obtain ⟨f, hf, hrun⟩ := hs
    rw [hp, List.append_nil] at hrun
    cases s.exiting
    · exact ⟨f, hf, hp, hrun⟩
    · exact ⟨hp, .inr ⟨f, hf, hrun⟩⟩
  | pollFailed hp hpc =>
    rw [MainInput.records, List.append_nil]
    simp only [MainOutOk, hpc] at hs
    obtain ⟨f, hf, hrun⟩ := hs
    rw [hp, List.append_nil] at hrun
    exact ⟨hp, .inr ⟨f, hf, hrun⟩⟩
  | pollOk hp hpc =>
    rw [MainInput.records, List.append_nil]
    simp only [MainOutOk, hpc] at hs
    exact hs

lemma MainOutOk.run {s t : MainState} {recs : List EbpfEvent}
    (hs : MainOutOk sign bpfTramp s recs) :
    ∀ {is : List MainInput}, mainRun sign bpfTramp strerror s is = some t →
      MainOutOk sign bpfTramp t (recs ++ is.flatMap MainInput.records) := by
  intro is
  induction is generalizing s recs with
  | nil => intro h; cases h; simpa using hs
  | cons i is ih =>
    intro h
    obtain ⟨u, hu, h⟩ := Option.bind_eq_some.1 h
    rw [List.flatMap_cons, ← List.append_assoc]
    exact ih (hs.step sign bpfTramp strerror hu) h

/-- Wherever `main` is: no call before the context exists, and after, the calls it has made and
has yet to make; none left once it returns. -/
lemma MainOutOk.written {s : MainState} {recs : List EbpfEvent}
    (hs : MainOutOk sign bpfTramp s recs) :
    (s.ctx = none ∧ s.mainCalls = [] ∧ s.pending = [] ∨
      ∃ f, s.ctx = some f ∧
        stdoutCalls sign s.globals bpfTramp f recs = some (s.mainCalls ++ s.pending)) ∧
      (s.pc = .out → s.pending = []) := by
  unfold MainOutOk at hs
  refine ⟨?_, fun hpc => by rw [hpc] at hs; exact hs.1⟩
  cases hpc : s.pc <;> simp only [hpc] at hs
  case loop | polled => exact .inr hs
  case poll =>
    obtain ⟨f, hf, hp, hrun⟩ := hs
    exact .inr ⟨f, hf, by rw [hp, List.append_nil]; exact hrun⟩
  case out =>
    rcases hs with ⟨hp, ⟨hc, hm⟩ | ⟨f, hf, hrun⟩⟩
    · exact .inl ⟨hc, hm, hp⟩
    · exact .inr ⟨f, hf, by rw [hp, List.append_nil]; exact hrun⟩
  all_goals exact .inl ⟨hs.1, hs.2.1, hs.2.2.1⟩

/-! ### Status and stderr: the functional model -/

/-- The results of the calls before the loop that let `main` reach it. -/
def MainEnv.Started (env : MainEnv) (g : Globals) : Prop :=
  env.signalFails = false ∧ env.argpParse = 0 ∧ env.globals = g ∧
    ¬(g.unbufferStdout ∧ env.setvbuf < 0) ∧ 0 ≤ env.ctxNew

/-- Once the loop is reached, the functional model reads only the polls' results. -/
lemma MainEnv.Started.mainErr {env : MainEnv} {g : Globals} (h : env.Started g) :
    mainErr env = eventLoop env.ctxNew env.polls ∧
      mainStderr strerror env = ((env.polls.find? pollFatal).map (pollFailedMsg strerror)).getD [] := by
  obtain ⟨h1, h2, rfl, h4, h5⟩ := h
  refine ⟨by simp [EventsTrace.mainErr, h1, h2, h4, Int.not_lt.2 h5], ?_⟩
  simp only [mainStderr, h1, h2, h4, Int.not_lt.2 h5]
  cases env.polls.find? pollFatal <;> rfl

/-- At each point of `main`, what the results a run has given say: `err` and stderr as the
functional model gives them once `main` returns, and before that the results that brought
`main` there. -/
def MainSim (s : MainState) (env : MainEnv) : Prop :=
  match s.pc with
  | .signal => env = MainEnv.init ∧ s.err = 0 ∧ s.stderr = []
  | .argpParse => env = MainEnv.init ∧ s.stderr = []
  | .setvbuf =>
    env = { MainEnv.init with globals := s.globals } ∧ s.globals.unbufferStdout ∧ s.stderr = []
  | .ctxNew =>
    ∃ v, env = { MainEnv.init with globals := s.globals, setvbuf := v } ∧
      ¬(s.globals.unbufferStdout ∧ v < 0) ∧ s.stderr = []
  | .loop | .poll =>
    env.Started s.globals ∧ (∀ r ∈ env.polls, pollFatal r = false) ∧
      s.err = env.polls.getLastD env.ctxNew ∧ s.stderr = []
  | .polled =>
    env.Started s.globals ∧ (∃ ps, env.polls = ps ++ [s.err] ∧ ∀ r ∈ ps, pollFatal r = false) ∧
      s.stderr = []
  | .out => s.err = mainErr env ∧ s.stderr = mainStderr strerror env
  | .killed => True

lemma mainSim_init : MainSim strerror MainState.init MainEnv.init := ⟨rfl, rfl, rfl⟩

/-- Polls that did not fail fatally: the loop leaves the last one's result, with no message. -/
lemma find?_pollFatal_eq_none {ps : List Int} (h : ∀ r ∈ ps, pollFatal r = false) :
    ps.find? pollFatal = none :=
  List.find?_eq_none.2 fun r hr => by rw [h r hr]; decide

lemma MainSim.step {s t : MainState} {env : MainEnv} {i : MainInput}
    (hs : MainSim strerror s env) (h : mainStep sign bpfTramp strerror s i = some t) :
    MainSim strerror t (env.record i) := by
  cases mainStep_transition sign bpfTramp strerror h with
  | registered hpc =>
    simp only [MainSim, hpc] at hs
    obtain ⟨rfl, -, hs⟩ := hs
    exact ⟨rfl, hs⟩
  | registerFailed hpc =>
    simp only [MainSim, hpc] at hs
    obtain ⟨rfl, h0, hs⟩ := hs
    simp [MainSim, MainEnv.record, EventsTrace.mainErr, mainStderr, MainEnv.init, h0, hs]
  | argpFailed hpc herr =>
    simp only [MainSim, hpc] at hs
    obtain ⟨rfl, hs⟩ := hs
    simp [MainSim, MainEnv.record, EventsTrace.mainErr, mainStderr, MainEnv.init, herr, hs]
  | argpUnbuffer hpc herr hu =>
    simp only [MainSim, hpc] at hs
    obtain ⟨rfl, hs⟩ := hs
    subst herr
    exact ⟨rfl, hu, hs⟩
  | argpParsed hpc herr hu =>
    simp only [MainSim, hpc] at hs
    obtain ⟨rfl, hs⟩ := hs
    subst herr
    exact ⟨0, rfl, fun h => hu h.1, hs⟩
  | setvbufFailed hpc herr =>
    simp only [MainSim, hpc] at hs
    obtain ⟨rfl, hu, hs⟩ := hs
    simp [MainSim, MainEnv.record, EventsTrace.mainErr, mainStderr, MainEnv.init, hu, herr, hs]
  | unbuffered hpc herr =>
    simp only [MainSim, hpc] at hs
    obtain ⟨rfl, -, hs⟩ := hs
    exact ⟨_, rfl, fun h => herr h.2, hs⟩
  | ctxNewFailed hpc herr =>
    simp only [MainSim, hpc] at hs
    obtain ⟨v, rfl, hv, hs⟩ := hs
    simp [MainSim, MainEnv.record, EventsTrace.mainErr, mainStderr, MainEnv.init, hv, herr, hs]
  | ctxCreated hpc herr =>
    simp only [MainSim, hpc] at hs
    obtain ⟨v, rfl, hv, hs⟩ := hs
    exact ⟨⟨rfl, rfl, rfl, hv, Int.not_lt.1 herr⟩, List.forall_mem_nil _, rfl, hs⟩
  | polled hpc =>
    simp only [MainSim, hpc] at hs
    obtain ⟨hst, hps, -, hs⟩ := hs
    exact ⟨hst, ⟨env.polls, rfl, hps⟩, hs⟩
  | killed => trivial
  | handler | handlerInCall | ignoredInCall | write => exact hs
  | loopTest hp hl =>
    show MainSim strerror _ env
    simp only [MainSim, hl] at hs
    obtain ⟨hst, hps, herr, hs⟩ := hs
    obtain ⟨hme, hmse⟩ := hst.mainErr strerror
    cases s.exiting
    · exact ⟨hst, hps, herr, hs⟩
    · refine ⟨?_, ?_⟩
      · rw [hme, eventLoop_eq, find?_pollFatal_eq_none hps, herr]
        rfl
      · rw [hmse, find?_pollFatal_eq_none hps, hs]
        rfl
  | pollFailed hp hpc hfat =>
    show MainSim strerror _ env
    simp only [MainSim, hpc] at hs
    obtain ⟨hst, ⟨ps, hps, hnf⟩, hs⟩ := hs
    obtain ⟨hme, hmse⟩ := hst.mainErr strerror
    have hfind : env.polls.find? pollFatal = some s.err := by
      rw [hps, List.find?_append, find?_pollFatal_eq_none hnf, Option.none_or]
      simp [hfat]
    exact ⟨by rw [hme, eventLoop_eq, hfind]; rfl, by rw [hmse, hfind, hs]; rfl⟩
  | pollOk hp hpc hfat =>
    show MainSim strerror _ env
    simp only [MainSim, hpc] at hs
    obtain ⟨hst, ⟨ps, hps, hnf⟩, hs⟩ := hs
    refine ⟨hst, fun r hr => ?_, by rw [hps, List.getLastD_eq_getLast?, List.getLast?_concat]; rfl, hs⟩
    rw [hps, List.mem_append, List.mem_singleton] at hr
    rcases hr with hr | rfl
    · exact hnf r hr
    · simpa using hfat

lemma MainSim.run {s t : MainState} {env : MainEnv} (hs : MainSim strerror s env) :
    ∀ {is : List MainInput}, mainRun sign bpfTramp strerror s is = some t →
      MainSim strerror t (is.foldl MainEnv.record env) := by
  intro is
  induction is generalizing s env with
  | nil => intro h; cases h; exact hs
  | cons i is ih =>
    intro h
    obtain ⟨u, hu, h⟩ := Option.bind_eq_some.1 h
    exact ih (hs.step sign bpfTramp strerror hu) h

/-! ### After SIGINT -/

/-- With `exiting` set, a step keeps it set, and `main` is in a poll after it only if it was
before; a poll's result comes only where `main` was in it. -/
lemma mainStep_exiting {s t : MainState} {i : MainInput} (hs : s.exiting = true)
    (h : mainStep sign bpfTramp strerror s i = some t) :
    t.exiting = true ∧ (t.pc = .poll → s.pc = .poll) ∧
      (i.isPoll = true → s.pc = .poll ∧ t.pc = .polled) := by
  cases mainStep_transition sign bpfTramp strerror h with
  | polled hpc => exact ⟨hs, (fun h => nomatch h), fun _ => ⟨hpc, rfl⟩⟩
  | handler => exact ⟨by rw [hs]; rfl, id, fun h => nomatch h⟩
  | handlerInCall => exact ⟨rfl, id, fun h => nomatch h⟩
  | ignoredInCall | write => exact ⟨hs, id, fun h => nomatch h⟩
  | loopTest =>
    refine ⟨hs, fun h => ?_, fun h => nomatch h⟩
    rw [hs] at h
    cases h
  | _ => exact ⟨hs, (fun h => nomatch h), fun h => nomatch h⟩

/-- `main` makes the calls it has yet to make, one a step. -/
lemma mainRun_write (s : MainState) :
    mainRun sign bpfTramp strerror s (List.replicate s.pending.length .step) =
      some { s with
        pending := [], stdout := s.stdout.map (· ++ s.pending.flatten),
        mainCalls := s.mainCalls ++ s.pending } := by
  obtain ⟨pc, g, x, e, ctx, p, o, r, m⟩ := s
  induction p generalizing o m with
  | nil => simp
  | cons c cs ih =>
    rw [List.length_cons, List.replicate_succ, mainRun_cons,
      show mainStep sign bpfTramp strerror ⟨pc, g, x, e, ctx, c :: cs, o, r, m⟩ .step =
        some ⟨pc, g, x, e, ctx, cs, o.map (· ++ c), r, m ++ [c]⟩ from rfl, Option.some_bind, ih]
    simp [Option.map_map, Function.comp_def]

/-- With `exiting` set, a run makes at most the poll `main` is already in. -/
lemma mainRun_exiting_polls {s : MainState} (hs : s.exiting = true) :
    ∀ {is : List MainInput} {t : MainState}, mainRun sign bpfTramp strerror s is = some t →
      is.countP MainInput.isPoll ≤ if s.pc = .poll then 1 else 0 := by
  intro is
  induction is generalizing s with
  | nil => intro t _; exact Nat.zero_le _
  | cons i is ih =>
    intro t h
    obtain ⟨u, hu, h⟩ := Option.bind_eq_some.1 h
    obtain ⟨hux, hupc, hpoll⟩ := mainStep_exiting sign bpfTramp strerror hs hu
    have hrest := ih hux h
    rw [List.countP_cons]
    cases hi : i.isPoll
    · -- not a poll: `main` is in one after the step only if it was before
      have hle : is.countP MainInput.isPoll ≤ if s.pc = .poll then 1 else 0 := by
        by_cases hp : u.pc = .poll
        · rw [if_pos hp] at hrest
          rwa [if_pos (hupc hp)]
        · rw [if_neg hp] at hrest
          exact hrest.trans (Nat.zero_le _)
      simpa using hle
    · -- the poll `main` was in, and none after it
      obtain ⟨hspc, hupc'⟩ := hpoll hi
      rw [if_pos hspc]
      rw [hupc', if_neg (by decide)] at hrest
      simp [hrest]

/-- With `exiting` set and no call left to make, the test of the loop, or the test of a poll's
result and then that of the loop, end `main`. -/
lemma mainRun_tests_out {w : MainState} (hx : w.exiting = true) (hp : w.pending = [])
    (hpc : w.pc = .loop ∨ w.pc = .polled) :
    ∃ n ≤ 2, ∃ t, mainRun sign bpfTramp strerror w (List.replicate n .step) = some t ∧
      t.pc = .out := by
  rcases hpc with hpc | hpc
  · refine ⟨1, by omega, ?_⟩
    rw [List.replicate_one, mainRun_cons,
      mainStep_of_transition sign bpfTramp strerror (.loopTest hp hpc)]
    exact ⟨_, rfl, if_pos hx⟩
  by_cases hf : pollFatal w.err
  · refine ⟨1, by omega, ?_⟩
    rw [List.replicate_one, mainRun_cons,
      mainStep_of_transition sign bpfTramp strerror (.pollFailed hp hpc hf)]
    exact ⟨_, rfl, rfl⟩
  · refine ⟨2, le_rfl, ?_⟩
    rw [show List.replicate 2 MainInput.step = [.step, .step] from rfl, mainRun_cons,
      mainStep_of_transition sign bpfTramp strerror (.pollOk hp hpc hf), Option.some_bind,
      mainRun_cons, mainStep_of_transition sign bpfTramp strerror
        (.loopTest (s := { w with pc := .loop }) hp rfl)]
    exact ⟨_, rfl, if_pos hx⟩

/-! ### Stdout: defined until SIGINT lands inside a call -/

/-- Once the signal has killed the process, nothing happens. -/
lemma mainStep_killed {s : MainState} (hpc : s.pc = .killed) (hp : s.pending = [])
    (i : MainInput) : mainStep sign bpfTramp strerror s i = none := by
  cases i <;> simp [mainStep, hpc, hp, MainState.InUnsafeCall]

/-- A step leaves stdout defined or undefined as it was, except the handler inside a call with
`exiting` clear, which leaves it undefined. -/
lemma mainStep_stdout_none {s t : MainState} {i : MainInput}
    (h : mainStep sign bpfTramp strerror s i = some t) :
    (t.stdout = none ↔ s.stdout = none) ∨ (s.exiting = false ∧ t.stdout = none) := by
  rcases mainStep_stdout sign bpfTramp strerror h with
    ⟨-, ht, -⟩ | ⟨hx, ht, -⟩ | ⟨_, -, ht, -⟩ | ⟨-, ht, -⟩
  · exact .inl (by rw [ht]; exact Option.map_eq_none')
  · exact .inr ⟨hx, ht⟩
  · exact .inl (by rw [ht]; exact Option.map_eq_none')
  · exact .inl (by rw [ht])

/-- A step on an input other than SIGINT leaves `exiting` as it was, does not kill the process,
and leaves stdout defined or undefined as it was. -/
lemma mainStep_not_sigint {s t : MainState} {i : MainInput} (hi : i.isSigint = false)
    (hk : s.pc ≠ .killed) (h : mainStep sign bpfTramp strerror s i = some t) :
    t.exiting = s.exiting ∧ t.pc ≠ .killed ∧ (t.stdout = none ↔ s.stdout = none) := by
  cases mainStep_transition sign bpfTramp strerror h with
  | killed | handler | handlerInCall | ignoredInCall => cases hi
  | write => exact ⟨rfl, hk, Option.map_eq_none'⟩
  | loopTest => exact ⟨rfl, (by cases s.exiting <;> exact fun h => nomatch h), Iff.rfl⟩
  | _ => exact ⟨rfl, (fun h => nomatch h), Iff.rfl⟩

/-- What the first SIGINT of a run, `first`, has done: with none yet, `exiting` is clear and
stdout defined; after one inside a call, stdout is undefined; after one between calls, stdout is
defined, and `exiting` is set or the signal has killed the process. -/
def FirstSigint (s : MainState) : Option MainInput → Prop
  | none => s.exiting = false ∧ s.pc ≠ .killed ∧ s.stdout ≠ none
  | some i =>
    if i = .sigintInCall then s.stdout = none
    else s.stdout ≠ none ∧ (s.exiting = true ∨ s.pc = .killed)

lemma firstSigint_sigintInCall {s : MainState} :
    FirstSigint s (some .sigintInCall) ↔ s.stdout = none := by
  rw [FirstSigint, if_pos rfl]

lemma firstSigint_some {s : MainState} {i : MainInput} (hi : i ≠ .sigintInCall) :
    FirstSigint s (some i) ↔ s.stdout ≠ none ∧ (s.exiting = true ∨ s.pc = .killed) := by
  rw [FirstSigint, if_neg hi]

lemma FirstSigint.step {s t : MainState} {pre : List MainInput} {i : MainInput}
    (hs : FirstSigint s (pre.find? MainInput.isSigint)) (hk : s.pc = .killed → s.pending = [])
    (h : mainStep sign bpfTramp strerror s i = some t) :
    FirstSigint t ((pre ++ [i]).find? MainInput.isSigint) := by
  rw [List.find?_append, List.find?_singleton]
  cases hpre : pre.find? MainInput.isSigint with
  | none =>
    rw [hpre] at hs
    obtain ⟨hx, hpc, hso⟩ := hs
    rw [Option.none_or]
    cases hi : i.isSigint
    · -- not a SIGINT: the run has still had none
      obtain ⟨he, hpc', hso'⟩ := mainStep_not_sigint sign bpfTramp strerror hi hpc h
      rw [if_neg Bool.false_ne_true]
      exact ⟨he.trans hx, hpc', fun hn => hso (hso'.1 hn)⟩
    · -- the first SIGINT
      rw [if_pos rfl]
      cases mainStep_transition sign bpfTramp strerror h with
      | killed => exact (firstSigint_some (by decide)).2 ⟨hso, .inr rfl⟩
      | handler =>
        exact (firstSigint_some (by decide)).2
          ⟨fun hn => hso (Option.map_eq_none'.1 hn), .inl (by rw [hx]; rfl)⟩
      | handlerInCall => exact firstSigint_sigintInCall.2 rfl
      | ignoredInCall _ hx' => exact absurd (hx.symm.trans hx') Bool.false_ne_true
      | _ => cases hi
  | some j =>
    rw [hpre] at hs
    rw [Option.or_some]
    by_cases hj : j = .sigintInCall
    · -- stdout stays undefined
      subst hj
      rw [firstSigint_sigintInCall] at hs ⊢
      rcases mainStep_stdout_none sign bpfTramp strerror h with hn | ⟨-, hn⟩
      exacts [hn.2 hs, hn]
    · -- with `exiting` set the handler writes nothing, and the killed process takes no step
      rw [firstSigint_some hj] at hs ⊢
      obtain ⟨hso, hx | hpc⟩ := hs
      · refine ⟨fun hn => ?_, .inl (mainStep_exiting sign bpfTramp strerror hx h).1⟩
        rcases mainStep_stdout_none sign bpfTramp strerror h with hn' | ⟨hx', -⟩
        exacts [hso (hn'.1 hn), absurd (hx.symm.trans hx') (by decide)]
      · rw [mainStep_killed sign bpfTramp strerror hpc (hk hpc)] at h
        cases h

/-- Over a run, the first SIGINT decides whether stdout is defined. -/
lemma FirstSigint.run {s t : MainState} (pre : List MainInput) {recs : List EbpfEvent}
    (hs : FirstSigint s (pre.find? MainInput.isSigint)) (ho : MainOutOk sign bpfTramp s recs) :
    ∀ {is : List MainInput}, mainRun sign bpfTramp strerror s is = some t →
      FirstSigint t ((pre ++ is).find? MainInput.isSigint) := by
  intro is
  induction is generalizing s pre recs with
  | nil => intro h; cases h; rwa [List.append_nil]
  | cons i is ih =>
    intro h
    obtain ⟨u, hu, h⟩ := Option.bind_eq_some.1 h
    have hk : s.pc = .killed → s.pending = [] := fun hpc =>
      ho.pending_eq_nil sign bpfTramp (by rw [hpc]; decide)
    rw [← List.singleton_append, ← List.append_assoc]
    exact ih _ (hs.step sign bpfTramp strerror hk hu) (ho.step sign bpfTramp strerror hu) h

/-! ### Runs of `main` -/

/-- Every run of `main` that returns, wherever SIGINT arrived in it: the status and the stderr
text are those the functional model gives for the results the run's calls returned. -/
theorem mainRun_status {is : List MainInput} {t : MainState}
    (h : mainRun sign bpfTramp strerror MainState.init is = some t) (hout : t.pc = .out) :
    (if t.err ≠ 0 then 1 else 0) = main (MainEnv.ofRun is) ∧
      t.stderr = mainStderr strerror (MainEnv.ofRun is) := by
  have hsim := (mainSim_init strerror).run sign bpfTramp strerror h
  simp only [MainSim, hout] at hsim
  exact ⟨by rw [main, hsim.1]; rfl, hsim.2⟩

/-- A run that registers the handler, starts the loop, polls once with no record and stops on
SIGINT: status `0`, nothing on stderr. -/
theorem mainRun_status_sigint :
    mainRun .signed 1 (fun _ => []) MainState.init
        [.signal true, .argpParse 0 Globals.init, .ctxNew 0 1, .step, .poll [] 0, .step, .sigint,
          .step] =
      some ⟨.out, Globals.init, true, 0, some 1, [], some (sigInt false).2, [], []⟩ ∧
    MainPc.out = .out ∧
    ((if (0 : Int) ≠ 0 then 1 else 0) = main (MainEnv.ofRun
        [.signal true, .argpParse 0 Globals.init, .ctxNew 0 1, .step, .poll [] 0, .step, .sigint,
          .step]) ∧
      ([] : List Char) = mainStderr (fun _ => []) (MainEnv.ofRun
        [.signal true, .argpParse 0 Globals.init, .ctxNew 0 1, .step, .poll [] 0, .step, .sigint,
          .step])) :=
  have h : mainRun .signed 1 (fun _ => []) MainState.init
      [.signal true, .argpParse 0 Globals.init, .ctxNew 0 1, .step, .poll [] 0, .step, .sigint,
        .step] = some ⟨.out, Globals.init, true, 0, some 1, [], some (sigInt false).2, [], []⟩ := by
    decide
  ⟨h, rfl, mainRun_status .signed 1 (fun _ => []) h rfl⟩

/-! ### Every outcome of the functional model is a run -/

/-- The inputs of `main`'s loop when its polls return `rs`, delivering no record: for each, the
test of `exiting`, the poll and the test of its result, until one fails fatally; after the last,
SIGINT and the test of `exiting` that ends the loop. -/
def loopInputs : List Int → List MainInput
  | [] => [.sigint, .step]
  | r :: rs => .step :: .poll [] r :: .step :: if pollFatal r then [] else loopInputs rs

/-- From the test of `exiting`, the loop over the results `rs` leaves in `err` and on stderr
what the functional model gives. -/
lemma mainRun_loopInputs (rs : List Int) {s : MainState} (hpc : s.pc = .loop)
    (hp : s.pending = []) (hx : s.exiting = false) :
    ∃ t, mainRun sign bpfTramp strerror s (loopInputs rs) = some t ∧ t.pc = .out ∧
      t.err = eventLoop s.err rs ∧
      t.stderr = s.stderr ++ ((rs.find? pollFatal).map (pollFailedMsg strerror)).getD [] := by
  obtain ⟨pc, g, x, e, ctx, p, o, er, m⟩ := s
  subst hpc hp hx
  induction rs generalizing e with
  | nil => exact ⟨_, rfl, rfl, rfl, (List.append_nil _).symm⟩
  | cons r rs ih =>
    have hpoll : mainRun sign bpfTramp strerror ⟨.loop, g, false, e, ctx, [], o, er, m⟩
        (.step :: .poll [] r :: .step :: if pollFatal r then [] else loopInputs rs) =
        (mainStep sign bpfTramp strerror ⟨.polled, g, false, r, ctx, [], o, er, m⟩ .step).bind
          fun t => mainRun sign bpfTramp strerror t (if pollFatal r then [] else loopInputs rs) :=
      rfl
    rw [loopInputs, hpoll]
    let u : MainState := ⟨.polled, g, false, r, ctx, [], o, er, m⟩
    by_cases hf : pollFatal r
    · rw [mainStep_of_transition sign bpfTramp strerror (.pollFailed (s := u) rfl rfl hf), if_pos hf]
      refine ⟨_, rfl, rfl, by simp [eventLoop, hf], by simp [hf]⟩
    · rw [mainStep_of_transition sign bpfTramp strerror (.pollOk (s := u) rfl rfl hf), if_neg hf,
        Option.some_bind]
      obtain ⟨t, ht, hpc, herr, hse⟩ := ih r
      exact ⟨t, ht, hpc, by simp [herr, eventLoop, hf], by simp [hse, hf]⟩

/-- From `ebpf_event_ctx__new` returning `c`: the init message written when it was asked for,
then the loop over the results `rs`. -/
lemma mainRun_ctxNewInputs (features : BitVec 64) (c : Int) (rs : List Int) {s : MainState}
    (hpc : s.pc = .ctxNew) (hx : s.exiting = false) :
    ∃ t, mainRun sign bpfTramp strerror s (.ctxNew c features :: if c < 0 then [] else
        List.replicate (if s.globals.printFeaturesInit then printInitMsgCalls bpfTramp features
          else []).length .step ++ loopInputs rs) = some t ∧
      t.pc = .out ∧ t.err = (if c < 0 then c else eventLoop c rs) ∧
      t.stderr = s.stderr ++ if c < 0 then ctxNewFailedMsg strerror c
        else ((rs.find? pollFatal).map (pollFailedMsg strerror)).getD [] := by
  rw [mainRun_cons]
  by_cases hc : c < 0
  · rw [mainStep_of_transition sign bpfTramp strerror (.ctxNewFailed hpc hc), if_pos hc]
    exact ⟨_, rfl, rfl, (if_pos hc).symm, by rw [if_pos hc]⟩
  · let o : List (List Char) :=
      if s.globals.printFeaturesInit then printInitMsgCalls bpfTramp features else []
    rw [mainStep_of_transition sign bpfTramp strerror (.ctxCreated hpc hc), if_neg hc,
      Option.some_bind, mainRun_append, mainRun_write, Option.some_bind]
    obtain ⟨t, ht, htpc, herr, hse⟩ := mainRun_loopInputs sign bpfTramp strerror rs
      (s := ⟨.loop, s.globals, s.exiting, c, some features, [], s.stdout.map (· ++ o.flatten),
        s.stderr, s.mainCalls ++ o⟩) rfl rfl hx
    exact ⟨t, ht, htpc, by rw [if_neg hc, herr], by rw [if_neg hc, hse]⟩

/-- The inputs of a run whose calls return what `env` gives, the context reporting `features`:
the calls `main` makes until one fails, the init message written when it was asked for, and the
loop over `env.polls`, each poll delivering no record, with SIGINT after the last. -/
def mainInputs (features : BitVec 64) (env : MainEnv) : List MainInput :=
  if env.signalFails then [.signal false]
  else .signal true :: .argpParse env.argpParse env.globals ::
    if env.argpParse ≠ 0 then []
    else if env.globals.unbufferStdout ∧ env.setvbuf < 0 then [.setvbuf env.setvbuf]
    else (if env.globals.unbufferStdout then [.setvbuf env.setvbuf] else []) ++
      .ctxNew env.ctxNew features :: if env.ctxNew < 0 then [] else
        List.replicate (if env.globals.printFeaturesInit then printInitMsgCalls bpfTramp features
          else []).length .step ++ loopInputs env.polls

/-- Every outcome of the functional model is the outcome of a run: whatever results the calls
return, the run that takes them, with SIGINT after the last poll, returns the status and writes
the stderr text the functional model gives. -/
theorem mainRun_mainInputs (features : BitVec 64) (env : MainEnv) :
    ∃ t, mainRun sign bpfTramp strerror MainState.init (mainInputs bpfTramp features env) =
        some t ∧ t.pc = .out ∧ (if t.err ≠ 0 then 1 else 0) = main env ∧
      t.stderr = mainStderr strerror env := by
  unfold main
  by_cases hsf : env.signalFails
  · rw [mainInputs, if_pos hsf]
    exact ⟨_, rfl, rfl, by simp [EventsTrace.mainErr, hsf, MainState.init],
      by simp [mainStderr, hsf, MainState.init]⟩
  rw [mainInputs, if_neg hsf]
  by_cases ha : env.argpParse ≠ 0
  · rw [if_pos ha]
    exact ⟨_, rfl, if_pos ha, by simp [EventsTrace.mainErr, hsf, ha],
      by simp [mainStderr, hsf, ha, MainState.init]⟩
  rw [if_neg ha]
  have ha' : env.argpParse = 0 := not_not.1 ha
  -- the handler is registered
  let s₁ : MainState := ⟨.argpParse, Globals.init, false, 0, none, [], some [], [], []⟩
  have hreg : ∀ is, mainRun sign bpfTramp strerror MainState.init (.signal true :: is) =
      mainRun sign bpfTramp strerror s₁ is := fun _ => rfl
  -- and `setvbuf` called when `--unbuffer-stdout` was given
  let s₂ : MainState := { s₁ with globals := env.globals, err := env.argpParse, pc := .setvbuf }
  have hunbuf : env.globals.unbufferStdout → ∀ is,
      mainRun sign bpfTramp strerror s₁ (.argpParse env.argpParse env.globals :: is) =
        mainRun sign bpfTramp strerror s₂ is := fun hu _ => by
    rw [mainRun_cons, mainStep_of_transition sign bpfTramp strerror
      (.argpUnbuffer (s := s₁) (g := env.globals) rfl ha' hu), Option.some_bind]
  by_cases hv : env.globals.unbufferStdout ∧ env.setvbuf < 0
  · rw [if_pos hv, hreg, hunbuf hv.1, mainRun_cons, mainStep_of_transition sign bpfTramp strerror
      (.setvbufFailed (s := s₂) rfl hv.2)]
    refine ⟨_, rfl, rfl, ?_, ?_⟩
    · simp [EventsTrace.mainErr, hsf, ha', hv, Int.ne_of_lt hv.2]
    · simp [mainStderr, hsf, ha', hv, s₂, s₁]
  rw [if_neg hv]
  -- the state at `ebpf_event_ctx__new`
  obtain ⟨s, hs, hpc, hx, hg, he⟩ : ∃ s, mainRun sign bpfTramp strerror MainState.init
      (.signal true :: .argpParse env.argpParse env.globals ::
        if env.globals.unbufferStdout then [.setvbuf env.setvbuf] else []) = some s ∧
      s.pc = .ctxNew ∧ s.exiting = false ∧ s.globals = env.globals ∧ s.stderr = [] := by
    by_cases hu : env.globals.unbufferStdout
    · rw [if_pos hu, hreg, hunbuf hu, mainRun_cons, mainStep_of_transition sign bpfTramp strerror
        (.unbuffered (s := s₂) rfl fun h => hv ⟨hu, h⟩)]
      exact ⟨_, rfl, rfl, rfl, rfl, rfl⟩
    · rw [if_neg hu, hreg, mainRun_cons, mainStep_of_transition sign bpfTramp strerror
        (.argpParsed (s := s₁) (g := env.globals) rfl ha' hu)]
      exact ⟨_, rfl, rfl, rfl, rfl, rfl⟩
  obtain ⟨t, ht, htpc, herr, hse⟩ :=
    mainRun_ctxNewInputs sign bpfTramp strerror features env.ctxNew env.polls hpc hx
  refine ⟨t, ?_, htpc, ?_⟩
  · rw [← List.cons_append, ← List.cons_append, mainRun_append, hs, Option.some_bind, ← hg, ht]
  by_cases hc : env.ctxNew < 0
  · exact ⟨by simp [herr, EventsTrace.mainErr, hsf, ha', hv, hc],
      by simp [hse, he, mainStderr, hsf, ha', hv, hc]⟩
  · -- the loop is reached: the functional model reads only the polls' results
    have hst : env.Started env.globals := ⟨by simpa using hsf, ha', rfl, hv, Int.not_lt.1 hc⟩
    exact ⟨by rw [herr, if_neg hc, (hst.mainErr strerror).1],
      by rw [hse, he, if_neg hc, (hst.mainErr strerror).2, List.nil_append]⟩


/-- Every state a run of `main` reaches, wherever SIGINT arrived: `main` makes no call to stdout
before the event context exists; after, the calls it has made and has yet to make are those of
the init message when it was asked for and those the callback makes for the records the polls
delivered, in order, and their text is that of `stdoutText`; once `main` returns, it has made
all of them. -/
theorem mainRun_mainCalls {is : List MainInput} {s : MainState}
    (h : mainRun sign bpfTramp strerror MainState.init is = some s) :
    (s.ctx = none ∧ s.mainCalls = [] ∧ s.pending = [] ∨
      ∃ f, s.ctx = some f ∧
        stdoutCalls sign s.globals bpfTramp f (is.flatMap MainInput.records) =
          some (s.mainCalls ++ s.pending) ∧
        stdoutText sign s.globals bpfTramp f (is.flatMap MainInput.records) =
          some (s.mainCalls ++ s.pending).flatten) ∧
      (s.pc = .out → s.pending = []) := by
  have hout := (mainOutOk_init sign bpfTramp).run sign bpfTramp strerror h
  rw [List.nil_append] at hout
  obtain ⟨hw, hp⟩ := hout.written sign bpfTramp
  refine ⟨hw.imp_right fun ⟨f, hf, hc⟩ => ⟨f, hf, hc, ?_⟩, hp⟩
  rw [← stdoutCalls_flatten, hc]
  rfl

/-- Two of the three calls of the init message made. -/
theorem mainRun_mainCalls_init :
    mainRun .signed 1 (fun _ => []) MainState.init
        [.signal true, .argpParse 0 ⟨0, true, false, false⟩, .ctxNew 0 1, .step, .step] =
      some ⟨.loop, ⟨0, true, false, false⟩, false, 0, some 1, (printInitMsgCalls 1 1).drop 2,
        some ((printInitMsgCalls 1 1).take 2).flatten, [], (printInitMsgCalls 1 1).take 2⟩ ∧
    ((some (1 : BitVec 64) = none ∧ (printInitMsgCalls 1 1).take 2 = [] ∧
          (printInitMsgCalls 1 1).drop 2 = []) ∨
        ∃ f, some 1 = some f ∧
          stdoutCalls .signed ⟨0, true, false, false⟩ 1 f
              ([MainInput.signal true, .argpParse 0 ⟨0, true, false, false⟩, .ctxNew 0 1, .step,
                .step].flatMap MainInput.records) =
            some ((printInitMsgCalls 1 1).take 2 ++ (printInitMsgCalls 1 1).drop 2) ∧
          stdoutText .signed ⟨0, true, false, false⟩ 1 f
              ([MainInput.signal true, .argpParse 0 ⟨0, true, false, false⟩, .ctxNew 0 1, .step,
                .step].flatMap MainInput.records) =
            some ((printInitMsgCalls 1 1).take 2 ++ (printInitMsgCalls 1 1).drop 2).flatten) ∧
      (MainPc.loop = .out → (printInitMsgCalls 1 1).drop 2 = []) :=
  have h : mainRun .signed 1 (fun _ => []) MainState.init
      [.signal true, .argpParse 0 ⟨0, true, false, false⟩, .ctxNew 0 1, .step, .step] =
      some ⟨.loop, ⟨0, true, false, false⟩, false, 0, some 1, (printInitMsgCalls 1 1).drop 2,
        some ((printInitMsgCalls 1 1).take 2).flatten, [], (printInitMsgCalls 1 1).take 2⟩ := by
    decide
  ⟨h, mainRun_mainCalls .signed 1 (fun _ => []) h⟩

/-- Once `exiting` is set, whatever comes next: `main` starts no new poll, a run making at most
the one `main` is already in; and from a test of its loop or of a poll's result, `main` returns
after at most two tests and the calls it has yet to make. -/
theorem exiting_ends {s : MainState} (hs : s.exiting = true) :
    (∀ {is : List MainInput} {t : MainState}, mainRun sign bpfTramp strerror s is = some t →
      is.countP MainInput.isPoll ≤ if s.pc = .poll then 1 else 0) ∧
    (s.pc = .loop ∨ s.pc = .polled →
      ∃ n ≤ s.pending.length + 2, ∃ t,
        mainRun sign bpfTramp strerror s (List.replicate n .step) = some t ∧ t.pc = .out) := by
  refine ⟨mainRun_exiting_polls sign bpfTramp strerror hs, fun hpc => ?_⟩
  -- make the calls left, then the tests
  obtain ⟨n, hn, t, ht, htpc⟩ := mainRun_tests_out sign bpfTramp strerror
    (w := { s with
      pending := [], stdout := s.stdout.map (· ++ s.pending.flatten),
      mainCalls := s.mainCalls ++ s.pending })
    hs rfl hpc
  refine ⟨s.pending.length + n, by omega, t, ?_, htpc⟩
  rw [List.replicate_add, mainRun_append, mainRun_write, Option.some_bind, ht]

/-- SIGINT while `main` waits in a poll: that poll is the last. -/
theorem exiting_ends_poll :
    (MainState.mk .poll Globals.init true 0 (some 1) [] (some []) [] []).exiting = true ∧
    ((∀ {is : List MainInput} {t : MainState},
        mainRun .signed 1 (fun _ => [])
            (MainState.mk .poll Globals.init true 0 (some 1) [] (some []) [] []) is = some t →
        is.countP MainInput.isPoll ≤
          if (MainState.mk .poll Globals.init true 0 (some 1) [] (some []) [] []).pc = .poll then 1
          else 0) ∧
      ((MainState.mk .poll Globals.init true 0 (some 1) [] (some []) [] []).pc = .loop ∨
          (MainState.mk .poll Globals.init true 0 (some 1) [] (some []) [] []).pc = .polled →
        ∃ n ≤ (MainState.mk .poll Globals.init true 0 (some 1) [] (some []) [] []).pending.length + 2,
          ∃ t, mainRun .signed 1 (fun _ => [])
            (MainState.mk .poll Globals.init true 0 (some 1) [] (some []) [] [])
            (List.replicate n .step) = some t ∧ t.pc = .out)) :=
  ⟨rfl, exiting_ends .signed 1 (fun _ => []) rfl⟩

end EventsTrace
