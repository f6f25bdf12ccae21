import EventsTrace.Run

/-!
# SIGINT on stdout

`sig_int` prints `Received SIGINT, exiting...` and a newline to stdout the first time it runs,
and sets `exiting`, which ends `main`'s loop once the poll it interrupts returns. Where the
handler's output is defined (`Run`), the message lands between two of `main`'s `printf` calls,
which may be in the middle of a line. Whatever the line held before the message, the line that
ends with it is not a JSON text: outside a string the recognizer rejects its `R`, and inside one
the line ends before the string does. Every other line of stdout is left as it was: the init
message, and one line per record the callback printed.
-/

namespace EventsTrace

/-! ### The line that ends with the message -/

/-- Outside the plain text of a string, the recognizer rejects an `R`; inside it, the `R` is
part of the string. -/
lemma jsonStep_R {s : JsonState} (hs : s.LitOk) :
    jsonStep s 'R' = none ∨ ∃ key, s.lex = .str key .plain ∧ jsonStep s 'R' = some s := by
  rcases s with ⟨lex, st⟩
  cases lex with
  | str key pos =>
    cases pos with
    | plain => exact .inr ⟨key, rfl, rfl⟩
    | escape | hex n => exact .inl rfl
  | lit l =>
    refine .inl ?_
    have hl : l ∈ litRests := hs l rfl
    simp only [litRests, List.mem_cons, List.mem_singleton, List.not_mem_nil, or_false] at hl
    rcases hl with rfl | rfl | rfl | rfl | rfl | rfl | rfl | rfl | rfl | rfl <;> rfl
  | num pos => exact .inl (by cases pos <;> rfl)
  | _ => exact .inl rfl

/-- The recognizer reads the message as the end of a string, or rejects it. -/
lemma jsonRun_sigIntLine {s : JsonState} (hs : s.LitOk) :
    jsonRun s (sigInt false).2.dropLast = none ∨
      ∃ key, s.lex = .str key .plain ∧ jsonRun s (sigInt false).2.dropLast = some s := by
  have hm : (sigInt false).2.dropLast = 'R' :: "eceived SIGINT, exiting...".toList := rfl
  have hbody : strBodyOk "eceived SIGINT, exiting...".toList := by decide
  rw [hm, jsonRun_cons]
  rcases jsonStep_R hs with h | ⟨key, hlex, h⟩
  · exact .inl (by rw [h]; rfl)
  · refine .inr ⟨key, hlex, ?_⟩
    rcases s with ⟨lex, st⟩
    cases hlex
    rw [h, Option.some_bind]
    have hrun := jsonRun_strBody_append key st hbody []
    rwa [List.append_nil, jsonRun_nil] at hrun

/-- A line that ends with the handler's message is not a JSON text, whatever came before it. -/
lemma jsonText_sigIntLine (a : List Char) : jsonText (a ++ (sigInt false).2.dropLast) = false := by
  unfold jsonText
  rw [jsonRun_append]
  cases h : jsonRun ⟨.value, []⟩ a with
  | none => rfl
  | some s =>
    rw [Option.some_bind]
    rcases jsonRun_sigIntLine (jsonRun_litOk a (fun _ hl => by cases hl) h) with h' | ⟨_, hlex, h'⟩
    · rw [h']
    · rw [h']
      rcases s with ⟨lex, st⟩
      cases hlex
      exact Bool.and_false _

/-! ### Splitting at newlines -/

/-- Splitting a concatenation joins the last piece of the first text to the first piece of the
second. -/
lemma splitOn_append (x y : List Char) :
    ∃ xs p q ys, x.splitOn '\n' = xs ++ [p] ∧ y.splitOn '\n' = q :: ys ∧
      (x ++ y).splitOn '\n' = xs ++ (p ++ q) :: ys := by
  induction x with
  | nil =>
    obtain ⟨q, ys, hy⟩ := List.exists_cons_of_ne_nil (List.splitOnP_ne_nil _ y)
    exact ⟨[], [], q, ys, rfl, hy, hy⟩
  | cons c x ih =>
    obtain ⟨xs, p, q, ys, hx, hy, hxy⟩ := ih
    simp only [List.splitOn] at hx hxy ⊢
    by_cases hc : c = '\n'
    · exact ⟨[] :: xs, p, q, ys, by simp [hc, hx], hy, by simp [hc, hxy]⟩
    · cases xs with
      | nil => exact ⟨[], c :: p, q, ys, by simp [hc, hx], hy, by simp [hc, hxy]⟩
      | cons z zs => exact ⟨(c :: z) :: zs, p, q, ys, by simp [hc, hx], hy, by simp [hc, hxy]⟩

/-- A newline-ended text inserted between two texts ends the line it lands in, and leaves the
other lines as they were. -/
lemma splitOn_insert_line (x y m : List Char) (hm : '\n' ∉ m) :
    ∃ before part suffix after, (x ++ y).splitOn '\n' = before ++ (part ++ suffix) :: after ∧
      (x ++ (m ++ ['\n']) ++ y).splitOn '\n' = before ++ (part ++ m) :: suffix :: after := by
  obtain ⟨xs, p, q, ys, hx, hy, hxy⟩ := splitOn_append x y
  obtain ⟨xs₂, p₂, m₂, ms, hx₂, hm₂, hxm⟩ := splitOn_append x m
  obtain ⟨as, a, e, bs, ha, he, hae⟩ := splitOn_append (x ++ m) ('\n' :: y)
  -- `m` is one piece, and the newline after it starts a piece of its own
  have hsingle : m.splitOn '\n' = [m] :=
    List.splitOnP_eq_single _ _ fun c hc he => hm (beq_iff_eq.1 he ▸ hc)
  have hnl : ('\n' :: y).splitOn '\n' = [] :: y.splitOn '\n' := by
    simp [List.splitOn]
  obtain ⟨hm₂m, hms⟩ := List.cons_eq_cons.1 (hm₂.symm.trans hsingle)
  obtain ⟨rfl, rfl⟩ := List.cons_eq_cons.1 (he.symm.trans hnl)
  obtain ⟨hxs, hp⟩ := List.append_inj' (hx₂.symm.trans hx) rfl
  rw [hxs, List.singleton_inj.1 hp, hm₂m, hms] at hxm
  obtain ⟨has, ha'⟩ := List.append_inj' (ha.symm.trans hxm) rfl
  refine ⟨xs, p, q, ys, hxy, ?_⟩
  rw [show x ++ (m ++ ['\n']) ++ y = (x ++ m) ++ '\n' :: y by simp,
    hae, has, List.singleton_inj.1 ha', hy, List.append_nil]

/-! ### Stdout -/

variable (sign : CharSign) (bpfTramp : BitVec 64) (strerror : Int → List Char)

/-- Every run of `main` that returns having created the event context, wherever SIGINT arrived
and however many times, with stdout defined: the reader splitting stdout at newlines gets the
lines of the run, the init message when it was asked for and one line per record the polls
delivered, in order. With `exiting` set, the handler has printed its message once, and the line
it landed in is cut in two: what came before, followed by the message, which is not a JSON text,
and the rest of the line on a line of its own. -/
theorem mainRun_stdout_lines {is : List MainInput} {s : MainState} {f : BitVec 64}
    {out : List Char} (h : mainRun sign bpfTramp strerror MainState.init is = some s)
    (hpc : s.pc = .out) (hf : s.ctx = some f) (hout : s.stdout = some out) :
    ∃ lines : List (List Char),
      List.Forall₂ (fun evt line => eventCtxCallback sign evt = some (line ++ ['\n']))
        (is.flatMap MainInput.records) lines ∧
      if s.exiting then
        ∃ before part suffix after,
          (if s.globals.printFeaturesInit then [(printInitMsg bpfTramp f).dropLast] else []) ++
              lines ++ [[]] = before ++ (part ++ suffix) :: after ∧
          out.splitOn '\n' = before ++ (part ++ (sigInt false).2.dropLast) :: suffix :: after ∧
          jsonText (part ++ (sigInt false).2.dropLast) = false
      else
        out.splitOn '\n' =
          (if s.globals.printFeaturesInit then [(printInitMsg bpfTramp f).dropLast] else []) ++
            lines ++ [[]] := by
  -- all of `main`'s calls are made, and their text is the run's
  have ho := (mainOutOk_init sign bpfTramp).run sign bpfTramp strerror h
  rw [List.nil_append] at ho
  obtain ⟨hw, hp⟩ := ho.written sign bpfTramp
  have hcalls : stdoutCalls sign s.globals bpfTramp f (is.flatMap MainInput.records) =
      some s.mainCalls := by
    rcases hw with ⟨hc, -⟩ | ⟨f', hf', hc⟩
    · rw [hf] at hc
      cases hc
    · rw [hf, Option.some_inj] at hf'
      rwa [← hf', hp hpc, List.append_nil] at hc
  have htext : stdoutText sign s.globals bpfTramp f (is.flatMap MainInput.records) =
      some s.mainCalls.flatten := by
    rw [← stdoutCalls_flatten, hcalls]
    rfl
  obtain ⟨lines, h₂, -, hsplit⟩ := stdoutText_splitOn sign s.globals bpfTramp f htext
  refine ⟨lines, h₂, ?_⟩
  -- the handler's message, between two of the calls
  have hsig := sigintInStdout_init.run sign bpfTramp strerror h out hout
  cases hx : s.exiting
  · rw [hx, if_neg Bool.false_ne_true] at hsig
    rw [if_neg Bool.false_ne_true, hsig, hsplit]
  · rw [hx, if_pos rfl] at hsig
    obtain ⟨j, -, rfl⟩ := hsig
    obtain ⟨before, part, suffix, after, ht, hins⟩ := splitOn_insert_line
      (s.mainCalls.take j).flatten (s.mainCalls.drop j).flatten (sigInt false).2.dropLast
      (by decide)
    rw [← List.flatten_append, List.take_append_drop, hsplit] at ht
    exact ⟨before, part, suffix, after, ht, hins, jsonText_sigIntLine part⟩

/-- The features line asked for: SIGINT between its first two calls cuts it in two. -/
theorem mainRun_stdout_lines_init :
    mainRun .signed 1 (fun _ => []) MainState.init
        [.signal true, .argpParse 0 ⟨0, true, false, false⟩, .ctxNew 0 1, .step, .sigint, .step,
          .step, .step] =
      some ⟨.out, ⟨0, true, false, false⟩, true, 0, some 1, [],
        some (((printInitMsgCalls 1 1).take 1).flatten ++ (sigInt false).2 ++
          ((printInitMsgCalls 1 1).drop 1).flatten), [], printInitMsgCalls 1 1⟩ ∧
    MainPc.out = .out ∧ some (1 : BitVec 64) = some 1 ∧
    some (((printInitMsgCalls 1 1).take 1).flatten ++ (sigInt false).2 ++
        ((printInitMsgCalls 1 1).drop 1).flatten) =
      some (((printInitMsgCalls 1 1).take 1).flatten ++ (sigInt false).2 ++
        ((printInitMsgCalls 1 1).drop 1).flatten) ∧
    ∃ lines : List (List Char),
      List.Forall₂ (fun evt line => eventCtxCallback .signed evt = some (line ++ ['\n']))
        ([MainInput.signal true, .argpParse 0 ⟨0, true, false, false⟩, .ctxNew 0 1, .step, .sigint,
          .step, .step, .step].flatMap MainInput.records) lines ∧
      if true then
        ∃ before part suffix after,
          (if (⟨0, true, false, false⟩ : Globals).printFeaturesInit then
              [(printInitMsg 1 1).dropLast] else []) ++ lines ++ [[]] =
            before ++ (part ++ suffix) :: after ∧
          (((printInitMsgCalls 1 1).take 1).flatten ++ (sigInt false).2 ++
              ((printInitMsgCalls 1 1).drop 1).flatten).splitOn '\n' =
            before ++ (part ++ (sigInt false).2.dropLast) :: suffix :: after ∧
          jsonText (part ++ (sigInt false).2.dropLast) = false
      else
        (((printInitMsgCalls 1 1).take 1).flatten ++ (sigInt false).2 ++
            ((printInitMsgCalls 1 1).drop 1).flatten).splitOn '\n' =
          (if (⟨0, true, false, false⟩ : Globals).printFeaturesInit then
              [(printInitMsg 1 1).dropLast] else []) ++ lines ++ [[]] :=
  have h : mainRun .signed 1 (fun _ => []) MainState.init
      [.signal true, .argpParse 0 ⟨0, true, false, false⟩, .ctxNew 0 1, .step, .sigint, .step,
        .step, .step] =
      some ⟨.out, ⟨0, true, false, false⟩, true, 0, some 1, [],
        some (((printInitMsgCalls 1 1).take 1).flatten ++ (sigInt false).2 ++
          ((printInitMsgCalls 1 1).drop 1).flatten), [], printInitMsgCalls 1 1⟩ := by
    decide
  ⟨h, rfl, rfl, rfl, mainRun_stdout_lines .signed 1 (fun _ => []) h rfl rfl rfl⟩

end EventsTrace
