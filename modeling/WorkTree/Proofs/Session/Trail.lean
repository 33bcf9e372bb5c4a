import WorkTree.Proofs.Session.History

set_option relaxedAutoImplicit false
set_option autoImplicit false

/-!
# The trail of commands in the log

A command is announced in the log before it is started. Behind a start stands what went wrong with
it, if anything did: that the time was up, or that the exit code was not zero. The trace of a
session is made of such blocks, one for each command that was given, and of the records that the
session writes itself. The three texts end differently, an announcement in a bracket, the others in
a unit and in a digit, so that a reader of the log can tell what happened to every start.

## Main definitions

* `WorkTree.Runner.announcement`, `WorkTree.Log.Record.timedOut`, `WorkTree.Log.Record.exited` —
  the records of a runner.
* `WorkTree.Runner.sequel` — what the log has to say of a start.
* `WorkTree.Runner.Block` — the trace of a command that was given.
* `WorkTree.Trail`, `WorkTree.Stands` — the traces that are made of such blocks and of other
  records, and how an entry stands in one.
* `WorkTree.Runner.Traced` — the log tells of every start what happened to it.

## Main results

* `WorkTree.Session.history_trail` — the trace of a session is a trail.
* `WorkTree.Trail.traced` — a trail tells of every start what happened to it.
-/

namespace WorkTree

/-! ## The records of a runner -/

/-- The record of a command that is to be started. -/
def Runner.announcement (runner : Runner) (args : List String) : Log.Record :=
  ⟨.debug, .runner, "git " ++ commandLine args ++ " (cwd=" ++ runner.directory.text ++ ")"⟩

namespace Log.Record

/-- The record of a command that did not end within a number of milliseconds. -/
def timedOut (args : List String) (milliseconds : Int) : Record :=
  ⟨.debug, .runner, Cause.timeoutMessage args (toString milliseconds)⟩

/-- The record of a command that ended with an exit code. -/
def exited (args : List String) (code : Int) : Record :=
  ⟨.debug, .runner, "git " ++ commandLine args ++ " exited " ++ toString code⟩

/-- A record has the form of those that stand behind a start. -/
inductive IsSequel : Record → Prop where
  | timedOut (args : List String) (milliseconds : Int) : IsSequel (.timedOut args milliseconds)
  | exited (args : List String) (code : Int) : IsSequel (.exited args code)

/-- The last character of a record. -/
def last? (record : Record) : Option Char :=
  record.message.toList.getLast?

/-- An announcement ends in a bracket. -/
lemma last?_announcement (runner : Runner) (args : List String) :
    (runner.announcement args).last? = some ')' := by
  rw [last?, Runner.announcement, String.toList_append, List.getLast?_append]
  rfl

/-- The record of a command whose time was up ends in a unit. -/
lemma last?_timedOut (args : List String) (milliseconds : Int) :
    (timedOut args milliseconds).last? = some 's' := by
  rw [last?, timedOut, Cause.timeoutMessage, String.toList_append, List.getLast?_append]
  rfl

/-- A number that is written out is made of digits, of which there is a last one. -/
lemma getLast?_repr (n : Nat) : ∃ c, n.repr.toList.getLast? = some c ∧ c.isDigit = true := by
  rw [Nat.toList_repr]
  refine ⟨(Nat.toDigits 10 n).getLast Nat.toDigits_ne_nil, List.getLast?_eq_some_getLast _, ?_⟩
  exact Nat.isDigit_of_mem_toDigits (by decide) (by decide) (List.getLast_mem _)

/-- A number can be read off its digits. -/
lemma repr_inj {n m : Nat} (h : n.repr = m.repr) : n = m := by
  have hdigits := congrArg String.toList h
  rw [Nat.toList_repr, Nat.toList_repr] at hdigits
  rw [← Nat.ofDigitChars_ten_toDigits (n := n), hdigits, Nat.ofDigitChars_ten_toDigits]

/-- A number without a sign is not one with a sign. -/
lemma repr_ne_minus (n : Nat) (text : String) : n.repr ≠ "-" ++ text := by
  intro h
  have hmem : '-' ∈ n.repr.toList := by simp [h]
  rw [Nat.toList_repr] at hmem
  cases Nat.isDigit_of_mem_toDigits (by decide) (by decide) hmem

/-- The record of an exit code ends in a digit. -/
lemma last?_exited (args : List String) (code : Int) :
    ∃ c, (exited args code).last? = some c ∧ c.isDigit = true := by
  have hcode : ∃ c, (toString code).toList.getLast? = some c ∧ c.isDigit = true := by
    cases code with
    | ofNat n => exact getLast?_repr n
    | negSucc n =>
      obtain ⟨c, hlast, hdigit⟩ := getLast?_repr (n + 1)
      refine ⟨c, ?_, hdigit⟩
      change ("-" ++ (n + 1).repr).toList.getLast? = some c
      rw [String.toList_append, List.getLast?_append, hlast, Option.some_or]
  obtain ⟨c, hlast, hdigit⟩ := hcode
  refine ⟨c, ?_, hdigit⟩
  rw [last?, exited, String.toList_append, List.getLast?_append, hlast, Option.some_or]

/-- No command whose time was up has a record of an exit code. -/
lemma timedOut_ne_exited (args args' : List String) (milliseconds code : Int) :
    timedOut args milliseconds ≠ exited args' code := by
  intro h
  obtain ⟨c, hlast, hdigit⟩ := last?_exited args' code
  rw [← h, last?_timedOut] at hlast
  obtain rfl := Option.some.inj hlast
  cases hdigit

/-- An announcement is not taken for what stands behind a start. -/
lemma not_isSequel_announcement (runner : Runner) (args : List String) :
    ¬ (runner.announcement args).IsSequel := by
  have hlast := last?_announcement runner args
  generalize runner.announcement args = record at hlast
  rintro (⟨args', milliseconds⟩ | ⟨args', code⟩)
  · cases (last?_timedOut args' milliseconds).symm.trans hlast
  · obtain ⟨c, hlast', hdigit⟩ := last?_exited args' code
    obtain rfl := Option.some.inj (hlast'.symm.trans hlast)
    cases hdigit

/-- What stands behind a start is written by the runner, and is a detail. -/
lemma IsSequel.eq {record : Record} (h : record.IsSequel) :
    record.channel = .runner ∧ record.severity = .debug := by
  cases h <;> exact ⟨rfl, rfl⟩

/-- The exit code can be read off its record. -/
lemma exited_inj {args : List String} {code code' : Int}
    (h : exited args code = exited args code') : code = code' := by
  have hcode : code.repr = code'.repr := (String.append_right_inj _).1 (congrArg message h)
  -- Only a negative number is written with a sign, and behind it stand digits again.
  cases code with
  | ofNat n =>
    cases code' with
    | ofNat m => exact congrArg Int.ofNat (repr_inj hcode)
    | negSucc m => exact absurd hcode (repr_ne_minus n _)
  | negSucc n =>
    cases code' with
    | ofNat m => exact absurd hcode.symm (repr_ne_minus m _)
    | negSucc m =>
      exact congrArg Int.negSucc (Nat.succ.inj (repr_inj ((String.append_right_inj _).1 hcode)))

end Log.Record

/-! ## What stands behind a start -/

/-- A reply is that of a command that ended with an exit code other than zero. -/
def Reply.Exits (reply : Reply) (code : Int) : Prop :=
  ∃ completion, reply.completion? = some completion ∧ completion.ok = false ∧
    completion.code.whole = .ok code

namespace Runner

/-- The records that stand behind a start with some arguments, by the reply. -/
def sequel (runner : Runner) (args : List String) : Reply → List Log.Record
  | .completed code out err =>
    if (⟨code, out.read, err.read⟩ : Completion).ok then []
    else (code.whole.toOption.map (Log.Record.exited args)).toList
  | .timedOut => (runner.limit.value.whole.toOption.map (Log.Record.timedOut args)).toList
  | .notFound | .refused _ _ | .interrupted _ => []

/-- What a reply comes to is logged behind the start. -/
lemma conclude_events (runner : Runner) (args : List String) (reply : Reply) (script : Script) :
    ((runner.conclude args reply).run script).events =
      (runner.sequel args reply).map .logged := by
  cases reply with
  | completed code out err =>
    by_cases hok : (⟨code, out.read, err.read⟩ : Completion).ok = true
    · simp [conclude, sequel, Action.onlyIf, hok]
    · cases hcode : code.whole <;>
        simp [conclude, sequel, Action.onlyIf, hok, hcode, Action.orAbort, Action.run_map,
          Except.toOption, Log.Record.exited]
  | timedOut =>
    cases hlimit : runner.limit.value.whole <;>
      simp [conclude, sequel, hlimit, Action.orAbort, Action.bind_run, Except.toOption,
        Log.Record.timedOut]
  | notFound => rfl
  | refused number message =>
    by_cases h : number = some missingFile <;> simp [conclude, sequel, h]
  | interrupted fault => rfl

/-- A record stands behind a start exactly when it tells that the command ran out of time, and it
did, or that it ended with an exit code other than zero, and it did. -/
lemma mem_sequel_iff {runner : Runner} {args : List String} {reply : Reply} {record : Log.Record} :
    record ∈ runner.sequel args reply ↔
      (∃ milliseconds, reply = .timedOut ∧ runner.limit.value.whole = .ok milliseconds ∧
        record = .timedOut args milliseconds) ∨
      ∃ code, reply.Exits code ∧ record = .exited args code := by
  cases reply with
  | completed value out err =>
    cases hok : (⟨value, out.read, err.read⟩ : Completion).ok <;> cases hcode : value.whole <;>
      simp [sequel, Reply.Exits, Reply.completion?, hok, hcode, Except.toOption]
  | timedOut =>
    cases hlimit : runner.limit.value.whole <;>
      simp [sequel, Reply.Exits, Reply.completion?, hlimit, Except.toOption]
  | notFound | refused number message | interrupted fault =>
    simp [sequel, Reply.Exits, Reply.completion?]

/-- At most one record stands behind a start. -/
lemma sequel_cases (runner : Runner) (args : List String) (reply : Reply) :
    runner.sequel args reply = [] ∨ ∃ record, runner.sequel args reply = [record] := by
  have htoList : ∀ found : Option Log.Record,
      found.toList = [] ∨ ∃ record, found.toList = [record] := by
    rintro (_ | record)
    · exact .inl rfl
    · exact .inr ⟨record, rfl⟩
  cases reply with
  | completed code out err =>
    rw [sequel]
    split
    · exact .inl rfl
    · exact htoList _
  | timedOut => exact htoList _
  | notFound | refused number message | interrupted fault => exact .inl rfl

/-- What stands behind a start has the form for it. -/
lemma isSequel_of_mem_sequel {runner : Runner} {args : List String} {reply : Reply}
    {record : Log.Record} (h : record ∈ runner.sequel args reply) : record.IsSequel := by
  rcases mem_sequel_iff.1 h with ⟨milliseconds, -, -, rfl⟩ | ⟨code, -, rfl⟩
  · exact .timedOut args milliseconds
  · exact .exited args code

/-! ## The trace of a command -/

/-- The traces of a command that is given: it does not come to be announced, or it is announced and
not started, or it is announced, started and followed by what went wrong. -/
inductive Block (runner : Runner) : List Event → Prop where
  | kept : Block runner []
  | unstarted (args : List String) : Block runner [.logged (runner.announcement args)]
  | started (invocation : Invocation) (reply : Reply) :
      Block runner (.logged (runner.announcement invocation.args) :: .started invocation reply ::
        (runner.sequel invocation.args reply).map .logged)

/-- Past the directory, a command is announced. -/
lemma launch_block (runner : Runner) (host : Host) (args : List String) (isLocal : Bool)
    (script : Script) : runner.Block ((runner.launch host args isLocal).run script).events := by
  have hlog := run_debug
    ("git " ++ commandLine args ++ " (cwd=" ++ runner.directory.text ++ ")") script
  unfold launch
  rw [Action.run_bind_of_answered (congrArg Run.outcome hlog), hlog]
  cases runner.limit.seconds? with
  | none => exact .unstarted args
  | some timeLimit =>
    dsimp only
    split
    · rw [Action.run_bind_of_answered rfl, run_start, conclude_events]
      exact .started { program := runner.program, args
                       directory := if isLocal then some runner.directory else none
                       timeLimit, environment := environmentFor host } (script.answer args).1
    · exact .unstarted args

/-- What runs behind the look at the directory has the trace that it has. -/
lemma block_behind_directory {runner : Runner} {host : Host} {args : List Value} {isLocal : Bool}
    {script : Script} {next : Unit → Action Script Completion}
    (hnext : runner.Block ((next ()).run script).events) :
    runner.Block ((runner.requireDirectory host args isLocal >>= next).run script).events := by
  obtain ⟨hstate, hevents⟩ := requireDirectory_run runner host args isLocal script
  cases hanswered : ((runner.requireDirectory host args isLocal).run script).outcome.isAnswered with
  | false =>
    obtain ⟨-, -, hnone⟩ := Action.run_bind_of_not_answered hanswered next
    rw [hnone, hevents]
    exact .kept
  | true =>
    obtain ⟨⟨⟩, hvalue⟩ := Outcome.isAnswered_iff.1 hanswered
    rw [Action.run_bind_of_answered hvalue, hevents, hstate]
    exact hnext

end Runner

/-- Every command that is given to git has such a trace. -/
lemma Session.git_block (w : Workspace) (command : Command) (state : State) :
    w.runner.Block ((git w command).run state).events := by
  change w.runner.Block ((w.give command).run state.script).events
  unfold Workspace.give Runner.withTexts
  cases Value.texts command.args with
  | ok args => exact Runner.block_behind_directory (Runner.launch_block _ _ _ _ _)
  | error fault => exact Runner.block_behind_directory .kept

/-! ## Trails -/

/-- The traces that are made of commands that are given and of what is logged by others than the
runner. -/
inductive Trail (runner : Runner) : List Event → Prop where
  | nil : Trail runner []
  | noted {record : Log.Record} {events : List Event} (channel : record.channel ≠ .runner)
      (rest : Trail runner events) : Trail runner (.logged record :: events)
  | given {entries events : List Event} (block : runner.Block entries)
      (rest : Trail runner events) : Trail runner (entries ++ events)

namespace Trail

variable {runner : Runner} {events events' : List Event}

/-- A trail behind another is a trail. -/
lemma append (h : Trail runner events) (h' : Trail runner events') :
    Trail runner (events ++ events') := by
  induction h with
  | nil => exact h'
  | noted channel _ ih => exact .noted channel ih
  | given block _ ih =>
    rw [List.append_assoc]
    exact .given block ih

/-- A trail does not begin with what stands behind a start. -/
lemma not_isSequel_of_head? (h : Trail runner events) {record : Log.Record}
    (hhead : events.head? = some (.logged record)) : ¬ record.IsSequel := by
  induction h with
  | nil => cases hhead
  | noted channel _ _ =>
    obtain rfl := Event.logged.inj (Option.some.inj hhead)
    exact fun hsequel => channel hsequel.eq.1
  | given block _ ih =>
    cases block with
    | kept => exact ih hhead
    | unstarted args | started invocation reply =>
      obtain rfl := Event.logged.inj (Option.some.inj hhead)
      exact Log.Record.not_isSequel_announcement runner _

end Trail

/-- How an entry stands in a trail, with what comes before and behind it: it is logged by others, or
it announces a command, or it is a start behind its announcement and before what the log has to say
of it, or that is what it is itself. -/
inductive Stands (runner : Runner) (before : List Event) : Event → List Event → Prop where
  | noted {record : Log.Record} (after : List Event) (channel : record.channel ≠ .runner) :
      Stands runner before (.logged record) after
  | announced (args : List String) (after : List Event) :
      Stands runner before (.logged (runner.announcement args)) after
  | started {invocation : Invocation} {reply : Reply} {rest : List Event}
      (last : before.getLast? = some (.logged (runner.announcement invocation.args)))
      (trail : Trail runner rest) :
      Stands runner before (.started invocation reply)
        ((runner.sequel invocation.args reply).map .logged ++ rest)
  | behind {invocation : Invocation} {reply : Reply} {record : Log.Record} (after : List Event)
      (last : before.getLast? = some (.started invocation reply))
      (mem : record ∈ runner.sequel invocation.args reply) :
      Stands runner before (.logged record) after

namespace Stands

variable {runner : Runner} {before after : List Event} {event : Event}

/-- What is further back does not matter to how an entry stands. -/
lemma prepend (h : Stands runner before event after) (earlier : List Event) :
    Stands runner (earlier ++ before) event after := by
  cases h with
  | noted _ channel => exact .noted _ channel
  | announced args _ => exact .announced args _
  | started last trail =>
    exact .started (by rw [List.getLast?_append, last, Option.some_or]) trail
  | behind _ last mem => exact .behind _ (by rw [List.getLast?_append, last, Option.some_or]) mem

/-- How an entry stands in the trace of a command. -/
lemma of_block {entries behind rest : List Event} (h : runner.Block entries)
    (hentries : entries = before ++ event :: behind) (hrest : Trail runner rest) :
    Stands runner before event (behind ++ rest) := by
  cases h with
  | kept => simp at hentries
  | unstarted args =>
    obtain ⟨rfl, hevent⟩ | ⟨_, -, hnone⟩ := List.cons_eq_append_iff.1 hentries
    · obtain ⟨rfl, rfl⟩ := List.cons.inj hevent
      exact .announced args _
    · simp at hnone
  | started invocation reply =>
    -- The entry is the announcement, or the start, or the one record that stands behind that.
    obtain ⟨rfl, hevent⟩ | ⟨before, rfl, hstart⟩ := List.cons_eq_append_iff.1 hentries
    · obtain ⟨rfl, rfl⟩ := List.cons.inj hevent
      exact .announced _ _
    obtain ⟨rfl, hevent⟩ | ⟨before, rfl, hbehind⟩ := List.cons_eq_append_iff.1 hstart
    · obtain ⟨rfl, rfl⟩ := List.cons.inj hevent
      exact .started rfl hrest
    rcases runner.sequel_cases invocation.args reply with hnone | ⟨record, hrecord⟩
    · simp [hnone] at hbehind
    rw [hrecord, List.map_singleton] at hbehind
    obtain ⟨rfl, hevent⟩ | ⟨_, -, hmore⟩ := List.cons_eq_append_iff.1 hbehind
    · obtain ⟨rfl, rfl⟩ := List.cons.inj hevent
      exact .behind _ rfl (by rw [hrecord]; exact List.mem_singleton_self record)
    · simp at hmore

/-- How an entry stands in a trail.

**Proof sketch.** Induction on the trail. The entry stands in the first block (`of_block`), or
behind it in the rest, where what is further back does not matter (`prepend`). -/
lemma of_trail {events : List Event} (h : Trail runner events)
    (hevents : events = before ++ event :: after) : Stands runner before event after := by
  induction h generalizing before with
  | nil => simp at hevents
  | @noted record events channel _ ih =>
    obtain ⟨rfl, hevent⟩ | ⟨further, rfl, hrest⟩ := List.cons_eq_append_iff.1 hevents
    · obtain ⟨rfl, rfl⟩ := List.cons.inj hevent
      exact .noted _ channel
    · exact (ih hrest).prepend [.logged record]
  | given block rest ih =>
    rcases split_of_append_eq hevents with ⟨behind, hentries, rfl⟩ | ⟨between, rfl, hrest⟩
    · exact of_block block hentries rest
    · exact (ih hrest).prepend _

end Stands

/-! ## What the log tells of a start -/

/-- A record of the form that stands behind a start is the next entry exactly when the log has it to
say of that start. -/
lemma Trail.head?_behind_iff {runner : Runner} {args : List String} {reply : Reply}
    {rest : List Event} (hrest : Trail runner rest) {record : Log.Record}
    (hrecord : record.IsSequel) :
    ((runner.sequel args reply).map Event.logged ++ rest).head? = some (.logged record) ↔
      record ∈ runner.sequel args reply := by
  rcases runner.sequel_cases args reply with hnone | ⟨found, hfound⟩
  · rw [hnone]
    simpa using fun hhead => hrest.not_isSequel_of_head? hhead hrecord
  · simp [hfound, eq_comm]

/-- The log tells of every start what happened to it. Every start is announced right before; behind
it stands that the time was up exactly when it was, and an exit code exactly when it is that of the
command and not zero; and neither stands anywhere else. -/
structure Runner.Traced (runner : Runner) (milliseconds : Int) (events : List Event) : Prop where
  announced : ∀ before invocation reply after,
    events = before ++ .started invocation reply :: after →
      before.getLast? = some (.logged (runner.announcement invocation.args))
  timedOut : ∀ before invocation reply after,
    events = before ++ .started invocation reply :: after →
      (after.head? = some (.logged (.timedOut invocation.args milliseconds)) ↔ reply = .timedOut)
  exited : ∀ before invocation reply after code,
    events = before ++ .started invocation reply :: after →
      (after.head? = some (.logged (.exited invocation.args code)) ↔ reply.Exits code)
  behind : ∀ before record after, events = before ++ .logged record :: after → record.IsSequel →
    ∃ invocation reply, before.getLast? = some (.started invocation reply) ∧
      record ∈ runner.sequel invocation.args reply

/-- A trail tells of every start what happened to it. -/
theorem Trail.traced {runner : Runner} {milliseconds : Int} {events : List Event}
    (h : Trail runner events) (hlimit : runner.limit.value.whole = .ok milliseconds) :
    runner.Traced milliseconds events where
  announced before invocation reply after hevents := by
    cases Stands.of_trail h hevents with
    | started last _ => exact last
  timedOut before invocation reply after hevents := by
    cases Stands.of_trail h hevents with
    | started _ trail =>
      rw [trail.head?_behind_iff (.timedOut _ _), Runner.mem_sequel_iff]
      constructor
      · rintro (⟨_, rfl, -, -⟩ | ⟨code, -, hexited⟩)
        · rfl
        · exact absurd hexited (Log.Record.timedOut_ne_exited _ _ _ _)
      · rintro rfl
        exact .inl ⟨milliseconds, rfl, hlimit, rfl⟩
  exited before invocation reply after code hevents := by
    cases Stands.of_trail h hevents with
    | started _ trail =>
      rw [trail.head?_behind_iff (.exited _ _), Runner.mem_sequel_iff]
      constructor
      · rintro (⟨_, -, -, htimedOut⟩ | ⟨code', hexits, hexited⟩)
        · exact absurd htimedOut.symm (Log.Record.timedOut_ne_exited _ _ _ _)
        · rwa [Log.Record.exited_inj hexited]
      · exact fun hexits => .inr ⟨code, hexits, rfl⟩
  behind before record after hevents hsequel := by
    cases Stands.of_trail h hevents with
    | noted _ channel => exact absurd hsequel.eq.1 channel
    | announced args _ => exact absurd hsequel (Log.Record.not_isSequel_announcement runner args)
    | behind _ last mem => exact ⟨_, _, last, mem⟩

namespace Session

open WorkTree.Action (Keeps)

/-! ## The trail of a session -/

/-- The trace is a trail. -/
def trail (w : Workspace) : TraceRelation State where
  holds _ events _ := Trail w.runner events
  nil _ := .nil
  append := Trail.append

/-- A command that is given leaves a trail. -/
lemma git_keeps_trail (w : Workspace) (command : Command) : Keeps (trail w) (git w command) := by
  intro state
  rw [← List.append_nil ((git w command).run state).events]
  exact .given (git_block w command state) .nil

/-- Every call leaves a trail. -/
lemma perform_keeps_trail (w : Workspace) (call : Call) : Keeps (trail w) (perform w call) := by
  have hkept : KeptByQuestions (trail w) w call.Asks :=
    keptByQuestions_of_git (fun _ _ _ => .noted (by nofun) .nil) (fun _ _ _ => .nil)
      fun command _ _ => git_keeps_trail w command
  exact hkept.perform (fun command _ => git_keeps_trail w command) fun _ => .nil

/-- The trace of a session is a trail. -/
theorem history_trail (w : Workspace) (calls : List Call) (state : State) :
    Trail w.runner ((history w calls state).flatMap fun step => step.run.events) :=
  history_keeps (perform_keeps_trail w) calls state

end Session

end WorkTree
