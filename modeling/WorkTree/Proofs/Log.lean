import Mathlib.Data.List.Induction
import Mathlib.Tactic.Lemma
import WorkTree.Log.Setup

set_option relaxedAutoImplicit false
set_option autoImplicit false

/-!
# Setting up the log again and again

The log can be set up any number of times, at levels that are in order or not. A set-up that is
refused changes nothing, although the level is looked at twice, before the former handlers are
removed and after. One that is accepted leaves nothing of what was there before. So after any
set-ups the channel is as the last accepted one wants it, or as it was at the start if none was
accepted.

## Main definitions

* `WorkTree.Log.SetupCall` — what a caller asks for when the log is set up.
* `WorkTree.Log.SetupCall.AsksFor` — the level that a caller asks for, if it is one.
* `WorkTree.Log.Logger.after`, `WorkTree.Log.Logger.accepted` — the channel after some set-ups, and
  those of them that were accepted.
* `WorkTree.Log.Logger.IsSettled` — the channel is as the last accepted set-up wants it.

## Main results

* `WorkTree.Log.SetupCall.run_cases` — the two ways in which a set-up ends.
* `WorkTree.Log.Logger.after_isSettled` — how the channel is after any number of set-ups.
-/

namespace WorkTree.Log

/-! ## What a caller asks for -/

/-- What a caller asks for when the log is set up. -/
structure SetupCall where
  level : Value
  verbose : Bool

/-- The level that a caller asks for: the debugging level by `verbose`, whatever else is said; a
number, without its fraction; the level of a name, in letters of either case; and the information
level by any other text that stands for nothing. What is said otherwise asks for no level. -/
inductive SetupCall.AsksFor : SetupCall → Level → Prop where
  | verbose (level : Value) : AsksFor ⟨level, true⟩ .debug
  | integer (n : Int) : AsksFor ⟨.int n, false⟩ n
  | truth (b : Bool) : AsksFor ⟨.bool b, false⟩ (if b then 1 else 0)
  | real {x : Double} {n : Int} (whole : x.whole = .ok n) : AsksFor ⟨.real x, false⟩ n
  | name {s : String} {level : Level}
      (known : named.lookup (Text.upcase s) = some (.number level)) :
      AsksFor ⟨.text s, false⟩ level
  | unknown {s : String} (strange : named.lookup (Text.upcase s) = none) :
      AsksFor ⟨.text s, false⟩ .info

/-- What a name stands for is a level, or the level of this is refused. -/
lemma named_lookup_cases {s : String} {request : Request} (h : named.lookup s = some request) :
    (∃ level, request = .number level) ∨ ∃ fault, request.level = .error fault := by
  obtain ⟨before, after, hnamed, -⟩ := List.lookup_eq_some_iff.1 h
  have hmem : (s, request) ∈ named := hnamed ▸ by simp
  have hall : ∀ entry ∈ named,
      (∃ level, entry.2 = .number level) ∨ ∃ fault, entry.2.level = .error fault := by
    simp only [named, List.forall_mem_cons]
    refine ⟨.inl ⟨_, rfl⟩, .inl ⟨_, rfl⟩, .inl ⟨_, rfl⟩, .inl ⟨_, rfl⟩, .inl ⟨_, rfl⟩,
      .inl ⟨_, rfl⟩, .inl ⟨_, rfl⟩, .inl ⟨_, rfl⟩, .inr ⟨_, rfl⟩, .inr ⟨_, rfl⟩, nofun⟩
  exact hall _ hmem

namespace SetupCall

/-- What a call comes to before its level is accepted. -/
def request (call : SetupCall) : Except Fault Request :=
  if call.verbose then .ok (.number .debug) else Request.ofValue call.level

/-- A call asks for a level, or what it comes to is refused as a level, and then it asks for
none. -/
lemma request_cases (call : SetupCall) :
    (∃ level, call.AsksFor level ∧ call.request = .ok (.number level)) ∨
      (∀ level, ¬ call.AsksFor level) ∧
        ∃ fault, call.request.bind Request.level = .error fault := by
  obtain ⟨v, verbose⟩ := call
  cases verbose with
  | true => exact .inl ⟨_, .verbose v, rfl⟩
  | false =>
    cases v with
    | int n => exact .inl ⟨n, .integer n, rfl⟩
    | bool b => exact .inl ⟨_, .truth b, rfl⟩
    | real x =>
      cases hwhole : x.whole with
      | ok n => exact .inl ⟨n, .real hwhole, by simp [request, Request.ofValue, hwhole, Except.map]⟩
      | error fault =>
        refine .inr ⟨fun level h => ?_, fault, ?_⟩
        · cases h with
          | real whole => rw [hwhole] at whole; cases whole
        · simp [request, Request.ofValue, hwhole, Except.map, Except.bind]
    | text s =>
      cases hlookup : named.lookup (Text.upcase s) with
      | none =>
        exact .inl ⟨_, .unknown hlookup, by simp [request, Request.ofValue, hlookup]⟩
      | some found =>
        rcases named_lookup_cases hlookup with ⟨level, rfl⟩ | ⟨fault, hfault⟩
        · exact .inl ⟨level, .name hlookup, by simp [request, Request.ofValue, hlookup]⟩
        · refine .inr ⟨fun level h => ?_, fault, ?_⟩
          · cases h with
            | name known =>
              rw [hlookup] at known
              obtain rfl := Option.some.inj known
              cases hfault
            | unknown strange => rw [hlookup] at strange; cases strange
          · simp [request, Request.ofValue, hlookup, Except.bind, hfault]
    | null | path p | list items | record fields =>
      exact .inr ⟨fun level h => (nomatch h), _, rfl⟩

/-- What a set-up comes to, and the channel that it leaves. -/
def run (logger : Logger) (call : SetupCall) : Except Fault Unit × Logger :=
  logger.setup call.level call.verbose

/-- The channel that a set-up at a level wants: with this level, one handler for the console that
has it as well, and no one above. -/
def settled (level : Level) : Logger where
  level := level
  handlers := [⟨.console, level⟩]
  propagate := false

/-- **One set-up.** A call that asks for a level is accepted, and the channel is then as it wants
it; any other call is refused, and the channel is as it was.

**Proof sketch.** The level that is refused when the handler is made would be refused again
afterwards, so nothing is refused any more when the former handlers are gone. -/
theorem run_cases (logger : Logger) (call : SetupCall) :
    (∃ level, call.AsksFor level ∧ call.run logger = (.ok (), settled level)) ∨
      (∀ level, ¬ call.AsksFor level) ∧ ∃ fault, call.run logger = (.error fault, logger) := by
  rcases call.request_cases with ⟨level, hasks, hrequest⟩ | ⟨hnone, fault, hrefused⟩
  · refine .inl ⟨level, hasks, ?_⟩
    rw [request] at hrequest
    simp only [run, Logger.setup, hrequest]
    rfl
  · refine .inr ⟨hnone, ?_⟩
    rw [request] at hrefused
    simp only [run, Logger.setup]
    split
    · next fault' _ => exact ⟨fault', rfl⟩
    · next wanted hwanted =>
      rw [hwanted] at hrefused
      have hlevel : wanted.level = .error fault := hrefused
      simp only [Logger.handlerFor, hlevel, Except.map]
      exact ⟨fault, rfl⟩

end SetupCall

/-! ## Any number of set-ups -/

namespace Logger

/-- The channel after some set-ups, one after the other. -/
def after (logger : Logger) (calls : List SetupCall) : Logger :=
  calls.foldl (fun logger call => (call.run logger).2) logger

/-- Those of some set-ups that are accepted, in order. -/
def accepted (logger : Logger) : List SetupCall → List SetupCall
  | [] => []
  | call :: rest =>
    match call.run logger with
    | (.ok (), logger') => call :: logger'.accepted rest
    | (.error _, logger') => logger'.accepted rest

/-- The channel is as it was at the start, or as the last set-up that was accepted wants it. -/
structure IsSettled (start : Logger) (calls : List SetupCall) (logger : Logger) : Prop where
  /-- As long as no set-up was accepted, nothing has changed. -/
  initial : start.accepted calls = [] → logger = start
  /-- Otherwise there is one handler, for the console, and it has the level of the channel, which is
  the one that the last accepted set-up asks for; and nothing is passed on. -/
  settled : ∀ call, (start.accepted calls).getLast? = some call → ∃ level, call.AsksFor level ∧
    logger.level = level ∧ logger.handlers = [⟨.console, level⟩] ∧ logger.propagate = false
  /-- One more set-up is accepted exactly when it asks for a level, -/
  accepts_iff : ∀ call : SetupCall, (call.run logger).1 = .ok () ↔ ∃ level, call.AsksFor level
  /-- and one that is refused changes nothing. -/
  refused : ∀ (call : SetupCall) (fault : Fault), (call.run logger).1 = .error fault →
    (call.run logger).2 = logger

/-- The channel after one more set-up. -/
lemma after_concat (logger : Logger) (calls : List SetupCall) (call : SetupCall) :
    logger.after (calls ++ [call]) = (call.run (logger.after calls)).2 := by
  rw [after, List.foldl_append]
  rfl

/-- One more set-up is accepted or not in the channel that the former ones leave. -/
lemma accepted_concat (logger : Logger) (calls : List SetupCall) (call : SetupCall) :
    logger.accepted (calls ++ [call]) =
      logger.accepted calls ++
        match (call.run (logger.after calls)).1 with
        | .ok () => [call]
        | .error _ => [] := by
  induction calls generalizing logger with
  | nil =>
    rw [List.nil_append, accepted]
    rcases hrun : call.run logger with ⟨_ | _, logger'⟩ <;> simp [after, hrun, accepted]
  | cons first rest ih =>
    rw [List.cons_append, accepted, accepted]
    rcases hrun : first.run logger with ⟨_ | _, logger'⟩ <;> simp [ih, after, hrun]

/-- A level is asked for exactly by the set-ups that are accepted. -/
lemma run_accepted_iff (logger : Logger) (call : SetupCall) :
    (call.run logger).1 = .ok () ↔ ∃ level, call.AsksFor level := by
  rcases call.run_cases logger with ⟨level, hasks, hrun⟩ | ⟨hnone, fault, hrun⟩
  · simp only [hrun, true_iff]
    exact ⟨level, hasks⟩
  · simp [hrun, hnone]

/-- A set-up that is refused changes nothing. -/
lemma run_refused {logger : Logger} {call : SetupCall} {fault : Fault}
    (h : (call.run logger).1 = .error fault) : (call.run logger).2 = logger := by
  rcases call.run_cases logger with ⟨level, hasks, hrun⟩ | ⟨hnone, fault', hrun⟩
  · rw [hrun] at h
    cases h
  · rw [hrun]

/-- **The log is set up as the last accepted set-up wants it**, whatever the channel was like at the
start and however many set-ups were accepted or refused.

**Proof sketch.** Induction on the set-ups, from the front to the end. The last one is accepted and
leaves nothing of what was there before, or it is refused and changes nothing
(`SetupCall.run_cases`). -/
theorem after_isSettled (start : Logger) (calls : List SetupCall) :
    IsSettled start calls (start.after calls) where
  initial := by
    induction calls using List.reverseRecOn with
    | nil => exact fun _ => rfl
    | append_singleton calls call ih =>
      rw [accepted_concat, after_concat]
      rcases call.run_cases (start.after calls) with ⟨level, -, hrun⟩ | ⟨-, fault, hrun⟩
      · simp [hrun]
      · simpa [hrun] using ih
  settled := by
    induction calls using List.reverseRecOn with
    | nil => exact fun _ hlast => nomatch hlast
    | append_singleton calls call ih =>
      rw [accepted_concat, after_concat]
      rcases call.run_cases (start.after calls) with ⟨level, hasks, hrun⟩ | ⟨-, fault, hrun⟩
      · intro last hlast
        obtain rfl : call = last := by simpa [hrun] using hlast
        exact ⟨level, hasks, by simp [hrun, SetupCall.settled]⟩
      · simpa [hrun] using ih
  accepts_iff := run_accepted_iff _
  refused _ _ := run_refused

end Logger

end WorkTree.Log
