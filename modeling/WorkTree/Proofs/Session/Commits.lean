import WorkTree.Proofs.Session.Vetting

set_option relaxedAutoImplicit false
set_option autoImplicit false

/-!
# Commits of named files

A caller who commits names no files, a single one or some in a row, by texts or by paths. Whatever
is named goes into two commands, one that stages and one that commits, and into the answer. All
three are about the same paths: those that were named, in the same order and as often as they were
named. Only where none is named are both commands about everything, and then the answer says so in
a way in which no path can be named.

## Main definitions

* `WorkTree.NamedFiles` — what a caller may name, with its value and its paths.
* `WorkTree.CommitScope.stageWords`, `WorkTree.CommitScope.commitWords` — the arguments of the two
  commands for some paths.
* `WorkTree.CommitScope.files` — how an answer shows what was committed.
* `WorkTree.Session.CommitsJust` — a commit that is about some paths and about nothing else.

## Main results

* `WorkTree.CommitScope.files_injective` — what was committed can be told from the answer.
* `WorkTree.Session.commit_commitsJust` — every commit is about the named paths only.
-/

namespace WorkTree

/-! ## What a caller names -/

/-- A file that a caller names, by a text or by a path. -/
inductive NamedFile where
  | text (s : String)
  | path (p : Path)

namespace NamedFile

/-- The value that a caller gives for a file. -/
def value : NamedFile → Value
  | .text s => .text s
  | .path p => .path p

/-- The text of a file. -/
def pathText : NamedFile → String
  | .text s => s
  | .path p => p.text

end NamedFile

/-- The files that a caller names: none at all, a single one, or some in a row. -/
inductive NamedFiles where
  | unnamed
  | single (file : NamedFile)
  | several (files : List NamedFile)

namespace NamedFiles

/-- The value that a caller gives for files. -/
def value : NamedFiles → Value
  | .unnamed => .null
  | .single file => file.value
  | .several files => .list (files.map NamedFile.value)

/-- The texts of the files that are named, in order. -/
def paths : NamedFiles → List String
  | .unnamed => []
  | .single file => [file.pathText]
  | .several files => files.map NamedFile.pathText

end NamedFiles

namespace CommitScope

/-- The paths that a caller names are those that are read. -/
lemma pathsOf_value (files : NamedFiles) : pathsOf files.value = .ok files.paths := by
  cases files with
  | unnamed => rfl
  | single file => cases file <;> rfl
  | several files =>
    have htexts : (files.map NamedFile.value).map Value.asText =
        files.map NamedFile.pathText := by
      rw [List.map_map]
      refine List.map_congr_left fun file _ => ?_
      cases file <;> rfl
    rw [NamedFiles.value, pathsOf, htexts]
    rfl

/-! ## What is told to git, and what is answered -/

/-- The arguments of the command that stages some paths; no path at all means everything. -/
def stageWords : List String → List String
  | [] => ["add", "--all"]
  | paths => ["add", "--"] ++ paths

/-- The arguments of the command that commits some paths; no path at all means everything that was
staged. -/
def commitWords (message : String) : List String → List String
  | [] => ["commit", "-m", message]
  | paths => ["commit", "-m", message, "--"] ++ paths

/-- How an answer shows what was committed: everything by a text of its own, paths in a row. -/
def files : CommitScope → Value
  | .everything => .text everythingText
  | .only paths => .list (paths.map .text)

/-- **What was committed can be told from the answer**, also when the text for everything is the
name of a file. -/
theorem files_injective {scope scope' : CommitScope} (h : scope.files = scope'.files) :
    scope = scope' := by
  cases scope with
  | everything => cases scope' with
    | everything => rfl
    | only paths => cases h
  | only paths => cases scope' with
    | everything => cases h
    | only paths' =>
      have hpaths := Value.list.inj h
      rw [List.map_inj_right fun _ _ htext => Value.text.inj htext] at hpaths
      rw [hpaths]

/-- The command that stages some paths, by its arguments. -/
lemma stageCommand_names_iff {paths args : List String} :
    (ofPaths paths).stageCommand.Names args ↔ args = stageWords paths :=
  Command.names_iff (by cases paths <;> rfl)

/-- The command that commits some paths, by its arguments. -/
lemma commitCommand_names_iff {message : String} {paths args : List String} :
    ((ofPaths paths).commitCommand message).Names args ↔ args = commitWords message paths :=
  Command.names_iff (by cases paths <;> rfl)

/-- Paths are not staged by staging everything. -/
lemma stageWords_ne_all {paths : List String} (h : paths ≠ []) :
    stageWords paths ≠ stageWords [] := by
  cases paths with
  | nil => exact absurd rfl h
  | cons path rest => simp [stageWords]

/-- Paths are not committed by committing everything that was staged. -/
lemma commitWords_ne_staged {paths : List String} (h : paths ≠ []) (message text : String) :
    commitWords message paths ≠ commitWords text [] := by
  cases paths with
  | nil => exact absurd rfl h
  | cons path rest => simp [commitWords]

end CommitScope

namespace Session

open CommitScope (stageWords commitWords everythingText)

/-! ## Runs of commits -/

/-- How two commands are given: the second one only if the first one succeeded. -/
lemma GivesAll.pair {first second : Command} {given : List Spawn} {all : Bool}
    (h : GivesAll [first, second] given all) :
    (given = [] ∧ all = false) ∨
      (∃ spawn, given = [spawn] ∧ first.Names spawn.args ∧ all = false) ∨
      ∃ spawn spawn', given = [spawn, spawn'] ∧ Made first spawn ∧ second.Names spawn'.args := by
  cases h with
  | never => exact .inl ⟨rfl, rfl⟩
  | refused _ args _ => exact .inr (.inl ⟨_, rfl, args, rfl⟩)
  | next made hrest =>
    cases hrest with
    | never => exact .inr (.inl ⟨_, rfl, made.1, rfl⟩)
    | refused _ args _ => exact .inr (.inr ⟨_, _, rfl, made, args⟩)
    | next made' hdone =>
      cases hdone
      exact .inr (.inr ⟨_, _, rfl, made, made'.1⟩)

/-- Preparing a commit is passing the gate. -/
lemma prepare_commit (w : Workspace) (message : String) {files : Value} {scope : CommitScope}
    (h : CommitScope.ofFiles files = .ok scope) :
    prepare w (.commit (.text message) files) =
      (fun _ => .commit ⟨message, scope⟩) <$> requireRepository w := by
  rw [prepare, h, ← bind_pure_comp]
  rfl

/-- A commit that is about some paths and about nothing else: what is given to git behind the gate,
and what is answered. -/
structure CommitsJust (w : Workspace) (state : State) (message : String) (paths : List String)
    (given : List Spawn) (r : Run State Answer) : Prop where
  /-- Behind what the gate starts, which is the command of the detection, -/
  spawns : r.spawns = ((requireRepository w).run state).spawns ++ given
  gate : ∀ spawn ∈ ((requireRepository w).run state).spawns, spawn.args = Slot.isRepository.words
  /-- the paths are staged at most once and then committed at most once, -/
  args : given.map Spawn.args <+: [stageWords paths, commitWords message paths]
  /-- the latter only if the former ended with the exit code zero. -/
  staged : ∀ stage commit, given = [stage, commit] → stage.reply.isSuccess = true
  /-- Where a path is named, nothing is done with everything. -/
  named : paths ≠ [] → ∀ spawn ∈ r.spawns,
    spawn.args ≠ ["add", "--all"] ∧ ∀ text, spawn.args ≠ ["commit", "-m", text]
  /-- The answer comes behind both commands, and says what they were about: the paths in a row, or
  everything exactly if there are none. -/
  answered : ∀ answer, r.outcome = .answered answer →
    given.map Spawn.args = [stageWords paths, commitWords message paths] ∧
      ∃ info : CommitInfo, answer = .committed info ∧ info.message = message ∧
        info.scope.files =
          if paths = [] then .text everythingText else .list (paths.map .text)
  /-- So the answer tells which commands were given. -/
  told : ∀ info : CommitInfo, r.outcome = .answered (.committed info) →
    (info.scope.files = .text everythingText ↔
      given.map Spawn.args = [["add", "--all"], ["commit", "-m", message]])

/-- What an answer shows for some paths. -/
lemma files_ofPaths (paths : List String) :
    (CommitScope.ofPaths paths).files =
      if paths = [] then .text everythingText else .list (paths.map .text) := by
  cases paths <;> rfl

/-- What an order to commit comes to when its files are some paths. -/
lemma alteration?_commit {message : String} {files : Value} {paths : List String}
    (h : CommitScope.pathsOf files = .ok paths) (current : Option Value) :
    (Order.commit (.text message) files).alteration? current =
      some (.commit ⟨message, .ofPaths paths⟩) := by
  simp [Order.alteration?, messageText, CommitScope.ofFiles, h, Except.map]

/-- The two commands of a commit are given in order, and the second one only if the first one
succeeded. -/
lemma GivesAll.commit {message : String} {paths : List String} {given : List Spawn} {all : Bool}
    (h : GivesAll (Alteration.commit ⟨message, .ofPaths paths⟩).commands given all) :
    given.map Spawn.args <+: [stageWords paths, commitWords message paths] ∧
      (∀ stage commit, given = [stage, commit] → stage.reply.isSuccess = true) ∧
      (all = true → given.map Spawn.args = [stageWords paths, commitWords message paths]) := by
  rcases h.pair with ⟨rfl, rfl⟩ | ⟨spawn, rfl, hstage, rfl⟩ | ⟨spawn, spawn', rfl, made, hcommit⟩
  · exact ⟨List.nil_prefix, fun _ _ heq => (nomatch heq), nofun⟩
  · rw [CommitScope.stageCommand_names_iff] at hstage
    rw [List.map_singleton, hstage]
    exact ⟨⟨_, rfl⟩, fun _ _ heq => (nomatch heq), nofun⟩
  · have hstage := CommitScope.stageCommand_names_iff.1 made.1
    rw [CommitScope.commitCommand_names_iff] at hcommit
    rw [List.map_cons, List.map_singleton, hstage, hcommit]
    refine ⟨List.prefix_rfl, fun stage commit heq => ?_, fun _ => rfl⟩
    obtain ⟨rfl, -⟩ := List.cons.inj heq
    exact made.2

/-- What is given to git for a commit of some paths, and the answer, if there is one.

**Proof sketch.** By the three ways in which an order ends (`order_run`). Its preparation is passing
the gate, and what it comes to is a commit of the paths. -/
lemma commit_run (w : Workspace) (state : State) (message : String) {files : Value}
    {paths : List String} (h : CommitScope.pathsOf files = .ok paths) :
    ∃ given,
      ((perform w (.commit (.text message) files)).run state).spawns =
        ((requireRepository w).run state).spawns ++ given ∧
      given.map Spawn.args <+: [stageWords paths, commitWords message paths] ∧
      (∀ stage commit, given = [stage, commit] → stage.reply.isSuccess = true) ∧
      ∀ answer, ((perform w (.commit (.text message) files)).run state).outcome =
          .answered answer →
        given.map Spawn.args = [stageWords paths, commitWords message paths] ∧
          answer = .committed ⟨message, .ofPaths paths⟩ := by
  have hgate : ((prepare w (.commit (.text message) files)).run state).spawns =
      ((requireRepository w).run state).spawns := by
    have hfiles : CommitScope.ofFiles files = .ok (.ofPaths paths) := by
      rw [CommitScope.ofFiles, h]
      rfl
    rw [prepare_commit w message hfiles, Action.run_map]
    rfl
  have hends : Ends w (.commit (.text message) files) state
      ((perform w (.commit (.text message) files)).run state) :=
    order_run w (.commit (.text message) files) state
  generalize (perform w (.commit (.text message) files)).run state = r at hends ⊢
  rw [← hgate]
  cases hends with
  | unprepared spawns _ outcome =>
    refine ⟨[], by rw [List.append_nil, spawns], List.nil_prefix,
      fun _ _ heq => (nomatch heq), fun answer hanswer => ?_⟩
    rw [hanswer] at outcome
    cases outcome
  | stopped alteration given settled gives spawns _ outcome =>
    rw [alteration?_commit h] at settled
    obtain rfl := Option.some.inj settled
    obtain ⟨hargs, hstaged, -⟩ := gives.commit
    refine ⟨given, spawns, hargs, hstaged, fun answer hanswer => ?_⟩
    rw [hanswer] at outcome
    cases outcome
  | made alteration given settled gives spawns _ outcome =>
    rw [alteration?_commit h] at settled
    obtain rfl := Option.some.inj settled
    obtain ⟨hargs, hstaged, hall⟩ := gives.commit
    refine ⟨given, spawns, hargs, hstaged, fun answer hanswer => ⟨hall rfl, ?_⟩⟩
    exact Outcome.answered.inj (hanswer.symm.trans outcome)

/-- **A commit is about the named paths only**, in every state, with any replies, and whatever is
named.

**Proof sketch.** The paths that are named are those that are read (`CommitScope.pathsOf_value`),
and both the commands and the answer are made of these (`commit_run`). No argument behind `--` turns
one of the commands into the one for everything. -/
theorem commit_commitsJust (w : Workspace) (state : State) (message : String)
    (files : NamedFiles) :
    ∃ given, CommitsJust w state message files.paths given
      ((perform w (.commit (.text message) files.value)).run state) := by
  obtain ⟨given, hspawns, hargs, hstaged, hanswered⟩ :=
    commit_run w state message (CommitScope.pathsOf_value files)
  have hgate := requireRepository_spawns w state
  refine ⟨given, hspawns, hgate, hargs, hstaged, ?_, ?_, ?_⟩
  · intro hpaths spawn hmem
    rw [hspawns] at hmem
    rcases List.mem_append.1 hmem with hmem | hmem
    · rw [hgate spawn hmem]
      exact ⟨by decide, fun text => by simp [Slot.words]⟩
    · have hwords := hargs.subset (List.mem_map_of_mem hmem)
      rcases List.mem_cons.1 hwords with hstage | hwords
      · rw [hstage]
        refine ⟨CommitScope.stageWords_ne_all hpaths, fun text => ?_⟩
        cases hnamed : files.paths <;> simp [stageWords]
      · rw [List.mem_singleton.1 hwords]
        refine ⟨?_, CommitScope.commitWords_ne_staged hpaths message⟩
        cases hnamed : files.paths <;> simp [commitWords]
  · intro answer hanswer
    obtain ⟨hgiven, rfl⟩ := hanswered answer hanswer
    exact ⟨hgiven, _, rfl, rfl, files_ofPaths files.paths⟩
  · intro info hanswer
    obtain ⟨hgiven, hinfo⟩ := hanswered _ hanswer
    obtain rfl := Answer.committed.inj hinfo
    rw [hgiven, files_ofPaths]
    by_cases hpaths : files.paths = []
    · simp [hpaths, stageWords, commitWords]
    · rw [if_neg hpaths]
      refine iff_of_false (fun htext => ?_) fun heq => ?_
      · cases htext
      · exact CommitScope.stageWords_ne_all hpaths (List.cons.inj heq).1

end Session

end WorkTree
