import WorkTree.Proofs.Listing.Merged
import WorkTree.Proofs.Session.Deletions

set_option relaxedAutoImplicit false
set_option autoImplicit false

/-!
# Deleting the branches that git lists

When git lists the branches that are merged into a target, the session reads their names from the
listing and deletes them, or reports them. The names that it reads are those that git has printed
exactly when they can be read back; a name with a line break or a blank from beyond ASCII in it may
be read as something else, and then another branch may be deleted.

## Main results

* `WorkTree.Session.cleanup_run` — how the branches that git lists are deleted.
* `WorkTree.Session.merged_eq_iff` — the branches that are deleted, or reported, are those that git
  has printed, without the target and the current branch, exactly when their names are read back.
* `WorkTree.Session.merged_of_separator` — a branch that is deleted although git has not printed it.
-/

namespace WorkTree

namespace Session

open WorkTree.Action (Keeps FailsWith)

/-! ## The listing -/

/-- Passing the gate and looking for a branch lists nothing. -/
lemma requireBranch_keeps_unlisted (w : Workspace) (target : Value) :
    Keeps (.every fun spawn => spawn.args.head? ≠ some "for-each-ref")
      (requireRepository w >>= fun _ => requireBranch w target) := by
  have hdetect : Keeps (.every fun spawn => spawn.args.head? ≠ some "for-each-ref")
      (detectRepository w) := by
    intro state spawn hmem
    rw [detectRepository_spawns w state spawn hmem]
    simp [Slot.words]
  have hshow : Keeps (.every fun spawn => spawn.args.head? ≠ some "for-each-ref")
      (git w (.showBranch target.asText)) := by
    refine git_keeps_every w fun spawn hnames => ?_
    rw [hnames.head?]
    simp [Command.verb]
  refine (hdetect.bind fun _ => .ensure _ _).bind fun _ => ?_
  exact (hshow.bind fun _ => .pure _).bind fun _ => .ensure _ _

/-- When git lists the merged branches, that is what comes before the question for the current
branch, and the answer is the listing. -/
lemma approach_of_listing {w : Workspace} {target : Value} {dryRun : Bool} {state : State}
    {listing : Spawn} {completion : Completion}
    (hmem : listing ∈ ((approach w (.cleanup target dryRun)).run state).spawns)
    (hnames : (Command.listMerged target.asText).Names listing.args)
    (hreply : listing.reply.success? = some completion) :
    ((approach w (.cleanup target dryRun)).run state).outcome = .answered completion.out := by
  have hlook := requireBranch_keeps_unlisted w target state
  have happroach : approach w (.cleanup target dryRun) =
      (requireRepository w >>= fun _ => requireBranch w target) >>= fun _ =>
        gitChecked w (.listMerged target.asText) := (bind_assoc _ _ _).symm
  rw [happroach] at hmem ⊢
  rcases Action.mem_spawns_bind_iff.1 hmem with hearlier | ⟨⟨⟩, hvalue, hlisting⟩
  · exact absurd hnames.head? (hlook listing hearlier)
  · rw [Action.run_bind_of_answered hvalue]
    cases gitChecked_run w (.listMerged target.asText) ((requireRepository w >>= fun _ =>
        requireBranch w target).run state).state with
    | never spawns _ => simp [spawns] at hlisting
    | refused spawn spawns _ reply _ =>
      obtain rfl : listing = spawn := by simpa [spawns] using hlisting
      simp [Reply.isSuccess, hreply] at reply
    | done spawn completion' spawns _ reply outcome =>
      obtain rfl : listing = spawn := by simpa [spawns] using hlisting
      obtain rfl := Option.some.inj (hreply.symm.trans reply)
      exact outcome

/-! ## Deleting what was listed -/

/-- Deleting branches one after the other changes neither the target nor which of them were
found. -/
lemma deleteEach_found {w : Workspace} {names : List String} {report report' : CleanupReport}
    {state : State} (h : ((deleteEach w names report).run state).outcome = .answered report') :
    report'.target = report.target ∧ report'.merged = report.merged := by
  induction names generalizing report state with
  | nil =>
    obtain rfl := Outcome.answered.inj h
    exact ⟨rfl, rfl⟩
  | cons name rest ih =>
    obtain ⟨answer, -, h⟩ := Action.answered_bind_iff.1 h
    cases answer with
    | ok output =>
      have hfound := ih h
      exact hfound
    | error cause =>
      obtain ⟨⟨⟩, -, h⟩ := Action.answered_bind_iff.1 h
      have hfound := ih h
      exact hfound

/-- What is started to delete the merged branches deletes one of them, not by force. -/
lemma remove_cleanup_spawns (w : Workspace) (target : Value) (dryRun : Bool) (listing : String)
    (current : Option String) (state : State) :
    ∀ spawn ∈ ((remove w listing current (.cleanup target dryRun)).run state).spawns,
      ∃ name ∈ Listing.mergedNames (target.text?.toList ++ current.toList) listing,
        spawn.Deletes name false := by
  refine remove_cleanup_keeps (fun _ _ _ => TraceRelation.every_of_no_spawns rfl) ?_ state
  intro _ name hmem
  exact git_keeps_every w fun spawn hnames => ⟨name, hmem, Spawn.deletes_of_names hnames⟩

/-- Deleting the branches that are merged into a target of that name, or reporting them, answers
with those that were read from the listing, unless a fault is the end of a deletion.

**Proof sketch.** A text can be looked up in a set. A report is answered at once, and deleting the
branches does not fail (`deleteEach_failsWith`) and does not change which were found
(`deleteEach_found`). -/
lemma remove_cleanup_outcome (w : Workspace) (target : String) (dryRun : Bool) (listing : String)
    (current : Option String) (state : State) :
    (∃ report, ((remove w listing current (.cleanup (.text target) dryRun)).run state).outcome =
        .answered (.cleaned report) ∧
      report.merged = Listing.mergedNames (target :: current.toList) listing) ∨
    dryRun = false ∧ ∃ fault,
      ((remove w listing current (.cleanup (.text target) dryRun)).run state).outcome =
        .aborted fault := by
  cases dryRun with
  | true => exact .inl ⟨_, rfl, rfl⟩
  | false =>
    cases houtcome : ((remove w listing current (.cleanup (.text target) false)).run
        state).outcome with
    | failed cause =>
      exact (remove_cleanup_failsWith (p := fun _ => False) w listing current _ _ state cause
        houtcome).elim
    | aborted fault => exact .inr ⟨rfl, fault, rfl⟩
    | answered answer =>
      obtain ⟨⟨⟩, -, h⟩ := Action.answered_bind_iff.1 houtcome
      obtain ⟨report, hreport, h⟩ := Action.answered_bind_iff.1 h
      obtain ⟨⟨⟩, -, h⟩ := Action.answered_bind_iff.1 h
      obtain ⟨⟨⟩, -, h⟩ := Action.answered_bind_iff.1 h
      obtain rfl := Outcome.answered.inj h
      exact .inl ⟨report, rfl, (deleteEach_found hreport).2⟩

/-- The listing of merged branches is a part of what comes before the question for the current
branch. -/
lemma mem_approach_of_listing {w : Workspace} {target : Value} {dryRun : Bool} {state : State}
    {listing : Spawn}
    (hmem : listing ∈ ((perform w (.cleanup target dryRun)).run state).spawns)
    (hnames : (Command.listMerged target.asText).Names listing.args) :
    listing ∈ ((approach w (.cleanup target dryRun)).run state).spawns := by
  have hverb := hnames.head?
  rw [perform_of_isRemoval rfl] at hmem
  rcases Action.mem_spawns_bind_iff.1 hmem with happroach | ⟨output, hanswer, hrest⟩
  · exact happroach
  · rcases Action.mem_spawns_bind_iff.1 hrest with hquestion | ⟨current, hcurrent, hremove⟩
    · have hlearns := currentBranchName?_run (isInside_of_approach hanswer) w
      rw [hlearns.args listing hquestion] at hverb
      simp [Question.words, Command.currentBranchWords, Command.verb] at hverb
    · obtain ⟨name, -, hdeletes⟩ := remove_cleanup_spawns w target dryRun output current _ _ hremove
      rw [hdeletes] at hverb
      simp [Command.verb] at hverb

/-- How the branches that git lists are deleted, or reported, when the current one is known: the
answer tells those that are read from the listing without the target and the current branch, unless
a fault is the end of a deletion; and only these are deleted. -/
lemma cleanup_run {w : Workspace} {target : String} {dryRun : Bool} {state : State}
    {listing : Spawn} {completion : Completion} {value : Value}
    (hmem : listing ∈ ((perform w (.cleanup (.text target) dryRun)).run state).spawns)
    (hnames : (Command.listMerged target).Names listing.args)
    (hreply : listing.reply.success? = some completion)
    (hcurrent : ((perform w (.cleanup (.text target) dryRun)).run state).state.cache.get .branch =
      some value) :
    ((∃ report, ((perform w (.cleanup (.text target) dryRun)).run state).outcome =
          .answered (.cleaned report) ∧
        report.merged = Listing.mergedNames [target, value.asText] completion.out) ∨
      dryRun = false ∧ ∃ fault,
        ((perform w (.cleanup (.text target) dryRun)).run state).outcome = .aborted fault) ∧
    ∀ spawn ∈ ((perform w (.cleanup (.text target) dryRun)).run state).spawns, ∀ name force,
      spawn.Deletes name force →
        name ∈ Listing.mergedNames [target, value.asText] completion.out := by
  have hlisted := approach_of_listing (mem_approach_of_listing hmem hnames) hnames hreply
  have hlearns := currentBranchName?_run (isInside_of_approach hlisted) w
  rw [perform_of_isRemoval rfl, Action.state_bind_of_answered hlisted,
    slot_after_question rfl] at hcurrent
  have hlearned := hlearns.outcome_of_kept hcurrent
  rw [perform_of_isRemoval rfl]
  constructor
  · rw [Action.run_bind_of_answered hlisted, Action.run_bind_of_answered hlearned]
    exact remove_cleanup_outcome w target dryRun completion.out (some value.asText) _
  · intro spawn hspawn name force hdeletes
    rcases Action.mem_spawns_bind_iff.1 hspawn with happroach | ⟨output, hanswer, hrest⟩
    · exact absurd hdeletes ((approach_aside w _ state).1 spawn happroach |>.2 name force)
    -- What follows the listing goes by the answer of it, and what follows the question by that.
    · obtain rfl := Outcome.answered.inj (hlisted.symm.trans hanswer)
      rcases Action.mem_spawns_bind_iff.1 hrest with hquestion | ⟨current, hanswered, hremove⟩
      · exact absurd (hlearns.args spawn hquestion) (hdeletes.args_ne .branch)
      · obtain rfl := Outcome.answered.inj (hlearned.symm.trans hanswered)
        obtain ⟨name', hname', hdeletes'⟩ :=
          remove_cleanup_spawns w (.text target) dryRun completion.out _ _ spawn hremove
        rw [hdeletes.name_eq hdeletes']
        exact hname'

/-- **Deleting what git has printed.** Let git list the branches that are merged into a target, by
names that it gives to branches, and let the current branch be known. The branches that are then
deleted, or reported, are those that git has printed, in that order and without the target and the
current branch, exactly when the names that matter are read back as they were printed; and in that
case no branch is deleted that git has not printed.

**Proof sketch.** The names are read from the listing (`cleanup_run`), in which no name that git
gives is empty or holds a carriage return; what is read there is what was printed exactly when the
names are read back (`Listing.mergedNames_eq_filter_iff`). -/
theorem merged_eq_iff {w : Workspace} {target : String} {dryRun : Bool} {state : State}
    {names : List String} {listing : Spawn} {completion : Completion} {value : Value}
    (hlegal : ∀ name ∈ names, BranchName.IsLegal name.toList)
    (hmem : listing ∈ ((perform w (.cleanup (.text target) dryRun)).run state).spawns)
    (hnames : (Command.listMerged target).Names listing.args)
    (hreply : listing.reply.success? = some completion)
    (hout : completion.out = Branch.listing (names.map String.toList))
    (hcurrent : ((perform w (.cleanup (.text target) dryRun)).run state).state.cache.get .branch =
      some value) :
    let r := (perform w (.cleanup (.text target) dryRun)).run state
    let keptOut := [target, value.asText]
    ((∃ report, r.outcome = .answered (.cleaned report) ∧
        (report.merged = names.filter (fun name => !keptOut.contains name) ↔
          Listing.ReadBack names keptOut)) ∨
      dryRun = false ∧ ∃ fault, r.outcome = .aborted fault) ∧
    (Listing.ReadBack names keptOut →
      ∀ spawn ∈ r.spawns, ∀ name force, spawn.Deletes name force → name ∈ names) := by
  intro r keptOut
  have hplain : ∀ name ∈ names, name ≠ "" ∧ '\r' ∉ name.toList := by
    refine fun name hname => ⟨?_, (hlegal name hname).no_carriageReturn⟩
    rintro rfl
    exact (hlegal "" hname).ne_nil rfl
  have hread := Listing.mergedNames_eq_filter_iff hplain keptOut
  obtain ⟨houtcome, hdeletions⟩ := cleanup_run hmem hnames hreply hcurrent
  rw [hout] at houtcome hdeletions
  constructor
  · rcases houtcome with ⟨report, hreport, hmerged⟩ | hfault
    · exact .inl ⟨report, hreport, hmerged ▸ hread⟩
    · exact .inr hfault
  · intro hback spawn hspawn name force hdeletes
    have hname := hdeletions spawn hspawn name force hdeletes
    rw [hread.2 hback] at hname
    exact (List.mem_filter.1 hname).1

/-! ## Two listings -/

/-- A script of a repository in which `main` is checked out and the branch `topic` can be deleted,
with the listing of the branches that are merged into `main`. -/
def printing (listing : String) : Script :=
  .succeeding [(Slot.isRepository.words, "true\n"),
    (["show-ref", "--verify", "--quiet", "refs/heads/main"], ""),
    (["for-each-ref", "--format=%(refname:short)", "--merged=main", "refs/heads"], listing),
    (Question.branch.words, "main\n"), (["branch", "-d", "topic"], "")]

/-- Where the branches that are merged into `main` are printed, the command for that has succeeded.
The output has to be one in which no line ends are rewritten. -/
lemma exists_listing {spawns : List Spawn} {output : String}
    (hread : (Stream.text output).read = output)
    (h : ∃ spawn ∈ spawns,
      spawn.args = ["for-each-ref", "--format=%(refname:short)", "--merged=main", "refs/heads"] ∧
        spawn.reply = .completed (.int 0) (.text output) .absent) :
    ∃ spawn ∈ spawns, (Command.listMerged "main").Names spawn.args ∧
      spawn.reply.success? = some ⟨.int 0, output, ""⟩ := by
  obtain ⟨spawn, hmem, hargs, hreply⟩ := h
  refine ⟨spawn, hmem, ?_, ?_⟩
  · rw [hargs]
    rfl
  · rw [hreply, Reply.success?, hread]
    rfl

/-- A branch with a plain name is found and deleted. -/
theorem merged_eq_iff_topic :
    let names := ["topic", "main"]
    let r := (perform .plain (.cleanup (.text "main") false)).run
      (.initial (printing "topic\nmain\n"))
    (∀ name ∈ names, BranchName.IsLegal name.toList) ∧
      r.state.cache.get .branch = some (.text "main") ∧
      (∃ spawn ∈ r.spawns, (Command.listMerged "main").Names spawn.args ∧
        spawn.reply.success? = some ⟨.int 0, Branch.listing (names.map String.toList), ""⟩) ∧
      Listing.ReadBack names ["main", "main"] ∧
      (∃ report, r.outcome = .answered (.cleaned report) ∧ report.merged = ["topic"]) ∧
      ∀ spawn ∈ r.spawns, ∀ name force, spawn.Deletes name force → name ∈ names := by
  intro names r
  have hlegal : ∀ name ∈ names, BranchName.IsLegal name.toList := by decide
  have hcurrent : r.state.cache.get .branch = some (.text "main") := rfl
  have hback : Listing.ReadBack names ["main", "main"] :=
    Listing.readBack_of_isLegible (by decide) _
  have hout : Branch.listing (names.map String.toList) = "topic\nmain\n" := by decide
  obtain ⟨listing, hmem, hnames, hreply⟩ :
      ∃ spawn ∈ r.spawns, (Command.listMerged "main").Names spawn.args ∧
        spawn.reply.success? = some ⟨.int 0, "topic\nmain\n", ""⟩ :=
    exists_listing (by decide) (by decide)
  have hanswered : r.outcome.isAnswered = true := by decide
  obtain ⟨houtcome, hdeletions⟩ := merged_eq_iff hlegal hmem hnames hreply hout.symm hcurrent
  refine ⟨hlegal, hcurrent, ⟨listing, hmem, hnames, hout ▸ hreply⟩, hback, ?_, hdeletions hback⟩
  rcases houtcome with ⟨report, hreport, hmerged⟩ | ⟨-, fault, hfault⟩
  · exact ⟨report, hreport, hmerged.2 hback⟩
  · rw [show r.outcome = .aborted fault from hfault] at hanswered
    cases hanswered

/-- A branch is deleted although git has not printed its name: the name that it has printed holds a
line separator, and is taken for two. -/
theorem merged_of_separator :
    let names := ["a\u2028topic", "main"]
    let r := (perform .plain (.cleanup (.text "main") false)).run
      (.initial (printing "a\u2028topic\nmain\n"))
    (∀ name ∈ names, BranchName.IsLegal name.toList) ∧ names.Nodup ∧
      r.state.cache.get .branch = some (.text "main") ∧
      (∃ spawn ∈ r.spawns, (Command.listMerged "main").Names spawn.args ∧
        spawn.reply.success? = some ⟨.int 0, Branch.listing (names.map String.toList), ""⟩) ∧
      (∃ report, r.outcome = .answered (.cleaned report) ∧ report.merged = ["a", "topic"]) ∧
      "topic" ∉ names ∧ ∃ spawn ∈ r.spawns, spawn.Deletes "topic" false := by
  intro names r
  have hlegal : ∀ name ∈ names, BranchName.IsLegal name.toList := by decide +kernel
  have hcurrent : r.state.cache.get .branch = some (.text "main") :=
    eq_of_beq (by decide +kernel)
  have hout : Branch.listing (names.map String.toList) = "a\u2028topic\nmain\n" := by
    decide +kernel
  have hread : Listing.mergedNames ["main", "main"] "a\u2028topic\nmain\n" = ["a", "topic"] := by
    decide +kernel
  obtain ⟨listing, hmem, hnames, hreply⟩ :
      ∃ spawn ∈ r.spawns, (Command.listMerged "main").Names spawn.args ∧
        spawn.reply.success? = some ⟨.int 0, "a\u2028topic\nmain\n", ""⟩ :=
    exists_listing (by decide +kernel) (by decide +kernel)
  have hdeletes : ∃ spawn ∈ r.spawns, spawn.args = ["branch", "-d", "topic"] := by decide +kernel
  have hanswered : r.outcome.isAnswered = true := by decide +kernel
  have hdistinct : names.Nodup ∧ "topic" ∉ names := by decide +kernel
  -- Without unfolding, lest the run is computed to compare it with itself.
  with_reducible obtain ⟨houtcome, -⟩ := cleanup_run hmem hnames hreply hcurrent
  refine ⟨hlegal, hdistinct.1, hcurrent, ⟨listing, hmem, hnames, hout ▸ hreply⟩, ?_, hdistinct.2,
    hdeletes⟩
  rcases houtcome with ⟨report, hreport, hmerged⟩ | ⟨-, fault, hfault⟩
  · exact ⟨report, hreport, hmerged.trans hread⟩
  · rw [show r.outcome = .aborted fault from hfault] at hanswered
    cases hanswered

end Session

end WorkTree
