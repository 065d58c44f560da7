-- The status of a run of the command line. A run whose arguments can be read
-- ends with the status 0 or 1, and with 0 exactly if the regeneration has a
-- report with which a check is content. The only way out is a fault: of the
-- plan's file, of the plan itself, or of a text in the report that cannot be
-- shown.
import ProtoRefresh.CommandLine.Run
import ProtoRefresh.Proofs.Console.Escaped
import ProtoRefresh.Proofs.Plan.Loading
import ProtoRefresh.Proofs.Regeneration.Failing

namespace ProtoRefresh.CommandLine

open Console ProtoRefresh.Action

variable {host after : Host} {failure : Failure} {width : Nat}

/-! ## Showing -/

/-- What is wrong can always be shown. -/
theorem failureLines_eq_ok (width : Nat) (failure : Failure) :
    ∃ lines, failureLines width failure = .ok lines := by
  have hshows : Shows [] (readPieces ("[red]error:[/red] ".toList ++
      escapeMarkup failure.message.toList)) := by
    have htext : "[red]error:[/red] ".toList ++ escapeMarkup failure.message.toList =
        '[' :: ("red".toList ++ ']' :: ("error:".toList ++ '[' :: ('/' :: "red".toList ++ ']' ::
          (" ".toList ++ escapeMarkup failure.message.toList)))) := rfl
    rw [htext, shows_styled (by decide) (by decide), shows_append (by decide)]
    exact shows_escapeMarkup _
  obtain ⟨text, htext⟩ := showMarkup_of_shows hshows
  unfold failureLines
  rw [htext]
  exact ⟨_, rfl⟩

theorem showMarkup_statusText (check : Bool) (placement : Relocation.Placement) :
    ∃ shown, showMarkup (statusText check placement).toList = .ok shown := by
  have hnil : Shows [] (readPieces []) := by
    rw [readPieces]
    exact shows_nil []
  have hstyled : ∀ name text : List Char, IsStyle name → Unmarked text →
      Shows [] (readPieces ('[' :: (name ++ ']' :: (text ++ '[' :: ('/' :: name ++ [']']))))) :=
    fun name text hname htext => (shows_styled hname htext).2 hnil
  apply showMarkup_of_shows
  unfold statusText
  split
  · have htext : "unchanged".toList = "unchanged".toList ++ [] := rfl
    rw [htext, shows_append (by decide)]
    exact hnil
  · split
    · exact hstyled "yellow".toList "would change".toList (by decide) (by decide)
    · exact hstyled "green".toList "updated".toList (by decide) (by decide)

/-- The texts on a console of some width that show a report and are not the program's own. -/
def foreignTexts (width : Nat) (version : String) (placements : List Relocation.Placement) :
    List String :=
  ("Regenerated with " ++ version) ::
    if hasRoom width then
      placements.flatMap fun placement => [placement.source, placement.destination.text]
    else []

/-- A report cannot be shown only for one of the texts that it gets from elsewhere. -/
theorem reportLines_eq_error {version : String} {placements : List Relocation.Placement}
    {check : Bool} (h : reportLines width version placements check = .error failure) :
    failure = .markup ∧
      ∃ text ∈ foreignTexts width version placements, showMarkup text.toList = .error .markup := by
  have hfault : ∃ text ∈ foreignTexts width version placements,
      showMarkup text.toList = .error failure := by
    unfold reportLines at h
    rcases except_bind_eq_error.1 h with hrows | ⟨_, _, h⟩
    · by_cases hroom : hasRoom width = true
      · rw [reportRows, if_pos hroom] at hrows
        obtain ⟨placement, hmem, hcells⟩ := except_mapM_eq_error hrows
        obtain ⟨text, htext, hshow⟩ := except_mapM_eq_error hcells
        have hforeign : ∀ other ∈ [placement.source, placement.destination.text],
            other ∈ foreignTexts width version placements := by
          intro other ho
          rw [foreignTexts, if_pos hroom]
          exact List.mem_cons_of_mem _ (List.mem_flatMap.2 ⟨placement, hmem, ho⟩)
        simp only [List.mem_cons, List.not_mem_nil, or_false] at htext
        rcases htext with rfl | rfl | rfl
        · exact ⟨_, hforeign _ (by simp), hshow⟩
        · exact ⟨_, hforeign _ (by simp), hshow⟩
        · obtain ⟨shown, hshown⟩ := showMarkup_statusText check placement
          cases hshown.symm.trans hshow
      · rw [reportRows, if_neg hroom] at hrows
        cases hrows
    · rcases except_bind_eq_error.1 h with htitle | ⟨_, _, hlast⟩
      · exact ⟨_, List.mem_cons_self, htitle⟩
      · cases hlast
  obtain ⟨text, htext, hshow⟩ := hfault
  cases showMarkup_eq_error hshow
  exact ⟨rfl, text, htext, hshow⟩

/-- In a report that is shown all texts are. -/
theorem exists_of_reportLines {version : String} {placements : List Relocation.Placement}
    {check : Bool} {lines : List String}
    (h : reportLines width version placements check = .ok lines) {text : String}
    (htext : text ∈ foreignTexts width version placements) :
    ∃ shown, showMarkup text.toList = .ok shown := by
  unfold reportLines at h
  obtain ⟨rows, hrows, h⟩ := except_bind_eq_ok.1 h
  obtain ⟨title, htitle, _⟩ := except_bind_eq_ok.1 h
  rcases List.mem_cons.1 htext with rfl | htext
  · exact ⟨title, htitle⟩
  · by_cases hroom : hasRoom width = true
    · rw [if_pos hroom] at htext
      rw [reportRows, if_pos hroom] at hrows
      obtain ⟨placement, hmem, htext⟩ := List.mem_flatMap.1 htext
      obtain ⟨cells, hcells⟩ := except_mapM_eq_ok hrows placement hmem
      have hcell : text ∈
          [placement.source, placement.destination.text, statusText check placement] :=
        List.mem_append_left [statusText check placement] htext
      exact except_mapM_eq_ok hcells text hcell
    · rw [if_neg hroom] at htext
      cases htext

theorem reportLines_eq_error_iff {version : String} {placements : List Relocation.Placement}
    {check : Bool} : reportLines width version placements check = .error failure ↔
      failure = .markup ∧
        ∃ text ∈ foreignTexts width version placements, showMarkup text.toList = .error .markup := by
  constructor
  · exact reportLines_eq_error
  · rintro ⟨rfl, text, htext, hshow⟩
    cases hlines : reportLines width version placements check with
    | error failure => rw [(reportLines_eq_error hlines).1]
    | ok lines =>
      obtain ⟨shown, hshown⟩ := exists_of_reportLines hlines htext
      cases hshown.symm.trans hshow

/-! ## Faults -/

/-- The regeneration that arguments ask for. -/
def regeneration (arguments : Arguments) : Action Regeneration.Report := do
  Regeneration.regenerate (← planOf arguments) arguments.check

/-- A run has a fault that it does not expect: its regeneration fails for the plan's file or for the
plan itself, or has a report that its console shows with a text that closes a style that is not
open. -/
inductive Fault (width : Nat) (arguments : Arguments) (host : Host) : Failure → Prop
  | file {file : String} {failure : Failure} {left : Host}
      (hfails : Ends (regeneration arguments) host (.error failure) left)
      (hfile : arguments.config.filter (· != "") = some file)
      (hfault : Plan.FileFault (Path.ofText file) host failure) :
    Fault width arguments host failure
  | plan {plan : Plan} {failure : Failure} {middle left : Host}
      (hfails : Ends (regeneration arguments) host (.error failure) left)
      (hplan : Gives (planOf arguments) host plan middle) (hfault : plan.Fault failure) :
    Fault width arguments host failure
  | text {report : Regeneration.Report} {left : Host} {text : String}
      (hreport : Gives (regeneration arguments) host report left)
      (htext : text ∈ foreignTexts width report.version report.placements)
      (hshow : showMarkup text.toList = .error .markup) : Fault width arguments host .markup

variable {arguments : Arguments} {left : Host}

theorem ends_planOf_error (h : Ends (planOf arguments) host (.error failure) after) :
    failure.family ≠ .other ∨ ∃ file, arguments.config.filter (· != "") = some file ∧
      Plan.FileFault (Path.ofText file) host failure := by
  unfold planOf at h
  split at h
  · rename_i file hfile
    rcases ends_bind.1 h with ⟨other, hfail, heq⟩ | ⟨_, _, _, hlast⟩
    · cases heq
      exact (Plan.ends_load_error hfail).imp id fun hfault => ⟨file, hfile, hfault⟩
    · cases (ends_pure.1 hlast).1
  · split at h
    · cases (ends_pure.1 h).1
    · rcases ends_bind.1 h with ⟨other, hfail, _⟩ | ⟨_, _, _, hlast⟩
      · cases (ends_get_bind.1 hfail).run_eq
      · cases (ends_pure.1 hlast).1

/-- A regeneration that fails has a fault exactly if what it fails with is not told to the user. -/
theorem fault_iff_of_fails (h : Ends (regeneration arguments) host (.error failure) left)
    {other : Failure} :
    Fault width arguments host other ↔ other = failure ∧ failure.family = .other := by
  constructor
  · intro hfault
    cases hfault with
    | file hfails hfile hfault =>
      cases (h.unique hfails).1
      exact ⟨rfl, hfault.family⟩
    | plan hfails hplan hfault =>
      cases (h.unique hfails).1
      exact ⟨rfl, hfault.family⟩
    | text hreport htext hshow => cases (h.unique (ends_ok_iff.2 hreport)).1
  · rintro ⟨rfl, hother⟩
    unfold regeneration at h
    rcases ends_bind.1 h with ⟨_, hfail, heq⟩ | ⟨plan, middle, hplan, hrun⟩
    · cases heq
      obtain ⟨file, hfile, hfault⟩ := (ends_planOf_error hfail).resolve_left (not_not.2 hother)
      exact .file h hfile hfault
    · have hfault := Regeneration.fails_regenerate plan arguments.check hrun
      exact .plan h hplan (hfault.resolve_left (not_not.2 hother))

/-- A regeneration that has a report has a fault exactly if the report cannot be shown. -/
theorem fault_iff_of_report {report : Regeneration.Report}
    (h : Gives (regeneration arguments) host report left) : Fault width arguments host failure ↔
      reportLines width report.version report.placements arguments.check = .error failure := by
  rw [reportLines_eq_error_iff]
  constructor
  · intro hfault
    cases hfault with
    | file hfails hfile hfault => cases (hfails.unique (ends_ok_iff.2 h)).1
    | plan hfails hplan hfault => cases (hfails.unique (ends_ok_iff.2 h)).1
    | text hreport htext hshow =>
      rw [(h.unique hreport).1]
      exact ⟨rfl, _, htext, hshow⟩
  · rintro ⟨rfl, text, htext, hshow⟩
    exact .text h htext hshow

/-! ## Runs -/

/-- The statuses of runs: a run of arguments fails exactly if it has a fault, and otherwise has the
status 0 or 1, the former exactly if there is a report without changes, or one of no check. -/
structure HasStatus (width : Nat) (arguments : Arguments) (host : Host)
    (result : Except Failure Ending) : Prop where
  fails_iff : ∀ failure, result = .error failure ↔ Fault width arguments host failure
  zero_or_one : ∀ ending, result = .ok ending → ending.status = 0 ∨ ending.status = 1
  zero_iff : ∀ ending, result = .ok ending → (ending.status = 0 ↔
    ∃ report left, Gives (regeneration arguments) host report left ∧
      (arguments.check = false ∨ report.changed = []))

theorem runArguments_eq (width : Nat) (arguments : Arguments) : runArguments width arguments = (do
    match ← attempt (regeneration arguments) with
    | .ok report => endingOf width arguments report
    | .error failure =>
      if isShown failure then
        return .failed failure (← Action.ofExcept (failureLines width failure))
      throw failure) := rfl

/-- A failure of the regeneration is shown, or is that of the run. -/
theorem hasStatus_of_fails {result : Except Failure Ending}
    (hfails : Ends (regeneration arguments) host (.error failure) left)
    (h : Ends (runArguments width arguments) host result after) :
    HasStatus width arguments host result := by
  have hno : ∀ report other, ¬ Gives (regeneration arguments) host report other := by
    intro report other hother
    cases (hfails.unique (ends_ok_iff.2 hother)).1
  rw [runArguments_eq, ends_bind_of_gives (ends_ok_iff.1 (ends_attempt.2 ⟨_, hfails, rfl⟩))] at h
  dsimp only at h
  -- a failure that is told to the user can be shown, any other one goes on
  by_cases hother : failure.family = .other
  · rw [isShown, hother] at h
    obtain ⟨rfl, _⟩ := ends_fail.1 h
    refine ⟨fun other => ?_, nofun, nofun⟩
    rw [fault_iff_of_fails hfails, and_iff_left hother, Except.error.injEq]
    exact eq_comm
  · obtain ⟨lines, hlines⟩ := failureLines_eq_ok width failure
    rw [isShown, bne_iff_ne.2 hother, if_pos rfl, hlines] at h
    obtain ⟨rfl, _⟩ := ends_pure.1 h
    refine ⟨fun other => ?_, ?_, ?_⟩
    · rw [fault_iff_of_fails hfails]
      exact iff_of_false nofun fun hfault => hother hfault.2
    · rintro _ ⟨⟩
      exact Or.inr rfl
    · rintro _ ⟨⟩
      refine iff_of_false Nat.one_ne_zero ?_
      rintro ⟨report, other, hreport, _⟩
      exact hno report other hreport

/-- The ending of a run with a report fails only for the report's lines. -/
theorem ends_endingOf {report : Regeneration.Report} {result : Except Failure Ending}
    (h : Ends (endingOf width arguments report) host result after) :
    (∃ failure,
        reportLines width report.version report.placements arguments.check = .error failure ∧
          result = .error failure) ∨
      ∃ lines, reportLines width report.version report.placements arguments.check = .ok lines ∧
        result = .ok (.reported (arguments.check && !report.changed.isEmpty) lines) := by
  unfold endingOf at h
  rcases ends_bind.1 h with ⟨failure, hfail, rfl⟩ | ⟨lines, middle, hlines, hrest⟩
  · exact Or.inl ⟨failure, (ends_ofExcept.1 hfail).1.symm, rfl⟩
  · refine Or.inr ⟨lines, (gives_ofExcept.1 hlines).1, ?_⟩
    dsimp only at hrest
    split at hrest
    · rw [ends_bind_of_changes (gives_log.2 rfl)] at hrest
      exact (ends_pure.1 hrest).1
    · exact (ends_pure.1 hrest).1

theorem status_reported_eq_zero_iff {report : Regeneration.Report} {lines : List String} :
    (Ending.reported (arguments.check && !report.changed.isEmpty) lines).status = 0 ↔
      arguments.check = false ∨ report.changed = [] := by
  unfold Ending.status
  cases arguments.check with
  | false => simp
  | true => simp

/-- A report is shown, with the status that a check gives it, unless it cannot be shown. -/
theorem hasStatus_of_report {report : Regeneration.Report} {result : Except Failure Ending}
    (hreport : Gives (regeneration arguments) host report left)
    (h : Ends (runArguments width arguments) host result after) :
    HasStatus width arguments host result := by
  rw [runArguments_eq,
    ends_bind_of_gives (ends_ok_iff.1 (ends_attempt.2 ⟨_, ends_ok_iff.2 hreport, rfl⟩))] at h
  rcases ends_endingOf h with ⟨failure, hshow, rfl⟩ | ⟨lines, hshow, rfl⟩
  · refine ⟨fun other => ?_, nofun, nofun⟩
    rw [fault_iff_of_report hreport, hshow, Except.error.injEq, Except.error.injEq]
  · refine ⟨fun other => ?_, ?_, ?_⟩
    · rw [fault_iff_of_report hreport, hshow]
      exact iff_of_false nofun nofun
    · rintro _ ⟨⟩
      unfold Ending.status
      dsimp only
      split
      · exact Or.inr rfl
      · exact Or.inl rfl
    · rintro _ ⟨⟩
      rw [status_reported_eq_zero_iff]
      constructor
      · intro hcontent
        exact ⟨report, left, hreport, hcontent⟩
      · rintro ⟨found, _, hfound, hcontent⟩
        rw [(hreport.unique hfound).1]
        exact hcontent

/-- Whatever the arguments, the files, the answers of the commands and the console are: a run that
is allowed to start has its status, unless it has a fault. -/
theorem a_run_without_a_fault_has_its_status {texts : List String} {result : Except Failure Ending}
    (harguments : Arguments.ofTexts texts = .ok arguments)
    (hrun : Ends (run width texts) host result after) :
    HasStatus width arguments { host with log := [] } result := by
  unfold run at hrun
  rw [harguments] at hrun
  obtain ⟨left, hends, _⟩ := ends_keepingLog.1 hrun
  have hregeneration := ends_run (regeneration arguments) { host with log := [] }
  cases hresult : (((regeneration arguments).run).run { host with log := [] }).1 with
  | error failure =>
    rw [hresult] at hregeneration
    exact hasStatus_of_fails hregeneration hends
  | ok report =>
    rw [hresult] at hregeneration
    exact hasStatus_of_report (ends_ok_iff.1 hregeneration) hends

/-- A plan whose one file is there already, as it is generated. -/
def settledHost : Host where
  tree := (FileTree.empty.withFile ["plan.json"] (encode
    ("\x7b\"inputs\": [\"a.proto\"], " ++
      "\"moves\": [\x7b\"sources\": [\"a.rs\"], \"dest\": \"src\"\x7d]\x7d"))).withFile
    ["src", "a.rs"] [1]
  current := []
  scratch := Path.here
  responses :=
    [{ stdout := "libprotoc 3.1\n" },
     { writes := [⟨Path.ofText "tmp-generated/a.rs", .file [1]⟩] }]
  calls := []
  log := []

def settledReport : Regeneration.Report :=
  ⟨"libprotoc 3.1", ["a.rs"], [], [⟨"a.rs", Path.ofText "src/a.rs", false⟩]⟩

theorem a_check_of_what_is_there_ends_with_zero :
    ∃ ending after, Gives (run 80 ["--config", "plan.json", "--check"]) settledHost ending after ∧
      ending.status = 0 := by
  have harguments : Arguments.ofTexts ["--config", "plan.json", "--check"] =
      .ok { config := "plan.json", check := true } := by decide +kernel
  have hreport : Gives (regeneration { config := "plan.json", check := true }) settledHost
      settledReport _ := gives_of_toOption (by decide +kernel)
  have hshown : ∀ text ∈ foreignTexts 80 settledReport.version settledReport.placements,
      (showMarkup text.toList).toOption.isSome = true := by decide +kernel
  have hrun := ends_run (run 80 ["--config", "plan.json", "--check"]) settledHost
  have hstatus := a_run_without_a_fault_has_its_status harguments hrun
  cases hresult : (((run 80 ["--config", "plan.json", "--check"]).run).run settledHost).1 with
  | error failure =>
    have hfault := (hstatus.fails_iff failure).1 hresult
    obtain ⟨_, text, htext, hshow⟩ :=
      reportLines_eq_error ((fault_iff_of_report hreport).1 hfault)
    have hsome := hshown text htext
    rw [hshow] at hsome
    cases hsome
  | ok ending =>
    rw [hresult] at hrun
    have hzero := (hstatus.zero_iff ending hresult).2 ⟨_, _, hreport, Or.inr rfl⟩
    exact ⟨ending, _, ends_ok_iff.1 hrun, hzero⟩

/-- A plan whose root is a number. -/
def numberRootHost : Host where
  tree := FileTree.empty.withFile ["plan.yaml"] (encode "root: 5\ninputs: [a.proto]\n")
  current := []
  scratch := Path.here
  responses := []
  calls := []
  log := []

theorem a_number_as_root_leaves_no_status :
    ∃ arguments after, Arguments.ofTexts ["--config", "plan.yaml"] = .ok arguments ∧
      Ends (run 80 ["--config", "plan.yaml"]) numberRootHost (.error .wrongType) after := by
  have hresult : (((run 80 ["--config", "plan.yaml"]).run).run numberRootHost).1 =
      .error .wrongType := by decide +kernel
  have hrun := ends_run (run 80 ["--config", "plan.yaml"]) numberRootHost
  rw [hresult] at hrun
  exact ⟨{ config := "plan.yaml" }, _, by decide +kernel, hrun⟩

end ProtoRefresh.CommandLine
