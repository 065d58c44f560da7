-- A second run of a plan. The commands leave the same files in the fresh
-- directory, so they are rewritten and placed as before; and as the first
-- run has left each of them at its target, the second one changes nothing.
import ProtoRefresh.Proofs.Regeneration.Beside
import ProtoRefresh.Proofs.Regeneration.Check

namespace ProtoRefresh.Regeneration

open FileTree ProtoRefresh.Action ProtoRefresh.Relocation

variable {plan : Plan} {host after : Host}

/-! ## The first run -/

/-- All that the commands of a plan leave behind is in its directory. -/
structure Confined (plan : Plan) (host : Host) : Prop where
  preparing : ∀ output ∈ host.outputs (preparation plan),
    output.1.InsideOf ((generationDir plan).location host.current)
  compiling : StaysInside plan host.current (host.answer (preparation plan).length)

theorem gives_generate {value : String × List String × List Path} :
    Gives (generate plan) host value after ↔ ∃ version toolchain prepared fresh,
      Gives (prepare plan) host (version, toolchain) prepared ∧
      Gives (makeFresh (generationDir plan)) prepared () fresh ∧
      Gives (fill plan version toolchain) fresh value after := by
  rw [generate_eq, gives_bind]
  constructor
  · rintro ⟨⟨version, toolchain⟩, prepared, hprepare, hrest⟩
    obtain ⟨_, fresh, hfresh, hfill⟩ := gives_bind.1 hrest
    exact ⟨version, toolchain, prepared, fresh, hprepare, hfresh, hfill⟩
  · rintro ⟨version, toolchain, prepared, fresh, hprepare, hfresh, hfill⟩
    exact ⟨(version, toolchain), prepared, hprepare, gives_bind.2 ⟨(), fresh, hfresh, hfill⟩⟩

theorem gives_regenerate {check : Bool} {report : Report} :
    Gives (regenerate plan check) host report after ↔ ∃ value placements start,
      Gives (generate plan) host value start ∧
      Gives (relocate (generationDir plan) plan.root plan.moves check) start placements after ∧
      report = ⟨value.1, value.2.1, value.2.2.map (textBelow (generationDir plan)), placements⟩ := by
  unfold regenerate
  rw [gives_bind]
  constructor
  · rintro ⟨value, start, hgenerate, hrest⟩
    obtain ⟨placements, _, hrelocate, hlast⟩ := gives_bind.1 hrest
    obtain ⟨rfl, rfl⟩ := gives_pure.1 hlast
    exact ⟨value, placements, start, hgenerate, hrelocate, rfl⟩
  · rintro ⟨value, placements, start, hgenerate, hrelocate, rfl⟩
    exact ⟨value, start, hgenerate,
      gives_bind.2 ⟨placements, after, hrelocate, gives_pure.2 ⟨rfl, rfl⟩⟩⟩

theorem relocationStart_of_gives {value : String × List String × List Path} {start : Host}
    (h : Gives (generate plan) host value start) : relocationStart plan host = start := by
  unfold relocationStart
  rw [h.run_eq]

/-- The preparation leaves its outputs behind, and does so on every tree. -/
theorem gives_prepare_again {found : String × Toolchain} {prepared : Host}
    (h : Gives (prepare plan) host found prepared) (tree : FileTree) :
    Gives (prepare plan) { host with tree := tree } found { prepared with
      tree := tree.withOutputs (host.outputs (preparation plan)) } := by
  obtain ⟨made, hmade, htree⟩ := scripted_prepare plan (ends_ok_iff.2 h)
  have hagain := htree tree
  rw [hmade.complete found rfl] at hagain
  exact ends_ok_iff.1 hagain

/-- The first run makes the directory afresh, and the preparation has answered then. -/
structure Prepared (plan : Plan) (host fresh : Host) : Prop where
  proper : fresh.Proper
  current : fresh.current = host.current
  responses : fresh.responses = host.responses.drop (preparation plan).length
  isFresh : IsFresh host.current (generationDir plan) fresh.tree

theorem prepared_of_gives {found : String × Toolchain} {prepared fresh : Host} (hhost : host.Proper)
    (hhere : host.tree.get? host.current = some .directory) (hroot : plan.root.Proper)
    (hconfined : Confined plan host) (hprepare : Gives (prepare plan) host found prepared)
    (hfresh : Gives (makeFresh (generationDir plan)) prepared () fresh) :
    Prepared plan host fresh := by
  obtain ⟨made, hmade, _⟩ := scripted_prepare plan (ends_ok_iff.2 hprepare)
  have htree := (hprepare.unique (gives_prepare_again hprepare host.tree)).2
  have hquiet := quiet_makeFresh _ (ends_ok_iff.2 hfresh)
  have hproper := keeps_prepare plan hprepare hhost
  have hdir : (generationDir plan).Proper := hroot.joinText _
  have hcurrent : prepared.current = host.current := hmade.current
  have hresponses : fresh.responses = host.responses.drop (preparation plan).length := by
    have hanswered := (scripted_prepare plan).responses hprepare
    rw [hquiet]
    exact hanswered
  -- a path without names leads to the root or to where the plan is run
  have hnoNames : (generationDir plan).parts = [] →
      prepared.tree.get? ((generationDir plan).location prepared.current) = some .directory := by
    intro hparts
    rw [htree, hcurrent]
    refine get?_withOutputs_of_directory hconfined.preparing (fun _ => rfl) ?_
    rw [Path.location_eq, hparts, List.foldl_nil]
    split
    · exact get?_nil _
    · exact hhere
  refine ⟨keeps_makeFresh hdir hfresh hproper, ?_, hresponses, ?_⟩
  · rw [hquiet]
    exact hcurrent
  · rw [← hcurrent]
    exact isFresh_of_gives_makeFresh hproper hdir hnoNames hfresh

theorem Prepared.staysInside {fresh : Host} (h : Prepared plan host fresh)
    (hconfined : Confined plan host) : StaysInside plan fresh.current (fresh.answer 0) := by
  rw [h.current, Host.answer_of_drop h.responses]
  exact hconfined.compiling

/-- The directory stays a directory while it is filled. -/
theorem Prepared.beside_itself {fresh start : Host} (h : Prepared plan host fresh)
    (hroot : plan.root.Proper) (hsuffix : '/' ∉ plan.generatedSuffix.toList)
    (hconfined : Confined plan host) {version : String} {toolchain : Toolchain}
    {value : String × List String × List Path}
    (hfill : Gives (fill plan version toolchain) fresh value start) :
    Beside (generationDir plan) fresh.tree start start := by
  have hdir := h.isFresh.isDirectory
  have hrenewable := h.isFresh.toRenewable
  have hstays := h.staysInside hconfined
  rw [← h.current] at hdir hrenewable
  have hbeside : Beside (generationDir plan) fresh.tree fresh fresh :=
    ⟨h.proper, rfl, rfl, hdir, hdir, fun _ _ => rfl, fun _ _ => rfl⟩
  have habove : ∀ place, place <+: (generationDir plan).location fresh.current →
      fresh.tree.get? place = some .directory :=
    fun place hp => h.proper.tree.directory_above (isDirectory_iff.1 hdir).2 hp
  obtain ⟨left, hagain, hleft⟩ :=
    fill_again hbeside hroot hsuffix hrenewable habove hstays hfill
  obtain ⟨_, rfl⟩ := hfill.unique hagain
  exact hleft

/-! ## The second run -/

/-- Where the directory is there a second run makes it afresh, and has the same files in it then. -/
theorem Prepared.made_again {found : String × Toolchain} {prepared fresh : Host}
    (h : Prepared plan host fresh) (hconfined : Confined plan host)
    (hprepare : Gives (prepare plan) host found prepared) {final : FileTree}
    (hdir : final.isDirectory host.current (generationDir plan) = true)
    (habove : ∀ place, place <+: (generationDir plan).location host.current →
      final.get? place = some .directory) :
    ∃ preparedToo freshToo, Gives (prepare plan) { host with tree := final } found preparedToo ∧
      Gives (makeFresh (generationDir plan)) preparedToo () freshToo ∧
      Beside (generationDir plan) final fresh freshToo := by
  have hagain := gives_prepare_again hprepare final
  obtain ⟨made, hmade, _⟩ := scripted_prepare plan (ends_ok_iff.2 hprepare)
  have hcurrent : prepared.current = host.current := hmade.current
  have hrenewable := h.isFresh.toRenewable
  have hdirToo := hrenewable.isDirectory_withOutputs hconfined.preparing hdir
  have haboveToo : ∀ place, place <+: (generationDir plan).location host.current →
      (final.withOutputs (host.outputs (preparation plan))).get? place = some .directory :=
    fun place hp => get?_withOutputs_of_directory hconfined.preparing
      (fun hbase => hp.eq_of_length_le hbase.length_le) (habove place hp)
  rw [← hcurrent] at hrenewable hdirToo haboveToo
  obtain ⟨hne, hthereToo, hfreshToo⟩ := Renewable.gives_makeFresh
    { prepared with tree := final.withOutputs (host.outputs (preparation plan)) } hrenewable
    hdirToo (haboveToo _ (List.dropLast_prefix _))
  have hfiles : Twin fresh.current (generationDir plan) final fresh.tree
      ((final.withOutputs (host.outputs (preparation plan))).renewed
        ((generationDir plan).location prepared.current)) := by
    rw [hcurrent] at hne hthereToo
    rw [h.current, hcurrent]
    refine ⟨h.isFresh.isDirectory, hthereToo, fun place hp => ?_, fun place hp => ?_⟩
    · rw [get?_renewed _ hne, if_pos hp]
      split
      · rename_i hplace
        rw [hplace, (isDirectory_iff.1 h.isFresh.isDirectory).2]
      · rename_i hplace
        rw [h.isFresh.nothing place hp hplace]
    · rw [get?_renewed _ hne, if_neg hp]
      exact get?_withOutputs_of_outside hconfined.preparing habove hp
  exact ⟨_, _, hagain, hfreshToo, h.proper, hcurrent.trans h.current.symm,
    ((scripted_prepare plan).responses hprepare).trans h.responses.symm, hfiles⟩

/-- On files among which the directory is there the plan generates the same files again. -/
theorem Prepared.generated_again {found : String × Toolchain} {prepared fresh start : Host}
    (h : Prepared plan host fresh) (hroot : plan.root.Proper)
    (hsuffix : '/' ∉ plan.generatedSuffix.toList) (hconfined : Confined plan host)
    (hprepare : Gives (prepare plan) host found prepared)
    {value : String × List String × List Path}
    (hfill : Gives (fill plan found.1 found.2) fresh value start) {final : FileTree}
    (hdir : final.isDirectory host.current (generationDir plan) = true)
    (habove : ∀ place, place <+: (generationDir plan).location host.current →
      final.get? place = some .directory) :
    ∃ startToo, Gives (generate plan) { host with tree := final } value startToo ∧
      Beside (generationDir plan) final start startToo := by
  obtain ⟨preparedToo, freshToo, hprepareToo, hfreshToo, hbeside⟩ :=
    h.made_again hconfined hprepare hdir habove
  have hrenewable := h.isFresh.toRenewable
  rw [← h.current] at hrenewable habove
  obtain ⟨startToo, hfillToo, hstart⟩ :=
    fill_again hbeside hroot hsuffix hrenewable habove (h.staysInside hconfined) hfill
  exact ⟨startToo, gives_generate.2 ⟨_, _, _, _, hprepareToo, hfreshToo, hfillToo⟩, hstart⟩

/-- When a plan has been run and its commands write only into its directory, a second run with the
same answers changes nothing, whether it is a check or not. The targets have to be apart, and their
paths may step back only out of directories that are there. -/
theorem a_second_run_changes_nothing {report : Report} (hhost : host.Proper)
    (hhere : host.tree.get? host.current = some .directory) (hroot : plan.root.Proper)
    (hsuffix : '/' ∉ plan.generatedSuffix.toList)
    (hmoves : ∀ source ∈ sourcesOf plan.moves, source.Plain)
    (hclear : Clear (relocationStart plan host) (generationDir plan)
      (report.placements.map Placement.destination))
    (hconfined : Confined plan host) (hrun : Gives (regenerate plan false) host report after) :
    ∃ second : Report, second.changed = [] ∧
      (∃ left, Gives (regenerate plan true) { host with tree := after.tree } second left) ∧
      ∃ last, Gives (regenerate plan false) { host with tree := after.tree } second last ∧
        ∀ place, ¬ (generationDir plan).location host.current <+: place →
          last.tree.get? place = after.tree.get? place := by
  obtain ⟨⟨version, generated, rewritten⟩, placements, start, hgenerate, hrelocate, rfl⟩ :=
    gives_regenerate.1 hrun
  rw [relocationStart_of_gives hgenerate] at hclear
  obtain ⟨told, toolchain, prepared, fresh, hprepare, hfresh, hfill⟩ := gives_generate.1 hgenerate
  have hprepared := prepared_of_gives hhost hhere hroot hconfined hprepare hfresh
  have hbeside := hprepared.beside_itself hroot hsuffix hconfined hfill
  obtain ⟨_, _, hmade⟩ := runs_once_fill plan told toolchain (ends_ok_iff.2 hfill)
  have hcurrent : start.current = host.current := hmade.current.trans hprepared.current
  have hsound : Sound start (generationDir plan) :=
    ⟨hbeside.proper.tree, fun heq => absurd (congrArg Path.parts heq) hprepared.isFresh.parts_ne_nil⟩
  -- the relocation lets all directories be, so the directory of the plan is there in the end
  obtain ⟨_, _, hcarried, _⟩ := gives_relocate hsound hmoves hclear hrelocate
  have hstays := hcarried.directory_stays hclear
  have hdir := isDirectory_mono hbeside.files.there hstays
  have habove : ∀ place, place <+: (generationDir plan).location start.current →
      after.tree.get? place = some .directory := fun place hp =>
    hstays place (hbeside.proper.tree.directory_above (isDirectory_iff.1 hbeside.files.there).2 hp)
  rw [hcurrent] at hdir habove
  obtain ⟨startToo, hgenerateToo, hstartToo⟩ :=
    hprepared.generated_again hroot hsuffix hconfined hprepare hfill hdir habove
  -- so the same files are placed once more, each where it is already
  obtain ⟨again, hunchanged, hrelocateToo⟩ := relocate_again hsound hmoves hclear hrelocate
    hstartToo.current hstartToo.files.thinned hstartToo.files.outside
  have hsecond : ∀ check, ∃ last, Gives (regenerate plan check) { host with tree := after.tree }
      ⟨version, generated, rewritten.map (textBelow (generationDir plan)), again⟩ last ∧
      ∀ place, ¬ (generationDir plan).location host.current <+: place →
        last.tree.get? place = after.tree.get? place := by
    intro check
    obtain ⟨last, hlast, hsame⟩ := hrelocateToo check
    rw [hcurrent] at hsame
    exact ⟨last, gives_regenerate.2 ⟨_, _, _, hgenerateToo, hlast, rfl⟩, hsame⟩
  obtain ⟨left, hcheck, _⟩ := hsecond true
  refine ⟨_, ?_, ⟨left, hcheck⟩, hsecond false⟩
  exact List.filter_eq_nil_iff.2 fun placement hp => by simp [hunchanged placement hp]

theorem a_second_run_halfway_changes_nothing :
    halfwayHost.Proper ∧ halfwayHost.tree.get? halfwayHost.current = some .directory ∧
      halfwayPlan.root.Proper ∧ '/' ∉ halfwayPlan.generatedSuffix.toList ∧
      (∀ source ∈ sourcesOf halfwayPlan.moves, source.Plain) ∧
      Clear (relocationStart halfwayPlan halfwayHost) (generationDir halfwayPlan)
        (halfwayReport.placements.map Placement.destination) ∧
      Confined halfwayPlan halfwayHost ∧
      ∃ after, Gives (regenerate halfwayPlan false) halfwayHost halfwayReport after ∧
      ∃ second : Report, second.changed = [] ∧
        (∃ left, Gives (regenerate halfwayPlan true) { halfwayHost with tree := after.tree } second
          left) ∧
        ∃ last, Gives (regenerate halfwayPlan false) { halfwayHost with tree := after.tree } second
            last ∧
          ∀ place, ¬ (generationDir halfwayPlan).location halfwayHost.current <+: place →
            last.tree.get? place = after.tree.get? place := by
  have hhost : halfwayHost.Proper := by decide +kernel
  have hhere : halfwayHost.tree.get? halfwayHost.current = some .directory := rfl
  have hroot : halfwayPlan.root.Proper := by decide +kernel
  have hsuffix : '/' ∉ halfwayPlan.generatedSuffix.toList := by decide +kernel
  have hmoves : ∀ source ∈ sourcesOf halfwayPlan.moves, source.Plain := by decide +kernel
  have hclear : Clear (relocationStart halfwayPlan halfwayHost) (generationDir halfwayPlan)
      (halfwayReport.placements.map Placement.destination) := by decide +kernel
  have hconfined : Confined halfwayPlan halfwayHost :=
    ⟨by decide +kernel, by decide +kernel⟩
  have hrun : Gives (regenerate halfwayPlan false) halfwayHost halfwayReport _ :=
    gives_of_toOption (by decide +kernel)
  exact ⟨hhost, hhere, hroot, hsuffix, hmoves, hclear, hconfined, _, hrun,
    a_second_run_changes_nothing hhost hhere hroot hsuffix hmoves hclear hconfined hrun⟩

/-! ## Second runs that change more -/

/-- A plan has been run, its commands wrote only into its directory, and its targets were apart when
the run started. -/
structure RanApart (plan : Plan) (host : Host) (report : Report) (after : Host) : Prop where
  proper : host.Proper
  here : host.tree.get? host.current = some .directory
  root : plan.root.Proper
  suffix : '/' ∉ plan.generatedSuffix.toList
  moves : ∀ source ∈ sourcesOf plan.moves, source.Plain
  apart : Apart host (generationDir plan) (report.placements.map Placement.destination)
  confined : ∀ output ∈ host.outputs (after.calls.drop host.calls.length),
    output.1.InsideOf ((generationDir plan).location host.current)
  run : Gives (regenerate plan false) host report after

/-- A run ends well and changes nothing. -/
def Unchanging (plan : Plan) (host : Host) : Prop :=
  ∃ report after, Gives (regenerate plan false) host report after ∧ report.changed = []

theorem not_unchanging
    (h : ∀ report ∈ (((regenerate plan false).run).run host).1.toOption, report.changed ≠ []) :
    ¬ Unchanging plan host := by
  rintro ⟨report, after, hrun, hnone⟩
  refine h report ?_ hnone
  rw [hrun.run_eq]
  rfl

/-- A host on which the compiler answers something else. -/
def answeringHost (tree : FileTree) (compiler : Response) : Host :=
  { generatingHost tree with responses := [{ stdout := "libprotoc 3.1" }, compiler] }

/-- The directory of the plan is made in one that has the name of a target. -/
def nestedHost : Host :=
  answeringHost FileTree.empty { writes := [⟨Path.ofText "x/tmp/a.rs", .file [1]⟩] }

def nestedPlan : Plan :=
  { movingPlan [Source.move ⟨"a.rs", ".", "x"⟩] with generationDir := "x/tmp" }

def nestedReport : Report := movingReport [⟨"a.rs", ⟨0, ["x"]⟩, true⟩]

/-- The way to the first target leads over a missing directory, where the second target is. -/
def crossingHost : Host := generatingHost FileTree.empty

def crossingPlan : Plan :=
  movingPlan [Source.move ⟨"a.rs", "x/../y", none⟩, Source.move ⟨"b.txt", ".", "x"⟩]

def crossingReport : Report :=
  movingReport
    [⟨"a.rs", ⟨0, ["x", "..", "y", "a.rs"]⟩, true⟩, ⟨"b.txt", ⟨0, ["x"]⟩, true⟩]

/-- It is not enough that the targets are apart when the run starts: a target may become a directory
on the way to the directory of the plan, or on the way to another target. -/
theorem a_second_run_may_change_more :
    (∃ after, RanApart nestedPlan nestedHost nestedReport after ∧
      ¬ Unchanging nestedPlan { nestedHost with tree := after.tree }) ∧
    ∃ after, RanApart crossingPlan crossingHost crossingReport after ∧
      ¬ Unchanging crossingPlan { crossingHost with tree := after.tree } := by
  have hnested : Gives (regenerate nestedPlan false) nestedHost nestedReport _ :=
    gives_of_toOption (by decide +kernel)
  have hcrossing : Gives (regenerate crossingPlan false) crossingHost crossingReport _ :=
    gives_of_toOption (by decide +kernel)
  refine ⟨⟨_, ⟨by decide +kernel, rfl, by decide +kernel, by decide +kernel, by decide +kernel,
    by decide +kernel, by decide +kernel, hnested⟩, not_unchanging (by decide +kernel)⟩,
    _, ⟨by decide +kernel, rfl, by decide +kernel, by decide +kernel, by decide +kernel,
    by decide +kernel, by decide +kernel, hcrossing⟩, not_unchanging (by decide +kernel)⟩

end ProtoRefresh.Regeneration
