import HermesBundle.Build.Interleaving
import HermesBundle.Proofs.Build.Confinement

/-! # Concurrency — builds that share a root and a machine

    Builds that run at the same time share one machine, and take their
    steps in whatever order a schedule says.  If they share a root for
    their workspaces, find their tools without looking there, and have
    compilers that work inside their workspaces (`Ground.Suits`), then each
    of them stands where it would stand alone:

    * **acquiring** comes to a workspace that nobody has, or to a failure
      that the build would have alone, or there is no name left
      (`acquire_cases`);
    * **where a build can stand** (`Ground.Stands`) — it has taken the same
      steps alone, and its workspace has the same contents there;
    * **what holds of all of them** (`Ground.Holds`) — where each stands,
      that no two have one workspace, and all that is beside the
      workspaces;
    * **what a step preserves** (`Holds.step`), by the stage that the build
      is in: before its tools are found (`Holds.step_begun`), before it has
      a workspace (`Holds.step_equipped`), and in it
      (`Holds.step_working`);
    * **what a schedule preserves** (`Holds.follow`). -/

namespace HermesBundle.Build

open HermesBundle.Action FileSystem

/-- The workspace that a build has. -/
def Stage.workspace? : Stage → Option Workspace
  | .acquired _ _ ws => some ws
  | .staged _ _ ws => some ws
  | .compiled _ ws => some ws
  | .read _ ws _ => some ws
  | .closing ws _ => some ws
  | _ => none

/-- The workspace that a build of a site has. -/
def Site.workspaceOf (site : Site) (index : Nat) : Option Workspace :=
  site[index]?.bind fun (_, stage) => stage.workspace?

/-- Whether there was no name left for a workspace among those that were
    tried. -/
def IsNameless (outcome : Except Failure Result) : Prop :=
  outcome = .error (.build (.workspace (.notCreated .noFreeName)))

section Steps

variable {programs : Programs} {job : Job} {stage next : Stage} {m middle after : Machine}

/-- One more step. -/
theorem steps_succ_of_advance {n : Nat} (h : (steps programs job n stage).Gives m next middle)
    {last : Stage} (hlast : (advance programs job next).Gives middle last after) :
    (steps programs job (n + 1) stage).Gives m last after := by
  induction n generalizing stage m with
  | zero =>
      obtain ⟨rfl, rfl⟩ := gives_pure.mp h
      exact gives_bind.mpr ⟨last, after, hlast, rfl⟩
  | succ n ih =>
      obtain ⟨following, between, hstep, hrest⟩ := gives_bind.mp h
      exact gives_bind.mpr ⟨following, between, hstep, ih hrest⟩

theorem steps_of_ended {n : Nat} {outcome : Except Failure Result}
    (h : (steps programs job n stage).Gives m (.ended outcome) after) (k : Nat) :
    (steps programs job (n + k) stage).Gives m (.ended outcome) after := by
  induction k with
  | zero => exact h
  | succ k ih => exact steps_succ_of_advance ih (perform_pure (Stage.ended outcome) after)

/-- A build that has come to an end comes to that end when it is run. -/
theorem run_of_steps (hdeadline : job.deadline = none) {n : Nat}
    {outcome : Except Failure Result}
    (h : (steps programs job n .begun).Gives m (.ended outcome) after) :
    (run programs job).perform m = (outcome, after) := by
  obtain ⟨outcome', after', hcourse⟩ := exists_course programs job m
  have hleads := leads_of_course hdeadline hcourse
  have hlong := steps_of_ended hleads n
  rw [Nat.add_comm] at hlong
  obtain ⟨heq, rfl⟩ := (steps_of_ended h stepCount).unique hlong
  obtain rfl := Stage.ended.inj heq
  exact run_of_leads hleads

end Steps

namespace Ground

variable (G : Ground)

/-- The machine of a ground on which some number is the next one for a
    workspace. -/
def alone (n : Nat) : Machine := { G.machine with tickets := n }

/-- Whether a machine is one that builds share, where the root may still be
    missing. -/
structure Shares (m : Machine) : Prop where
  same : m = G.later m.files m.tickets m.clock m.log
  files : m.files = G.machine.files ∨ G.Keeps m.files

/-- Whether a build has the root of a ground for its workspace, has no
    deadline, finds its tools whatever other builds do, and has a compiler
    that works inside its workspace. -/
structure Suits (programs : Programs) (job : Job) : Prop where
  patient : job.deadline = none
  rooted : ∀ m, G.Shares m →
    (Workspace.parentOf job.root).perform m = (.ok (some G.root), m)
  equips : ∃ found, (∀ m, G.Shares m → ∃ clock log,
      (equip job).perform m = (found, { m with clock := clock, log := log }))
    ∧ ∀ composer compiler, found = .ok (composer, compiler) →
      G.HasQuiet programs composer ∧ G.Confines programs job compiler

/-- Whether files are those that builds find when the root has been made
    sure of. -/
structure Ensures (m : Machine) (files : FileSystem) : Prop where
  keeps : G.Keeps files
  made : m.files.ensureDirectory G.machine.here G.root = (files, none)

variable {G} {programs : Programs} {job : Job} {m : Machine} {files : FileSystem} {n : Nat}

theorem shares_alone (n : Nat) : G.Shares (G.alone n) := ⟨rfl, .inl rfl⟩

theorem Shares.here (h : G.Shares m) : m.here = G.machine.here := by
  rw [h.same]
  rfl

theorem Shares.processId (h : G.Shares m) : m.processId = G.machine.processId := by
  rw [h.same]
  rfl

theorem Shares.draws (h : G.Shares m) : m.draws = G.machine.draws := by
  rw [h.same]
  rfl

theorem ensures_of_keeps (h : G.Keeps m.files) : G.Ensures m m.files := ⟨h, ensures h.extends⟩

theorem ensures_rooted (h : m.files = G.machine.files) : G.Ensures m G.rooted :=
  ⟨keeps_rooted, h ▸ G.made⟩

theorem Shares.exists_ensures (h : G.Shares m) : ∃ files, G.Ensures m files := by
  rcases h.files with hmissing | hkeeps
  · exact ⟨G.rooted, ensures_rooted hmissing⟩
  · exact ⟨m.files, ensures_of_keeps hkeeps⟩

/-! ## Acquiring -/

/-- The root is made sure of. -/
theorem directoryFor_gives (hm : G.Shares m) (hfiles : G.Ensures m files) :
    (Workspace.directoryFor (some G.root)).Gives m G.root.toText { m with files := files } := by
  have hmade := hfiles.made
  rw [← hm.here] at hmade
  have hchecked : (checkName G.root.toText).Gives m () m := checkName_gives_iff.mpr ⟨G.usable, rfl⟩
  have hensured : (Action.ensureDirectory G.root).Gives m () { m with files := files } := by
    unfold Action.ensureDirectory Gives
    rw [perform_bind_of_gives hchecked, perform_bind, perform_get]
    dsimp only
    rw [hmade]
    rfl
  exact gives_bind.mpr ⟨(), _, hensured, rfl⟩

/-- What acquiring comes to: what making a fresh directory in the root
    does. -/
theorem acquire_perform (hsuits : G.Suits programs job) (hm : G.Shares m)
    (hfiles : G.Ensures m files) :
    (Workspace.acquire job.root).perform m =
      match G.makeFresh files m.tickets Workspace.attempts with
      | .ok (made, path, n) =>
          (.ok ⟨Path.ofText path⟩, Machine.noting { m with files := made, tickets := n + 1 } .debug
            workspaceOrigin
            (Text.ofString "acquired workspace " ++ (Path.ofText path).toText))
      | .error e =>
          (.error (.build (.workspace (.notCreated e))), { m with files := files }) := by
  have hname : (checkName (Temporary.inside G.root.toText
      (Workspace.nameOf m.processId (m.draws m.tickets)))).Gives { m with files := files } ()
        { m with files := files } := by
    rw [hm.processId, hm.draws]
    exact checkName_gives_iff.mpr ⟨isUsable_pathText m.tickets, rfl⟩
  have hcreate : (Workspace.create (some G.root)).perform m =
      match G.makeFresh files m.tickets Workspace.attempts with
      | .ok (made, path, n) => (.ok path, { m with files := made, tickets := n + 1 })
      | .error e => (.error (.system e), { m with files := files }) := by
    unfold Workspace.create makeFresh
    rw [perform_bind_of_gives (directoryFor_gives hm hfiles), perform_bind, perform_get]
    dsimp only
    rw [perform_bind_of_gives hname, hm.here, hm.processId, hm.draws]
    cases Workspace.makeFresh files G.machine.here G.root.toText G.machine.processId
      G.machine.draws m.tickets Workspace.attempts with
    | ok made => rfl
    | error e => rfl
  unfold Workspace.acquire
  rw [perform_bind_of_gives (hsuits.rooted m hm), perform_bind, perform_attempt, hcreate]
  cases G.makeFresh files m.tickets Workspace.attempts with
  | ok made => rfl
  | error e => rfl

/-- A build acquires the workspace that could be made. -/
theorem acquire_of_made (hsuits : G.Suits programs job) (hm : G.Shares m)
    (hfiles : G.Ensures m files)
    (hmade : G.makeFresh files m.tickets Workspace.attempts
      = .ok (files.put (G.lot n) .directory, G.pathText n, n)) :
    ∃ log, (Workspace.acquire job.root).perform m = (.ok (G.workspaceAt n),
      { m with files := files.put (G.lot n) .directory, tickets := n + 1, log := log }) := by
  refine ⟨m.log ++ [⟨.debug, workspaceOrigin,
    Text.ofString "acquired workspace " ++ (G.workspaceAt n).path.toText⟩], ?_⟩
  rw [acquire_perform hsuits hm hfiles, hmade]
  dsimp only
  rw [ofText_pathText]
  rfl

/-- Whether acquiring a workspace fails in one way on every machine that
    builds share, if some number is the next one. -/
def Refuses (G : Ground) (job : Job) (n : Nat) (f : Failure) : Prop :=
  ∀ m, G.Shares m → m.tickets = n →
    ∃ files, (Workspace.acquire job.root).perform m = (.error f, { m with files := files })

/-- Acquiring comes to a workspace under a free name, or to a failure that a
    build would have alone, or there is no name left. -/
theorem acquire_cases (hsuits : G.Suits programs job) (hm : G.Shares m)
    (hfiles : G.Ensures m files) :
    (∃ n log, G.Takes n ∧ files.entry? (G.lot n) = none
      ∧ (Workspace.acquire job.root).perform m = (.ok (G.workspaceAt n),
        { m with files := files.put (G.lot n) .directory, tickets := n + 1, log := log }))
    ∨ ∃ f, (Workspace.acquire job.root).perform m = (.error f, { m with files := files })
      ∧ ((∃ n, G.Refuses job n f) ∨ IsNameless (.error f)) := by
  have hacquire := acquire_perform hsuits hm hfiles
  rcases makeFresh_cases hfiles.keeps.extends m.tickets Workspace.attempts with
    ⟨n, htakes, hfree, hmade⟩ | ⟨n, e, hother, hfails, hmade⟩ | hmade
  · obtain ⟨log, hlog⟩ := acquire_of_made hsuits hm hfiles hmade
    exact .inl ⟨n, log, htakes, hfree, hlog⟩
  · rw [hmade] at hacquire
    refine .inr ⟨_, hacquire, .inl ⟨n, fun other hshares hn => ?_⟩⟩
    obtain ⟨found, hfound⟩ := hshares.exists_ensures
    refine ⟨found, ?_⟩
    have hrefused : G.makeFresh found n Workspace.attempts = .error (.about e (G.pathText n)) :=
      makeFresh_of_error hother (hfails found hfound.keeps.extends)
    rw [acquire_perform hsuits hshares hfound, hn, hrefused]
  · rw [hmade] at hacquire
    exact .inr ⟨_, hacquire, .inr rfl⟩

/-- A build that is alone gets the workspace with the next number, if there
    can be one. -/
theorem acquire_alone (hsuits : G.Suits programs job) (htakes : G.Takes n) (clock : Nat)
    (log : List LogRecord) :
    ∃ log', (Workspace.acquire job.root).perform (G.later G.machine.files n clock log)
      = (.ok (G.workspaceAt n),
        G.later (G.rooted.put (G.lot n) .directory) (n + 1) clock log') :=
  acquire_of_made hsuits ⟨rfl, .inl rfl⟩ (ensures_rooted rfl)
    (makeFresh_of_ok (makeDirectory_of_takes htakes (.refl _) htakes.free))

/-! ## Where builds stand -/

/-- Whether a build that is alone comes to a stage, if some number is the
    next one for a workspace. -/
def Reaches (G : Ground) (programs : Programs) (job : Job) (n : Nat) (stage : Stage)
    (after : Machine) : Prop :=
  ∃ k, (steps programs job k .begun).Gives (G.alone n) stage after

/-- Where a build can stand that shares a machine with others: where it
    comes to alone, with the same contents in its workspace. -/
inductive Stands (G : Ground) (programs : Programs) (job : Job) (m : Machine) : Stage → Prop where
  | begun : Stands G programs job m .begun
  | equipped {composer : Composer} {compiler : Path} :
      G.HasQuiet programs composer → G.Confines programs job compiler →
      (∀ n, ∃ clock log, G.Reaches programs job n (.equipped composer compiler)
        (G.later G.machine.files n clock log)) →
      Stands G programs job m (.equipped composer compiler)
  | working {n : Nat} {stage : Stage} {alone : Machine} :
      G.Takes n → G.Fits programs job n stage (m.files.contents (G.lot n)) →
      G.Reaches programs job n stage alone → G.Carries alone →
      alone.files.contents (G.lot n) = m.files.contents (G.lot n) →
      Stands G programs job m stage
  | ended {outcome : Except Failure Result} :
      (∃ n after, G.Reaches programs job n (.ended outcome) after) ∨ IsNameless outcome →
      Stands G programs job m (.ended outcome)

variable {stage next : Stage} {after : Machine} {c : List Text → Option Entry}

theorem Reaches.step (h : G.Reaches programs job n stage m)
    (hstep : (advance programs job stage).Gives m next after) :
    G.Reaches programs job n next after := by
  obtain ⟨k, hk⟩ := h
  exact ⟨k + 1, steps_succ_of_advance hk hstep⟩

theorem Fits.workspace?_eq (h : G.Fits programs job n stage c) :
    stage.workspace? = some (G.workspaceAt n) := by
  cases h <;> rfl

/-- Where a build stands is a matter of its own workspace. -/
theorem Stands.of_same (h : G.Stands programs job m stage)
    (hsame : ∀ n, stage.workspace? = some (G.workspaceAt n) →
      after.files.contents (G.lot n) = m.files.contents (G.lot n)) :
    G.Stands programs job after stage := by
  cases h with
  | begun => exact .begun
  | equipped hquiet hconfined hreaches => exact .equipped hquiet hconfined hreaches
  | working htakes hfits hreaches halone hcontents =>
      have hown := hsame _ hfits.workspace?_eq
      exact .working htakes (hown ▸ hfits) hreaches halone (hcontents.trans hown.symm)
  | ended houtcome => exact .ended houtcome

/-- A workspace that a build has is there. -/
theorem Stands.of_workspace? (h : G.Stands programs job m stage) {ws : Workspace}
    (hws : stage.workspace? = some ws) :
    ∃ n, ws = G.workspaceAt n ∧ G.Takes n ∧ m.files.entry? (G.lot n) = some .directory := by
  cases h with
  | begun => exact nomatch hws
  | equipped _ _ _ => exact nomatch hws
  | working htakes hfits _ _ _ =>
      obtain rfl := Option.some.inj (hfits.workspace?_eq.symm.trans hws)
      exact ⟨_, rfl, htakes, entry?_lot rfl hfits.directory⟩
  | ended _ => exact nomatch hws

/-- Whether a location is beside the workspaces that the builds of a site
    have. -/
def Beside (G : Ground) (site : Site) (l : Location) : Prop :=
  ∀ i n, site.workspaceOf i = some (G.workspaceAt n) → ¬G.lot n <+: l

/-- What holds of a site and its machine all the time. -/
structure Holds (G : Ground) (programs : Programs) (jobs : List Job) (site : Site) (m : Machine) :
    Prop where
  ordered : site.map Prod.fst = jobs
  same : m = G.later m.files m.tickets m.clock m.log
  stands : ∀ (i : Nat) (job : Job) (stage : Stage), site[i]? = some (job, stage) →
    G.Stands programs job m stage
  apart : ∀ i j ws, site.workspaceOf i = some ws → site.workspaceOf j = some ws → i = j
  /-- Beside the workspaces nothing has changed, but for the root. -/
  files : (m.files = G.machine.files ∧ ∀ i, site.workspaceOf i = none)
    ∨ ∀ l, G.Beside site l → m.files.entry? l = G.rooted.entry? l

end Ground

section Sites

variable {site : Site} {i : Nat} {job : Job} {stage : Stage}

theorem Site.workspaceOf_set (hi : site[i]? = some (job, stage)) (next : Stage) (j : Nat) :
    Site.workspaceOf (site.set i (job, next)) j
      = if i = j then next.workspace? else site.workspaceOf j := by
  obtain ⟨hlength, -⟩ := List.getElem?_eq_some_iff.mp hi
  unfold Site.workspaceOf
  rw [List.getElem?_set]
  by_cases hij : i = j
  · subst hij
    rw [if_pos rfl, if_pos hlength, if_pos rfl]
    rfl
  · rw [if_neg hij, if_neg hij]

theorem Site.workspaceOf_eq (hi : site[i]? = some (job, stage)) :
    site.workspaceOf i = stage.workspace? := by
  unfold Site.workspaceOf
  rw [hi]
  rfl

/-- A step of a build is one of the site. -/
theorem Site.advanceAt_gives {programs : Programs} {m after : Machine} {next : Stage}
    (hi : site[i]? = some (job, stage)) (h : (advance programs job stage).Gives m next after) :
    (site.advanceAt programs i).Gives m (site.set i (job, next)) after := by
  unfold Site.advanceAt
  rw [hi]
  exact gives_bind.mpr ⟨next, after, h, rfl⟩

end Sites

namespace Ground

variable {G : Ground} {programs : Programs} {jobs : List Job} {site : Site} {m after : Machine}
  {i : Nat} {job : Job} {stage next : Stage}

theorem Holds.exists_of_workspaceOf (h : G.Holds programs jobs site m) {ws : Workspace}
    (hws : site.workspaceOf i = some ws) :
    ∃ n, ws = G.workspaceAt n ∧ G.Takes n ∧ m.files.entry? (G.lot n) = some .directory := by
  obtain ⟨⟨job, stage⟩, hi, hstage⟩ := Option.bind_eq_some_iff.mp hws
  exact (h.stands i job stage hi).of_workspace? hstage

/-- A workspace that a build has takes its place. -/
theorem Holds.entry?_lot (h : G.Holds programs jobs site m) {n : Nat}
    (hws : site.workspaceOf i = some (G.workspaceAt n)) :
    m.files.entry? (G.lot n) = some .directory := by
  obtain ⟨k, hk, -, hentry⟩ := h.exists_of_workspaceOf hws
  rw [lot_eq_of_workspaceAt hk]
  exact hentry

theorem Holds.keeps (h : G.Holds programs jobs site m)
    (hbeside : ∀ l, G.Beside site l → m.files.entry? l = G.rooted.entry? l) : G.Keeps m.files := by
  refine fun l hl => hbeside l fun i n hws hbelow => ?_
  obtain ⟨k, hk, htakes, -⟩ := h.exists_of_workspaceOf hws
  exact hl ⟨k, htakes, lot_eq_of_workspaceAt hk ▸ hbelow⟩

theorem Holds.shares (h : G.Holds programs jobs site m) : G.Shares m where
  same := h.same
  files := by
    rcases h.files with ⟨hmissing, -⟩ | hbeside
    · exact .inl hmissing
    · exact .inr (h.keeps hbeside)

/-- While a build has a workspace, the root is there. -/
theorem Holds.entry?_of_workspaceOf (h : G.Holds programs jobs site m) {ws : Workspace}
    (hws : site.workspaceOf i = some ws) :
    ∀ l, G.Beside site l → m.files.entry? l = G.rooted.entry? l := by
  rcases h.files with ⟨-, hnone⟩ | hbeside
  · exact nomatch hws.symm.trans (hnone i)
  · exact hbeside

/-- What holds of a site still does after a step of one build that changes
    no workspace of others. -/
theorem Holds.set (h : G.Holds programs jobs site m) (hi : site[i]? = some (job, stage))
    (hsame : after = G.later after.files after.tickets after.clock after.log)
    (hstands : G.Stands programs job after next)
    (hothers : ∀ j n, j ≠ i → site.workspaceOf j = some (G.workspaceAt n) →
      after.files.contents (G.lot n) = m.files.contents (G.lot n))
    (hapart : ∀ ws j, j ≠ i → next.workspace? = some ws → site.workspaceOf j ≠ some ws)
    (hfiles : (after.files = G.machine.files
        ∧ ∀ j, Site.workspaceOf (site.set i (job, next)) j = none)
      ∨ ∀ l, G.Beside (site.set i (job, next)) l → after.files.entry? l = G.rooted.entry? l) :
    G.Holds programs jobs (site.set i (job, next)) after where
  ordered := by
    obtain ⟨hlength, hjob⟩ := List.getElem?_eq_some_iff.mp hi
    have hmapped : i < (site.map Prod.fst).length := by rwa [List.length_map]
    calc (site.set i (job, next)).map Prod.fst
        = (site.map Prod.fst).set i ((site.map Prod.fst)[i]) := by
          rw [List.map_set, List.getElem_map, hjob]
      _ = site.map Prod.fst := List.set_getElem_self hmapped
      _ = jobs := h.ordered
  same := hsame
  stands := by
    intro j other stage' hj
    rw [List.getElem?_set] at hj
    split at hj
    · split at hj
      · obtain ⟨rfl, rfl⟩ := Prod.mk.inj (Option.some.inj hj)
        exact hstands
      · exact nomatch hj
    · rename_i hij
      exact (h.stands j other stage' hj).of_same fun n hws =>
        hothers j n (Ne.symm hij) ((Site.workspaceOf_eq hj).trans hws)
  apart := by
    intro j k ws hj hk
    rw [Site.workspaceOf_set hi] at hj hk
    split at hj
    · rename_i hij
      split at hk
      · rename_i hik
        exact hij.symm.trans hik
      · rename_i hik
        exact absurd hk (hapart ws k (Ne.symm hik) hj)
    · rename_i hij
      split at hk
      · exact absurd hj (hapart ws j (Ne.symm hij) hk)
      · exact h.apart j k ws hj hk
  files := hfiles

/-- Wherever builds stand, the root is there or can be made. -/
theorem Holds.exists_ensures (h : G.Holds programs jobs site m) :
    ∃ files, G.Ensures m files ∧ (∀ l, G.Beside site l → files.entry? l = G.rooted.entry? l)
      ∧ ∀ j n, site.workspaceOf j = some (G.workspaceAt n) →
        files.contents (G.lot n) = m.files.contents (G.lot n) := by
  rcases h.files with ⟨hmissing, hnone⟩ | hbeside
  · exact ⟨G.rooted, ensures_rooted hmissing, fun _ _ => rfl,
      fun j n hws => nomatch (hnone j).symm.trans hws⟩
  · exact ⟨m.files, ensures_of_keeps (h.keeps hbeside), hbeside, fun _ _ _ => rfl⟩

/-- A build that has no workspace, before or after, changes nothing for the
    others. -/
theorem Holds.set_idle (h : G.Holds programs jobs site m) (hi : site[i]? = some (job, stage))
    (hbefore : stage.workspace? = none) (hnone : next.workspace? = none)
    (hsame : after = G.later after.files after.tickets after.clock after.log)
    (hstands : G.Stands programs job after next)
    (hfiles : after.files = m.files ∨ ((∀ l, G.Beside site l →
        after.files.entry? l = G.rooted.entry? l)
      ∧ ∀ j n, site.workspaceOf j = some (G.workspaceAt n) →
        after.files.contents (G.lot n) = m.files.contents (G.lot n))) :
    G.Holds programs jobs (site.set i (job, next)) after := by
  have hset : ∀ j, Site.workspaceOf (site.set i (job, next)) j = site.workspaceOf j := by
    intro j
    rw [Site.workspaceOf_set hi]
    split
    · rename_i hij
      rw [← hij, Site.workspaceOf_eq hi, hbefore, hnone]
    · rfl
  have hbeside : ∀ l, G.Beside (site.set i (job, next)) l → G.Beside site l :=
    fun l hl j n hws => hl j n ((hset j).trans hws)
  refine h.set hi hsame hstands (fun j n _ hws => ?_) (fun ws j _ hws => ?_) ?_
  · rcases hfiles with hfiles | ⟨-, hcontents⟩
    · rw [hfiles]
    · exact hcontents j n hws
  · exact nomatch hnone.symm.trans hws
  · rcases hfiles with hfiles | ⟨hrooted, -⟩
    · rw [hfiles]
      rcases h.files with ⟨hmissing, hempty⟩ | hkept
      · exact .inl ⟨hmissing, fun j => (hset j).trans (hempty j)⟩
      · exact .inr fun l hl => hkept l (hbeside l hl)
    · exact .inr fun l hl => hrooted l (hbeside l hl)

/-! ## Steps -/

/-- The stage that follows the search for tools. -/
def equippedStage : Except Failure (Composer × Path) → Stage
  | .ok (composer, compiler) => .equipped composer compiler
  | .error f => .ended (.error f)

theorem advance_begun {found : Except Failure (Composer × Path)}
    (h : (equip job).perform m = (found, after)) :
    (advance programs job .begun).Gives m (equippedStage found) after := by
  refine (attempt_then h).trans ?_
  cases found <;> rfl

theorem Holds.step_begun (h : G.Holds programs jobs site m) (hi : site[i]? = some (job, .begun))
    (hsuits : G.Suits programs job) :
    ∃ next after, (advance programs job .begun).Gives m next after
      ∧ G.Holds programs jobs (site.set i (job, next)) after := by
  obtain ⟨found, hequip, htools⟩ := hsuits.equips
  obtain ⟨clock, log, hperform⟩ := hequip m h.shares
  have hreaches : ∀ n, ∃ clock log,
      G.Reaches programs job n (equippedStage found) (G.later G.machine.files n clock log) := by
    intro n
    obtain ⟨clock, log, halone⟩ := hequip (G.alone n) (shares_alone n)
    exact ⟨clock, log, Reaches.step ⟨0, rfl⟩ (advance_begun halone)⟩
  have hlater : ({ m with clock := clock, log := log } : Machine)
      = G.later m.files m.tickets clock log := by
    rw [h.same]
    rfl
  refine ⟨_, _, advance_begun hperform, h.set_idle hi rfl ?_ hlater ?_ (.inl rfl)⟩
  · cases found <;> rfl
  · cases found with
    | ok tools =>
        obtain ⟨hquiet, hconfined⟩ := htools tools.1 tools.2 rfl
        exact .equipped hquiet hconfined hreaches
    | error f =>
        obtain ⟨_, _, hended⟩ := hreaches 0
        exact .ended (.inl ⟨0, _, hended⟩)

/-- The stage that follows the acquisition. -/
def acquiredStage (composer : Composer) (compiler : Path) : Except Failure Workspace → Stage
  | .ok ws => .acquired composer compiler ws
  | .error f => .ended (.error f)

theorem advance_equipped {composer : Composer} {compiler : Path}
    {acquired : Except Failure Workspace}
    (h : (Workspace.acquire job.root).perform m = (acquired, after)) :
    (advance programs job (.equipped composer compiler)).Gives m
      (acquiredStage composer compiler acquired) after := by
  refine (attempt_then h).trans ?_
  cases acquired <;> rfl

/-- A place that is free is in no workspace that a build has. -/
theorem Holds.beside_of_free (h : G.Holds programs jobs site m) {files : FileSystem}
    (hcontents : ∀ j k, site.workspaceOf j = some (G.workspaceAt k) →
      files.contents (G.lot k) = m.files.contents (G.lot k))
    {n : Nat} (hfree : files.entry? (G.lot n) = none) (rest : List Text) :
    G.Beside site (G.lot n ++ rest) := by
  intro j k hws hbelow
  have hthere : files.entry? (G.lot k) = some .directory := by
    rw [← contents_nil, hcontents j k hws, contents_nil]
    exact h.entry?_lot hws
  rw [lot_eq_of_lot_append hbelow, hfree] at hthere
  exact nomatch hthere

/-- A directory that is made for a workspace is nothing to the rest. -/
theorem entry?_put_lot {files : FileSystem} {n : Nat} {l : Location} (hl : ¬G.lot n <+: l) :
    entry? (files.put (G.lot n) .directory) l = files.entry? l := by
  rw [entry?_put (lot_ne_nil n), if_neg]
  rintro rfl
  exact hl (List.prefix_refl _)

/-- A build that acquires a free place for its workspace stands in it, and
    the others stand where they stood. -/
theorem Holds.set_acquired (h : G.Holds programs jobs site m) {composer : Composer}
    {compiler : Path} (hi : site[i]? = some (job, .equipped composer compiler))
    (hquiet : G.HasQuiet programs composer) (hconfined : G.Confines programs job compiler)
    {files : FileSystem} (hrooted : ∀ l, G.Beside site l → files.entry? l = G.rooted.entry? l)
    (hcontents : ∀ j k, site.workspaceOf j = some (G.workspaceAt k) →
      files.contents (G.lot k) = m.files.contents (G.lot k))
    {n : Nat} (htakes : G.Takes n) (hfree : files.entry? (G.lot n) = none)
    (hsame : after = G.later after.files after.tickets after.clock after.log)
    (hafter : after.files = files.put (G.lot n) .directory) {alone : Machine}
    (hreaches : G.Reaches programs job n (.acquired composer compiler (G.workspaceAt n)) alone)
    (halone : G.Carries alone) (hbare : alone.files.contents (G.lot n) = bare) :
    G.Holds programs jobs (site.set i (job, .acquired composer compiler (G.workspaceAt n)))
      after := by
  have hbeside := h.beside_of_free hcontents hfree
  have hnone : site.workspaceOf i = none := Site.workspaceOf_eq hi
  have hempty : files.contents (G.lot n) = fun _ => none :=
    funext fun rest => (hrooted _ (hbeside rest)).trans (htakes.isNew rest).free
  have hown : after.files.contents (G.lot n) = bare := by
    rw [hafter]
    exact contents_put_directory (lot_ne_nil n) hempty
  refine h.set hi hsame ?_ (fun j k _ hws => ?_) (fun ws j _ hws hother => ?_)
    (.inr fun l hl => ?_)
  · exact .working htakes (hown ▸ .acquired hquiet hconfined) hreaches halone
      (hbare.trans hown.symm)
  · rw [← hcontents j k hws, hafter]
    funext rest
    refine entry?_put_lot fun hbelow => hbeside [] j k hws ?_
    rw [List.append_nil, lot_eq_of_lot_append hbelow]
  · obtain rfl := Option.some.inj hws
    exact hbeside [] j n hother (List.prefix_append _ _)
  · have hoff : ¬G.lot n <+: l :=
      hl i n (by rw [Site.workspaceOf_set hi, if_pos rfl]; rfl)
    rw [hafter, entry?_put_lot hoff]
    refine hrooted l fun j k hws => hl j k ?_
    rw [Site.workspaceOf_set hi, if_neg, hws]
    rintro rfl
    exact nomatch hnone.symm.trans hws

theorem Holds.step_equipped (h : G.Holds programs jobs site m) {composer : Composer}
    {compiler : Path} (hi : site[i]? = some (job, .equipped composer compiler))
    (hsuits : G.Suits programs job) (hquiet : G.HasQuiet programs composer)
    (hconfined : G.Confines programs job compiler)
    (hreaches : ∀ n, ∃ clock log, G.Reaches programs job n (.equipped composer compiler)
      (G.later G.machine.files n clock log)) :
    ∃ next after, (advance programs job (.equipped composer compiler)).Gives m next after
      ∧ G.Holds programs jobs (site.set i (job, next)) after := by
  obtain ⟨files, hfiles, hrooted, hcontents⟩ := h.exists_ensures
  rcases acquire_cases hsuits h.shares hfiles with
    ⟨n, log, htakes, hfree, hacquire⟩ | ⟨f, hacquire, hrefused⟩
  · obtain ⟨clock, before, hreach⟩ := hreaches n
    obtain ⟨log', halone⟩ := acquire_alone hsuits htakes clock before
    have hcarries : G.Carries (G.later (G.rooted.put (G.lot n) .directory) (n + 1) clock log') :=
      ⟨rfl, keeps_rooted.of_same htakes fun l hl => entry?_put_lot hl⟩
    have hempty : G.rooted.contents (G.lot n) = fun _ => none :=
      funext fun rest => (htakes.isNew rest).free
    have hbare := contents_put_directory (lot_ne_nil n) hempty
    refine ⟨_, _, advance_equipped hacquire, h.set_acquired hi hquiet hconfined hrooted hcontents
      htakes hfree ?_ rfl (hreach.step (advance_equipped halone)) hcarries hbare⟩
    rw [h.same]
    rfl
  · refine ⟨_, _, advance_equipped hacquire, h.set_idle hi rfl rfl ?_ (.ended ?_)
      (.inr ⟨hrooted, hcontents⟩)⟩
    · rw [h.same]
      rfl
    · rcases hrefused with ⟨n, hrefuses⟩ | hnameless
      · obtain ⟨clock, log, hreach⟩ := hreaches n
        obtain ⟨found, hfails⟩ :=
          hrefuses (G.later G.machine.files n clock log) ⟨rfl, .inl rfl⟩ rfl
        exact .inl ⟨n, _, hreach.step (advance_equipped hfails)⟩
      · exact .inr hnameless

/-- A build that has a workspace takes the same step in it as it does
    alone. -/
theorem Holds.step_working (h : G.Holds programs jobs site m) (hi : site[i]? = some (job, stage))
    (hsuits : G.Suits programs job) {n : Nat} {alone : Machine} (htakes : G.Takes n)
    (hfits : G.Fits programs job n stage (m.files.contents (G.lot n)))
    (hreaches : G.Reaches programs job n stage alone) (halone : G.Carries alone)
    (hcontents : alone.files.contents (G.lot n) = m.files.contents (G.lot n)) :
    ∃ next after, (advance programs job stage).Gives m next after
      ∧ G.Holds programs jobs (site.set i (job, next)) after := by
  have hhas : site.workspaceOf i = some (G.workspaceAt n) :=
    (Site.workspaceOf_eq hi).trans hfits.workspace?_eq
  have hbeside := h.entry?_of_workspaceOf hhas
  have hcarries : G.Carries m := ⟨h.same, h.keeps hbeside⟩
  obtain ⟨next, left, hdoes, hnext⟩ := hfits.advance hsuits.patient htakes
  obtain ⟨after, hafter, htouches, hleft⟩ := hdoes m hcarries rfl
  obtain ⟨alone', halone', htouches', hleft'⟩ := hdoes alone halone hcontents
  have hreach := hreaches.step halone'
  have hother : ∀ j k, j ≠ i → site.workspaceOf j = some (G.workspaceAt k) →
      G.lot n ≠ G.lot k := by
    intro j k hj hws hlot
    rw [← workspaceAt_eq_of_lot hlot] at hws
    exact hj (h.apart j i _ hws hhas)
  refine ⟨next, after, hafter, h.set hi (htouches.carries htakes hcarries).same ?_
    (fun j k hj hws => ?_) (fun ws j hj hws hown => ?_) (.inr fun l hl => ?_)⟩
  · rcases hnext with hfits' | ⟨⟨outcome, rfl⟩, -⟩
    · exact .working htakes (hleft ▸ hfits') hreach (htouches'.carries htakes halone)
        (hleft'.trans hleft.symm)
    · exact .ended (.inl ⟨n, alone', hreach⟩)
  · funext rest
    exact htouches.beside _ fun hbelow => hother j k hj hws (lot_eq_of_lot_append hbelow)
  · rcases hnext with hfits' | ⟨⟨outcome, rfl⟩, -⟩
    · rw [← hws, hfits'.workspace?_eq] at hown
      exact hother j n hj hown rfl
    · exact nomatch hws
  · by_cases hbelow : G.lot n <+: l
    · rcases hnext with hfits' | ⟨-, rfl⟩
      · refine absurd hbelow (hl i n ?_)
        rw [Site.workspaceOf_set hi, if_pos rfl, hfits'.workspace?_eq]
      · obtain ⟨rest, rfl⟩ := hbelow
        exact (congrFun hleft rest).trans (htakes.isNew rest).free.symm
    · rw [htouches.beside l hbelow]
      refine hbeside l fun j k hws hin => ?_
      by_cases hj : j = i
      · subst hj
        obtain hsame := Option.some.inj (hhas.symm.trans hws)
        exact hbelow (lot_eq_of_workspaceAt hsame ▸ hin)
      · refine hl j k ?_ hin
        rw [Site.workspaceOf_set hi, if_neg (Ne.symm hj), hws]

/-- **What one step of a site preserves.** -/
theorem Holds.step (h : G.Holds programs jobs site m)
    (hsuits : ∀ job ∈ jobs, G.Suits programs job) (i : Nat) :
    ∃ next after, (site.advanceAt programs i).Gives m next after
      ∧ G.Holds programs jobs next after := by
  cases hi : site[i]? with
  | none =>
      refine ⟨site, m, ?_, h⟩
      unfold Site.advanceAt
      rw [hi]
      rfl
  | some build =>
      obtain ⟨job, stage⟩ := build
      have hjob : job ∈ jobs :=
        h.ordered ▸ List.mem_map_of_mem (f := Prod.fst) (List.mem_of_getElem? hi)
      have hstep : ∃ next after, (advance programs job stage).Gives m next after
          ∧ G.Holds programs jobs (site.set i (job, next)) after := by
        cases h.stands i job stage hi with
        | begun => exact h.step_begun hi (hsuits job hjob)
        | equipped hquiet hconfined hreaches =>
            exact h.step_equipped hi (hsuits job hjob) hquiet hconfined hreaches
        | working htakes hfits hreaches halone hcontents =>
            exact h.step_working hi (hsuits job hjob) htakes hfits hreaches halone hcontents
        | ended houtcome =>
            exact ⟨_, m, rfl, h.set_idle hi rfl rfl h.same (.ended houtcome) (.inl rfl)⟩
      obtain ⟨next, after, hgives, hholds⟩ := hstep
      exact ⟨_, after, Site.advanceAt_gives hi hgives, hholds⟩

/-- **What a schedule preserves.** -/
theorem Holds.follow (h : G.Holds programs jobs site m)
    (hsuits : ∀ job ∈ jobs, G.Suits programs job) (schedule : List Nat) :
    ∃ last after, (site.follow programs schedule).Gives m last after
      ∧ G.Holds programs jobs last after := by
  induction schedule generalizing site m with
  | nil => exact ⟨site, m, rfl, h⟩
  | cons index rest ih =>
      obtain ⟨next, middle, hstep, hnext⟩ := h.step hsuits index
      obtain ⟨last, after, hrest, hlast⟩ := ih hnext
      exact ⟨last, after, gives_bind.mpr ⟨next, middle, hstep, hrest⟩, hlast⟩

end Ground

end HermesBundle.Build
