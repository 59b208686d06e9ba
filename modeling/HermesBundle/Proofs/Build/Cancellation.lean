import HermesBundle.Proofs.Build.Outcome

/-! # Cancelled builds — a workspace is removed after the work in it

    A build that is cancelled inside its workspace does not leave it at
    once: it lets its errands come to their ends, or kills its compiler and
    waits until it has been reaped.  Only then is the workspace removed.
    The route:

    * **what holds at every moment** (`Orderly`) — nothing is removed
      before the body has ended, and from then on there is no work;
    * **what an event does** (`Orderly.step`) — every event keeps that,
      but for a request to cancel during the second wait;
    * **what a row of events does** (`release_after_work`) — no removal is
      taken up while a worker or the compiler is at work, if no such
      request arrives.

    The exception is real: the second wait is not guarded as the first one
    is.  A request that arrives during it ends the body on the spot, and
    the workspace is removed under the work (`release_during_work`,
    `release_while_composing_or_compiling`). -/

namespace HermesBundle.Build

/-- Whether a build that has been cancelled waits for work that is not
    done. -/
def BuildTask.awaitsWork (t : BuildTask) : Bool :=
  match t.body with
  | some ⟨work, .afterCancellation⟩ => !work.isDone
  | _ => false

/-- Whether an event is no request to cancel while the build waits for work
    after an earlier one. -/
def BuildTask.spares (t : BuildTask) : BuildEvent → Bool
  | .cancel => !t.awaitsWork
  | _ => true

/-- Whether no request to cancel arrives while the build waits for work
    after an earlier one. -/
def BuildTask.sparesAll (t : BuildTask) : List BuildEvent → Bool
  | [] => true
  | event :: rest => t.spares event && (t.step event).all fun next => next.sparesAll rest

/-- Whether the body of a scope has not ended yet. -/
def ScopePoint.isOpen {α : Type} : ScopePoint α → Bool
  | .acquiring => true
  | .inside _ => true
  | _ => false

/-- A build whose workspace is removed after the work in it only. -/
structure Orderly (t : BuildTask) : Prop where
  /-- Nothing is removed before the body has ended. -/
  kept : t.scope.point.isOpen = true → t.scope.removal = none
  /-- Where something is removed there is no work. -/
  quiet : t.scope.removal ≠ none → HasNoWork t

variable {programs : Programs} {job : Job} {composer : Composer} {compiler : Path} {m : Machine}
  {t next : BuildTask} {event : BuildEvent}

/-! ## What an event leaves as it is -/

/-- A worker that takes up or ends the errand of a scope changes neither
    the point nor whether something is to be removed. -/
theorem ScopeTask.start_keeps {α : Type} {s s' : ScopeTask α} (h : s.start = some s') :
    s'.point = s.point ∧ (s'.removal = none ↔ s.removal = none) := by
  unfold ScopeTask.start at h
  split at h
  · rename_i r hr
    obtain ⟨e, -, rfl⟩ := Option.map_eq_some_iff.mp h
    exact ⟨rfl, by simp [hr]⟩
  · obtain ⟨e, -, rfl⟩ := Option.map_eq_some_iff.mp h
    exact ⟨rfl, Iff.rfl⟩

theorem ScopeTask.finish_keeps {α : Type} {s s' : ScopeTask α} (h : s.finish = some s') :
    s'.point = s.point ∧ (s'.removal = none ↔ s.removal = none) := by
  unfold ScopeTask.finish at h
  split at h
  · rename_i r hr
    obtain ⟨e, -, rfl⟩ := Option.map_eq_some_iff.mp h
    exact ⟨rfl, by simp [hr]⟩
  · obtain ⟨e, -, rfl⟩ := Option.map_eq_some_iff.mp h
    exact ⟨rfl, Iff.rfl⟩

theorem ScopeTask.discard_keeps {α : Type} {s s' : ScopeTask α} (h : s.discard = some s') :
    s'.point = s.point ∧ (s'.removal = none ↔ s.removal = none) := by
  unfold ScopeTask.discard at h
  split at h
  · obtain ⟨outcome, -, rfl⟩ := Option.map_eq_some_iff.mp h
    cases outcome with
    | ok ws => exact ⟨rfl, Iff.rfl⟩
    | error f => exact ⟨rfl, Iff.rfl⟩
  · exact nomatch h

/-- An errand of the body that is taken up leaves the scope as it is. -/
theorem start_scope {errand : ErrandName} (herrand : errand ≠ .workspace)
    (h : t.start errand = some next) : next.scope = t.scope := by
  cases errand with
  | workspace => exact absurd rfl herrand
  | staging =>
      obtain ⟨body, -, h⟩ := Option.bind_eq_some_iff.mp h
      split at h
      · obtain ⟨e, -, rfl⟩ := Option.map_eq_some_iff.mp h
        rfl
      · exact nomatch h
  | reading =>
      obtain ⟨body, -, h⟩ := Option.bind_eq_some_iff.mp h
      split at h
      · obtain ⟨e, -, rfl⟩ := Option.map_eq_some_iff.mp h
        rfl
      · exact nomatch h
  | composing =>
      obtain ⟨body, -, h⟩ := Option.bind_eq_some_iff.mp h
      split at h
      · obtain ⟨e, -, rfl⟩ := Option.map_eq_some_iff.mp h
        rfl
      · exact nomatch h

/-- An errand of the body that ends changes the machine of the scope
    only. -/
theorem finish_scope {errand : ErrandName} (herrand : errand ≠ .workspace)
    (h : t.finish errand = some next) : ∃ now, next.scope = { t.scope with machine := now } := by
  cases errand with
  | workspace => exact absurd rfl herrand
  | staging =>
      obtain ⟨body, -, h⟩ := Option.bind_eq_some_iff.mp h
      obtain ⟨ws, -, h⟩ := Option.bind_eq_some_iff.mp h
      split at h
      · obtain ⟨⟨e, now⟩, -, h⟩ := Option.bind_eq_some_iff.mp h
        obtain rfl := Option.some.inj h
        exact ⟨now, rfl⟩
      · exact nomatch h
  | reading =>
      obtain ⟨body, -, h⟩ := Option.bind_eq_some_iff.mp h
      obtain ⟨ws, -, h⟩ := Option.bind_eq_some_iff.mp h
      split at h
      · obtain ⟨⟨e, now⟩, -, h⟩ := Option.bind_eq_some_iff.mp h
        obtain rfl := Option.some.inj h
        exact ⟨now, rfl⟩
      · exact nomatch h
  | composing =>
      obtain ⟨body, -, h⟩ := Option.bind_eq_some_iff.mp h
      obtain ⟨ws, -, h⟩ := Option.bind_eq_some_iff.mp h
      split at h
      · obtain ⟨⟨e, now⟩, -, h⟩ := Option.bind_eq_some_iff.mp h
        obtain rfl := Option.some.inj h
        exact ⟨now, rfl⟩
      · exact nomatch h

/-- A compiler that ends changes the machine of the scope only. -/
theorem reap_scope {allowed : Option Nat} (h : t.reap allowed = some next) :
    ∃ now, next.scope = { t.scope with machine := now } := by
  obtain ⟨body, -, h⟩ := Option.bind_eq_some_iff.mp h
  obtain ⟨ws, -, h⟩ := Option.bind_eq_some_iff.mp h
  split at h
  · exact nomatch h
  · obtain rfl := Option.some.inj h
    exact ⟨_, rfl⟩
  · exact nomatch h

/-! ## What an event does -/

/-- Whatever happens to the scope, it is orderly if the point stays and
    nothing new is to be removed. -/
theorem Orderly.of_scope {s : ScopeTask Result} (h : Orderly t)
    (hscope : s.point = t.scope.point ∧ (s.removal = none ↔ t.scope.removal = none)) :
    Orderly { t with scope := s } where
  kept hopen := hscope.2.mpr (h.kept (by rw [← hscope.1]; exact hopen))
  quiet hremoval := h.quiet fun hnone => hremoval (hscope.2.mpr hnone)

/-- A build with work goes on with it while nothing is removed. -/
theorem Orderly.of_work (h : Orderly t) (hwork : ¬HasNoWork t)
    (hremoval : next.scope.removal = t.scope.removal) : Orderly next := by
  have hnone : t.scope.removal = none := by
    by_contra hsome
    exact hwork (h.quiet hsome)
  refine ⟨fun _ => hremoval.trans hnone, fun hsome => ?_⟩
  exact absurd (hremoval.trans hnone) hsome

/-- A build whose body ends when its work is done is orderly. -/
theorem Orderly.of_leave {body : Body} {outcome : Except Failure Result}
    (hdone : body.work.isDone = true) (h : t.leave body outcome = some next) : Orderly next := by
  obtain ⟨s, hs, rfl⟩ := Option.map_eq_some_iff.mp h
  have hclosed : s.point.isOpen = false := by
    unfold ScopeTask.leave at hs
    split at hs
    · obtain rfl := Option.some.inj hs
      cases outcome with
      | ok value => rfl
      | error f => rfl
    · exact nomatch hs
  refine ⟨fun hopen => ?_, fun _ b hb => ?_⟩
  · exact nomatch hclosed.symm.trans hopen
  · obtain rfl := Option.some.inj hb
    exact hdone

/-- A build that goes on inside its workspace has more work, or leaves
    when its work is done. -/
theorem Orderly.step_goOn {body : Body} (hremoval : t.scope.removal = none)
    (h : t.goOn body = some next) : Orderly next := by
  have hmore : ∀ work, Orderly (t.withWork body work) := fun work =>
    ⟨fun _ => hremoval, fun hsome => absurd hremoval hsome⟩
  unfold BuildTask.goOn at h
  split at h
  · rename_i e hwork
    obtain ⟨outcome, houtcome, h⟩ := Option.bind_eq_some_iff.mp h
    cases outcome with
    | ok _ =>
        obtain rfl := Option.some.inj h
        exact hmore _
    | error f =>
        refine .of_leave ?_ h
        rw [hwork, Work.isDone, houtcome]
        rfl
  · rename_i outcome hwork
    cases outcome with
    | ok _ =>
        obtain rfl := Option.some.inj h
        exact hmore _
    | error f =>
        refine .of_leave ?_ h
        rw [hwork]
        rfl
  · cases h
  · rename_i reading composing hwork
    obtain ⟨bytecode, hbytecode, h⟩ := Option.bind_eq_some_iff.mp h
    obtain ⟨sourceMap, hsourceMap, h⟩ := Option.bind_eq_some_iff.mp h
    refine .of_leave ?_ h
    rw [hwork, Work.isDone, hbytecode, hsourceMap]
    rfl

/-- A task that goes on leaves its scope orderly: it enters its workspace
    before anything is removed. -/
theorem Orderly.step_resume (h : Orderly t) (hstep : t.resume = some next) : Orderly next := by
  unfold BuildTask.resume at hstep
  split at hstep
  · rename_i ws hpoint
    have hremoval := h.kept (by rw [hpoint]; rfl)
    obtain ⟨body, -, hstep⟩ := Option.bind_eq_some_iff.mp hstep
    split at hstep
    · exact step_goOn hremoval hstep
    · split at hstep
      · rename_i hdone
        exact .of_leave hdone hstep
      · exact nomatch hstep
    · exact nomatch hstep
  · obtain ⟨s, hs, rfl⟩ := Option.map_eq_some_iff.mp hstep
    unfold ScopeTask.resume at hs
    split at hs
    · rename_i hpoint
      have hremoval := h.kept (by rw [hpoint]; rfl)
      obtain ⟨outcome, -, rfl⟩ := Option.map_eq_some_iff.mp hs
      cases outcome with
      | ok ws => exact ⟨fun _ => hremoval, fun hsome => absurd hremoval hsome⟩
      | error f => exact ⟨fun hopen => (nomatch hopen), fun hsome => absurd hremoval hsome⟩
    · exact nomatch hs
    · obtain ⟨outcome, -, rfl⟩ := Option.map_eq_some_iff.mp hs
      cases outcome with
      | ok _ => exact ⟨fun hopen => (nomatch hopen), h.quiet⟩
      | error f => exact ⟨fun hopen => (nomatch hopen), h.quiet⟩
    · obtain ⟨outcome, -, rfl⟩ := Option.map_eq_some_iff.mp hs
      cases outcome with
      | ok _ => exact ⟨fun hopen => (nomatch hopen), h.quiet⟩
      | error f => exact ⟨fun hopen => (nomatch hopen), h.quiet⟩
    · exact nomatch hs

/-- A task that is cancelled leaves its scope orderly, unless it waits for
    work after an earlier request. -/
theorem Orderly.step_cancel (h : Orderly t) (hspared : t.spares .cancel = true)
    (hstep : t.cancel = some next) : Orderly next := by
  unfold BuildTask.cancel at hstep
  split at hstep
  · rename_i ws hpoint
    have hremoval := h.kept (by rw [hpoint]; rfl)
    obtain ⟨⟨work, wait⟩, hbody, hstep⟩ := Option.bind_eq_some_iff.mp hstep
    dsimp only at hstep
    split at hstep
    · obtain rfl := Option.some.inj hstep
      exact ⟨fun _ => hremoval, fun hsome => absurd hremoval hsome⟩
    · unfold BuildTask.spares BuildTask.awaitsWork at hspared
      rw [hbody] at hspared
      exact .of_leave (by simpa using hspared) hstep
    · exact nomatch hstep
  · rename_i houtside
    obtain ⟨s, hs, rfl⟩ := Option.map_eq_some_iff.mp hstep
    unfold ScopeTask.cancel at hs
    split at hs
    · rename_i hpoint
      obtain rfl := Option.some.inj hs
      have hremoval := h.kept (by rw [hpoint]; rfl)
      exact ⟨fun hopen => (nomatch hopen), fun hsome => absurd hremoval hsome⟩
    · rename_i ws hpoint
      exact absurd hpoint (houtside ws)
    · obtain rfl := Option.some.inj hs
      exact ⟨fun hopen => (nomatch hopen), h.quiet⟩
    · obtain rfl := Option.some.inj hs
      refine ⟨fun hopen => (nomatch hopen), fun hsome => h.quiet fun hnone => hsome ?_⟩
      exact congrArg (Option.map _) hnone
    · exact nomatch hs

/-- **Every event keeps a build orderly**, but for a request to cancel
    while it waits for work after an earlier one. -/
theorem Orderly.step (h : Orderly t) (hspared : t.spares event = true)
    (hstep : t.step event = some next) : Orderly next := by
  cases event with
  | start errand =>
      by_cases herrand : errand = .workspace
      · obtain rfl := herrand
        obtain ⟨s, hs, rfl⟩ := Option.map_eq_some_iff.mp hstep
        exact h.of_scope (ScopeTask.start_keeps hs)
      · refine h.of_work (fun hnone => ?_) (congrArg _ (start_scope herrand hstep))
        exact nomatch (start_eq_none hnone herrand).symm.trans hstep
  | finish errand =>
      by_cases herrand : errand = .workspace
      · obtain rfl := herrand
        obtain ⟨s, hs, rfl⟩ := Option.map_eq_some_iff.mp hstep
        exact h.of_scope (ScopeTask.finish_keeps hs)
      · obtain ⟨now, hscope⟩ := finish_scope herrand hstep
        refine h.of_work (fun hnone => ?_) (by rw [hscope])
        exact nomatch (finish_eq_none hnone herrand).symm.trans hstep
  | reap allowed =>
      obtain ⟨now, hscope⟩ := reap_scope hstep
      refine h.of_work (fun hnone => ?_) (by rw [hscope])
      exact nomatch (reap_eq_none hnone allowed).symm.trans hstep
  | resume => exact h.step_resume hstep
  | cancel => exact h.step_cancel hspared hstep
  | discard =>
      obtain ⟨s, hs, rfl⟩ := Option.map_eq_some_iff.mp hstep
      exact h.of_scope (ScopeTask.discard_keeps hs)

/-! ## What a row of events does -/

theorem Orderly.steps {events : List BuildEvent} (h : Orderly t)
    (hspared : t.sparesAll events = true) (hsteps : t.steps events = some next) : Orderly next := by
  induction events generalizing t with
  | nil =>
      obtain rfl := Option.some.inj hsteps
      exact h
  | cons event rest ih =>
      obtain ⟨middle, hstep, hrest⟩ := Option.bind_eq_some_iff.mp hsteps
      obtain ⟨hfirst, hothers⟩ := Bool.and_eq_true_iff.mp hspared
      rw [hstep] at hothers
      exact ih (h.step hfirst hstep) hothers hrest

/-- Work that is done is no longer under way. -/
theorem isUnderWay_of_hasNoWork (h : HasNoWork t) : t.isUnderWay = false := by
  unfold BuildTask.isUnderWay
  cases hbody : t.body with
  | none => rfl
  | some body =>
      obtain ⟨work, wait⟩ := body
      rcases Work.isDone_cases (h _ hbody) with ⟨outcome, rfl⟩ | ⟨outcome, rfl⟩ | ⟨_, _, rfl⟩
      · rfl
      · rfl
      · rfl

/-- **No workspace is removed while it is in use**: whatever happens to a
    build and however often it is cancelled, when the removal has been
    taken up no errand of the body is running and the compiler has been
    reaped, if no request to cancel arrives while the build waits for its
    work after an earlier one. -/
theorem release_after_work {events : List BuildEvent}
    (hspared : (BuildTask.begin programs job composer compiler m).sparesAll events = true)
    (hsteps : (BuildTask.begin programs job composer compiler m).steps events = some t)
    (hrelease : t.releaseStarted = true) : t.isUnderWay = false := by
  have hbegin : Orderly (BuildTask.begin programs job composer compiler m) :=
    ⟨fun _ => rfl, fun hsome => absurd rfl hsome⟩
  refine isUnderWay_of_hasNoWork ((hbegin.steps hspared hsteps).quiet fun hnone => ?_)
  unfold BuildTask.releaseStarted at hrelease
  rw [hnone] at hrelease
  exact nomatch hrelease

/-- A build on the machine with a home, with a compiler that says little. -/
def terseBuild : BuildTask :=
  .begin terseCompiler (jobWith "/home/bin/hermesc" "/home/ws") builtinComposer
    (Path.ofString "/home/bin/hermesc") homeMachine

/-- The events of a build that is cancelled while its maps are being
    composed, and left alone from then on. -/
def onceCancelled : List BuildEvent :=
  BuildTask.eventsToComposition ++ [.cancel, .finish .composing, .resume, .start .workspace]

theorem release_after_work_onceCancelled :
    ∃ t, terseBuild.sparesAll onceCancelled = true ∧ terseBuild.steps onceCancelled = some t
      ∧ t.releaseStarted = true ∧ t.isUnderWay = false := by
  have hspared : terseBuild.sparesAll onceCancelled = true := by cbv
  have hsteps : (terseBuild.steps onceCancelled).map BuildTask.releaseStarted = some true := by cbv
  obtain ⟨t, hsteps, hrelease⟩ := Option.map_eq_some_iff.mp hsteps
  exact ⟨t, hspared, hsteps, hrelease, release_after_work hspared hsteps hrelease⟩

/-! ## The second request -/

/-- **A second request removes the workspace under the work**: wherever a
    cancelled build waits for work that is under way, another request and
    a worker lead to the removal while the work goes on. -/
theorem release_during_work {ws : Workspace} {work : Work} (hinside : t.scope.point = .inside ws)
    (hbody : t.body = some ⟨work, .afterCancellation⟩) (hwork : work.isUnderWay = true) :
    ∃ next, t.steps [.cancel, .start .workspace] = some next ∧ next.releaseStarted = true
      ∧ next.isUnderWay = true := by
  have hleft : t.cancel = some { t with
      scope := t.scope.left ws (.error .cancelled), body := some ⟨work, .over⟩ } := by
    unfold BuildTask.cancel BuildTask.leave ScopeTask.leave
    rw [hinside, hbody]
    rfl
  refine ⟨{ t with
    scope := { t.scope.left ws (.error .cancelled) with removal := some ⟨ws, false, .running⟩ },
    body := some ⟨work, .over⟩ }, ?_, rfl, hwork⟩
  rw [BuildTask.steps, BuildTask.step, hleft]
  rfl

/-- A build that is cancelled twice while its maps are being composed is
    removing its workspace before they are, and one that is cancelled twice
    while it compiles before its compiler has been reaped. -/
theorem release_while_composing_or_compiling :
    (∃ t, terseBuild.steps
        (BuildTask.eventsToComposition ++ [.cancel, .cancel, .start .workspace]) = some t
      ∧ t.releaseStarted = true ∧ t.isUnderWay = true)
    ∧ ∃ t, terseBuild.steps
        [.start .workspace, .finish .workspace, .resume, .start .staging, .finish .staging, .resume,
          .cancel, .cancel, .start .workspace] = some t
      ∧ t.releaseStarted = true ∧ t.isUnderWay = true := by
  have hcomposing : (terseBuild.steps
      (BuildTask.eventsToComposition ++ [.cancel, .cancel, .start .workspace])).map
        (fun t => (t.releaseStarted, t.isUnderWay)) = some (true, true) := by cbv
  have hcompiling : (terseBuild.steps
      [.start .workspace, .finish .workspace, .resume, .start .staging, .finish .staging, .resume,
        .cancel, .cancel, .start .workspace]).map
        (fun t => (t.releaseStarted, t.isUnderWay)) = some (true, true) := by cbv
  obtain ⟨t, hsteps, hseen⟩ := Option.map_eq_some_iff.mp hcomposing
  obtain ⟨t', hsteps', hseen'⟩ := Option.map_eq_some_iff.mp hcompiling
  exact ⟨⟨t, hsteps, Prod.mk.inj hseen⟩, t', hsteps', Prod.mk.inj hseen'⟩

end HermesBundle.Build
