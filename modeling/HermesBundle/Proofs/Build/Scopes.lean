import HermesBundle.Build.ScopeTask
import HermesBundle.Proofs.Build.Acquisition

/-! # Scopes — a workspace is cleaned up after any body

    A scope acquires a workspace, runs a body in it and removes it.  It
    comes in two forms: as an action, and as a task whose errands are done
    without delay.  A body may write inside its workspace, remove it, make
    it again or put a file in its place, and may end with a value, with a
    failure or, as a task, by being cancelled.  The route:

    * a change leaves a directory, nothing or a file at the place and
      everything beside it alone (`Change.stands`, `Change.beside`), and so
      does a whole body (`stands_of_changes`, `RunsBody.changedAt`);
    * the action and the task acquire a workspace, run a body and close the
      workspace alike (`ScopeTask.perform_scope_and_run`);
    * what comes of the removal is settled by what stands at the place
      (`Ground.removal_of_directory`, `Ground.removal_of_gone`,
      `Ground.removal_of_file`);
    * so **both forms clean up** (`scope_cleansUp`). -/

namespace HermesBundle.Build

open HermesBundle.Action FileSystem

/-! ## Bodies -/

/-- A change that a body makes at the place of its workspace. -/
inductive Change (place : Location) (fs files : FileSystem) : Prop where
  /-- Something is written, made or removed inside the directory. -/
  | inside : fs.entry? place = some .directory → files.entry? place = some .directory →
      (∀ l, ¬place <+: l → files.entry? l = fs.entry? l) → Change place fs files
  /-- The place is removed with everything below it. -/
  | removed : (∀ l, place <+: l → files.entry? l = none) →
      (∀ l, ¬place <+: l → files.entry? l = fs.entry? l) → Change place fs files
  /-- The directory is made again. -/
  | remade : fs.entry? place = none → files.entry? place = some .directory →
      (∀ l, ¬place <+: l → files.entry? l = fs.entry? l) → Change place fs files
  /-- A regular file is put in its place. -/
  | replaced (content : Bytes) (executable : Bool) :
      files.entry? place = some (.file content executable) →
      (∀ l, place <+: l → l ≠ place → files.entry? l = none) →
      (∀ l, ¬place <+: l → files.entry? l = fs.entry? l) → Change place fs files

/-- What stands at the place of a workspace: the directory, nothing, or a
    regular file. -/
inductive StandsAt (place : Location) (fs : FileSystem) : Prop where
  | directory : fs.entry? place = some .directory → StandsAt place fs
  | gone : (∀ l, place <+: l → fs.entry? l = none) → StandsAt place fs
  | file (content : Bytes) (executable : Bool) :
      fs.entry? place = some (.file content executable) →
      (∀ l, place <+: l → l ≠ place → fs.entry? l = none) → StandsAt place fs

/-- What a body has done between two machines: changes at the place of its
    workspace, one after another, without leaving the current directory. -/
structure ChangedAt (place : Location) (m after : Machine) : Prop where
  files : Relation.ReflTransGen (Change place) m.files after.files
  here : after.here = m.here

/-- How a body ends, once its work is done. -/
inductive BodyEnding (α : Type) where
  | value (a : α)
  | failure (f : Failure)
  /-- The task is cancelled while the body waits. -/
  | cancellation

namespace BodyEnding

variable {α : Type}

/-- What propagates from a body that ends in this way. -/
def outcome : BodyEnding α → Except Failure α
  | value a => .ok a
  | failure f => .error f
  | cancellation => .error .cancelled

/-- The event by which the body of a task ends in this way. -/
def event : BodyEnding α → ScopeEvent α
  | value a => .leave (.ok a)
  | failure f => .leave (.error f)
  | cancellation => .cancel

end BodyEnding

/-- Works in a workspace, one after another. -/
abbrev Works := List (Workspace → Action Unit)

/-- The body of some works that ends in some way, as an action. -/
def bodyOf {α : Type} (works : Works) (ending : BodyEnding α) (ws : Workspace) : Action α :=
  match works with
  | [] => Action.ofExcept id ending.outcome
  | work :: rest => do
      work ws
      bodyOf rest ending ws

/-- The same body as the events of a task. -/
def eventsOf {α : Type} (works : Works) (ending : BodyEnding α) : List (ScopeEvent α) :=
  works.map .act ++ [ending.event]

/-- How a body runs: its works are done one after another until one fails,
    and each makes changes at the place of the workspace only. -/
inductive RunsBody {α : Type} (ws : Workspace) (place : Location) :
    Works → BodyEnding α → Machine → Except Failure α → Machine → Prop where
  | ends (ending : BodyEnding α) (m : Machine) : RunsBody ws place [] ending m ending.outcome m
  | works {work : Workspace → Action Unit} {rest : Works} {ending : BodyEnding α}
      {m next last : Machine} {outcome : Except Failure α} :
      (work ws).Gives m () next → ChangedAt place m next →
      RunsBody ws place rest ending next outcome last →
      RunsBody ws place (work :: rest) ending m outcome last
  /-- A work fails, before the task could be cancelled. -/
  | fails {work : Workspace → Action Unit} {rest : Works} {ending : BodyEnding α}
      {m after : Machine} {f : Failure} : ending ≠ .cancellation →
      (work ws).FailsWith m f after → ChangedAt place m after →
      RunsBody ws place (work :: rest) ending m (.error f) after

section

variable {place : Location} {fs files : FileSystem}

/-- Every change leaves the directory, nothing or a file. -/
theorem Change.stands (h : Change place fs files) : StandsAt place files := by
  cases h with
  | inside _ hthere _ => exact .directory hthere
  | removed hgone _ => exact .gone hgone
  | remade _ hthere _ => exact .directory hthere
  | replaced content executable hfile hbelow _ => exact .file content executable hfile hbelow

/-- No change reaches beside the place. -/
theorem Change.beside (h : Change place fs files) {l : Location} (hl : ¬place <+: l) :
    files.entry? l = fs.entry? l := by
  cases h with
  | inside _ _ hbeside => exact hbeside l hl
  | removed _ hbeside => exact hbeside l hl
  | remade _ _ hbeside => exact hbeside l hl
  | replaced _ _ _ _ hbeside => exact hbeside l hl

/-- Nor do several changes. -/
theorem stands_of_changes (h : Relation.ReflTransGen (Change place) fs files)
    (hfs : StandsAt place fs) :
    StandsAt place files ∧ ∀ l, ¬place <+: l → files.entry? l = fs.entry? l := by
  induction h with
  | refl => exact ⟨hfs, fun _ _ => rfl⟩
  | tail _ hlast ih => exact ⟨hlast.stands, fun l hl => (hlast.beside hl).trans (ih.2 l hl)⟩

end

section

variable {α : Type} {ws : Workspace} {place : Location} {works : Works} {ending : BodyEnding α}
  {m last : Machine} {outcome : Except Failure α}

/-- A whole body works at the place of its workspace only. -/
theorem RunsBody.changedAt (h : RunsBody ws place works ending m outcome last) :
    ChangedAt place m last := by
  induction h with
  | ends ending m => exact ⟨.refl, rfl⟩
  | works _ hchanged _ ih => exact ⟨hchanged.files.trans ih.files, ih.here.trans hchanged.here⟩
  | fails _ _ hchanged => exact hchanged

/-- What the action of a body comes to. -/
theorem RunsBody.perform_body (h : RunsBody ws place works ending m outcome last) :
    (bodyOf works ending ws).perform m = (outcome, last) := by
  induction h with
  | ends ending m => exact perform_ofExcept_id _ m
  | works hgives _ _ ih =>
      unfold bodyOf
      rw [perform_bind_of_gives hgives]
      exact ih
  | fails _ hfails _ =>
      unfold bodyOf
      exact perform_bind_of_failsWith hfails _

end

/-! ## Bodies of tasks -/

namespace ScopeTask

variable {α : Type} {root : Option Path} {ws : Workspace} {place : Location} {works : Works}
  {ending : BodyEnding α} {m acquired last : Machine} {outcome : Except Failure α}

/-- A task whose body works in a workspace. -/
def atBody (root : Option Path) (ws : Workspace) (m : Machine) : ScopeTask α :=
  ⟨m, root, .inside ws, .done (.ok ws), none, false⟩

/-- A running errand is done with what its work comes to. -/
theorem finish?_running {β : Type} {work : Action β} {m after : Machine}
    {outcome : Except Failure β} (h : work.perform m = (outcome, after)) :
    Errand.finish? work m .running = some (.done outcome, after) := by
  unfold Errand.finish?
  rw [h]

/-- A task acquires its workspace as the action does. -/
theorem follow_acquisition (h : (Workspace.acquire root).Gives m ws acquired) :
    (begin m root : ScopeTask α).follow errandEvents = atBody root ws acquired := by
  have hfinish : (⟨m, root, .acquiring, .running, none, false⟩ : ScopeTask α).finish
      = some ⟨acquired, root, .acquiring, .done (.ok ws), none, false⟩ := by
    unfold ScopeTask.finish
    dsimp only
    rw [finish?_running h]
    rfl
  show ((ScopeTask.mk m root .acquiring .running none false).finish.getD _).follow [.resume] = _
  rw [hfinish]
  rfl

/-- A task whose body has failed does no more of its works. -/
theorem follow_events_of_left {f : Failure} (t : ScopeTask α) (hending : ending ≠ .cancellation) :
    (t.left ws (.error f)).follow (eventsOf works ending) = t.left ws (.error f) := by
  unfold eventsOf
  induction works with
  | nil =>
      cases ending with
      | value a => rfl
      | failure e => rfl
      | cancellation => exact absurd rfl hending
  | cons work rest ih => exact ih

/-- A task does the works of its body as the action does. -/
theorem follow_events (h : RunsBody ws place works ending m outcome last) :
    (atBody root ws m).follow (eventsOf works ending) = (atBody root ws last).left ws outcome := by
  induction h with
  | ends ending m => cases ending <;> rfl
  | @works work rest ending m next last outcome hgives _ _ ih =>
      have hact : (atBody root ws m : ScopeTask α).act work = some (atBody root ws next) := by
        unfold act atBody
        dsimp only
        rw [hgives]
      show (((atBody root ws m).act work).getD _).follow (eventsOf rest ending) = _
      rw [hact]
      exact ih
  | @fails work rest ending m after f hending hfails _ =>
      have hact : (atBody root ws m : ScopeTask α).act work
          = some ((atBody root ws after).left ws (.error f)) := by
        unfold act atBody
        dsimp only
        rw [hfails]
      show (((atBody root ws m).act work).getD _).follow (eventsOf rest ending) = _
      rw [hact]
      exact follow_events_of_left _ hending

/-- How a scope ends whose body has ended in some way, and the removal of
    its workspace in another. -/
def combined (outcome : Except Failure α) : Except Failure Unit → Except Failure α
  | .ok () => outcome
  | .error f => .error f

/-- An action closes its workspace by a removal that is strict if the body
    has succeeded. -/
theorem perform_close {released : Except Failure Unit} {m after : Machine}
    (outcome : Except Failure α)
    (h : (Workspace.release ws outcome.isOk).perform m = (released, after)) :
    (Workspace.close ws outcome).perform m = (combined outcome released, after) := by
  unfold Workspace.close
  cases outcome with
  | ok value =>
      rw [perform_bind, show (Workspace.release ws true).perform m = _ from h]
      cases released <;> rfl
  | error f =>
      rw [perform_bind, show (Workspace.release ws false).perform m = _ from h]
      cases released <;> rfl

/-- A removal that is running ends with what releasing the workspace comes
    to. -/
theorem finish_removal {strict : Bool} {released : Except Failure Unit} {m after : Machine}
    (root : Option Path) (point : ScopePoint α)
    (h : (Workspace.release ws strict).perform m = (released, after)) :
    (⟨m, root, point, .done (.ok ws), some ⟨ws, strict, .running⟩, false⟩ : ScopeTask α).finish
      = some ⟨after, root, point, .done (.ok ws), some ⟨ws, strict, .done released⟩, false⟩ := by
  unfold ScopeTask.finish
  dsimp only
  rw [finish?_running h]
  rfl

/-- So does a task. -/
theorem follow_removal {released : Except Failure Unit} {m after : Machine}
    (outcome : Except Failure α)
    (h : (Workspace.release ws outcome.isOk).perform m = (released, after)) :
    ((atBody root ws m).left ws outcome).follow errandEvents
      = ⟨after, root, .ended (combined outcome released), .done (.ok ws),
        some ⟨ws, outcome.isOk, .done released⟩, false⟩ := by
  cases outcome with
  | ok value =>
      have hfinish := finish_removal root (.leaving value)
        (show (Workspace.release ws true).perform m = _ from h)
      show ((ScopeTask.mk m root (.leaving value) (.done (.ok ws)) (some ⟨ws, true, .running⟩)
        false).finish.getD _).follow [.resume] = _
      rw [hfinish]
      cases released <;> rfl
  | error f =>
      have hfinish := finish_removal root (.closing f : ScopePoint α)
        (show (Workspace.release ws false).perform m = _ from h)
      show ((ScopeTask.mk m root (.closing f) (.done (.ok ws)) (some ⟨ws, false, .running⟩)
        false).finish.getD _).follow [.resume] = _
      rw [hfinish]
      cases released <;> rfl

/-- **A task that nothing delays does what the action does**: it ends with
    the outcome that closing the workspace comes to. -/
theorem perform_scope_and_run (hacquire : (Workspace.acquire root).Gives m ws acquired)
    (h : RunsBody ws place works ending acquired outcome last) :
    (Workspace.scope root (bodyOf works ending)).perform m
        = (Workspace.close ws outcome).perform last
      ∧ (run root (promptEvents (eventsOf works ending))).perform m
        = (Workspace.close ws outcome).perform last := by
  constructor
  · unfold Workspace.scope
    rw [perform_bind_of_gives hacquire, perform_bind, perform_attempt, h.perform_body]
  · rcases hrelease : (Workspace.release ws outcome.isOk).perform last with ⟨released, after⟩
    have hfollow : (begin m root : ScopeTask α).follow (promptEvents (eventsOf works ending))
        = ⟨after, root, .ended (combined outcome released), .done (.ok ws),
          some ⟨ws, outcome.isOk, .done released⟩, false⟩ := by
      unfold promptEvents follow
      rw [List.foldl_append, List.foldl_append]
      show (((begin m root).follow errandEvents).follow (eventsOf works ending)).follow
        errandEvents = _
      rw [follow_acquisition hacquire, follow_events h, follow_removal outcome hrelease]
    rw [perform_close outcome hrelease]
    unfold run
    rw [perform_bind, perform_get]
    dsimp only
    rw [perform_bind, perform_set, hfollow]
    exact perform_ofExcept_id _ after

end ScopeTask

/-! ## Removals -/

/-- Whether a regular file stands at a place. -/
def HoldsFile (place : Location) (fs : FileSystem) : Prop :=
  ∃ content executable, fs.entry? place = some (.file content executable)

namespace Ground

variable {G : Ground} {n : Nat} {fs : FileSystem} {m : Machine}

/-- The path of a workspace leads to whatever stands at its place. -/
theorem locate_workspaceAt_itself (htakes : G.Takes n) (hextends : fs.Extends G.rooted) :
    fs.locate G.machine.here .itself (G.workspaceAt n).path.toText
      = match fs.entry? (G.lot n) with
        | none => .ok (.free (G.lot n))
        | some e => .ok (.found (G.lot n) e) := by
  obtain ⟨left, hleft⟩ := exists_walk G
  have hopens := (htakes.opens hextends).2
  have hname := isComponent_name (G := G) n
  have hslash : [G.name n] ≠ [[]] := fun heq => hname.nonempty (List.cons.inj heq).1
  have hlast := walk_last (standing_place hextends) hname (name_ne_dotDot n) left
  rw [if_neg (Bool.eq_false_iff.mp hopens.kept), if_neg (not_lt.mpr hopens.fits)] at hlast
  rw [locate_toText (isNormal_workspaceAt n) (parts_workspaceAt_ne_nil n),
    if_neg (not_lt.mpr (byteCount_workspaceAt htakes hextends)), start_workspaceAt]
  exact (hleft fs hextends .itself [G.name n] (List.cons_ne_nil _ _) hslash).trans hlast

section

variable (htakes : G.Takes n) (hextends : m.files.Extends G.rooted)
  (hhere : m.here = G.machine.here)

include htakes hextends hhere

/-- A directory at the place of a workspace is removed with all that is in
    it. -/
theorem removal_of_directory (hentry : m.files.entry? (G.lot n) = some .directory) :
    Workspace.removalFailure (G.workspaceAt n) m = none
      ∧ (∀ l, G.lot n <+: l → entry? (Workspace.removed (G.workspaceAt n) m).files l = none)
      ∧ ∀ l, ¬G.lot n <+: l →
        entry? (Workspace.removed (G.workspaceAt n) m).files l = m.files.entry? l := by
  have hremoved := removeDirectory_workspaceAt htakes hextends hentry
  rw [← hhere] at hremoved
  unfold Workspace.removalFailure Workspace.removed
  dsimp only
  rw [hremoved]
  refine ⟨rfl, ?_, fun l hl => entry?_removed (lot_ne_nil n) m.files hl⟩
  rintro _ ⟨rest, rfl⟩
  exact congrFun (contents_removed (lot_ne_nil n) m.files) rest

/-- Where nothing is, there is nothing to do. -/
theorem removal_of_gone (hentry : m.files.entry? (G.lot n) = none) :
    Workspace.removalFailure (G.workspaceAt n) m = none
      ∧ (Workspace.removed (G.workspaceAt n) m).files = m.files := by
  have hlocate := locate_workspaceAt_itself htakes hextends
  rw [hentry, ← hhere] at hlocate
  unfold Workspace.removalFailure Workspace.removed removeDirectory
  dsimp only
  rw [hlocate]
  exact ⟨rfl, rfl⟩

/-- A regular file in place of a workspace is not removed. -/
theorem removal_of_file (hfile : HoldsFile (G.lot n) m.files) :
    Workspace.removalFailure (G.workspaceAt n) m
        = some (.onPath .notDirectory (G.workspaceAt n).path.shown)
      ∧ (Workspace.removed (G.workspaceAt n) m).files = m.files := by
  obtain ⟨content, executable, hentry⟩ := hfile
  have hlocate := locate_workspaceAt_itself htakes hextends
  rw [hentry, ← hhere] at hlocate
  unfold Workspace.removalFailure Workspace.removed removeDirectory
  dsimp only
  rw [hlocate]
  exact ⟨rfl, rfl⟩

end

end Ground

/-! ## Scopes -/

/-- How a scope ends whose workspace was at a place.  `acquired` is the
    machine that the body has begun with, `left` the one that it left. -/
structure CleansUp {α : Type} (ws : Workspace) (place : Location) (acquired left : Machine)
    (outcome final : Except Failure α) (after : Machine) : Prop where
  /-- The failure of the body propagates, if there is one. -/
  failed : ∀ f, outcome = .error f → final = .error f
  /-- Otherwise a file in place of the workspace is a failure, ... -/
  refused : ∀ a, outcome = .ok a → HoldsFile place left.files → final = .error
    (.build (.workspace (.notRemoved ws.path.toText (.onPath .notDirectory ws.path.shown))))
  /-- ... and without one the scope succeeds. -/
  succeeded : ∀ a, outcome = .ok a → ¬HoldsFile place left.files → final = .ok a
  /-- Nothing is left at the place, but a file that was put there. -/
  gone : ¬HoldsFile place left.files → ∀ l, place <+: l → after.files.entry? l = none
  kept : HoldsFile place left.files → ∀ l, place <+: l →
    after.files.entry? l = left.files.entry? l
  /-- Everything beside it is as it was when the body began. -/
  beside : ∀ l, ¬place <+: l → after.files.entry? l = acquired.files.entry? l
  /-- There is a warning exactly if the workspace could not be removed while
      a failure of the body propagated. -/
  warned : ∃ records, after.log = left.log ++ records ∧ records.length ≤ 1
    ∧ ((∃ r ∈ records, r.level = .warning) ↔ HoldsFile place left.files ∧ ∃ f, outcome = .error f)

/-- Closing a workspace cleans up, whatever a body has left in its place. -/
theorem cleansUp_of_closed {α : Type} {G : Ground} {n : Nat} {acquired left after : Machine}
    {outcome final : Except Failure α} (htakes : G.Takes n)
    (hextends : left.files.Extends G.rooted) (hhere : left.here = G.machine.here)
    (hstands : StandsAt (G.lot n) left.files)
    (hbeside : ∀ l, ¬G.lot n <+: l → left.files.entry? l = acquired.files.entry? l)
    (h : Workspace.Closed (G.workspaceAt n) left outcome final after) :
    CleansUp (G.workspaceAt n) (G.lot n) acquired left outcome final after := by
  by_cases hfile : HoldsFile (G.lot n) left.files
  · obtain ⟨hfailure, hfiles⟩ := Ground.removal_of_file htakes hextends hhere hfile
    have hsame : ∀ l, entry? (Workspace.removed (G.workspaceAt n) left).files l
        = left.files.entry? l := by
      rw [hfiles]
      exact fun _ => rfl
    cases h with
    | clean _ hnone => exact nomatch hnone.symm.trans hfailure
    | refused value e hsome =>
        obtain rfl := Option.some.inj (hsome.symm.trans hfailure)
        refine ⟨fun _ h => (nomatch h), fun _ _ _ => rfl, fun _ _ hnot => absurd hfile hnot,
          fun hnot => absurd hfile hnot, fun _ l _ => hsame l,
          fun l hl => (hsame l).trans (hbeside l hl), [], ?_⟩
        simp [Workspace.removed]
    | outweighed f e hsome =>
        refine ⟨fun _ h => h, fun _ h => (nomatch h), fun _ h => (nomatch h),
          fun hnot => absurd hfile hnot, fun _ l _ => hsame l,
          fun l hl => (hsame l).trans (hbeside l hl), [_], rfl, le_rfl, ?_⟩
        simp [hfile]
  · obtain ⟨hfailure, hgone, hsame⟩ : Workspace.removalFailure (G.workspaceAt n) left = none
        ∧ (∀ l, G.lot n <+: l → entry? (Workspace.removed (G.workspaceAt n) left).files l = none)
        ∧ ∀ l, ¬G.lot n <+: l →
          entry? (Workspace.removed (G.workspaceAt n) left).files l = left.files.entry? l := by
      cases hstands with
      | directory hentry => exact Ground.removal_of_directory htakes hextends hhere hentry
      | gone hnone =>
          obtain ⟨hfailure, hsame⟩ :=
            Ground.removal_of_gone htakes hextends hhere (hnone _ List.prefix_rfl)
          rw [hsame]
          exact ⟨hfailure, hnone, fun _ _ => rfl⟩
      | file content executable hentry _ => exact absurd ⟨content, executable, hentry⟩ hfile
    cases h with
    | clean _ _ =>
        refine ⟨fun _ h => h, fun _ _ h => absurd h hfile, fun _ h _ => h, fun _ => hgone,
          fun h => absurd h hfile, fun l hl => (hsame l hl).trans (hbeside l hl), [_], rfl, le_rfl,
          ?_⟩
        simp [hfile]
    | refused _ _ hsome => exact nomatch hfailure.symm.trans hsome
    | outweighed _ _ hsome => exact nomatch hfailure.symm.trans hsome

/-- **A scope cleans up after any body**, as an action and as a task.  On a
    machine on which a workspace can be acquired this has a new place; what
    was there before the acquisition stays, and nothing else is new but
    directories above the place that were missing.  Whatever a body does at
    the place, and however it ends, both forms end alike, and clean up. -/
theorem scope_cleansUp {α : Type} {root : Option Path} {m acquired : Machine} {ws : Workspace}
    (hm : m.IsSound) (hacquire : (Workspace.acquire root).Gives m ws acquired) :
    ∃ place, m.files.entry? place = none
      ∧ acquired.files.locate acquired.here .itself ws.path.toText
        = .ok (.found place .directory)
      ∧ acquired.files.Extends m.files
      ∧ (IsRootThere root m → ∀ l, ¬place <+: l → acquired.files.entry? l = m.files.entry? l)
      ∧ ∀ (works : Works) (ending : BodyEnding α) (outcome : Except Failure α) (left : Machine),
        RunsBody ws place works ending acquired outcome left →
          ∃ final after,
            (Workspace.scope root (bodyOf works ending)).perform m = (final, after)
              ∧ (ScopeTask.run root (ScopeTask.promptEvents (eventsOf works ending))).perform m
                = (final, after)
              ∧ CleansUp ws place acquired left outcome final after := by
  obtain ⟨G, n, rfl, htakes, -, hgrown, hcarries, hput, -, hmade⟩ :=
    exists_ground_of_acquire hm hacquire
  have hentry : acquired.files.entry? (G.lot n) = some .directory := by
    rw [hput, entry?_put (Ground.lot_ne_nil n), if_pos rfl]
  have hextends : acquired.files.Extends G.rooted := hcarries.keeps.extends
  refine ⟨G.lot n, hgrown.extends.free htakes.free, ?_, hextends.trans hgrown.extends, ?_, ?_⟩
  · rw [hcarries.here]
    exact Ground.locate_workspaceAt htakes hextends hentry .itself
  · intro hroot l hl
    rw [hput, Ground.entry?_of_put hl, hmade.eq_of_there hroot]
  · intro works ending outcome left hruns
    have hchanged := hruns.changedAt
    obtain ⟨hstands, hbeside⟩ := stands_of_changes hchanged.files (.directory hentry)
    have hleft : left.files.Extends G.rooted := by
      intro l e hl
      rw [hbeside l ?_]
      · exact hextends l e hl
      · rintro ⟨rest, rfl⟩
        exact nomatch (htakes.isNew rest).free.symm.trans hl
    obtain ⟨hscope, hrun⟩ := ScopeTask.perform_scope_and_run hacquire hruns
    obtain ⟨final, after, hclosed⟩ := Workspace.exists_closed (G.workspaceAt n) left outcome
    have hclose := (Workspace.close_iff (Ground.isUsable_workspaceAt n)).mpr hclosed
    exact ⟨final, after, hscope.trans hclose, hrun.trans hclose,
      cleansUp_of_closed htakes hleft (hchanged.here.trans hcarries.here) hstands hbeside hclosed⟩

/-- A body that removes its workspace and puts an empty file in its
    place. -/
def replacing : Works :=
  [fun ws => onFiles fun fs here => .ok (fs.removeAny here ws.path.toText),
    fun ws => writeBytes ws.path.toText []]

/-- The machine with a home after a workspace has been acquired. -/
def acquiredHome : Machine :=
  ((Workspace.acquire (some (Path.ofString "/home/ws"))).perform homeMachine).2

/-- The workspace, and where it is. -/
def homeWorkspace : Workspace := ⟨Path.ofString "/home/ws/hbc-build-7-aaaaaaaa"⟩

def homePlace : Location := ["home", "ws", "hbc-build-7-aaaaaaaa"]

theorem acquire_homeWorkspace :
    (Workspace.acquire (some (Path.ofString "/home/ws"))).Gives homeMachine homeWorkspace
      acquiredHome := by
  refine Prod.ext ?_ rfl
  cbv

theorem locate_homeWorkspace :
    acquiredHome.files.locate acquiredHome.here .itself homeWorkspace.path.toText
      = .ok (.found homePlace .directory) := by cbv

/-- The body removes the workspace and leaves a file. -/
theorem runsBody_replacing : ∃ left,
    RunsBody homeWorkspace homePlace replacing (.cancellation : BodyEnding Unit) acquiredHome
      (.error .cancelled) left
      ∧ left.files.entry? homePlace = some (.file [] false) := by
  have hplace : homePlace ≠ [] := List.cons_ne_nil _ _
  have hfree : (acquiredHome.files.removeTree homePlace).locate acquiredHome.here .writing
      homeWorkspace.path.toText = .ok (.free homePlace) := by cbv
  have hwritten : (writeBytes homeWorkspace.path.toText []).Gives
      { acquiredHome with files := acquiredHome.files.removeTree homePlace } ()
      { acquiredHome with
        files := (acquiredHome.files.removeTree homePlace).put homePlace (.file [] false) } := by
    unfold Gives
    rw [perform_writeBytes (by cbv)]
    unfold FileSystem.writeFile
    dsimp only
    rw [hfree]
  have hremoved : (onFiles fun fs here => .ok (fs.removeAny here homeWorkspace.path.toText)).Gives
      acquiredHome () { acquiredHome with files := acquiredHome.files.removeTree homePlace } := by
    show ((Except.ok (), { acquiredHome with files := acquiredHome.files.removeAny _ _ }) :
      Except Failure Unit × Machine) = _
    unfold removeAny
    rw [locate_homeWorkspace]
  refine ⟨_, .works hremoved ⟨.single (.removed ?_ ?_), rfl⟩
    (.works hwritten ⟨.single (.replaced [] false ?_ ?_ ?_), rfl⟩ (.ends _ _)), ?_⟩
  · intro l hl
    exact (entry?_removeTree hplace _ l).trans (if_pos hl)
  · intro l hl
    exact (entry?_removeTree hplace _ l).trans (if_neg hl)
  · exact (entry?_put hplace _ _ _).trans (if_pos rfl)
  · intro l hl hne
    exact (entry?_put hplace _ _ _).trans ((if_neg hne).trans
      ((entry?_removeTree hplace _ l).trans (if_pos hl)))
  · intro l hl
    refine (entry?_put hplace _ _ _).trans (if_neg ?_)
    rintro rfl
    exact hl List.prefix_rfl
  · exact (entry?_put hplace _ _ _).trans (if_pos rfl)

/-- A scope is cancelled in such a body: the file stays, and there is a
    warning. -/
theorem scope_cleansUp_replacing :
    homeMachine.IsSound
      ∧ (Workspace.acquire (some (Path.ofString "/home/ws"))).Gives homeMachine homeWorkspace
        acquiredHome
      ∧ ∃ left after,
        RunsBody homeWorkspace homePlace replacing (.cancellation : BodyEnding Unit) acquiredHome
          (.error .cancelled) left
        ∧ (Workspace.scope (some (Path.ofString "/home/ws"))
            (bodyOf replacing (.cancellation : BodyEnding Unit))).perform homeMachine
          = (.error .cancelled, after)
        ∧ (ScopeTask.run (some (Path.ofString "/home/ws"))
            (ScopeTask.promptEvents (eventsOf replacing (.cancellation : BodyEnding Unit)))).perform
            homeMachine = (.error .cancelled, after)
        ∧ HoldsFile homePlace after.files ∧ ∃ r ∈ after.log, r.level = .warning := by
  obtain ⟨left, hruns, hleft⟩ := runsBody_replacing
  obtain ⟨place, -, hlocate, -, -, hscope⟩ :=
    @scope_cleansUp Unit _ _ _ _ ScopeTask.homeMachine_isSound acquire_homeWorkspace
  obtain ⟨rfl, -⟩ : homePlace = place ∧ _ :=
    Spot.found.inj (Except.ok.inj (locate_homeWorkspace.symm.trans hlocate))
  obtain ⟨final, after, hperform, hrun, hclean⟩ := hscope _ _ _ _ hruns
  obtain rfl := hclean.failed _ rfl
  have hfile : HoldsFile homePlace left.files := ⟨[], false, hleft⟩
  obtain ⟨records, hlog, -, hwarned⟩ := hclean.warned
  obtain ⟨r, hr, hlevel⟩ := hwarned.mpr ⟨hfile, _, rfl⟩
  refine ⟨ScopeTask.homeMachine_isSound, acquire_homeWorkspace, left, after, hruns, hperform, hrun,
    ?_, r, ?_, hlevel⟩
  · exact ⟨[], false, (hclean.kept hfile _ List.prefix_rfl).trans hleft⟩
  · rw [hlog]
    exact List.mem_append_right _ hr

end HermesBundle.Build
