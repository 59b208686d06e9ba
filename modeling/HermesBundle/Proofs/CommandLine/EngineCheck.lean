import HermesBundle.Proofs.CommandLine.Publication
import HermesBundle.Proofs.Outcomes

/-! # Engine checks — what a check of the engine settings ends with

    An engine check reads an app config and two native files that users
    edit.  It ends with its report, or with a complaint where the system
    does not let it read a file.  Some contents end it with neither, and
    these are listed (`Unhandled`):

    * a file that is looked for is missing, is read, or is not
      (`perform_lookup`);
    * the config says whether Hermes is asked for, and the native files
      whether they contradict it (`perform_checkEngine`,
      `notes_maybeInconsistent`);
    * the failures of either that are no complaints are those of the list
      (`checkedIn_eq_error_iff`);
    * a command line ends as its command has ended (`run_eq_ended`), so a
      check is answered unless it is unhandled (`run_checkEngine`). -/

namespace HermesBundle

open HermesBundle.Action

namespace CommandLine

/-! ## Texts that are looked for -/

/-- The text of the file at a path. -/
def textOf (m : Machine) (path : Path) : Except Failure Text :=
  match m.files.readFile m.here path.toText with
  | .ok bytes =>
      match Utf8.decode? bytes with
      | some t => .ok t.unifyNewlines
      | none => .error .undecodable
  | .error e => .error (.system e)

/-- The text at a path, if the path leads to anything. -/
def textAt (m : Machine) (path : Path) : Except Failure (Option Text) :=
  if FileSystem.isUsable path.toText then
    match m.files.status? m.here path.toText with
    | .ok _ => (textOf m path).map some
    | .error .nameTooLong => .error (.system (.about .nameTooLong path.toText))
    | .error _ => .ok none
  else .ok none

theorem perform_readText {path : Path} (husable : FileSystem.isUsable path.toText = true)
    (m : Machine) : (readText path.toText).perform m = (textOf m path, m) := by
  unfold readText textOf
  rw [perform_bind, perform_readBytes husable]
  cases m.files.readFile m.here path.toText with
  | error e => rfl
  | ok bytes =>
      dsimp only [Except.mapError]
      cases Utf8.decode? bytes <;> rfl

/-- Whether a path leads to anything. -/
theorem perform_pathExists (path : Path) (m : Machine) :
    (pathExists path).perform m =
      (if FileSystem.isUsable path.toText then
        match m.files.status? m.here path.toText with
        | .ok _ => .ok true
        | .error .nameTooLong => .error (.system (.about .nameTooLong path.toText))
        | .error _ => .ok false
      else .ok false, m) := by
  unfold pathExists leadsTo
  cases FileSystem.isUsable path.toText with
  | false => rfl
  | true =>
      simp only [Bool.not_true, Bool.false_eq_true, if_false, if_true, perform_bind, perform_get]
      cases m.files.status? m.here path.toText with
      | ok e => rfl
      | error e => cases e <;> rfl

/-- A file that is not there is not read; looking for it may fail on the
    length of its path. -/
theorem textAt_of_absent {m : Machine} {path : Path}
    (habsent : ∀ status, m.files.status? m.here path.toText ≠ .ok status) :
    textAt m path = .ok none
      ∨ textAt m path = .error (.system (.about .nameTooLong path.toText)) := by
  rw [textAt]
  split
  · split
    · rename_i status hstatus
      exact absurd hstatus (habsent status)
    · right
      rfl
    · left
      rfl
  · left
    rfl

/-- A text that is looked for, and read if it is there. -/
theorem perform_lookup {α : Type} (path : Path) (found : Text → Action α) (missing : Action α)
    (m : Machine) :
    (do if ← pathExists path then (do let t ← readText path.toText; found t) else missing).perform m
      = match textAt m path with
        | .ok (some t) => (found t).perform m
        | .ok none => missing.perform m
        | .error f => (.error f, m) := by
  rw [perform_bind, perform_pathExists]
  unfold textAt
  cases husable : FileSystem.isUsable path.toText with
  | false => rfl
  | true =>
      have hread := perform_readText husable m
      cases m.files.status? m.here path.toText with
      | error e => cases e <;> rfl
      | ok e =>
          show (readText path.toText >>= found).perform m = _
          rw [perform_bind, hread]
          cases textOf m path <;> rfl

/-! ## What the config says -/

/-- Whether an app config, if there is one, asks for Hermes. -/
def managedBy (platform : Text) : Option Text → Except Failure Bool
  | none => .ok false
  | some t =>
      match Json.read t with
      | .error e => .error (.json e)
      | .ok doc => (Engine.asksForHermes (appConfigIn doc) platform).mapError .misuse

/-- The app config of a project. -/
def configFile (root : Path) : Path := root.childNamed "app.json"

/-- Whether the config of a project asks for Hermes. -/
def managedIn (m : Machine) (root : Path) (platform : Text) : Except Failure Bool :=
  textAt m (configFile root) >>= managedBy platform

/-- A config that can be read is asked. -/
theorem managedIn_of_textAt {m : Machine} {root : Path} {platform : Text} {found : Option Text}
    (h : textAt m (configFile root) = .ok found) :
    managedIn m root platform = managedBy platform found :=
  Outcome.bind_of_eq_ok h

/-- What an engine check prints. -/
def engineReport (root : Path) (platform : Text) (managed inconsistent : Bool) : Text :=
  line (Json.render Json.indented
    (.obj [(Text.ofString "project_root", .str root.toText),
      (Text.ofString "platform", .str platform),
      (Text.ofString "hermes_managed", .bool managed),
      (Text.ofString "maybe_inconsistent", .bool inconsistent)]))

/-- The native files are compared with what the config says. -/
def checkNative (root : Path) (platform : Text) (managed : Bool) : Action (Nat × Text) := do
  let inconsistent ← Engine.maybeInconsistent root platform managed
  return (if inconsistent then 1 else 0, engineReport root platform managed inconsistent)

/-- The config is asked, and then the native files. -/
def checkConfig (root : Path) (platform : Text) (config : Json) : Action (Nat × Text) := do
  let managed ← ofExcept .misuse (Engine.asksForHermes config platform)
  checkNative root platform managed

theorem checkEngine_eq (root : Path) (platform : Text) :
    checkEngine (some root) (some platform) none
      = (do
        if ← pathExists (configFile root) then do
          let t ← readText (configFile root).toText
          (do
            let doc ← ofExcept .json (Json.read t)
            checkConfig root platform (appConfigIn doc))
        else checkConfig root platform (.obj [])) := rfl

theorem perform_checkConfig (root : Path) (platform : Text) (config : Json) (m : Machine) :
    (checkConfig root platform config).perform m
      = match (Engine.asksForHermes config platform).mapError Failure.misuse with
        | .error f => (.error f, m)
        | .ok managed => (checkNative root platform managed).perform m := by
  unfold checkConfig
  rw [perform_bind, perform_ofExcept]
  cases Engine.asksForHermes config platform <;> rfl

/-- A config that is not there asks for nothing. -/
theorem asksForHermes_empty (platform : Text) :
    Engine.asksForHermes (.obj []) platform = .ok false := by
  unfold Engine.asksForHermes
  split <;> rfl

/-- An engine check asks the config and then the native files. -/
theorem perform_checkEngine (root : Path) (platform : Text) (m : Machine) :
    (checkEngine (some root) (some platform) none).perform m
      = match managedIn m root platform with
        | .error f => (.error f, m)
        | .ok managed => (checkNative root platform managed).perform m := by
  unfold managedIn
  rw [checkEngine_eq, perform_lookup]
  cases textAt m (configFile root) with
  | error f => rfl
  | ok found =>
      cases found with
      | none =>
          show (checkConfig root platform (.obj [])).perform m = _
          rw [perform_checkConfig, asksForHermes_empty]
          rfl
      | some t =>
          show (ofExcept .json (Json.read t) >>= fun doc =>
            checkConfig root platform (appConfigIn doc)).perform m
            = match managedBy platform (some t) with
              | .error f => (.error f, m)
              | .ok managed => (checkNative root platform managed).perform m
          rw [perform_bind, perform_ofExcept, managedBy]
          cases Json.read t with
          | error e => rfl
          | ok doc => exact perform_checkConfig ..

/-! ## What the native files say -/

/-- Whether the properties of a project, if there are any, contradict its
    config. -/
def propertiesDiffer (managed : Bool) : Option Text → Bool
  | none => false
  | some t => Engine.propertiesContradict (Engine.parseProperties t) managed

/-- Whether a build script, if there is one, contradicts the config. -/
def scriptDiffers (managed : Bool) : Option Text → Bool
  | none => false
  | some t => Engine.scriptContradicts t managed

/-- Whether the native files of a project contradict its config; the
    properties are looked for if the script does not. -/
def contradictedIn (m : Machine) (root : Path) (platform : Text) (managed : Bool) :
    Except Failure Bool :=
  if platform = Engine.android then
    match textAt m (Engine.buildScript root) with
    | .error f => .error f
    | .ok script =>
        if scriptDiffers managed script then .ok true
        else (textAt m (Engine.propertiesFile root)).map (propertiesDiffer managed)
  else .ok false

/-- **Without properties, the script is all that is compared.**  Where it
    does not contradict the config, the properties are still looked for. -/
theorem contradictedIn_of_absent {m : Machine} {root : Path} {managed : Bool} {t : Text}
    (hscript : textAt m (Engine.buildScript root) = .ok (some t))
    (habsent : ∀ status, m.files.status? m.here (Engine.propertiesFile root).toText ≠ .ok status) :
    contradictedIn m root Engine.android managed = .ok (Engine.scriptContradicts t managed)
      ∨ Engine.scriptContradicts t managed = false ∧ contradictedIn m root Engine.android managed
        = .error (.system (.about .nameTooLong (Engine.propertiesFile root).toText)) := by
  have hcompared : contradictedIn m root Engine.android managed
      = if Engine.scriptContradicts t managed = true then .ok true
        else (textAt m (Engine.propertiesFile root)).map (propertiesDiffer managed) := by
    rw [contradictedIn, if_pos rfl, hscript]
    rfl
  rw [hcompared]
  cases hcontradicts : Engine.scriptContradicts t managed with
  | true =>
      left
      rfl
  | false =>
      rw [if_neg Bool.false_ne_true]
      obtain hnone | hlong := textAt_of_absent habsent
      · left
        rw [hnone]
        rfl
      · right
        rw [hlong]
        exact ⟨rfl, rfl⟩

/-- A properties text is compared with the config. -/
def compareProperties (root : Path) (managed : Bool) (t : Text) : Action Bool := do
  for skipped in Engine.skippedLines t do
    Action.record .debug Engine.logOrigin
      (Text.ofString "skipping gradle.properties line without \x27=\x27: " ++ skipped.quoted)
  let properties := Engine.parseProperties t
  if Engine.propertiesContradict properties managed then
    Engine.reportDisagreement (Engine.propertiesFile root) Engine.engineProperty
      ((properties.find? Engine.engineProperty).getD (Text.ofString "None"))
    return true
  return false

/-- The properties are looked for and compared. -/
def checkProperties (root : Path) (managed : Bool) : Action Bool := do
  if ← pathExists (Engine.propertiesFile root) then do
    let t ← readText (Engine.propertiesFile root).toText
    compareProperties root managed t
  else return false

/-- A build script is compared with the config; if it does not contradict
    it, the properties are. -/
def compareScript (root : Path) (managed : Bool) (t : Text) : Action Bool := do
  if Engine.scriptContradicts t managed then
    Engine.reportDisagreement (Engine.buildScript root) (Text.ofString "enableHermes")
      (Engine.truthText (Engine.enablesHermes t))
    return true
  else checkProperties root managed

theorem maybeInconsistent_android (root : Path) (managed : Bool) :
    Engine.maybeInconsistent root Engine.android managed
      = (do
        if ← pathExists (Engine.buildScript root) then do
          let t ← readText (Engine.buildScript root).toText
          compareScript root managed t
        else checkProperties root managed) := by
  unfold Engine.maybeInconsistent
  rw [if_neg (by rw [bne_self_eq_false]; exact Bool.false_ne_true)]
  rfl

/-- Whether an action gives a value and changes nothing but the log. -/
def Notes {α : Type} (x : Action α) (m : Machine) (outcome : Except Failure α) : Prop :=
  ∃ after, x.perform m = (outcome, after) ∧ after.files = m.files ∧ after.here = m.here

/-- A record for each of some texts. -/
theorem notes_forIn (level : LogLevel) (origin : String) (message : Text → Text)
    (texts : List Text) (m : Machine) :
    Notes (forIn texts PUnit.unit fun t _ => do
      Action.record level origin (message t)
      pure (ForInStep.yield PUnit.unit)) m (.ok PUnit.unit) := by
  induction texts generalizing m with
  | nil => exact ⟨m, rfl, rfl, rfl⟩
  | cons t rest ih =>
      obtain ⟨after, hperform, hfiles, hhere⟩ := ih (m.noting level origin (message t))
      refine ⟨after, ?_, hfiles, hhere⟩
      rw [List.forIn_cons, bind_assoc, perform_bind_of_gives (perform_record ..), pure_bind]
      exact hperform

theorem notes_compareProperties (root : Path) (managed : Bool) (t : Text) (m : Machine) :
    Notes (compareProperties root managed t) m (.ok (propertiesDiffer managed (some t))) := by
  obtain ⟨middle, hnoted, hfiles, hhere⟩ := notes_forIn .debug Engine.logOrigin
    (fun skipped => Text.ofString "skipping gradle.properties line without \x27=\x27: "
      ++ skipped.quoted) (Engine.skippedLines t) m
  unfold compareProperties propertiesDiffer Notes
  rw [perform_bind_of_gives hnoted]
  dsimp only
  cases Engine.propertiesContradict (Engine.parseProperties t) managed with
  | true => exact ⟨_, rfl, hfiles, hhere⟩
  | false => exact ⟨_, rfl, hfiles, hhere⟩

theorem notes_checkProperties (root : Path) (managed : Bool) (m : Machine) :
    Notes (checkProperties root managed) m
      ((textAt m (Engine.propertiesFile root)).map (propertiesDiffer managed)) := by
  unfold checkProperties Notes
  rw [perform_lookup]
  cases textAt m (Engine.propertiesFile root) with
  | error f => exact ⟨m, rfl, rfl, rfl⟩
  | ok found =>
      cases found with
      | none => exact ⟨m, rfl, rfl, rfl⟩
      | some t => exact notes_compareProperties root managed t m

/-- The native files are looked at, and nothing but the log is changed. -/
theorem notes_maybeInconsistent (root : Path) (platform : Text) (managed : Bool) (m : Machine) :
    Notes (Engine.maybeInconsistent root platform managed) m
      (contradictedIn m root platform managed) := by
  have hproperties := notes_checkProperties root managed m
  unfold contradictedIn
  by_cases hplatform : platform = Engine.android
  · rw [if_pos hplatform, hplatform, maybeInconsistent_android]
    unfold Notes at hproperties ⊢
    rw [perform_lookup]
    cases textAt m (Engine.buildScript root) with
    | error f => exact ⟨m, rfl, rfl, rfl⟩
    | ok found =>
        cases found with
        | none => exact hproperties
        | some t =>
            show Notes (compareScript root managed t) m
              (if Engine.scriptContradicts t managed then .ok true else _)
            unfold compareScript
            cases Engine.scriptContradicts t managed with
            | true => exact ⟨_, rfl, rfl, rfl⟩
            | false => exact hproperties
  · rw [if_neg hplatform]
    unfold Engine.maybeInconsistent
    rw [if_pos (bne_iff_ne.mpr hplatform)]
    exact ⟨m, rfl, rfl, rfl⟩

/-! ## What escapes -/

/-- The contents of a project that end an engine check with neither a
    report nor a complaint, and the failure that each of them ends it
    with. -/
inductive Unhandled (m : Machine) (root : Path) (platform : Text) : Failure → Prop where
  /-- The app config is no UTF-8. -/
  | configUndecodable : textAt m (configFile root) = .error .undecodable →
      Unhandled m root platform .undecodable
  /-- The app config is no JSON, or exceeds a limit of reading it. -/
  | configUnread {t : Text} {e : Json.ReadError} : textAt m (configFile root) = .ok (some t) →
      Json.read t = .error e → Unhandled m root platform (.json e)
  /-- The app config is no object when its settings for the platform are
      asked for. -/
  | configNoObject {t : Text} {doc : Json} : platform = Engine.android →
      textAt m (configFile root) = .ok (some t) → Json.read t = .ok doc →
      SourceMap.isObject (appConfigIn doc) = false →
      Unhandled m root platform (.misuse .noMembers)
  /-- The build script is no UTF-8. -/
  | scriptUndecodable {managed : Bool} : platform = Engine.android →
      managedIn m root platform = .ok managed →
      textAt m (Engine.buildScript root) = .error .undecodable →
      Unhandled m root platform .undecodable
  /-- The properties are no UTF-8, and the build script did not settle the
      matter. -/
  | propertiesUndecodable {managed : Bool} {script : Option Text} : platform = Engine.android →
      managedIn m root platform = .ok managed →
      textAt m (Engine.buildScript root) = .ok script → scriptDiffers managed script = false →
      textAt m (Engine.propertiesFile root) = .error .undecodable →
      Unhandled m root platform .undecodable

section
variable {m : Machine} {root path : Path} {platform : Text} {f : Failure}

theorem textOf_eq_error (h : textOf m path = .error f) (hf : isComplaint f = false) :
    f = .undecodable := by
  unfold textOf at h
  split at h
  · split at h
    · exact nomatch h
    · exact (Except.error.inj h).symm
  · obtain rfl := Except.error.inj h
    exact nomatch hf

/-- A text that is there and not read is no UTF-8, or the system
    complains. -/
theorem textAt_eq_error (h : textAt m path = .error f) (hf : isComplaint f = false) :
    f = .undecodable := by
  unfold textAt at h
  split at h
  · split at h
    · cases htext : textOf m path with
      | error e =>
          rw [htext] at h
          obtain rfl := Except.error.inj h
          exact textOf_eq_error htext hf
      | ok t =>
          rw [htext] at h
          exact nomatch h
    · obtain rfl := Except.error.inj h
      exact nomatch hf
    · exact nomatch h
  · exact nomatch h

/-- A config that cannot be asked is no object, and there is something to
    ask for. -/
theorem asksForHermes_eq_error_iff {config : Json} {misuse : SourceMap.Misuse} :
    Engine.asksForHermes config platform = .error misuse
      ↔ platform = Engine.android ∧ SourceMap.isObject config = false ∧ misuse = .noMembers := by
  unfold Engine.asksForHermes
  by_cases hplatform : platform = Engine.android
  · rw [if_neg (by rw [hplatform, bne_self_eq_false]; exact Bool.false_ne_true)]
    cases config with
    | obj members =>
        exact ⟨fun h => (nomatch h), fun h => (nomatch h.2.1)⟩
    | _ => exact ⟨fun h => ⟨hplatform, rfl, (Except.error.inj h).symm⟩, fun h => by rw [h.2.2]⟩
  · rw [if_pos (bne_iff_ne.mpr hplatform)]
    exact ⟨fun h => (nomatch h), fun h => absurd h.1 hplatform⟩

/-- Where the config does not say whether Hermes is asked for, it is
    unhandled. -/
theorem unhandled_of_managedIn (h : managedIn m root platform = .error f)
    (hf : isComplaint f = false) : Unhandled m root platform f := by
  cases htext : textAt m (configFile root) with
  | error e =>
      unfold managedIn at h
      rw [htext] at h
      obtain rfl : e = f := Except.error.inj h
      obtain rfl := textAt_eq_error htext hf
      exact .configUndecodable htext
  | ok found =>
      rw [managedIn_of_textAt htext] at h
      cases found with
      | none => exact nomatch h
      | some t =>
          unfold managedBy at h
          dsimp only at h
          split at h
          · rename_i e hread
            obtain rfl := Except.error.inj h
            exact .configUnread htext hread
          · rename_i doc hread
            cases hasks : Engine.asksForHermes (appConfigIn doc) platform with
            | ok managed =>
                rw [hasks] at h
                exact nomatch h
            | error misuse =>
                rw [hasks] at h
                obtain rfl := Except.error.inj h
                obtain ⟨hplatform, hobject, rfl⟩ := asksForHermes_eq_error_iff.mp hasks
                exact .configNoObject hplatform htext hread hobject

/-- Where the native files do not say whether they contradict it, they
    are. -/
theorem unhandled_of_contradictedIn {managed : Bool}
    (hmanaged : managedIn m root platform = .ok managed)
    (h : contradictedIn m root platform managed = .error f) (hf : isComplaint f = false) :
    Unhandled m root platform f := by
  unfold contradictedIn at h
  split at h
  · rename_i hplatform
    cases hscript : textAt m (Engine.buildScript root) with
    | error e =>
        rw [hscript] at h
        obtain rfl : e = f := Except.error.inj h
        obtain rfl := textAt_eq_error hscript hf
        exact .scriptUndecodable hplatform hmanaged hscript
    | ok script =>
        rw [hscript] at h
        dsimp only at h
        split at h
        · exact nomatch h
        · rename_i hagrees
          cases hproperties : textAt m (Engine.propertiesFile root) with
          | ok properties =>
              rw [hproperties] at h
              exact nomatch h
          | error e =>
              rw [hproperties] at h
              obtain rfl : e = f := Except.error.inj h
              obtain rfl := textAt_eq_error hproperties hf
              exact .propertiesUndecodable hplatform hmanaged hscript
                (Bool.not_eq_true _ ▸ hagrees) hproperties
  · exact nomatch h

/-- What an engine check comes to: whether Hermes is asked for, and whether
    the native files may contradict it. -/
def checkedIn (m : Machine) (root : Path) (platform : Text) : Except Failure (Bool × Bool) :=
  match managedIn m root platform with
  | .error f => .error f
  | .ok managed => (contradictedIn m root platform managed).map fun inconsistent =>
      (managed, inconsistent)

theorem isComplaint_of_unhandled (h : Unhandled m root platform f) : isComplaint f = false := by
  cases h <;> rfl

/-- **The list is complete and each of its cases occurs.** -/
theorem checkedIn_eq_error_iff (hf : isComplaint f = false) :
    checkedIn m root platform = .error f ↔ Unhandled m root platform f := by
  unfold checkedIn
  constructor
  · intro h
    cases hmanaged : managedIn m root platform with
    | error e =>
        rw [hmanaged] at h
        obtain rfl : e = f := Except.error.inj h
        exact unhandled_of_managedIn hmanaged hf
    | ok managed =>
        rw [hmanaged] at h
        dsimp only at h
        cases hcontradicted : contradictedIn m root platform managed with
        | ok inconsistent =>
            rw [hcontradicted] at h
            exact nomatch h
        | error e =>
            rw [hcontradicted] at h
            obtain rfl : e = f := Except.error.inj h
            exact unhandled_of_contradictedIn hmanaged hcontradicted hf
  · intro h
    cases h with
    | configUndecodable htext =>
        unfold managedIn
        rw [htext]
        rfl
    | configUnread htext hread =>
        rw [managedIn_of_textAt htext, managedBy, hread]
    | configNoObject hplatform htext hread hobject =>
        rw [managedIn_of_textAt htext, managedBy, hread]
        dsimp only
        rw [asksForHermes_eq_error_iff.mpr ⟨hplatform, hobject, rfl⟩]
        rfl
    | scriptUndecodable hplatform hmanaged hscript =>
        rw [hmanaged]
        dsimp only
        unfold contradictedIn
        rw [if_pos hplatform, hscript]
        rfl
    | propertiesUndecodable hplatform hmanaged hscript hagrees hproperties =>
        rw [hmanaged]
        dsimp only
        unfold contradictedIn
        rw [if_pos hplatform, hscript]
        dsimp only
        rw [hagrees, if_neg Bool.false_ne_true, hproperties]
        rfl

end

/-! ## How the command line ends -/

/-- What comes of a command line whose command has ended, with what has
    been logged. -/
def ended (logged : Text) : Except Failure (Nat × Text) → Except Failure Ending
  | .ok (exit, out) => .ok (.ran ⟨exit, out, logged⟩)
  | .error f =>
      if isComplaint f then .ok (.ran ⟨2, [], logged ++ line (Text.ofString "[-] " ++ f.message)⟩)
      else .error f

/-- A command line ends for want of settings, or as its command does. -/
theorem run_eq_ended {programs : Build.Programs} {arguments : List Text} {command : Command}
    (hcommand : readCommand arguments = .ok command) (m : Machine) :
    (run programs arguments).perform m
      = match threshold.perform m with
        | (.error f, left) => (.error f, left)
        | (.ok level, middle) =>
            let left := ((perform programs command).perform middle).2
            (ended (printedLog level (left.log.drop middle.log.length))
              ((perform programs command).perform middle).1, left) := by
  have hthreshold : threshold
      = (do
        let settings ← Settings.current
        ofExcept id (logThreshold settings.logLevel)) := rfl
  unfold run
  rw [hcommand, ← bind_assoc, ← hthreshold, perform_bind]
  rcases threshold.perform m with ⟨f | level, middle⟩
  · rfl
  · simp only [perform_bind, perform_get, perform_attempt]
    rcases (perform programs command).perform middle with ⟨f | ⟨exit, out⟩, left⟩
    · cases f <;> rfl
    · rfl

/-- What an engine check is answered with: the report of what the files
    say, or a complaint. -/
inductive Answers (m : Machine) (root : Path) (platform : Text) : Ending → Prop where
  | report {managed inconsistent : Bool} (logged : Text) :
      checkedIn m root platform = .ok (managed, inconsistent) →
      Answers m root platform (.ran ⟨if inconsistent then 1 else 0,
        engineReport root platform managed inconsistent, logged⟩)
  | complaint {f : Failure} (logged : Text) : checkedIn m root platform = .error f →
      isComplaint f = true →
      Answers m root platform
        (.ran ⟨2, [], logged ++ line (Text.ofString "[-] " ++ f.message)⟩)

section
variable {programs : Build.Programs} {arguments : List Text} {root : Path} {platform : Text}

/-- The status and the report of a check. -/
def reportOf (root : Path) (platform : Text) : Bool × Bool → Nat × Text
  | (managed, inconsistent) =>
      (if inconsistent then 1 else 0, engineReport root platform managed inconsistent)

/-- What the command comes to. -/
theorem notes_checkEngine (root : Path) (platform : Text) (m : Machine) :
    Notes (checkEngine (some root) (some platform) none) m
      ((checkedIn m root platform).map (reportOf root platform)) := by
  unfold Notes checkedIn
  rw [perform_checkEngine]
  cases managedIn m root platform with
  | error f => exact ⟨m, rfl, rfl, rfl⟩
  | ok managed =>
      obtain ⟨after, hperform, hfiles, hhere⟩ := notes_maybeInconsistent root platform managed m
      refine ⟨after, ?_, hfiles, hhere⟩
      dsimp only
      unfold checkNative
      rw [perform_bind, hperform]
      cases contradictedIn m root platform managed <;> rfl

/-- A check that ends with a report or a complaint is answered. -/
theorem answers_of_ended {m : Machine} {logged : Text} {ending : Ending}
    (h : ended logged ((checkedIn m root platform).map (reportOf root platform)) = .ok ending) :
    Answers m root platform ending := by
  cases hchecked : checkedIn m root platform with
  | ok found =>
      rw [hchecked] at h
      obtain rfl := Except.ok.inj h
      exact .report logged hchecked
  | error f =>
      rw [hchecked] at h
      have h : (if isComplaint f then _ else _) = _ := h
      split at h
      · rename_i hcomplaint
        obtain rfl := Except.ok.inj h
        exact .complaint logged hchecked hcomplaint
      · exact nomatch h

/-- It ends with nothing of these where it is unhandled. -/
theorem ended_eq_error_iff {m : Machine} {logged : Text} {f : Failure} :
    ended logged ((checkedIn m root platform).map (reportOf root platform)) = .error f
      ↔ Unhandled m root platform f := by
  constructor
  · intro h
    cases hchecked : checkedIn m root platform with
    | ok found =>
        rw [hchecked] at h
        exact nomatch h
    | error e =>
        rw [hchecked] at h
        have h : (if isComplaint e then _ else _) = _ := h
        split at h
        · exact nomatch h
        · rename_i hcomplaint
          obtain rfl := Except.error.inj h
          exact (checkedIn_eq_error_iff (Bool.not_eq_true _ ▸ hcomplaint)).mp hchecked
  · intro h
    have hf := isComplaint_of_unhandled h
    rw [(checkedIn_eq_error_iff hf).mpr h]
    show (if isComplaint f then _ else _) = _
    rw [hf]
    rfl

/-- Where there are settings, the command line ends as the check does. -/
theorem exists_run_checkEngine {m : Machine} {level : Nat} (hcommand : readCommand arguments
      = .ok (.checkEngine (some root) (some platform) none)) (hlevel : threshold.Gives m level m) :
    ∃ logged after, (run programs arguments).perform m
        = (ended logged ((checkedIn m root platform).map (reportOf root platform)), after)
      ∧ after.files = m.files := by
  obtain ⟨after, hperform, hfiles, -⟩ := notes_checkEngine root platform m
  have hcheck : (perform programs (.checkEngine (some root) (some platform) none)).perform m
      = _ := hperform
  have hrun : (run programs arguments).perform m = _ := run_eq_ended hcommand m
  rw [hlevel] at hrun
  dsimp only at hrun
  rw [hcheck] at hrun
  exact ⟨_, after, hrun, hfiles⟩

/-- A check that is unhandled ends with its failure. -/
theorem run_of_unhandled {m : Machine} {level : Nat} {f : Failure}
    (hcommand : readCommand arguments = .ok (.checkEngine (some root) (some platform) none))
    (hlevel : threshold.Gives m level m) (h : Unhandled m root platform f) :
    ∃ after, (run programs arguments).perform m = (.error f, after) := by
  obtain ⟨logged, after, hrun, -⟩ := exists_run_checkEngine hcommand hlevel
  rw [ended_eq_error_iff.mpr h] at hrun
  exact ⟨after, hrun⟩

/-- **An engine check is answered unless it is unhandled.**  It leaves the
    files alone and is answered with its report or a complaint; other
    failures are those for want of settings and those of the list. -/
theorem run_checkEngine (hcommand : readCommand arguments
      = .ok (.checkEngine (some root) (some platform) none)) (m : Machine) :
    ∃ outcome after, (run programs arguments).perform m = (outcome, after)
      ∧ after.files = m.files
      ∧ (∀ ending, outcome = .ok ending → Answers m root platform ending)
      ∧ ∀ f, outcome = .error f ↔ threshold.FailsWith m f m
        ∨ (∃ level, threshold.Gives m level m) ∧ Unhandled m root platform f := by
  rcases gives_or_failsWith threshold m with ⟨level, middle, hgives⟩ | ⟨e, left, hfails⟩
  · obtain rfl : m = middle := (threshold_keeps m).symm.trans (congrArg Prod.snd hgives)
    obtain ⟨logged, after, hrun, hfiles⟩ := exists_run_checkEngine hcommand hgives
    refine ⟨_, after, hrun, hfiles, fun ending hending => answers_of_ended hending, fun f => ?_⟩
    rw [ended_eq_error_iff]
    constructor
    · exact fun h => .inr ⟨⟨level, hgives⟩, h⟩
    · rintro (hfails | ⟨-, h⟩)
      · exact nomatch hgives.symm.trans hfails
      · exact h
  · obtain rfl : m = left := (threshold_keeps m).symm.trans (congrArg Prod.snd hfails)
    have hrun : (run programs arguments).perform m = _ := run_eq_ended hcommand m
    rw [hfails] at hrun
    refine ⟨_, m, hrun, rfl, fun ending hending => (nomatch hending), fun f => ?_⟩
    constructor
    · rintro ⟨⟩
      exact .inl hfails
    · rintro (hother | ⟨⟨level, hgives⟩, -⟩)
      · obtain ⟨hsame, -⟩ := Prod.mk.inj (hfails.symm.trans hother)
        exact congrArg Except.error (Except.error.inj hsame)
      · exact nomatch hfails.symm.trans hgives

end

/-! ## The command line of a check -/

/-- The arguments of a check of a project for a platform. -/
def checkArguments (root platform : Text) : List Text :=
  ["check-engine", "--project-root", root, "--platform", platform]

/-- An argument without a dash at its start is an operand. -/
theorem markOf_operand (rules : Rules) {t : Text} (h : t.head? ≠ some Rules.dash) :
    rules.markOf t = .ok .operand :=
  if_pos (by rw [bne_iff_ne.mpr h]; rfl)

theorem ne_divider {t : Text} (h : t.head? ≠ some Rules.dash) : (t == Rules.divider) = false := by
  refine beq_eq_false_iff_ne.mpr ?_
  rintro rfl
  exact h rfl

/-- Arguments are marked one by one. -/
theorem marked_cons {rules : Rules} {t : Text} {rest : List Text} {mark : Mark}
    {more : List Argument} (hdivider : (t == Rules.divider) = false)
    (hmark : rules.markOf t = .ok mark) (hrest : rules.marked rest = .ok more) :
    rules.marked (t :: rest) = .ok (⟨t, mark⟩ :: more) := by
  rw [Rules.marked, hdivider, if_neg Bool.false_ne_true, hmark, hrest]
  rfl

theorem marked_pairs {rules : Rules} {t value : Text} {mark : Mark} {rest : List Text}
    {more : List Argument} (hdivider : (t == Rules.divider) = false)
    (hmark : rules.markOf t = .ok mark) (hvalue : value.head? ≠ some Rules.dash)
    (hrest : rules.marked rest = .ok more) :
    rules.marked (t :: value :: rest) = .ok (⟨t, mark⟩ :: ⟨value, .operand⟩ :: more) :=
  marked_cons hdivider hmark (marked_cons (ne_divider hvalue) (markOf_operand rules hvalue) hrest)

theorem readCommand_checkArguments {root platform : Text} (hroot : root.head? ≠ some Rules.dash)
    (hplatform : platform.head? ≠ some Rules.dash) :
    readCommand (checkArguments root platform)
      = .ok (.checkEngine (some (Path.ofText root)) (some platform) none) := by
  have hmain : mainRules.marked (checkArguments root platform) = .ok _ :=
    marked_cons rfl rfl (marked_pairs rfl rfl hroot (marked_pairs rfl rfl hplatform rfl))
  have hcheck : checkEngineRules.marked (checkArguments root platform).tail = .ok _ :=
    marked_pairs rfl rfl hroot (marked_pairs rfl rfl hplatform rfl)
  have hchoice : read mainRules (checkArguments root platform)
      = .ok ⟨some (checkArguments root platform), [], []⟩ := by
    unfold read
    rw [hmain]
    rfl
  have hvalues : read checkEngineRules (checkArguments root platform).tail
      = .ok ⟨none, [("--project-root", if root == Rules.divider then none else some root),
        ("--platform", if platform == Rules.divider then none else some platform)], []⟩ := by
    unfold read
    rw [hcheck]
    rfl
  rw [ne_divider hroot, ne_divider hplatform] at hvalues
  have hnamed : readNamed (Text.ofString "check-engine") (checkArguments root platform).tail
      = .ok (.checkEngine (some (Path.ofText root)) (some platform) none, []) := by
    unfold readNamed
    rw [if_neg (by decide), if_neg (by decide), if_pos (beq_self_eq_true _), hvalues]
    rfl
  unfold readCommand
  rw [hchoice]
  show (readNamed (Text.ofString "check-engine") (checkArguments root platform).tail >>= _) = _
  rw [hnamed]
  rfl

/-- A machine with a project of which the app config has some content. -/
def projectMachine (config : Bytes) : Machine :=
  { Build.homeMachine with
    files := .ofEntries [(["home"], .directory), (["home", "app.json"], .file config false)] }

theorem threshold_project (config : Bytes) :
    threshold.Gives (projectMachine config) 30 (projectMachine config) := by
  rfl

/-- The arguments of a check of that project. -/
def checkProject : List Text := checkArguments "/home" "android"

theorem readCommand_checkProject :
    readCommand checkProject
      = .ok (.checkEngine (some (Path.ofString "/home")) (some Engine.android) none) :=
  readCommand_checkArguments (by decide) (by decide)

/-- A config that is a single brace is not handled. -/
theorem unhandled_brace :
    ∃ e, Unhandled (projectMachine [0x7B]) (Path.ofString "/home") Engine.android (.json e) := by
  have htext : textAt (projectMachine [0x7B]) (configFile (Path.ofString "/home"))
      = .ok (some "\x7b") := by cbv
  exact ⟨_, .configUnread htext rfl⟩

theorem run_checkProject :
    ∃ outcome after, readCommand checkProject
        = .ok (.checkEngine (some (Path.ofString "/home")) (some Engine.android) none)
      ∧ (run Build.localCompiler checkProject).perform (projectMachine [0x7B]) = (outcome, after)
      ∧ after.files = (projectMachine [0x7B]).files ∧ ∃ e, outcome = .error (.json e) := by
  obtain ⟨e, hunhandled⟩ := unhandled_brace
  have hlevel := threshold_project [0x7B]
  obtain ⟨outcome, after, hrun, hfiles, -, hescapes⟩ :=
    @run_checkEngine Build.localCompiler _ _ _ readCommand_checkProject (projectMachine [0x7B])
  exact ⟨outcome, after, readCommand_checkProject, hrun, hfiles, e,
    (hescapes (.json e)).mpr (.inr ⟨⟨30, hlevel⟩, hunhandled⟩)⟩

/-- The bytes of a config of which the app settings are null. -/
def nullConfig : Bytes :=
  [0x7B, 0x22, 0x65, 0x78, 0x70, 0x6F, 0x22, 0x3A, 0x6E, 0x75, 0x6C, 0x6C, 0x7D]

/-- Such a config cannot be asked. -/
theorem unhandled_nullConfig :
    Unhandled (projectMachine nullConfig) (Path.ofString "/home") Engine.android
      (.misuse .noMembers) := by
  have htext : textAt (projectMachine nullConfig) (configFile (Path.ofString "/home"))
      = .ok (some "\x7b\x22expo\x22:null\x7d") := by cbv
  have hread : Json.read "\x7b\x22expo\x22:null\x7d"
      = .ok (.obj [(Text.ofString "expo", .null)]) := by cbv
  exact .configNoObject rfl htext hread (by cbv)

/-- **A check can end with neither a report nor a complaint**: where the
    config is a brace, a byte that is no UTF-8, or an object whose app
    settings are null, it ends with a failure that nothing handles. -/
theorem check_escapes :
    (∃ e after, (run Build.localCompiler checkProject).perform (projectMachine [0x7B])
        = (.error (.json e), after))
      ∧ (∃ after, (run Build.localCompiler checkProject).perform (projectMachine [0xFF])
        = (.error .undecodable, after))
      ∧ ∃ after, (run Build.localCompiler checkProject).perform (projectMachine nullConfig)
        = (.error (.misuse .noMembers), after) := by
  obtain ⟨e, hbrace⟩ := unhandled_brace
  have hbyte : textAt (projectMachine [0xFF]) (configFile (Path.ofString "/home"))
      = .error .undecodable := by cbv
  have hescapes : ∀ {config f}, Unhandled (projectMachine config) (Path.ofString "/home")
      Engine.android f → ∃ after, (run Build.localCompiler checkProject).perform
        (projectMachine config) = (.error f, after) :=
    fun {config _} h => run_of_unhandled readCommand_checkProject (threshold_project config) h
  exact ⟨⟨e, hescapes hbrace⟩, hescapes (.configUndecodable hbyte), hescapes unhandled_nullConfig⟩

end CommandLine

end HermesBundle
