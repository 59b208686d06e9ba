import HermesBundle.Proofs.Build.Abandonment
import HermesBundle.Proofs.Build.Confinement
import HermesBundle.Proofs.Storage.Ways

/-! # Acquisitions — every workspace is one of a ground

    A build makes its workspace below a root that it is given, or that the
    settings name, or in the directory for temporary files, however that
    is spelt.  In each case the workspace has a path, whose last component
    is the name of a fresh directory, and the path without it is that of a
    directory.  That directory is the root of a ground, and the workspace
    is one that the ground takes (`exists_ground_of_acquire`), with nothing
    in it.

    So what is known of builds that share a root is known of every
    build. -/

namespace HermesBundle

namespace FileSystem

variable {fs : FileSystem} {here place : Location} {p : Path} {name : Text}

/-- A walk to a free last name looks it up right there. -/
theorem Walks.last_free {links : Nat} {above : Location}
    (h : fs.Walks .itself links above [name] (.free place)) (hname : IsComponent name)
    (hdotDot : name ≠ dotDot) :
    place = child above name ∧ fs.Opens above name ∧ fs.entry? place = none := by
  cases h with
  | skips _ hskipped _ => exact absurd hskipped (not_or_intro hname.nonempty hname.not_dot)
  | climbs _ _ => exact absurd rfl hdotDot
  | misses hopens hfree => exact ⟨rfl, hopens, hfree⟩
  | descends _ _ _ hon _ _ => exact absurd rfl hon
  | follows _ _ hon _ _ => exact absurd ⟨rfl, rfl⟩ hon

end FileSystem

namespace Build

open HermesBundle.Action FileSystem

namespace Ground

variable {G : Ground} {n : Nat}

/-- The path of a root leads to it. -/
theorem locate_root {fs : FileSystem} (hextends : fs.Extends G.rooted) :
    fs.locate G.machine.here .target G.root.toText = .ok (.found G.place .directory) := by
  obtain ⟨place, hplace⟩ := exists_locate_of_isDirectory (rooted_isDirectory (G := G))
  have hwalks := walks_of_locate_toText G.normal (settle_here (.refl _)) hplace
  have hsame : Spot.found place .directory = Spot.found G.place .directory :=
    Except.ok.inj ((walk_eq_ok_iff.mpr hwalks).symm.trans (walk_eq_ok_iff.mpr G.found))
  obtain ⟨rfl, -⟩ := Spot.found.inj hsame
  exact hextends.locate hplace

/-- The path of a workspace is that of its root and its name. -/
theorem parent_workspaceAt : (G.workspaceAt n).path.parent = G.root := by
  unfold workspaceAt Path.parent
  rw [List.dropLast_concat]

theorem name_workspaceAt : (G.workspaceAt n).path.name = G.name n := by
  unfold workspaceAt Path.name
  rw [List.getLast?_concat]
  rfl

/-- The path that a workspace is made by is not too long if its path and
    its name are not. -/
theorem byteCount_pathText (hpath : byteCount (G.workspaceAt n).path.toText ≤ pathLimit)
    (hname : byteCount (G.name n) ≤ nameLimit) : byteCount (G.pathText n) ≤ pathLimit := by
  rcases pathText_cases (G := G) n with hsame | ⟨hbelow, -⟩
  · rwa [hsame]
  · rw [hbelow, byteCount_append rfl (isUsable_name n)]
    have hdot : byteCount (dot ++ [slash]) = 2 := by decide
    have hlimits : 2 + nameLimit ≤ pathLimit := by decide
    omega

/-- A ground takes a workspace where its name is free. -/
theorem takes_of_opens (hpath : byteCount (G.workspaceAt n).path.toText ≤ pathLimit)
    (hopens : G.rooted.Opens G.place (G.name n)) (hfree : G.rooted.entry? (G.lot n) = none) :
    G.Takes n := by
  unfold Takes
  rw [locate_pathText (.refl _), if_neg (not_lt.mpr (byteCount_pathText hpath hopens.fits)),
    if_neg (Bool.eq_false_iff.mp hopens.kept), if_neg (not_lt.mpr hopens.fits), hfree]

/-- A workspace that is made is one more directory. -/
theorem entry?_of_put {l : Location} (hl : ¬G.lot n <+: l) :
    entry? (G.rooted.put (G.lot n) .directory) l = G.rooted.entry? l := by
  rw [entry?_put (lot_ne_nil n), if_neg]
  rintro rfl
  exact hl List.prefix_rfl

/-- There is nothing in it. -/
theorem contents_of_put (htakes : G.Takes n) :
    contents (G.rooted.put (G.lot n) .directory) (G.lot n) = bare :=
  contents_put_directory (lot_ne_nil n) (funext fun rest => (htakes.isNew rest).free)

end Ground

/-- A fresh directory that could be made is a workspace that a ground
    takes. -/
theorem exists_ground_of_fresh {m : Machine} (hm : m.IsSound) {directory name : Text} {k : Nat}
    {files : FileSystem} (hdrawn : Workspace.nameOf m.processId (m.draws k) = name)
    (husable : isUsable (Temporary.inside directory name) = true)
    (hmade : m.files.makeDirectory m.here (Temporary.inside directory name) = .ok files) :
    ∃ G : Ground, G.machine = m ∧ G.rooted = m.files ∧ G.Takes k
      ∧ Path.ofText (Temporary.inside directory name) = (G.workspaceAt k).path
      ∧ files = m.files.put (G.lot k) .directory := by
  have hname : IsComponent name := hdrawn ▸ Workspace.isComponent_nameOf _ _
  have hup : name ≠ dotDot := hdrawn ▸ Workspace.nameOf_ne_dotDot _ _
  obtain ⟨above, last, hlocate, -, hfree, rfl⟩ := makeDirectory_eq_ok hmade
  have hlocate := locate_ofText_inside hname husable hlocate
  have hparts : (Path.ofText (Temporary.inside directory name)).parts
      = components directory ++ [name] := Path.components_inside directory hname
  have hnormal := Path.isNormal_ofText (Temporary.inside directory name)
  have hpath := isUsable_ofText husable
  generalize Path.ofText (Temporary.inside directory name) = p at hlocate hparts hnormal hpath ⊢
  obtain ⟨anchor, parts⟩ := p
  obtain rfl := hparts
  generalize components directory = names at hlocate hnormal hpath ⊢
  generalize hchild : child above last = place at hlocate hfree ⊢
  -- The path without its last component is that of the root.
  have hroot : Path.IsNormal ⟨anchor, names⟩ := fun name hmem =>
    hnormal name (List.mem_append_left _ hmem)
  have hsame : startOf m.here (Path.toText ⟨anchor, names⟩)
      = startOf m.here (Path.toText ⟨anchor, names ++ [name]⟩) := by
    rw [startOf_toText hroot, startOf_toText hnormal]
    rfl
  obtain ⟨base, left, hwalks, hlast⟩ := (walks_toText hnormal rfl hlocate).split
  rw [← hsame] at hwalks
  obtain ⟨rfl, hopens, -⟩ := hlast.last_free hname hup
  have hrootUsable : isUsable (Path.toText ⟨anchor, names⟩) = true := by
    rw [isUsable_toText, List.all_eq_true] at hpath ⊢
    exact fun name hmem => hpath name (List.mem_append_left _ hmem)
  have hthere : m.files.isDirectory m.here (Path.toText ⟨anchor, names⟩) = true := by
    obtain ⟨parent, hparent⟩ := exists_locate_parent hnormal rfl hpath hm.settled hlocate
    unfold isDirectory status?
    rw [hparent]
  obtain rfl := hdrawn
  let G : Ground := ⟨m, ⟨anchor, names⟩, m.files, base, hm, hroot, hrootUsable,
    ensureDirectory_of_isDirectory hthere, hwalks⟩
  have htakes : G.Takes k := Ground.takes_of_opens (byteCount_le_of_locate hlocate) hopens hfree
  exact ⟨G, rfl, rfl, htakes, rfl, rfl⟩

/-! ## Roots that are made -/

/-- Whether a workspace is asked for below a path: a given one, or the one
    that the settings name. -/
def Asks (root : Option Path) (m : Machine) (path : Path) : Prop :=
  ∃ asked, (Workspace.parentOf root).Gives m (some path) asked

/-- Whether the directory that a workspace is asked for below is there
    already. -/
def IsRootThere (root : Option Path) (m : Machine) : Prop :=
  ∀ path, Asks root m path → m.files.isDirectory m.here path.toText = true

/-- Whether files are those of a machine, but for a root that has been
    made as far as that was possible. -/
inductive RootMade (root : Option Path) (m : Machine) : FileSystem → Prop where
  | same : RootMade root m m.files
  | made {path : Path} : Asks root m path →
      RootMade root m (m.files.ensureDirectory m.here path).1

/-- What is new is on the way to the root. -/
theorem RootMade.onWay {root : Option Path} {m : Machine} {files : FileSystem} {l : Location}
    (h : RootMade root m files) (hl : files.entry? l ≠ m.files.entry? l) :
    ∃ path, Asks root m path ∧ files.IsOnWay m.here path l := by
  cases h with
  | same => exact absurd rfl hl
  | made hasks => exact ⟨_, hasks, onWay_of_ensureDirectory hl⟩

theorem RootMade.grown {root : Option Path} {m : Machine} {files : FileSystem}
    (h : RootMade root m files) : m.files.Grown files := by
  cases h with
  | same => exact .same
  | made _ => exact grown_ensureDirectory _ _ _

/-- A root that is there is not made. -/
theorem RootMade.eq_of_there {root : Option Path} {m : Machine} {files : FileSystem}
    (h : RootMade root m files) (hthere : IsRootThere root m) : files = m.files := by
  cases h with
  | same => rfl
  | made hasks => rw [ensureDirectory_of_isDirectory (hthere _ hasks)]

/-- A directory is made as the file system makes it, if its name can be
    handed to the system. -/
theorem files_of_ensureDirectory (path : Path) (m : Machine) :
    ((Action.ensureDirectory path).perform m).2.files = m.files
      ∨ ((Action.ensureDirectory path).perform m).2.files
        = (m.files.ensureDirectory m.here path).1 := by
  unfold Action.ensureDirectory
  rcases gives_or_failsWith (checkName path.toText) m with ⟨_, checked, hname⟩ | ⟨f, checked, hname⟩
  · obtain ⟨-, rfl⟩ := checkName_gives_iff.mp hname
    rw [perform_bind_of_gives hname, perform_bind, perform_get]
    dsimp only
    rw [perform_bind, perform_set]
    dsimp only
    split <;> exact .inr rfl
  · have hsame := (LeavesFiles.checkName path.toText m).1
    rw [show (checkName path.toText).perform m = _ from hname] at hsame
    rw [perform_bind_of_failsWith hname]
    exact .inl hsame

/-- Where a workspace is made, nothing but its root is made before. -/
theorem rootMade_of_directoryFor {root parent : Option Path} {m asked : Machine}
    (hparent : (Workspace.parentOf root).Gives m parent asked) :
    RootMade root m ((Workspace.directoryFor parent).perform asked).2.files := by
  obtain ⟨hfiles, hhere⟩ : asked.files = m.files ∧ asked.here = m.here := by
    have hasked := Workspace.parentOf_leavesFiles root m
    rwa [hparent] at hasked
  cases parent with
  | none =>
      have hsame := (Temporary.directory_leavesFiles asked).1
      rw [hfiles] at hsame
      show RootMade root m (Temporary.directory.perform asked).2.files
      rw [hsame]
      exact .same
  | some path =>
      have hensured := files_of_ensureDirectory path asked
      rw [hfiles, hhere] at hensured
      have hsame : ((Workspace.directoryFor (some path)).perform asked).2.files
          = ((Action.ensureDirectory path).perform asked).2.files := by
        unfold Workspace.directoryFor
        dsimp only
        rcases gives_or_failsWith (Action.ensureDirectory path) asked with
          ⟨_, made, hgives⟩ | ⟨f, after, hfails⟩
        · rw [perform_bind_of_gives hgives, show (Action.ensureDirectory path).perform asked = _
            from hgives]
          rfl
        · rw [perform_bind_of_failsWith hfails, show (Action.ensureDirectory path).perform asked = _
            from hfails]
      rw [hsame]
      rcases hensured with hkept | hmade
      · rw [hkept]
        exact .same
      · rw [hmade]
        exact .made ⟨asked, hparent⟩

theorem files_of_failsWith {α : Type} {x : Action α} {m after : Machine} {f : Failure}
    (hx : LeavesFiles x) (h : x.FailsWith m f after) : after.files = m.files := by
  have hsame := (hx m).1
  rwa [show x.perform m = _ from h] at hsame

/-- A fresh directory that is not made changes nothing. -/
theorem files_of_create_failsWith {parent : Option Path} {m after : Machine} {f : Failure}
    (h : (Workspace.create parent).FailsWith m f after) :
    after.files = ((Workspace.directoryFor parent).perform m).2.files := by
  rcases failsWith_bind.mp h with hfails | ⟨directory, middle, hdirectory, h⟩
  · rw [show (Workspace.directoryFor parent).perform m = _ from hfails]
  rw [show (Workspace.directoryFor parent).perform m = _ from hdirectory]
  rcases failsWith_bind.mp h with hget | ⟨_, _, hget, hrest⟩
  · exact nomatch hget
  obtain ⟨rfl, rfl⟩ := gives_get.mp hget
  rcases failsWith_bind.mp hrest with hname | ⟨_, checked, hname, hmade⟩
  · exact files_of_failsWith (LeavesFiles.checkName _) hname
  obtain ⟨-, rfl⟩ := checkName_gives_iff.mp hname
  split at hmade
  · exact nomatch hmade
  · obtain ⟨-, rfl⟩ := Prod.mk.inj hmade
    rfl

/-- **An acquired workspace is one that a ground takes**, and there is
    nothing else that is new but the root. -/
theorem exists_ground_of_acquire {root : Option Path} {m acquired : Machine} {ws : Workspace}
    (hm : m.IsSound) (h : (Workspace.acquire root).Gives m ws acquired) :
    ∃ (G : Ground) (n : Nat), ws = G.workspaceAt n ∧ G.Takes n ∧ G.machine.here = m.here
      ∧ m.files.Grown G.rooted ∧ G.Carries acquired
      ∧ acquired.files = G.rooted.put (G.lot n) .directory
      ∧ G.machine.files = G.rooted ∧ RootMade root m G.rooted := by
  obtain ⟨parent, asked, directory, middle, n, files, path, hparent, hdirectory, rfl, husable,
    hmade, hpath, rfl⟩ := Workspace.acquire_gives h
  obtain ⟨hgrown, hhere⟩ : m.files.Grown middle.files ∧ middle.here = m.here := by
    have hasked := Workspace.parentOf_leavesFiles root m
    have hgrown := Workspace.directoryFor_grows parent asked
    rw [hparent] at hasked
    rw [hdirectory, hasked.1, hasked.2] at hgrown
    exact hgrown
  obtain ⟨G, rfl, hrooted, htakes, hws, rfl⟩ :=
    exists_ground_of_fresh (hm.grown hgrown hhere) rfl husable hmade
  rw [← hrooted] at hgrown
  have hput : G.machine.files.put (G.lot n) .directory = G.rooted.put (G.lot n) .directory := by
    rw [hrooted]
  refine ⟨G, n, ?_, htakes, hhere, hgrown, ⟨rfl, ?_⟩, hput, hrooted.symm, ?_⟩
  · obtain ⟨path⟩ := ws
    exact congrArg Workspace.mk (hpath.trans hws)
  · show G.Keeps (G.machine.files.put (G.lot n) .directory)
    rw [hput]
    exact Ground.keeps_rooted.of_same htakes fun l hl => Ground.entry?_of_put hl
  · have hmade := rootMade_of_directoryFor hparent
    rwa [show (Workspace.directoryFor parent).perform asked = _ from hdirectory, ← hrooted] at hmade

/-- An acquired workspace is where its path leads to. -/
theorem exists_locate_of_acquire {root : Option Path} {m acquired : Machine} {ws : Workspace}
    (hm : m.IsSound) (h : (Workspace.acquire root).Gives m ws acquired) :
    ∃ place, acquired.files.locate acquired.here .itself ws.path.toText
      = .ok (.found place .directory) := by
  obtain ⟨G, n, rfl, htakes, -, -, hcarries, hput, -⟩ := exists_ground_of_acquire hm h
  refine ⟨G.lot n, ?_⟩
  rw [hcarries.here]
  refine Ground.locate_workspaceAt htakes hcarries.keeps.extends ?_ .itself
  rw [hput, entry?_put (Ground.lot_ne_nil n), if_pos rfl]

/-- Where no workspace can be acquired, nothing is made but its root. -/
theorem rootMade_of_failsWith {root : Option Path} {m after : Machine} {f : Failure}
    (h : (Workspace.acquire root).FailsWith m f after) : RootMade root m after.files := by
  rcases failsWith_bind.mp h with hparent | ⟨parent, asked, hparent, h⟩
  · rw [files_of_failsWith (Workspace.parentOf_leavesFiles root) hparent]
    exact .same
  have hmade := rootMade_of_directoryFor hparent
  rcases failsWith_bind.mp h with hattempt | ⟨outcome, made, hattempt, h⟩
  · exact nomatch hattempt
  obtain ⟨houtcome, hmachine⟩ := Prod.mk.inj hattempt
  have hcreate : ∀ e, outcome = .error e → made = after → RootMade root m after.files := by
    rintro e rfl rfl
    rw [files_of_create_failsWith (Prod.ext (Except.ok.inj houtcome) hmachine)]
    exact hmade
  split at h
  · exact nomatch h
  · exact hcreate _ rfl (Prod.mk.inj h).2
  · exact hcreate _ rfl (Prod.mk.inj h).2

/-- A workspace is made right below what is asked for. -/
theorem parent_of_acquire {root : Option Path} {m acquired : Machine} {ws : Workspace} {path : Path}
    (h : (Workspace.acquire root).Gives m ws acquired) (hasks : Asks root m path)
    (hpath : path.IsNormal) : ws.path.parent = path := by
  obtain ⟨parent, asked, directory, middle, n, _, _, hparent, hdirectory, rfl, -, -, hws, -⟩ :=
    Workspace.acquire_gives h
  obtain ⟨asked', hasks⟩ := hasks
  obtain ⟨hsome, rfl⟩ := Prod.mk.inj (hparent.symm.trans hasks)
  obtain rfl := Except.ok.inj hsome
  obtain ⟨_, _, -, hpure⟩ := gives_bind.mp hdirectory
  obtain ⟨rfl, -⟩ := gives_pure.mp hpure
  rw [hws, Path.ofText_inside_toText hpath (Workspace.isComponent_nameOf _ _)]
  unfold Path.parent
  rw [List.dropLast_concat]

/-- Where nothing is asked for it is made among the temporary files. -/
theorem path_of_temporary {root : Option Path} {m asked middle acquired : Machine} {ws : Workspace}
    {directory : Text} (h : (Workspace.acquire root).Gives m ws acquired)
    (hparent : (Workspace.parentOf root).Gives m none asked)
    (hdirectory : Temporary.directory.Gives asked directory middle) :
    ws.path = Path.ofText (Temporary.inside directory ws.path.name) := by
  obtain ⟨parent, asked', directory', middle', n, _, _, hparent', hdirectory', rfl, -, -, hws, -⟩ :=
    Workspace.acquire_gives h
  obtain ⟨hnone, rfl⟩ := Prod.mk.inj (hparent'.symm.trans hparent)
  obtain rfl := Except.ok.inj hnone
  obtain ⟨hsame, rfl⟩ := Prod.mk.inj (Eq.trans (Eq.symm hdirectory') hdirectory)
  obtain rfl := Except.ok.inj hsame
  have hname : ws.path.name = Workspace.nameOf middle'.processId (middle'.draws n) := by
    have hparts : ws.path.parts = _ := (congrArg Path.parts hws).trans
      (Path.components_inside directory' (Workspace.isComponent_nameOf _ _))
    unfold Path.name
    rw [hparts, List.getLast?_concat]
    rfl
  rw [hname]
  exact hws

/-- Whether a workspace can be made: its root is there or can be made, and
    so can a fresh directory in it. -/
def CanMake (root : Option Path) (m : Machine) : Prop :=
  ∃ parent asked path made, (Workspace.parentOf root).Gives m parent asked
    ∧ (Workspace.create parent).Gives asked path made

/-- A workspace that can be made is acquired. -/
theorem CanMake.exists_acquire {root : Option Path} {m : Machine} (h : CanMake root m) :
    ∃ ws after, (Workspace.acquire root).Gives m ws after := by
  obtain ⟨parent, asked, path, made, hparent, hcreate⟩ := h
  refine ⟨⟨Path.ofText path⟩, made.noting .debug workspaceOrigin
    (Text.ofString "acquired workspace " ++ (Path.ofText path).toText), ?_⟩
  unfold Workspace.acquire Gives
  rw [perform_bind_of_gives hparent, perform_bind, perform_attempt,
    show (Workspace.create parent).perform asked = _ from hcreate]
  rfl

end Build

end HermesBundle
