import HermesBundle.Proofs.Build.Scopes

/-! # Sessions — workspaces that come and go

    Workspaces are acquired and released one after another, under roots of
    all kinds, while whoever holds one writes what they like into it.  A
    session keeps account of them: which have been acquired, where each of
    them is, and which are live.  The route:

    * **a session's base** (`Session.base`) is what is left without any of
      its workspaces; a root is clear if its path leads nowhere else there
      (`Session.IsClear`);
    * **every workspace has a ground of its own** in the base
      (`Session.HasGround`), so nothing that happens in other workspaces
      keeps it from being removed (`Invariant.release`);
    * **what is made for a new one** is on the way to its root, so it is
      in no other workspace (`unchanged_or_onWay`);
    * **the account is right** after every step (`Invariant.step`), and so
      in every session (`law_of_reached`).

    A root that was there when the session began is clear for ever
    (`hasClearRoot_of_there`).  One that is reached through a workspace is
    not, and a workspace below it stays behind (`left_behind`). -/

namespace HermesBundle.Build

open HermesBundle.Action FileSystem

/-- A session: the machine, the workspaces that have been acquired, each
    with its place, and the places of those that are live. -/
structure Session where
  machine : Machine
  known : List (Workspace × Location)
  live : List Location

namespace Session

/-- A session in which nothing has happened. -/
def begun (m : Machine) : Session := ⟨m, [], []⟩

/-- The places of all workspaces of a session. -/
def places (s : Session) : List Location := s.known.map Prod.snd

/-- The files without the workspaces. -/
def base (s : Session) : FileSystem := s.machine.files.without s.places

/-- A session with the same workspaces, on another machine. -/
def moved (s : Session) (after : Machine) : Session := { s with machine := after }

/-- A session with one more workspace. -/
def joined (s : Session) (ws : Workspace) (place : Location) (after : Machine) : Session :=
  ⟨after, (ws, place) :: s.known, place :: s.live⟩

/-- A session in which nothing is at a place any more. -/
def vacated (s : Session) (place : Location) (after : Machine) : Session :=
  ⟨after, s.known, s.live.filter (· ≠ place)⟩

/-- Whether a path leads neither into a workspace nor through one: the
    directories that its beginnings lead to are those that they lead to
    without the workspaces. -/
structure IsClear (s : Session) (path : Path) : Prop where
  normal : path.IsNormal
  clear : ∀ names l, names <+: path.parts →
    s.machine.files.locate s.machine.here .target (Path.toText ⟨path.anchor, names⟩)
      = .ok (.found l .directory) →
    s.base.locate s.machine.here .target (Path.toText ⟨path.anchor, names⟩)
      = .ok (.found l .directory)

/-- Whether a workspace that has joined a session was acquired below a
    clear root: the one that was asked for, if there is one, and the
    directory that the workspace was made in. -/
structure HasClearRoot (s : Session) (m : Machine) (root : Option Path) (ws : Workspace) :
    Prop where
  asked : ∀ path, Asks root m path → s.IsClear path
  used : s.IsClear ws.path.parent

/-- Whether a place and all below it has been removed from a machine, and
    nothing else. -/
structure Vacates (place : Location) (m after : Machine) : Prop where
  here : after.here = m.here
  gone : ∀ l, place <+: l → after.files.entry? l = none
  beside : ∀ l, ¬place <+: l → after.files.entry? l = m.files.entry? l

/-- What can happen in a session. -/
inductive Step (s : Session) : Session → Prop where
  /-- A workspace is acquired. -/
  | acquires {root : Option Path} {ws : Workspace} {place : Location} {after : Machine} :
      (Workspace.acquire root).Gives s.machine ws after →
      after.files.locate after.here .itself ws.path.toText = .ok (.found place .directory) →
      (s.joined ws place after).HasClearRoot s.machine root ws → Step s (s.joined ws place after)
  /-- None can be acquired. -/
  | refuses {root : Option Path} {f : Failure} {after : Machine} :
      (Workspace.acquire root).FailsWith s.machine f after →
      (∀ path, Asks root s.machine path → (s.moved after).IsClear path) → Step s (s.moved after)
  /-- A workspace is released, whether it is live or not. -/
  | releases {ws : Workspace} {place : Location} (strict : Bool) : (ws, place) ∈ s.known →
      Step s (s.vacated place ((Workspace.release ws strict).perform s.machine).2)
  /-- Something is written inside a live workspace: files, directories,
      links to wherever.  What else becomes of the machine, its clock, its
      log or its environment, does not matter. -/
  | writes {place : Location} {after : Machine} : place ∈ s.live →
      after.files.IsTree → after.here = s.machine.here →
      after.files.entry? place = some .directory →
      (∀ l, ¬place <+: l → after.files.entry? l = s.machine.files.entry? l) → Step s (s.moved after)
  /-- A live workspace is removed by someone else. -/
  | vanishes {place : Location} {after : Machine} : place ∈ s.live →
      Vacates place s.machine after → Step s (s.vacated place after)

/-- Whether a session comes from one in which nothing has happened. -/
def IsReached (m : Machine) (s : Session) : Prop := Relation.ReflTransGen Step (begun m) s

/-- Whether a place is one of a workspace that a ground in the base
    takes. -/
def HasGround (s : Session) (ws : Workspace) (place : Location) : Prop :=
  ∃ (G : Ground) (n : Nat), ws = G.workspaceAt n ∧ place = G.lot n ∧ G.Takes n
    ∧ G.machine.here = s.machine.here ∧ s.base.Extends G.rooted

/-- Whether the account of a session that began on a machine is right. -/
structure Invariant (m : Machine) (s : Session) : Prop where
  tree : s.machine.files.IsTree
  here : s.machine.here = m.here
  settled : s.base.settle s.machine.here = s.machine.here
  /-- What was there when the session began is there, and in no
      workspace. -/
  kept : s.base.Extends m.files
  grounded : ∀ ws place, (ws, place) ∈ s.known → s.HasGround ws place
  listed : ∀ place ∈ s.live, place ∈ s.places
  stands : ∀ place ∈ s.live, s.machine.files.entry? place = some .directory
  gone : ∀ place ∈ s.places, place ∉ s.live → s.machine.files.entry? place = none
  /-- No workspace is inside another. -/
  apart : ∀ place ∈ s.places, ∀ other ∈ s.places, place <+: other → place = other
  /-- What else is new are directories. -/
  outside : ∀ l, ¬IsUnder s.places l → s.machine.files.entry? l = m.files.entry? l
    ∨ m.files.entry? l = none ∧ s.machine.files.entry? l = some .directory

section

variable {m : Machine} {s t : Session} {ws : Workspace} {place : Location}

theorem HasGround.later (h : s.HasGround ws place) (hbase : t.base.Extends s.base)
    (hhere : t.machine.here = s.machine.here) : t.HasGround ws place := by
  obtain ⟨G, n, hws, hplace, htakes, hsame, hextends⟩ := h
  exact ⟨G, n, hws, hplace, htakes, hsame.trans hhere.symm, hbase.trans hextends⟩

theorem HasGround.ne_nil (h : s.HasGround ws place) : place ≠ [] := by
  obtain ⟨G, n, -, rfl, -⟩ := h
  exact Ground.lot_ne_nil n

/-- The directory that a workspace is in belongs to the base. -/
theorem HasGround.exists_above (h : s.HasGround ws place) :
    ∃ above name, place = child above name ∧ s.base.entry? above = some .directory := by
  obtain ⟨G, n, -, rfl, htakes, -, hextends⟩ := h
  exact ⟨G.place, G.name n, rfl, Opens.entry? (htakes.opens hextends).2⟩

/-- Every place is that of a workspace. -/
theorem exists_of_mem_places (h : place ∈ s.places) : ∃ ws, (ws, place) ∈ s.known := by
  obtain ⟨⟨ws, _⟩, hknown, rfl⟩ := List.mem_map.mp h
  exact ⟨ws, hknown⟩

theorem mem_places (h : (ws, place) ∈ s.known) : place ∈ s.places :=
  List.mem_map.mpr ⟨(ws, place), h, rfl⟩

theorem extends_base (s : Session) : s.machine.files.Extends s.base := extends_without _ _

namespace Invariant

theorem nil_not_mem (h : s.Invariant m) : [] ∉ s.places := by
  intro hnil
  obtain ⟨ws, hknown⟩ := exists_of_mem_places hnil
  exact (h.grounded ws [] hknown).ne_nil rfl

theorem base_isTree (h : s.Invariant m) : s.base.IsTree := h.tree.without h.nil_not_mem

/-- What the base holds is in no workspace. -/
theorem not_under_of_base (h : s.Invariant m) {l : Location} {e : Entry}
    (hl : s.base.entry? l = some e) : ¬IsUnder s.places l := not_under_of_entry? h.nil_not_mem hl

/-- What the base holds stays there if nothing is removed. -/
theorem extends_moved (h : s.Invariant m) {after : Machine}
    (hfiles : after.files.Extends s.machine.files) : (s.moved after).base.Extends s.base := by
  intro l e hl
  refine (entry?_without_of_not_under (h.not_under_of_base hl)).trans ?_
  exact hfiles l e (s.extends_base l e hl)

/-- The program stands where it stood as long as the base does. -/
theorem settled_later (h : s.Invariant m) (hbase : t.base.Extends s.base)
    (hhere : t.machine.here = s.machine.here) : t.base.settle t.machine.here = t.machine.here := by
  rw [hhere]
  exact settle_of_extends h.settled hbase

theorem isSound (h : s.Invariant m) : s.machine.IsSound :=
  ⟨h.tree, settle_of_extends h.settled s.extends_base⟩

/-- At the beginning there is nothing to account for. -/
theorem begun (hm : m.IsSound) : (begun m).Invariant m := by
  have hbase : ∀ l, entry? (Session.begun m).base l = m.files.entry? l := fun l =>
    entry?_without_of_not_under fun ⟨_, h, _⟩ => nomatch h
  have hextends : (Session.begun m).base.Extends m.files := fun l e hl => (hbase l).trans hl
  exact ⟨hm.tree, rfl, settle_of_extends hm.settled hextends, hextends, fun _ _ h => (nomatch h),
    fun _ h => (nomatch h), fun _ h => (nomatch h), fun _ h => (nomatch h), fun _ h => (nomatch h),
    fun _ _ => .inl rfl⟩

/-! ## What happens at one place -/

/-- What changes at one place does not change the base. -/
theorem entry?_base (h : s.Invariant m) (hplace : place ∈ s.places) {after : Machine}
    (hbeside : ∀ l, ¬place <+: l → after.files.entry? l = s.machine.files.entry? l)
    (live : List Location) (l : Location) :
    entry? (Session.base ⟨after, s.known, live⟩) l = s.base.entry? l := by
  by_cases hunder : IsUnder s.places l
  · exact (entry?_without_of_under h.nil_not_mem hunder).trans
      (entry?_without_of_under h.nil_not_mem hunder).symm
  · have hbelow : ¬place <+: l := fun hbelow => hunder ⟨place, hplace, hbelow⟩
    exact (entry?_without_of_not_under hunder).trans
      ((hbeside l hbelow).trans (entry?_without_of_not_under hunder).symm)

/-- The account stays right if something changes at one place, and it is
    known whether a directory is there. -/
theorem changed (h : s.Invariant m) (hplace : place ∈ s.places) {after : Machine}
    {live : List Location} (htree : after.files.IsTree) (hhere : after.here = s.machine.here)
    (hbeside : ∀ l, ¬place <+: l → after.files.entry? l = s.machine.files.entry? l)
    (hothers : ∀ other, other ≠ place → (other ∈ live ↔ other ∈ s.live))
    (hthere : place ∈ live ∧ after.files.entry? place = some .directory
      ∨ place ∉ live ∧ after.files.entry? place = none) :
    Invariant m ⟨after, s.known, live⟩ := by
  have hbase : (Session.base ⟨after, s.known, live⟩).Extends s.base := fun l e hl =>
    (h.entry?_base hplace hbeside live l).trans hl
  have hsame : ∀ other ∈ s.places, other ≠ place →
      after.files.entry? other = s.machine.files.entry? other := fun other hother hne =>
    hbeside other fun hbelow => hne (h.apart place hplace other hother hbelow).symm
  constructor
  · exact htree
  · exact hhere.trans h.here
  · exact h.settled_later hbase hhere
  · exact hbase.trans h.kept
  · exact fun ws other hknown => (h.grounded ws other hknown).later hbase hhere
  · intro other hother
    by_cases hne : other = place
    · exact hne ▸ hplace
    · exact h.listed other ((hothers other hne).mp hother)
  · intro other hother
    by_cases hne : other = place
    · rw [hne] at hother ⊢
      exact (hthere.resolve_right fun hnot => hnot.1 hother).2
    · have hlive := (hothers other hne).mp hother
      exact (hsame other (h.listed other hlive) hne).trans (h.stands other hlive)
  · intro other hother hdead
    by_cases hne : other = place
    · rw [hne] at hdead ⊢
      exact (hthere.resolve_left fun hlive => hdead hlive.1).2
    · exact (hsame other hother hne).trans
        (h.gone other hother fun hlive => hdead ((hothers other hne).mpr hlive))
  · exact h.apart
  · intro l hl
    have hbelow : ¬place <+: l := fun hbelow => hl ⟨place, hplace, hbelow⟩
    show after.files.entry? l = m.files.entry? l ∨ _ ∧ after.files.entry? l = _
    rw [hbeside l hbelow]
    exact h.outside l hl

end Invariant

/-- What is left of a tree is a tree. -/
theorem Vacates.isTree {after : Machine} (h : Vacates place m after) (hm : m.files.IsTree) :
    after.files.IsTree := by
  have hold : ∀ l e, after.files.entry? l = some e → ¬place <+: l ∧ m.files.entry? l = some e := by
    intro l e hl
    have hbelow : ¬place <+: l := fun hbelow => nomatch (h.gone l hbelow).symm.trans hl
    exact ⟨hbelow, (h.beside l hbelow).symm.trans hl⟩
  constructor
  · exact fun l e hl => hm.named l e (hold l e hl).2
  · intro l name e hl
    obtain ⟨hbelow, hentry⟩ := hold _ e hl
    rw [h.beside l fun hstarts => hbelow (hstarts.trans (List.prefix_append l _))]
    exact hm.rooted l name e hentry

namespace Invariant

/-- The account is right of what has been removed. -/
theorem vacated (h : s.Invariant m) (hplace : place ∈ s.places) {after : Machine}
    (hvacates : Vacates place s.machine after) : (s.vacated place after).Invariant m := by
  refine h.changed hplace (hvacates.isTree h.tree) hvacates.here hvacates.beside ?_
    (.inr ⟨?_, hvacates.gone place List.prefix_rfl⟩)
  · intro other hne
    simp [hne]
  · simp

/-- **A workspace that is released is removed, and nothing else is.**  If
    it is not live nothing is left to be removed. -/
theorem release (h : s.Invariant m) (hknown : (ws, place) ∈ s.known) (strict : Bool) :
    ∃ after, (Workspace.release ws strict).Gives s.machine () after
      ∧ Vacates place s.machine after ∧ (place ∉ s.live → after.files = s.machine.files) := by
  have hplace := mem_places hknown
  obtain ⟨G, n, rfl, rfl, htakes, hhere, hbase⟩ := h.grounded ws place hknown
  have hextends : s.machine.files.Extends G.rooted := s.extends_base.trans hbase
  by_cases hlive : G.lot n ∈ s.live
  · obtain ⟨hfailure, hgone, hbeside⟩ :=
      Ground.removal_of_directory htakes hextends hhere.symm (h.stands _ hlive)
    refine ⟨_, Workspace.release_of_removable (Ground.isUsable_workspaceAt n) hfailure strict,
      ⟨?_, hgone, hbeside⟩, fun hdead => absurd hlive hdead⟩
    -- the program still stands where it stood: that is in the base
    refine settle_of_extends h.settled fun l e hl => ?_
    have hbelow : ¬G.lot n <+: l := fun hbelow => h.not_under_of_base hl ⟨_, hplace, hbelow⟩
    exact (hbeside l hbelow).trans (s.extends_base l e hl)
  · have hfree := h.gone _ hplace hlive
    obtain ⟨hfailure, hsame⟩ := Ground.removal_of_gone htakes hextends hhere.symm hfree
    have hentry : ∀ l, entry? (Workspace.removed (G.workspaceAt n) s.machine).files l
        = s.machine.files.entry? l := by
      rw [hsame]
      exact fun _ => rfl
    refine ⟨_, Workspace.release_of_removable (Ground.isUsable_workspaceAt n) hfailure strict,
      ⟨?_, ?_, fun l _ => hentry l⟩, fun _ => hsame⟩
    · show FileSystem.settle (Workspace.removed _ _).files s.machine.here = _
      rw [hsame]
      exact h.isSound.settled
    · rintro _ ⟨rest, rfl⟩
      exact (hentry _).trans (h.tree.entry?_append hfree rest)

end Invariant

/-! ## Acquiring -/

/-- A root that is clear was so before, when there was less. -/
theorem IsClear.earlier {path : Path} (h : t.IsClear path)
    (hfiles : t.machine.files.Extends s.machine.files) (hbase : s.base.Extends t.base)
    (hhere : t.machine.here = s.machine.here) : s.IsClear path := by
  refine ⟨h.normal, fun names l hnames hlocate => ?_⟩
  rw [← hhere] at hlocate ⊢
  exact hbase.locate (h.clear names l hnames (hfiles.locate hlocate))

/-- A directory on the way to a clear root is in no workspace. -/
theorem IsClear.not_under {path : Path} {l : Location} (h : s.IsClear path) (hne : [] ∉ s.places)
    (hway : s.machine.files.IsOnWay s.machine.here path l) (hkept : isLost l = false) :
    ¬IsUnder s.places l := by
  obtain ⟨names, hnames, hlocate⟩ := hway
  exact not_under_of_entry? hne (entry?_of_locate_of_kept (h.clear names l hnames hlocate) hkept)

/-- What is new where a root has been made is a directory on the way to it,
    and in no workspace. -/
theorem unchanged_or_onWay {root : Option Path} {after : Machine} (hne : [] ∉ s.places)
    (htree : s.machine.files.IsTree) (hmade : RootMade root s.machine after.files)
    (hhere : after.here = s.machine.here)
    (hclear : ∀ path, Asks root s.machine path → (s.moved after).IsClear path) (l : Location) :
    after.files.entry? l = s.machine.files.entry? l
      ∨ s.machine.files.entry? l = none ∧ after.files.entry? l = some .directory
        ∧ ¬IsUnder s.places l
        ∧ ∃ path, Asks root s.machine path ∧ after.files.IsOnWay after.here path l := by
  by_cases hsame : after.files.entry? l = s.machine.files.entry? l
  · exact .inl hsame
  · right
    have hfree : s.machine.files.entry? l = none := by
      by_contra hthere
      obtain ⟨e, hold⟩ := Option.ne_none_iff_exists'.mp hthere
      exact hsame ((hmade.grown.extends l e hold).trans hold.symm)
    obtain ⟨e, hnew⟩ : ∃ e, after.files.entry? l = some e :=
      Option.ne_none_iff_exists'.mp fun hnone => hsame (hnone.trans hfree.symm)
    have hkept : isLost l = false := (hmade.grown.isTree htree).named l e hnew
    obtain ⟨path, hasks, names, hnames, hlocate⟩ := hmade.onWay hsame
    rw [← hhere] at hlocate
    have hway : after.files.IsOnWay after.here path l := ⟨names, hnames, hlocate⟩
    have hout := (hclear path hasks).not_under hne hway hkept
    exact ⟨hfree, entry?_of_locate_of_kept hlocate hkept, hout, path, hasks, hway⟩

/-- A workspace that is made is not in the base. -/
theorem entry?_base_joined (hne : [] ∉ s.places) (hplace : place ≠ [])
    (hfree : ∀ l, place <+: l → s.machine.files.entry? l = none) {after : Machine}
    (hput : after.files = s.machine.files.put place .directory) (ws : Workspace) (l : Location) :
    entry? (s.joined ws place after).base l = s.base.entry? l := by
  have hnil : [] ∉ place :: s.places := by
    rw [List.mem_cons, not_or]
    exact ⟨hplace.symm, hne⟩
  show entry? (after.files.without (place :: s.places)) l = entry? (s.machine.files.without _) l
  by_cases hunder : IsUnder s.places l
  · rw [entry?_without_of_under hnil (isUnder_cons.mpr (.inr hunder)),
      entry?_without_of_under hne hunder]
  · rw [entry?_without_of_not_under hunder]
    by_cases hbelow : place <+: l
    · rw [entry?_without_of_under hnil (isUnder_cons.mpr (.inl hbelow)), hfree l hbelow]
    · have hother : l ≠ place := by
        rintro rfl
        exact hbelow List.prefix_rfl
      rw [entry?_without_of_not_under fun hboth => (isUnder_cons.mp hboth).elim hbelow hunder,
        hput, entry?_put hplace, if_neg hother]

/-- How a workspace is acquired in a session: its root is made if it was
    missing, and then a fresh directory in it. -/
structure Makes (s : Session) (root : Option Path) (G : Ground) (n : Nat) (after : Machine) :
    Prop where
  takes : G.Takes n
  here : G.machine.here = s.machine.here
  rooted : G.rooted = G.machine.files
  root : RootMade root s.machine G.machine.files
  put : after.files = G.machine.files.put (G.lot n) .directory
  stays : after.here = s.machine.here

namespace Makes

variable {root : Option Path} {G : Ground} {n : Nat} {after : Machine}

theorem free (h : s.Makes root G n after) (l : Location) (hl : G.lot n <+: l) :
    G.machine.files.entry? l = none := by
  obtain ⟨rest, rfl⟩ := hl
  rw [← h.rooted]
  exact (h.takes.isNew rest).free

theorem free_before (h : s.Makes root G n after) (l : Location) (hl : G.lot n <+: l) :
    s.machine.files.entry? l = none :=
  h.root.grown.extends.free (h.free l hl)

theorem extends_root (h : s.Makes root G n after) : after.files.Extends G.machine.files := by
  rw [h.put]
  exact extends_put (Ground.lot_ne_nil n) (h.free _ List.prefix_rfl) .directory

/-- Beside the workspace everything is as it was when the root was
    there. -/
theorem beside (h : s.Makes root G n after) (l : Location) (hl : ¬G.lot n <+: l) :
    after.files.entry? l = G.machine.files.entry? l := by
  rw [h.put, entry?_put (Ground.lot_ne_nil n), if_neg]
  rintro rfl
  exact hl List.prefix_rfl

theorem entry?_base (h : s.Makes root G n after) (hne : [] ∉ s.places) (l : Location) :
    entry? (s.joined (G.workspaceAt n) (G.lot n) after).base l
      = entry? (s.moved G.machine).base l :=
  entry?_base_joined (s := s.moved G.machine) hne (Ground.lot_ne_nil n) h.free h.put _ l

/-- What was in the base still is. -/
theorem extends_base (h : s.Makes root G n after) (hs : s.Invariant m) :
    (s.joined (G.workspaceAt n) (G.lot n) after).base.Extends s.base := by
  intro l e hl
  rw [h.entry?_base hs.nil_not_mem]
  exact hs.extends_moved h.root.grown.extends l e hl

end Makes

namespace Invariant

/-- Every workspace is acquired in this way. -/
theorem exists_makes {root : Option Path} {after : Machine} (h : s.Invariant m)
    (hgives : (Workspace.acquire root).Gives s.machine ws after)
    (hlocate : after.files.locate after.here .itself ws.path.toText
      = .ok (.found place .directory)) :
    ∃ (G : Ground) (n : Nat), ws = G.workspaceAt n ∧ place = G.lot n ∧ s.Makes root G n after := by
  obtain ⟨G, n, rfl, htakes, hhere, -, hcarries, hput, hsame, hmade⟩ :=
    exists_ground_of_acquire h.isSound hgives
  have hentry : after.files.entry? (G.lot n) = some .directory := by
    rw [hput, entry?_put (Ground.lot_ne_nil n), if_pos rfl]
  rw [hcarries.here, Ground.locate_workspaceAt htakes hcarries.keeps.extends hentry .itself]
    at hlocate
  rw [← hsame] at hput hmade
  exact ⟨G, n, rfl, (Spot.found.inj (Except.ok.inj hlocate)).1.symm, htakes, hhere, hsame.symm,
    hmade, hput, hcarries.here.trans hhere⟩

/-- The account is right after a root has been made, as far as that was
    possible. -/
theorem rooted {root : Option Path} {after : Machine} (h : s.Invariant m)
    (hmade : RootMade root s.machine after.files) (hhere : after.here = s.machine.here)
    (hclear : ∀ path, Asks root s.machine path → (s.moved after).IsClear path) :
    (s.moved after).Invariant m := by
  have hcases := unchanged_or_onWay h.nil_not_mem h.tree hmade hhere hclear
  have hbase : (s.moved after).base.Extends s.base := h.extends_moved hmade.grown.extends
  constructor
  · exact hmade.grown.isTree h.tree
  · exact hhere.trans h.here
  · exact h.settled_later hbase hhere
  · exact hbase.trans h.kept
  · exact fun ws place hknown => (h.grounded ws place hknown).later hbase hhere
  · exact h.listed
  · exact fun place hlive => hmade.grown.extends _ _ (h.stands place hlive)
  · intro place hplace hdead
    rcases hcases place with hsame | ⟨-, -, hout, -⟩
    · exact hsame.trans (h.gone place hplace hdead)
    · exact absurd ⟨place, hplace, List.prefix_rfl⟩ hout
  · exact h.apart
  · intro l hl
    rcases hcases l with hsame | ⟨hfree, hnew, -⟩
    · show after.files.entry? l = m.files.entry? l ∨ _ ∧ after.files.entry? l = _
      rw [hsame]
      exact h.outside l hl
    · refine .inr ⟨?_, hnew⟩
      rcases h.outside l hl with hsame | ⟨hnone, -⟩
      · exact hsame.symm.trans hfree
      · exact hnone

section

variable {G : Ground} {n : Nat}

/-- A workspace that is made under a clear root has a ground in the base. -/
theorem exists_ground (h : s.Invariant m) (hmachine : G.machine.here = s.machine.here)
    (hrooted : G.rooted = s.machine.files) (htakes : G.Takes n) (hclear : s.IsClear G.root) :
    ∃ W : Ground, W.workspaceAt n = G.workspaceAt n ∧ W.place = G.place ∧ W.lot n = G.lot n
      ∧ W.Takes n ∧ W.machine.here = s.machine.here ∧ W.rooted = s.base := by
  have hlocate := Ground.locate_root (.refl G.rooted)
  rw [hrooted, hmachine] at hlocate
  have hthere := hclear.clear G.root.parts G.place List.prefix_rfl hlocate
  have hwalks := walks_of_locate_toText hclear.normal h.settled hthere
  have hdirectory : s.base.isDirectory s.machine.here G.root.toText = true := by
    unfold isDirectory status?
    rw [show s.base.locate s.machine.here .target G.root.toText = _ from hthere]
  let W : Ground := ⟨{ G.machine with files := s.base, here := s.machine.here }, G.root, s.base,
    G.place, ⟨h.base_isTree, h.settled⟩, G.normal, G.usable,
    ensureDirectory_of_isDirectory hdirectory, hwalks⟩
  have hopens : s.base.Opens G.place (G.name n) :=
    { (htakes.opens (.refl _)).2 with directory := hwalks.standing }
  have hfree : s.base.entry? (G.lot n) = none := by
    have hfree := htakes.free
    rw [hrooted] at hfree
    exact s.extends_base.free hfree
  have hpath := Ground.byteCount_workspaceAt htakes (.refl G.rooted)
  exact ⟨W, rfl, rfl, rfl, Ground.takes_of_opens hpath hopens hfree, rfl, rfl⟩

/-- A new workspace is in no other one, and no other one is in it. -/
theorem apart_of_takes (h : s.Invariant m) (hrooted : G.rooted = s.machine.files)
    (htakes : G.Takes n) (habove : s.base.entry? G.place = some .directory) {other : Location}
    (hother : other ∈ s.places) :
    (other <+: G.lot n → other = G.lot n) ∧ (G.lot n <+: other → G.lot n = other) := by
  constructor
  · intro hstarts
    rcases List.prefix_concat_iff.mp hstarts with hsame | hbelow
    · exact hsame
    · exact absurd ⟨other, hother, hbelow⟩ (h.not_under_of_base habove)
  · intro hstarts
    obtain ⟨ws, hknown⟩ := exists_of_mem_places hother
    obtain ⟨above, name, rfl, hentry⟩ := (h.grounded ws other hknown).exists_above
    rcases List.prefix_concat_iff.mp hstarts with hsame | ⟨rest, rfl⟩
    · exact hsame
    · have hthere := s.extends_base _ _ hentry
      rw [← hrooted] at hthere
      exact nomatch (htakes.isNew rest).free.symm.trans hthere

/-- The account is right of a workspace that has been made under a clear
    root. -/
theorem joined (h : s.Invariant m) (hmachine : G.machine.here = s.machine.here)
    (hrooted : G.rooted = s.machine.files) (htakes : G.Takes n) (hclear : s.IsClear G.root)
    {after : Machine} (hput : after.files = s.machine.files.put (G.lot n) .directory)
    (hhere : after.here = s.machine.here) :
    (s.joined (G.workspaceAt n) (G.lot n) after).Invariant m := by
  obtain ⟨W, hws, hplace, hlot, hW, hWhere, hWrooted⟩ :=
    h.exists_ground hmachine hrooted htakes hclear
  have habove : s.base.entry? G.place = some .directory := by
    rw [← hWrooted, ← hplace]
    exact Opens.entry? (hW.opens (.refl _)).2
  have hfree : ∀ l, G.lot n <+: l → s.machine.files.entry? l = none := by
    rintro _ ⟨rest, rfl⟩
    rw [← hrooted]
    exact (htakes.isNew rest).free
  have hentry : ∀ l, after.files.entry? l
      = if l = G.lot n then some .directory else s.machine.files.entry? l := by
    rw [hput]
    exact entry?_put (Ground.lot_ne_nil n) s.machine.files .directory
  have hextends : after.files.Extends s.machine.files := by
    rw [hput]
    exact extends_put (Ground.lot_ne_nil n) (hfree _ List.prefix_rfl) .directory
  have hmore : (s.joined (G.workspaceAt n) (G.lot n) after).base.Extends s.base := fun l e hl =>
    (entry?_base_joined h.nil_not_mem (Ground.lot_ne_nil n) hfree hput _ l).trans hl
  have hapart := fun other (hother : other ∈ s.places) =>
    h.apart_of_takes hrooted htakes habove hother
  constructor
  · rw [show (s.joined (G.workspaceAt n) (G.lot n) after).machine.files = _ from hput]
    have hopens := (htakes.opens (.refl G.rooted)).2
    rw [hrooted] at hopens
    exact h.tree.put hopens (hfree _ List.prefix_rfl) .directory
  · exact hhere.trans h.here
  · exact h.settled_later hmore hhere
  · exact hmore.trans h.kept
  · intro ws place hknown
    rcases List.mem_cons.mp hknown with hnew | hold
    · obtain ⟨rfl, rfl⟩ := Prod.mk.inj hnew
      refine ⟨W, n, hws.symm, hlot.symm, hW, hWhere.trans hhere.symm, ?_⟩
      rw [hWrooted]
      exact hmore
    · exact (h.grounded ws place hold).later hmore hhere
  · intro place hlive
    rcases List.mem_cons.mp hlive with rfl | hold
    · exact List.mem_cons_self
    · exact List.mem_cons_of_mem _ (h.listed place hold)
  · intro place hlive
    rcases List.mem_cons.mp hlive with rfl | hold
    · exact (hentry _).trans (if_pos rfl)
    · exact hextends _ _ (h.stands place hold)
  · intro place hplace hdead
    obtain ⟨hne, hdead⟩ := not_or.mp (mt List.mem_cons.mpr hdead)
    have hold := (List.mem_cons.mp hplace).resolve_left hne
    exact (hentry place).trans ((if_neg hne).trans (h.gone place hold hdead))
  · intro place hplace other hother hstarts
    rcases List.mem_cons.mp hplace with rfl | hplace
    · rcases List.mem_cons.mp hother with rfl | hother
      · rfl
      · exact (hapart other hother).2 hstarts
    · rcases List.mem_cons.mp hother with rfl | hother
      · exact (hapart place hplace).1 hstarts
      · exact h.apart place hplace other hother hstarts
  · intro l hl
    obtain ⟨hlot, hunder⟩ := not_or.mp (mt isUnder_cons.mpr hl)
    show after.files.entry? l = m.files.entry? l ∨ _ ∧ after.files.entry? l = _
    rw [hentry, if_neg fun hsame : l = G.lot n => hlot (hsame ▸ List.prefix_rfl)]
    exact h.outside l hunder

end

end Invariant

/-- How a workspace that has been acquired is new. -/
structure IsNew (s : Session) (root : Option Path) (ws : Workspace) (place : Location)
    (after : Machine) : Prop where
  /-- It is right below the directory that was asked for, ... -/
  parent : ∀ path, Asks root s.machine path → ws.path.parent = path
  /-- ... or else among the temporary files, ... -/
  among : ∀ asked middle directory, (Workspace.parentOf root).Gives s.machine none asked →
    Temporary.directory.Gives asked directory middle →
    ws.path = Path.ofText (Temporary.inside directory ws.path.name)
  /-- ... and so is its place. -/
  below : ∃ above, after.files.locate after.here .target ws.path.parent.toText
    = .ok (.found above .directory) ∧ place = child above ws.path.name
  /-- There was nothing before, ... -/
  free : ∀ l, place <+: l → s.machine.files.entry? l = none
  /-- ... and there is a directory now, with nothing in it. -/
  empty : after.files.contents place = bare
  /-- It is no other workspace, in none and around none. -/
  apart : ∀ other ∈ s.live, ¬other <+: place ∧ ¬place <+: other
  /-- Nothing else has changed, but for directories on the way to its root
      that were missing, ... -/
  beside : ∀ l, ¬place <+: l → after.files.entry? l = s.machine.files.entry? l
    ∨ s.machine.files.entry? l = none ∧ after.files.IsOnWay after.here ws.path.parent l
  /-- ... and nothing at all if the root was there. -/
  there : IsRootThere root s.machine → ∀ l, ¬place <+: l →
    after.files.entry? l = s.machine.files.entry? l
  /-- Nothing has changed in other workspaces. -/
  others : ∀ other ∈ s.live, ∀ l, other <+: l → after.files.entry? l = s.machine.files.entry? l

namespace Invariant

/-- A workspace that has been acquired is new. -/
theorem isNew {root : Option Path} {G : Ground} {n : Nat} {after : Machine} (h : s.Invariant m)
    (hgives : (Workspace.acquire root).Gives s.machine (G.workspaceAt n) after)
    (hmakes : s.Makes root G n after)
    (hasked : ∀ path, Asks root s.machine path → (s.moved G.machine).IsClear path)
    (hjoined : (s.joined (G.workspaceAt n) (G.lot n) after).Invariant m) :
    s.IsNew root (G.workspaceAt n) (G.lot n) after := by
  have hcases := unchanged_or_onWay h.nil_not_mem h.tree hmakes.root hmakes.here hasked
  have hapart : ∀ other ∈ s.live, ¬other <+: G.lot n ∧ ¬G.lot n <+: other := by
    intro other hlive
    have hother := List.mem_cons_of_mem (G.lot n) (h.listed other hlive)
    have hlot : G.lot n ∈ G.lot n :: s.places := List.mem_cons_self
    have hne : other ≠ G.lot n := by
      rintro rfl
      exact nomatch (hmakes.free_before _ List.prefix_rfl).symm.trans (h.stands _ hlive)
    exact ⟨fun hstarts => hne (hjoined.apart other hother _ hlot hstarts),
      fun hstarts => hne (hjoined.apart _ hlot other hother hstarts).symm⟩
  constructor
  · exact fun path hasks => parent_of_acquire hgives hasks (hasked path hasks).normal
  · exact fun asked middle directory => path_of_temporary hgives
  · refine ⟨G.place, ?_, Ground.name_workspaceAt ▸ rfl⟩
    have hextends := hmakes.extends_root
    rw [← hmakes.rooted] at hextends
    rw [Ground.parent_workspaceAt, hmakes.stays, ← hmakes.here]
    exact Ground.locate_root hextends
  · exact hmakes.free_before
  · rw [hmakes.put, ← hmakes.rooted]
    exact Ground.contents_of_put hmakes.takes
  · exact hapart
  · intro l hl
    rcases hcases l with hkept | ⟨hnone, -, -, path, hasks, hway⟩
    · exact .inl ((hmakes.beside l hl).trans hkept)
    · rw [parent_of_acquire hgives hasks (hasked path hasks).normal, hmakes.stays, ← hmakes.here]
      exact .inr ⟨hnone, hway.extends hmakes.extends_root⟩
  · intro hroot l hl
    rw [hmakes.beside l hl, hmakes.root.eq_of_there hroot]
  · intro other hlive l hl
    have hbelow : ¬G.lot n <+: l := fun hstarts =>
      (List.prefix_or_prefix_of_prefix hl hstarts).elim (hapart other hlive).1
        (hapart other hlive).2
    rcases hcases l with hkept | ⟨-, -, hout, -⟩
    · exact (hmakes.beside l hbelow).trans hkept
    · exact absurd ⟨other, h.listed other hlive, hl⟩ hout

/-- **The account is right of a workspace that has been acquired**, and the
    workspace is new. -/
theorem acquired {root : Option Path} {after : Machine} (h : s.Invariant m)
    (hgives : (Workspace.acquire root).Gives s.machine ws after)
    (hlocate : after.files.locate after.here .itself ws.path.toText = .ok (.found place .directory))
    (hclear : (s.joined ws place after).HasClearRoot s.machine root ws) :
    (s.joined ws place after).Invariant m ∧ s.IsNew root ws place after := by
  obtain ⟨G, n, rfl, rfl, hmakes⟩ := h.exists_makes hgives hlocate
  have hearlier : ∀ path, (s.joined (G.workspaceAt n) (G.lot n) after).IsClear path →
      (s.moved G.machine).IsClear path := fun path hpath =>
    hpath.earlier hmakes.extends_root
      (fun l e hl => (hmakes.entry?_base h.nil_not_mem l).symm.trans hl)
      (hmakes.stays.trans hmakes.here.symm)
  have hasked := fun path hasks => hearlier path (hclear.asked path hasks)
  have hused := hearlier _ hclear.used
  rw [Ground.parent_workspaceAt] at hused
  -- first the root is made, then the workspace in it
  have hrooted := h.rooted hmakes.root hmakes.here hasked
  have hjoined : (s.joined (G.workspaceAt n) (G.lot n) after).Invariant m :=
    hrooted.joined rfl hmakes.rooted hmakes.takes hused hmakes.put
      (hmakes.stays.trans hmakes.here.symm)
  exact ⟨hjoined, h.isNew hgives hmakes hasked hjoined⟩

/-- **Every step keeps the account right.** -/
theorem step (h : s.Invariant m) (hstep : Step s t) : t.Invariant m := by
  cases hstep with
  | acquires hgives hlocate hclear => exact (h.acquired hgives hlocate hclear).1
  | @refuses root f after hfails hclear =>
      have hhere := (Workspace.acquire_grows root s.machine).2
      rw [show (Workspace.acquire root).perform s.machine = _ from hfails] at hhere
      exact h.rooted (rootMade_of_failsWith hfails) hhere hclear
  | releases strict hknown =>
      obtain ⟨after, hgives, hvacates, -⟩ := h.release hknown strict
      rw [show (Workspace.release _ strict).perform s.machine = _ from hgives]
      exact h.vacated (mem_places hknown) hvacates
  | writes hlive htree hhere hentry hbeside =>
      exact h.changed (h.listed _ hlive) htree hhere hbeside (fun _ _ => Iff.rfl)
        (.inl ⟨hlive, hentry⟩)
  | vanishes hlive hvacates => exact h.vacated (h.listed _ hlive) hvacates

/-- So the account of every session is right. -/
theorem of_reached (hm : m.IsSound) (h : IsReached m s) : s.Invariant m := by
  induction h with
  | refl => exact .begun hm
  | tail _ hstep ih => exact ih.step hstep

/-- **A root that was there when the session began is clear**, whatever has
    happened since. -/
theorem hasClearRoot_of_there {path : Path} {after : Machine} (h : s.Invariant m)
    (hgives : (Workspace.acquire (some path)).Gives s.machine ws after)
    (hlocate : after.files.locate after.here .itself ws.path.toText = .ok (.found place .directory))
    (hm : m.IsSound) (hpath : path.IsNormal) (husable : isUsable path.toText = true)
    (hthere : m.files.isDirectory m.here path.toText = true) :
    (s.joined ws place after).HasClearRoot s.machine (some path) ws := by
  obtain ⟨G, n, rfl, rfl, hmakes⟩ := h.exists_makes hgives hlocate
  have hclear : (s.joined (G.workspaceAt n) (G.lot n) after).IsClear path := by
    refine ⟨hpath, fun names l hnames hl => ?_⟩
    obtain ⟨place, hplace⟩ := exists_locate_of_isDirectory hthere
    obtain ⟨above, habove⟩ :=
      exists_locate_beginning hpath husable hm.settled hplace hnames
    have hhere : after.here = m.here := hmakes.stays.trans h.here
    have hbase : (s.joined (G.workspaceAt n) (G.lot n) after).base.Extends m.files :=
      (hmakes.extends_base h).trans h.kept
    have hstill := hbase.locate habove
    rw [← hhere] at hstill
    obtain ⟨rfl, -⟩ := Spot.found.inj (Except.ok.inj
      (((extends_base _).locate hstill).symm.trans hl))
    exact hstill
  have hasks : ∀ other, Asks (some path) s.machine other → other = path := by
    rintro other ⟨asked, hasked⟩
    exact (Option.some.inj (gives_pure.mp hasked).1).symm
  constructor
  · rintro other hother
    rw [hasks other hother]
    exact hclear
  · rw [parent_of_acquire hgives ⟨s.machine, rfl⟩ hpath]
    exact hclear

end Invariant

/-! ## Sessions -/

/-- What holds at every point of a session that began on a machine. -/
structure Law (m : Machine) (s : Session) : Prop where
  /-- The workspaces whose directories are there are the live ones, ... -/
  present : ∀ place, place ∈ s.live
    ↔ place ∈ s.places ∧ s.machine.files.entry? place = some .directory
  /-- ... and nothing is left of the others. -/
  absent : ∀ place ∈ s.places, place ∉ s.live → ∀ l, place <+: l →
    s.machine.files.entry? l = none
  /-- No workspace is inside another. -/
  apart : ∀ place ∈ s.places, ∀ other ∈ s.places, place <+: other → place = other
  /-- Beside the workspaces all is as it was when the session began, but
      for directories that have been made. -/
  outside : ∀ l, ¬IsUnder s.places l → s.machine.files.entry? l = m.files.entry? l
    ∨ m.files.entry? l = none ∧ s.machine.files.entry? l = some .directory
  /-- A workspace that can be made is acquired, and it is new if its root
      is clear. -/
  acquire : ∀ root, CanMake root s.machine → ∃ ws place after,
    (Workspace.acquire root).Gives s.machine ws after
      ∧ after.files.locate after.here .itself ws.path.toText = .ok (.found place .directory)
      ∧ ((s.joined ws place after).HasClearRoot s.machine root ws → s.IsNew root ws place after)
  /-- Releasing a workspace, strictly or not, removes it and nothing else,
      and changes no file if it is not live. -/
  release : ∀ ws place, (ws, place) ∈ s.known → ∀ strict, ∃ after,
    (Workspace.release ws strict).Gives s.machine () after ∧ Vacates place s.machine after
      ∧ (place ∉ s.live → after.files = s.machine.files)

/-- **The law of sessions**: however workspaces are acquired under clear
    roots, written into, removed and released, those that are there are
    those that are live, and acquiring and releasing do what they should. -/
theorem law_of_reached (hm : m.IsSound) (h : IsReached m s) : s.Law m := by
  have hs := Invariant.of_reached hm h
  constructor
  · intro place
    constructor
    · exact fun hlive => ⟨hs.listed place hlive, hs.stands place hlive⟩
    · rintro ⟨hplace, hentry⟩
      by_contra hdead
      exact nomatch (hs.gone place hplace hdead).symm.trans hentry
  · rintro place hplace hdead _ ⟨rest, rfl⟩
    exact hs.tree.entry?_append (hs.gone place hplace hdead) rest
  · exact hs.apart
  · exact hs.outside
  · intro root hmake
    obtain ⟨ws, after, hgives⟩ := hmake.exists_acquire
    obtain ⟨place, hlocate⟩ := exists_locate_of_acquire hs.isSound hgives
    exact ⟨ws, place, after, hgives, hlocate, fun hclear => (hs.acquired hgives hlocate hclear).2⟩
  · exact fun ws place hknown strict => hs.release hknown strict

end

/-! ## Two sessions -/

/-- A directory that is there from the start. -/
def homeRoot : Path := Path.ofString "/home"

/-- The workspaces that are made in it first and second. -/
def firstWorkspace : Workspace := ⟨Path.ofString "/home/hbc-build-7-aaaaaaaa"⟩

def firstPlace : Location := ["home", "hbc-build-7-aaaaaaaa"]

def secondWorkspace : Workspace := ⟨Path.ofString "/home/hbc-build-7-aaaaaaab"⟩

def secondPlace : Location := ["home", "hbc-build-7-aaaaaaab"]

/-- The machine with a home after one workspace has been acquired, and
    after another. -/
def firstMachine : Machine := ((Workspace.acquire (some homeRoot)).perform homeMachine).2

def secondMachine : Machine := ((Workspace.acquire (some homeRoot)).perform firstMachine).2

/-- The session in which both have been acquired and the first one has
    been released. -/
def homeSession : Session :=
  (((begun homeMachine).joined firstWorkspace firstPlace firstMachine).joined secondWorkspace
    secondPlace secondMachine).vacated firstPlace
    ((Workspace.release firstWorkspace true).perform secondMachine).2

theorem homeRoot_there : homeMachine.files.isDirectory homeMachine.here homeRoot.toText = true := by
  cbv

theorem isReached_homeSession : IsReached homeMachine homeSession := by
  have hm := ScopeTask.homeMachine_isSound
  have hnormal : homeRoot.IsNormal := Path.isNormal_ofText _
  have husable : isUsable homeRoot.toText = true := by decide
  have hfirst : (Workspace.acquire (some homeRoot)).Gives homeMachine firstWorkspace
      firstMachine := by
    refine Prod.ext ?_ rfl
    cbv
  have hfirstPlace : firstMachine.files.locate firstMachine.here .itself firstWorkspace.path.toText
      = .ok (.found firstPlace .directory) := by cbv
  have hsecond : (Workspace.acquire (some homeRoot)).Gives firstMachine secondWorkspace
      secondMachine := by
    refine Prod.ext ?_ rfl
    cbv
  have hsecondPlace : secondMachine.files.locate secondMachine.here .itself
      secondWorkspace.path.toText = .ok (.found secondPlace .directory) := by cbv
  have hbegun := Invariant.begun hm
  have hclear := hbegun.hasClearRoot_of_there hfirst hfirstPlace hm hnormal husable homeRoot_there
  have hjoined := (hbegun.acquired hfirst hfirstPlace hclear).1
  have hclearAgain := hjoined.hasClearRoot_of_there hsecond hsecondPlace hm hnormal husable
    homeRoot_there
  exact ((Relation.ReflTransGen.single (.acquires hfirst hfirstPlace hclear)).tail
    (.acquires hsecond hsecondPlace hclearAgain)).tail
    (.releases true (List.mem_cons_of_mem _ List.mem_cons_self))

/-- In that session the second workspace is there and the first is not,
    the first can be released again, and a third can be acquired. -/
theorem law_of_reached_homeSession :
    homeMachine.IsSound ∧ IsReached homeMachine homeSession
      ∧ homeSession.machine.files.entry? secondPlace = some .directory
      ∧ homeSession.machine.files.entry? firstPlace = none
      ∧ (∃ after, (Workspace.release firstWorkspace true).Gives homeSession.machine () after
        ∧ after.files = homeSession.machine.files)
      ∧ ∃ ws place after, (Workspace.acquire (some homeRoot)).Gives homeSession.machine ws after
        ∧ homeSession.IsNew (some homeRoot) ws place after := by
  have hm := ScopeTask.homeMachine_isSound
  have hreached := isReached_homeSession
  have hlaw := law_of_reached hm hreached
  have hknown : (firstWorkspace, firstPlace) ∈ homeSession.known :=
    List.mem_cons_of_mem _ List.mem_cons_self
  have hlive : secondPlace ∈ homeSession.live := by decide
  have hdead : firstPlace ∉ homeSession.live := by decide
  obtain ⟨after, hgives, -, hsame⟩ := hlaw.release firstWorkspace firstPlace hknown true
  have hmake : CanMake (some homeRoot) homeSession.machine := by
    refine ⟨some homeRoot, homeSession.machine, Text.ofString "/home/hbc-build-7-aaaaaaac",
      ((Workspace.create (some homeRoot)).perform homeSession.machine).2, rfl, Prod.ext ?_ rfl⟩
    cbv
  obtain ⟨ws, place, made, hacquire, hlocate, hnew⟩ := hlaw.acquire (some homeRoot) hmake
  have hclear := (Invariant.of_reached hm hreached).hasClearRoot_of_there hacquire hlocate hm
    (Path.isNormal_ofText _) (by decide) homeRoot_there
  exact ⟨hm, hreached, ((hlaw.present secondPlace).mp hlive).2,
    hlaw.absent firstPlace (mem_places hknown) hdead firstPlace List.prefix_rfl,
    ⟨after, hgives, hsame hdead⟩, ws, place, made, hacquire, hnew hclear⟩

/-- A path that leads through the first workspace and out of it again. -/
def detour : Path := Path.ofString "/home/hbc-build-7-aaaaaaaa/../b"

/-- The workspace that is made below it. -/
def detourWorkspace : Workspace :=
  ⟨Path.ofString "/home/hbc-build-7-aaaaaaaa/../b/hbc-build-7-aaaaaaab"⟩

def detourPlace : Location := ["home", "b", "hbc-build-7-aaaaaaab"]

/-- The machine after that workspace has been acquired, and after the
    first one has been released. -/
def detourMachine : Machine := ((Workspace.acquire (some detour)).perform firstMachine).2

def severedMachine : Machine := ((Workspace.release firstWorkspace true).perform detourMachine).2

/-- A workspace whose root is in no workspace, but is reached through one,
    is left behind when the other has been released: its path leads
    nowhere then. -/
theorem left_behind :
    (Workspace.acquire (some homeRoot)).Gives homeMachine firstWorkspace firstMachine
      ∧ firstMachine.files.locate firstMachine.here .itself firstWorkspace.path.toText
        = .ok (.found firstPlace .directory)
      ∧ (Workspace.acquire (some detour)).Gives firstMachine detourWorkspace detourMachine
      ∧ detourMachine.files.locate detourMachine.here .target detour.toText
        = .ok (.found ["home", "b"] .directory)
      ∧ ¬firstPlace <+: ["home", "b"]
      ∧ detourMachine.files.locate detourMachine.here .itself detourWorkspace.path.toText
        = .ok (.found detourPlace .directory)
      ∧ (Workspace.release firstWorkspace true).Gives detourMachine () severedMachine
      ∧ ∃ last, (Workspace.release detourWorkspace true).Gives severedMachine () last
        ∧ last.files.entry? detourPlace = some .directory := by
  refine ⟨Prod.ext ?_ rfl, ?_, Prod.ext ?_ rfl, ?_, ?_, ?_, Prod.ext ?_ rfl, _, Prod.ext ?_ rfl, ?_⟩
  · cbv
  · cbv
  · cbv
  · cbv
  · decide
  · cbv
  · cbv
  · cbv
  · cbv

end Session

end HermesBundle.Build
