import HermesBundle.Project.Root
import HermesBundle.Proofs.Looking

/-! # Root search — two markers along one way up

    The search for a project root goes up once and looks for two markers.
    A package file ends it; a version control directory is kept in mind,
    the first one only, until the root has been passed.  What comes of it
    is known from the markers alone (`Search.Finds`):

    * the nearest directory with a package file, whatever is below it;
    * or else the nearest one under version control;
    * or else a failure.

    A look that the system refuses, because a name has become too long,
    ends the search where it is.  The loop keeps account of what it has
    passed (`Search.exists_finds`); from that, a search that remembers
    nothing finds what it should and nothing else (`findRoot_finds_iff`).

    A path that is too long for the system keeps the search from going
    up at all (`too_deep`). -/

namespace HermesBundle

namespace Path

/-- Whether a path is another one, or one above it. -/
def IsAbove (p q : Path) : Prop := p.anchor = q.anchor ∧ p.parts <+: q.parts

variable {p q r : Path}

theorem IsAbove.refl (p : Path) : p.IsAbove p := ⟨rfl, List.prefix_rfl⟩

theorem IsAbove.antisymm (h : p.IsAbove q) (hq : q.IsAbove p) : p = q := by
  obtain ⟨anchor, parts⟩ := p
  obtain ⟨other, names⟩ := q
  obtain rfl : anchor = other := h.1
  obtain rfl : parts = names := h.2.eq_of_length (le_antisymm h.2.length_le hq.2.length_le)
  rfl

/-- Of two paths above a third one is above the other. -/
theorem IsAbove.total (h : p.IsAbove r) (hq : q.IsAbove r) : p.IsAbove q ∨ q.IsAbove p := by
  have hanchor := h.1.trans hq.1.symm
  rcases List.prefix_or_prefix_of_prefix h.2 hq.2 with hpq | hqp
  · exact .inl ⟨hanchor, hpq⟩
  · exact .inr ⟨hanchor.symm, hqp⟩

theorem isAbsolute_of_isAbove (h : p.IsAbove q) (hq : q.isAbsolute = true) :
    p.isAbsolute = true := by
  unfold isAbsolute at hq ⊢
  rw [h.1]
  exact hq

end Path

namespace Project

/-! ## Ways up -/

section WaysUp

variable {P : Path → Prop} {p d other : Path} {nearer farther : List Path}

theorem mem_ancestors : d ∈ ancestors p ↔ d.IsAbove p := by
  unfold ancestors
  constructor
  · intro h
    obtain ⟨n, -, rfl⟩ := List.mem_map.mp h
    exact ⟨rfl, List.take_prefix _ _⟩
  · intro h
    refine List.mem_map.mpr ⟨p.parts.length - d.parts.length, ?_, ?_⟩
    · rw [List.mem_range]
      omega
    · have hlength := h.2.length_le
      rw [Nat.sub_sub_self hlength, ← List.prefix_iff_eq_take.mp h.2, ← h.1]

/-- What is passed later is above what was passed before. -/
theorem pairwise_ancestors (p : Path) :
    (ancestors p).Pairwise fun near far => far.IsAbove near ∧ far ≠ near := by
  unfold ancestors
  rw [List.pairwise_map]
  refine (List.pairwise_lt_range (n := p.parts.length + 1)).imp_of_mem ?_
  intro near far hnear hfar hlt
  rw [List.mem_range] at hnear hfar
  have hshorter : p.parts.length - far ≤ p.parts.length - near := by omega
  refine ⟨⟨rfl, List.take_prefix_take_left hshorter⟩, fun heq => ?_⟩
  have hlength := congrArg (fun q : Path => q.parts.length) heq
  simp only [List.length_take] at hlength
  omega

/-- What has been passed before a path that is passed are the paths strictly
    below it. -/
theorem mem_nearer_iff (h : ancestors p = nearer ++ d :: farther) :
    other ∈ nearer ↔ other.IsAbove p ∧ d.IsAbove other ∧ other ≠ d := by
  have hpairs := pairwise_ancestors p
  rw [h, List.pairwise_append, List.pairwise_cons] at hpairs
  obtain ⟨-, ⟨hfarther, -⟩, hnearer⟩ := hpairs
  constructor
  · intro hother
    obtain ⟨habove, hne⟩ := hnearer other hother d List.mem_cons_self
    refine ⟨mem_ancestors.mp ?_, habove, hne.symm⟩
    rw [h]
    exact List.mem_append_left _ hother
  · rintro ⟨hother, hbelow, hne⟩
    rw [← mem_ancestors, h, List.mem_append, List.mem_cons] at hother
    rcases hother with hnear | rfl | hfar
    · exact hnear
    · exact absurd rfl hne
    · exact absurd (Path.IsAbove.antisymm (hfarther other hfar).1 hbelow) hne

/-- A path that is passed is above the one that a search begins at. -/
theorem isAbove_of_split (h : ancestors p = nearer ++ d :: farther) : d.IsAbove p := by
  rw [← mem_ancestors, h]
  exact List.mem_append_right _ List.mem_cons_self

/-- What is passed up to a path is that path and those strictly below it. -/
theorem mem_nearer_or_eq (h : ancestors p = nearer ++ d :: farther) (hother : other.IsAbove p)
    (hbelow : d.IsAbove other) : other ∈ nearer ∨ other = d := by
  by_cases hne : other = d
  · exact .inr hne
  · exact .inl ((mem_nearer_iff h).mpr ⟨hother, hbelow, hne⟩)

/-- Whether a directory is the nearest one, at a path or above it, that
    meets a condition. -/
structure IsNearest (P : Path → Prop) (p d : Path) : Prop where
  above : d.IsAbove p
  meets : P d
  nearest : ∀ other, other.IsAbove p → P other → other.IsAbove d

/-- **The first directory that meets a condition is the nearest one.** -/
theorem IsNearest.of_split (h : ancestors p = nearer ++ d :: farther) (hd : P d)
    (hnearer : ∀ other ∈ nearer, ¬P other) : IsNearest P p d := by
  have habove := isAbove_of_split h
  refine ⟨habove, hd, fun other hother hP => ?_⟩
  rcases habove.total hother with hbelow | hup
  · rcases mem_nearer_or_eq h hother hbelow with hnear | rfl
    · exact absurd hP (hnearer other hnear)
    · exact .refl other
  · exact hup

theorem IsNearest.unique (h : IsNearest P p d) (hother : IsNearest P p other) : d = other :=
  Path.IsAbove.antisymm (hother.nearest d h.above h.meets) (h.nearest other hother.above hother.meets)

/-- On one way up, one condition cannot be met before a second one is, and
    the second one before the first. -/
theorem IsNearest.elim {B : Path → Prop} (h : IsNearest P p d)
    (hgoes : ∀ below, below.IsAbove p → d.IsAbove below → ¬B below) (hother : IsNearest B p other)
    (hbefore : ∀ below, below.IsAbove p → other.IsAbove below → below ≠ other → ¬P below) :
    False := by
  rcases h.above.total hother.above with hbelow | habove
  · exact hgoes other hother.above hbelow hother.meets
  · by_cases hne : d = other
    · exact hgoes other hother.above (hne ▸ .refl _) hother.meets
    · exact hbefore d h.above habove hne h.meets

end WaysUp

open HermesBundle.Action FileSystem

/-! ## From a start to the search above it -/

/-- The path that a search starts at: one that is given, or the current
    directory. -/
def startPath : Option Path → Action Path
  | some path => pure path
  | none => do
      let here ← currentDirectory
      return absolute here

/-- The path that a search starts at, resolved. -/
def resolvedStart (start : Option Path) : Action Path := startPath start >>= resolve

/-- A search resolves its start and goes up from there. -/
theorem findRoot_eq (start : Option Path) :
    findRoot start = resolvedStart start >>= rootAbove := by
  cases start with
  | none =>
      unfold resolvedStart startPath
      simp only [bind_assoc, pure_bind]
      rfl
  | some path => rfl

variable {m m' : Machine} {start : Option Path} {p d other : Path}

/-- Finding out where to start is looking. -/
theorem looksAlike_resolvedStart (start : Option Path) (hfiles : m'.files = m.files)
    (hhere : m'.here = m.here) : LooksAlike (resolvedStart start) m m' := by
  refine .bind ?_ fun path => .resolve path hfiles hhere
  cases start with
  | none => exact .bind (.currentDirectory hhere) fun _ => .pure _
  | some path => exact .pure _

/-- A search starts at an absolute path. -/
theorem isAbsolute_of_resolvedStart {after : Machine} (h : (resolvedStart start).Gives m p after) :
    p.isAbsolute = true := by
  obtain ⟨path, _, -, h⟩ := gives_bind.mp h
  exact isAbsolute_of_resolve h

/-! ## What a search comes to -/

/-- Whether a marker is found in a directory. -/
def Contains (m : Machine) (marker : String) (d : Path) : Prop :=
  m.LeadsTo (fun _ => true) (d.childNamed marker)

/-- The failure of a search that has passed the root. -/
def rootless : Failure := .notFound "Unable to locate project root"

namespace Search

/-- Whether a search from a path, if it comes to a directory, looks for a
    version control directory there: the first one is enough. -/
structure LooksForControl (m : Machine) (p d : Path) : Prop where
  packageless : ¬Contains m packageFile d
  follows : ¬m.Refuses (d.childNamed packageFile)
  first : ∀ other, other.IsAbove p → d.IsAbove other → other ≠ d → ¬Contains m versionControl other

/-- Whether a search from a path, if it comes to a directory, looks for a
    marker there. -/
def LooksFor (m : Machine) (p d : Path) (marker : String) : Prop :=
  marker = packageFile ∨ marker = versionControl ∧ LooksForControl m p d

/-- Whether a search from a path, if it comes to a directory, is refused a
    look there. -/
def IsStopped (m : Machine) (p d : Path) : Prop :=
  ∃ marker, LooksFor m p d marker ∧ m.Refuses (d.childNamed marker)

/-- Whether a search from a path gets up to a directory and is refused a
    look for a marker there. -/
structure EndsAt (m : Machine) (p d : Path) (marker : String) : Prop where
  nearest : IsNearest (IsStopped m p) p d
  packageless : ∀ other, other.IsAbove p → d.IsAbove other → other ≠ d →
    ¬Contains m packageFile other
  looks : LooksFor m p d marker
  refused : m.Refuses (d.childNamed marker)

/-- What a search upwards from a path finds. -/
inductive Finds (m : Machine) (p : Path) : Except Failure Path → Prop
  /-- The nearest directory with a package file. -/
  | package {d : Path} : IsNearest (Contains m packageFile) p d →
      (∀ other, other.IsAbove p → d.IsAbove other → ¬IsStopped m p other) → Finds m p (.ok d)
  /-- Without any, the nearest one under version control. -/
  | control {d : Path} : (∀ other, other.IsAbove p → ¬Contains m packageFile other) →
      IsNearest (Contains m versionControl) p d →
      (∀ other, other.IsAbove p → ¬IsStopped m p other) → Finds m p (.ok d)
  /-- There is neither. -/
  | nothing : (∀ other, other.IsAbove p → ¬Contains m packageFile other) →
      (∀ other, other.IsAbove p → ¬Contains m versionControl other) →
      (∀ other, other.IsAbove p → ¬IsStopped m p other) → Finds m p (.error rootless)
  /-- A look is refused before a package file has been found. -/
  | refused {d : Path} {marker : String} : EndsAt m p d marker →
      Finds m p (.error (refusal (d.childNamed marker)))

/-! ### One finding -/

/-- What is looked for in a directory is looked for one after the other, so
    one look only is refused. -/
theorem LooksFor.unique {marker marker' : String} (h : LooksFor m p d marker)
    (hrefused : m.Refuses (d.childNamed marker)) (h' : LooksFor m p d marker')
    (hrefused' : m.Refuses (d.childNamed marker')) : marker = marker' := by
  rcases h with rfl | ⟨rfl, hcontrol⟩
  · rcases h' with rfl | ⟨rfl, hcontrol'⟩
    · rfl
    · exact absurd hrefused hcontrol'.follows
  · rcases h' with rfl | ⟨rfl, -⟩
    · exact absurd hrefused' hcontrol.follows
    · rfl

/-- A search is refused a look once. -/
theorem EndsAt.unique {marker marker' : String} (h : EndsAt m p d marker)
    (h' : EndsAt m p other marker') : d = other ∧ marker = marker' := by
  obtain rfl := h.nearest.unique h'.nearest
  exact ⟨rfl, h.looks.unique h.refused h'.looks h'.refused⟩

/-- **A search finds one thing.** -/
theorem Finds.unique {found found' : Except Failure Path} (h : Finds m p found)
    (h' : Finds m p found') : found = found' := by
  cases h with
  | package hnearest hgoes =>
      cases h' with
      | package hnearest' _ => rw [hnearest.unique hnearest']
      | control hnone _ _ => exact absurd hnearest.meets (hnone _ hnearest.above)
      | nothing hnone _ _ => exact absurd hnearest.meets (hnone _ hnearest.above)
      | refused hends => exact (hnearest.elim hgoes hends.nearest hends.packageless).elim
  | control hnone hnearest hgoes =>
      cases h' with
      | package hnearest' _ => exact absurd hnearest'.meets (hnone _ hnearest'.above)
      | control _ hnearest' _ => rw [hnearest.unique hnearest']
      | nothing _ huncontrolled _ => exact absurd hnearest.meets (huncontrolled _ hnearest.above)
      | refused hends => exact absurd hends.nearest.meets (hgoes _ hends.nearest.above)
  | nothing hnone huncontrolled hgoes =>
      cases h' with
      | package hnearest' _ => exact absurd hnearest'.meets (hnone _ hnearest'.above)
      | control _ hnearest' _ =>
          exact absurd hnearest'.meets (huncontrolled _ hnearest'.above)
      | nothing _ _ _ => rfl
      | refused hends => exact absurd hends.nearest.meets (hgoes _ hends.nearest.above)
  | refused hends =>
      cases h' with
      | package hnearest' hgoes => exact (hnearest'.elim hgoes hends.nearest hends.packageless).elim
      | control _ _ hgoes => exact absurd hends.nearest.meets (hgoes _ hends.nearest.above)
      | nothing _ _ hgoes => exact absurd hends.nearest.meets (hgoes _ hends.nearest.above)
      | refused hends' =>
          obtain ⟨rfl, rfl⟩ := hends.unique hends'
          rfl

/-! ### The loop -/

/-- Whether a search from a path has passed some directories, with the
    nearest version control directory in mind. -/
structure HasPassed (m : Machine) (p : Path) (nearer : List Path) (control : Option Path) :
    Prop where
  packageless : ∀ other ∈ nearer, ¬Contains m packageFile other
  unstopped : ∀ other ∈ nearer, ¬IsStopped m p other
  inMind : ∀ d, control = some d → d ∈ nearer ∧ IsNearest (Contains m versionControl) p d
  uncontrolled : control = none → ∀ other ∈ nearer, ¬Contains m versionControl other

variable {nearer farther : List Path} {control : Option Path}

/-- A directory whose looks are not refused does not stop a search. -/
theorem not_isStopped (hpackage : ¬m.Refuses (d.childNamed packageFile))
    (hcontrol : LooksForControl m p d → ¬m.Refuses (d.childNamed versionControl)) :
    ¬IsStopped m p d := by
  rintro ⟨marker, rfl | ⟨rfl, hlooks⟩, hrefused⟩
  · exact hpackage hrefused
  · exact hcontrol hlooks hrefused

/-- With a version control directory in mind no other one is looked for. -/
theorem HasPassed.not_looksForControl (h : HasPassed m p nearer (some other))
    (hsplit : ancestors p = nearer ++ d :: farther) : ¬LooksForControl m p d := by
  obtain ⟨hmem, hnearest⟩ := h.inMind other rfl
  obtain ⟨-, hbelow, hne⟩ := (mem_nearer_iff hsplit).mp hmem
  exact fun hlooks => hlooks.first other hnearest.above hbelow hne hnearest.meets

/-- Without one in mind the next directory is searched for one. -/
theorem HasPassed.looksForControl (h : HasPassed m p nearer none)
    (hsplit : ancestors p = nearer ++ d :: farther) (hpackage : ¬Contains m packageFile d)
    (hfollows : ¬m.Refuses (d.childNamed packageFile)) : LooksForControl m p d where
  packageless := hpackage
  follows := hfollows
  first other hother hbelow hne :=
    h.uncontrolled rfl other ((mem_nearer_iff hsplit).mpr ⟨hother, hbelow, hne⟩)

/-- A refused look ends the search where it has come to. -/
theorem HasPassed.endsAt {marker : String} (h : HasPassed m p nearer control)
    (hsplit : ancestors p = nearer ++ d :: farther) (hlooks : LooksFor m p d marker)
    (hrefused : m.Refuses (d.childNamed marker)) : EndsAt m p d marker where
  nearest := .of_split hsplit ⟨marker, hlooks, hrefused⟩ h.unstopped
  packageless other hother hbelow hne :=
    h.packageless other ((mem_nearer_iff hsplit).mpr ⟨hother, hbelow, hne⟩)
  looks := hlooks
  refused := hrefused

/-- A package file ends the search, too. -/
theorem HasPassed.finds_package (h : HasPassed m p nearer control)
    (hsplit : ancestors p = nearer ++ d :: farther) (hpackage : Contains m packageFile d) :
    Finds m p (.ok d) := by
  refine .package (.of_split hsplit hpackage h.packageless) fun other hother hbelow => ?_
  rcases mem_nearer_or_eq hsplit hother hbelow with hnear | rfl
  · exact h.unstopped other hnear
  · exact not_isStopped hpackage.not_refuses fun hlooks => absurd hpackage hlooks.packageless

/-- A directory with no marker but one that is in mind is passed. -/
theorem HasPassed.concat (h : HasPassed m p nearer control)
    (hpackage : ¬Contains m packageFile d) (hgoes : ¬IsStopped m p d)
    (hcontrol : control = none → ¬Contains m versionControl d) :
    HasPassed m p (nearer ++ [d]) control where
  packageless := List.forall_mem_append.mpr ⟨h.packageless, List.forall_mem_singleton.mpr hpackage⟩
  unstopped := List.forall_mem_append.mpr ⟨h.unstopped, List.forall_mem_singleton.mpr hgoes⟩
  inMind kept hkept := ⟨List.mem_append_left _ (h.inMind kept hkept).1, (h.inMind kept hkept).2⟩
  uncontrolled hnone := List.forall_mem_append.mpr
    ⟨h.uncontrolled hnone, List.forall_mem_singleton.mpr (hcontrol hnone)⟩

/-- The first directory under version control is passed and kept in mind. -/
theorem HasPassed.concat_control (h : HasPassed m p nearer none)
    (hsplit : ancestors p = nearer ++ d :: farther) (hpackage : ¬Contains m packageFile d)
    (hgoes : ¬IsStopped m p d) (hcontrol : Contains m versionControl d) :
    HasPassed m p (nearer ++ [d]) (some d) where
  packageless := List.forall_mem_append.mpr ⟨h.packageless, List.forall_mem_singleton.mpr hpackage⟩
  unstopped := List.forall_mem_append.mpr ⟨h.unstopped, List.forall_mem_singleton.mpr hgoes⟩
  inMind kept hkept := by
    obtain rfl := Option.some.inj hkept
    exact ⟨List.mem_append_right _ List.mem_cons_self,
      .of_split hsplit hcontrol (h.uncontrolled rfl)⟩
  uncontrolled hnone := nomatch hnone

/-- The end of a search that has passed the root. -/
def ended : Option Path → Except Failure Path
  | some d => .ok d
  | none => .error rootless

/-- A search that has passed the root ends with what it has in mind. -/
theorem HasPassed.finds_ended (h : HasPassed m p (ancestors p) control) :
    Finds m p (ended control) := by
  have hnone : ∀ other, other.IsAbove p → ¬Contains m packageFile other := fun other hother =>
    h.packageless other (mem_ancestors.mpr hother)
  have hgoes : ∀ other, other.IsAbove p → ¬IsStopped m p other := fun other hother =>
    h.unstopped other (mem_ancestors.mpr hother)
  cases control with
  | some kept => exact .control hnone (h.inMind kept rfl).2 hgoes
  | none =>
      exact .nothing hnone (fun other hother => h.uncontrolled rfl other (mem_ancestors.mpr hother))
        hgoes

/-- **The loop finds what a search finds.** -/
theorem exists_finds {dirs : List Path} (hsplit : ancestors p = nearer ++ dirs)
    (hpassed : HasPassed m p nearer control) :
    ∃ found, (searchRoot control dirs).perform m = (found, m) ∧ Finds m p (found >>= ended) := by
  -- on what is still ahead; `HasPassed` is what holds of what is behind
  induction dirs generalizing nearer control with
  | nil =>
      rw [List.append_nil] at hsplit
      exact ⟨.ok control, rfl, (hsplit ▸ hpassed).finds_ended⟩
  | cons d rest ih =>
      have hnext : ancestors p = (nearer ++ [d]) ++ rest := by
        rw [List.append_assoc]
        exact hsplit
      unfold searchRoot holds Action.pathExists
      rcases leadsTo_cases (fun _ => true) (d.childNamed packageFile) m with
        ⟨hpackage, hlook⟩ | ⟨hrefused, hlook⟩ | ⟨hpackage, hfollows, hlook⟩
      · exact ⟨_, perform_bind_of_gives hlook _, hpassed.finds_package hsplit hpackage⟩
      · exact ⟨_, perform_bind_of_failsWith hlook _,
          .refused (hpassed.endsAt hsplit (.inl rfl) hrefused)⟩
      · rw [perform_bind_of_gives hlook]
        cases control with
        | some kept =>
            have hgoes : ¬IsStopped m p d :=
              not_isStopped hfollows fun hlooks => absurd hlooks (hpassed.not_looksForControl hsplit)
            exact ih hnext (hpassed.concat hpackage hgoes fun hnone => nomatch hnone)
        | none =>
            have hlooks := hpassed.looksForControl hsplit hpackage hfollows
            rcases leadsTo_cases (fun _ => true) (d.childNamed versionControl) m with
              ⟨hcontrol, hends⟩ | ⟨hrefused, hends⟩ | ⟨hcontrol, hplain, hends⟩
            · have hgoes : ¬IsStopped m p d := not_isStopped hfollows fun _ => hcontrol.not_refuses
              obtain ⟨found, hfound, hfinds⟩ :=
                ih hnext (hpassed.concat_control hsplit hpackage hgoes hcontrol)
              exact ⟨found, (perform_bind_of_gives hends _).trans hfound, hfinds⟩
            · exact ⟨_, perform_bind_of_failsWith hends _,
                .refused (hpassed.endsAt hsplit (.inr ⟨rfl, hlooks⟩) hrefused)⟩
            · have hgoes : ¬IsStopped m p d := not_isStopped hfollows fun _ => hplain
              obtain ⟨found, hfound, hfinds⟩ :=
                ih hnext (hpassed.concat hpackage hgoes fun _ => hcontrol)
              exact ⟨found, (perform_bind_of_gives hends _).trans hfound, hfinds⟩

end Search

/-! ## The search and what is remembered -/

/-- What a search upwards from a path comes to on a machine. -/
def walked (m : Machine) (p : Path) : Except Failure Path :=
  ((searchRoot none (ancestors p)).perform m).1 >>= Search.ended

/-- Walking up finds what a search finds, and changes nothing. -/
theorem finds_walked (m : Machine) (p : Path) :
    ((searchRoot none (ancestors p)).perform m).2 = m ∧ Search.Finds m p (walked m p) := by
  have hbegun : Search.HasPassed m p [] none :=
    ⟨fun _ h => (nomatch h), fun _ h => (nomatch h), fun _ h => (nomatch h), fun _ _ h => nomatch h⟩
  obtain ⟨found, hperform, hfinds⟩ := Search.exists_finds (List.nil_append _).symm hbegun
  unfold walked
  rw [hperform]
  exact ⟨rfl, hfinds⟩

/-- Walking up is looking. -/
theorem looksAlike_searchRoot {dirs : List Path} (control : Option Path)
    (hdirs : ∀ d ∈ dirs, d.isAbsolute = true) (hfiles : m'.files = m.files) :
    LooksAlike (searchRoot control dirs) m m' := by
  induction dirs generalizing control with
  | nil => exact .pure _
  | cons d rest ih =>
      obtain ⟨hd, hrest⟩ := List.forall_mem_cons.mp hdirs
      have hholds : ∀ marker, LooksAlike (holds d marker) m m' := fun marker =>
        .leadsTo _ hfiles (.inr (Path.isAbsolute_child hd _))
      refine .bind (hholds packageFile) fun found => ?_
      split
      · exact .pure _
      · split
        · exact ih control hrest
        · refine .bind (hholds versionControl) fun controlled => ?_
          split
          · exact ih _ hrest
          · exact ih _ hrest

/-- Where a walk gets from an absolute path is a matter of the files. -/
theorem walked_congr (hp : p.isAbsolute = true) (hfiles : m'.files = m.files) :
    walked m' p = walked m p := by
  have hdirs : ∀ d ∈ ancestors p, d.isAbsolute = true := fun d hd =>
    Path.isAbsolute_of_isAbove (mem_ancestors.mp hd) hp
  unfold walked
  rw [(looksAlike_searchRoot none hdirs hfiles).same]

/-- A root that is remembered is the answer, and is marked as used. -/
theorem rootAbove_of_remembered {root : Path} (h : m.roots.lookup p = some root) :
    (rootAbove p).Gives m root { m with roots := touch m.roots p root } := by
  unfold Gives rootAbove
  rw [perform_bind, perform_get]
  dsimp only
  rw [h]
  rfl

/-- The machine after a search that has come to something. -/
def afterSearch (m : Machine) (p : Path) : Except Failure Path → Machine
  | .ok root => { m with roots := remember m.roots p root }
  | .error _ => m

/-- A root that is not remembered is searched for, and remembered if there
    is one. -/
theorem rootAbove_of_new (h : m.roots.lookup p = none) :
    (rootAbove p).perform m = (walked m p, afterSearch m p (walked m p)) := by
  have hsearch : (searchRoot none (ancestors p)).perform m
      = (((searchRoot none (ancestors p)).perform m).1, m) := Prod.ext rfl (finds_walked m p).1
  unfold rootAbove walked
  rw [perform_bind, perform_get]
  dsimp only
  rw [h]
  dsimp only
  rw [perform_bind, hsearch]
  cases ((searchRoot none (ancestors p)).perform m).1 with
  | error f => rfl
  | ok found => cases found <;> rfl

/-- A search that remembers the root above its start finds that. -/
theorem findRoot_of_remembered {root : Path} (hstart : (resolvedStart start).Gives m p m)
    (h : m.roots.lookup p = some root) :
    (findRoot start).Gives m root { m with roots := touch m.roots p root } := by
  unfold Gives
  rw [findRoot_eq, perform_bind_of_gives hstart]
  exact rootAbove_of_remembered h

/-- A search that remembers nothing of its start walks up from there. -/
theorem findRoot_of_new (hstart : (resolvedStart start).Gives m p m)
    (hnew : m.roots.lookup p = none) :
    (findRoot start).perform m = (walked m p, afterSearch m p (walked m p)) := by
  rw [findRoot_eq, perform_bind_of_gives hstart, rootAbove_of_new hnew]

/-- What a search is refused at its start ends it. -/
theorem findRoot_of_refused (hstart : (resolvedStart start).Gives m p m)
    (hnew : m.roots.lookup p = none) (hrefused : m.Refuses (p.childNamed packageFile)) :
    (findRoot start).FailsWith m (refusal (p.childNamed packageFile)) m := by
  have hstopped : IsNearest (Search.IsStopped m p) p p :=
    ⟨.refl p, ⟨packageFile, .inl rfl, hrefused⟩, fun _ hother _ => hother⟩
  have hends : Search.EndsAt m p p packageFile :=
    ⟨hstopped, fun other hother hbelow hne => absurd (hother.antisymm hbelow) hne, .inl rfl,
      hrefused⟩
  have hwalked := (finds_walked m p).2.unique (.refused hends)
  unfold FailsWith
  rw [findRoot_of_new hstart hnew, hwalked]
  rfl

/-- **A search that remembers nothing of its start finds what it should**:
    the nearest directory with a package file, or else the nearest one
    under version control, or else that there is no root, unless it is
    refused a look before. -/
theorem findRoot_finds_iff {outcome : Except Failure Path}
    (hstart : (resolvedStart start).Gives m p m) (hnew : m.roots.lookup p = none) :
    ((findRoot start).perform m).1 = outcome ↔ Search.Finds m p outcome := by
  have hfinds := (finds_walked m p).2
  rw [findRoot_of_new hstart hnew]
  constructor
  · rintro rfl
    exact hfinds
  · exact fun houtcome => hfinds.unique houtcome

/-! ## Examples -/

/-- A machine with some entries on which nothing is remembered, as it is
    seen from a directory. -/
def machineAt (entries : List (Location × Entry)) (here : Location) : Machine where
  files := .ofEntries entries
  here := here
  environment := []
  platform := "linux"
  processId := 100
  temporary := none
  roots := []
  tickets := 0
  clock := 0
  log := []

/-- A repository inside a package. -/
def nestedMachine : Machine :=
  machineAt
    [(["home"], .directory), (["home", "package.json"], .file [] false),
      (["home", "lib"], .directory), (["home", "lib", ".git"], .directory)]
    ["home", "lib"]

/-- The package counts, though the repository is nearer. -/
theorem findRoot_finds_nested :
    (resolvedStart none).Gives nestedMachine (Path.ofString "/home/lib") nestedMachine
      ∧ nestedMachine.roots.lookup (Path.ofString "/home/lib") = none
      ∧ Search.Finds nestedMachine (Path.ofString "/home/lib") (.ok (Path.ofString "/home")) := by
  have hstart : (resolvedStart none).Gives nestedMachine (Path.ofString "/home/lib")
      nestedMachine := by cbv
  refine ⟨hstart, rfl, (findRoot_finds_iff hstart rfl).mp ?_⟩
  cbv

/-- A name that no entry can have. -/
def longName : Text := List.replicate 256 'a'

/-- A path below the repository that no entry can have. -/
def deepPath : Path := ⟨.root, ["home", "lib", longName]⟩

set_option maxRecDepth 20000 in
/-- **A search can be refused its first look**, and then it does not find
    the package above. -/
theorem too_deep :
    (resolvedStart (some ⟨.here, [longName]⟩)).Gives nestedMachine deepPath nestedMachine
      ∧ nestedMachine.roots.lookup deepPath = none
      ∧ (Path.ofString "/home").IsAbove deepPath
      ∧ Contains nestedMachine packageFile (Path.ofString "/home")
      ∧ ((findRoot (some ⟨.here, [longName]⟩)).perform nestedMachine).1
        = .error (refusal (deepPath.childNamed packageFile)) := by
  have hstart : (resolvedStart (some ⟨.here, [longName]⟩)).Gives nestedMachine deepPath
      nestedMachine := by cbv
  have hrefused : nestedMachine.Refuses (deepPath.childNamed packageFile) := ⟨by cbv, by cbv⟩
  have hpackage : Contains nestedMachine packageFile (Path.ofString "/home") :=
    ⟨by cbv, .file [] false, by cbv, rfl⟩
  exact ⟨hstart, rfl, ⟨rfl, by decide⟩, hpackage,
    congrArg Prod.fst (findRoot_of_refused hstart rfl hrefused)⟩

end Project

end HermesBundle
