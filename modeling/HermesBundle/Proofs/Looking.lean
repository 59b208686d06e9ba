import HermesBundle.Proofs.Storage.Names
import HermesBundle.Proofs.Storage.Paths

/-! # Looking — actions that see and change nothing

    To look is to leave a machine as it is.  What is seen is a matter of
    the files, and of the current directory if the path looked at is
    relative (`LooksAlike`): two machines that have these in common look
    alike, whatever they remember.

    To look for an entry has three ends (`leadsTo_cases`): it is there, it
    is not, or the system refuses to follow the path because the path or a
    name on the way is too long (`Machine.Refuses`).

    To resolve a path is to look, too.  It goes along the names of the path
    and of the links on it.  All of them are components, so what is reached
    is made of components (`isNormal_resolveNames`), double dots among them
    if the path was relative.  In the end these are taken back by the names
    alone, from the current directory on (`exists_base_of_resolve`).  So
    what a path resolves to is settled: absolute, made of components, and
    without double dots (`isSettled_of_resolve`). -/

namespace HermesBundle

open HermesBundle.Action FileSystem

namespace Machine

/-- Whether a path leads to an entry of some kind, links followed. -/
def LeadsTo (m : Machine) (kind : Entry → Bool) (path : Path) : Prop :=
  isUsable path.toText = true
    ∧ ∃ e, m.files.status? m.here path.toText = .ok e ∧ kind e = true

/-- Whether the system refuses to follow a path: the path, a name on the
    way or the target of a link is too long. -/
def Refuses (m : Machine) (path : Path) : Prop :=
  isUsable path.toText = true ∧ m.files.status? m.here path.toText = .error .nameTooLong

/-- What a path leads to is not refused. -/
theorem LeadsTo.not_refuses {m : Machine} {kind : Entry → Bool} {path : Path}
    (h : m.LeadsTo kind path) : ¬m.Refuses path := by
  obtain ⟨-, e, he, -⟩ := h
  exact fun hrefuses => nomatch he.symm.trans hrefuses.2

end Machine

namespace Action

/-- The failure of a look that the system refuses. -/
def refusal (path : Path) : Failure := .system (.about .nameTooLong path.toText)

/-- **How a look for an entry ends.** -/
theorem leadsTo_cases (kind : Entry → Bool) (path : Path) (m : Machine) :
    (m.LeadsTo kind path ∧ (leadsTo kind path).Gives m true m)
      ∨ (m.Refuses path ∧ (leadsTo kind path).FailsWith m (refusal path) m)
      ∨ ¬m.LeadsTo kind path ∧ ¬m.Refuses path ∧ (leadsTo kind path).Gives m false m := by
  unfold Machine.LeadsTo Machine.Refuses Gives FailsWith leadsTo
  cases husable : isUsable path.toText with
  | false => exact .inr (.inr ⟨fun h => (nomatch h.1), fun h => (nomatch h.1), rfl⟩)
  | true =>
      simp only [Bool.not_true, Bool.false_eq_true, if_false, perform_bind, perform_get]
      cases hstatus : m.files.status? m.here path.toText with
      | ok e =>
          cases hkind : kind e with
          | true => exact .inl ⟨⟨trivial, e, rfl, hkind⟩, by simp [hkind]⟩
          | false =>
              refine .inr (.inr ⟨?_, fun h => (nomatch h.2), by simp [hkind]⟩)
              rintro ⟨-, e', heq, hkind'⟩
              obtain rfl := Except.ok.inj heq
              exact nomatch hkind.symm.trans hkind'
      | error errno =>
          by_cases hlong : errno = .nameTooLong
          · subst hlong
            exact .inr (.inl ⟨⟨trivial, rfl⟩, rfl⟩)
          · refine .inr (.inr ⟨?_, fun h => hlong (Except.error.inj h.2), ?_⟩)
            · rintro ⟨-, e', heq, -⟩
              exact nomatch heq
            · cases errno with
              | nameTooLong => exact absurd rfl hlong
              | _ => rfl

/-! ## Machines that look alike -/

variable {α β : Type} {m m' : Machine}

/-- Whether an action only looks at two machines, and sees the same. -/
structure LooksAlike (x : Action α) (m m' : Machine) : Prop where
  keeps : (x.perform m).2 = m
  keeps_other : (x.perform m').2 = m'
  same : (x.perform m').1 = (x.perform m).1

theorem LooksAlike.pure (a : α) : LooksAlike (Pure.pure a : Action α) m m' := ⟨rfl, rfl, rfl⟩

theorem LooksAlike.throw (f : Failure) : LooksAlike (throwThe Failure f : Action α) m m' :=
  ⟨rfl, rfl, rfl⟩

/-- A look ends on the machine that it began on. -/
theorem LooksAlike.perform_eq {x : Action α} (h : LooksAlike x m m') :
    x.perform m = ((x.perform m).1, m) := Prod.ext rfl h.keeps

/-- What a look gives on one machine, it gives on the other. -/
theorem LooksAlike.gives {x : Action α} {after : Machine} {a : α} (h : LooksAlike x m m')
    (hgives : x.Gives m a after) : x.Gives m' a m' := by
  have houtcome : (x.perform m).1 = .ok a := congrArg Prod.fst hgives
  exact Prod.ext (h.same.trans houtcome) h.keeps_other

theorem LooksAlike.bind {x : Action α} {f : α → Action β} (hx : LooksAlike x m m')
    (hf : ∀ a, LooksAlike (f a) m m') : LooksAlike (x >>= f) m m' := by
  have hother : x.perform m' = ((x.perform m).1, m') := Prod.ext hx.same hx.keeps_other
  have hone := hx.perform_eq
  cases houtcome : (x.perform m).1 with
  | ok a =>
      rw [houtcome] at hone hother
      constructor
      · rw [perform_bind_of_gives hone]
        exact (hf a).keeps
      · rw [perform_bind_of_gives hother]
        exact (hf a).keeps_other
      · rw [perform_bind_of_gives hone, perform_bind_of_gives hother]
        exact (hf a).same
  | error e =>
      rw [houtcome] at hone hother
      constructor
      · rw [perform_bind_of_failsWith hone]
      · rw [perform_bind_of_failsWith hother]
      · rw [perform_bind_of_failsWith hone, perform_bind_of_failsWith hother]

/-- Two machines look alike to an action that goes on in the same way from
    what it takes of them. -/
theorem LooksAlike.get_bind {f : Machine → Action β} (hf : LooksAlike (f m) m m')
    (hsame : f m' = f m) : LooksAlike (get >>= f) m m' := by
  have hother : (get >>= f).perform m' = (f m).perform m' := by
    rw [perform_bind, perform_get]
    exact congrArg (fun x : Action β => x.perform m') hsame
  have hone : (get >>= f).perform m = (f m).perform m := by
    rw [perform_bind, perform_get]
  constructor
  · rw [hone]
    exact hf.keeps
  · rw [hother]
    exact hf.keeps_other
  · rw [hone, hother]
    exact hf.same

theorem LooksAlike.checkName (path : Text) : LooksAlike (checkName path) m m' := by
  unfold Action.checkName
  split
  · exact .throw _
  · split
    · exact .throw _
    · exact .pure _

theorem LooksAlike.leadsTo (kind : Entry → Bool) {path : Path} (hfiles : m'.files = m.files)
    (hhere : m'.here = m.here ∨ path.isAbsolute = true) :
    LooksAlike (leadsTo kind path) m m' := by
  have hstatus : m'.files.status? m'.here path.toText = m.files.status? m.here path.toText := by
    unfold status?
    rw [hfiles]
    rcases hhere with hhere | habsolute
    · rw [hhere]
    · rw [locate_of_isAbsolute habsolute m.files m'.here m.here]
  unfold Action.leadsTo
  split
  · exact .pure _
  · refine .get_bind ?_ ?_
    · split
      · exact .pure _
      · exact .throw _
      · exact .pure _
    · rw [hstatus]

theorem LooksAlike.currentDirectory (hhere : m'.here = m.here) :
    LooksAlike currentDirectory m m' := by
  refine .get_bind ?_ ?_
  · split
    · exact .throw _
    · exact .pure _
  · rw [hhere]

/-! ## Resolving -/

/-- Checks the name that has ended a resolution, if one has. -/
def checkEnding : Ending → Action Unit
  | .unusable name => checkName name
  | _ => pure ()

/-- Where a path starts from that has been followed: nowhere if it is
    absolute, else in the current directory. -/
def baseOf (followed : Path) : Action Location :=
  if followed.isAbsolute then pure [] else currentDirectory

/-- The absolute form of a path that has been followed, unless a link on it
    leads back to itself. -/
def settledFrom (m : Machine) (followed : Path) (base : Location) : Action Path := do
  let resolved := absoluteForm base followed
  checkName resolved.toText
  if m.files.isLoop m.here resolved then
    throw (.notFound (Text.ofString "Symlink loop from " ++ resolved.toText.quoted))
  else return resolved

/-- A path is resolved in three steps. -/
theorem resolve_eq (path : Path) :
    resolve path = (do
      let m ← get
      checkEnding (m.files.resolution m.here path).ending
      let base ← baseOf (m.files.resolution m.here path).path
      settledFrom m (m.files.resolution m.here path).path base) := by
  unfold resolve
  congr 1
  funext m
  have hbase : ∀ next : Location → Action Path,
      (if (m.files.resolution m.here path).path.isAbsolute then do let base ← pure []; next base
        else do let base ← currentDirectory; next base)
        = baseOf (m.files.resolution m.here path).path >>= next := by
    intro next
    unfold baseOf
    split <;> rfl
  dsimp only
  simp only [hbase]
  cases (m.files.resolution m.here path).ending <;> rfl

/-- **Resolving a path is looking.** -/
theorem LooksAlike.resolve (path : Path) (hfiles : m'.files = m.files)
    (hhere : m'.here = m.here) : LooksAlike (resolve path) m m' := by
  rw [resolve_eq]
  refine .get_bind (.bind ?_ fun _ => .bind ?_ fun base => .bind (.checkName _) fun _ => ?_) ?_
  · unfold checkEnding
    split
    · exact .checkName _
    · exact .pure _
  · unfold baseOf
    split
    · exact .pure _
    · exact .currentDirectory hhere
  · split
    · exact .throw _
    · exact .pure _
  · unfold settledFrom
    rw [hfiles, hhere]

end Action

/-! ## What paths resolve to -/

/-- Whether a path is such as paths resolve to. -/
structure Path.IsSettled (p : Path) : Prop where
  absolute : p.isAbsolute = true
  normal : p.IsNormal
  climbless : dotDot ∉ p.parts

/-- Whether the directory that a machine stands in, if it has not been
    removed, has names that entries can have. -/
def Machine.StandsPlainly (m : Machine) : Prop :=
  isLost m.here = false → ∀ name ∈ m.here, IsComponent name

theorem isComponent_dotDot : IsComponent dotDot := by
  constructor
  · decide
  · decide
  · decide

namespace FileSystem

/-! ## Along the names -/

theorem isNormal_above {p : Path} (h : p.IsNormal) : (above p).IsNormal := by
  have hclimbed : Path.IsNormal ⟨p.anchor, p.parts ++ [dotDot]⟩ := by
    intro name hname
    rcases List.mem_append.mp hname with hold | hnew
    · exact h name hold
    · exact List.mem_singleton.mp hnew ▸ isComponent_dotDot
  unfold above
  split
  · rename_i hnone
    obtain hnil := List.getLast?_eq_none_iff.mp hnone
    rw [hnil] at hclimbed
    split
    · exact h
    · exact hclimbed
  · split
    · exact hclimbed
    · exact fun name hname => h name (List.mem_of_mem_dropLast hname)

theorem isNormal_continued {p : Path} (h : p.IsNormal) (names : List Text) :
    (continued p names).IsNormal := by
  have hcontinuation := Path.isNormal_ofText (Text.join [slash] names)
  unfold continued Path.child Path.join
  split
  · exact hcontinuation
  · intro name hname
    exact (List.mem_append.mp hname).elim (h name) (hcontinuation name)

theorem isNormal_concat {p : Path} {name : Text} (hp : p.IsNormal)
    (hcounts : ¬(name.isEmpty || decide (name = dot)) = true) (hwhole : slash ∉ name) :
    Path.IsNormal ⟨p.anchor, p.parts ++ [name]⟩ := by
  rw [Bool.or_eq_true, not_or, List.isEmpty_iff, decide_eq_true_eq] at hcounts
  intro other hother
  rcases List.mem_append.mp hother with hold | hnew
  · exact hp other hold
  · exact List.mem_singleton.mp hnew ▸ ⟨hcounts.1, hcounts.2, hwhole⟩

/-- The target of a link starts at the root or where the link stands. -/
theorem isNormal_linkTarget {p : Path} (hp : p.IsNormal) (target : Text) :
    Path.IsNormal (if target.head? == some slash then ⟨.root, []⟩ else p) := by
  split
  · exact fun _ hname => nomatch hname
  · exact hp

/-- Whether the links that have been met lead to paths made of
    components. -/
def AreNormal (visited : Visited) : Prop :=
  ∀ link known, (link, some known) ∈ visited → known.IsNormal

theorem AreNormal.nil : AreNormal [] := fun _ _ hmem => nomatch hmem

theorem AreNormal.cons {visited : Visited} {link : Path} {known : Option Path}
    (h : AreNormal visited) (hknown : ∀ p, known = some p → p.IsNormal) :
    AreNormal ((link, known) :: visited) := by
  intro other p hmem
  rcases List.mem_cons.mp hmem with heq | hold
  · exact hknown p (Prod.mk.inj heq).2.symm
  · exact h other p hold

/-- A link that has just been met does not lead anywhere yet. -/
theorem AreNormal.meets {visited : Visited} (h : AreNormal visited) (link : Path) :
    AreNormal ((link, none) :: visited) :=
  h.cons fun p heq => absurd heq (Option.some_ne_none p).symm

/-- A link that has been followed leads to what its target has come to. -/
theorem AreNormal.knows {visited : Visited} {known : Path} (h : AreNormal visited) (link : Path)
    (hknown : known.IsNormal) : AreNormal ((link, some known) :: visited) :=
  h.cons fun _ heq => Option.some.inj heq ▸ hknown

theorem AreNormal.of_lookup {visited : Visited} {link known : Path} (h : AreNormal visited)
    (hlookup : visited.lookup link = some (some known)) : known.IsNormal := by
  obtain ⟨before, after, rfl, -⟩ := List.lookup_eq_some_iff.mp hlookup
  exact h link known (List.mem_append_right _ List.mem_cons_self)

/-- **What is reached along names is made of components**, and so is what
    the links on the way lead to. -/
theorem isNormal_resolveNames (fs : FileSystem) (here : Location) (links : Nat)
    (visited : Visited) (p : Path) (names : List Text) (hvisited : AreNormal visited)
    (hp : p.IsNormal) (hnames : ∀ name ∈ names, slash ∉ name) :
    (fs.resolveNames here links visited p names).path.IsNormal
      ∧ AreNormal (fs.resolveNames here links visited p names).visited := by
  -- links inside links come first, then the names that follow
  induction links using Nat.strong_induction_on generalizing visited p names with
  | _ links inside =>
    induction names generalizing visited p with
    | nil =>
        rw [resolveNames]
        exact ⟨hp, hvisited⟩
    | cons name rest ih =>
        obtain ⟨hname, hrest⟩ := List.forall_mem_cons.mp hnames
        rw [resolveNames]
        split
        · exact ih visited p hvisited hp hrest
        · rename_i hcounts
          split
          · exact ih visited _ hvisited (isNormal_above hp) hrest
          · split
            · exact ⟨hp, hvisited⟩
            · have hnext := isNormal_concat hp hcounts hname
              dsimp only
              split
              · rename_i target hlink
                split
                · rename_i known hknown
                  exact ih visited known hvisited (hvisited.of_lookup hknown) hrest
                · exact ⟨isNormal_continued hnext rest, hvisited⟩
                · split
                  · exact ⟨isNormal_continued hnext rest, hvisited⟩
                  · rename_i links
                    obtain ⟨hpath, hmet⟩ := inside links (Nat.lt_succ_self links) _ _
                      (target.splitOn slash) (hvisited.meets _) (isNormal_linkTarget hp target)
                      fun _ => Text.not_mem_of_mem_splitOn
                    split
                    · exact inside links (Nat.lt_succ_self links) _ _ rest
                        (hmet.knows _ hpath) hpath hrest
                    · exact ⟨isNormal_continued hpath rest, hmet⟩
              · exact ih visited _ hvisited hnext hrest

/-- What a path comes to, before it is made absolute, is made of
    components. -/
theorem isNormal_resolution {path : Path} (h : path.IsNormal) (fs : FileSystem)
    (here : Location) : (fs.resolution here path).path.IsNormal := by
  refine (isNormal_resolveNames fs here _ _ _ _ .nil ?_ fun name hname => (h name hname).whole).1
  split
  · exact fun _ hname => nomatch hname
  · exact fun _ hname => nomatch hname

/-! ## Back from double dots -/

theorem mem_collapse {names : List Text} {name : Text} (h : name ∈ collapse names) :
    name ∈ names ∧ name ≠ dotDot := by
  induction names using List.reverseRecOn with
  | nil => exact nomatch h
  | append_singleton before last ih =>
      have hstep : collapse (before ++ [last])
          = if last = dotDot then (collapse before).dropLast else collapse before ++ [last] := by
        unfold collapse
        rw [List.foldl_append]
        rfl
      rw [hstep] at h
      split at h
      · obtain ⟨hbefore, hplain⟩ := ih (List.mem_of_mem_dropLast h)
        exact ⟨List.mem_append_left _ hbefore, hplain⟩
      · rename_i hlast
        rcases List.mem_append.mp h with hbefore | hname
        · obtain ⟨hbefore, hplain⟩ := ih hbefore
          exact ⟨List.mem_append_left _ hbefore, hplain⟩
        · obtain rfl := List.mem_singleton.mp hname
          exact ⟨List.mem_append_right _ hname, hlast⟩

theorem isAbsolute_absoluteForm (here : Location) (p : Path) :
    (absoluteForm here p).isAbsolute = true := by
  unfold absoluteForm
  cases h : p.isAbsolute with
  | true => exact h
  | false => rfl

/-- The absolute form of a path made of components is settled, if the
    directory that it is seen from has plain names. -/
theorem isSettled_absoluteForm {base : Location} {p : Path} (hp : p.IsNormal)
    (hbase : ∀ name ∈ base, IsComponent name) : (absoluteForm base p).IsSettled := by
  have hnames : ∀ name ∈ (if p.isAbsolute then [] else base) ++ p.parts, IsComponent name := by
    intro name hname
    rcases List.mem_append.mp hname with hbefore | hpart
    · split at hbefore
      · exact nomatch hbefore
      · exact hbase name hbefore
    · exact hp name hpart
  constructor
  · exact isAbsolute_absoluteForm ..
  · exact fun name hname => hnames name (mem_collapse hname).1
  · exact fun hmem => (mem_collapse hmem).2 rfl

end FileSystem

namespace Action

variable {m after : Machine} {path p : Path}

theorem base_of_baseOf {base : Location} (h : (baseOf path).Gives m base after) :
    after = m ∧ (base = [] ∨ isLost m.here = false ∧ base = m.here) := by
  unfold baseOf at h
  split at h
  · obtain ⟨rfl, rfl⟩ := gives_pure.mp h
    exact ⟨rfl, .inl rfl⟩
  · have h := gives_get_bind.mp h
    split at h
    · exact nomatch h
    · rename_i hkept
      obtain ⟨rfl, rfl⟩ := gives_pure.mp h
      exact ⟨rfl, .inr ⟨Bool.not_eq_true _ ▸ hkept, rfl⟩⟩

/-- **What resolving a path comes to**: the absolute form of what its names
    lead to, seen from the current directory unless that is absolute
    already. -/
theorem exists_base_of_resolve (h : (resolve path).Gives m p after) :
    ∃ base, p = absoluteForm base (m.files.resolution m.here path).path
      ∧ (base = [] ∨ isLost m.here = false ∧ base = m.here) ∧ isUsable p.toText = true := by
  rw [resolve_eq] at h
  obtain ⟨_, middle, hending, h⟩ := gives_bind.mp (gives_get_bind.mp h)
  obtain ⟨base, last, hbase, h⟩ := gives_bind.mp h
  obtain ⟨_, _, hname, h⟩ := gives_bind.mp h
  have hmiddle : middle = m := by
    unfold checkEnding at hending
    split at hending
    · exact (checkName_gives_iff.mp hending).2.symm
    · exact (gives_pure.mp hending).2.symm
  subst hmiddle
  split at h
  · exact nomatch h
  · obtain ⟨rfl, -⟩ := gives_pure.mp h
    exact ⟨base, rfl, (base_of_baseOf hbase).2, (checkName_gives_iff.mp hname).1⟩

/-- A resolved path is absolute. -/
theorem isAbsolute_of_resolve (h : (resolve path).Gives m p after) : p.isAbsolute = true := by
  obtain ⟨base, rfl, -⟩ := exists_base_of_resolve h
  exact isAbsolute_absoluteForm ..

/-- **A resolved path is settled.** -/
theorem isSettled_of_resolve (h : (resolve path).Gives m p after) (hpath : path.IsNormal)
    (hhere : m.StandsPlainly) : p.IsSettled := by
  obtain ⟨base, rfl, hbase, -⟩ := exists_base_of_resolve h
  refine isSettled_absoluteForm (isNormal_resolution hpath _ _) fun name hname => ?_
  rcases hbase with rfl | ⟨hkept, rfl⟩
  · exact nomatch hname
  · exact hhere hkept name hname

end Action

end HermesBundle
