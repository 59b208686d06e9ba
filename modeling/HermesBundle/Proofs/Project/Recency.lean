import HermesBundle.Proofs.Project.RootSearch

/-! # Recency — which roots are remembered after a run of searches

    Searches for project roots are made one after the other, while the
    files change as they like.  Every search that finds a root, be it in
    what is remembered or among the files, makes its start the latest one.
    So what is remembered is a matter of the past searches alone:

    * all roots ever found, ordered by their latest use, are a list in
      which every start stands once (`byRecency`), and what is remembered
      are the first of them (`take_touch`);
    * a start is in that list behind those that have been used since its
      own latest use (`byRecency_of_split`), so it is remembered as long as
      these are few (`lookup_byRecency_iff`);
    * the step of a search keeps this (`Tracks.asked`), and so does a run
      (`Tracks.of_reached`).

    A search therefore has the remembered root or walks up
    (`recency_of_reached`), and as long as the files stay the same it comes
    to the same either way.  Else it may be outdated
    (`recency_of_reached_outdated`). -/

namespace HermesBundle

namespace Project

open HermesBundle.Action FileSystem

/-! ## Lists of remembered roots -/

section Cache

variable {cache : RootCache} {p q root : Path}

/-- The starts that roots are remembered under. -/
def starts (cache : RootCache) : List Path := cache.map Prod.fst

/-- A use moves a start to the front. -/
theorem touch_eq (cache : RootCache) (p root : Path) :
    touch cache p root = (p, root) :: cache.filter fun entry => entry.1 != p := rfl

theorem starts_touch (cache : RootCache) (p root : Path) :
    starts (touch cache p root) = p :: (starts cache).filter (· != p) := by
  unfold starts
  rw [touch_eq, List.map_cons, List.filter_map]
  rfl

/-- A start stands once among the starts after it has been used. -/
theorem nodup_touch (h : (starts cache).Nodup) (p root : Path) :
    (starts (touch cache p root)).Nodup := by
  rw [starts_touch, List.nodup_cons]
  exact ⟨fun hmem => by simpa using (List.mem_filter.mp hmem).2, h.filter _⟩

theorem lookup_eq_none_iff : cache.lookup p = none ↔ p ∉ starts cache := by
  unfold starts
  rw [List.lookup_eq_none_iff, List.mem_map]
  constructor
  · rintro hnone ⟨entry, hentry, rfl⟩
    simpa using hnone entry hentry
  · exact fun hnot entry hentry => bne_iff_ne.mpr fun heq => hnot ⟨entry, hentry, heq.symm⟩

/-- All entries but that of a start are all, or all but one. -/
theorem length_filter_starts (h : (starts cache).Nodup) (p : Path) :
    (cache.filter fun entry => entry.1 != p).length
      = if p ∈ starts cache then cache.length - 1 else cache.length := by
  have hlength : (cache.filter fun entry => entry.1 != p).length
      = ((starts cache).filter (· != p)).length := by
    unfold starts
    rw [List.filter_map, List.length_map]
    rfl
  rw [hlength, ← h.erase_eq_filter, List.length_erase]
  unfold starts
  rw [List.length_map]

/-- **What is forgotten does not come back**: the first entries after a use
    are those that the first entries before it become. -/
theorem take_touch (h : (starts cache).Nodup) {n : Nat} (hn : 0 < n) (p root : Path) :
    (touch (cache.take n) p root).take n = (touch cache p root).take n := by
  obtain ⟨n, rfl⟩ := Nat.exists_eq_add_one.mpr hn
  have htaken : (starts (cache.take (n + 1))).Nodup := by
    unfold starts
    rw [List.map_take]
    exact h.sublist (List.take_sublist _ _)
  have hlength := length_filter_starts htaken p
  rw [touch_eq, touch_eq, List.take_succ_cons, List.take_succ_cons]
  congr 1
  conv_rhs => rw [← List.take_append_drop (n + 1) cache, List.filter_append, List.take_append]
  -- one entry at most leaves the first ones, for the one that comes to the front
  by_cases hshort : cache.length ≤ n + 1
  · rw [List.drop_of_length_le hshort]
    simp
  · have hlong : n ≤ ((cache.take (n + 1)).filter fun entry => entry.1 != p).length := by
      rw [hlength, List.length_take]
      split <;> omega
    rw [Nat.sub_eq_zero_of_le hlong, List.take_zero, List.append_nil]

/-- Using a start that is remembered forgets none. -/
theorem length_touch_of_mem (h : (starts cache).Nodup) (hmem : p ∈ starts cache) :
    (touch cache p root).length = cache.length := by
  have hpos : 0 < cache.length := by
    unfold starts at hmem
    exact List.length_pos_of_mem (List.mem_map.mp hmem).choose_spec.1
  rw [touch_eq, List.length_cons, length_filter_starts h, if_pos hmem]
  omega

end Cache

/-! ## The past searches -/

/-- A search that has been made: the path it started at, the files that it
    saw and the root it found, if it found one. -/
structure Call where
  path : Path
  files : FileSystem
  root : Option Path

/-- The starts of the searches that have found a root. -/
def succeeded (calls : List Call) : List Path :=
  calls.filterMap fun c => c.root.map fun _ => c.path

/-- All roots that have been found, the one used last first. -/
def byRecency : List Call → RootCache
  | [] => []
  | c :: older =>
      match c.root with
      | some root => touch (byRecency older) c.path root
      | none => byRecency older

section Past

variable {calls newer older : List Call} {p root : Path} {call : Call}

theorem byRecency_cons_of_some {files : FileSystem} :
    byRecency (⟨p, files, some root⟩ :: older) = touch (byRecency older) p root := rfl

theorem nodup_byRecency (calls : List Call) : (starts (byRecency calls)).Nodup := by
  induction calls with
  | nil => exact List.nodup_nil
  | cons c older ih =>
      unfold byRecency
      split
      · exact nodup_touch ih _ _
      · exact ih

theorem succeeded_cons_of_some {files : FileSystem} :
    succeeded (⟨p, files, some root⟩ :: older) = p :: succeeded older := rfl

/-- Roots are found by the searches that have succeeded. -/
theorem mem_starts_byRecency : p ∈ starts (byRecency calls) ↔ p ∈ succeeded calls := by
  induction calls with
  | nil => exact Iff.rfl
  | cons c older ih =>
      obtain ⟨path, files, root⟩ := c
      cases root with
      | none => exact ih
      | some root =>
          rw [byRecency_cons_of_some, starts_touch, succeeded_cons_of_some, List.mem_cons,
            List.mem_cons, List.mem_filter, ih, bne_iff_ne]
          tauto

/-- **Before a start stand those that have been used since.** -/
theorem byRecency_of_split (older : List Call) (hroot : call.root = some root)
    (hnewer : call.path ∉ succeeded newer) :
    ∃ front back, byRecency (newer ++ call :: older) = front ++ (call.path, root) :: back
      ∧ call.path ∉ starts front ∧ (starts front).toFinset = (succeeded newer).toFinset := by
  induction newer with
  | nil =>
      refine ⟨[], (byRecency older).filter fun entry => entry.1 != call.path, ?_,
        List.not_mem_nil, rfl⟩
      obtain ⟨path, files, found⟩ := call
      obtain rfl : found = some root := hroot
      rfl
  | cons c newer ih =>
      obtain ⟨path, files, found⟩ := c
      cases found with
      | none => exact ih hnewer
      | some other =>
          rw [succeeded_cons_of_some, List.mem_cons, not_or] at hnewer
          obtain ⟨hne, hnewer⟩ := hnewer
          obtain ⟨front, back, hsplit, hnot, hfront⟩ := ih hnewer
          refine ⟨touch front path other, back.filter fun entry => entry.1 != path, ?_, ?_, ?_⟩
          · show touch (byRecency (newer ++ call :: older)) path other = _
            rw [hsplit, touch_eq, touch_eq, List.filter_append]
            simp [hne]
          · rw [starts_touch, List.mem_cons, List.mem_filter, not_or]
            exact ⟨hne, fun hmem => hnot hmem.1⟩
          · rw [starts_touch, succeeded_cons_of_some, List.toFinset_cons, List.toFinset_cons,
              ← hfront]
            ext start
            simp only [Finset.mem_insert, List.mem_toFinset, List.mem_filter, bne_iff_ne]
            tauto

/-- So a start is among the first ones as long as those are few. -/
theorem lookup_byRecency_of_split (hroot : call.root = some root)
    (hnewer : call.path ∉ succeeded newer) (n : Nat) :
    ((byRecency (newer ++ call :: older)).take n).lookup call.path
      = if (succeeded newer).toFinset.card < n then some root else none := by
  obtain ⟨front, back, hsplit, hnot, hfront⟩ :=
    byRecency_of_split older hroot hnewer
  have hnodup : (starts front).Nodup := by
    have hall := nodup_byRecency (newer ++ call :: older)
    rw [hsplit] at hall
    unfold starts at hall ⊢
    rw [List.map_append] at hall
    exact hall.of_append_left
  have hcard : (succeeded newer).toFinset.card = front.length := by
    rw [← hfront, List.toFinset_card_of_nodup hnodup]
    exact List.length_map ..
  rw [hsplit, hcard]
  split
  · rename_i hfew
    rw [List.take_append, List.take_of_length_le hfew.le]
    obtain ⟨k, hk⟩ := Nat.exists_eq_add_one.mpr (Nat.sub_pos_of_lt hfew)
    rw [hk, List.take_succ_cons, List.lookup_append, lookup_eq_none_iff.mpr hnot]
    exact List.lookup_cons_self
  · rename_i hmany
    rw [List.take_append_of_le_length (Nat.le_of_not_lt hmany), lookup_eq_none_iff]
    unfold starts at hnot ⊢
    rw [List.map_take]
    exact fun hmem => hnot (List.mem_of_mem_take hmem)

/-- A start that has been used has been used a last time. -/
theorem exists_last (h : p ∈ succeeded calls) :
    ∃ newer call older root, calls = newer ++ call :: older ∧ call.path = p
      ∧ call.root = some root ∧ p ∉ succeeded newer := by
  induction calls with
  | nil => exact nomatch h
  | cons c older ih =>
      obtain ⟨path, files, found⟩ := c
      cases found with
      | none =>
          obtain ⟨newer, call, rest, root, rfl, hpath, hroot, hnot⟩ := ih h
          exact ⟨⟨path, files, none⟩ :: newer, call, rest, root, rfl, hpath, hroot, hnot⟩
      | some found =>
          by_cases hsame : p = path
          · exact ⟨[], ⟨path, files, some found⟩, older, found, rfl, hsame.symm, rfl,
              List.not_mem_nil⟩
          · have hold : p ∈ succeeded older := (List.mem_cons.mp h).resolve_left hsame
            obtain ⟨newer, call, rest, root, rfl, hpath, hroot, hnot⟩ := ih hold
            refine ⟨⟨path, files, some found⟩ :: newer, call, rest, root, rfl, hpath, hroot, ?_⟩
            rw [succeeded_cons_of_some, List.mem_cons, not_or]
            exact ⟨hsame, hnot⟩

/-- Whether past searches are such that a root is remembered: the last one
    from the start that succeeded found it, and those that succeeded since
    have not had too many starts. -/
def Remembers (calls : List Call) (p root : Path) : Prop :=
  ∃ newer call older, calls = newer ++ call :: older ∧ call.path = p ∧ call.root = some root
    ∧ p ∉ succeeded newer ∧ (succeeded newer).toFinset.card < cacheSize

/-- **What is remembered.** -/
theorem lookup_byRecency_iff :
    ((byRecency calls).take cacheSize).lookup p = some root ↔ Remembers calls p root := by
  constructor
  · intro hlookup
    have hmem : p ∈ succeeded calls := by
      by_contra hnot
      rw [← mem_starts_byRecency] at hnot
      have hnone : ((byRecency calls).take cacheSize).lookup p = none := by
        rw [lookup_eq_none_iff]
        unfold starts at hnot ⊢
        rw [List.map_take]
        exact fun hmem => hnot (List.mem_of_mem_take hmem)
      exact nomatch hnone.symm.trans hlookup
    obtain ⟨newer, call, older, found, rfl, rfl, hroot, hnot⟩ := exists_last hmem
    rw [lookup_byRecency_of_split hroot hnot] at hlookup
    split at hlookup
    · rename_i hfew
      obtain rfl := Option.some.inj hlookup
      exact ⟨newer, call, older, rfl, rfl, hroot, hnot, hfew⟩
    · exact nomatch hlookup
  · rintro ⟨newer, call, older, rfl, rfl, hroot, hnot, hfew⟩
    rw [lookup_byRecency_of_split hroot hnot, if_pos hfew]

end Past

/-! ## Runs of searches -/

/-- A run of searches: the machine as it has become and the searches from
    starts that resolve, the last one first. -/
structure Inquiry where
  machine : Machine
  calls : List Call

/-- What can happen next in a run. -/
inductive Step (s : Inquiry) : Inquiry → Prop
  /-- A search is made. -/
  | asks {start : Option Path} {p : Path} {outcome : Except Failure Path} {after : Machine} :
      (resolvedStart start).Gives s.machine p s.machine →
      (findRoot start).perform s.machine = (outcome, after) →
      Step s ⟨after, ⟨p, s.machine.files, outcome.toOption⟩ :: s.calls⟩
  /-- A search is made from a start that does not resolve. -/
  | strays {start : Option Path} {f : Failure} {outcome : Except Failure Path}
      {after : Machine} : (resolvedStart start).FailsWith s.machine f s.machine →
      (findRoot start).perform s.machine = (outcome, after) → Step s ⟨after, s.calls⟩
  /-- The machine changes, but not what it remembers. -/
  | changes {after : Machine} : after.roots = s.machine.roots → Step s ⟨after, s.calls⟩

/-- Whether a run that has begun on a machine gets somewhere. -/
def IsReached (m : Machine) (s : Inquiry) : Prop := Relation.ReflTransGen Step ⟨m, []⟩ s

/-- Whether a root was found by walking in one of the searches from its
    start. -/
def WasWalkedTo (calls : List Call) (p root : Path) : Prop :=
  ∃ c ∈ calls, c.path = p ∧ ∀ m : Machine, m.files = c.files → walked m p = .ok root

/-- Whether a machine remembers what the past searches make it remember,
    and these have found what was there. -/
structure Tracks (s : Inquiry) : Prop where
  roots : s.machine.roots = (byRecency s.calls).take cacheSize
  found : ∀ c ∈ s.calls, ∀ root, c.root = some root → WasWalkedTo s.calls c.path root

section Run

variable {m : Machine} {s t : Inquiry} {start : Option Path} {p root : Path}

theorem Remembers.exists_mem {calls : List Call} (h : Remembers calls p root) :
    ∃ c ∈ calls, c.path = p ∧ c.root = some root := by
  obtain ⟨newer, call, older, rfl, hpath, hroot, -⟩ := h
  exact ⟨call, List.mem_append_right _ List.mem_cons_self, hpath, hroot⟩

/-- What is looked up is what is remembered. -/
theorem Tracks.lookup_iff (h : Tracks s) :
    s.machine.roots.lookup p = some root ↔ Remembers s.calls p root := by
  rw [h.roots]
  exact lookup_byRecency_iff

/-- What is remembered was found. -/
theorem Tracks.wasWalkedTo (h : Tracks s) (hkept : Remembers s.calls p root) :
    WasWalkedTo s.calls p root := by
  obtain ⟨c, hc, rfl, hroot⟩ := hkept.exists_mem
  exact h.found c hc root hroot

theorem WasWalkedTo.cons {calls : List Call} (h : WasWalkedTo calls p root) (c : Call) :
    WasWalkedTo (c :: calls) p root := by
  obtain ⟨first, hfirst, hpath⟩ := h
  exact ⟨first, List.mem_cons_of_mem c hfirst, hpath⟩

/-- One more search whose root was found keeps that all were. -/
theorem Tracks.found_cons (h : Tracks s) {c : Call}
    (hc : ∀ root, c.root = some root → WasWalkedTo (c :: s.calls) c.path root) :
    ∀ other ∈ c :: s.calls, ∀ root, other.root = some root →
      WasWalkedTo (c :: s.calls) other.path root := by
  intro other hother root hroot
  rcases List.mem_cons.mp hother with rfl | hold
  · exact hc root hroot
  · exact (h.found other hold root hroot).cons c

/-- A search that remembers its root uses it. -/
theorem Tracks.asked_of_remembered (h : Tracks s) (hkept : Remembers s.calls p root) :
    Tracks ⟨{ s.machine with roots := touch s.machine.roots p root },
      ⟨p, s.machine.files, some root⟩ :: s.calls⟩ := by
  have hnodup := nodup_byRecency s.calls
  have hmem : p ∈ starts s.machine.roots := by
    by_contra hnot
    exact nomatch (lookup_eq_none_iff.mpr hnot).symm.trans (h.lookup_iff.mpr hkept)
  have hkeeps : (starts s.machine.roots).Nodup := by
    rw [h.roots]
    unfold starts
    rw [List.map_take]
    exact hnodup.sublist (List.take_sublist _ _)
  have hshort : (touch s.machine.roots p root).length ≤ cacheSize := by
    rw [length_touch_of_mem hkeeps hmem, h.roots]
    exact List.length_take_le _ _
  constructor
  · show touch s.machine.roots p root = (touch (byRecency s.calls) p root).take cacheSize
    rw [← take_touch hnodup (by decide), ← h.roots, List.take_of_length_le hshort]
  · exact h.found_cons fun other hother =>
      Option.some.inj hother ▸ (h.wasWalkedTo hkept).cons _

/-- A search that walks up remembers what it has found. -/
theorem Tracks.asked_of_walked (h : Tracks s) (hp : p.isAbsolute = true) :
    Tracks ⟨afterSearch s.machine p (walked s.machine p),
      ⟨p, s.machine.files, (walked s.machine p).toOption⟩ :: s.calls⟩ := by
  cases hwalked : walked s.machine p with
  | error f => exact ⟨h.roots, h.found_cons fun root hroot => nomatch hroot⟩
  | ok root =>
      constructor
      · show remember s.machine.roots p root = (touch (byRecency s.calls) p root).take cacheSize
        unfold remember
        rw [h.roots, take_touch (nodup_byRecency s.calls) (by decide)]
      · refine h.found_cons fun other hother => ?_
        obtain rfl := Option.some.inj hother
        exact ⟨_, List.mem_cons_self, rfl, fun m hfiles => (walked_congr hp hfiles).trans hwalked⟩

/-- **A search keeps account of what is remembered.** -/
theorem Tracks.asked {outcome : Except Failure Path} {after : Machine} (h : Tracks s)
    (hstart : (resolvedStart start).Gives s.machine p s.machine)
    (hperform : (findRoot start).perform s.machine = (outcome, after)) :
    Tracks ⟨after, ⟨p, s.machine.files, outcome.toOption⟩ :: s.calls⟩ := by
  cases hlookup : s.machine.roots.lookup p with
  | some root =>
      rw [findRoot_of_remembered hstart hlookup] at hperform
      obtain ⟨rfl, rfl⟩ := Prod.mk.inj hperform
      exact h.asked_of_remembered (h.lookup_iff.mp hlookup)
  | none =>
      rw [findRoot_of_new hstart hlookup] at hperform
      obtain ⟨rfl, rfl⟩ := Prod.mk.inj hperform
      exact h.asked_of_walked (isAbsolute_of_resolvedStart hstart)

/-- A search whose start does not resolve fails as that does. -/
theorem findRoot_of_stray {f : Failure} (h : (resolvedStart start).FailsWith m f m) :
    (findRoot start).FailsWith m f m := by
  rw [findRoot_eq]
  exact failsWith_bind.mpr (.inl h)

theorem Tracks.step (h : Tracks s) (hstep : Step s t) : Tracks t := by
  cases hstep with
  | asks hstart hperform => exact h.asked hstart hperform
  | strays hstart hperform =>
      obtain ⟨-, rfl⟩ := Prod.mk.inj (hperform.symm.trans (findRoot_of_stray hstart))
      exact h
  | changes hroots => exact ⟨hroots.trans h.roots, h.found⟩

/-- **What is remembered is a matter of the past searches.** -/
theorem Tracks.of_reached (hnew : m.roots = []) (h : IsReached m s) : Tracks s := by
  induction h with
  | refl => exact ⟨hnew, fun _ hmem => nomatch hmem⟩
  | tail _ hstep ih => exact ih.step hstep

/-- What a search comes to on a machine that remembers nothing. -/
def uncached (m : Machine) (start : Option Path) : Except Failure Path :=
  ((findRoot start).perform { m with roots := [] }).1

/-- That is what walking up comes to. -/
theorem uncached_eq (hstart : (resolvedStart start).Gives m p m) :
    uncached m start = walked m p := by
  have hlook : LooksAlike (resolvedStart start) m { m with roots := [] } :=
    looksAlike_resolvedStart start rfl rfl
  unfold uncached
  rw [findRoot_of_new (hlook.gives hstart) rfl]
  exact walked_congr (isAbsolute_of_resolvedStart hstart) rfl

/-- What is said of a search from a start that resolves to a path, after
    some searches have been made. -/
structure IsByRecency (s : Inquiry) (start : Option Path) (p : Path) : Prop where
  /-- What the machine remembers is a matter of the past searches. -/
  kept_iff : ∀ root, s.machine.roots.lookup p = some root ↔ Remembers s.calls p root
  /-- What is remembered is the answer. -/
  remembered : ∀ root, Remembers s.calls p root →
    ((findRoot start).perform s.machine).1 = .ok root
  /-- If nothing is, the files are searched. -/
  searched : (∀ root, ¬Remembers s.calls p root) →
    ((findRoot start).perform s.machine).1 = uncached s.machine start
  /-- As long as the files are those that all searches from there have
      seen, it makes no difference. -/
  steady : (∀ c ∈ s.calls, c.path = p → c.files = s.machine.files) →
    ((findRoot start).perform s.machine).1 = uncached s.machine start

/-- A search that fails leaves the machine as it was. -/
theorem machine_of_findRoot_failsWith {f : Failure} {after : Machine}
    (h : (findRoot start).FailsWith m f after) : after = m := by
  have hlook : LooksAlike (resolvedStart start) m m := looksAlike_resolvedStart start rfl rfl
  have hstart := hlook.perform_eq
  cases houtcome : ((resolvedStart start).perform m).1 with
  | error g =>
      rw [houtcome] at hstart
      exact (Prod.mk.inj (h.symm.trans (findRoot_of_stray hstart))).2
  | ok p =>
      rw [houtcome] at hstart
      cases hlookup : m.roots.lookup p with
      | some root => exact nomatch h.symm.trans (findRoot_of_remembered hstart hlookup)
      | none =>
          obtain ⟨hwalked, rfl⟩ := Prod.mk.inj (h.symm.trans (findRoot_of_new hstart hlookup))
          rw [← hwalked]
          rfl

/-- **A search has the remembered root or walks up**, after any run of
    searches and changes that began with nothing remembered, and leaves
    what is remembered as it is if it fails. -/
theorem recency_of_reached (hnew : m.roots = []) (h : IsReached m s) :
    (∀ p, (resolvedStart start).Gives s.machine p s.machine → IsByRecency s start p)
      ∧ ∀ f after, (findRoot start).FailsWith s.machine f after → after = s.machine := by
  have htracks := Tracks.of_reached hnew h
  refine ⟨fun p hstart => ?_, fun f after hfails => machine_of_findRoot_failsWith hfails⟩
  have hremembered : ∀ root, Remembers s.calls p root →
      ((findRoot start).perform s.machine).1 = .ok root := fun root hkept =>
    congrArg Prod.fst (findRoot_of_remembered hstart (htracks.lookup_iff.mpr hkept))
  have hsearched : (∀ root, ¬Remembers s.calls p root) →
      ((findRoot start).perform s.machine).1 = uncached s.machine start := by
    intro hnone
    have hlookup : s.machine.roots.lookup p = none :=
      Option.eq_none_iff_forall_ne_some.mpr fun root hroot =>
        hnone root (htracks.lookup_iff.mp hroot)
    rw [findRoot_of_new hstart hlookup, uncached_eq hstart]
  refine ⟨fun root => htracks.lookup_iff, hremembered, hsearched, fun hsame => ?_⟩
  -- what is remembered was walked to on files that are still the same
  by_cases hkept : ∃ root, Remembers s.calls p root
  · obtain ⟨root, hroot⟩ := hkept
    obtain ⟨c, hc, hpath, hwalked⟩ := htracks.wasWalkedTo hroot
    rw [hremembered root hroot, uncached_eq hstart, hwalked s.machine (hsame c hc hpath).symm]
  · exact hsearched (not_exists.mp hkept)

end Run

/-! ## Example -/

/-- The repository of `nestedMachine`. -/
def nestedRepository : Path := Path.ofString "/home/lib"

/-- The package of `nestedMachine`. -/
def nestedPackage : Path := Path.ofString "/home"

/-- A run in which the package file is removed after a search. -/
def outdated : Inquiry where
  machine :=
    { machineAt
        [(["home"], .directory), (["home", "lib"], .directory),
          (["home", "lib", ".git"], .directory)]
        ["home", "lib"] with
      roots := [(nestedRepository, nestedPackage)] }
  calls := [⟨nestedRepository, nestedMachine.files, some nestedPackage⟩]

theorem isReached_outdated : IsReached nestedMachine outdated := by
  have hstart : (resolvedStart none).Gives nestedMachine nestedRepository nestedMachine := by cbv
  have hperform : (findRoot none).perform nestedMachine
      = (.ok nestedPackage,
        { nestedMachine with roots := [(nestedRepository, nestedPackage)] }) := by cbv
  exact .tail (.tail .refl (.asks hstart hperform)) (.changes rfl)

/-- The root that is remembered is the answer, though the files have
    changed. -/
theorem recency_of_reached_outdated :
    nestedMachine.roots = [] ∧ IsReached nestedMachine outdated
      ∧ (resolvedStart none).Gives outdated.machine nestedRepository outdated.machine
      ∧ ((findRoot none).perform outdated.machine).1 = .ok nestedPackage
      ∧ uncached outdated.machine none = .ok nestedRepository := by
  have hstart : (resolvedStart none).Gives outdated.machine nestedRepository outdated.machine := by
    cbv
  have hkept : Remembers outdated.calls nestedRepository nestedPackage :=
    ⟨[], _, [], rfl, rfl, rfl, List.not_mem_nil, by decide⟩
  have hrecency := (recency_of_reached rfl isReached_outdated).1 nestedRepository hstart
  exact ⟨rfl, isReached_outdated, hstart, hrecency.remembered nestedPackage hkept, by cbv⟩

end Project

end HermesBundle
