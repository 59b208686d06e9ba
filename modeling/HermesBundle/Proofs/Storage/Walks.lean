import HermesBundle.Proofs.Storage.Entries
import HermesBundle.Proofs.Storage.Names

/-! # Walks — where a path leads, step by step

    A walk goes along names from a directory, link by link.  It is known
    from how it can succeed (`Walks`, `walk_eq_ok_iff`): one constructor
    for each step, so that what holds of walks is shown step by step.

    * **among more entries** what was found is found (`Walks.extends`), and
      a longer way goes on from there, whatever else there is
      (`Walks.through`);
    * **among fewer entries** nothing is found that was not found before
      (`Walks.of_keep`), though the program may stand in a directory that
      is gone;
    * **the last name** of a way is looked up in the directory that the
      names before it lead to (`Walks.split`);
    * **a free name** is one in a directory (`Walks.exists_opens`), and an
      entry that is put there is found (`Walks.put`). -/

namespace HermesBundle

namespace FileSystem

variable {fs base : FileSystem} {aim : Aim} {links : Nat} {l place : Location} {names : List Text}
  {e : Entry} {spot : Spot}

/-- Whether a program can look up a name from a location: the location is
    that of a directory, and the name asks for an entry of it. -/
structure Opens (fs : FileSystem) (l : Location) (name : Text) : Prop where
  directory : fs.standing? l = some .directory
  nonempty : name ≠ []
  not_dot : name ≠ dot
  not_dotDot : name ≠ dotDot
  kept : isLost l = false
  fits : byteCount name ≤ nameLimit

/-- The location of an entry by its name in a directory. -/
def child (l : Location) (name : Text) : Location := l ++ [Utf8.settledName name]

/-- Where the target of a link that stands in a directory starts. -/
def linkStart (l : Location) (target : Text) : Location :=
  if target.head? == some slash then [] else l

/-- How a walk succeeds. -/
inductive Walks (fs : FileSystem) (aim : Aim) : Nat → Location → List Text → Spot → Prop where
  /-- There are no more names. -/
  | stays {links : Nat} {l : Location} {e : Entry} :
      fs.standing? l = some e → Walks fs aim links l [] (.found l e)
  /-- A name means the directory itself. -/
  | skips {links : Nat} {l : Location} {name : Text} {rest : List Text} {spot : Spot} :
      fs.standing? l = some .directory → name = [] ∨ name = dot →
      Walks fs aim links l rest spot → Walks fs aim links l (name :: rest) spot
  | climbs {links : Nat} {l : Location} {rest : List Text} {spot : Spot} :
      fs.standing? l = some .directory →
      Walks fs aim links l.dropLast rest spot → Walks fs aim links l (dotDot :: rest) spot
  /-- The last name is free. -/
  | misses {links : Nat} {l : Location} {name : Text} :
      fs.Opens l name → fs.entry? (child l name) = none →
      Walks fs aim links l [name] (.free (child l name))
  /-- The last name is that of an entry. -/
  | arrives {links : Nat} {l : Location} {name : Text} {e : Entry} :
      fs.Opens l name → fs.entry? (child l name) = some e →
      (∀ target, e = .link target → aim = .itself) →
      Walks fs aim links l [name] (.found (child l name) e)
  /-- Another name leads on. -/
  | descends {links : Nat} {l : Location} {name : Text} {rest : List Text} {e : Entry}
      {spot : Spot} :
      fs.Opens l name → fs.entry? (child l name) = some e → (∀ target, e ≠ .link target) →
      rest ≠ [] → ¬(aim = .writing ∧ rest = [[]]) →
      Walks fs aim links (child l name) rest spot → Walks fs aim links l (name :: rest) spot
  /-- A link is followed. -/
  | follows {links : Nat} {l : Location} {name target : Text} {rest : List Text} {spot : Spot} :
      fs.Opens l name → fs.entry? (child l name) = some (.link target) →
      ¬(rest = [] ∧ aim = .itself) → ¬(aim = .writing ∧ rest = [[]]) →
      Walks fs aim links (linkStart l target) (steps target ++ rest) spot →
      Walks fs aim (links + 1) l (name :: rest) spot

/-! ## Single steps -/

theorem walk_nil (h : fs.standing? l = some e) (aim : Aim) (links : Nat) :
    fs.walk aim links l [] = .ok (.found l e) := by
  rw [walk, h]

theorem walk_skip {name : Text} (h : fs.standing? l = some .directory)
    (hname : name = [] ∨ name = dot) (aim : Aim) (links : Nat) (rest : List Text) :
    fs.walk aim links l (name :: rest) = fs.walk aim links l rest := by
  have hsame : (name.isEmpty || decide (name = dot)) = true := by
    rcases hname with rfl | rfl <;> rfl
  rw [walk, h]
  simp only [hsame, if_true]

theorem walk_climb (h : fs.standing? l = some .directory) (aim : Aim) (links : Nat)
    (rest : List Text) :
    fs.walk aim links l (dotDot :: rest) = fs.walk aim links l.dropLast rest := by
  rw [walk, h]
  rfl

/-- A name that asks for an entry of a directory is looked up there. -/
theorem walk_opens {name : Text} {rest : List Text} (h : fs.Opens l name)
    (haim : ¬(aim = .writing ∧ rest = [[]])) (links : Nat) :
    fs.walk aim links l (name :: rest) =
      match fs.entry? (child l name) with
      | none => if rest.isEmpty then .ok (.free (child l name)) else .error .noEntry
      | some (.link target) =>
          if rest.isEmpty && aim = .itself then .ok (.found (child l name) (.link target))
          else
            match links with
            | 0 => .error .tooManyLinks
            | links + 1 => fs.walk aim links (linkStart l target) (steps target ++ rest)
      | some e =>
          if rest.isEmpty then .ok (.found (child l name) e)
          else fs.walk aim links (child l name) rest := by
  have hother : ¬(name.isEmpty || decide (name = dot)) = true := by
    simp [h.nonempty, h.not_dot]
  have hwriting : ¬(decide (aim = .writing) && decide (rest = [[]])) = true := by
    simpa using haim
  rw [walk, h.directory]
  simp only [hother, if_neg h.not_dotDot, hwriting, h.kept, if_neg (not_lt.mpr h.fits)]
  rfl

/-- A name that is not the last one leads on, if there is an entry. -/
theorem walk_descend {name : Text} {rest : List Text} (h : fs.Opens l name)
    (hentry : fs.entry? (child l name) = some e) (hnolink : ∀ target, e ≠ .link target)
    (hrest : rest ≠ []) (haim : ¬(aim = .writing ∧ rest = [[]])) (links : Nat) :
    fs.walk aim links l (name :: rest) = fs.walk aim links (child l name) rest := by
  have hmore : ¬rest.isEmpty = true := fun h => hrest (List.isEmpty_iff.mp h)
  rw [walk_opens h haim, hentry]
  cases e with
  | link target => exact absurd rfl (hnolink target)
  | _ => exact if_neg hmore

/-- A link is followed, unless it is asked for itself. -/
theorem walk_follow {name target : Text} {rest : List Text} (h : fs.Opens l name)
    (hentry : fs.entry? (child l name) = some (.link target))
    (hon : ¬(rest = [] ∧ aim = .itself)) (haim : ¬(aim = .writing ∧ rest = [[]])) (links : Nat) :
    fs.walk aim (links + 1) l (name :: rest)
      = fs.walk aim links (linkStart l target) (steps target ++ rest) := by
  have hmore : ¬(rest.isEmpty && decide (aim = .itself)) = true := by
    simpa using hon
  rw [walk_opens h haim, hentry]
  exact if_neg hmore

/-- The last name is not followed by anything. -/
theorem not_writing_nil : ¬(aim = .writing ∧ ([] : List Text) = [[]]) :=
  fun h => List.cons_ne_nil _ _ h.2.symm

/-- A name that can be looked up, unless the walk fails. -/
theorem opens_of_walk {name : Text} {rest : List Text}
    (h : fs.walk aim links l (name :: rest) = .ok spot) (hname : ¬(name = [] ∨ name = dot))
    (hup : name ≠ dotDot) : fs.Opens l name ∧ ¬(aim = .writing ∧ rest = [[]]) := by
  rw [walk] at h
  split at h
  · rename_i hdirectory
    have hother : ¬(name.isEmpty || decide (name = dot)) = true := by
      simpa using hname
    rw [if_neg hother, if_neg hup] at h
    split at h
    · cases h
    · rename_i hwriting
      split at h
      · cases h
      · rename_i hkept
        split at h
        · cases h
        · rename_i hfits
          refine ⟨⟨hdirectory, fun heq => hname (.inl heq), fun heq => hname (.inr heq), hup,
            ?_, ?_⟩,
            ?_⟩
          · exact Bool.not_eq_true _ ▸ hkept
          · exact not_lt.mp hfits
          · simpa using hwriting
  · cases h
  · cases h

/-- Only a directory leads on. -/
theorem directory_of_walk {name : Text} {rest : List Text}
    (h : fs.walk aim links l (name :: rest) = .ok spot) : fs.standing? l = some .directory := by
  rw [walk] at h
  split at h
  · assumption
  · cases h
  · cases h

/-- A walk that succeeds does so as `Walks` says. -/
theorem walks_of_walk (h : fs.walk aim links l names = .ok spot) :
    fs.Walks aim links l names spot := by
  -- Following a link takes one from the number of links, every other step a name.
  induction links using Nat.strong_induction_on generalizing l names with
  | _ links outer =>
      induction names generalizing l with
      | nil =>
          rw [walk] at h
          split at h
          · rename_i e hstanding
            obtain rfl := Except.ok.inj h
            exact .stays hstanding
          · cases h
      | cons name rest ih =>
          have hdirectory := directory_of_walk h
          by_cases hname : name = [] ∨ name = dot
          · rw [walk_skip hdirectory hname] at h
            exact .skips hdirectory hname (ih h)
          · by_cases hup : name = dotDot
            · subst hup
              rw [walk_climb hdirectory] at h
              exact .climbs hdirectory (ih h)
            · obtain ⟨hopens, hwriting⟩ := opens_of_walk h hname hup
              rw [walk_opens hopens hwriting] at h
              split at h
              · rename_i hfree
                split at h
                · rename_i hlast
                  obtain rfl := List.isEmpty_iff.mp hlast
                  obtain rfl := Except.ok.inj h
                  exact .misses hopens hfree
                · cases h
              · rename_i target hlink
                split at h
                · rename_i hlast
                  obtain ⟨hrest, haim⟩ := Bool.and_eq_true_iff.mp hlast
                  obtain rfl := List.isEmpty_iff.mp hrest
                  obtain rfl := Except.ok.inj h
                  exact .arrives hopens hlink fun _ _ => of_decide_eq_true haim
                · rename_i hon
                  split at h
                  · cases h
                  · refine .follows hopens hlink (fun hlast => hon ?_) hwriting
                      (outer _ (Nat.lt_succ_self _) h)
                    rw [hlast.1, hlast.2]
                    rfl
              · rename_i e hnolink hentry
                split at h
                · rename_i hlast
                  obtain rfl := List.isEmpty_iff.mp hlast
                  obtain rfl := Except.ok.inj h
                  exact .arrives hopens hentry fun target htarget => (hnolink target htarget).elim
                · rename_i hon
                  refine .descends hopens hentry (fun target htarget => hnolink target htarget)
                    (fun hlast => hon ?_) hwriting (ih h)
                  rw [hlast]
                  rfl

/-- A walk succeeds as `Walks` says, and in no other way. -/
theorem walk_eq_ok_iff :
    fs.walk aim links l names = .ok spot ↔ fs.Walks aim links l names spot := by
  refine ⟨walks_of_walk, fun h => ?_⟩
  induction h with
  | stays hstanding => exact walk_nil hstanding ..
  | skips hdirectory hname _ ih => rw [walk_skip hdirectory hname, ih]
  | climbs hdirectory _ ih => rw [walk_climb hdirectory, ih]
  | misses hopens hfree =>
      rw [walk_opens hopens not_writing_nil, hfree]
      rfl
  | @arrives _ _ _ e hopens hentry haim =>
      rw [walk_opens hopens not_writing_nil, hentry]
      cases e with
      | link target => simp [haim target rfl]
      | _ => rfl
  | descends hopens hentry hnolink hon hwriting _ ih =>
      rw [walk_descend hopens hentry hnolink hon hwriting, ih]
  | follows hopens hlink hon hwriting _ ih => rw [walk_follow hopens hlink hon hwriting, ih]

/-! ## More entries -/

theorem Extends.standing? (h : fs.Extends base) (hbase : base.standing? l = some e) :
    fs.standing? l = some e := by
  unfold FileSystem.standing? at hbase ⊢
  split
  · rename_i hlost
    rw [if_pos hlost] at hbase
    exact hbase
  · rename_i hkept
    rw [if_neg hkept] at hbase
    exact h _ _ hbase

theorem Opens.extends {name : Text} (hopens : base.Opens l name) (h : fs.Extends base) :
    fs.Opens l name := { hopens with directory := h.standing? hopens.directory }

/-- What is found is found among more entries. -/
theorem Walks.extends (hwalks : base.Walks aim links l names (.found place e))
    (h : fs.Extends base) : fs.Walks aim links l names (.found place e) := by
  generalize hspot : Spot.found place e = spot at hwalks
  induction hwalks with
  | stays hstanding => exact .stays (h.standing? hstanding)
  | skips hdirectory hname _ ih => exact .skips (h.standing? hdirectory) hname (ih hspot)
  | climbs hdirectory _ ih => exact .climbs (h.standing? hdirectory) (ih hspot)
  | misses _ _ => exact nomatch hspot
  | arrives hopens hentry haim => exact .arrives (hopens.extends h) (h _ _ hentry) haim
  | descends hopens hentry hnolink hon hwriting _ ih =>
      exact .descends (hopens.extends h) (h _ _ hentry) hnolink hon hwriting (ih hspot)
  | follows hopens hlink hon hwriting _ ih =>
      exact .follows (hopens.extends h) (h _ _ hlink) hon hwriting (ih hspot)

/-- Where a way leads somewhere, a longer one goes on from there, among
    more entries and whatever it is followed for. -/
theorem Walks.through (hwalks : base.Walks .target links l names (.found place e)) :
    ∃ left, ∀ fs : FileSystem, fs.Extends base → ∀ aim rest, rest ≠ [] → rest ≠ [[]] →
      fs.walk aim links l (names ++ rest) = fs.walk aim left place rest := by
  generalize hspot : Spot.found place e = spot at hwalks
  -- A way that goes on has more than a final slash after the names of the first part.
  have hlonger : ∀ {first rest : List Text} {aim : Aim}, first ≠ [] → rest ≠ [] →
      ¬(aim = .writing ∧ first ++ rest = [[]]) := by
    rintro first rest aim hfirst hrest ⟨-, heq⟩
    have hlength := congrArg List.length heq
    rw [List.length_append, List.length_singleton] at hlength
    have := List.length_pos_iff.mpr hfirst
    have := List.length_pos_iff.mpr hrest
    omega
  induction hwalks with
  | @stays links _ _ hstanding =>
      obtain ⟨rfl, rfl⟩ := Spot.found.inj hspot
      exact ⟨links, fun fs _ aim rest _ _ => rfl⟩
  | skips hdirectory hname _ ih =>
      obtain ⟨left, hleft⟩ := ih hspot
      refine ⟨left, fun fs h aim rest hrest hslash => ?_⟩
      rw [List.cons_append, walk_skip (h.standing? hdirectory) hname,
        hleft fs h aim rest hrest hslash]
  | climbs hdirectory _ ih =>
      obtain ⟨left, hleft⟩ := ih hspot
      refine ⟨left, fun fs h aim rest hrest hslash => ?_⟩
      rw [List.cons_append, walk_climb (h.standing? hdirectory), hleft fs h aim rest hrest hslash]
  | misses _ _ => exact nomatch hspot
  | @arrives links _ _ _ hopens hentry haim =>
      obtain ⟨rfl, rfl⟩ := Spot.found.inj hspot
      refine ⟨links, fun fs h aim rest hrest hslash => ?_⟩
      exact walk_descend (hopens.extends h) (h _ _ hentry)
        (fun target htarget => nomatch haim target htarget) hrest
        (fun hwriting => hslash hwriting.2) links
  | descends hopens hentry hnolink hon _ _ ih =>
      obtain ⟨left, hleft⟩ := ih hspot
      refine ⟨left, fun fs h aim rest hrest hslash => ?_⟩
      rw [List.cons_append, walk_descend (hopens.extends h) (h _ _ hentry) hnolink
        (List.append_ne_nil_of_left_ne_nil hon _) (hlonger hon hrest),
        hleft fs h aim rest hrest hslash]
  | @follows links _ _ _ names _ hopens hlink _ _ _ ih =>
      obtain ⟨left, hleft⟩ := ih hspot
      refine ⟨left, fun fs h aim rest hrest hslash => ?_⟩
      have hon : names ++ rest ≠ [] := List.append_ne_nil_of_right_ne_nil _ hrest
      have hwriting : ¬(aim = .writing ∧ names ++ rest = [[]]) := by
        cases names with
        | nil => exact fun hwriting => hslash hwriting.2
        | cons name more => exact hlonger (List.cons_ne_nil _ _) hrest
      rw [List.cons_append, walk_follow (hopens.extends h) (h _ _ hlink) (fun hlast => hon hlast.1)
        hwriting, ← List.append_assoc, hleft fs h aim rest hrest hslash]

/-- Where a way leads to a directory it leads to something, if its last
    link is not followed. -/
theorem Walks.itself (hwalks : fs.Walks .target links l names (.found place e)) :
    ∃ near e', fs.Walks .itself links l names (.found near e') := by
  generalize hspot : Spot.found place e = spot at hwalks
  have hread : ∀ {rest : List Text}, ¬(Aim.itself = .writing ∧ rest = [[]]) := fun h => nomatch h.1
  induction hwalks with
  | stays hstanding => exact ⟨_, _, .stays hstanding⟩
  | skips hdirectory hname _ ih =>
      obtain ⟨near, e', hnear⟩ := ih hspot
      exact ⟨near, e', .skips hdirectory hname hnear⟩
  | climbs hdirectory _ ih =>
      obtain ⟨near, e', hnear⟩ := ih hspot
      exact ⟨near, e', .climbs hdirectory hnear⟩
  | misses _ _ => exact nomatch hspot
  | arrives hopens hentry _ => exact ⟨_, _, .arrives hopens hentry fun _ _ => rfl⟩
  | descends hopens hentry hnolink hon _ _ ih =>
      obtain ⟨near, e', hnear⟩ := ih hspot
      exact ⟨near, e', .descends hopens hentry hnolink hon hread hnear⟩
  | @follows _ _ _ _ rest _ hopens hlink _ _ _ ih =>
      cases rest with
      | nil => exact ⟨_, _, .arrives hopens hlink fun _ _ => rfl⟩
      | cons name more =>
          obtain ⟨near, e', hnear⟩ := ih hspot
          exact ⟨near, e', .follows hopens hlink (fun h => nomatch h.1) hread hnear⟩

/-! ## Free names -/

theorem child_ne_nil (l : Location) (name : Text) : child l name ≠ [] :=
  List.append_ne_nil_of_right_ne_nil _ (List.cons_ne_nil _ _)

/-- A directory that names can be looked up in is an entry. -/
theorem Opens.entry? {name : Text} (h : fs.Opens l name) : fs.entry? l = some .directory := by
  have hdirectory := h.directory
  unfold FileSystem.standing? at hdirectory
  rwa [h.kept, if_neg Bool.false_ne_true] at hdirectory

/-- A free name is one in a directory. -/
theorem Walks.exists_opens (hwalks : fs.Walks aim links l names (.free place)) :
    ∃ above name, place = child above name ∧ fs.Opens above name ∧ fs.entry? place = none := by
  generalize hspot : Spot.free place = spot at hwalks
  induction hwalks with
  | stays _ => exact nomatch hspot
  | skips _ _ _ ih => exact ih hspot
  | climbs _ _ ih => exact ih hspot
  | misses hopens hfree =>
      obtain rfl := Spot.free.inj hspot
      exact ⟨_, _, rfl, hopens, hfree⟩
  | arrives _ _ _ => exact nomatch hspot
  | descends _ _ _ _ _ _ ih => exact ih hspot
  | follows _ _ _ _ _ ih => exact ih hspot

/-- Where a free name was, an entry that is put there is found, unless it
    is a link. -/
theorem Walks.put (hwalks : fs.Walks aim links l names (.free place))
    (hnolink : ∀ target, e ≠ .link target) :
    (fs.put place e).Walks .target links l names (.found place e) := by
  obtain ⟨above, last, hplace, -, hfree⟩ := hwalks.exists_opens
  have hne : place ≠ [] := hplace ▸ child_ne_nil above last
  have hmore := extends_put hne hfree e
  have hthere : entry? (fs.put place e) place = some e := by
    rw [entry?_put hne, if_pos rfl]
  have hread : ∀ {rest : List Text}, ¬(Aim.target = .writing ∧ rest = [[]]) := fun h => nomatch h.1
  generalize hspot : Spot.free place = spot at hwalks
  induction hwalks with
  | stays _ => exact nomatch hspot
  | skips hdirectory hname _ ih => exact .skips (hmore.standing? hdirectory) hname (ih hspot)
  | climbs hdirectory _ ih => exact .climbs (hmore.standing? hdirectory) (ih hspot)
  | misses hopens _ =>
      obtain rfl := Spot.free.inj hspot
      exact .arrives (hopens.extends hmore) hthere fun target h => absurd h (hnolink target)
  | arrives _ _ _ => exact nomatch hspot
  | descends hopens hentry hother hon _ _ ih =>
      exact .descends (hopens.extends hmore) (hmore _ _ hentry) hother hon hread (ih hspot)
  | follows hopens hlink _ _ _ ih =>
      exact .follows (hopens.extends hmore) (hmore _ _ hlink) (fun h => nomatch h.2) hread
        (ih hspot)

/-! ## The last name -/

/-- Only from a directory do names lead on. -/
theorem Walks.directory {name : Text} {rest : List Text}
    (h : fs.Walks aim links l (name :: rest) spot) : fs.standing? l = some .directory :=
  directory_of_walk (walk_eq_ok_iff.mpr h)

/-- The location of an entry of a directory that is not lost is not lost. -/
theorem isLost_child {name : Text} (h : isLost l = false) (hname : name ≠ []) :
    isLost (child l name) = false := by
  have hlast : Utf8.settledName name ≠ [] := Utf8.settledName_ne_nil hname
  unfold isLost child lostName at *
  rw [List.elem_eq_contains, List.contains_eq_mem, decide_eq_false_iff_not] at *
  intro hmem
  rcases List.mem_append.mp hmem with hl | hlost
  · exact h hl
  · exact hlast (List.mem_singleton.mp hlost).symm

/-- So is no directory on the way to something that is not lost. -/
theorem isLost_of_child {name : Text} (h : isLost (child l name) = false) : isLost l = false := by
  unfold isLost child at *
  rw [List.elem_eq_contains, List.contains_eq_mem, decide_eq_false_iff_not] at *
  exact fun hl => h (List.mem_append_left _ hl)

/-- An entry that names are looked up in is a directory. -/
theorem Walks.entry?_eq_directory {name : Text} {rest : List Text} (hopens : fs.Opens l name)
    (hentry : fs.entry? (child l name) = some e) (hrest : rest ≠ [])
    (hwalks : fs.Walks aim links (child l name) rest spot) : e = .directory := by
  obtain ⟨first, more, rfl⟩ := List.exists_cons_of_ne_nil hrest
  have hstanding := hwalks.directory
  unfold FileSystem.standing? at hstanding
  rw [isLost_child hopens.kept hopens.nonempty, if_neg Bool.false_ne_true, hentry] at hstanding
  exact Option.some.inj hstanding

/-- A way with a last name leads to a directory, and from there on. -/
theorem Walks.split {name : Text} (hwalks : fs.Walks aim links l (names ++ [name]) spot) :
    ∃ above left, fs.Walks .target links l names (.found above .directory)
      ∧ fs.Walks aim left above [name] spot := by
  generalize hall : names ++ [name] = all at hwalks
  have hread : ∀ {rest : List Text}, ¬(Aim.target = .writing ∧ rest = [[]]) := fun h => nomatch h.1
  induction hwalks generalizing names with
  | stays _ => exact absurd hall (List.append_ne_nil_of_right_ne_nil _ (List.cons_ne_nil _ _))
  | @skips links l first rest spot hdirectory hname hrest ih =>
      cases names with
      | nil =>
          obtain ⟨rfl, rfl⟩ := List.cons.inj hall
          exact ⟨l, links, .stays hdirectory, .skips hdirectory hname hrest⟩
      | cons _ more =>
          obtain ⟨rfl, rfl⟩ := List.cons.inj hall
          obtain ⟨above, left, habove, hlast⟩ := ih rfl
          exact ⟨above, left, .skips hdirectory hname habove, hlast⟩
  | @climbs links l rest spot hdirectory hrest ih =>
      cases names with
      | nil =>
          obtain ⟨rfl, rfl⟩ := List.cons.inj hall
          exact ⟨l, links, .stays hdirectory, .climbs hdirectory hrest⟩
      | cons _ more =>
          obtain ⟨rfl, rfl⟩ := List.cons.inj hall
          obtain ⟨above, left, habove, hlast⟩ := ih rfl
          exact ⟨above, left, .climbs hdirectory habove, hlast⟩
  | @misses links l first hopens hfree =>
      obtain ⟨rfl, hfirst⟩ :=
        List.append_eq_singleton_iff.mp hall |>.resolve_right fun h => nomatch h.2
      obtain rfl := (List.cons.inj hfirst).1
      exact ⟨l, links, .stays hopens.directory, .misses hopens hfree⟩
  | @arrives links l first e hopens hentry haim =>
      obtain ⟨rfl, hfirst⟩ :=
        List.append_eq_singleton_iff.mp hall |>.resolve_right fun h => nomatch h.2
      obtain rfl := (List.cons.inj hfirst).1
      exact ⟨l, links, .stays hopens.directory, .arrives hopens hentry haim⟩
  | @descends links l first rest e spot hopens hentry hnolink hon hwriting hrest ih =>
      cases names with
      | nil => exact absurd (List.cons.inj hall).2.symm hon
      | cons head more =>
          obtain ⟨rfl, rfl⟩ := List.cons.inj hall
          obtain ⟨above, left, habove, hlast⟩ := ih rfl
          cases more with
          | nil =>
              -- The last name is looked up right here, so a directory stands here.
              refine ⟨above, left, ?_, hlast⟩
              obtain rfl := hrest.entry?_eq_directory hopens hentry hon
              have hsame : Spot.found (child l head) .directory = .found above .directory :=
                Except.ok.inj ((walk_nil hrest.directory .target links).symm.trans
                  (walk_eq_ok_iff.mpr habove))
              obtain ⟨rfl, -⟩ := Spot.found.inj hsame
              exact .arrives hopens hentry fun _ h => nomatch h
          | cons second others =>
              exact ⟨above, left,
                .descends hopens hentry hnolink (List.cons_ne_nil _ _) hread habove, hlast⟩
  | @follows links l first target rest spot hopens hlink hon hwriting hrest ih =>
      cases names with
      | nil =>
          obtain ⟨rfl, rfl⟩ := List.cons.inj hall
          exact ⟨l, links + 1, .stays hopens.directory, .follows hopens hlink hon hwriting hrest⟩
      | cons _ more =>
          obtain ⟨rfl, rfl⟩ := List.cons.inj hall
          obtain ⟨above, left, habove, hlast⟩ := ih (List.append_assoc (steps target) more [name])
          exact ⟨above, left, .follows hopens hlink (fun h => nomatch h.2) hread habove, hlast⟩

/-! ## Fewer entries -/

/-- What is found among the locations that are kept was found before, from
    where the program stood then. -/
theorem Walks.of_keep {isKept : Location → Bool} {here : Location}
    (hwalks : (fs.keep isKept).Walks aim links here names (.found place e))
    (hhere : (fs.keep isKept).settle l = here) (hl : fs.settle l = l)
    (hplace : isLost place = false) : fs.Walks aim links l names (.found place e) := by
  generalize hspot : Spot.found place e = spot at hwalks
  have hstill : ∀ {here l : Location}, (fs.keep isKept).settle l = here → isLost here = false →
      here = l := by
    rintro here l rfl hkept
    exact settleFrom_of_kept hkept
  have hopens_of : ∀ {l : Location} {name : Text}, (fs.keep isKept).Opens l name →
      fs.settle l = l → fs.Opens l name := fun hopens hl =>
    { hopens with directory := standing?_of_settle hl }
  induction hwalks generalizing l with
  | @stays links here e' hstanding =>
      obtain ⟨rfl, rfl⟩ := Spot.found.inj hspot
      obtain rfl := hstill hhere hplace
      refine .stays ?_
      unfold standing? at hstanding ⊢
      rw [hplace, if_neg Bool.false_ne_true] at hstanding ⊢
      exact entry?_of_keep hstanding
  | skips _ hname _ ih => exact .skips (standing?_of_settle hl) hname (ih hhere hl hspot)
  | climbs _ _ ih =>
      refine .climbs (standing?_of_settle hl) (ih ?_ ?_ hspot)
      · rw [settle_dropLast, hhere]
      · rw [settle_dropLast, hl]
  | misses _ _ => exact nomatch hspot
  | arrives hopens hentry haim =>
      obtain rfl := hstill hhere hopens.kept
      exact .arrives (hopens_of hopens hl) (entry?_of_keep hentry) haim
  | descends hopens hentry hnolink hon hwriting hrest ih =>
      obtain rfl := hstill hhere hopens.kept
      obtain rfl := hrest.entry?_eq_directory hopens hentry hon
      refine .descends (hopens_of hopens hl) (entry?_of_keep hentry) hnolink hon hwriting
        (ih ?_ ?_ hspot)
      · exact settle_concat hhere hopens.kept hentry
      · exact settle_concat hl hopens.kept (entry?_of_keep hentry)
  | @follows links here name target rest spot hopens hlink hon hwriting _ ih =>
      obtain rfl := hstill hhere hopens.kept
      refine .follows (hopens_of hopens hl) (entry?_of_keep hlink) hon hwriting (ih ?_ ?_ hspot)
      · unfold linkStart
        split
        · rfl
        · exact hhere
      · unfold linkStart
        split
        · rfl
        · exact hl

end FileSystem

end HermesBundle
