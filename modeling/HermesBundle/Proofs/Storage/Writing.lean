import HermesBundle.Proofs.Storage.Twins

/-! # Writing — what is written to a path is found there

    A path that is written to leads to a file, which is changed under all
    its names, to a free name, where a file is put, or to a device, which
    keeps nothing (`Written`, `written_of_writeFile`).  Afterwards

    * **the path leads to what has been written** (`Written.locate`);
    * **nothing else has changed** (`Written.entry?_of_ne`), so every other
      path leads to what it led to (`Written.leadsTo`).

    Files that are changed are still files.  So whatever is done to a file
    system in this way, and by making directories, it has all that it had,
    up to what is in the files (`Covers`), and paths lead where they led
    (`Covers.locate`). -/

namespace HermesBundle.FileSystem

variable {fs files base : FileSystem} {aim : Aim} {links : Nat} {here l place : Location}
  {names : List Text} {e e' : Entry} {spot : Spot} {path : Text} {content : Bytes}

/-! ## Entries that are alike -/

/-- Whether two entries are the same, or both are files. -/
inductive Alike : Entry → Entry → Prop where
  | same (e : Entry) : Alike e e
  | files (content content' : Bytes) (executable executable' : Bool) :
      Alike (.file content executable) (.file content' executable')

theorem Alike.trans {e'' : Entry} (h : Alike e e') (h' : Alike e' e'') : Alike e e'' := by
  cases h with
  | same _ => exact h'
  | files _ _ _ _ =>
      cases h' with
      | same _ => exact .files ..
      | files _ _ _ _ => exact .files ..

theorem Alike.eq_directory (h : Alike .directory e) : e = .directory := by
  cases h with
  | same _ => rfl

theorem Alike.eq_link {target : Text} (h : Alike (.link target) e) : e = .link target := by
  cases h with
  | same _ => rfl

/-- What is like a file is one. -/
theorem Alike.exists_file {content : Bytes} {executable : Bool}
    (h : Alike (.file content executable) e) : ∃ content executable, e = .file content executable := by
  cases h with
  | same _ => exact ⟨_, _, rfl⟩
  | files _ _ _ _ => exact ⟨_, _, rfl⟩

/-- What is like no link is no link. -/
theorem Alike.ne_link {target : Text} (h : Alike e e') (hne : e ≠ .link target) :
    e' ≠ .link target := by
  cases h with
  | same _ => exact hne
  | files _ _ _ _ => exact fun heq => nomatch heq

/-- Whether files have all that others have, up to what is in a file. -/
def Covers (fs base : FileSystem) : Prop :=
  ∀ l e, base.entry? l = some e → ∃ e', fs.entry? l = some e' ∧ Alike e e'

theorem Covers.refl (fs : FileSystem) : fs.Covers fs := fun _ e hl => ⟨e, hl, .same e⟩

theorem Covers.trans (h : files.Covers fs) (hbase : fs.Covers base) : files.Covers base := by
  intro l e hl
  obtain ⟨e', hl', halike⟩ := hbase l e hl
  obtain ⟨e'', hl'', halike'⟩ := h l e' hl'
  exact ⟨e'', hl'', halike.trans halike'⟩

theorem Extends.covers (h : fs.Extends base) : fs.Covers base := fun l e hl =>
  ⟨e, h l e hl, .same e⟩

theorem Covers.standing? (h : fs.Covers base) (hbase : base.standing? l = some e) :
    ∃ e', fs.standing? l = some e' ∧ Alike e e' := by
  unfold FileSystem.standing? at hbase ⊢
  split
  · rename_i hlost
    rw [if_pos hlost] at hbase
    exact ⟨e, hbase, .same e⟩
  · rename_i hkept
    rw [if_neg hkept] at hbase
    exact h l e hbase

theorem Covers.standing?_directory (h : fs.Covers base)
    (hbase : base.standing? l = some .directory) : fs.standing? l = some .directory := by
  obtain ⟨e, hl, halike⟩ := h.standing? hbase
  rw [hl, halike.eq_directory]

theorem Opens.covers {name : Text} (hopens : base.Opens l name) (h : fs.Covers base) :
    fs.Opens l name := { hopens with directory := h.standing?_directory hopens.directory }

/-- A way among files leads on among those that cover them. -/
theorem Walks.covers (hwalks : base.Walks aim links l names (.found place e))
    (h : fs.Covers base) :
    ∃ e', fs.Walks aim links l names (.found place e') ∧ Alike e e' := by
  generalize hspot : Spot.found place e = spot at hwalks
  induction hwalks with
  | stays hstanding =>
      obtain ⟨rfl, rfl⟩ := Spot.found.inj hspot
      obtain ⟨e', hthere, halike⟩ := h.standing? hstanding
      exact ⟨e', .stays hthere, halike⟩
  | skips hdirectory hname _ ih =>
      obtain ⟨e', hmore, halike⟩ := ih hspot
      exact ⟨e', .skips (h.standing?_directory hdirectory) hname hmore, halike⟩
  | climbs hdirectory _ ih =>
      obtain ⟨e', hmore, halike⟩ := ih hspot
      exact ⟨e', .climbs (h.standing?_directory hdirectory) hmore, halike⟩
  | misses _ _ => exact nomatch hspot
  | arrives hopens hentry haim =>
      obtain ⟨rfl, rfl⟩ := Spot.found.inj hspot
      obtain ⟨e', hthere, halike⟩ := h _ _ hentry
      refine ⟨e', .arrives (hopens.covers h) hthere fun target htarget => ?_, halike⟩
      by_contra hon
      exact halike.ne_link (fun hlink => hon (haim target hlink)) htarget
  | descends hopens hentry hnolink hon hwriting _ ih =>
      obtain ⟨e', hmore, halike⟩ := ih hspot
      obtain ⟨between, hthere, halike'⟩ := h _ _ hentry
      exact ⟨e', .descends (hopens.covers h) hthere
        (fun target => halike'.ne_link (hnolink target)) hon hwriting hmore, halike⟩
  | follows hopens hlink hon hwriting _ ih =>
      obtain ⟨e', hmore, halike⟩ := ih hspot
      obtain ⟨between, hthere, halike'⟩ := h _ _ hlink
      obtain rfl := halike'.eq_link
      exact ⟨e', .follows (hopens.covers h) hthere hon hwriting hmore, halike⟩

/-- **Among files that cover others a path leads where it led.** -/
theorem Covers.locate (h : fs.Covers base)
    (hlocate : base.locate here aim path = .ok (.found place e)) :
    ∃ e', fs.locate here aim path = .ok (.found place e') ∧ Alike e e' := by
  obtain ⟨e', hwalks, halike⟩ := (walks_of_locate hlocate).covers h
  exact ⟨e', (locate_of_locate hlocate ..).trans (walk_eq_ok_iff.mpr hwalks), halike⟩

/-! ## Ways to write -/

/-- What a path leads to that is written to, it leads to for whoever
    reads. -/
theorem Walks.of_writing (hwalks : fs.Walks .writing links l names spot) :
    fs.Walks .target links l names spot := by
  have hread : ∀ {rest : List Text}, ¬(Aim.target = .writing ∧ rest = [[]]) := fun h => nomatch h.1
  induction hwalks with
  | stays hstanding => exact .stays hstanding
  | skips hdirectory hname _ ih => exact .skips hdirectory hname ih
  | climbs hdirectory _ ih => exact .climbs hdirectory ih
  | misses hopens hfree => exact .misses hopens hfree
  | arrives hopens hentry haim =>
      exact .arrives hopens hentry fun target htarget => nomatch haim target htarget
  | descends hopens hentry hnolink hon _ _ ih => exact .descends hopens hentry hnolink hon hread ih
  | follows hopens hlink _ _ _ ih => exact .follows hopens hlink (fun h => nomatch h.2) hread ih

/-- A way that follows links does not end at one. -/
theorem Walks.not_link {target : Text} (hl : fs.settle l = l) (haim : aim ≠ .itself)
    (hwalks : fs.Walks aim links l names (.found place e)) : e ≠ .link target := by
  generalize hspot : Spot.found place e = spot at hwalks
  induction hwalks with
  | stays hstanding =>
      obtain ⟨rfl, rfl⟩ := Spot.found.inj hspot
      rw [standing?_of_settle hl] at hstanding
      obtain rfl := Option.some.inj hstanding
      exact fun h => nomatch h
  | skips _ _ _ ih => exact ih hl hspot
  | climbs _ _ ih =>
      refine ih ?_ hspot
      rw [settle_dropLast, hl]
  | misses _ _ => exact nomatch hspot
  | arrives _ _ hlast =>
      obtain ⟨rfl, rfl⟩ := Spot.found.inj hspot
      exact fun h => haim (hlast target h)
  | descends hopens hentry _ hon _ hwalks ih =>
      obtain rfl := hwalks.entry?_eq_directory hopens hentry hon
      exact ih (settle_concat hl hopens.kept hentry) hspot
  | follows _ _ _ _ _ ih =>
      refine ih ?_ hspot
      unfold linkStart
      split
      · rfl
      · exact hl

/-- What comes of writing a content to a path: where the path leads, what
    stands there afterwards, and the files. -/
inductive Written (fs : FileSystem) (here : Location) (path : Text) (content : Bytes) :
    Location → Entry → FileSystem → Prop where
  /-- A file is changed. -/
  | changed {place : Location} {old : Bytes} {executable : Bool} :
      fs.locate here .writing path = .ok (.found place (.file old executable)) →
      Written fs here path content place (.file content executable)
        (fs.putFile place (.file content executable))
  /-- There is a new file. -/
  | fresh {place : Location} :
      fs.locate here .writing path = .ok (.free place) →
      Written fs here path content place (.file content false)
        (fs.put place (.file content false))
  /-- A device keeps nothing. -/
  | swallowed {place : Location} {device : Device} :
      fs.locate here .writing path = .ok (.found place (.device device)) →
      Written fs here path content place (.device device) fs

theorem written_of_writeFile (hhere : fs.settle here = here)
    (h : fs.writeFile here path content = .ok files) :
    ∃ place e, Written fs here path content place e files := by
  unfold writeFile at h
  split at h
  · rename_i hlocate
    obtain rfl := Except.ok.inj h
    exact ⟨_, _, .changed hlocate⟩
  · exact nomatch h
  · rename_i hlocate
    split at h
    · obtain rfl := Except.ok.inj h
      exact ⟨_, _, .swallowed hlocate⟩
    · exact nomatch h
  · exact nomatch h
  · rename_i place e hfile hdirectory _ _ hlocate
    obtain rfl := Except.ok.inj h
    cases e with
    | file old executable => exact (hfile _ _ rfl).elim
    | directory => exact (hdirectory rfl).elim
    | device d => exact ⟨_, _, .swallowed hlocate⟩
    | link target =>
        have hstart : fs.settle (startOf here path) = startOf here path := by
          rw [settle_startOf, hhere]
        exact absurd rfl ((walks_of_locate hlocate).not_link hstart (by decide))
  · rename_i hlocate
    obtain rfl := Except.ok.inj h
    exact ⟨_, _, .fresh hlocate⟩
  · exact nomatch h

/-- What is found under a name that is not that of a directory is an
    entry. -/
theorem entry?_of_standing (h : fs.standing? l = some e) (hne : e ≠ .directory) :
    fs.entry? l = some e := by
  unfold standing? at h
  split at h
  · exact absurd (Option.some.inj h).symm hne
  · exact h

theorem entry?_of_locate (h : fs.locate here aim path = .ok (.found l e)) (hne : e ≠ .directory) :
    fs.entry? l = some e := entry?_of_standing (walks_of_locate h).standing hne

theorem ne_nil_of_free (h : fs.entry? l = none) : l ≠ [] := by
  rintro rfl
  exact nomatch h

theorem free_of_locate (h : fs.locate here aim path = .ok (.free l)) : fs.entry? l = none := by
  obtain ⟨above, name, rfl, -, hfree⟩ := (walks_of_locate h).exists_opens
  exact hfree

/-- Writing gives nobody another name. -/
theorem Written.locationsOf (h : Written fs here path content place e files) (l : Location) :
    files.locationsOf l = fs.locationsOf l := by
  cases h with
  | changed _ => exact locationsOf_putFile ..
  | fresh _ => exact locationsOf_put ..
  | swallowed _ => rfl

/-- What has been written is a file with the content, unless a device has
    taken it. -/
theorem Written.kind (h : Written fs here path content place e files) :
    (∃ executable, e = .file content executable) ∨ ∃ device, e = .device device := by
  cases h with
  | changed _ => exact .inl ⟨_, rfl⟩
  | fresh _ => exact .inl ⟨_, rfl⟩
  | swallowed _ => exact .inr ⟨_, rfl⟩

section Written

variable (htwins : fs.HasTwins) (h : Written fs here path content place e files)

include htwins h

theorem Written.hasTwins : files.HasTwins := by
  cases h with
  | changed hlocate => exact htwins.putFile (entry?_of_locate hlocate fun h => nomatch h) _
  | fresh hlocate =>
      have hfree := free_of_locate hlocate
      exact htwins.put (ne_nil_of_free hfree) hfree _
  | swallowed _ => exact htwins

/-- What has been written is there. -/
theorem Written.entry? : files.entry? place = some e := by
  cases h with
  | changed hlocate =>
      rw [entry?_putFile htwins (entry?_of_locate hlocate fun h => nomatch h),
        if_pos (mem_locationsOf_self ..)]
  | fresh hlocate => rw [entry?_put (ne_nil_of_free (free_of_locate hlocate)), if_pos rfl]
  | swallowed hlocate => exact entry?_of_locate hlocate fun h => nomatch h

/-- **Nothing changes but the file that is written**, under all its
    names. -/
theorem Written.entry?_of_ne
    (hl : ∀ content executable, e = .file content executable → l ∉ files.locationsOf place) :
    files.entry? l = fs.entry? l := by
  rw [h.locationsOf] at hl
  cases h with
  | changed hlocate =>
      rw [entry?_putFile htwins (entry?_of_locate hlocate fun h => nomatch h),
        if_neg (hl _ _ rfl)]
  | fresh hlocate =>
      rw [entry?_put (ne_nil_of_free (free_of_locate hlocate)), if_neg]
      rintro rfl
      exact hl _ _ rfl (mem_locationsOf_self ..)
  | swallowed _ => rfl

/-- What was a file is one. -/
theorem Written.covers : files.Covers fs := by
  cases h with
  | changed hlocate =>
      have hfile := entry?_of_locate hlocate fun h => nomatch h
      intro l e hl
      rw [entry?_putFile htwins hfile]
      split
      · rename_i hname
        rw [htwins.agree _ _ hname, hfile] at hl
        obtain rfl := Option.some.inj hl
        exact ⟨_, rfl, .files ..⟩
      · exact ⟨e, hl, .same e⟩
  | fresh hlocate =>
      have hfree := free_of_locate hlocate
      exact (extends_put (ne_nil_of_free hfree) hfree _).covers
  | swallowed _ => exact .refl fs

/-- **The path leads to what has been written.** -/
theorem Written.locate : files.locate here .target path = .ok (.found place e) := by
  have hthere := h.entry? htwins
  have hcovers := h.covers htwins
  cases h with
  | changed hlocate =>
      have hread := (walks_of_locate hlocate).of_writing
      obtain ⟨e', hwalks, halike⟩ := hread.covers hcovers
      have hne : e' ≠ .directory := by
        rintro rfl
        exact nomatch halike
      obtain rfl := Option.some.inj ((entry?_of_standing hwalks.standing hne).symm.trans hthere)
      exact (locate_of_locate hlocate ..).trans (walk_eq_ok_iff.mpr hwalks)
  | fresh hlocate =>
      exact (locate_of_locate hlocate ..).trans
        (walk_eq_ok_iff.mpr ((walks_of_locate hlocate).put (fun _ h => nomatch h)))
  | swallowed hlocate =>
      exact (locate_of_locate hlocate ..).trans
        (walk_eq_ok_iff.mpr (walks_of_locate hlocate).of_writing)

/-- **Every path leads where it led, and to the same**, unless it leads to
    the file that has been written. -/
theorem Written.leadsTo {p : Text} {old : Entry}
    (hp : fs.locate here .target p = .ok (.found l old)) :
    files.locate here .target p = .ok (.found l old)
      ∨ (∃ content executable, e = .file content executable) ∧ l ∈ files.locationsOf place
        ∧ files.locate here .target p = .ok (.found l e) := by
  obtain ⟨now, hnow, halike⟩ := (h.covers htwins).locate hp
  by_cases hold : old = .directory
  · rw [hold] at halike
    rw [halike.eq_directory] at hnow
    exact .inl (hold ▸ hnow)
  -- What is no directory is an entry, before and after.
  have hne : now ≠ .directory := by
    rintro rfl
    cases halike with
    | same _ => exact hold rfl
  have hbefore := entry?_of_locate hp hold
  have hafter := entry?_of_locate hnow hne
  by_cases hwritten : (∃ content executable, e = .file content executable)
      ∧ l ∈ files.locationsOf place
  · obtain ⟨hfile, hl⟩ := hwritten
    rw [(h.hasTwins htwins).agree _ _ hl, h.entry? htwins] at hafter
    obtain rfl := Option.some.inj hafter
    exact .inr ⟨hfile, hl, hnow⟩
  · rw [h.entry?_of_ne htwins fun _ _ he hl => hwritten ⟨⟨_, _, he⟩, hl⟩, hbefore] at hafter
    obtain rfl := Option.some.inj hafter
    exact .inl hnow

end Written

theorem Covers.settle (h : fs.Covers base) (hhere : base.settle here = here) :
    fs.settle here = here := by
  refine settle_of_directories hhere fun k hk => ?_
  obtain ⟨e, hthere, halike⟩ := h k _ hk
  rw [hthere, halike.eq_directory]

end HermesBundle.FileSystem
