import HermesBundle.Proofs.Storage.Removal

/-! # Places — names in a directory that a path leads to

    The text of a path leads where its components lead, one by one, unless
    it is too long (`locate_toText`), and so does the text of a name inside
    a directory that is given by a path (`locate_inside`).  What comes of
    the last name is a matter of what stands in that directory alone
    (`walk_last`).

    What stands at a location and below it are its contents.  They are all
    that there is to a place that nothing else reaches:

    * an entry that is put at a name in a directory changes the contents at
      that name (`contents_put_child`);
    * a directory that is removed leaves none (`contents_removed`). -/

namespace HermesBundle

namespace Path

variable {p : Path}

/-- The text of a path is not empty. -/
theorem toText_ne_nil (h : p.IsNormal) : p.toText ≠ [] := by
  obtain ⟨anchor, parts⟩ := p
  cases anchor with
  | root => exact List.cons_ne_nil _ _
  | doubleRoot => exact List.cons_ne_nil _ _
  | here =>
      cases parts with
      | nil => exact List.cons_ne_nil _ _
      | cons name rest =>
          have hname := (h name List.mem_cons_self).nonempty
          cases rest with
          | nil => exact hname
          | cons second others =>
              exact List.append_ne_nil_of_left_ne_nil
                (List.append_ne_nil_of_left_ne_nil hname _) _

/-- The last component of a path is joined to the others by a slash. -/
theorem toText_concat {anchor : Anchor} {parts : List Text} (hne : parts ≠ []) (name : Text) :
    toText ⟨anchor, parts ++ [name]⟩ = toText ⟨anchor, parts⟩ ++ [slash] ++ name := by
  have hjoin := Text.join_concat [slash] hne name
  obtain ⟨first, rest, rfl⟩ := List.exists_cons_of_ne_nil hne
  have hsame : anchorText anchor ++ Text.join [slash] (first :: rest ++ [name])
      = anchorText anchor ++ Text.join [slash] (first :: rest) ++ [slash] ++ name := by
    rw [hjoin]
    simp only [List.append_assoc]
  cases anchor with
  | here => exact hsame
  | root => exact hsame
  | doubleRoot => exact hsame

/-- A name inside the directory that a path is that of. -/
theorem ofText_inside_toText (h : p.IsNormal) {name : Text} (hname : IsComponent name) :
    ofText (Temporary.inside p.toText name) = ⟨p.anchor, p.parts ++ [name]⟩ := by
  have hsame := ofText_toText h
  unfold ofText at hsame
  rw [ofText_inside (toText_ne_nil h) hname]
  exact congrArg (fun q : Path => Path.mk q.anchor (q.parts ++ [name])) hsame

end Path

namespace FileSystem

variable {fs base : FileSystem} {here l place : Location} {p : Path} {name : Text}

/-! ## Where texts lead -/

/-- Where a program starts that follows the text of a path. -/
theorem startOf_toText (hp : p.IsNormal) (here : Location) :
    startOf here p.toText = if p.isAbsolute = true then [] else here := by
  unfold startOf
  rw [Path.head?_toText_eq hp]

/-- The text of a path leads where its components do. -/
theorem locate_toText (hp : p.IsNormal) (hne : p.parts ≠ []) (fs : FileSystem) (here : Location)
    (aim : Aim) :
    fs.locate here aim p.toText
      = if byteCount p.toText > pathLimit then .error .nameTooLong
        else fs.walk aim linkLimit (startOf here p.toText) p.parts := by
  unfold locate
  rw [if_neg (by simpa using Path.toText_ne_nil hp), Path.steps_toText hp hne]
  rfl

/-- The system walks along a name inside a directory as its last step. -/
theorem steps_inside (t : Text) (hname : IsComponent name) :
    steps (Temporary.inside t name)
      = ((t.splitOn slash).filter fun piece => !piece.isEmpty) ++ [name] := by
  have hlast : ([name].filter fun piece => !piece.isEmpty) = [name] :=
    List.filter_eq_self.mpr fun piece hpiece => by
      obtain rfl := List.mem_singleton.mp hpiece
      simpa using hname.nonempty
  have hwhole := Text.splitOn_of_not_mem hname.whole
  have hend : ∀ before : Text, ((before ++ name).getLast? == some slash) = false := by
    intro before
    rw [List.getLast?_append_of_ne_nil _ hname.nonempty]
    exact beq_false_of_ne fun heq => hname.whole (List.mem_of_getLast? heq)
  unfold steps Temporary.inside
  split
  · rename_i hslash
    obtain ⟨before, rfl⟩ := List.getLast?_eq_some_iff.mp (eq_of_beq hslash)
    rw [hend, List.append_assoc, List.singleton_append, Text.splitOn_append_cons,
      Text.splitOn_append_cons, hwhole, List.filter_append, List.filter_append, hlast]
    simp [Text.splitOn]
  · rw [hend, List.append_assoc, List.singleton_append, Text.splitOn_append_cons, hwhole,
      List.filter_append, hlast]
    rfl

/-- A walk along the names in the text of a path goes along its
    components: the text of a path without any may hold a dot. -/
theorem walk_names (hp : p.IsNormal) (hstart : fs.standing? l = some .directory) (aim : Aim)
    (links : Nat) (rest : List Text) :
    fs.walk aim links l (((p.toText.splitOn slash).filter fun piece => !piece.isEmpty) ++ rest)
      = fs.walk aim links l (p.parts ++ rest) := by
  by_cases hne : p.parts = []
  · obtain ⟨anchor, parts⟩ := p
    obtain rfl := hne
    cases anchor with
    | here => exact walk_skip hstart (.inr rfl) aim links rest
    | root => rfl
    | doubleRoot => rfl
  · rw [Path.names_toText hp hne]

theorem head?_inside_toText (hp : p.IsNormal) (name : Text) :
    (Temporary.inside p.toText name).head? = p.toText.head? := by
  obtain ⟨c, rest, htext⟩ := List.exists_cons_of_ne_nil (Path.toText_ne_nil hp)
  rw [htext]
  unfold Temporary.inside
  split <;> rfl

/-- The text of a name inside a directory leads to the directory, and to
    the name from there. -/
theorem locate_inside (hp : p.IsNormal) (hname : IsComponent name)
    (hstart : fs.standing? (startOf here p.toText) = some .directory) (aim : Aim) :
    fs.locate here aim (Temporary.inside p.toText name)
      = if byteCount (Temporary.inside p.toText name) > pathLimit then .error .nameTooLong
        else fs.walk aim linkLimit (startOf here p.toText) (p.parts ++ [name]) := by
  have hnonempty : Temporary.inside p.toText name ≠ [] := by
    intro hnil
    have hhead := head?_inside_toText hp name
    rw [hnil] at hhead
    exact Path.toText_ne_nil hp (List.head?_eq_none_iff.mp hhead.symm)
  unfold locate
  rw [if_neg (by simpa using hnonempty), steps_inside _ hname, head?_inside_toText hp name]
  exact congrArg _ (walk_names hp hstart aim linkLimit [name])

/-- What comes of the last name of a way is a matter of the directory that
    it is looked up in. -/
theorem walk_last (hl : fs.standing? l = some .directory) (hname : IsComponent name)
    (hup : name ≠ dotDot) (links : Nat) :
    fs.walk .itself links l [name]
      = if isLost l = true then .error .noEntry
        else if byteCount name > nameLimit then .error .nameTooLong
        else
          match fs.entry? (child l name) with
          | none => .ok (.free (child l name))
          | some e => .ok (.found (child l name) e) := by
  have hother : ¬(name.isEmpty || decide (name = dot)) = true := by
    simp [hname.nonempty, hname.not_dot]
  by_cases hlost : isLost l = true
  · rw [if_pos hlost, walk, hl]
    simp only [hother, if_neg hup, hlost]
    rfl
  · rw [if_neg hlost]
    by_cases hlong : byteCount name > nameLimit
    · rw [if_pos hlong, walk, hl]
      simp only [hother, if_neg hup, hlost, if_pos hlong]
      rfl
    · have hopens : fs.Opens l name :=
        ⟨hl, hname.nonempty, hname.not_dot, hup, Bool.not_eq_true _ ▸ hlost, not_lt.mp hlong⟩
      rw [if_neg hlong, walk_opens hopens not_writing_nil]
      cases fs.entry? (child l name) with
      | none => rfl
      | some e => cases e <;> rfl

/-- Among more entries a path leads where it led. -/
theorem Extends.locate {here : Location} {aim : Aim} {path : Text} {place : Location} {e : Entry}
    (h : fs.Extends base) (hbase : base.locate here aim path = .ok (.found place e)) :
    fs.locate here aim path = .ok (.found place e) :=
  (locate_of_locate hbase ..).trans (walk_eq_ok_iff.mpr ((walks_of_locate hbase).extends h))

/-- A directory is one among more entries. -/
theorem Extends.isDirectory {path : Text} (h : fs.Extends base)
    (hbase : base.isDirectory here path = true) : fs.isDirectory here path = true := by
  obtain ⟨place, hplace⟩ := exists_locate_of_isDirectory hbase
  unfold FileSystem.isDirectory status?
  rw [h.locate hplace]

/-- Below what is not there is nothing. -/
theorem IsTree.entry?_append (h : fs.IsTree) (hl : fs.entry? l = none) (rest : List Text) :
    fs.entry? (l ++ rest) = none := by
  induction rest using List.reverseRecOn with
  | nil => rwa [List.append_nil]
  | append_singleton before last ih =>
      rw [← List.append_assoc]
      cases hlast : fs.entry? (l ++ before ++ [last]) with
      | none => rfl
      | some e => exact nomatch ih.symm.trans (h.rooted _ _ e hlast)

/-! ## Contents -/

/-- What stands at a location and below it. -/
def contents (fs : FileSystem) (l : Location) : List Text → Option Entry :=
  fun rest => fs.entry? (l ++ rest)

/-- The contents of a directory with nothing in it. -/
def bare : List Text → Option Entry := fun rest => if rest = [] then some .directory else none

theorem contents_nil (fs : FileSystem) (l : Location) : fs.contents l [] = fs.entry? l := by
  unfold contents
  rw [List.append_nil]

theorem contents_put_child (fs : FileSystem) (l : Location) (name : Text) (e : Entry) :
    contents (fs.put (child l name) e) l
      = Function.update (fs.contents l) [Utf8.settledName name] (some e) := by
  funext rest
  unfold contents child
  rw [entry?_put (List.append_ne_nil_of_right_ne_nil _ (List.cons_ne_nil _ _)),
    Function.update_apply]
  exact if_congr (List.append_right_inj l) rfl rfl

/-- A directory that is put where nothing is has nothing in it. -/
theorem contents_put_directory (hl : l ≠ []) (h : fs.contents l = fun _ => none) :
    contents (fs.put l .directory) l = bare := by
  funext rest
  unfold contents bare
  rw [entry?_put hl]
  exact if_congr List.append_right_eq_self rfl (congrFun h rest)

theorem contents_removed (hl : l ≠ []) (fs : FileSystem) :
    contents ((fs.clear l).removeTree l) l = fun _ => none := by
  funext rest
  unfold contents
  rw [entry?_removeTree hl, if_pos (List.prefix_append l rest)]

/-- What does not stand below a location stays when that is removed. -/
theorem entry?_removed (hl : l ≠ []) (fs : FileSystem) {k : Location} (hk : ¬l <+: k) :
    entry? ((fs.clear l).removeTree l) k = fs.entry? k := by
  rw [entry?_removeTree hl, if_neg hk, entry?_clear, if_neg fun h => hk h.1]

end FileSystem

end HermesBundle
