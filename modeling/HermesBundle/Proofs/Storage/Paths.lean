import HermesBundle.Proofs.Text.Pieces
import HermesBundle.Storage.FileSystem
import HermesBundle.Temporary
import Mathlib

/-! # Paths — their texts name what their components name

    A path that has been read from a text is made of components: names
    that are not empty, no single dots, and hold no slash
    (`isNormal_ofText`).  Such a path is known from its text:

    * it is read back from it (`ofText_toText`);
    * the system walks along its components and nothing else
      (`steps_toText`), from the root if it is absolute
      (`head?_toText_eq`);
    * a name in the directory that it is the path of is one more component
      (`ofText_inside`, `child_eq`).

    An absolute path leads to the same place from every directory
    (`locate_of_isAbsolute`). -/

namespace HermesBundle

/-! ## Components -/

/-- Whether a text is a component of a path: a name that is not empty, no
    single dot, and holds no slash. -/
structure IsComponent (name : Text) : Prop where
  nonempty : name ≠ []
  not_dot : name ≠ dot
  whole : slash ∉ name

namespace Path

/-- Whether a path is made of components, as it is when it has been read
    from a text. -/
def IsNormal (p : Path) : Prop := ∀ name ∈ p.parts, IsComponent name

/-- What the text of an anchor is cut into, before the components. -/
def anchorPieces : Anchor → List Text
  | .here => []
  | .root => [[]]
  | .doubleRoot => [[], []]

theorem isComponent_of_mem_components {t name : Text} (h : name ∈ components t) :
    IsComponent name := by
  obtain ⟨hpiece, hcounts⟩ := List.mem_filter.mp h
  obtain ⟨hnonempty, hdot⟩ := Bool.and_eq_true_iff.mp hcounts
  refine ⟨?_, ?_, Text.not_mem_of_mem_splitOn hpiece⟩
  · simpa using hnonempty
  · simpa using hdot

/-- A path that has been read from a text is made of components. -/
theorem isNormal_ofText (t : Text) : (ofText t).IsNormal :=
  fun _ hname => isComponent_of_mem_components hname

variable {p : Path}

/-- The text of a path is cut into its components. -/
theorem splitOn_toText (h : p.IsNormal) (hne : p.parts ≠ []) :
    p.toText.splitOn slash = anchorPieces p.anchor ++ p.parts := by
  obtain ⟨anchor, parts⟩ := p
  have hparts : (Text.join [slash] parts).splitOn slash = parts :=
    Text.splitOn_join hne fun name hname => (h name hname).whole
  cases anchor with
  | here =>
      cases parts with
      | nil => exact absurd rfl hne
      | cons name rest => exact hparts
  | root =>
      show Text.splitOn slash ([] ++ slash :: Text.join [slash] parts) = _
      rw [Text.splitOn_append_cons, hparts]
      rfl
  | doubleRoot =>
      show Text.splitOn slash ([slash] ++ slash :: Text.join [slash] parts) = _
      rw [Text.splitOn_append_cons, hparts]
      rfl

/-- The names between the slashes of its text are the components. -/
theorem names_toText (h : p.IsNormal) (hne : p.parts ≠ []) :
    ((p.toText.splitOn slash).filter fun name => !name.isEmpty) = p.parts := by
  have hkept : (p.parts.filter fun name => !name.isEmpty) = p.parts :=
    List.filter_eq_self.mpr fun name hname => by simpa using (h name hname).nonempty
  rw [splitOn_toText h hne, List.filter_append, hkept]
  cases p.anchor <;> rfl

/-- The text of a path does not end with a slash, if there are
    components. -/
theorem getLast?_toText (h : p.IsNormal) (hne : p.parts ≠ []) :
    (p.toText.getLast? == some slash) = false := by
  by_contra hlast
  obtain ⟨before, htext⟩ := List.getLast?_eq_some_iff.mp (by simpa using hlast)
  have hpieces := splitOn_toText h hne
  rw [htext, Text.splitOn_append_cons] at hpieces
  have hmem : [] ∈ p.parts := by
    have hend := congrArg List.getLast? hpieces
    rw [List.getLast?_append_of_ne_nil _ hne] at hend
    exact List.mem_of_getLast? (hend.symm.trans List.getLast?_concat)
  exact (h _ hmem).nonempty rfl

/-- The system walks along the components of a path, if there are any. -/
theorem steps_toText (h : p.IsNormal) (hne : p.parts ≠ []) :
    FileSystem.steps p.toText = p.parts := by
  unfold FileSystem.steps
  rw [names_toText h hne, getLast?_toText h hne]
  rfl

/-- What is joined from components does not start with a slash. -/
theorem head?_join_ne {parts : List Text} (h : ∀ name ∈ parts, IsComponent name) :
    (Text.join [slash] parts).head? ≠ some slash := by
  cases parts with
  | nil => exact fun hhead => nomatch hhead
  | cons name rest =>
      intro hhead
      have hname := h name (List.mem_cons_self ..)
      obtain ⟨c, more, hcons⟩ := List.exists_cons_of_ne_nil hname.nonempty
      have hfirst : (Text.join [slash] (name :: rest)).head? = some c := by
        cases rest with
        | nil => rw [hcons]; rfl
        | cons second others => rw [hcons]; rfl
      obtain rfl := Option.some.inj (hfirst.symm.trans hhead)
      exact hname.whole (hcons ▸ List.mem_cons_self ..)

/-- The text of a path starts with a slash exactly if it is absolute. -/
theorem head?_toText_eq (h : p.IsNormal) : (p.toText.head? == some slash) = p.isAbsolute := by
  obtain ⟨anchor, parts⟩ := p
  cases anchor with
  | root => rfl
  | doubleRoot => rfl
  | here =>
      cases parts with
      | nil => rfl
      | cons name rest => exact beq_false_of_ne (head?_join_ne h)

/-- A text that does not start with a slash has no slashes at its start. -/
theorem takeWhile_slash_eq_nil {t : Text} (h : t.head? ≠ some slash) :
    t.takeWhile (· == slash) = [] := by
  cases t with
  | nil => rfl
  | cons c rest =>
      refine List.takeWhile_cons_of_neg fun hc => h ?_
      rw [List.head?_cons, eq_of_beq hc]

theorem takeWhile_slash_cons (t : Text) :
    (slash :: t).takeWhile (· == slash) = slash :: t.takeWhile (· == slash) := by
  simp

/-- A path is absolute if its text starts with a slash. -/
theorem isAbsolute_ofText_eq (t : Text) : (ofText t).isAbsolute = (t.head? == some slash) := by
  unfold ofText isAbsolute anchorOf
  cases t with
  | nil => rfl
  | cons c rest =>
      by_cases hc : c = slash
      · subst hc
        rw [takeWhile_slash_cons, List.head?_cons, beq_self_eq_true]
        dsimp only
        split
        · rename_i hnone
          exact nomatch hnone
        · rfl
        · rfl
      · have hhead : (c :: rest).head? ≠ some slash := fun heq => hc (Option.some.inj heq)
        rw [takeWhile_slash_eq_nil hhead, beq_false_of_ne hhead]
        rfl

/-- A path is read back from its text. -/
theorem ofText_toText (h : p.IsNormal) : ofText p.toText = p := by
  obtain ⟨anchor, parts⟩ := p
  have hparts : components (toText ⟨anchor, parts⟩) = parts := by
    by_cases hne : parts = []
    · subst hne
      cases anchor <;> rfl
    · have hkept : (parts.filter fun name => !name.isEmpty && name != dot) = parts :=
        List.filter_eq_self.mpr fun name hname => by
          simpa using ⟨(h name hname).nonempty, (h name hname).not_dot⟩
      unfold components
      rw [splitOn_toText h hne, List.filter_append, hkept]
      cases anchor <;> rfl
  have hjoin := takeWhile_slash_eq_nil (head?_join_ne h)
  have hanchor : anchorOf (toText ⟨anchor, parts⟩) = anchor := by
    unfold anchorOf
    cases anchor with
    | here =>
        cases parts with
        | nil => rfl
        | cons name rest =>
            rw [show toText ⟨.here, name :: rest⟩ = Text.join [slash] (name :: rest) from rfl,
              hjoin]
            rfl
    | root =>
        rw [show toText ⟨.root, parts⟩ = slash :: Text.join [slash] parts from rfl,
          takeWhile_slash_cons, hjoin]
        rfl
    | doubleRoot =>
        rw [show toText ⟨.doubleRoot, parts⟩ = slash :: slash :: Text.join [slash] parts from rfl,
          takeWhile_slash_cons, takeWhile_slash_cons, hjoin]
        rfl
  unfold ofText
  rw [hanchor, hparts]

/-- A component counts. -/
theorem components_of_isComponent {name : Text} (h : IsComponent name) :
    ([name].filter fun name => !name.isEmpty && name != dot) = [name] :=
  List.filter_eq_self.mpr fun other hother => by
    obtain rfl := List.mem_singleton.mp hother
    simpa using ⟨h.nonempty, h.not_dot⟩

theorem head?_ne_of_isComponent {name : Text} (h : IsComponent name) : name.head? ≠ some slash := by
  intro hhead
  obtain ⟨rest, rfl⟩ := List.head?_eq_some_iff.mp hhead
  exact h.whole (List.mem_cons_self ..)

theorem components_inside (t : Text) {name : Text} (hname : IsComponent name) :
    components (Temporary.inside t name) = components t ++ [name] := by
  have hlast := components_of_isComponent hname
  have hwhole := Text.splitOn_of_not_mem hname.whole
  unfold Temporary.inside
  split
  · rename_i hend
    obtain ⟨before, rfl⟩ := List.getLast?_eq_some_iff.mp (eq_of_beq hend)
    unfold components
    rw [List.append_assoc, List.singleton_append, Text.splitOn_append_cons,
      Text.splitOn_append_cons, hwhole, List.filter_append, List.filter_append, hlast]
    congr 1
    exact (List.append_nil _).symm
  · unfold components
    rw [List.append_assoc, List.singleton_append, Text.splitOn_append_cons, hwhole,
      List.filter_append, hlast]

theorem anchorOf_inside {t name : Text} (ht : t ≠ []) (hname : IsComponent name) :
    anchorOf (Temporary.inside t name) = anchorOf t := by
  have hslashes := takeWhile_slash_eq_nil (head?_ne_of_isComponent hname)
  have hsame : (Temporary.inside t name).takeWhile (· == slash) = t.takeWhile (· == slash) := by
    unfold Temporary.inside
    split
    · rw [List.takeWhile_append, hslashes, List.append_nil]
      split
      · rename_i hall
        exact ((List.takeWhile_prefix _).eq_of_length hall).symm
      · rfl
    · rename_i hend
      rw [List.append_assoc, List.takeWhile_append, if_neg]
      intro hall
      have heq := (List.takeWhile_prefix _).eq_of_length hall
      have hmem : t.getLast ht ∈ t.takeWhile (· == slash) := by
        rw [heq]
        exact List.getLast_mem ht
      have hslash := List.mem_takeWhile_imp (p := fun c => c == slash) hmem
      refine hend ?_
      rw [List.getLast?_eq_some_getLast ht, eq_of_beq hslash]
      exact beq_self_eq_true _
  unfold anchorOf
  rw [hsame]

/-- The path of a name in a directory given by its text. -/
theorem ofText_inside {t name : Text} (ht : t ≠ []) (hname : IsComponent name) :
    ofText (Temporary.inside t name) = ⟨anchorOf t, components t ++ [name]⟩ := by
  unfold ofText
  rw [anchorOf_inside ht hname, components_inside t hname]

/-- A path continued by a component. -/
theorem child_eq {name : Text} (h : IsComponent name) (p : Path) :
    p.child name = ⟨p.anchor, p.parts ++ [name]⟩ := by
  have hanchor : anchorOf name = .here := by
    unfold anchorOf
    rw [takeWhile_slash_eq_nil (head?_ne_of_isComponent h)]
    rfl
  have hparts : components name = [name] := by
    unfold components
    rw [Text.splitOn_of_not_mem h.whole, components_of_isComponent h]
  unfold child join ofText
  rw [hanchor, hparts]
  rfl

/-! ## Absolute paths -/

/-- The text of an absolute path starts with a slash. -/
theorem head?_toText {p : Path} (h : p.isAbsolute = true) : p.toText.head? = some slash := by
  obtain ⟨anchor, parts⟩ := p
  cases anchor with
  | here => exact nomatch h
  | root => rfl
  | doubleRoot => rfl

theorem isAbsolute_child {p : Path} (h : p.isAbsolute = true) (t : Text) :
    (p.child t).isAbsolute = true := by
  unfold child join
  split
  · assumption
  · exact h

/-- A text that starts with a slash is that of an absolute path. -/
theorem isAbsolute_ofText {t : Text} (h : t.head? = some slash) : (ofText t).isAbsolute = true := by
  rw [isAbsolute_ofText_eq, h]
  exact beq_self_eq_true _

end Path

/-- An absolute path leads to the same place from every directory. -/
theorem FileSystem.locate_of_isAbsolute {p : Path} (h : p.isAbsolute = true) (fs : FileSystem)
    (here there : Location) (aim : Aim) :
    fs.locate here aim p.toText = fs.locate there aim p.toText := by
  unfold locate
  rw [Path.head?_toText h]
  rfl

end HermesBundle
