import HermesBundle.Project.Relative
import HermesBundle.Proofs.Project.RootSearch

/-! # Rendering — a shown path and the root give the path back

    A path is shown as it is seen from the project root if it is inside,
    and as it is otherwise.  Both it and the root have been resolved, so
    that neither links nor double dots are in the way:

    * the names behind those of the root, joined to the root, are the
      path again, and so is an absolute path, whatever it is joined to
      (`child_relativeTo`);
    * inside is a matter of whole names (`isAbsolute_relativeTo`);
    * the names of a resolved path are no double dots, so none are shown
      (`dotDot_not_mem_relativeTo`).

    What is shown therefore loses nothing (`relative_loses_nothing`). -/

namespace HermesBundle

namespace Project

open HermesBundle.Action FileSystem

variable {m after : Machine} {path p base : Path} {root : Option Path}

/-! ## What is shown of a settled path -/

/-- A path inside a root is shown by the names behind those of the root. -/
theorem relativeTo_of_isAbove (h : base.IsAbove p) :
    relativeTo base p = Path.toText ⟨.here, p.parts.drop base.parts.length⟩ := by
  unfold relativeTo
  rw [if_pos]
  simpa [Path.IsAbove] using h

/-- Any other path is shown as it is. -/
theorem relativeTo_of_not_isAbove (h : ¬base.IsAbove p) : relativeTo base p = p.toText := by
  unfold relativeTo
  rw [if_neg]
  simpa [Path.IsAbove] using h

/-- The names behind those of the root are components. -/
theorem isNormal_drop (h : p.IsSettled) (n : Nat) : Path.IsNormal ⟨.here, p.parts.drop n⟩ :=
  fun name hname => h.normal name (List.mem_of_mem_drop hname)

/-- **What is shown, joined to the root, is the path.** -/
theorem child_relativeTo (h : p.IsSettled) : base.child (relativeTo base p) = p := by
  unfold Path.child Path.join
  by_cases habove : base.IsAbove p
  · obtain ⟨hanchor, hparts⟩ := habove
    rw [relativeTo_of_isAbove ⟨hanchor, hparts⟩, Path.ofText_toText (isNormal_drop h _)]
    show Path.mk base.anchor (base.parts ++ p.parts.drop base.parts.length) = p
    rw [List.prefix_iff_eq_append.mp hparts, hanchor]
  · rw [relativeTo_of_not_isAbove habove, Path.ofText_toText h.normal, if_pos h.absolute]

/-- **What is shown is relative exactly for the paths inside the root.** -/
theorem isAbsolute_relativeTo (h : p.IsSettled) :
    (Path.ofText (relativeTo base p)).isAbsolute = false ↔ base.IsAbove p := by
  by_cases habove : base.IsAbove p
  · rw [relativeTo_of_isAbove habove, Path.ofText_toText (isNormal_drop h _)]
    exact iff_of_true rfl habove
  · rw [relativeTo_of_not_isAbove habove, Path.ofText_toText h.normal, h.absolute]
    exact iff_of_false (fun hrelative => nomatch hrelative) habove

/-- The text of a path has no double dots that its components do not
    have. -/
theorem dotDot_not_mem_toText (h : p.IsNormal) (hclimbless : dotDot ∉ p.parts) :
    dotDot ∉ p.toText.splitOn slash := by
  obtain ⟨anchor, parts⟩ := p
  by_cases hne : parts = []
  · subst hne
    cases anchor <;> decide
  · have hanchor : dotDot ∉ Path.anchorPieces anchor := by
      cases anchor <;> decide
    rw [Path.splitOn_toText h hne]
    exact fun hmem => (List.mem_append.mp hmem).elim hanchor hclimbless

/-- **No double dots are shown.** -/
theorem dotDot_not_mem_relativeTo (h : p.IsSettled) :
    dotDot ∉ (relativeTo base p).splitOn slash := by
  by_cases habove : base.IsAbove p
  · rw [relativeTo_of_isAbove habove]
    exact dotDot_not_mem_toText (isNormal_drop h _) fun hmem =>
      h.climbless (List.mem_of_mem_drop hmem)
  · rw [relativeTo_of_not_isAbove habove]
    exact dotDot_not_mem_toText h.normal h.climbless

/-! ## Showing a path -/

/-- The root that paths are seen from, resolved: one that is given, or the
    project root of the current directory. -/
def resolvedRoot (root : Option Path) : Action Path :=
  (match root with
    | some root => pure root
    | none => findRoot none) >>= resolve

/-- A path is shown in three steps. -/
theorem relative_eq (path : Path) (root : Option Path) :
    relative path root = (do
      let p ← resolve path
      let base ← resolvedRoot root
      return relativeTo base p) := by
  unfold relative resolvedRoot
  cases root <;> simp only [bind_assoc, pure_bind]

/-- Whether a path and a root can be resolved on a machine, and to what.
    Looking for the root may change what the machine remembers. -/
structure Resolves (m : Machine) (path : Path) (root : Option Path) (p base : Path)
    (after : Machine) : Prop where
  normal : path.IsNormal
  plain : m.StandsPlainly
  shown : (resolve path).Gives m p m
  from_root : (resolvedRoot root).Gives m base after

/-- Resolved paths are settled. -/
theorem Resolves.isSettled (h : Resolves m path root p base after) : p.IsSettled :=
  isSettled_of_resolve h.shown h.normal h.plain

/-- What resolves is shown. -/
theorem Resolves.gives (h : Resolves m path root p base after) :
    (relative path root).Gives m (relativeTo base p) after := by
  rw [relative_eq]
  exact gives_bind.mpr ⟨p, m, h.shown, gives_bind.mpr ⟨base, after, h.from_root, rfl⟩⟩

/-- Whether a text shows a path from a root. -/
structure Shows (base p : Path) (shown : Text) : Prop where
  /-- Joined to the root it is the path. -/
  joined : base.child shown = p
  /-- It is relative for the paths inside the root. -/
  relative_iff : (Path.ofText shown).isAbsolute = false ↔ base.IsAbove p
  /-- It has no double dots. -/
  climbless : dotDot ∉ shown.splitOn slash

/-- **A path that is shown loses nothing**: the resolved root gives the
    resolved path back, so two paths that resolve, whenever that is, are
    shown alike from one root if and only if they resolve to the same. -/
theorem relative_loses_nothing (h : Resolves m path root p base after) :
    ∃ shown, (relative path root).Gives m shown after ∧ Shows base p shown
      ∧ ∀ {m' after' : Machine} {path' p' : Path} {root' : Option Path} {shown' : Text},
        Resolves m' path' root' p' base after' → (relative path' root').Gives m' shown' after' →
        (shown' = shown ↔ p' = p) := by
  have hsettled := h.isSettled
  refine ⟨relativeTo base p, h.gives,
    ⟨child_relativeTo hsettled, isAbsolute_relativeTo hsettled, dotDot_not_mem_relativeTo hsettled⟩,
    fun {m' after' path' p' root' shown'} h' hshown' => ?_⟩
  obtain ⟨rfl, -⟩ := hshown'.unique h'.gives
  constructor
  · intro hsame
    rw [← child_relativeTo h'.isSettled, hsame, child_relativeTo hsettled]
  · rintro rfl
    rfl

/-! ## Example -/

/-- A machine with a link into a project, and a sibling of the project
    whose name starts with the project's. -/
def linkedMachine : Machine :=
  machineAt
    [(["home"], .directory), (["home", "app"], .directory), (["home", "app", "src"], .directory),
      (["home", "app-old"], .directory), (["home", "link"], .link "app/src")]
    ["home"]

theorem linkedMachine_standsPlainly : linkedMachine.StandsPlainly := by
  intro _ name hname
  obtain rfl := List.mem_singleton.mp hname
  constructor
  · decide
  · decide
  · decide

/-- A path that goes up behind the link resolves into the project. -/
theorem resolves_linked :
    Resolves linkedMachine (Path.ofString "link/../main.js") (some (Path.ofString "app"))
      (Path.ofString "/home/app/main.js") (Path.ofString "/home/app") linkedMachine where
  normal := Path.isNormal_ofText _
  plain := linkedMachine_standsPlainly
  shown := by cbv
  from_root := by cbv

theorem resolves_direct :
    Resolves linkedMachine (Path.ofString "app/main.js") (some (Path.ofString "app"))
      (Path.ofString "/home/app/main.js") (Path.ofString "/home/app") linkedMachine where
  normal := Path.isNormal_ofText _
  plain := linkedMachine_standsPlainly
  shown := by cbv
  from_root := by cbv

/-- It is shown as the path without the link is. -/
theorem relative_loses_nothing_linked :
    Resolves linkedMachine (Path.ofString "link/../main.js") (some (Path.ofString "app"))
        (Path.ofString "/home/app/main.js") (Path.ofString "/home/app") linkedMachine
      ∧ ∃ shown, (relative (Path.ofString "link/../main.js") (some (Path.ofString "app"))).Gives
          linkedMachine shown linkedMachine
        ∧ Shows (Path.ofString "/home/app") (Path.ofString "/home/app/main.js") shown
        ∧ (relative (Path.ofString "app/main.js") (some (Path.ofString "app"))).Gives
          linkedMachine shown linkedMachine := by
  obtain ⟨shown, hgives, hshows, halike⟩ := relative_loses_nothing resolves_linked
  have hdirect := resolves_direct.gives
  obtain hsame := (halike resolves_direct hdirect).mpr rfl
  exact ⟨resolves_linked, shown, hgives, hshows, hsame ▸ hdirect⟩

/-- The sibling is not inside. -/
example : (relative (Path.ofString "app-old/main.js") (some (Path.ofString "app"))).Gives
    linkedMachine "/home/app-old/main.js" linkedMachine := by
  cbv

end Project

end HermesBundle
