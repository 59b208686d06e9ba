import HermesBundle.Project.Modules
import HermesBundle.Proofs.Project.RootSearch

/-! # Module search — two candidates in each directory on one way up

    A request for a module is looked up in one directory after the other.
    In each of them two files can answer it, the one with the exact name
    and the one with the script suffix, and only regular files do.  So the
    nearest directory with either file answers (`Request.Finds`), whatever
    is above it and whatever else has the exact name.

    As in the search for a root, a look that the system refuses ends the
    search where it is.  The loop passes directories with neither file
    (`Request.exists_finds`), so it finds what it should and nothing else
    (`resolveModule_finds_iff`).

    The suffix makes a name longer.  A request can be short enough for the
    system and the script too long, and then the search does not get to
    the file above that has the exact name (`suffix_too_long`). -/

namespace HermesBundle

namespace Project

open HermesBundle.Action FileSystem

/-- Whether a path leads to a regular file. -/
def IsFile (m : Machine) (path : Path) : Prop :=
  m.LeadsTo
    (fun
      | .file _ _ => true
      | _ => false)
    path

/-- A file of a module below a directory. -/
def moduleFile (d : Path) (names : List Text) : Path :=
  ⟨d.anchor, d.parts ++ [Text.ofString modulesDirectory] ++ names⟩

/-- A request by its names. -/
structure Request where
  before : List Text
  last : Text

namespace Request

variable {m : Machine} {r : Request} {p d path other : Path} {text : Text}

/-- Whether a text is that of a request: it is relative and ends in a
    name. -/
def IsOf (r : Request) (text : Text) : Prop := Path.ofText text = ⟨.here, r.before ++ [r.last]⟩

/-- The file that has the exact name. -/
def exact (r : Request) (d : Path) : Path := moduleFile d (r.before ++ [r.last])

/-- The file that has the script suffix. -/
def script (r : Request) (d : Path) : Path :=
  moduleFile d (r.before ++ [r.last ++ Text.ofString scriptSuffix])

/-- The candidates for a request are the two files. -/
theorem IsOf.candidates_eq (h : r.IsOf text) (d : Path) :
    candidates d text = some (r.exact d, r.script d) := by
  have hmodules : d.childNamed modulesDirectory
      = ⟨d.anchor, d.parts ++ [Text.ofString modulesDirectory]⟩ := rfl
  have hexact : requestPath d text = r.exact d := by
    unfold requestPath Path.child Path.join
    rw [h, hmodules]
    rfl
  unfold candidates
  rw [hexact]
  unfold exact script moduleFile Path.withName? Path.name
  simp [← List.append_assoc]

/-! ## What a search comes to -/

/-- Whether a directory has a file for a request. -/
def Offers (m : Machine) (r : Request) (d : Path) : Prop :=
  IsFile m (r.exact d) ∨ IsFile m (r.script d)

/-- Whether a search that comes to a directory looks at a path there: the
    script comes after the exact name. -/
def LooksAt (m : Machine) (r : Request) (d path : Path) : Prop :=
  path = r.exact d
    ∨ path = r.script d ∧ ¬IsFile m (r.exact d) ∧ ¬m.Refuses (r.exact d)

/-- Whether a search that comes to a directory is refused a look there. -/
def IsStopped (m : Machine) (r : Request) (d : Path) : Prop :=
  ∃ path, LooksAt m r d path ∧ m.Refuses path

/-- What a search for a request upwards from a path finds. -/
inductive Finds (m : Machine) (r : Request) (p : Path) : Except Failure (Option Path) → Prop
  /-- A file of the nearest directory that has one. -/
  | found {d path : Path} : IsNearest (Offers m r) p d → LooksAt m r d path → IsFile m path →
      (∀ other, other.IsAbove p → d.IsAbove other → ¬IsStopped m r other) →
      Finds m r p (.ok (some path))
  /-- No directory has a file. -/
  | missing : (∀ other, other.IsAbove p → ¬Offers m r other) →
      (∀ other, other.IsAbove p → ¬IsStopped m r other) → Finds m r p (.ok none)
  /-- A look is refused before a file has been found. -/
  | refused {d path : Path} : IsNearest (IsStopped m r) p d →
      (∀ other, other.IsAbove p → d.IsAbove other → other ≠ d → ¬Offers m r other) →
      LooksAt m r d path → m.Refuses path → Finds m r p (.error (refusal path))

/-- The first of the two candidates that is a file, or is refused, is the
    last one looked at. -/
theorem LooksAt.unique (h : LooksAt m r d path) (hends : IsFile m path ∨ m.Refuses path)
    (h' : LooksAt m r d other) (hends' : IsFile m other ∨ m.Refuses other) : path = other := by
  rcases h with rfl | ⟨rfl, hfile, hfollows⟩
  · rcases h' with rfl | ⟨rfl, hfile, hfollows⟩
    · rfl
    · exact (hends.elim hfile hfollows).elim
  · rcases h' with rfl | ⟨rfl, -⟩
    · exact (hends'.elim hfile hfollows).elim
    · rfl

/-- **A search finds one thing.** -/
theorem Finds.unique {found found' : Except Failure (Option Path)} (h : Finds m r p found)
    (h' : Finds m r p found') : found = found' := by
  cases h with
  | found hnearest hlooks hfile hgoes =>
      cases h' with
      | found hnearest' hlooks' hfile' _ =>
          obtain rfl := hnearest.unique hnearest'
          rw [hlooks.unique (.inl hfile) hlooks' (.inl hfile')]
      | missing hnone _ => exact absurd hnearest.meets (hnone _ hnearest.above)
      | refused hstopped hbefore _ _ => exact (hnearest.elim hgoes hstopped hbefore).elim
  | missing hnone hgoes =>
      cases h' with
      | found hnearest' _ _ _ => exact absurd hnearest'.meets (hnone _ hnearest'.above)
      | missing _ _ => rfl
      | refused hstopped' _ _ _ => exact absurd hstopped'.meets (hgoes _ hstopped'.above)
  | refused hstopped hbefore hlooks hrefused =>
      cases h' with
      | found hnearest' _ _ hgoes' => exact (hnearest'.elim hgoes' hstopped hbefore).elim
      | missing _ hgoes' => exact absurd hstopped.meets (hgoes' _ hstopped.above)
      | refused hstopped' _ hlooks' hrefused' =>
          obtain rfl := hstopped.unique hstopped'
          rw [hlooks.unique (.inr hrefused) hlooks' (.inr hrefused')]

/-! ## The loop -/

variable {nearer farther : List Path}

/-- Whether a search has passed some directories: none of them has a file
    or has stopped it. -/
structure HasPassed (m : Machine) (r : Request) (nearer : List Path) : Prop where
  fileless : ∀ other ∈ nearer, ¬Offers m r other
  unstopped : ∀ other ∈ nearer, ¬IsStopped m r other

theorem HasPassed.concat (h : HasPassed m r nearer) (hfileless : ¬Offers m r d)
    (hgoes : ¬IsStopped m r d) : HasPassed m r (nearer ++ [d]) where
  fileless := List.forall_mem_append.mpr ⟨h.fileless, List.forall_mem_singleton.mpr hfileless⟩
  unstopped := List.forall_mem_append.mpr ⟨h.unstopped, List.forall_mem_singleton.mpr hgoes⟩

/-- A file that is looked at ends the search. -/
theorem HasPassed.finds_found (h : HasPassed m r nearer)
    (hsplit : ancestors p = nearer ++ d :: farther) (hlooks : LooksAt m r d path)
    (hfile : IsFile m path) : Finds m r p (.ok (some path)) := by
  have hoffers : Offers m r d := by
    rcases hlooks with rfl | ⟨rfl, -⟩
    · exact .inl hfile
    · exact .inr hfile
  refine .found (.of_split hsplit hoffers h.fileless) hlooks hfile fun below hbelow hup => ?_
  rcases mem_nearer_or_eq hsplit hbelow hup with hnear | rfl
  · exact h.unstopped below hnear
  · rintro ⟨stop, hlooks', hrefused⟩
    obtain rfl := hlooks.unique (.inl hfile) hlooks' (.inr hrefused)
    exact hfile.not_refuses hrefused

/-- A look that is refused ends the search, too. -/
theorem HasPassed.finds_refused (h : HasPassed m r nearer)
    (hsplit : ancestors p = nearer ++ d :: farther) (hlooks : LooksAt m r d path)
    (hrefused : m.Refuses path) : Finds m r p (.error (refusal path)) :=
  .refused (.of_split hsplit ⟨path, hlooks, hrefused⟩ h.unstopped)
    (fun below hbelow hup hne =>
      h.fileless below ((mem_nearer_iff hsplit).mpr ⟨hbelow, hup, hne⟩))
    hlooks hrefused

/-- A search that has passed the root finds nothing. -/
theorem HasPassed.finds_missing (h : HasPassed m r (ancestors p)) : Finds m r p (.ok none) :=
  .missing (fun other hother => h.fileless other (mem_ancestors.mpr hother))
    fun other hother => h.unstopped other (mem_ancestors.mpr hother)

/-- **The loop finds what a search finds.** -/
theorem exists_finds (htext : r.IsOf text) {dirs : List Path}
    (hsplit : ancestors p = nearer ++ dirs) (hpassed : HasPassed m r nearer) :
    ∃ found, (searchModule text dirs).perform m = (found, m) ∧ Finds m r p found := by
  induction dirs generalizing nearer with
  | nil =>
      rw [List.append_nil] at hsplit
      exact ⟨.ok none, rfl, (hsplit ▸ hpassed).finds_missing⟩
  | cons d rest ih =>
      unfold searchModule Action.isFile
      rw [htext.candidates_eq d]
      dsimp only
      rcases leadsTo_cases _ (r.exact d) m with
        ⟨hfile, hlook⟩ | ⟨hrefused, hlook⟩ | ⟨hfile, hfollows, hlook⟩
      · exact ⟨_, perform_bind_of_gives hlook _, hpassed.finds_found hsplit (.inl rfl) hfile⟩
      · exact ⟨_, perform_bind_of_failsWith hlook _,
          hpassed.finds_refused hsplit (.inl rfl) hrefused⟩
      · rw [perform_bind_of_gives hlook]
        have hlooks : LooksAt m r d (r.script d) := .inr ⟨rfl, hfile, hfollows⟩
        rcases leadsTo_cases _ (r.script d) m with
          ⟨hscript, hends⟩ | ⟨hrefused, hends⟩ | ⟨hscript, hplain, hends⟩
        · exact ⟨_, perform_bind_of_gives hends _, hpassed.finds_found hsplit hlooks hscript⟩
        · exact ⟨_, perform_bind_of_failsWith hends _,
            hpassed.finds_refused hsplit hlooks hrefused⟩
        · have hnext : ancestors p = (nearer ++ [d]) ++ rest := by
            rw [List.append_assoc]
            exact hsplit
          have hgoes : ¬IsStopped m r d := by
            rintro ⟨stop, rfl | ⟨rfl, -⟩, hrefused⟩
            · exact hfollows hrefused
            · exact hplain hrefused
          obtain ⟨found, hfound, hfinds⟩ :=
            ih hnext (hpassed.concat (fun hoffers => hoffers.elim hfile hscript) hgoes)
          exact ⟨found, (perform_bind_of_gives hends _).trans hfound, hfinds⟩

end Request

/-- **A module is found in the nearest directory that has a file for it**,
    by its exact name first, or not at all, unless the search is refused a
    look before. -/
theorem resolveModule_finds_iff {m : Machine} {project p : Path} {text : Text} {r : Request}
    {outcome : Except Failure (Option Path)} (hproject : (resolve project).Gives m p m)
    (htext : r.IsOf text) :
    ((resolveModule project text).perform m).1 = outcome ↔ Request.Finds m r p outcome := by
  have hbegun : Request.HasPassed m r [] := ⟨fun _ h => (nomatch h), fun _ h => nomatch h⟩
  obtain ⟨found, hfound, hfinds⟩ :=
    Request.exists_finds htext (List.nil_append (ancestors p)).symm hbegun
  unfold resolveModule
  rw [perform_bind_of_gives hproject, hfound]
  constructor
  · rintro rfl
    exact hfinds
  · exact fun houtcome => hfinds.unique houtcome

/-! ## Examples -/

/-- A package inside another one.  Both have a module, the inner one as a
    script beside a directory. -/
def modulesMachine : Machine :=
  machineAt
    [(["home"], .directory), (["home", "node_modules"], .directory),
      (["home", "node_modules", "tool"], .file [] false), (["home", "app"], .directory),
      (["home", "app", "node_modules"], .directory),
      (["home", "app", "node_modules", "tool"], .directory),
      (["home", "app", "node_modules", "tool.js"], .file [] false)]
    ["home"]

/-- The request for that module. -/
def toolRequest : Request := ⟨[], "tool"⟩

/-- The nearer script counts. -/
theorem resolveModule_finds_tool :
    (resolve (Path.ofString "app")).Gives modulesMachine (Path.ofString "/home/app") modulesMachine
      ∧ toolRequest.IsOf "tool"
      ∧ Request.Finds modulesMachine toolRequest (Path.ofString "/home/app")
        (.ok (some (Path.ofString "/home/app/node_modules/tool.js"))) := by
  have hproject : (resolve (Path.ofString "app")).Gives modulesMachine
      (Path.ofString "/home/app") modulesMachine := by cbv
  have htext : toolRequest.IsOf "tool" := rfl
  refine ⟨hproject, htext, (resolveModule_finds_iff hproject htext).mp ?_⟩
  cbv

/-- A name that an entry can have, but not with the script suffix. -/
def tightName : Text := List.replicate 253 'm'

/-- The request for a module of that name. -/
def tightRequest : Request := ⟨[], tightName⟩

/-- A package with a module of that name, and a package without inside. -/
def tightMachine : Machine :=
  machineAt
    [(["home"], .directory), (["home", "node_modules"], .directory),
      (["home", "node_modules", tightName], .file [] false), (["home", "app"], .directory),
      (["home", "app", "node_modules"], .directory)]
    ["home"]

set_option maxRecDepth 20000 in
/-- **A search can be refused to look for a script**, and then it does not
    find the file above. -/
theorem suffix_too_long :
    (resolve (Path.ofString "app")).Gives tightMachine (Path.ofString "/home/app") tightMachine
      ∧ tightRequest.IsOf tightName
      ∧ (Path.ofString "/home").IsAbove (Path.ofString "/home/app")
      ∧ IsFile tightMachine (tightRequest.exact (Path.ofString "/home"))
      ∧ ((resolveModule (Path.ofString "app") tightName).perform tightMachine).1
        = .error (refusal (tightRequest.script (Path.ofString "/home/app"))) := by
  refine ⟨by cbv, by cbv, ⟨rfl, by decide⟩, ⟨by cbv, .file [] false, by cbv, rfl⟩, ?_⟩
  cbv

end Project

end HermesBundle
