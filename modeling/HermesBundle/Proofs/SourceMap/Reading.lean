import HermesBundle.Proofs.Outcomes
import HermesBundle.SourceMap.Assembly
import HermesBundle.SourceMap.Document

/-! # Reading — what the parts of a document come to

    A segment is read if its coordinates can be shifted and its indices
    have entries (`place_bare_eq_ok`, `place_located_eq_ok`).  A document
    is read by its members: one that was assembled declares its version
    and has its tables and its mappings text, whatever file and contents
    it was given and whatever extensions stand behind its own members. -/

namespace HermesBundle.SourceMap

open Outcome

/-- The items of an array member. -/
theorem arrayMember_of_arr {doc : Json} {name : String} {items : List Json}
    (h : member doc name = .arr items) : arrayMember doc name = .ok items := by
  unfold arrayMember
  rw [h]
  cases items with
  | nil => rfl
  | cons x rest => rfl

/-- Without a source root sources are as they are listed. -/
theorem sourceNames_of_arr {members : List (Text × Json)} {items : List Json}
    (hsources : member (.obj members) "sources" = .arr items)
    (hroot : member (.obj members) "sourceRoot" = .null) :
    sourceNames (.obj members) = .ok items := by
  have hjoin : ∀ x ∈ items, joinRoot .null x = .ok (id x) := by
    intro x _
    cases x with
    | str s => rfl
    | _ => rfl
  simp only [sourceNames, arrayMember_of_arr hsources, hroot]
  rw [mapM_of_forall hjoin, List.map_id]

/-! ## Segments -/

/-- The entry of a name that a segment may have. -/
def nameAt (names : List Json) : Option Int → Except Fault Json
  | none => .ok .null
  | some index => entryAt .names names index

/-- A segment with a column only is read if its position can be shifted. -/
theorem place_bare_eq_ok {sources names : List Json} {lineOffset columnOffset : Json}
    {line : Nat} {c : Int} {m : Mapping} :
    place sources names lineOffset columnOffset line ⟨c, none⟩ = .ok m
      ↔ ∃ column, shift c (if line = 0 then columnOffset else .int 0) = .ok column
        ∧ ∃ l, shift line lineOffset = .ok l ∧ Mapping.bare l column = m := by
  simp only [place, bind_eq_ok, pure_eq_ok]

/-- A segment with an origin is read if its position can be shifted and
    the tables have entries at its indices. -/
theorem place_located_eq_ok {sources names : List Json} {lineOffset columnOffset : Json}
    {line : Nat} {c : Int} {o : Origin} {m : Mapping} :
    place sources names lineOffset columnOffset line ⟨c, some o⟩ = .ok m
      ↔ ∃ column, shift c (if line = 0 then columnOffset else .int 0) = .ok column
        ∧ ∃ name, nameAt names o.name = .ok name
        ∧ ∃ l, shift line lineOffset = .ok l
        ∧ ∃ source, entryAt .sources sources o.source = .ok source
        ∧ Mapping.mk l column source (.int o.line) (.int o.column) name = m := by
  obtain ⟨source, l, sourceColumn, name⟩ := o
  cases name with
  | none =>
      simp only [place, nameAt, pure_bind, bind_eq_ok, pure_eq_ok, Except.ok.injEq,
        exists_eq_left']
  | some index => simp only [place, nameAt, bind_eq_ok, pure_eq_ok]

/-! ## Assembled documents -/

namespace Assembled

/-- The document with extensions behind its own members. -/
def extended (a : Assembled) (extensions : List (Text × Json)) : Json :=
  .obj (a.members ++ extensions)

variable (a : Assembled) (extensions : List (Text × Json))

theorem extended_nil : a.extended [] = a.toJson := by
  unfold extended toJson
  rw [List.append_nil]

theorem extended_sources : (a.extended extensions).get? "sources" = some (.arr a.sources) := by
  show Entries.find? (a.members ++ extensions) (Text.ofString "sources") = _
  unfold members
  cases a.file.isTruthy <;> rfl

theorem extended_names : (a.extended extensions).get? "names" = some (.arr a.names) := by
  show Entries.find? (a.members ++ extensions) (Text.ofString "names") = _
  unfold members
  cases a.file.isTruthy <;> cases a.contents <;> rfl

theorem extended_mappings :
    (a.extended extensions).get? "mappings" = some (.str a.mappings) := by
  show Entries.find? (a.members ++ extensions) (Text.ofString "mappings") = _
  unfold members
  cases a.file.isTruthy <;> cases a.contents <;> rfl

theorem extended_file :
    (a.extended extensions).get? "file"
      = if a.file.isTruthy then some a.file else Entries.find? extensions "file" := by
  show Entries.find? (a.members ++ extensions) (Text.ofString "file") = _
  unfold members
  cases a.file.isTruthy <;> cases a.contents <;> rfl

theorem extended_contents :
    (a.extended extensions).get? "sourcesContent"
      = (a.contents.map .arr).or (Entries.find? extensions "sourcesContent") := by
  show Entries.find? (a.members ++ extensions) (Text.ofString "sourcesContent") = _
  unfold members
  cases a.file.isTruthy <;> cases a.contents <;> rfl

/-- The names of the members that a document may have of its own. -/
def memberNames : List String :=
  ["version", "file", "sources", "sourcesContent", "names", "mappings"]

/-- A member of another name is that of the extensions. -/
theorem extended_other {name : String} (h : name ∉ memberNames) :
    (a.extended extensions).get? (Text.ofString name)
      = Entries.find? extensions (Text.ofString name) := by
  have hne : ∀ own ∈ memberNames, Text.ofString own ≠ Text.ofString name :=
    fun own hown heq => h (Text.ofString_inj.mp heq ▸ hown)
  simp only [memberNames, List.forall_mem_cons] at hne
  obtain ⟨hversion, hfile, hsources, hcontents, hnames, hmappings, -⟩ := hne
  show Entries.find? (a.members ++ extensions) (Text.ofString name) = _
  unfold members
  cases a.file.isTruthy <;> cases a.contents <;>
    simp [Entries.find?, hversion, hfile, hsources, hcontents, hnames, hmappings]

theorem extended_sections :
    (a.extended extensions).get? "sections" = Entries.find? extensions "sections" :=
  a.extended_other extensions (by decide)

theorem extended_sourceRoot :
    (a.extended extensions).get? "sourceRoot" = Entries.find? extensions "sourceRoot" :=
  a.extended_other extensions (by decide)

/-- Without a source root among the extensions the sources are the
    document's own. -/
theorem sourceNames_extended (hroot : Entries.find? extensions "sourceRoot" = none) :
    sourceNames (a.extended extensions) = .ok a.sources := by
  refine sourceNames_of_arr ?_ ?_
  · exact congrArg (·.getD .null) (a.extended_sources extensions)
  · exact congrArg (·.getD .null) ((a.extended_sourceRoot extensions).trans hroot)

/-- A document whose extensions bring neither sections nor a source root
    is read with its own tables. -/
theorem parse_extended (hsections : Entries.find? extensions "sections" = none)
    (hroot : Entries.find? extensions "sourceRoot" = none) :
    parse (a.extended extensions)
      = (Mappings.decode a.mappings >>= placeLines a.sources a.names (.int 0) (.int 0) 0) := by
  have hnames : arrayMember (a.extended extensions) "names" = .ok a.names :=
    arrayMember_of_arr (congrArg (·.getD .null) (a.extended_names extensions))
  have hversion : requireVersion (a.extended extensions) = .ok () := rfl
  unfold parse
  rw [bind_of_eq_ok hversion, a.extended_sections extensions, hsections]
  show parseBasic _ _ _ = _
  unfold parseBasic
  rw [bind_of_eq_ok (a.sourceNames_extended extensions hroot), a.extended_mappings extensions,
    hnames]
  rfl

end Assembled

end HermesBundle.SourceMap
