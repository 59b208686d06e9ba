import HermesBundle.Proofs.CommandLine.EngineCheck
import HermesBundle.Proofs.Engine.Properties

/-! # Build scripts — which texts make a setting

    A build script makes a setting where a line starts with it: blanks,
    the key, blanks, the value, at most one comma and a blank (`Sets`).
    The blanks may hold line breaks.  A script is searched for such a
    place:

    * a pattern is taken off a text that starts with a word that fits it
      (`dropPattern_eq_some_iff`), and blanks are taken off up to the key
      and up to the value, which start with none
      (`startsWithSetting_iff`);
    * a line starts at the start of the script and behind every line break
      (`mem_lineStarts_iff`), so the search finds the setting wherever it
      is (`hasSetting_iff`);
    * what an engine check makes of a project whose script is its only
      native file is settled by two such searches (`scriptLaw`). -/

namespace HermesBundle.Engine

open HermesBundle.Action HermesBundle.CommandLine

/-! ## Patterns -/

/-- Whether a slot accepts a code point. -/
def Slot.Accepts : Slot → CodePoint → Prop
  | .exact c, d => c = d
  | .anyOfLine, d => d ≠ lineBreak

/-- Whether a word fits a pattern, slot by slot. -/
def Fits (pattern : List Slot) (word : Text) : Prop := List.Forall₂ Slot.Accepts pattern word

/-- **A pattern is taken off a word that fits it.** -/
theorem dropPattern_eq_some_iff {pattern : List Slot} {t rest : Text} :
    dropPattern pattern t = some rest ↔ ∃ word, t = word ++ rest ∧ Fits pattern word := by
  induction pattern generalizing t with
  | nil =>
      constructor
      · intro h
        exact ⟨[], Option.some.inj h, .nil⟩
      · rintro ⟨word, rfl, hfits⟩
        obtain rfl := List.forall₂_nil_left_iff.mp hfits
        rfl
  | cons slot slots ih =>
      have hsplit : (∃ word, t = word ++ rest ∧ Fits (slot :: slots) word)
          ↔ ∃ d more, t = d :: more ∧ slot.Accepts d ∧ ∃ word, more = word ++ rest
            ∧ Fits slots word := by
        constructor
        · rintro ⟨word, rfl, hfits⟩
          obtain ⟨d, more, hd, hmore, rfl⟩ := List.forall₂_cons_left_iff.mp hfits
          exact ⟨d, more ++ rest, rfl, hd, more, rfl, hmore⟩
        · rintro ⟨d, more, rfl, hd, word, rfl, hmore⟩
          exact ⟨d :: word, rfl, .cons hd hmore⟩
      rw [hsplit]
      cases t with
      | nil =>
          cases slot <;> exact ⟨fun h => (nomatch h), fun ⟨_, _, h, _⟩ => (nomatch h)⟩
      | cons c tail =>
          have hdrop : dropPattern (slot :: slots) (c :: tail) = some rest
              ↔ slot.Accepts c ∧ dropPattern slots tail = some rest := by
            cases slot with
            | exact expected =>
                by_cases hc : expected = c
                · simp [dropPattern, Slot.Accepts, hc]
                · simp [dropPattern, Slot.Accepts, hc]
            | anyOfLine =>
                show (if c = lineBreak then none else dropPattern slots tail) = some rest
                  ↔ c ≠ lineBreak ∧ dropPattern slots tail = some rest
                by_cases hc : c = lineBreak
                · simp [hc]
                · simp [hc]
          rw [hdrop, ih]
          constructor
          · rintro ⟨haccepts, hrest⟩
            exact ⟨c, tail, rfl, haccepts, hrest⟩
          · rintro ⟨d, more, heq, haccepts, hrest⟩
            obtain ⟨rfl, rfl⟩ := List.cons.inj heq
            exact ⟨haccepts, hrest⟩

/-- A word fits two patterns in a row if it has a part for each. -/
theorem fits_append_iff {first second : List Slot} {word : Text} :
    Fits (first ++ second) word ↔ ∃ u v, word = u ++ v ∧ Fits first u ∧ Fits second v := by
  constructor
  · intro h
    refine ⟨word.take first.length, word.drop first.length, (List.take_append_drop ..).symm, ?_⟩
    have hparts := List.forall₂_take first.length h
    have hrest := List.forall₂_drop first.length h
    rw [List.take_left] at hparts
    rw [List.drop_left] at hrest
    exact ⟨hparts, hrest⟩
  · rintro ⟨u, v, rfl, hu, hv⟩
    exact List.rel_append hu hv

/-- Only the text itself fits its pattern. -/
theorem fits_exactly_iff {s : String} {word : Text} :
    Fits (exactly s) word ↔ word = Text.ofString s := by
  rw [Fits, exactly, List.forall₂_map_left_iff]
  show List.Forall₂ (fun c d => c = d) _ _ ↔ _
  rw [List.forall₂_eq_eq_eq]
  exact eq_comm

/-! ## Settings at the start of a text -/

/-- The name of the setting, with its colon. -/
def settingName : Text := Text.ofString "enableHermes:"

/-- Whether a text starts with the setting of a value of some kind. -/
inductive StartsWith (Values : Text → Prop) : Text → Prop where
  | intro {lead gap value comma rest : Text} {blank : CodePoint} : lead.IsBlank → gap.IsBlank →
      Values value → (comma = [] ∨ comma = Text.ofString ",") → blank.isBlank = true →
      StartsWith Values (lead ++ (settingName ++ (gap ++ (value ++ (comma ++ blank :: rest)))))

/-- Whether a pattern is that of some values, none of which starts with a
    blank. -/
structure IsPatternOf (pattern : List Slot) (Values : Text → Prop) : Prop where
  fits : ∀ word, Fits pattern word ↔ Values word
  noBlank : ∀ word rest, Values word → ∀ c ∈ (word ++ rest).head?, c.isBlank = false

/-- What has to follow the value: a blank, and one comma may stand before
    it. -/
theorem ends_iff {t : Text} :
    (match t with
      | [] => false
      | c :: rest =>
          if c = CodePoint.ofChar ',' then (rest.head?.map CodePoint.isBlank).getD false
          else c.isBlank) = true
      ↔ ∃ comma blank rest, t = comma ++ blank :: rest ∧ (comma = [] ∨ comma = Text.ofString ",")
        ∧ blank.isBlank = true := by
  constructor
  · intro h
    cases t with
    | nil => exact nomatch h
    | cons c rest =>
        dsimp only at h
        by_cases hc : c = CodePoint.ofChar ','
        · rw [if_pos hc] at h
          cases rest with
          | nil => exact nomatch h
          | cons d more => exact ⟨[c], d, more, rfl, .inr (by rw [hc]; rfl), h⟩
        · rw [if_neg hc] at h
          exact ⟨[], c, rest, rfl, .inl rfl, h⟩
  · rintro ⟨comma, blank, rest, rfl, rfl | rfl, hblank⟩
    · show (if blank = CodePoint.ofChar ',' then _ else blank.isBlank) = true
      rw [if_neg]
      · exact hblank
      · rintro rfl
        exact absurd hblank (by decide)
    · exact hblank

section
variable {pattern : List Slot} {Values : Text → Prop} {t : Text}

/-- **A text starts with a setting** if the reader of the start finds its
    parts. -/
theorem startsWithSetting_iff (hpattern : IsPatternOf pattern Values) :
    startsWithSetting pattern t = true ↔ StartsWith Values t := by
  constructor
  · intro h
    obtain ⟨lead, ht, hlead, -⟩ := Text.exists_dropWhile t
    rw [startsWithSetting] at h
    cases hkey : dropPattern (exactly "enableHermes:") (dropBlanks t) with
    | none =>
        rw [hkey] at h
        exact nomatch h
    | some afterKey =>
        rw [hkey] at h
        dsimp only at h
        obtain ⟨gap, hgap, hblank, -⟩ := Text.exists_dropWhile afterKey
        cases hword : dropPattern pattern (dropBlanks afterKey) with
        | none =>
            rw [hword] at h
            exact nomatch h
        | some afterValue =>
            rw [hword] at h
            obtain ⟨name, hname, hfits⟩ := dropPattern_eq_some_iff.mp hkey
            obtain ⟨word, hsplit, hvalued⟩ := dropPattern_eq_some_iff.mp hword
            obtain ⟨comma, blank, rest, rfl, hcomma, hends⟩ := ends_iff.mp h
            obtain rfl := fits_exactly_iff.mp hfits
            have hparts : t = lead ++ (settingName
                ++ (gap ++ (word ++ (comma ++ blank :: rest)))) :=
              calc t = lead ++ dropBlanks t := ht
                _ = lead ++ (settingName ++ afterKey) := by rw [hname]; rfl
                _ = lead ++ (settingName ++ (gap ++ dropBlanks afterKey)) :=
                  congrArg (fun u => lead ++ (settingName ++ u)) hgap
                _ = _ := by rw [hsplit]
            rw [hparts]
            exact .intro hlead hblank ((hpattern.fits word).mp hvalued) hcomma hends
  · rintro ⟨hlead, hgap, hword, hcomma, hblank⟩
    rename_i lead gap word comma rest blank
    -- neither the name nor the value starts with a blank, so the blanks end before them
    have hname : ∀ c ∈ (settingName ++ (gap ++ (word ++ (comma ++ blank :: rest)))).head?,
        c.isBlank = false := by
      rintro c ⟨⟩
      rfl
    have hkey : dropPattern (exactly "enableHermes:")
        (settingName ++ (gap ++ (word ++ (comma ++ blank :: rest))))
        = some (gap ++ (word ++ (comma ++ blank :: rest))) :=
      dropPattern_eq_some_iff.mpr ⟨settingName, rfl, fits_exactly_iff.mpr rfl⟩
    have hvalued : dropPattern pattern (word ++ (comma ++ blank :: rest))
        = some (comma ++ blank :: rest) :=
      dropPattern_eq_some_iff.mpr ⟨word, rfl, (hpattern.fits word).mpr hword⟩
    rw [startsWithSetting, dropBlanks, Text.dropWhile_blank hlead hname, hkey]
    dsimp only
    rw [dropBlanks, Text.dropWhile_blank hgap (hpattern.noBlank word _ hword),
      hvalued]
    exact ends_iff.mpr ⟨comma, blank, rest, rfl, hcomma, hblank⟩

end

/-! ## Settings in a script -/

/-- The rests of a text behind its line breaks. -/
theorem mem_following_iff {t u : Text} :
    u ∈ lineStarts.following t ↔ ∃ before, t = before ++ lineBreak :: u := by
  induction t with
  | nil =>
      constructor
      · exact fun h => nomatch h
      · rintro ⟨before, h⟩
        exact absurd h.symm (by simp)
  | cons c rest ih =>
      have hmem : u ∈ lineStarts.following (c :: rest)
          ↔ (c = lineBreak ∧ u = rest) ∨ u ∈ lineStarts.following rest := by
        show (u ∈ if c = lineBreak then rest :: lineStarts.following rest
          else lineStarts.following rest) ↔ _
        by_cases hc : c = lineBreak
        · simp [hc]
        · simp [hc]
      rw [hmem, ih]
      constructor
      · rintro (⟨rfl, rfl⟩ | ⟨before, rfl⟩)
        · exact ⟨[], rfl⟩
        · exact ⟨c :: before, rfl⟩
      · rintro ⟨before, heq⟩
        cases before with
        | nil =>
            obtain ⟨rfl, rfl⟩ := List.cons.inj heq
            exact .inl ⟨rfl, rfl⟩
        | cons d more =>
            obtain ⟨-, rfl⟩ := List.cons.inj heq
            exact .inr ⟨more, rfl⟩

/-- **A line starts where the text does and behind every line break.** -/
theorem mem_lineStarts_iff {t u : Text} :
    u ∈ lineStarts t
      ↔ ∃ before, t = before ++ u ∧ (before = [] ∨ before.getLast? = some lineBreak) := by
  rw [lineStarts, List.mem_cons, mem_following_iff]
  constructor
  · rintro (rfl | ⟨before, rfl⟩)
    · exact ⟨[], rfl, .inl rfl⟩
    · exact ⟨before ++ [lineBreak], by simp, .inr List.getLast?_concat⟩
  · rintro ⟨before, rfl, rfl | hlast⟩
    · exact .inl rfl
    · obtain ⟨more, rfl⟩ := List.getLast?_eq_some_iff.mp hlast
      exact .inr ⟨more, by simp⟩

/-- Whether a script makes the setting, for values of a kind: a line
    starts with it. -/
inductive Sets (Values : Text → Prop) : Text → Prop where
  | intro {before lead gap value comma rest : Text} {blank : CodePoint} :
      (before = [] ∨ before.getLast? = some lineBreak) → lead.IsBlank → gap.IsBlank →
      Values value → (comma = [] ∨ comma = Text.ofString ",") → blank.isBlank = true →
      Sets Values
        (before ++ (lead ++ (settingName ++ (gap ++ (value ++ (comma ++ blank :: rest))))))

/-- The search finds a setting wherever there is one. -/
theorem hasSetting_iff {pattern : List Slot} {Values : Text → Prop} {script : Text}
    (hpattern : IsPatternOf pattern Values) :
    hasSetting pattern script = true ↔ Sets Values script := by
  rw [hasSetting, List.any_eq_true]
  constructor
  · rintro ⟨u, hstart, hsetting⟩
    obtain ⟨before, rfl, hbefore⟩ := mem_lineStarts_iff.mp hstart
    obtain ⟨hlead, hgap, hvalue, hcomma, hblank⟩ := (startsWithSetting_iff hpattern).mp hsetting
    exact .intro hbefore hlead hgap hvalue hcomma hblank
  · rintro ⟨hbefore, hlead, hgap, hvalue, hcomma, hblank⟩
    exact ⟨_, mem_lineStarts_iff.mpr ⟨_, rfl, hbefore⟩,
      (startsWithSetting_iff hpattern).mpr (.intro hlead hgap hvalue hcomma hblank)⟩

/-- The value that enables Hermes outright. -/
def IsBare (value : Text) : Prop := value = Text.ofString "true"

/-- The value that leaves the engine to the properties.  The dot of the
    property's name may be any character of the line. -/
def IsReference (value : Text) : Prop :=
  ∃ dot, dot ≠ lineBreak ∧ value = Text.ofString "(findProperty(\x27expo" ++ dot
    :: Text.ofString "jsEngine\x27) ?: \x22jsc\x22) == \x22hermes\x22"

theorem bareValue_isPatternOf : IsPatternOf bareValue IsBare := by
  refine ⟨fun _ => fits_exactly_iff, ?_⟩
  rintro word rest rfl c ⟨⟩
  rfl

theorem referenceValue_isPatternOf : IsPatternOf referenceValue IsReference := by
  constructor
  · intro word
    rw [referenceValue, fits_append_iff]
    constructor
    · rintro ⟨front, rear, rfl, hfront, hrear⟩
      obtain ⟨lead, point, rfl, hlead, hpoint⟩ := fits_append_iff.mp hfront
      obtain ⟨dot, more, hdot, hmore, rfl⟩ := List.forall₂_cons_left_iff.mp hpoint
      obtain rfl := List.forall₂_nil_left_iff.mp hmore
      obtain rfl := fits_exactly_iff.mp hlead
      obtain rfl := fits_exactly_iff.mp hrear
      exact ⟨dot, hdot, by rw [List.append_assoc]; rfl⟩
    · rintro ⟨dot, hdot, rfl⟩
      refine ⟨_ ++ [dot], _, (List.append_cons ..), ?_, fits_exactly_iff.mpr rfl⟩
      exact fits_append_iff.mpr ⟨_, _, rfl, fits_exactly_iff.mpr rfl, .cons hdot .nil⟩
  · rintro word rest ⟨dot, -, rfl⟩ c ⟨⟩
    rfl

/-- Which scripts enable Hermes outright. -/
theorem enablesHermes_iff {script : Text} : enablesHermes script = true ↔ Sets IsBare script :=
  hasSetting_iff bareValue_isPatternOf

/-- Which scripts leave the engine to the properties. -/
theorem refersToProperties_iff {script : Text} :
    refersToProperties script = true ↔ Sets IsReference script :=
  hasSetting_iff referenceValue_isPatternOf

/-! ## What a script alone settles -/

/-- A script contradicts the config when it does not leave the engine to
    the properties and what it says of Hermes is not what the config asks
    for. -/
theorem scriptContradicts_iff {script : Text} {managed : Bool} :
    scriptContradicts script managed = true
      ↔ refersToProperties script = false ∧ managed ≠ enablesHermes script := by
  rw [scriptContradicts, Bool.and_eq_true, Bool.not_eq_true', bne_iff_ne]

/-- **Build scripts are recognised exactly.**  A script is taken to enable
    Hermes outright, and to leave the engine to the properties, just where
    a line of it starts with the setting.  Without properties, a project
    whose script is read as such a text, its line ends brought to one form
    as for every text, may be inconsistent just when the script does not
    refer to the properties and its own setting is not what the config asks
    for.  The check then says no, unless even the path of the properties is
    too long to be looked for; in no case does it change a file. -/
theorem scriptLaw (t : Text) :
    (enablesHermes t = true ↔ Sets IsBare t)
      ∧ (refersToProperties t = true ↔ Sets IsReference t)
      ∧ ∀ (m : Machine) (root : Path) (managed : Bool),
        textAt m (buildScript root) = .ok (some t) →
        (∀ status, m.files.status? m.here (propertiesFile root).toText ≠ .ok status) →
        ∃ outcome after, (maybeInconsistent root android managed).perform m = (outcome, after)
          ∧ after.files = m.files
          ∧ (outcome = .ok true
            ↔ refersToProperties t = false ∧ managed ≠ enablesHermes t)
          ∧ (outcome = .ok true ∨ outcome = .ok false
            ∨ outcome = .error (.system (.about .nameTooLong (propertiesFile root).toText))) := by
  refine ⟨enablesHermes_iff, refersToProperties_iff, fun m root managed hscript habsent => ?_⟩
  obtain ⟨after, hperform, hfiles, -⟩ := notes_maybeInconsistent root android managed m
  refine ⟨_, after, hperform, hfiles, ?_⟩
  rw [← scriptContradicts_iff]
  obtain hanswer | ⟨hagrees, hlong⟩ := contradictedIn_of_absent hscript habsent
  · rw [hanswer]
    refine ⟨⟨Except.ok.inj, congrArg Except.ok⟩, ?_⟩
    cases scriptContradicts t managed with
    | true => exact .inl rfl
    | false => exact .inr (.inl rfl)
  · rw [hlong, hagrees]
    refine ⟨iff_of_false ?_ Bool.false_ne_true, .inr (.inr rfl)⟩
    rintro ⟨⟩

/-- A machine with a project of which the build script has some content. -/
def scriptMachine (script : Bytes) : Machine :=
  { Build.homeMachine with
    files := .ofEntries [(["home"], .directory), (["home", "android"], .directory),
      (["home", "android", "app"], .directory),
      (["home", "android", "app", "build.gradle"], .file script false)] }

/-- A script that enables Hermes on a line of its own. -/
def enablingScript : Text := Text.ofString "// engine\n  enableHermes:\n true,\n"

/-- The law at a project that enables Hermes and does not ask for it. -/
theorem scriptLaw_enablingScript :
    textAt (scriptMachine (Text.bytes enablingScript)) (buildScript (Path.ofString "/home"))
        = .ok (some enablingScript)
      ∧ (∀ status, (scriptMachine (Text.bytes enablingScript)).files.status?
        (scriptMachine (Text.bytes enablingScript)).here
        (propertiesFile (Path.ofString "/home")).toText ≠ .ok status)
      ∧ ∃ after, (maybeInconsistent (Path.ofString "/home") android false).perform
        (scriptMachine (Text.bytes enablingScript)) = (.ok true, after) := by
  have hscript : textAt (scriptMachine (Text.bytes enablingScript))
      (buildScript (Path.ofString "/home")) = .ok (some enablingScript) := by cbv
  have habsent : ∀ status, (scriptMachine (Text.bytes enablingScript)).files.status?
      (scriptMachine (Text.bytes enablingScript)).here
      (propertiesFile (Path.ofString "/home")).toText ≠ .ok status := by
    have hmissing : (scriptMachine (Text.bytes enablingScript)).files.status?
        (scriptMachine (Text.bytes enablingScript)).here
        (propertiesFile (Path.ofString "/home")).toText = .error .noEntry := by cbv
    intro status
    rw [hmissing]
    rintro ⟨⟩
  obtain ⟨-, -, hchecked⟩ := scriptLaw enablingScript
  obtain ⟨outcome, after, hperform, -, hcontradicts, -⟩ :=
    hchecked _ (Path.ofString "/home") false hscript habsent
  have hbare : enablesHermes enablingScript = true := by cbv
  have hreference : refersToProperties enablingScript = false := by cbv
  obtain rfl := hcontradicts.mpr ⟨hreference, by rw [hbare]; exact Bool.false_ne_true⟩
  exact ⟨hscript, habsent, after, hperform⟩

end HermesBundle.Engine
