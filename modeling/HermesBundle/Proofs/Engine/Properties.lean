import HermesBundle.Engine.Gradle
import HermesBundle.Proofs.Text.Pieces
import Mathlib

/-! # Properties files — what their lines set

    A properties file is read line by line.  A line sets a key to a value,
    with blanks around it (`Defines`), or it sets nothing, because it is
    blank, a comment or has no separator (`IsIdle`):

    * the blanks around a line are taken off, and its first separator is
      the one that counts (`ofText_eq_setting_iff`);
    * the lines of a text are those of its parts, and so the settings of
      one part are taken over after those of the other (`lineLaw`);
    * what is laid out in lines, with idle ones among them, is read back
      (`parseProperties_layout`). -/

namespace HermesBundle

namespace Text

/-- Whether a text has nothing but blanks. -/
def IsBlank (t : Text) : Prop := ∀ c ∈ t, c.isBlank = true

instance (t : Text) : Decidable (IsBlank t) := inferInstanceAs (Decidable (∀ c ∈ t, _))

/-- Whether a text neither starts nor ends with a blank. -/
structure IsTight (t : Text) : Prop where
  head : ∀ c ∈ t.head?, c.isBlank = false
  last : ∀ c ∈ t.getLast?, c.isBlank = false

/-- Blanks in front of a text that does not start with one are dropped. -/
theorem dropWhile_blank {before t : Text} (hbefore : IsBlank before)
    (hhead : ∀ c ∈ t.head?, c.isBlank = false) :
    (before ++ t).dropWhile CodePoint.isBlank = t := by
  rw [List.dropWhile_append_of_pos hbefore]
  cases t with
  | nil => rfl
  | cons c rest => exact List.dropWhile_cons_of_neg (by rw [hhead c rfl]; exact Bool.false_ne_true)

/-- Blanks behind a text that does not end with one are dropped. -/
theorem trimRight_blank {t after : Text} (hlast : ∀ c ∈ t.getLast?, c.isBlank = false)
    (hafter : IsBlank after) : trimRight (t ++ after) = t := by
  have hreverse : IsBlank after.reverse := fun c hc => hafter c (List.mem_reverse.mp hc)
  rw [trimRight, List.reverse_append, dropWhile_blank hreverse, List.reverse_reverse]
  intro c hc
  rw [List.head?_reverse] at hc
  exact hlast c hc

/-- A text starts with blanks, and what is left does not. -/
theorem exists_dropWhile (t : Text) :
    ∃ before, t = before ++ t.dropWhile CodePoint.isBlank ∧ IsBlank before
      ∧ ∀ c ∈ (t.dropWhile CodePoint.isBlank).head?, c.isBlank = false := by
  refine ⟨t.takeWhile CodePoint.isBlank, List.takeWhile_append_dropWhile.symm,
    fun c hc => List.mem_takeWhile_imp hc, ?_⟩
  intro c hc
  have hhead := List.head?_dropWhile_not CodePoint.isBlank t
  rw [Option.mem_def.mp hc] at hhead
  exact hhead

/-- A text ends with blanks, and what is left does not. -/
theorem exists_trimRight (t : Text) :
    ∃ after, t = trimRight t ++ after ∧ IsBlank after
      ∧ ∀ c ∈ (trimRight t).getLast?, c.isBlank = false := by
  obtain ⟨before, hsplit, hbefore, hhead⟩ := exists_dropWhile t.reverse
  refine ⟨before.reverse, ?_, fun c hc => hbefore c (List.mem_reverse.mp hc), ?_⟩
  · rw [trimRight, ← List.reverse_append, ← hsplit, List.reverse_reverse]
  · intro c hc
    rw [trimRight, List.getLast?_reverse] at hc
    exact hhead c hc

/-- **A trimmed text is what stands between the blanks.** -/
theorem trim_eq_iff {t line : Text} :
    trim t = line
      ↔ ∃ before after, t = before ++ line ++ after ∧ IsBlank before ∧ IsBlank after
        ∧ IsTight line := by
  constructor
  · rintro rfl
    obtain ⟨before, hsplit, hbefore, hhead⟩ := exists_dropWhile t
    obtain ⟨after, hrest, hafter, hlast⟩ := exists_trimRight (t.dropWhile CodePoint.isBlank)
    refine ⟨before, after, ?_, hbefore, hafter, ?_, hlast⟩
    · rw [List.append_assoc]
      exact hsplit.trans (congrArg (before ++ ·) hrest)
    · -- the trimmed text is empty, or it starts where the blanks before it end
      intro c hc
      refine hhead c ?_
      rw [hrest, List.head?_append]
      show c ∈ (trim t).head?.or after.head?
      rw [Option.mem_def.mp hc]
      rfl
  · rintro ⟨before, after, rfl, hbefore, hafter, htight⟩
    rw [trim, List.append_assoc]
    cases line with
    | nil =>
        have hblank : IsBlank (before ++ ([] ++ after)) := by
          intro c hc
          rcases List.mem_append.mp hc with h | h
          · exact hbefore c h
          · exact hafter c h
        rw [List.dropWhile_eq_nil_iff.mpr hblank]
        rfl
    | cons c rest =>
        have hhead : ∀ d ∈ ((c :: rest) ++ after).head?, d.isBlank = false :=
          fun d hd => htight.head d hd
        rw [dropWhile_blank hbefore hhead]
        exact trimRight_blank htight.last hafter

end Text

namespace Engine

open Entries

/-! ## Lines -/

/-- What stands between a key and its value. -/
def separator : CodePoint := .ofChar '='

/-- What a comment starts with. -/
def commentMark : CodePoint := .ofChar '#'

/-- What stands between two lines. -/
def lineBreak : CodePoint := .ofChar '\n'

/-- A key and its value on one line. -/
def settingText (key value : Text) : Text := key ++ separator :: value

/-- Whether a text can be a key: it has no separator, and does not start
    like a comment or with a blank. -/
structure IsKey (key : Text) : Prop where
  noSeparator : separator ∉ key
  noBlank : ∀ c ∈ key.head?, c.isBlank = false
  noComment : ∀ c ∈ key.head?, c ≠ commentMark

/-- Whether a text can be a value: it does not end with a blank. -/
def IsValue (value : Text) : Prop := ∀ c ∈ value.getLast?, c.isBlank = false

instance (key : Text) : Decidable (IsKey key) :=
  decidable_of_iff
    (separator ∉ key ∧ (∀ c ∈ key.head?, c.isBlank = false) ∧ ∀ c ∈ key.head?, c ≠ commentMark)
    ⟨fun ⟨h, h', h''⟩ => ⟨h, h', h''⟩, fun ⟨h, h', h''⟩ => ⟨h, h', h''⟩⟩

instance (value : Text) : Decidable (IsValue value) :=
  inferInstanceAs (Decidable (∀ c ∈ value.getLast?, _))

/-- Whether a line sets a key to a value. -/
inductive Defines : Text → Text → Text → Prop where
  | intro {before key value after : Text} : before.IsBlank → IsKey key → IsValue value →
      after.IsBlank → Defines (before ++ settingText key value ++ after) key value

/-- Whether a line sets nothing. -/
inductive IsIdle (line : Text) : Prop where
  | blank : line.IsBlank → IsIdle line
  | comment {before rest : Text} : before.IsBlank → line = before ++ commentMark :: rest →
      IsIdle line
  | unseparated : separator ∉ line → IsIdle line

/-- A text is split at its first separator. -/
theorem splitFirst_eq_some_iff {separator : CodePoint} {t a b : Text} :
    splitFirst separator t = some (a, b) ↔ t = a ++ separator :: b ∧ separator ∉ a := by
  induction t generalizing a with
  | nil => simp [splitFirst]
  | cons c rest ih =>
      rw [splitFirst]
      by_cases hc : c = separator
      · rw [if_pos hc]
        constructor
        · intro h
          obtain ⟨rfl, rfl⟩ := Prod.mk.inj (Option.some.inj h)
          exact ⟨by rw [hc, List.nil_append], List.not_mem_nil⟩
        · rintro ⟨heq, hfree⟩
          cases a with
          | nil => rw [(List.cons.inj heq).2]
          | cons d more =>
              have hd : separator = d := hc.symm.trans (List.cons.inj heq).1
              exact absurd (hd ▸ List.mem_cons_self ..) hfree
      · rw [if_neg hc, Option.map_eq_some_iff]
        constructor
        · rintro ⟨⟨a', b'⟩, hrest, heq⟩
          obtain ⟨rfl, rfl⟩ := Prod.mk.inj heq
          obtain ⟨rfl, hfree⟩ := ih.mp hrest
          exact ⟨rfl, fun h => (List.mem_cons.mp h).elim (fun h => hc h.symm) hfree⟩
        · rintro ⟨heq, hfree⟩
          cases a with
          | nil => exact absurd (List.cons.inj heq).1 hc
          | cons d more =>
              obtain ⟨rfl, hrest⟩ := List.cons.inj heq
              exact ⟨(more, b), ih.mpr ⟨hrest, fun h => hfree (List.mem_cons_of_mem _ h)⟩, rfl⟩

/-- A setting starts like its key, or else with the separator. -/
theorem head?_settingText (key value : Text) :
    (settingText key value).head? = key.head?.or (some separator) := List.head?_append

/-- A setting ends like its value, or else with the separator. -/
theorem getLast?_settingText (key value : Text) :
    (settingText key value).getLast? = value.getLast?.or (some separator) := by
  rw [settingText, List.getLast?_append, List.getLast?_cons]
  cases value.getLast? <;> rfl

/-- There are no blanks around a setting of a key. -/
theorem isTight_settingText {key value : Text} (hkey : IsKey key) (hvalue : IsValue value) :
    (settingText key value).IsTight := by
  constructor
  · intro c hc
    rw [head?_settingText, Option.mem_def, Option.or_eq_some_iff] at hc
    rcases hc with hhead | ⟨-, hseparator⟩
    · exact hkey.noBlank c hhead
    · obtain rfl := Option.some.inj hseparator
      rfl
  · intro c hc
    rw [getLast?_settingText, Option.mem_def, Option.or_eq_some_iff] at hc
    rcases hc with hlast | ⟨-, hseparator⟩
    · exact hvalue c hlast
    · obtain rfl := Option.some.inj hseparator
      rfl

/-- A setting of a key is no comment. -/
theorem not_comment_settingText {key : Text} (hkey : IsKey key) (value : Text) :
    (settingText key value).head? ≠ some commentMark := by
  intro h
  rw [head?_settingText, Option.or_eq_some_iff] at h
  rcases h with hhead | ⟨-, hseparator⟩
  · exact hkey.noComment _ hhead rfl
  · exact absurd hseparator (by decide)

/-- A comment starts with its mark. -/
theorem startsWith_commentMark (t : Text) :
    t.startsWith "#" = true ↔ t.head? = some commentMark := by
  cases t with
  | nil => decide
  | cons c rest =>
      show (commentMark == c && true) = true ↔ some c = some commentMark
      rw [Bool.and_true, beq_iff_eq, Option.some.injEq]
      exact eq_comm

/-- A line sets a key if it is no comment and has a separator. -/
theorem ofText_eq_setting {raw key value : Text} :
    PropertyLine.ofText raw = .setting key value
      ↔ raw.trim.head? ≠ some commentMark ∧ splitFirst separator raw.trim = some (key, value) := by
  have hseparator : CodePoint.ofChar '=' = separator := rfl
  unfold PropertyLine.ofText
  dsimp only
  rw [hseparator]
  by_cases hcomment : raw.trim.head? = some commentMark
  · rw [if_pos (by rw [(startsWith_commentMark _).mpr hcomment, Bool.or_true])]
    exact ⟨fun h => (nomatch h), fun h => absurd hcomment h.1⟩
  · by_cases hempty : raw.trim = []
    · rw [hempty, if_pos (by rfl)]
      exact ⟨fun h => (nomatch h), fun h => (nomatch h.2)⟩
    · have hread : ¬(raw.trim.isEmpty || raw.trim.startsWith "#") = true := by
        rw [Bool.or_eq_true, List.isEmpty_iff, startsWith_commentMark]
        exact not_or.mpr ⟨hempty, hcomment⟩
      rw [if_neg hread]
      cases splitFirst separator raw.trim with
      | none => exact ⟨fun h => (nomatch h), fun h => (nomatch h.2)⟩
      | some found =>
          obtain ⟨a, b⟩ := found
          simp [hcomment]

/-- **A line sets a key to a value if they stand on it**, with blanks
    around them. -/
theorem ofText_eq_setting_iff {raw key value : Text} :
    PropertyLine.ofText raw = .setting key value ↔ Defines raw key value := by
  rw [ofText_eq_setting, splitFirst_eq_some_iff]
  constructor
  · rintro ⟨hcomment, hline, hfree⟩
    have htrim : raw.trim = settingText key value := hline
    obtain ⟨before, after, hraw, hbefore, hafter, htight⟩ := Text.trim_eq_iff.mp htrim
    have hstart : ∀ c ∈ key.head?, (settingText key value).head? = some c := by
      intro c hc
      rw [head?_settingText, Option.mem_def.mp hc]
      rfl
    rw [hraw]
    refine .intro hbefore ⟨hfree, fun c hc => htight.head c (hstart c hc), ?_⟩ ?_ hafter
    · rintro c hc rfl
      exact hcomment ((congrArg List.head? hline).trans (hstart _ hc))
    · intro c hc
      refine htight.last c ?_
      rw [getLast?_settingText, Option.mem_def.mp hc]
      rfl
  · rintro ⟨hbefore, hkey, hvalue, hafter⟩
    have htrim := Text.trim_eq_iff.mpr
      ⟨_, _, rfl, hbefore, hafter, isTight_settingText hkey hvalue⟩
    rw [htrim]
    exact ⟨not_comment_settingText hkey value, rfl, hkey.noSeparator⟩

/-- An idle line sets nothing. -/
theorem IsIdle.not_defines {line key value : Text} (h : IsIdle line) :
    ¬Defines line key value := by
  rintro ⟨hbefore, hkey, hvalue, hafter⟩
  rename_i before after
  have hmem : separator ∈ before ++ settingText key value ++ after := by
    simp [settingText]
  cases h with
  | blank hblank => exact absurd (hblank _ hmem) (by decide)
  | unseparated hfree => exact hfree hmem
  | @comment lead rest hlead hline =>
      -- without the blanks in front, one side starts with a mark and the other does not
      have hhead : (settingText key value ++ after).head? = (settingText key value).head? :=
        List.head?_append_of_ne_nil _ (by simp [settingText])
      have hdropped := congrArg (List.dropWhile CodePoint.isBlank) hline
      rw [List.append_assoc, Text.dropWhile_blank hbefore, Text.dropWhile_blank hlead] at hdropped
      · exact not_comment_settingText hkey value
          (hhead.symm.trans (congrArg List.head? hdropped))
      · rintro c ⟨⟩
        rfl
      · intro c hc
        exact (isTight_settingText hkey hvalue).head c (hhead ▸ hc)

/-! ## The settings of a text -/

/-- The settings in a text, from first to last. -/
def settingsIn (t : Text) : Entries Text := settingsOf (propertyLines t)

/-- The settings of two parts that a line break separates. -/
theorem settingsIn_append (a b : Text) :
    settingsIn (a ++ lineBreak :: b) = settingsIn a ++ settingsIn b := by
  show settingsOf ((Text.splitOn lineBreak (a ++ lineBreak :: b)).map PropertyLine.ofText) = _
  rw [Text.splitOn_append_cons, List.map_append]
  exact List.filterMap_append

/-- A single line has the setting that stands on it. -/
theorem settingsIn_of_defines {line key value : Text} (h : Defines line key value)
    (hline : lineBreak ∉ line) : settingsIn line = [(key, value)] := by
  show settingsOf ((Text.splitOn lineBreak line).map PropertyLine.ofText) = _
  rw [Text.splitOn_of_not_mem hline, List.map_singleton, ofText_eq_setting_iff.mpr h]
  rfl

/-- A single idle line has no setting. -/
theorem settingsIn_of_isIdle {line : Text} (h : IsIdle line) (hline : lineBreak ∉ line) :
    settingsIn line = [] := by
  show settingsOf ((Text.splitOn lineBreak line).map PropertyLine.ofText) = _
  rw [Text.splitOn_of_not_mem hline, List.map_singleton]
  cases hread : PropertyLine.ofText line with
  | ignored => rfl
  | skipped rest => rfl
  | setting key value => exact absurd (ofText_eq_setting_iff.mp hread) h.not_defines

/-- A line sets a key to one value. -/
theorem Defines.unique {line key value other : Text} (h : Defines line key value)
    (hother : Defines line key other) : value = other := by
  have hsame : PropertyLine.setting key value = .setting key other :=
    (ofText_eq_setting_iff.mpr h).symm.trans (ofText_eq_setting_iff.mpr hother)
  exact (PropertyLine.setting.inj hsame).2

section
variable {first key value : Text} {rest : List Text}

/-- A line that defines a key settles its value among this line and
    others. -/
theorem find?_settingsOf_of_defines (h : Defines first key value) :
    find? (settingsOf ((first :: rest).map PropertyLine.ofText)) key = some value := by
  rw [List.map_cons, ofText_eq_setting_iff.mpr h]
  exact if_pos rfl

/-- A line that does not define it leaves the matter to the others. -/
theorem find?_settingsOf_of_not_defines (h : ∀ own, ¬Defines first key own) :
    find? (settingsOf ((first :: rest).map PropertyLine.ofText)) key
      = find? (settingsOf (rest.map PropertyLine.ofText)) key := by
  rw [List.map_cons]
  cases hread : PropertyLine.ofText first with
  | ignored => rfl
  | skipped text => rfl
  | setting name own =>
      refine if_neg ?_
      rintro rfl
      exact h own (ofText_eq_setting_iff.mp hread)

end

/-- The value of a key among some lines is that of the first line which
    defines it. -/
theorem find?_settingsOf_iff {lines : List Text} {key value : Text} :
    find? (settingsOf (lines.map PropertyLine.ofText)) key = some value
      ↔ ∃ before line after, lines = before ++ line :: after ∧ Defines line key value
        ∧ ∀ other ∈ before, ∀ next, ¬Defines other key next := by
  induction lines with
  | nil =>
      constructor
      · intro h
        exact nomatch h
      · rintro ⟨before, line, after, heq, -⟩
        exact absurd heq.symm (by simp)
  | cons first rest ih =>
      by_cases hdefines : ∃ own, Defines first key own
      · obtain ⟨own, hown⟩ := hdefines
        rw [find?_settingsOf_of_defines hown]
        constructor
        · intro h
          obtain rfl := Option.some.inj h
          exact ⟨[], first, rest, rfl, hown, fun _ h => nomatch h⟩
        · rintro ⟨before, line, after, heq, hline, hfree⟩
          cases before with
          | nil =>
              obtain ⟨rfl, -⟩ := List.cons.inj heq
              exact congrArg some (hown.unique hline)
          | cons other more =>
              obtain ⟨rfl, -⟩ := List.cons.inj heq
              exact absurd hown (hfree first (List.mem_cons_self ..) own)
      · have hfirst : ∀ own, ¬Defines first key own := not_exists.mp hdefines
        rw [find?_settingsOf_of_not_defines hfirst, ih]
        constructor
        · rintro ⟨before, line, after, rfl, hline, hfree⟩
          exact ⟨first :: before, line, after, rfl, hline, List.forall_mem_cons.mpr ⟨hfirst, hfree⟩⟩
        · rintro ⟨before, line, after, heq, hline, hfree⟩
          cases before with
          | nil =>
              obtain ⟨rfl, -⟩ := List.cons.inj heq
              exact absurd hline (hfirst value)
          | cons other more =>
              obtain ⟨rfl, rfl⟩ := List.cons.inj heq
              exact ⟨more, line, after, rfl, hline, (List.forall_mem_cons.mp hfree).2⟩

/-- The last setting of a key counts. -/
theorem find?_parseProperties (t key : Text) :
    find? (parseProperties t) key = find? (settingsIn t).reverse key := by
  show find? (update [] (settingsIn t)) key = _
  rw [find?_update, find?, Option.or_none]

/-! ## Parts of a text -/

/-- How a text is read that consists of two parts with a line break
    between them. -/
structure LineLaw (a b : Text) : Prop where
  /-- What the second part sets is taken over after what the first one
      sets. -/
  joined : parseProperties (a ++ lineBreak :: b) = (parseProperties a).update (parseProperties b)
  /-- A key of both has its place from the first part. -/
  ordered : (parseProperties (a ++ lineBreak :: b)).map Prod.fst
    = (parseProperties a).map Prod.fst
      ++ ((parseProperties b).map Prod.fst).filter fun key => key ∉ (parseProperties a).map Prod.fst
  /-- A key of both has its value from the second part. -/
  chosen : ∀ key, find? (parseProperties (a ++ lineBreak :: b)) key
    = (find? (parseProperties b) key).or (find? (parseProperties a) key)
  /-- The value of a key is the one on the last line that defines it. -/
  latest : ∀ key value, find? (parseProperties a) key = some value
    ↔ ∃ before line after, a.splitOn lineBreak = before ++ line :: after
      ∧ Defines line key value ∧ ∀ other ∈ after, ∀ next, ¬Defines other key next
  /-- An idle line before, between or behind the parts changes nothing. -/
  idle : ∀ line, IsIdle line → lineBreak ∉ line →
    parseProperties (line ++ lineBreak :: a) = parseProperties a
      ∧ parseProperties (a ++ lineBreak :: line) = parseProperties a
      ∧ parseProperties (a ++ lineBreak :: (line ++ lineBreak :: b))
        = parseProperties (a ++ lineBreak :: b)

theorem nodup_empty : (([] : Entries Text).map Prod.fst).Nodup := List.nodup_nil

/-- The keys of a text are not repeated. -/
theorem nodup_parseProperties (t : Text) : ((parseProperties t).map Prod.fst).Nodup :=
  nodup_update nodup_empty (settingsIn t)

/-- What is read from two parts. -/
theorem parseProperties_append (a b : Text) :
    parseProperties (a ++ lineBreak :: b) = (parseProperties a).update (parseProperties b) := by
  show update [] (settingsIn (a ++ lineBreak :: b)) = update _ (update [] (settingsIn b))
  rw [settingsIn_append, update_append, update_update nodup_empty]
  rfl

/-- **A properties text is read line by line.** -/
theorem lineLaw (a b : Text) : LineLaw a b where
  joined := parseProperties_append a b
  ordered := by
    rw [parseProperties_append]
    exact names_update (nodup_parseProperties b) _
  chosen key := by
    rw [find?_parseProperties, find?_parseProperties, find?_parseProperties, settingsIn_append,
      List.reverse_append, find?_append]
  latest key value := by
    -- the last line from the front is the first one from the back
    have hreverse : (settingsIn a).reverse
        = settingsOf ((a.splitOn lineBreak).reverse.map PropertyLine.ofText) := by
      show _ = settingsOf _
      rw [List.map_reverse]
      exact List.filterMap_reverse.symm
    rw [find?_parseProperties, hreverse, find?_settingsOf_iff]
    constructor
    · rintro ⟨later, line, earlier, heq, hline, hfree⟩
      refine ⟨earlier.reverse, line, later.reverse, ?_, hline,
        fun other hother => hfree other (List.mem_reverse.mp hother)⟩
      rw [List.reverse_eq_iff.mp heq]
      simp
    · rintro ⟨before, line, after, heq, hline, hfree⟩
      refine ⟨after.reverse, line, before.reverse, ?_, hline,
        fun other hother => hfree other (List.mem_reverse.mp hother)⟩
      rw [heq]
      simp
  idle line hidle hline := by
    have hnone := settingsIn_of_isIdle hidle hline
    refine ⟨?_, ?_, ?_⟩
    · show update [] (settingsIn (line ++ lineBreak :: a)) = update [] (settingsIn a)
      rw [settingsIn_append, hnone, List.nil_append]
    · show update [] (settingsIn (a ++ lineBreak :: line)) = update [] (settingsIn a)
      rw [settingsIn_append, hnone, List.append_nil]
    · show update [] (settingsIn (a ++ lineBreak :: (line ++ lineBreak :: b)))
        = update [] (settingsIn (a ++ lineBreak :: b))
      rw [settingsIn_append, settingsIn_append, settingsIn_append, hnone, List.nil_append]

/-! ## Layouts -/

/-- A line of a layout. -/
inductive Row where
  /-- A key and its value, with blanks around them. -/
  | setting (before key value after : Text)
  | idle (line : Text)

/-- The line that is written. -/
def Row.text : Row → Text
  | .setting before key value after => before ++ settingText key value ++ after
  | .idle line => line

/-- What the line sets. -/
def Row.setting? : Row → Option (Text × Text)
  | .setting _ key value _ => some (key, value)
  | .idle _ => none

/-- Whether a row is written as one line, and as one that can be read. -/
inductive Row.IsProper : Row → Prop where
  | setting {before key value after : Text} : before.IsBlank → IsKey key → IsValue value →
      after.IsBlank → lineBreak ∉ Row.text (.setting before key value after) →
      IsProper (.setting before key value after)
  | idle {line : Text} : IsIdle line → lineBreak ∉ line → IsProper (.idle line)

/-- The text of some rows. -/
def layout (rows : List Row) : Text := Text.join [lineBreak] (rows.map Row.text)

/-- What the rows set. -/
def settingsOfRows (rows : List Row) : Entries Text := rows.filterMap Row.setting?

theorem settingsIn_text {row : Row} (h : row.IsProper) :
    settingsIn row.text = row.setting?.toList := by
  cases h with
  | setting hbefore hkey hvalue hafter hline =>
      exact settingsIn_of_defines (.intro hbefore hkey hvalue hafter) hline
  | idle hidle hline => exact settingsIn_of_isIdle hidle hline

/-- The settings in the text of some rows are those of the rows. -/
theorem settingsIn_layout {rows : List Row} (h : ∀ row ∈ rows, row.IsProper) :
    settingsIn (layout rows) = settingsOfRows rows := by
  induction rows with
  | nil => decide
  | cons row rest ih =>
      obtain ⟨hrow, hrest⟩ := List.forall_mem_cons.mp h
      have hone := settingsIn_text hrow
      cases rest with
      | nil =>
          show settingsIn row.text = _
          rw [hone]
          cases row <;> rfl
      | cons next more =>
          show settingsIn (row.text ++ [lineBreak] ++ layout (next :: more)) = _
          rw [List.append_assoc, List.singleton_append, settingsIn_append, hone, ih hrest]
          cases row <;> rfl

/-- **Settings that are laid out in lines are read back in order**, if no
    key is repeated. -/
theorem parseProperties_layout {rows : List Row} (hrows : ∀ row ∈ rows, row.IsProper)
    (hdistinct : ((settingsOfRows rows).map Prod.fst).Nodup) :
    parseProperties (layout rows) = settingsOfRows rows := by
  show update [] (settingsIn (layout rows)) = _
  rw [settingsIn_layout hrows, update_of_nodup hdistinct, List.nil_append]

/-- A file with a comment, a blank line and a line without a separator.
    One key has blanks around its line, the other one is empty. -/
def paddedRows : List Row :=
  [.idle "\t# engine=jsc", .setting " " "expo.jsEngine" "hermes" "\r", .idle " ",
    .setting "" "" " #a=b" "\t", .idle "jsc"]

theorem parseProperties_layout_paddedRows :
    (∀ row ∈ paddedRows, row.IsProper) ∧ ((settingsOfRows paddedRows).map Prod.fst).Nodup
      ∧ parseProperties (layout paddedRows) = settingsOfRows paddedRows := by
  have hrows : ∀ row ∈ paddedRows, row.IsProper := by
    have hblank : Text.IsBlank "\t" := by decide
    have hcomment : Row.IsProper (.idle "\t# engine=jsc") :=
      .idle (.comment hblank rfl) (by decide)
    simp only [paddedRows, List.forall_mem_cons]
    refine ⟨hcomment, .setting ?_ ?_ ?_ ?_ ?_, .idle (.blank ?_) ?_, .setting ?_ ?_ ?_ ?_ ?_,
      .idle (.unseparated ?_) ?_, fun _ h => nomatch h⟩
    all_goals decide
  have hdistinct : ((settingsOfRows paddedRows).map Prod.fst).Nodup := by decide
  exact ⟨hrows, hdistinct, parseProperties_layout hrows hdistinct⟩

end Engine

end HermesBundle
