import PlotStream.Proofs.DecimalTexts
import PlotStream.Proofs.LevelChecks

/-!
Which settings pass the checks, and what they ask for then. The settings are those without
references, so every value stands for itself. An option that is missing, merely mentioned or empty
gets its default, and any other value is either fit or the reason for a refusal. What has passed the
checks is complete: the parser gets what was asked for, and nothing changes in a second check.
-/

namespace PlotStream.Settings

/-- No value of the table has a percent sign. -/
def Table.Plain (table : Table) : Prop :=
  ∀ key value, (key, some value) ∈ table → '%' ∉ value.toList

instance (table : Table) : Decidable table.Plain :=
  decidable_of_iff (∀ entry ∈ table, ∀ value ∈ entry.2, '%' ∉ value.toList)
    ⟨fun h key value hmem => h (key, some value) hmem value rfl,
      fun h entry hmem value hvalue => h entry.1 value (hvalue ▸ hmem)⟩

namespace Table

variable {table defaults : Table} {key other value : String}

/-- The options of a table come before those of the defaults. -/
theorem lookup_withDefaults (table defaults : Table) (key : String) :
    (table.withDefaults defaults).lookup key = (table.lookup key).or (defaults.lookup key) := by
  rw [withDefaults, List.lookup_append]
  cases hown : table.lookup key with
  | some value => rfl
  | none =>
      simp only [Option.none_or]
      induction defaults with
      | nil => rfl
      | cons entry rest ih =>
          obtain ⟨k, v⟩ := entry
          cases hkey : key == k with
          | true =>
              obtain rfl := eq_of_beq hkey
              rw [List.filter_cons_of_pos (by simp [hown])]
              simp
          | false =>
              rw [List.lookup_cons, hkey, List.filter_cons]
              split
              · rw [List.lookup_cons, hkey, ih]
              · exact ih

theorem lookup_set (table : Table) (key value other : String) :
    (table.set key value).lookup other =
      if other = key then some (some value) else table.lookup other := by
  by_cases hfound : (table.lookup key).isSome
  · rw [set_of_isSome hfound,
      lookup_map_values (fun k (v : Option String) => if k = key then some value else v)]
    split
    next hother =>
      obtain ⟨v, hv⟩ := Option.isSome_iff_exists.mp hfound
      rw [hother, hv, Option.map_some]
    next hother =>
      cases table.lookup other with
      | none => rfl
      | some v => rw [Option.map_some]
  · rw [set, if_neg hfound, List.lookup_append]
    rw [Option.not_isSome_iff_eq_none] at hfound
    split
    next hother => simp [hother, hfound]
    next hother => simp [List.lookup_cons, beq_false_of_ne hother]

theorem Plain.set (h : table.Plain) (hvalue : '%' ∉ value.toList) :
    (table.set key value).Plain := by
  intro k v hmem
  rcases mem_set hmem with hold | ⟨_, hnew⟩
  · exact h k v hold
  · obtain rfl := Option.some.inj hnew
    exact hvalue

theorem Plain.withDefaults (h : table.Plain) (hdefaults : defaults.Plain) :
    (table.withDefaults defaults).Plain := by
  intro k v hmem
  rcases List.mem_append.mp hmem with hown | hdefault
  · exact h k v hown
  · exact hdefaults k v (List.mem_filter.mp hdefault).1

end Table

namespace Document

variable {document : Document} {key other value : String}

/-- No value of the document has a percent sign, so none refers to another one. -/
structure Plain (document : Document) : Prop where
  defaults : document.defaults.Plain
  sections : ∀ name table, (name, table) ∈ document.sections → table.Plain

instance (document : Document) : Decidable document.Plain :=
  decidable_of_iff
    (document.defaults.Plain ∧ ∀ entry ∈ document.sections, Table.Plain entry.2)
    ⟨fun h => ⟨h.1, fun name table hmem => h.2 (name, table) hmem⟩,
      fun h => ⟨h.defaults, fun entry hmem => h.sections entry.1 entry.2 hmem⟩⟩

/-- What stands for an option of the main section: its own value, or else that of the defaults. -/
def stated (document : Document) (key : String) : Option (Option String) :=
  (document.sections.lookup mainSection).bind fun table =>
    (table.lookup key).or (document.defaults.lookup key)

/-- The value of an option of the main section, unless it is missing, merely mentioned or empty. -/
def written? (document : Document) (key : String) : Option String :=
  (document.stated key).join.filter (· ≠ "")

/-- A document with a main section and without references. -/
structure Simple (document : Document) : Prop where
  main : (document.sections.lookup mainSection).isSome
  plain : document.Plain

theorem stated_eq (document : Document) (key : String) :
    document.stated key = (document.view? mainSection).bind (·.lookup key) := by
  rw [stated, view?, Option.bind_map]
  simp only [Function.comp_def, Table.lookup_withDefaults]

theorem lookup_set (document : Document) (name key value : String) :
    (document.set name key value).sections.lookup name =
      (document.sections.lookup name).map (·.set key value) := by
  rw [set_eq, lookup_map_values
    fun n (table : Table) => if n = name then table.set key value else table]
  simp only [if_true]

theorem Simple.set (h : document.Simple) (key : String) (hvalue : '%' ∉ value.toList) :
    (document.set mainSection key value).Simple where
  main := by
    rw [lookup_set, Option.isSome_map]
    exact h.main
  plain := by
    rw [set_eq]
    refine ⟨h.plain.defaults, fun name table hmem => ?_⟩
    obtain ⟨⟨name', old⟩, hold, heq⟩ := List.mem_map.mp hmem
    obtain ⟨rfl, rfl⟩ := Prod.mk.inj heq
    have hsection := h.plain.sections name' old hold
    dsimp only
    split
    · exact hsection.set hvalue
    · exact hsection

theorem stated_set (h : document.Simple) (key value other : String) :
    (document.set mainSection key value).stated other =
      if other = key then some (some value) else document.stated other := by
  obtain ⟨table, hfound⟩ := Option.isSome_iff_exists.mp h.main
  have hdefaults : (document.set mainSection key value).defaults = document.defaults := rfl
  rw [stated, stated, lookup_set, hfound, hdefaults, Option.map_some, Option.bind_some,
    Option.bind_some, Table.lookup_set]
  split
  · rfl
  · rfl

theorem Simple.mainValue (h : document.Simple) (key : String) :
    Settings.mainValue document key = .ok (document.stated key).join := by
  obtain ⟨table, hfound⟩ := Option.isSome_iff_exists.mp h.main
  have hview : document.view? mainSection = some (table.withDefaults document.defaults) := by
    rw [view?, hfound, Option.map_some]
  have hplain := (h.plain.sections _ _ (mem_of_lookup hfound)).withDefaults h.plain.defaults
  rw [Settings.mainValue, stated_eq, hview]
  dsimp only [Option.bind_some]
  rw [Settings.value]
  cases hvalue : (table.withDefaults document.defaults).lookup key with
  | none => rfl
  | some value =>
      cases value with
      | none => rfl
      | some raw =>
          rw [Option.getD_some, resolve_plain _ _ _ (hplain key raw (mem_of_lookup hvalue))]
          rfl

theorem Simple.given? (h : document.Simple) (key : String) :
    Settings.given? document key = .ok (document.written? key) := by
  rw [Settings.given?, h.mainValue]
  rfl

theorem hasOption_eq (document : Document) (key : String) :
    hasOption document key = (document.stated key).isSome := by
  rw [hasOption, stated_eq]

/-- The document with a default for an option that needs one. -/
def complete (document : Document) (key preset : String) : Document :=
  if document.written? key = none then document.set mainSection key preset else document

section Completing

variable {preset : String}

theorem complete_of_some {value : String} (h : document.written? key = some value)
    (preset : String) : document.complete key preset = document := by
  rw [complete, h]
  exact if_neg (by simp)

theorem Simple.complete (h : document.Simple) (key : String) (hpreset : '%' ∉ preset.toList) :
    (document.complete key preset).Simple := by
  rw [Document.complete]
  split
  · exact h.set key hpreset
  · exact h

theorem written?_complete (h : document.Simple) (hpreset : preset ≠ "") :
    (document.complete key preset).written? key =
      some ((document.written? key).getD preset) := by
  cases hwritten : document.written? key with
  | some value => rw [complete_of_some hwritten, hwritten, Option.getD_some]
  | none =>
      rw [complete, if_pos hwritten, written?, stated_set h, if_pos rfl]
      simp [hpreset]

theorem written?_complete_of_ne (h : document.Simple) (hother : other ≠ key) (preset : String) :
    (document.complete key preset).written? other = document.written? other := by
  rw [complete]
  split
  · rw [written?, stated_set h, if_neg hother, written?]
  · rfl

end Completing

/-- The document with a default for the log level and the buffer size, if they need one. -/
def sized (document : Document) : Document :=
  (document.complete levelKey defaultLevel).complete bufferSizeKey
    (toString Options.defaultBufferSize)

/-- The document with a default for every option that needs one. -/
def completed (document : Document) : Document :=
  document.sized.complete encodingKey defaultEncoding

/-- The log level that a document asks for. -/
def chosenLevel (document : Document) : String := (document.written? levelKey).getD defaultLevel

end Document

/-- What a buffer size has to be: decimal digits of a positive number, not too many of them. -/
structure SizeFits (text : String) : Prop where
  decimal : Text.isDecimal text.toList = true
  short : text.toList.length ≤ Text.maxIntegerDigits
  positive : 0 < Text.decimalValue text.toList

/-- Something else than digits, or digits of zero. Nothing is said of digits that are too many. -/
def SizeWrong (text : String) : Prop :=
  Text.isDecimal text.toList = false ∨
    text.toList.length ≤ Text.maxIntegerDigits ∧ Text.decimalValue text.toList = 0

/-- Every value that is written is fit. -/
structure Document.Fits [Encoding.Registry] (document : Document) : Prop where
  level : ∀ text ∈ document.written? levelKey, Logger.IsLevelName text
  size : ∀ text ∈ document.written? bufferSizeKey, SizeFits text
  encoding : ∀ text ∈ document.written? encodingKey, ∃ known, Encoding.named text = .ok known

section Checks

variable {document : Document} {text : String}

theorem Document.Simple.chooseLevel (h : document.Simple) :
    Settings.chooseLevel document =
      .ok (document.complete levelKey defaultLevel, document.chosenLevel) := by
  rw [Settings.chooseLevel, h.given?]
  cases hwritten : document.written? levelKey with
  | none =>
      rw [Document.complete, if_pos hwritten, Document.chosenLevel, hwritten]
      rfl
  | some level =>
      rw [Document.complete_of_some hwritten, Document.chosenLevel, hwritten]
      rfl

theorem checkBufferSize_fits (h : document.Simple)
    (hfits : ∀ text ∈ document.written? bufferSizeKey, SizeFits text) :
    checkBufferSize document =
      ([], .ok (document.complete bufferSizeKey (toString Options.defaultBufferSize))) := by
  rw [checkBufferSize, h.given?]
  cases hwritten : document.written? bufferSizeKey with
  | none => simp only [Document.complete, hwritten, if_true]
  | some size =>
      have hfit := hfits size hwritten
      have hpositive : ¬ (Text.decimalValue size.toList : Int) < 1 := by
        have := hfit.positive
        omega
      rw [Document.complete_of_some hwritten]
      simp only [hfit.decimal, Text.integer_decimal hfit.decimal, Nat.not_lt.mpr hfit.short,
        Bool.not_true, Bool.false_eq_true, if_false, hpositive]

theorem checkBufferSize_wrong (h : document.Simple)
    (hwritten : document.written? bufferSizeKey = some text) (hwrong : SizeWrong text) :
    checkBufferSize document =
      refuse ("buffer_size: A positive number of characters is expected (" ++ text ++ ").") := by
  rw [checkBufferSize, h.given?, hwritten]
  cases hdecimal : Text.isDecimal text.toList with
  | false => simp only [hdecimal, Bool.not_false, if_true]
  | true =>
      rcases hwrong with hother | ⟨hshort, hzero⟩
      · cases hdecimal.symm.trans hother
      · simp [hdecimal, Text.integer_decimal hdecimal, Nat.not_lt.mpr hshort, hzero]

theorem checkBufferSize_long (h : document.Simple)
    (hwritten : document.written? bufferSizeKey = some text)
    (hdecimal : Text.isDecimal text.toList = true)
    (hlong : Text.maxIntegerDigits < text.toList.length) :
    checkBufferSize document = ([], .error (.integer (.tooLong text.toList.length))) := by
  rw [checkBufferSize, h.given?, hwritten]
  simp only [hdecimal, Text.integer_decimal hdecimal, hlong, Bool.not_true, Bool.false_eq_true,
    if_false, if_true]

theorem checkEncoding_fits [Encoding.Registry] (h : document.Simple)
    (hfits : ∀ text ∈ document.written? encodingKey, ∃ known, Encoding.named text = .ok known) :
    checkEncoding document = ([], .ok (document.complete encodingKey defaultEncoding)) := by
  rw [checkEncoding, h.given?]
  cases hwritten : document.written? encodingKey with
  | none => simp only [Document.complete, hwritten, if_true]
  | some name =>
      obtain ⟨known, hknown⟩ := hfits name hwritten
      rw [Document.complete_of_some hwritten]
      simp only [hknown]

theorem checkEncoding_unknown [Encoding.Registry] (h : document.Simple)
    (hwritten : document.written? encodingKey = some text)
    (hunknown : Encoding.named text = .error (.unknown text)) :
    checkEncoding document = refuse ("encoding: Unknown encoding (" ++ text ++ ").") := by
  rw [checkEncoding, h.given?, hwritten]
  simp only [hunknown]

theorem checkEncoding_null [Encoding.Registry] (h : document.Simple)
    (hwritten : document.written? encodingKey = some text)
    (hnull : Encoding.named text = .error .nullCharacter) :
    checkEncoding document = ([], .error (.encodingName .nullCharacter)) := by
  rw [checkEncoding, h.given?, hwritten]
  simp only [hnull]

/-- What passes says that the buffer size is fit. -/
theorem sizeFits_of_ok (h : document.Simple) {after : Document}
    (hok : (checkBufferSize document).2 = .ok after) :
    ∀ text ∈ document.written? bufferSizeKey, SizeFits text := by
  intro text hwritten
  cases hdecimal : Text.isDecimal text.toList with
  | false =>
      rw [checkBufferSize_wrong h hwritten (Or.inl hdecimal)] at hok
      cases hok
  | true =>
      rcases Nat.lt_or_ge Text.maxIntegerDigits text.toList.length with hlong | hshort
      · rw [checkBufferSize_long h hwritten hdecimal hlong] at hok
        cases hok
      rcases Nat.eq_zero_or_pos (Text.decimalValue text.toList) with hzero | hpositive
      · rw [checkBufferSize_wrong h hwritten (Or.inr ⟨hshort, hzero⟩)] at hok
        cases hok
      · exact ⟨hdecimal, hshort, hpositive⟩

/-- A name is known, or it is unknown as it stands, or it has a null character in it. -/
theorem named_cases [Encoding.Registry] (text : String) :
    (∃ known, Encoding.named text = .ok known) ∨ Encoding.named text = .error (.unknown text) ∨
      Encoding.named text = .error .nullCharacter := by
  rw [Encoding.named]
  split
  · exact Or.inr (Or.inr rfl)
  · split
    next known _ => exact Or.inl ⟨known, rfl⟩
    · exact Or.inr (Or.inl rfl)

theorem encodingFits_of_ok [Encoding.Registry] (h : document.Simple) {after : Document}
    (hok : (checkEncoding document).2 = .ok after) :
    ∀ text ∈ document.written? encodingKey, ∃ known, Encoding.named text = .ok known := by
  intro text hwritten
  rcases named_cases text with hknown | hunknown | hnull
  · exact hknown
  · rw [checkEncoding_unknown h hwritten hunknown] at hok
    cases hok
  · rw [checkEncoding_null h hwritten hnull] at hok
    cases hok

end Checks

section Listing

variable {document : Document} {table entries : Table}

theorem listOptions_plain (name : String) (table : Table) (h : entries.Plain) :
    (listOptions name table entries).2 = none := by
  induction entries with
  | nil => rfl
  | cons entry rest ih =>
      obtain ⟨key, raw⟩ := entry
      have hmore := ih fun k v hmem => h k v (List.mem_cons_of_mem _ hmem)
      cases raw with
      | none => exact hmore
      | some raw =>
          rw [listOptions, resolve_plain name table key (h key raw List.mem_cons_self)]
          exact hmore

theorem listSections_plain {sections : List (String × Table)}
    (h : ∀ name table, (name, table) ∈ sections → table.Plain) :
    (listSections sections).2 = none := by
  induction sections with
  | nil => rfl
  | cons entry rest ih =>
      obtain ⟨name, table⟩ := entry
      have hmore := ih fun n t hmem => h n t (List.mem_cons_of_mem _ hmem)
      have htable := listOptions_plain name table (h name table List.mem_cons_self)
      rw [listSections]
      generalize listOptions name table table = listed at htable
      obtain ⟨records, fault⟩ := listed
      obtain rfl : fault = none := htable
      exact hmore

/-- Without references a listing is never stopped. -/
theorem listDocument_plain (logger : Logger) (h : document.Plain) :
    (listDocument logger document).2 = .ok document := by
  have hviews : ∀ name table, (name, table) ∈ document.views → table.Plain := by
    intro name table hmem
    obtain ⟨⟨name', own⟩, hown, heq⟩ := List.mem_map.mp hmem
    obtain ⟨rfl, rfl⟩ := Prod.mk.inj heq
    exact (h.sections name' own hown).withDefaults h.defaults
  rw [listDocument_result, listSections_plain hviews]
  split
  · rfl
  · rfl

end Listing

end PlotStream.Settings

namespace PlotStream.Logger

variable {name : String}

theorem setLevel_of_not_name (h : ¬ IsLevelName name) (logger : Logger) :
    (logger.setLevel name).2 = some ⟨String.ofList (Text.upper name.toList)⟩ := by
  rw [IsLevelName, not_or] at h
  rw [setLevel, if_neg h.1]
  cases hlevel : levelOf? (String.ofList (Text.upper name.toList)) with
  | none => rfl
  | some level => exact absurd (by simp [hlevel]) h.2

/-- A level that is set is set for good. -/
theorem setLevel_again (logger : Logger) (name : String) :
    (logger.setLevel name).1.setLevel name = logger.setLevel name := by
  rw [setLevel, setLevel]
  split
  · rfl
  · split <;> rfl

theorem isLevelName_default : IsLevelName Settings.defaultLevel := Or.inr (by decide +kernel)

end PlotStream.Logger

namespace PlotStream.Settings

section Checking

variable {document after : Document} {logger : Logger} {text : String}

theorem Document.Simple.completeLevel (h : document.Simple) :
    (document.complete levelKey defaultLevel).Simple := h.complete levelKey (by decide)

theorem Document.Simple.sized (h : document.Simple) : document.sized.Simple :=
  h.completeLevel.complete bufferSizeKey (by decide)

theorem Document.Simple.completed (h : document.Simple) : document.completed.Simple :=
  h.sized.complete encodingKey (by decide)

theorem Document.writtenSize_completeLevel (h : document.Simple) :
    (document.complete levelKey defaultLevel).written? bufferSizeKey =
      document.written? bufferSizeKey :=
  written?_complete_of_ne h (by decide) defaultLevel

theorem Document.writtenEncoding_sized (h : document.Simple) :
    document.sized.written? encodingKey = document.written? encodingKey := by
  rw [sized, written?_complete_of_ne h.completeLevel (by decide),
    written?_complete_of_ne h (by decide)]

theorem Document.isLevelName_chosenLevel
    (h : ∀ text ∈ document.written? levelKey, Logger.IsLevelName text) :
    Logger.IsLevelName document.chosenLevel := by
  rw [chosenLevel]
  cases hwritten : document.written? levelKey with
  | none => exact Logger.isLevelName_default
  | some level => exact h level hwritten

/-- An unknown level ends the check at once. -/
theorem check_unknownLevel [Encoding.Registry] (h : document.Simple)
    (hlevel : ¬ Logger.IsLevelName document.chosenLevel) (logger : Logger) :
    (check document logger).result =
      .error (.unknownLevel ⟨String.ofList (Text.upper document.chosenLevel.toList)⟩) := by
  have hset := Logger.setLevel_of_not_name hlevel logger
  rw [check, h.chooseLevel]
  dsimp only
  revert hset
  cases logger.setLevel document.chosenLevel with
  | mk set fault =>
      rintro rfl
      rfl

/-- A known level is set, and the other options are checked for the logger at that level. -/
theorem check_level [Encoding.Registry] (h : document.Simple)
    (hlevel : Logger.IsLevelName document.chosenLevel) (logger : Logger) :
    check document logger =
      let set := (logger.setLevel document.chosenLevel).1
      let checked :=
        (checkOptions (document.complete levelKey defaultLevel)).andThen (listDocument set)
      ⟨set, set.emit checked.1, checked.2⟩ := by
  have hset := hlevel.setLevel logger
  rw [check, h.chooseLevel]
  dsimp only
  revert hset
  cases logger.setLevel document.chosenLevel with
  | mk set fault =>
      rintro rfl
      rfl

/-- With a level and a buffer size that are fit, the encoding is checked for the logger at that
level. -/
theorem check_size [Encoding.Registry] (h : document.Simple)
    (hlevel : ∀ level ∈ document.written? levelKey, Logger.IsLevelName level)
    (hsize : ∀ size ∈ document.written? bufferSizeKey, SizeFits size) (logger : Logger) :
    check document logger =
      let set := (logger.setLevel document.chosenLevel).1
      let checked := (checkEncoding document.sized).andThen (listDocument set)
      ⟨set, set.emit checked.1, checked.2⟩ := by
  rw [← Document.writtenSize_completeLevel h] at hsize
  rw [check_level h (Document.isLevelName_chosenLevel hlevel), checkOptions,
    checkBufferSize_fits h.completeLevel hsize]
  rfl

/-- Fit settings pass the check and come out complete. -/
theorem check_fits [Encoding.Registry] (h : document.Simple) (hfits : document.Fits)
    (logger : Logger) :
    check document logger =
      let set := (logger.setLevel document.chosenLevel).1
      ⟨set, set.emit (listDocument set document.completed).1, .ok document.completed⟩ := by
  have hencoding := hfits.encoding
  rw [← Document.writtenEncoding_sized h] at hencoding
  have hpassed : checkEncoding document.sized = ([], .ok document.completed) :=
    checkEncoding_fits h.sized hencoding
  rw [check_size h hfits.level hfits.size, hpassed]
  simp only [Checked.andThen, List.nil_append, listDocument_plain _ h.completed.plain]

/-- What passes the check was fit. -/
theorem fits_of_check [Encoding.Registry] (h : document.Simple)
    (hok : (check document logger).result = .ok after) :
    document.Fits := by
  have hname : Logger.IsLevelName document.chosenLevel := by
    refine Classical.byContradiction fun hunknown => ?_
    rw [check_unknownLevel h hunknown] at hok
    cases hok
  have hlevel : ∀ level ∈ document.written? levelKey, Logger.IsLevelName level := by
    intro level hwritten
    rwa [Document.chosenLevel, hwritten, Option.getD_some] at hname
  have hsize : ∀ size ∈ document.written? bufferSizeKey, SizeFits size := by
    rw [check_level h hname] at hok
    obtain ⟨_, hoptions, _⟩ := Checked.andThen_ok hok
    obtain ⟨_, hchecked, _⟩ := Checked.andThen_ok hoptions
    rw [← Document.writtenSize_completeLevel h]
    exact sizeFits_of_ok h.completeLevel hchecked
  rw [check_size h hlevel hsize] at hok
  obtain ⟨_, hencoding, _⟩ := Checked.andThen_ok hok
  have hknown := encodingFits_of_ok h.sized hencoding
  rw [Document.writtenEncoding_sized h] at hknown
  exact ⟨hlevel, hsize, hknown⟩

end Checking

end PlotStream.Settings
