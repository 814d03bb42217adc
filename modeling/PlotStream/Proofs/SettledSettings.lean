import PlotStream.Proofs.CheckedSettings

/-!
What loading settings without references comes to. The run is refused for the first value that is
unfit, and otherwise the settings are complete: the parser gets a positive buffer size and a known
encoding, and a second check leaves the settings and the logger as they are. There are two gaps. A
buffer size with very many digits and the name of an encoding with a null character in it end the
run with faults of their own, and nothing is logged.
-/

namespace PlotStream.Settings

namespace Document

variable {document : Document} {key value : String}

theorem stated_of_written (h : document.written? key = some value) :
    document.stated key = some (some value) :=
  Option.join_eq_some_iff.mp (Option.filter_eq_some_iff.mp h).1

/-- The buffer size that a document asks for. -/
def chosenSize (document : Document) : Nat :=
  (document.written? bufferSizeKey).elim Options.defaultBufferSize
    fun size => Text.decimalValue size.toList

/-- The name of the encoding that a document asks for. -/
def chosenEncoding (document : Document) : String :=
  (document.written? encodingKey).getD defaultEncoding

section Completed

theorem written_level (h : document.Simple) :
    document.completed.written? levelKey = some document.chosenLevel := by
  rw [completed, written?_complete_of_ne h.sized (by decide), sized,
    written?_complete_of_ne h.completeLevel (by decide), written?_complete h (by decide)]
  rfl

theorem written_size (h : document.Simple) :
    document.completed.written? bufferSizeKey =
      some ((document.written? bufferSizeKey).getD (toString Options.defaultBufferSize)) := by
  rw [completed, written?_complete_of_ne h.sized (by decide), sized,
    written?_complete h.completeLevel (by decide), writtenSize_completeLevel h]

theorem written_encoding (h : document.Simple) :
    document.completed.written? encodingKey = some document.chosenEncoding := by
  rw [completed, written?_complete h.sized (by decide), writtenEncoding_sized h]
  rfl

/-- What is complete stays as it is. -/
theorem completed_completed (h : document.Simple) :
    document.completed.completed = document.completed := by
  rw [completed, sized, complete_of_some (written_level h), complete_of_some (written_size h),
    complete_of_some (written_encoding h)]

theorem chosenLevel_completed (h : document.Simple) :
    document.completed.chosenLevel = document.chosenLevel := by
  rw [chosenLevel, written_level h, Option.getD_some]

theorem sizeFits_default : SizeFits (toString Options.defaultBufferSize) :=
  ⟨by decide +kernel, by decide +kernel, by decide +kernel⟩

theorem decimalValue_default :
    Text.decimalValue (toString Options.defaultBufferSize).toList = Options.defaultBufferSize := by
  decide +kernel

theorem named_default [Encoding.Registry] :
    Encoding.named defaultEncoding = .ok (.own .latin1) := by
  rw [Encoding.named, if_neg (by decide), defaultEncoding, Encoding.Registry.find?_latin1]

theorem Fits.chosenSize [Encoding.Registry] (h : document.Fits) :
    SizeFits ((document.written? bufferSizeKey).getD (toString Options.defaultBufferSize)) ∧
      document.chosenSize =
        Text.decimalValue
          ((document.written? bufferSizeKey).getD (toString Options.defaultBufferSize)).toList := by
  rw [Document.chosenSize]
  cases hwritten : document.written? bufferSizeKey with
  | none => exact ⟨sizeFits_default, decimalValue_default.symm⟩
  | some size => exact ⟨h.size size hwritten, rfl⟩

theorem Fits.chosenEncoding [Encoding.Registry] (h : document.Fits) :
    ∃ known, Encoding.named document.chosenEncoding = .ok known := by
  rw [Document.chosenEncoding]
  cases hwritten : document.written? encodingKey with
  | none => exact ⟨_, named_default⟩
  | some name => exact h.encoding name hwritten

/-- Defaults are fit, so completing keeps the settings fit. -/
theorem Fits.completed [Encoding.Registry] (h : document.Fits) (hsimple : document.Simple) :
    document.completed.Fits where
  level := by
    intro level hlevel
    obtain rfl := Option.some.inj ((written_level hsimple).symm.trans hlevel)
    exact isLevelName_chosenLevel h.level
  size := by
    intro size hsize
    obtain rfl := Option.some.inj ((written_size hsimple).symm.trans hsize)
    exact h.chosenSize.1
  encoding := by
    intro name hname
    obtain rfl := Option.some.inj ((written_encoding hsimple).symm.trans hname)
    exact h.chosenEncoding

end Completed

end Document

/-- What the parser gets from a document in which everything is written. -/
theorem options_written {document : Document} {size name : String} (h : document.Simple)
    (hsize : document.written? bufferSizeKey = some size)
    (hdecimal : Text.isDecimal size.toList = true)
    (hshort : size.toList.length ≤ Text.maxIntegerDigits)
    (hname : document.written? encodingKey = some name) :
    options document =
      .ok { bufferSize := some (Text.decimalValue size.toList), encoding := some name } := by
  have hinteger : integerValue (some size) = .ok (Text.decimalValue size.toList) := by
    rw [integerValue, Text.integer_decimal hdecimal, if_neg (Nat.not_lt.mpr hshort)]
    rfl
  have hbuffer : bufferSize document = .ok (Text.decimalValue size.toList) := by
    rw [bufferSize, h.mainValue, Document.hasOption_eq, Document.stated_of_written hsize]
    exact hinteger
  have hencoding : encoding document = .ok (some name) := by
    rw [encoding, h.mainValue, Document.hasOption_eq, Document.stated_of_written hname]
    rfl
  rw [options, hbuffer, hencoding]
  rfl

/-- The parser gets what the document asks for. -/
theorem options_completed [Encoding.Registry] {document : Document} (h : document.Simple)
    (hfits : document.Fits) :
    options document.completed =
      .ok { bufferSize := some document.chosenSize, encoding := some document.chosenEncoding } := by
  obtain ⟨hsize, hvalue⟩ := hfits.chosenSize
  rw [options_written h.completed (Document.written_size h) hsize.decimal hsize.short
    (Document.written_encoding h), hvalue]

theorem load_fits [Encoding.Registry] {path : String} {file : Option (List UInt8)}
    {document : Document} (hread : read path file = .ok document) (h : document.Simple)
    (hfits : document.Fits) (logger : Logger) :
    (load path file logger).result >>= options =
      .ok { bufferSize := some document.chosenSize, encoding := some document.chosenEncoding } := by
  have hload : load path file logger = check document logger := by rw [load, hread]
  rw [hload, check_fits h hfits logger]
  exact options_completed h hfits

/-- A second check of the completed document is the same as the first check. -/
theorem check_again [Encoding.Registry] {document : Document} (h : document.Simple)
    (hfits : document.Fits) (logger : Logger) :
    check document.completed (logger.setLevel document.chosenLevel).1 = check document logger := by
  rw [check_fits h.completed (hfits.completed h), check_fits h hfits,
    Document.completed_completed h, Document.chosenLevel_completed h, Logger.setLevel_again]

/-- The run ends with an error record, which the logger may hold back, and without settings. -/
structure Outcome.Refuses (run : Outcome) (set : Logger) (text : String) : Prop where
  logger : run.logger = set
  records : run.records = set.emit [⟨.error, text⟩]
  result : run.result = .error .refused

/-- What a run comes to that starts with a document without references and with some logger. The
values are looked at in order, and every clause but the first takes the values before for fit. -/
structure Outcome.Settles [Encoding.Registry] (run : Outcome) (document : Document)
    (logger : Logger) : Prop where
  unknownLevel : ∀ level ∈ document.written? levelKey, ¬ Logger.IsLevelName level →
    run.result = .error (.unknownLevel ⟨String.ofList (Text.upper level.toList)⟩)
  wrongSize : (∀ level ∈ document.written? levelKey, Logger.IsLevelName level) →
    ∀ size ∈ document.written? bufferSizeKey, SizeWrong size →
      run.Refuses (logger.setLevel document.chosenLevel).1
        ("buffer_size: A positive number of characters is expected (" ++ size ++ ").")
  /-- Not a refusal: so many digits are not even read. -/
  longSize : (∀ level ∈ document.written? levelKey, Logger.IsLevelName level) →
    ∀ size ∈ document.written? bufferSizeKey, Text.isDecimal size.toList = true →
      Text.maxIntegerDigits < size.toList.length →
      run.records = [] ∧ run.result = .error (.integer (.tooLong size.toList.length))
  unknownEncoding : (∀ level ∈ document.written? levelKey, Logger.IsLevelName level) →
    (∀ size ∈ document.written? bufferSizeKey, SizeFits size) →
    ∀ name ∈ document.written? encodingKey, Encoding.named name = .error (.unknown name) →
      run.Refuses (logger.setLevel document.chosenLevel).1
        ("encoding: Unknown encoding (" ++ name ++ ").")
  /-- The name is not even looked up. -/
  nullCharacter : (∀ level ∈ document.written? levelKey, Logger.IsLevelName level) →
    (∀ size ∈ document.written? bufferSizeKey, SizeFits size) →
    ∀ name ∈ document.written? encodingKey, '\x00' ∈ name.toList →
      run.records = [] ∧ run.result = .error (.encodingName .nullCharacter)
  passes : document.Fits → ∃ after, run.result = .ok after
  /-- Settings that come out are what was asked for, and checking them again changes nothing. -/
  settled : ∀ after, run.result = .ok after →
    0 < document.chosenSize ∧ (∃ known, Encoding.named document.chosenEncoding = .ok known) ∧
      options after =
        .ok { bufferSize := some document.chosenSize, encoding := some document.chosenEncoding } ∧
      check after run.logger = run

section Refusing

/-- Nothing is looked at after a refusal. -/
theorem refuse_andThen (text : String) (next : Document → Checked) :
    (refuse text).andThen next = refuse text := rfl

/-- A run that comes to nothing but a refusal is refused. -/
theorem refuses_refuse (set : Logger) (text : String) :
    Outcome.Refuses ⟨set, set.emit (refuse text).1, (refuse text).2⟩ set text :=
  ⟨rfl, rfl, rfl⟩

variable {document : Document} {size name : String}

/-- A buffer size that is wrong is the reason for a refusal, whatever the encoding. -/
theorem check_wrongSize [Encoding.Registry] (h : document.Simple)
    (hlevel : ∀ level ∈ document.written? levelKey, Logger.IsLevelName level)
    (hwritten : document.written? bufferSizeKey = some size) (hwrong : SizeWrong size)
    (logger : Logger) :
    (check document logger).Refuses (logger.setLevel document.chosenLevel).1
      ("buffer_size: A positive number of characters is expected (" ++ size ++ ").") := by
  rw [← Document.writtenSize_completeLevel h] at hwritten
  rw [check_level h (Document.isLevelName_chosenLevel hlevel), checkOptions,
    checkBufferSize_wrong h.completeLevel hwritten hwrong]
  simp only [refuse_andThen]
  exact refuses_refuse _ _

theorem check_longSize [Encoding.Registry] (h : document.Simple)
    (hlevel : ∀ level ∈ document.written? levelKey, Logger.IsLevelName level)
    (hwritten : document.written? bufferSizeKey = some size)
    (hdecimal : Text.isDecimal size.toList = true)
    (hlong : Text.maxIntegerDigits < size.toList.length) (logger : Logger) :
    (check document logger).records = [] ∧
      (check document logger).result = .error (.integer (.tooLong size.toList.length)) := by
  rw [← Document.writtenSize_completeLevel h] at hwritten
  rw [check_level h (Document.isLevelName_chosenLevel hlevel), checkOptions,
    checkBufferSize_long h.completeLevel hwritten hdecimal hlong]
  exact ⟨rfl, rfl⟩

theorem check_unknownEncoding [Encoding.Registry] (h : document.Simple)
    (hlevel : ∀ level ∈ document.written? levelKey, Logger.IsLevelName level)
    (hsize : ∀ size ∈ document.written? bufferSizeKey, SizeFits size)
    (hwritten : document.written? encodingKey = some name)
    (hunknown : Encoding.named name = .error (.unknown name)) (logger : Logger) :
    (check document logger).Refuses (logger.setLevel document.chosenLevel).1
      ("encoding: Unknown encoding (" ++ name ++ ").") := by
  rw [← Document.writtenEncoding_sized h] at hwritten
  rw [check_size h hlevel hsize, checkEncoding_unknown h.sized hwritten hunknown]
  simp only [refuse_andThen]
  exact refuses_refuse _ _

/-- A null character in the name of the encoding is not refused, but ends the run all the same. -/
theorem check_nullCharacter [Encoding.Registry] (h : document.Simple)
    (hlevel : ∀ level ∈ document.written? levelKey, Logger.IsLevelName level)
    (hsize : ∀ size ∈ document.written? bufferSizeKey, SizeFits size)
    (hwritten : document.written? encodingKey = some name) (hnull : '\x00' ∈ name.toList)
    (logger : Logger) :
    (check document logger).records = [] ∧
      (check document logger).result = .error (.encodingName .nullCharacter) := by
  have hnamed : Encoding.named name = .error .nullCharacter :=
    if_pos (List.contains_iff_mem.mpr hnull)
  rw [← Document.writtenEncoding_sized h] at hwritten
  rw [check_size h hlevel hsize, checkEncoding_null h.sized hwritten hnamed]
  exact ⟨rfl, rfl⟩

end Refusing

/-- What loading a file comes to, if the settings in it have a main section and no references. -/
theorem load_settles [Encoding.Registry] {path : String} {file : Option (List UInt8)}
    {document : Document} (hread : read path file = .ok document)
    (hmain : (document.sections.lookup mainSection).isSome) (hplain : document.Plain)
    (logger : Logger) : (load path file logger).Settles document logger := by
  have h : document.Simple := ⟨hmain, hplain⟩
  have hload : load path file logger = check document logger := by rw [load, hread]
  rw [hload]
  refine
    { unknownLevel := ?_
      wrongSize := fun hlevel size hsize hwrong => check_wrongSize h hlevel hsize hwrong logger
      longSize := fun hlevel size hsize hdecimal hlong =>
        check_longSize h hlevel hsize hdecimal hlong logger
      unknownEncoding := fun hlevel hsize name hname hunknown =>
        check_unknownEncoding h hlevel hsize hname hunknown logger
      nullCharacter := fun hlevel hsize name hname hnull =>
        check_nullCharacter h hlevel hsize hname hnull logger
      passes := ?_
      settled := ?_ }
  · intro level hlevel hunknown
    have hchosen : document.chosenLevel = level := by
      rw [Document.chosenLevel, hlevel, Option.getD_some]
    rw [← hchosen] at hunknown ⊢
    exact check_unknownLevel h hunknown logger
  · intro hfits
    exact ⟨document.completed, congrArg Outcome.result (check_fits h hfits logger)⟩
  · intro after hafter
    have hfits := fits_of_check h hafter
    have hrun := check_fits h hfits logger
    have hdocument : after = document.completed :=
      Except.ok.inj (hafter.symm.trans (congrArg Outcome.result hrun))
    have hlogger : (check document logger).logger = (logger.setLevel document.chosenLevel).1 :=
      congrArg Outcome.logger hrun
    obtain ⟨hsize, hvalue⟩ := hfits.chosenSize
    refine ⟨hvalue ▸ hsize.positive, hfits.chosenEncoding, ?_, ?_⟩
    · rw [hdocument]
      exact options_completed h hfits
    · rw [hdocument, hlogger]
      exact check_again h hfits logger

def fileOf (text : String) : Option (List UInt8) := some text.toUTF8.data.toList

/-- Settings with an encoding among the defaults and a buffer size in other digits. -/
def layeredText : String :=
  "[DEFAULT]\nencoding: UTF-8\n[misc]\nloglevel = error\nbuffer_size = ٣٢\n"

def layeredDocument : Document where
  defaults := [("encoding", some "UTF-8")]
  sections := [("misc", [("loglevel", some "error"), ("buffer_size", some "٣٢")])]

theorem layered_fits : layeredDocument.Fits where
  level := by
    intro level hlevel
    obtain rfl : level = "error" := Option.some.inj (hlevel.symm.trans (by decide +kernel))
    exact Or.inr (by decide +kernel)
  size := by
    intro size hsize
    obtain rfl : size = "٣٢" := Option.some.inj (hsize.symm.trans (by decide +kernel))
    exact ⟨by decide +kernel, by decide +kernel, by decide +kernel⟩
  encoding := by
    intro name hname
    obtain rfl : name = "UTF-8" := Option.some.inj (hname.symm.trans (by decide +kernel))
    exact ⟨.own .utf8, rfl⟩

/-- The settings of both sections come out together. -/
theorem load_settles_layered :
    let run := load "hpglparser.conf" (fileOf layeredText) {}
    read "hpglparser.conf" (fileOf layeredText) = .ok layeredDocument ∧
      (layeredDocument.sections.lookup mainSection).isSome ∧ layeredDocument.Plain ∧
      run.Settles layeredDocument {} ∧
      ∃ after, run.result = .ok after ∧
        options after = .ok { bufferSize := some 32, encoding := some "UTF-8" } ∧
        check after run.logger = run := by
  intro run
  have hread : read "hpglparser.conf" (fileOf layeredText) = .ok layeredDocument :=
    ok_of_toOption (by decide +kernel)
  have hmain : (layeredDocument.sections.lookup mainSection).isSome := by decide
  have hplain : layeredDocument.Plain := by decide
  have hsettles := load_settles hread hmain hplain {}
  obtain ⟨after, hresult⟩ := hsettles.passes layered_fits
  obtain ⟨_, _, hoptions, hagain⟩ := hsettles.settled after hresult
  have hsize : layeredDocument.chosenSize = 32 := by decide +kernel
  have hname : layeredDocument.chosenEncoding = "UTF-8" := by decide +kernel
  rw [hsize, hname] at hoptions
  exact ⟨hread, hmain, hplain, hsettles, after, hresult, hoptions, hagain⟩

/-- Settings that ask for an encoding with a null character in its name. -/
def nullText : String := "[misc]\nencoding=utf\x00-8\n"

def nullDocument : Document where
  sections := [("misc", [("encoding", some "utf\x00-8")])]

/-- There is no such encoding, and nothing else is wrong with the settings. All the same the run is
not refused with a record of what is wrong, nor does it pass. -/
theorem load_nullCharacter :
    let run := load "hpglparser.conf" (fileOf nullText) {}
    read "hpglparser.conf" (fileOf nullText) = .ok nullDocument ∧
      (nullDocument.sections.lookup mainSection).isSome ∧ nullDocument.Plain ∧
      nullDocument.written? levelKey = none ∧ nullDocument.written? bufferSizeKey = none ∧
      nullDocument.written? encodingKey = some "utf\x00-8" ∧
      (∀ known, Encoding.named "utf\x00-8" ≠ .ok known) ∧
      run.records = [] ∧ run.result = .error (.encodingName .nullCharacter) ∧
      (∀ set, ¬ run.Refuses set "encoding: Unknown encoding (utf\x00-8).") ∧
      ∀ after, run.result ≠ .ok after := by
  intro run
  have hread : read "hpglparser.conf" (fileOf nullText) = .ok nullDocument :=
    ok_of_toOption (by decide +kernel)
  have hmain : (nullDocument.sections.lookup mainSection).isSome := by decide
  have hplain : nullDocument.Plain := by decide
  have hlevel : nullDocument.written? levelKey = none := by decide +kernel
  have hsize : nullDocument.written? bufferSizeKey = none := by decide +kernel
  have hname : nullDocument.written? encodingKey = some "utf\x00-8" := by decide +kernel
  have hnull : '\x00' ∈ "utf\x00-8".toList := by decide
  have hnamed : Encoding.named "utf\x00-8" = .error .nullCharacter :=
    if_pos (List.contains_iff_mem.mpr hnull)
  have hrun : run = check nullDocument {} := by simp only [run, load, hread]
  obtain ⟨hrecords, hresult⟩ :=
    check_nullCharacter ⟨hmain, hplain⟩ (by simp [hlevel]) (by simp [hsize]) hname hnull {}
  rw [← hrun] at hrecords hresult
  refine ⟨hread, hmain, hplain, hlevel, hsize, hname, fun known hknown => ?_, hrecords, hresult,
    fun set hrefused => ?_, fun after hafter => ?_⟩
  · cases hknown.symm.trans hnamed
  · cases hrefused.result.symm.trans hresult
  · cases hafter.symm.trans hresult

end PlotStream.Settings
