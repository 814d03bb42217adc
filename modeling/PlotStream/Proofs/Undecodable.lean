import PlotStream.Proofs.Codings
import PlotStream.Proofs.Joining
import PlotStream.Proofs.SettledSettings

/-!
Plot files that do not decode. A file is rejected if its bytes make no sense, with an error in the
log about the decoding or about a violation that comes first. A file that ends inside a character is
taken for the text in front of it: the beginning of a character at its end is as good as nothing,
unless the reader of the stream is exacting. A file without the byte order mark that its encoding
asks for is not rejected in this way either, if it has a character in it.
-/

namespace PlotStream

/-- With nobody who objects a parse of a text comes to a count or to a violation. -/
theorem Parser.text_outcome [Encoding.Registry] (text : List Char) :
    (∃ n, (Parser.parse {} (.text text) {}).outcome = .ok n) ∨
      ∃ violation, (Parser.parse {} (.text text) {}).outcome = .error (.violation violation) := by
  obtain ⟨_, _, outcome, _, _, hshows⟩ := exists_text_path text
  cases outcome with
  | ok n => exact Or.inl ⟨n, hshows.outcome_ok.mpr rfl⟩
  | error violation => exact Or.inr ⟨violation, hshows.outcome_violation.mpr rfl⟩

namespace Program

/-- The run is given up, with an error in the log about the decoding or about a violation. -/
structure Journal.Rejects (journal : Journal) (name : String) : Prop where
  outcome : journal.outcome = .error (.exit (some 1))
  record : ∃ text,
    ((∃ failure : Encoding.Failure,
        text = "Input file can't be decoded with " ++ name ++ ": " ++ failure.message) ∨
      ∃ violation : Violation, text = violation.complaint.message) ∧
    (journal.logger.passes ⟨.error, text⟩ = true → ⟨.error, text⟩ ∈ journal.records)

/-- How a run on a plot file can end: rejected, with a count, or for want of a byte order mark. -/
inductive Journal.Ends (journal : Journal) (name : String) (marked : Prop) : Prop where
  | rejected (hrejects : journal.Rejects name)
  | count (n : Nat) (houtcome : journal.outcome = .ok n)
  | unmarked (hunmarked : ¬ marked) (bits : Nat)
      (houtcome : journal.outcome = .error (.parse (.source (.missingMark bits))))

variable {plot : PlotFile} {options : Options} {name : String}

/-- Records that were there before make no difference. -/
theorem Journal.Rejects.behind {journal : Journal} (h : journal.Rejects name)
    (earlier : List Log.Record) :
    Journal.Rejects { journal with records := earlier ++ journal.records } name := by
  obtain ⟨houtcome, text, hkind, hrecord⟩ := h
  exact ⟨houtcome, text, hkind, fun hpasses => List.mem_append_right earlier (hrecord hpasses)⟩

theorem Journal.Ends.behind {journal : Journal} {marked : Prop} (h : journal.Ends name marked)
    (earlier : List Log.Record) :
    Journal.Ends { journal with records := earlier ++ journal.records } name marked := by
  cases h with
  | rejected hrejects => exact .rejected (hrejects.behind earlier)
  | count n houtcome => exact .count n houtcome
  | unmarked hunmarked bits houtcome => exact .unmarked hunmarked bits houtcome

/-- Trouble that is reported as an error is in the log if errors get there. -/
theorem parsePlot_rejects [Encoding.Registry] (logger : Logger) {fault : Fault} {text : String}
    (hfault : (Parser.parse {} (.byteStream plot.delivery plot.bytes) options).outcome =
      .error fault)
    (houtcome : (reportOutcome plot options (.error fault)).2 = .error (.exit (some 1)))
    (htext : ⟨.error, text⟩ ∈ (reportOutcome plot options (.error fault)).1)
    (hkind : (∃ failure : Encoding.Failure,
        text = "Input file can't be decoded with " ++ name ++ ": " ++ failure.message) ∨
      ∃ violation : Violation, text = violation.complaint.message) :
    (parsePlot plot options logger).Rejects name := by
  refine ⟨?_, text, hkind, fun hpasses => ?_⟩
  · rw [parsePlot, hfault]
    exact houtcome
  · rw [parsePlot, hfault] at hpasses ⊢
    exact List.mem_filter.mpr
      ⟨List.mem_cons_of_mem _ (List.mem_append_right _ htext), hpasses⟩

theorem parsePlot_undecodable [Encoding.Registry] (logger : Logger)
    (hname : options.encoding = some name) {failure : Encoding.Failure}
    (hfault : (Parser.parse {} (.byteStream plot.delivery plot.bytes) options).outcome =
      .error (.source (.undecodable failure))) : (parsePlot plot options logger).Rejects name := by
  refine parsePlot_rejects logger hfault rfl (List.mem_singleton.mpr rfl) (Or.inl ⟨failure, ?_⟩)
  rw [hname]
  rfl

theorem parsePlot_violation [Encoding.Registry] (logger : Logger) {violation : Violation}
    (hfault : (Parser.parse {} (.byteStream plot.delivery plot.bytes) options).outcome =
      .error (.violation violation)) : (parsePlot plot options logger).Rejects name :=
  parsePlot_rejects logger hfault rfl List.mem_cons_self (Or.inr ⟨violation, rfl⟩)

theorem parsePlot_ok [Encoding.Registry] (logger : Logger) {n : Nat}
    (hok : (Parser.parse {} (.byteStream plot.delivery plot.bytes) options).outcome = .ok n) :
    (parsePlot plot options logger).outcome = .ok n := by
  rw [parsePlot, hok]
  rfl

theorem parsePlot_missingMark [Encoding.Registry] (logger : Logger) {bits : Nat}
    (hfault : (Parser.parse {} (.byteStream plot.delivery plot.bytes) options).outcome =
      .error (.source (.missingMark bits))) :
    (parsePlot plot options logger).outcome = .error (.parse (.source (.missingMark bits))) := by
  rw [parsePlot, hfault]
  rfl

/-- A plot file whose bytes give a text is like that text. No other one gets a count. -/
theorem parsePlot_delivered [Encoding.Registry] {coding : Encoding.Coding} (logger : Logger)
    (hbytes : plot.bytes ≠ [])
    (hname : options.encoding = some name) (hnamed : Encoding.named name = .ok coding)
    (hlawful : coding.Lawful) {size : Nat}
    (hsize : options.bufferSizeFor (.byteStream plot.delivery plot.bytes) = size)
    (hpos : 0 < size) (hrefusal : plot.delivery.refusal size = none) :
    let journal := parsePlot plot options logger
    journal.Ends name (coding.Marked plot.bytes) ∧
      ∀ n, journal.outcome = .ok n ↔ ∃ chars, coding.delivered plot.bytes = some chars ∧
        (Parser.parse {} (.text chars) {}).outcome = .ok n := by
  intro journal
  have hsource : (Input.byteStream plot.delivery plot.bytes).source options.encoding =
      .ok fun size => coding.source plot.delivery size plot.bytes := by
    simp only [hname, Input.source, hnamed]
  have hpositive : 0 < options.bufferSizeFor (.byteStream plot.delivery plot.bytes) := by omega
  have hrequest : (options.bufferSizeFor (.byteStream plot.delivery plot.bytes)).toNat = size := by
    omega
  have hdelivers := Encoding.Coding.source_delivers hlawful hpos hrefusal hbytes
  cases hdelivered : coding.delivered plot.bytes with
  | some chars =>
      rw [hdelivered, Encoding.Delivers, List.nil_append, ← hrequest] at hdelivers
      obtain ⟨text, htext, hgives⟩ := (Input.carries_text chars).source none
      have hagrees := Parser.parse_agrees_of_sources {} hsource hdelivers hpositive
        htext hgives (Options.bufferSizeFor_text_pos chars)
      rcases Parser.text_outcome chars with ⟨n, hok⟩ | ⟨violation, hfailed⟩
      · have hcount : journal.outcome = .ok n := parsePlot_ok logger (hagrees.outcome.trans hok)
        refine ⟨.count n hcount, fun k => ?_⟩
        simp [hcount, hok]
      · have hrejects : journal.Rejects name :=
          parsePlot_violation logger (hagrees.outcome.trans hfailed)
        refine ⟨.rejected hrejects, fun k => ?_⟩
        simp [hrejects.outcome, hfailed]
  | none =>
      rw [hdelivered, ← hrequest] at hdelivers
      obtain ⟨delivered, cause, hgives, hfails⟩ := hdelivers
      rcases Parser.parse_broken {} rfl hsource hgives hpositive with
        ⟨_, _, violation, _, _, _, hshows⟩ | ⟨_, _, _, _, _, hfailed, _⟩
      · have hrejects : journal.Rejects name :=
          parsePlot_violation logger (hshows.outcome_violation.mpr rfl)
        refine ⟨.rejected hrejects, fun k => ?_⟩
        simp [hrejects.outcome]
      cases hfails with
      | undecodable failure =>
          have hrejects : journal.Rejects name := parsePlot_undecodable logger hname hfailed
          refine ⟨.rejected hrejects, fun k => ?_⟩
          simp [hrejects.outcome]
      | unmarked hunmarked bits =>
          have hoff : journal.outcome = _ := parsePlot_missingMark logger hfailed
          refine ⟨.unmarked hunmarked bits hoff, fun k => ?_⟩
          simp [hoff]

/-- Under settings that are in order a plot file with something in it is parsed. -/
theorem exists_decodePlot [Encoding.Registry] (hbytes : plot.bytes ≠ []) {settings : SettingsFile}
    {logger : Logger}
    (hsettings : (Settings.load settings.path settings.bytes logger).result >>= Settings.options =
      .ok options)
    (overrides : Overrides) :
    ∃ earlier following, decodePlot plot settings overrides logger =
      { parsePlot plot (overrides.apply options) following with
        records := earlier ++ (parsePlot plot (overrides.apply options) following).records } := by
  have hnonempty : plot.bytes.isEmpty = false := by simpa using hbytes
  simp only [decodePlot, hnonempty, hsettings]
  exact ⟨_, _, rfl⟩

/-- A plot file that does not decode is rejected, or it lacks a byte order mark, with one exception:
the file ends inside a character, the characters in front of it are a text that is accepted, and the
reader of the stream does not mind. Then that text is what counts. -/
theorem decodePlot_undecodable [Encoding.Registry] (plot : PlotFile) (settings : SettingsFile)
    (overrides : Overrides) (logger : Logger) (hbytes : plot.bytes ≠ []) {options : Options}
    (hsettings : (Settings.load settings.path settings.bytes logger).result >>= Settings.options =
      .ok options)
    {name : String} {coding : Encoding.Coding}
    (hname : (overrides.apply options).encoding = some name)
    (hnamed : Encoding.named name = .ok coding) (hlawful : coding.Lawful) {size : Nat}
    (hsize : (overrides.apply options).bufferSizeFor (.byteStream plot.delivery plot.bytes) = size)
    (hpos : 0 < size) (hmax : size ≤ maxRequest) (hroom : plot.delivery.HasRoom size)
    {failure : Encoding.Failure} (hfails : coding.decode plot.bytes = .error failure) :
    let journal := decodePlot plot settings overrides logger
    journal.Ends name (coding.Marked plot.bytes) ∧
      ∀ n, journal.outcome = .ok n ↔
        coding.isExacting = false ∧ ∃ chars left, coding.soFar plot.bytes = some (chars, left) ∧
          left ≠ [] ∧ (coding.Marked plot.bytes ∨ chars = []) ∧
          (Parser.parse {} (.text chars) {}).outcome = .ok n := by
  intro journal
  have hrefusal := Encoding.Delivery.refusal_eq_none hmax hroom
  obtain ⟨earlier, following, hjournal⟩ := exists_decodePlot hbytes hsettings overrides
  obtain ⟨hends, hcounts⟩ :=
    parsePlot_delivered following hbytes hname hnamed hlawful hsize hpos hrefusal
  simp only [journal, hjournal]
  refine ⟨hends.behind earlier, fun n => (hcounts n).trans ?_⟩
  simp only [Encoding.Coding.delivered_of_undecodable hlawful hfails]
  constructor
  · rintro ⟨chars, ⟨hexacting, left, hsofar, hleft, hmarked⟩, hok⟩
    exact ⟨hexacting, chars, left, hsofar, hleft, hmarked, hok⟩
  · rintro ⟨hexacting, chars, left, hsofar, hleft, hmarked, hok⟩
    exact ⟨chars, ⟨hexacting, left, hsofar, hleft, hmarked⟩, hok⟩

/-- Settings that ask for an encoding and nothing else. -/
def plainSettings : SettingsFile where
  path := "hpglparser.conf"
  bytes := some "[misc]\nencoding = utf-8\n".toUTF8.data.toList

def plainDocument : Settings.Document where
  sections := [("misc", [("encoding", some "utf-8")])]

theorem plainDocument_fits : plainDocument.Fits where
  level := by
    intro level hlevel
    have hnone : plainDocument.written? Settings.levelKey = none := by decide +kernel
    cases hlevel.symm.trans hnone
  size := by
    intro size hsize
    have hnone : plainDocument.written? Settings.bufferSizeKey = none := by decide +kernel
    cases hsize.symm.trans hnone
  encoding := by
    intro name hname
    obtain rfl : name = "utf-8" := Option.some.inj (hname.symm.trans (by decide +kernel))
    exact ⟨.own .utf8, rfl⟩

theorem load_plainSettings :
    (Settings.load plainSettings.path plainSettings.bytes {}).result >>= Settings.options =
      .ok { bufferSize := some 1024, encoding := some "utf-8" } := by
  have hdocument : (Settings.Document.ofBytes (plainSettings.bytes.getD [])).toOption =
      some plainDocument := by decide +kernel
  have hread : Settings.read plainSettings.path plainSettings.bytes = .ok plainDocument := by
    rw [Settings.read, ok_of_toOption hdocument]
    rfl
  have hsize : plainDocument.chosenSize = 1024 := by decide +kernel
  have hname : plainDocument.chosenEncoding = "utf-8" := by decide +kernel
  rw [Settings.load_fits hread ⟨by decide, by decide⟩ plainDocument_fits, hsize, hname]
  rfl

/-- Bytes that make no sense behind a first command. -/
theorem decodePlot_undecodable_senseless :
    let plot : PlotFile := { bytes := [0x49, 0x4E, 0x3B, 0xFF, 0x3B], seekable := true }
    let options : Options := { bufferSize := some 1024, encoding := some "utf-8" }
    let failure : Encoding.Failure := ⟨"utf-8", 3, 4, 0xFF, .invalidStart⟩
    (Settings.load plainSettings.path plainSettings.bytes {}).result >>= Settings.options =
        .ok options ∧
      Encoding.named "utf-8" = .ok (.own .utf8) ∧
      Encoding.utf8.decode plot.bytes = .error failure ∧
      (decodePlot plot plainSettings {} {}).Rejects "utf-8" := by
  intro plot options failure
  have hfails : Encoding.utf8.decode plot.bytes = .error failure := by decide +kernel
  have hsofar : Encoding.Item.decodeSoFar (Encoding.utf8.items plot.bytes) = .error failure := by
    decide +kernel
  obtain ⟨hends, hok⟩ := decodePlot_undecodable plot plainSettings {} {} (by decide)
    load_plainSettings rfl rfl trivial rfl (by decide) (by decide) ⟨by decide, by decide⟩ hfails
  refine ⟨load_plainSettings, rfl, hfails, ?_⟩
  cases hends with
  | rejected hrejects => exact hrejects
  | unmarked hunmarked _ _ => exact absurd trivial hunmarked
  | count n hn =>
      obtain ⟨_, chars, left, hother, _⟩ := (hok n).mp hn
      cases hsofar.symm.trans (Encoding.Item.soFar_eq_some.mp hother)

/-- A file that does not decode and is not rejected: it ends inside a character. -/
theorem decodePlot_torn :
    let plot : PlotFile := { bytes := [0x49, 0x4E, 0x3B, 0xC3], seekable := true }
    let options : Options := { bufferSize := some 1024, encoding := some "utf-8" }
    let journal := decodePlot plot plainSettings {} {}
    (Settings.load plainSettings.path plainSettings.bytes {}).result >>= Settings.options =
        .ok options ∧
      Encoding.named "utf-8" = .ok (.own .utf8) ∧
      Encoding.utf8.decode plot.bytes = .error ⟨"utf-8", 3, 4, 0xC3, .unexpectedEnd⟩ ∧
      journal.outcome = .ok 0 ∧ ¬ journal.Rejects "utf-8" := by
  intro plot options journal
  have hfails : Encoding.utf8.decode plot.bytes =
      .error ⟨"utf-8", 3, 4, 0xC3, .unexpectedEnd⟩ := by decide +kernel
  have hsofar : Encoding.Item.decodeSoFar (Encoding.utf8.items plot.bytes) =
      .ok (['I', 'N', ';'], [0xC3]) := by decide +kernel
  have hdelivered : (Encoding.Coding.own .utf8).delivered plot.bytes = some ['I', 'N', ';'] :=
    Encoding.Coding.delivered_eq_some.mpr
      ⟨_, Encoding.Item.soFar_eq_some.mpr hsofar, Bool.noConfusion, Or.inl trivial⟩
  have hparse : (Parser.parse {} (.text ['I', 'N', ';']) {}).outcome = .ok 0 := by
    obtain ⟨_, hshows⟩ := Parser.drawing_shows .least
    exact hshows.outcome_ok.mpr rfl
  have hbytes : plot.bytes ≠ [] := by decide
  have hnamed : Encoding.named "utf-8" = .ok (.own .utf8) := rfl
  have hname : (Overrides.apply {} options).encoding = some "utf-8" := rfl
  have hsize : (Overrides.apply {} options).bufferSizeFor (.byteStream plot.delivery plot.bytes) =
    (1024 : Nat) := rfl
  have hrefusal : plot.delivery.refusal 1024 = none := by decide
  have hok : journal.outcome = .ok 0 := by
    obtain ⟨earlier, following, hjournal⟩ := exists_decodePlot hbytes load_plainSettings {}
    simp only [journal, hjournal]
    obtain ⟨_, hcounts⟩ :=
      parsePlot_delivered following hbytes hname hnamed trivial hsize (by decide) hrefusal
    exact (hcounts 0).mpr ⟨_, hdelivered, hparse⟩
  refine ⟨load_plainSettings, rfl, hfails, hok, fun hrejects => ?_⟩
  cases hok.symm.trans hrejects.outcome

end Program

end PlotStream
