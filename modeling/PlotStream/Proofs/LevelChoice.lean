import PlotStream.Proofs.CheckedSettings
import PlotStream.Proofs.LevelReading

/-!
What the log level in a settings file is for. Two files that differ in nothing but the level, a
recognised name in either, ask for the same parsing, or are refused for the same reason. There is
one exception: a logger at the level of debug records has the whole document listed, and the listing
resolves options that nothing else looks at. If one of them cannot be resolved, the run at that
level fails where the other one succeeds.
-/

namespace PlotStream.Settings

/-- The log level of the main section is a recognised name, and no other value refers to it. -/
structure Document.NamesLevel (document : Document) : Prop where
  named : ∃ level, document.level? = some level ∧ Logger.IsLevelName level
  avoids : document.blank.Avoids levelKey

/-- As names are not repeated, the level that is found is the only one. -/
theorem Document.NamesLevel.levelApart {document : Document} (h : document.NamesLevel)
    (hdistinct : Distinct document.sections) : document.LevelApart where
  avoids := h.avoids
  plain := by
    intro table hmem
    obtain ⟨level, hlevel, hname⟩ := h.named
    rw [Document.level?, lookup_of_mem hdistinct.names hmem, Option.bind_some] at hlevel
    have hfound : table.lookup levelKey = some (some level) := Option.join_eq_some_iff.mp hlevel
    refine ⟨by rw [hfound]; rfl, fun value hvalue => ?_⟩
    rw [lookup_of_mem (hdistinct.keys _ table hmem) hvalue] at hfound
    obtain rfl := Option.some.inj (Option.some.inj hfound)
    exact hname.plain

/-- Two settings files that differ in the log level of the main section, which is a recognised name
in either, and to which no other value refers. -/
structure LevelVariants (bytes bytes' : List UInt8) : Prop where
  texts : ∃ text text', Encoding.utf8.decode bytes = .ok text ∧
    Encoding.utf8.decode bytes' = .ok text' ∧ DifferInLevel text text'
  named : ∀ document, Document.ofBytes bytes = .ok document → document.NamesLevel
  named' : ∀ document, Document.ofBytes bytes' = .ok document → document.NamesLevel

section Loading

variable {bytes : List UInt8}

theorem load_unreadable [Encoding.Registry] {fault : ReadingFault}
    (hread : Document.ofBytes bytes = .error fault) (path : String) (logger : Logger) :
    (load path (some bytes) logger).result = .error (.unreadable path fault) := by
  rw [load, read, Option.getD_some, hread]
  rfl

theorem load_read [Encoding.Registry] {document : Document}
    (hread : Document.ofBytes bytes = .ok document) (path : String) (logger : Logger) :
    load path (some bytes) logger = check document logger := by
  rw [load, read, Option.getD_some, hread]
  rfl

end Loading

/-- Settings that differ in the log level ask for the same parsing or fail alike, unless just one of
the runs lists the document and meets references that cannot be resolved. -/
theorem load_apart [Encoding.Registry] {bytes bytes' : List UInt8} (h : LevelVariants bytes bytes')
    (path : String) (logger : Logger) :
    let run := load path (some bytes) logger
    let other := load path (some bytes') logger
    run.Agrees other ∨ run.Stumbles other ∨ other.Stumbles run := by
  intro run other
  obtain ⟨text, text', htext, htext', hdiffer⟩ := h.texts
  have hblank := ofBytes_apart htext htext' hdiffer
  rcases alike_of_map_eq hblank with
    ⟨fault, hread, hread'⟩ | ⟨document, document', hread, hread', hafter⟩
  · exact Or.inl (.failed (load_unreadable hread path logger) (load_unreadable hread' path logger))
  · have hnamed := h.named document hread
    have hnamed' := h.named' document' hread'
    obtain ⟨level, hlevel, hname⟩ := hnamed.named
    obtain ⟨level', hlevel', hname'⟩ := hnamed'.named
    have hrun : run = check document logger := load_read hread path logger
    have hother : other = check document' logger := load_read hread' path logger
    rw [hrun, hother]
    exact check_apart (hnamed.levelApart (Reading.distinct_ofBytes hread))
      (hnamed'.levelApart (Reading.distinct_ofBytes hread')) hafter hlevel hlevel' hname hname'
      logger

/-- Settings with a log level and, in a section that nothing else looks at, a stray percent sign. -/
def strayText (level : String) : List Char :=
  ("[misc]\nloglevel = " ++ level ++ "\n[x]\na = %\n").toList

def strayFile (level : String) : List UInt8 :=
  (String.ofList (strayText level)).toUTF8.data.toList

def strayDocument (level : String) : Document where
  sections := [("misc", [("loglevel", some level)]), ("x", [("a", some "%")])]

/-- The levels that the file is looked at with. -/
def strayLevels : List String := ["debug", "info", "None"]

theorem decode_stray {level : String} (h : level ∈ strayLevels) :
    Encoding.utf8.decode (strayFile level) = .ok (strayText level) := by
  have hdecoded : ∀ level ∈ strayLevels,
      (Encoding.utf8.decode (strayFile level)).toOption = some (strayText level) := by
    decide +kernel
  exact ok_of_toOption (hdecoded level h)

theorem read_stray {level : String} (h : level ∈ strayLevels) :
    Document.ofBytes (strayFile level) = .ok (strayDocument level) := by
  have hread : ∀ level ∈ strayLevels,
      (Document.ofBytes (strayFile level)).toOption = some (strayDocument level) := by
    decide +kernel
  exact ok_of_toOption (hread level h)

theorem isLevelName_stray {level : String} (h : level ∈ strayLevels) :
    Logger.IsLevelName level := by
  have hnames : ∀ level ∈ strayLevels,
      String.ofList (Text.upper level.toList) = "NONE" ∨
        (Logger.levelOf? (String.ofList (Text.upper level.toList))).isSome := by
    decide +kernel
  exact hnames level h

theorem namesLevel_stray {level : String} (h : level ∈ strayLevels) :
    (strayDocument level).NamesLevel where
  named := ⟨level, rfl, isLevelName_stray h⟩
  avoids := by
    have hblank : (strayDocument level).blank = strayDocument "" := by
      simp [Document.blank, Document.blankTable, Table.blank, blankValue, strayDocument,
        mainSection, levelKey]
    have hnone : references "".toList = [] ∧ references "%".toList = [] := by
      simp [references]
    rw [hblank]
    refine ⟨(fun key value hmem => by cases hmem), fun name table hmem key value hvalue => ?_⟩
    simp only [strayDocument, List.mem_cons, Prod.mk.injEq, List.not_mem_nil, or_false] at hmem
    have hplain : references value.toList = [] := by
      rcases hmem with ⟨_, rfl⟩ | ⟨_, rfl⟩
      · obtain rfl := Option.some.inj (Prod.mk.inj (List.mem_singleton.mp hvalue)).2
        exact hnone.1
      · obtain rfl := Option.some.inj (Prod.mk.inj (List.mem_singleton.mp hvalue)).2
        exact hnone.2
    rw [hplain]
    exact List.not_mem_nil

/-- The line with the level. -/
def strayLine (level : String) : List Char := ("loglevel = " ++ level ++ "\n").toList

theorem differInLevel_stray {level level' : String} (h : level ∈ strayLevels)
    (h' : level' ∈ strayLevels) : DifferInLevel (strayText level) (strayText level') := by
  let before : List (List Char) := ["[misc]\n".toList]
  let after : List (List Char) := ["[x]\n".toList, "a = %\n".toList]
  let opened : Reading := { sections := [("misc", [])], current := some "misc" }
  have hlines : ∀ level ∈ strayLevels,
      Text.lines (Text.unifyLineEnds (strayText level)) = before ++ strayLine level :: after := by
    decide +kernel
  have hopened : Reading.addLines {} 1 before = .ok opened := rfl
  have hbegins : ∀ level ∈ strayLevels, opened.continuedBy? (strayLine level) = none ∧
      ((strayLine level).takeWhile Text.isBlank).length = 0 ∧
      splitOption (Text.trimBlanks (strayLine level)) = (levelKey, some level.toList) := by
    decide +kernel
  have hline {level : String} (h : level ∈ strayLevels) :
      opened.LevelLine 0 (strayLine level) :=
    ⟨rfl, (hbegins level h).1, (hbegins level h).2.1, _, (hbegins level h).2.2⟩
  refine ⟨before, strayLine level, strayLine level', after, hlines level h, hlines level' h', ?_⟩
  intro reading hreading
  obtain rfl := Except.ok.inj (hopened.symm.trans hreading)
  exact ⟨0, hline h, hline h'⟩

theorem levelVariants_stray {level level' : String} (h : level ∈ strayLevels)
    (h' : level' ∈ strayLevels) : LevelVariants (strayFile level) (strayFile level') where
  texts := ⟨_, _, decode_stray h, decode_stray h', differInLevel_stray h h'⟩
  named := by
    intro document hread
    obtain rfl := Except.ok.inj ((read_stray h).symm.trans hread)
    exact namesLevel_stray h
  named' := by
    intro document hread
    obtain rfl := Except.ok.inj ((read_stray h').symm.trans hread)
    exact namesLevel_stray h'

theorem load_stray [Encoding.Registry] {level : String} (h : level ∈ strayLevels) (path : String)
    (logger : Logger) :
    let run := load path (some (strayFile level)) logger
    run.logger = (logger.setLevel level).1 ∧
      run.result =
        ((checkOptions (strayDocument level)).andThen
          (listDocument (logger.setLevel level).1)).2 := by
  intro run
  have hrun : run = check (strayDocument level) logger := load_read (read_stray h) path logger
  rw [hrun]
  exact check_named rfl (isLevelName_stray h) logger

/-- Where neither run lists the document, the stray percent sign goes unnoticed. -/
theorem load_apart_unlisted :
    LevelVariants (strayFile "info") (strayFile "None") ∧
      (load "hpglparser.conf" (some (strayFile "info")) {}).Agrees
        (load "hpglparser.conf" (some (strayFile "None")) {}) := by
  have hinfo : "info" ∈ strayLevels := by decide
  have hnone : "None" ∈ strayLevels := by decide
  have hvariants := levelVariants_stray hinfo hnone
  have hlevels : ∀ level ∈ ["info", "None"],
      ¬ (Logger.setLevel {} level).1.level ≤ Log.Severity.debug.level := by
    decide +kernel
  refine ⟨hvariants, ?_⟩
  rcases load_apart hvariants "hpglparser.conf" {} with hagrees | hstumbles | hstumbles
  · exact hagrees
  · have hlisted := hstumbles.listed
    rw [(load_stray hinfo "hpglparser.conf" {}).1] at hlisted
    exact absurd hlisted (hlevels "info" (by decide))
  · have hlisted := hstumbles.listed
    rw [(load_stray hnone "hpglparser.conf" {}).1] at hlisted
    exact absurd hlisted (hlevels "None" (by decide))

/-- The listing of the settings gets to the stray percent sign and no further. -/
theorem listSections_stray {main : Table} (hplain : main.Plain) :
    (listSections [("misc", main), ("x", [("a", some "%")])]).2 =
      some (.interpolation ⟨"x", "a", "%", .strayPercent "%"⟩) := by
  have hstray : resolve "x" [("a", some "%")] "a" (some "%") =
      .error ⟨"x", "a", "%", .strayPercent "%"⟩ := by
    simp [resolve, expand]
  have hmain := listOptions_plain "misc" main hplain
  rw [listSections]
  cases hlisted : listOptions "misc" main main with
  | mk records stopped =>
      rw [hlisted] at hmain
      obtain rfl : stopped = none := hmain
      simp only [listSections, listOptions, hstray]

/-- The level decides whether the settings are refused: only the listing meets the percent sign. -/
theorem load_stray_percent :
    let run := load "hpglparser.conf" (some (strayFile "debug")) {}
    let other := load "hpglparser.conf" (some (strayFile "info")) {}
    let completed := ((strayDocument "info").set "misc" "buffer_size" "1024").set "misc" "encoding"
      "latin-1"
    LevelVariants (strayFile "debug") (strayFile "info") ∧
      run.result = .error (.interpolation ⟨"x", "a", "%", .strayPercent "%"⟩) ∧
      other.result = .ok completed ∧ ¬ run.Agrees other := by
  intro run other completed
  have hdebug : "debug" ∈ strayLevels := by decide
  have hinfo : "info" ∈ strayLevels := by decide
  have hset : (Logger.setLevel {} "debug").1 = { level := 10, fileLevel := 10, disabled := 0 } := by
    decide +kernel
  have hset' : (Logger.setLevel {} "info").1 = { level := 20, fileLevel := 20, disabled := 0 } := by
    decide +kernel
  let main : Table :=
    [("loglevel", some "debug"), ("buffer_size", some "1024"), ("encoding", some "latin-1")]
  let listed : Document := { sections := [("misc", main), ("x", [("a", some "%")])] }
  have hplain : main.Plain := by decide
  have hchecked : (checkOptions (strayDocument "debug")).2 = .ok listed := rfl
  have hstops : (listSections listed.views).2 =
    some (.interpolation ⟨"x", "a", "%", .strayPercent "%"⟩) := listSections_stray hplain
  have hlisting : (listDocument (Logger.setLevel {} "debug").1 listed).2 =
      .error (.interpolation ⟨"x", "a", "%", .strayPercent "%"⟩) := by
    rw [listDocument_result, hset, if_neg (by decide), hstops]
    rfl
  have hrun : run.result = .error (.interpolation ⟨"x", "a", "%", .strayPercent "%"⟩) := by
    rw [(load_stray hdebug "hpglparser.conf" {}).2, Checked.andThen_result, hchecked]
    exact hlisting
  have hother : other.result = .ok completed := by
    rw [(load_stray hinfo "hpglparser.conf" {}).2, hset']
    rfl
  refine ⟨levelVariants_stray hdebug hinfo, hrun, hother, fun hagrees => ?_⟩
  cases hagrees with
  | failed _ hfault => cases hother.symm.trans hfault
  | passed hdone _ _ _ => cases hdone.symm.trans hrun

end PlotStream.Settings
