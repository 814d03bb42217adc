import PlotStream.Proofs.LevelApart
import PlotStream.Proofs.Results

/-!
Checking settings that differ in the log level. Every check of another option comes to the same. The
one step that looks at all options is the listing for a logger that keeps debug records: it fails at
the first option whose references cannot be resolved, whichever section that is in.
-/

namespace PlotStream.Settings

/-- What a check comes to, without the log level of the document. -/
def Checked.blank (checked : Checked) : Checked :=
  (checked.1, checked.2.map Document.blank)

section Checking

variable {document after : Document}

theorem checkBufferSize_blank (h : document.LevelApart) :
    checkBufferSize document.blank = (checkBufferSize document).blank := by
  have hkey : bufferSizeKey ≠ levelKey := by decide
  rw [checkBufferSize, checkBufferSize, given?_blank h hkey]
  cases given? document bufferSizeKey with
  | error fault => rfl
  | ok size =>
      cases size with
      | none => exact congrArg (fun d => (([], .ok d) : Checked)) (Document.blank_set hkey).symm
      | some size =>
          dsimp only
          split
          · rfl
          cases Text.integer size with
          | error fault => rfl
          | ok n =>
              dsimp only
              split
              · rfl
              · rfl

theorem checkEncoding_blank [Encoding.Registry] (h : document.LevelApart) :
    checkEncoding document.blank = (checkEncoding document).blank := by
  have hkey : encodingKey ≠ levelKey := by decide
  rw [checkEncoding, checkEncoding, given?_blank h hkey]
  cases given? document encodingKey with
  | error fault => rfl
  | ok name =>
      cases name with
      | none => exact congrArg (fun d => (([], .ok d) : Checked)) (Document.blank_set hkey).symm
      | some name =>
          dsimp only
          cases Encoding.named name with
          | ok encoding => rfl
          | error fault =>
              cases fault with
              | unknown name => rfl
              | nullCharacter => rfl

/-- A check that is passed leaves the document as it is or completes it. -/
theorem checkBufferSize_completes (hok : (checkBufferSize document).2 = .ok after) :
    after = document ∨
      after = document.set mainSection bufferSizeKey (toString Options.defaultBufferSize) := by
  unfold checkBufferSize at hok
  split at hok
  · cases hok
  · exact Or.inr (Except.ok.inj hok).symm
  dsimp only at hok
  split at hok
  · cases hok
  split at hok
  · cases hok
  split at hok
  · cases hok
  · exact Or.inl (Except.ok.inj hok).symm

theorem checkEncoding_completes [Encoding.Registry] (hok : (checkEncoding document).2 = .ok after) :
    after = document ∨ after = document.set mainSection encodingKey defaultEncoding := by
  unfold checkEncoding at hok
  split at hok
  · cases hok
  · exact Or.inr (Except.ok.inj hok).symm
  split at hok
  · exact Or.inl (Except.ok.inj hok).symm
  · cases hok
  · cases hok

theorem Document.LevelApart.completed (h : document.LevelApart) {key value : String}
    (hafter : after = document ∨ after = document.set mainSection key value)
    (hkey : key ≠ levelKey) (hvalue : '%' ∉ value.toList) : after.LevelApart := by
  rcases hafter with rfl | rfl
  · exact h
  · exact h.set hkey hvalue

theorem checkBufferSize_apart (h : document.LevelApart)
    (hok : (checkBufferSize document).2 = .ok after) : after.LevelApart :=
  h.completed (checkBufferSize_completes hok) (by decide) (by decide)

theorem checkEncoding_apart [Encoding.Registry] (h : document.LevelApart)
    (hok : (checkEncoding document).2 = .ok after) : after.LevelApart :=
  h.completed (checkEncoding_completes hok) (by decide) (by decide)

/-- The checks of the options for parsing, one after the other. -/
def checkOptions [Encoding.Registry] (document : Document) : Checked :=
  (checkBufferSize document).andThen checkEncoding

theorem Checked.andThen_ok {checked : Checked} {next : Document → Checked}
    (h : (checked.andThen next).2 = .ok after) :
    ∃ middle, checked.2 = .ok middle ∧ (next middle).2 = .ok after := by
  obtain ⟨records, result⟩ := checked
  cases result with
  | error fault => cases h
  | ok middle => exact ⟨middle, rfl, h⟩

theorem checkOptions_blank [Encoding.Registry] (h : document.LevelApart) :
    checkOptions document.blank = (checkOptions document).blank := by
  rw [checkOptions, checkOptions, checkBufferSize_blank h]
  cases hsize : checkBufferSize document with
  | mk records result =>
      cases result with
      | error fault => rfl
      | ok middle =>
          have hmiddle := checkBufferSize_apart h (congrArg Prod.snd hsize)
          simp only [Checked.blank, Except.map, Checked.andThen, checkEncoding_blank hmiddle]

theorem checkOptions_apart [Encoding.Registry] (h : document.LevelApart)
    (hok : (checkOptions document).2 = .ok after) : after.LevelApart := by
  obtain ⟨middle, hsize, hencoding⟩ := Checked.andThen_ok hok
  exact checkEncoding_apart (checkBufferSize_apart h hsize) hencoding

end Checking

section Listing

variable {name : String} {table defaults : Table}

/-- The listing of options is stopped by the same fault without the log level. -/
theorem listOptions_blank (havoids : table.blank.Avoids levelKey) {entries : Table}
    (hentries : entries.blank.Avoids levelKey)
    (hplain : ∀ value, (levelKey, some value) ∈ entries → '%' ∉ value.toList) :
    (listOptions name table.blank entries.blank).2 = (listOptions name table entries).2 := by
  induction entries with
  | nil => rfl
  | cons entry rest ih =>
      obtain ⟨key, raw⟩ := entry
      have hmore := ih (fun k v hmem => hentries k v (List.mem_cons_of_mem _ hmem))
        fun v hmem => hplain v (List.mem_cons_of_mem _ hmem)
      have hblank : Table.blank ((key, raw) :: rest) =
        (key, blankValue key raw) :: Table.blank rest := rfl
      rw [hblank, listOptions, listOptions]
      by_cases hkey : key = levelKey
      · -- The log level is resolved in both, so the listing goes on.
        subst hkey
        cases raw with
        | none => exact hmore
        | some value =>
            rw [resolve_plain name table levelKey (hplain value List.mem_cons_self),
              blankValue, if_pos rfl, Option.map_some,
              resolve_plain name table.blank levelKey (by decide : '%' ∉ "".toList)]
            exact hmore
      · have hvalue : ∀ text, raw = some text → levelKey ∉ references text.toList := by
          rintro text rfl
          refine hentries key text ?_
          rw [hblank, blankValue_of_ne hkey]
          exact List.mem_cons_self
        rw [blankValue_of_ne hkey, ← resolve_blank havoids name key hvalue]
        cases resolve name table key raw with
        | error fault => rfl
        | ok value => exact hmore

/-- The same for a section with the defaults. -/
theorem listTable_blank (hplain : name = mainSection → table.PlainLevel)
    (havoids : (Document.blankTable name table).Avoids levelKey)
    (hdefaults : defaults.Avoids levelKey) :
    let blanked := (Document.blankTable name table).withDefaults defaults
    let view := table.withDefaults defaults
    (listOptions name blanked blanked).2 = (listOptions name view view).2 := by
  intro blanked view
  by_cases hname : name = mainSection
  · have hlevel := hplain hname
    have hview : blanked = view.blank := by
      rw [Table.blank_withDefaults hlevel.own]
      simp only [blanked, Document.blankTable, if_pos hname]
    have hboth : view.blank.Avoids levelKey := by
      rw [← hview]
      exact havoids.withDefaults hdefaults
    rw [hview]
    refine listOptions_blank hboth hboth fun value hmem => ?_
    rcases List.mem_append.mp hmem with hown | hdefault
    · exact hlevel.plain value hown
    · have hnone := (List.mem_filter.mp hdefault).2
      rw [Option.isNone_iff_eq_none] at hnone
      have hown := hlevel.own
      rw [hnone] at hown
      cases hown
  · simp only [blanked, view, Document.blankTable, if_neg hname]

theorem listSections_blank {sections : List (String × Table)}
    (hplain : ∀ table, (mainSection, table) ∈ sections → table.PlainLevel)
    (havoids : ∀ name table, (name, table) ∈ sections →
      (Document.blankTable name table).Avoids levelKey)
    (hdefaults : defaults.Avoids levelKey) :
    (listSections (sections.map fun entry =>
        (entry.1, (Document.blankTable entry.1 entry.2).withDefaults defaults))).2 =
      (listSections (sections.map fun entry => (entry.1, entry.2.withDefaults defaults))).2 := by
  induction sections with
  | nil => rfl
  | cons entry rest ih =>
      obtain ⟨name, table⟩ := entry
      have hmore := ih (fun t hmem => hplain t (List.mem_cons_of_mem _ hmem))
        fun n t hmem => havoids n t (List.mem_cons_of_mem _ hmem)
      have hmain : name = mainSection → table.PlainLevel := by
        rintro rfl
        exact hplain table List.mem_cons_self
      have htable := listTable_blank hmain (havoids name table List.mem_cons_self) hdefaults
      dsimp only at htable
      simp only [List.map_cons, listSections]
      revert htable
      generalize listOptions name ((Document.blankTable name table).withDefaults defaults)
        ((Document.blankTable name table).withDefaults defaults) = blanked
      generalize listOptions name (table.withDefaults defaults) (table.withDefaults defaults) =
        listed
      intro htable
      obtain ⟨records, fault⟩ := blanked
      obtain ⟨records', fault'⟩ := listed
      obtain rfl : fault = fault' := htable
      cases fault with
      | none => exact hmore
      | some fault => rfl

theorem listViews_blank {document : Document} (h : document.LevelApart) :
    (listSections document.blank.views).2 = (listSections document.views).2 := by
  have havoids : ∀ name table, (name, table) ∈ document.sections →
      (Document.blankTable name table).Avoids levelKey := fun name table hmem =>
    h.avoids.sections name _ (List.mem_map.mpr ⟨(name, table), hmem, rfl⟩)
  have hlist := listSections_blank h.plain havoids h.avoids.defaults
  rw [Document.views, Document.views, Document.blank, List.map_map]
  exact hlist

end Listing

/-- The runs come to the same: to one fault, or to documents that differ at most in the log level
and ask for the same parsing. -/
inductive Outcome.Agrees (run other : Outcome) : Prop where
  | failed {fault : Fault} (hrun : run.result = .error fault)
      (hother : other.result = .error fault) : Agrees run other
  | passed {document document' : Document} (hrun : run.result = .ok document)
      (hother : other.result = .ok document') (hblank : document.blank = document'.blank)
      (hoptions : options document = options document') : Agrees run other

/-- The run lists a document that the other one leaves with success, and is stopped by an option
whose references cannot be resolved. -/
structure Outcome.Stumbles (run other : Outcome) : Prop where
  listed : run.logger.level ≤ Log.Severity.debug.level
  unlisted : Log.Severity.debug.level < other.logger.level
  stopped : ∃ document fault, other.result = .ok document ∧
    (listSections document.views).2 = some (.interpolation fault) ∧
    run.result = .error (.interpolation fault)

theorem listOptions_interpolation {name : String} {table entries : Table} {fault : Fault}
    (h : (listOptions name table entries).2 = some fault) :
    ∃ cause, fault = .interpolation cause := by
  induction entries with
  | nil => cases h
  | cons entry rest ih =>
      obtain ⟨key, raw⟩ := entry
      rw [listOptions] at h
      cases hvalue : resolve name table key raw with
      | error cause =>
          rw [hvalue] at h
          exact ⟨cause, (Option.some.inj h).symm⟩
      | ok value =>
          rw [hvalue] at h
          exact ih h

/-- Only references stop a listing. -/
theorem listSections_interpolation {sections : List (String × Table)} {fault : Fault}
    (h : (listSections sections).2 = some fault) : ∃ cause, fault = .interpolation cause := by
  induction sections with
  | nil => cases h
  | cons entry rest ih =>
      obtain ⟨name, table⟩ := entry
      rw [listSections] at h
      cases hlisted : listOptions name table table with
      | mk records stopped =>
          rw [hlisted] at h
          cases stopped with
          | none => exact ih h
          | some first =>
              obtain rfl := Option.some.inj h
              exact listOptions_interpolation (congrArg Prod.snd hlisted)

/-- The log level that the main section asks for. -/
def Document.level? (document : Document) : Option String :=
  (document.sections.lookup mainSection).bind fun table => (table.lookup levelKey).join

end PlotStream.Settings

namespace PlotStream.Logger

/-- The name of a level in any case, or the name that silences the logger. -/
def IsLevelName (name : String) : Prop :=
  let wanted := String.ofList (Text.upper name.toList)
  wanted = "NONE" ∨ (levelOf? wanted).isSome

theorem IsLevelName.setLevel {name : String} (h : IsLevelName name) (logger : Logger) :
    (logger.setLevel name).2 = none := by
  rw [Logger.setLevel]
  split
  · rfl
  next hnone =>
    rcases h with hsilent | hlevel
    · exact absurd hsilent hnone
    · obtain ⟨level, hfound⟩ := Option.isSome_iff_exists.mp hlevel
      rw [hfound]

/-- The names of the levels. -/
theorem mem_of_levelOf? {wanted : String} {level : Nat} (h : levelOf? wanted = some level) :
    wanted ∈ ["CRITICAL", "FATAL", "ERROR", "WARNING", "WARN", "INFO", "DEBUG", "NOTSET"] := by
  unfold levelOf? at h
  split at h <;> first | decide | cases h

theorem percent_mem_upper {cs : List Char} (h : '%' ∈ cs) : '%' ∈ Text.upper cs := by
  have hself : Text.upperChar '%' = ['%'] := by decide
  refine List.mem_flatMap.mpr ⟨'%', h, ?_⟩
  rw [hself]
  exact List.mem_singleton_self _

/-- In capitals, no name of a level has a percent sign, and none is empty. -/
theorem IsLevelName.capitals {name : String} (h : IsLevelName name) :
    '%' ∉ Text.upper name.toList ∧ Text.upper name.toList ≠ [] := by
  have hnames : ∀ text ∈ ["NONE", "CRITICAL", "FATAL", "ERROR", "WARNING", "WARN", "INFO",
      "DEBUG", "NOTSET"], '%' ∉ text.toList ∧ text.toList ≠ [] := by decide
  have hmem : String.ofList (Text.upper name.toList) ∈ ["NONE", "CRITICAL", "FATAL", "ERROR",
      "WARNING", "WARN", "INFO", "DEBUG", "NOTSET"] := by
    rcases h with hsilent | hlevel
    · exact List.mem_cons.mpr (Or.inl hsilent)
    · obtain ⟨level, hfound⟩ := Option.isSome_iff_exists.mp hlevel
      exact List.mem_cons_of_mem _ (mem_of_levelOf? hfound)
  have hcapitals := hnames _ hmem
  rwa [String.toList_ofList] at hcapitals

/-- No name of a level refers to anything. -/
theorem IsLevelName.plain {name : String} (h : IsLevelName name) : '%' ∉ name.toList :=
  fun hmem => h.capitals.1 (percent_mem_upper hmem)

theorem IsLevelName.ne_empty {name : String} (h : IsLevelName name) : name ≠ "" := by
  rintro rfl
  exact h.capitals.2 rfl

end PlotStream.Logger

namespace PlotStream.Settings

section LevelChoice

variable {document document' after after' : Document} {level level' : String}

/-- A level that is a recognised name is chosen as it is. -/
theorem chooseLevel_named (hlevel : document.level? = some level)
    (hname : Logger.IsLevelName level) : chooseLevel document = .ok (document, level) := by
  obtain ⟨table, hfound, htable⟩ := Option.bind_eq_some_iff.mp hlevel
  have hown : table.lookup levelKey = some (some level) := Option.join_eq_some_iff.mp htable
  have hview : (table.withDefaults document.defaults).lookup levelKey = some (some level) := by
    rw [Table.withDefaults, List.lookup_append, hown]
    rfl
  have hvalue : mainValue document levelKey = .ok (some level) := by
    rw [mainValue, Document.view?, hfound, Option.map_some]
    dsimp only
    rw [value, hview, Option.getD_some, resolve_plain mainSection _ levelKey hname.plain]
    rfl
  have hgiven : given? document levelKey = .ok (some level) := by
    rw [given?, hvalue]
    simp only [Except.map, ne_eq, decide_not, Option.filter_some, hname.ne_empty,
      not_false_eq_true, Bool.not_eq_true', decide_eq_false_iff_not, if_true]
  rw [chooseLevel, hgiven]
  rfl

/-- With a recognised level, the other options are checked and the document is listed by the
logger at that level. -/
theorem check_named [Encoding.Registry] (hlevel : document.level? = some level)
    (hname : Logger.IsLevelName level) (logger : Logger) :
    (check document logger).logger = (logger.setLevel level).1 ∧
      (check document logger).result =
        ((checkOptions document).andThen (listDocument (logger.setLevel level).1)).2 := by
  have hset := hname.setLevel logger
  rw [check, chooseLevel_named hlevel hname]
  dsimp only
  revert hset
  cases logger.setLevel level with
  | mk set fault =>
      rintro rfl
      exact ⟨rfl, rfl⟩

/-- A listing fails where the references of an option cannot be resolved. -/
theorem listDocument_result (logger : Logger) (document : Document) :
    (listDocument logger document).2 =
      if Log.Severity.debug.level < logger.level then .ok document
      else (listSections document.views).2.elim (.ok document) .error := by
  rw [listDocument]
  split
  · rfl
  · cases listSections document.views with
    | mk records fault => cases fault <;> rfl

theorem Checked.andThen_result {checked : Checked} (next : Document → Checked) :
    (checked.andThen next).2 = checked.2.bind fun document => (next document).2 := by
  obtain ⟨records, result⟩ := checked
  cases result <;> rfl

/-- Two listings of documents that differ in the log level. -/
theorem listing_apart (h : after.LevelApart) (h' : after'.LevelApart)
    (hblank : after.blank = after'.blank) {run other : Outcome}
    (hrun : run.result = (listDocument run.logger after).2)
    (hother : other.result = (listDocument other.logger after').2) :
    run.Agrees other ∨ run.Stumbles other ∨ other.Stumbles run := by
  have hoptions : options after = options after' := by
    rw [← options_blank h, hblank, options_blank h']
  have hlist : (listSections after.views).2 = (listSections after'.views).2 := by
    rw [← listViews_blank h, hblank, listViews_blank h']
  rw [listDocument_result] at hrun hother
  cases hstop : (listSections after.views).2 with
  | none =>
      rw [← hlist, hstop, Option.elim_none, ite_self] at hother
      rw [hstop, Option.elim_none, ite_self] at hrun
      exact Or.inl (.passed hrun hother hblank hoptions)
  | some fault =>
      obtain ⟨cause, rfl⟩ := listSections_interpolation hstop
      rw [← hlist, hstop, Option.elim_some] at hother
      rw [hstop, Option.elim_some] at hrun
      by_cases hlevel : Log.Severity.debug.level < run.logger.level
      · rw [if_pos hlevel] at hrun
        by_cases hlevel' : Log.Severity.debug.level < other.logger.level
        · rw [if_pos hlevel'] at hother
          exact Or.inl (.passed hrun hother hblank hoptions)
        · rw [if_neg hlevel'] at hother
          exact Or.inr (Or.inr
            ⟨Nat.le_of_not_lt hlevel', hlevel, after, cause, hrun, hstop, hother⟩)
      · rw [if_neg hlevel] at hrun
        by_cases hlevel' : Log.Severity.debug.level < other.logger.level
        · rw [if_pos hlevel'] at hother
          exact Or.inr (Or.inl
            ⟨Nat.le_of_not_lt hlevel, hlevel', after', cause, hother, hlist ▸ hstop, hrun⟩)
        · rw [if_neg hlevel'] at hother
          exact Or.inl (.failed hrun hother)

/-- Documents that differ in the log level only are checked alike, unless just one of the runs lists
the document and stumbles there. -/
theorem check_apart [Encoding.Registry] (h : document.LevelApart) (h' : document'.LevelApart)
    (hblank : document.blank = document'.blank) (hlevel : document.level? = some level)
    (hlevel' : document'.level? = some level') (hname : Logger.IsLevelName level)
    (hname' : Logger.IsLevelName level') (logger : Logger) :
    (check document logger).Agrees (check document' logger) ∨
      (check document logger).Stumbles (check document' logger) ∨
      (check document' logger).Stumbles (check document logger) := by
  obtain ⟨hlogger, hrun⟩ := check_named hlevel hname logger
  obtain ⟨hlogger', hother⟩ := check_named hlevel' hname' logger
  rw [← hlogger, Checked.andThen_result] at hrun
  rw [← hlogger', Checked.andThen_result] at hother
  have hsame : (checkOptions document).blank = (checkOptions document').blank := by
    rw [← checkOptions_blank h, hblank, checkOptions_blank h']
  have hresults : (checkOptions document).2.map Document.blank =
      (checkOptions document').2.map Document.blank := congrArg Prod.snd hsame
  rcases alike_of_map_eq hresults with
    ⟨fault, hchecked, hchecked'⟩ | ⟨after, after', hchecked, hchecked', hafter⟩
  · rw [hchecked] at hrun
    rw [hchecked'] at hother
    exact Or.inl (.failed hrun hother)
  · rw [hchecked] at hrun
    rw [hchecked'] at hother
    exact listing_apart (checkOptions_apart h hchecked) (checkOptions_apart h' hchecked') hafter
      hrun hother

end LevelChoice

end PlotStream.Settings
