import PlotStream.Proofs.Codecs
import PlotStream.Proofs.Delivery
import PlotStream.Proofs.LevelApart
import PlotStream.Proofs.Results

/-!
Reading settings that differ in the log level. A reading can forget what it has read of the level,
and every line does to it what it does to the whole reading. So two lines that give the level in the
same place lead to readings that go on alike, and to documents that are the same with the level
blanked out.
-/

namespace PlotStream.Settings

open Reading

/-- What has been read of an option, forgotten if the option is the log level. -/
def forgetDraft (key : String) (draft : Draft) : Draft :=
  if key = levelKey then draft.map fun _ => [] else draft

/-- What has been read of a section, without the log level if the section is the main one. -/
def forgetTable (name : String) (table : List (String × Draft)) : List (String × Draft) :=
  if name = mainSection then table.map fun entry => (entry.1, forgetDraft entry.1 entry.2)
  else table

/-- The reading without what has been read of the log level. -/
def Reading.forget (reading : Reading) : Reading :=
  { reading with
    sections := reading.sections.map fun entry => (entry.1, forgetTable entry.1 entry.2) }

section Forgetting

variable {reading reading' : Reading} {name key : String} {table : List (String × Draft)}

theorem forgetTable_append (name : String) (table more : List (String × Draft)) :
    forgetTable name (table ++ more) = forgetTable name table ++ forgetTable name more := by
  unfold forgetTable
  split
  · exact List.map_append
  · rfl

theorem forgetDraft_append (key : String) (draft : Draft) (line : List Char) :
    forgetDraft key ((forgetDraft key draft).map (· ++ [line])) =
      forgetDraft key (draft.map (· ++ [line])) := by
  unfold forgetDraft
  split
  · cases draft <;> rfl
  · rfl

theorem forgetDraft_forgetDraft (key : String) (draft : Draft) :
    forgetDraft key (forgetDraft key draft) = forgetDraft key draft := by
  unfold forgetDraft
  split
  · cases draft <;> rfl
  · rfl

theorem forgetTable_forgetTable (name : String) (table : List (String × Draft)) :
    forgetTable name (forgetTable name table) = forgetTable name table := by
  unfold forgetTable
  split
  · rw [List.map_map]
    refine List.map_congr_left fun entry _ => ?_
    simp only [Function.comp_apply, forgetDraft_forgetDraft]
  · rfl

theorem lookup_forgetTable (name : String) (table : List (String × Draft)) (key : String) :
    ((forgetTable name table).lookup key).map Option.isSome =
      (table.lookup key).map Option.isSome := by
  unfold forgetTable
  split
  · rw [lookup_map_values, Option.map_map]
    refine congrArg (fun f => (table.lookup key).map f) (funext fun draft => ?_)
    unfold forgetDraft
    rw [Function.comp_apply]
    split
    · exact Option.isSome_map
    · rfl
  · rfl

theorem isSome_lookup_forgetTable (name : String) (table : List (String × Draft)) (key : String) :
    ((forgetTable name table).lookup key).isSome = (table.lookup key).isSome := by
  have hfound := congrArg Option.isSome (lookup_forgetTable name table key)
  rwa [Option.isSome_map, Option.isSome_map] at hfound

namespace Reading

theorem forget_forget (reading : Reading) : reading.forget.forget = reading.forget := by
  simp only [forget, List.map_map, Function.comp_def, forgetTable_forgetTable]

theorem lookup_forget (reading : Reading) (name : String) :
    reading.forget.sections.lookup name = (reading.sections.lookup name).map (forgetTable name) :=
  lookup_map_values forgetTable reading.sections name

theorem openTable_forget (hcurrent : reading.current = some name) :
    reading.forget.openTable = forgetTable name reading.openTable := by
  have hcurrent' : reading.forget.current = some name := hcurrent
  rw [openTable, openTable, hcurrent', hcurrent, Option.bind_some, Option.bind_some, lookup_forget]
  cases reading.sections.lookup name with
  | none =>
      unfold forgetTable
      split <;> rfl
  | some table => rfl

/-- A change of the open table that the forgotten parts do not matter to. -/
theorem forget_updateOpen (reading : Reading) {f : List (String × Draft) → List (String × Draft)}
    (hf : ∀ name table,
      forgetTable name (f (forgetTable name table)) = forgetTable name (f table)) :
    (reading.forget.updateOpen f).forget = (reading.updateOpen f).forget := by
  have hcurrent : reading.forget.current = reading.current := rfl
  rw [updateOpen_eq, updateOpen_eq, hcurrent]
  simp only [forget, List.map_map, Reading.mk.injEq, and_true]
  refine List.map_congr_left fun entry _ => ?_
  obtain ⟨name, table⟩ := entry
  by_cases hopen : some name = reading.current
  · simp only [Function.comp_apply, if_pos hopen, hf]
  · simp only [Function.comp_apply, if_neg hopen, forgetTable_forgetTable]

theorem forget_appendLine (reading : Reading) (key : String) (line : List Char) :
    (reading.forget.appendLine key line).forget = (reading.appendLine key line).forget := by
  refine reading.forget_updateOpen fun name table => ?_
  unfold forgetTable
  split
  · rw [List.map_map, List.map_map, List.map_map]
    refine List.map_congr_left fun entry _ => ?_
    obtain ⟨k, draft⟩ := entry
    by_cases hkey : k = key
    · simp only [Function.comp_apply, if_pos hkey, forgetDraft_append]
    · simp only [Function.comp_apply, if_neg hkey, forgetDraft_forgetDraft]
  · rfl

theorem forget_append (reading : Reading) (key : String) (draft : Draft) :
    (reading.forget.updateOpen (· ++ [(key, draft)])).forget =
      (reading.updateOpen (· ++ [(key, draft)])).forget :=
  reading.forget_updateOpen fun name table => by
    rw [forgetTable_append, forgetTable_append, forgetTable_forgetTable]

theorem continuedKey?_forget (reading : Reading) :
    reading.forget.continuedKey? = reading.continuedKey? := by
  have hoption : reading.forget.option = reading.option := rfl
  have hopen (key : String) : (reading.forget.openTable.lookup key).map Option.isSome =
      (reading.openTable.lookup key).map Option.isSome := by
    cases hcurrent : reading.current with
    | none =>
        have hcurrent' : reading.forget.current = none := hcurrent
        rw [openTable, openTable, hcurrent, hcurrent']
        rfl
    | some name => rw [reading.openTable_forget hcurrent, lookup_forgetTable]
  rw [continuedKey?, continuedKey?, continued?, continued?, hoption]
  cases reading.option with
  | none => rfl
  | some key =>
      dsimp only
      split
      · rfl
      · rw [Option.map_map, Option.map_map]
        have hkey := congrArg (Option.map (Prod.mk key)) (hopen key)
        rwa [Option.map_map, Option.map_map] at hkey

theorem forget_openSection (reading : Reading) (number : Nat) (name : String) :
    (reading.forget.openSection number name).map forget =
      (reading.openSection number name).map forget := by
  have hnone : (reading.forget.sections.lookup name).isNone =
      (reading.sections.lookup name).isNone := by
    rw [lookup_forget, Option.isNone_map]
  rw [openSection, openSection, hnone]
  split
  · refine congrArg Except.ok ?_
    simp only [forget, List.map_append, List.map_map, Function.comp_def, forgetTable_forgetTable]
  split
  · refine congrArg Except.ok ?_
    simp only [forget, List.map_map, Function.comp_def, forgetTable_forgetTable]
  · rfl

theorem forget_addOption (reading : Reading) (number : Nat) (raw text : List Char) :
    (reading.forget.addOption number raw text).map forget =
      (reading.addOption number raw text).map forget := by
  have hcurrent : reading.forget.current = reading.current := rfl
  rw [addOption, addOption, hcurrent]
  cases hopen : reading.current with
  | none => rfl
  | some name =>
      obtain ⟨key, value⟩ := splitOption text
      dsimp only
      rw [reading.openTable_forget hopen, isSome_lookup_forgetTable]
      split
      · rfl
      · let opened (added : Reading) : Reading :=
          { added with
            option := some key
            nameless :=
              if key = "" then reading.nameless ++ [(number, raw)] else reading.nameless }
        exact congrArg (fun added => Except.ok (opened added))
          (reading.forget_append key (value.map ([·])))

theorem forget_begin (reading : Reading) (number : Nat) (raw : List Char) :
    (reading.forget.begin number raw).map forget = (reading.begin number raw).map forget := by
  let indented : Reading := { reading with indent := (raw.takeWhile Text.isBlank).length }
  rw [begin, begin]
  cases headerName? (Text.trimBlanks raw) with
  | none => exact indented.forget_addOption number raw (Text.trimBlanks raw)
  | some name => exact indented.forget_openSection number name

/-- A line does to what is left of a reading what it does to the whole. -/
theorem forget_addLine (reading : Reading) (number : Nat) (raw : List Char) :
    (reading.forget.addLine number raw).map forget = (reading.addLine number raw).map forget := by
  have hkey := reading.continuedKey?_forget
  have hcontinued : reading.forget.continuedBy? raw = reading.continuedBy? raw := by
    rw [continuedBy?, continuedBy?, hkey]
    rfl
  rw [addLine_eq, addLine_eq, hkey, hcontinued]
  cases Text.trimBlanks raw with
  | nil =>
      cases reading.continuedKey? with
      | none => exact congrArg Except.ok reading.forget_forget
      | some entry => exact congrArg Except.ok (reading.forget_appendLine entry.1 [])
  | cons c rest =>
      dsimp only
      split
      · exact congrArg Except.ok reading.forget_forget
      cases reading.continuedBy? raw with
      | none => exact reading.forget_begin number raw
      | some entry =>
          obtain ⟨key, hasValue⟩ := entry
          cases hasValue with
          | false => rfl
          | true => exact congrArg Except.ok (reading.forget_appendLine key (c :: rest))

/-- Readings that are the same once the level is forgotten stay so. -/
theorem forget_addLines {reading reading' : Reading} (h : reading.forget = reading'.forget)
    (number : Nat) (lines : List (List Char)) :
    (reading.addLines number lines).map forget = (reading'.addLines number lines).map forget := by
  induction lines generalizing reading reading' number with
  | nil => exact congrArg Except.ok h
  | cons raw rest ih =>
      have hline : (reading.addLine number raw).map forget =
          (reading'.addLine number raw).map forget := by
        rw [← forget_addLine, h, forget_addLine]
      rw [addLines, addLines]
      rcases alike_of_map_eq hline with
        ⟨fault, hnext, hnext'⟩ | ⟨next, next', hnext, hnext', hforget⟩
      · rw [hnext, hnext']
      · rw [hnext, hnext']
        exact ih hforget (number + 1)

theorem finishTable_forget (name : String) (table : List (String × Draft)) :
    finishTable (forgetTable name table) = Document.blankTable name (finishTable table) := by
  have hempty : String.ofList (Text.dropBlanksRight (Text.join ['\n'] [])) = "" := by decide
  unfold forgetTable Document.blankTable
  split
  · rw [finishTable, finishTable, Table.blank, List.map_map, List.map_map]
    refine List.map_congr_left fun entry _ => ?_
    obtain ⟨key, draft⟩ := entry
    unfold forgetDraft blankValue
    by_cases hkey : key = levelKey
    · simp only [Function.comp_apply, if_pos hkey, Option.map_map, Function.comp_def, hempty]
    · simp only [Function.comp_apply, if_neg hkey]
  · rfl

/-- What is left of a reading is the document with the level blanked out. -/
theorem document_forget (reading : Reading) : reading.forget.document = reading.document.blank := by
  have hdefaults : reading.forget.sections.lookup defaultSection =
      reading.sections.lookup defaultSection := by
    have hkept : forgetTable defaultSection = id :=
      funext fun table => if_neg (by decide : defaultSection ≠ mainSection)
    rw [lookup_forget, hkept, Option.map_id_fun, id_eq]
  rw [document, document, Document.blank, hdefaults]
  simp only [forget, List.filter_map, List.map_map, Function.comp_def, finishTable_forget]

end Reading

end Forgetting

/-- A line that gives the log level of the main section a value and continues no other one. -/
structure Reading.LevelLine (reading : Reading) (indent : Nat) (line : List Char) : Prop where
  main : reading.current = some mainSection
  begins : reading.continuedBy? line = none
  indented : (line.takeWhile Text.isBlank).length = indent
  option : ∃ value, splitOption (Text.trimBlanks line) = (levelKey, some value)

section LevelLines

variable {reading : Reading} {indent : Nat} {line line' text text' value value' : List Char}

/-- The characters at which comments and section headers are known have no other small form. -/
theorem lowerChar_mark {c : Char} (h : c ∈ ['#', ';', '[']) (before after : List Char) :
    Text.lowerChar before c after = [c] := by
  have hplain : c ≠ '\u03A3' ∧ c ≠ '\u0130' ∧
      (Text.CaseRun.map? Text.lowerRuns c).getD c = c := by
    simp only [List.mem_cons, List.not_mem_nil, or_false] at h
    rcases h with rfl | rfl | rfl <;> decide
  obtain ⟨hsigma, hdotted, hself⟩ := hplain
  rw [Text.lowerChar, if_neg hsigma, if_neg hdotted, hself]

/-- A line with the name of the log level is neither a comment nor a section header. -/
theorem exists_head_of_levelKey (h : (splitOption text).1 = levelKey) :
    ∃ c rest, text = c :: rest ∧ c ∉ ['#', ';', '['] := by
  let front := text.takeWhile fun c => !decide (c = '=' ∨ c = ':')
  have hfront : front <+: text := List.takeWhile_prefix _
  have hlower : Text.lower (Text.dropBlanksRight front) = levelKey.toList := by
    rw [← h, splitOption, String.toList_ofList]
  have hprefix : Text.dropBlanksRight front <+: text := by
    have hright := (List.dropWhile_suffix Text.isBlank (l := front.reverse)).reverse
    rw [List.reverse_reverse] at hright
    exact hright.trans hfront
  cases hchars : Text.dropBlanksRight front with
  | nil =>
      rw [hchars] at hlower
      exact absurd hlower (by decide)
  | cons c more =>
      rw [hchars] at hlower hprefix
      obtain ⟨rest, rfl⟩ := hprefix
      refine ⟨c, more ++ rest, rfl, fun hmark => ?_⟩
      rw [Text.lower, Text.lowerAfter, lowerChar_mark hmark] at hlower
      obtain rfl : c = 'l' := (List.cons.inj hlower).1
      exact absurd hmark (by decide)

theorem addLine_levelLine (h : reading.LevelLine indent line) (number : Nat) :
    reading.addLine number line =
      { reading with indent }.addOption number line (Text.trimBlanks line) := by
  obtain ⟨value, hoption⟩ := h.option
  obtain ⟨c, rest, htext, hmark⟩ := exists_head_of_levelKey (congrArg Prod.fst hoption)
  simp only [List.mem_cons, List.not_mem_nil, or_false, not_or] at hmark
  obtain ⟨hhash, hsemicolon, hbracket⟩ := hmark
  have hheader : headerName? (c :: rest) = none := by
    unfold headerName?
    split
    next heq => exact absurd (List.cons.inj heq).1 hbracket
    next => rfl
  rw [addLine_eq, htext]
  dsimp only
  rw [if_neg (not_or.mpr ⟨hhash, hsemicolon⟩), h.begins, begin, htext, hheader, h.indented]

theorem forget_updateOpen_level (hmain : reading.current = some mainSection)
    (parts parts' : List (List Char)) :
    (reading.updateOpen (· ++ [(levelKey, some parts)])).forget =
      (reading.updateOpen (· ++ [(levelKey, some parts')])).forget := by
  have hlevel (parts : List (List Char)) :
      forgetTable mainSection [(levelKey, some parts)] = [(levelKey, some [])] := by
    rw [forgetTable, if_pos rfl, List.map_singleton, forgetDraft, if_pos rfl]
    rfl
  rw [updateOpen_eq, updateOpen_eq]
  simp only [forget, List.map_map, Reading.mk.injEq, and_true]
  refine List.map_congr_left fun entry _ => ?_
  obtain ⟨name, table⟩ := entry
  by_cases hopen : some name = reading.current
  · obtain rfl := Option.some.inj (hopen.trans hmain)
    simp only [Function.comp_apply, if_pos hopen, forgetTable_append, hlevel]
  · simp only [Function.comp_apply, if_neg hopen]

/-- Whatever level is given, the same is left of the reading once it is forgotten. -/
theorem forget_addOption_level (hmain : reading.current = some mainSection)
    (hoption : splitOption text = (levelKey, some value))
    (hoption' : splitOption text' = (levelKey, some value')) (number : Nat) :
    (reading.addOption number line text).map forget =
      (reading.addOption number line' text').map forget := by
  have hnamed : levelKey ≠ "" := by decide
  rw [addOption, addOption, hmain, hoption, hoption']
  dsimp only
  rw [if_neg hnamed, if_neg hnamed]
  split
  · rfl
  · let opened (added : Reading) : Reading :=
      { added with option := some levelKey, nameless := reading.nameless }
    exact congrArg (fun added => Except.ok (opened added))
      (forget_updateOpen_level hmain [value] [value'])

theorem forget_levelLine (h : reading.LevelLine indent line) (h' : reading.LevelLine indent line')
    (number : Nat) :
    (reading.addLine number line).map forget = (reading.addLine number line').map forget := by
  obtain ⟨value, hoption⟩ := h.option
  obtain ⟨value', hoption'⟩ := h'.option
  have hmain : { reading with indent }.current = some mainSection := h.main
  rw [addLine_levelLine h, addLine_levelLine h']
  exact forget_addOption_level hmain hoption hoption' number

/-- Two readings whose texts differ in a line that gives the level. -/
theorem forget_addLines_levelLine {number : Nat} {before after : List (List Char)}
    (h : ∀ middle, reading.addLines number before = .ok middle →
      ∃ indent, middle.LevelLine indent line ∧ middle.LevelLine indent line') :
    (reading.addLines number (before ++ line :: after)).map forget =
      (reading.addLines number (before ++ line' :: after)).map forget := by
  induction before generalizing reading number with
  | nil =>
      obtain ⟨indent, hline, hline'⟩ := h reading rfl
      rw [List.nil_append, List.nil_append, addLines, addLines]
      rcases alike_of_map_eq (forget_levelLine hline hline' number) with
        ⟨fault, hnext, hnext'⟩ | ⟨next, next', hnext, hnext', hforget⟩
      · rw [hnext, hnext']
      · rw [hnext, hnext']
        exact forget_addLines hforget (number + 1) after
  | cons raw rest ih =>
      rw [List.cons_append, List.cons_append, addLines, addLines]
      cases hnext : reading.addLine number raw with
      | error fault => rfl
      | ok next =>
          refine ih fun middle hmiddle => h middle ?_
          rw [addLines, hnext]
          exact hmiddle

end LevelLines

section Texts

open Encoding

variable {bytes bytes' : List UInt8} {text text' : List Char}

/-- The text of a file does not depend on the pieces it is decoded in. -/
theorem decodePieces_spelled {left : List UInt8} {pieces : List (List UInt8)}
    (h : Codec.utf8.Spells (left ++ pieces.flatten) text) :
    decodePieces left pieces = (text, none) := by
  induction pieces generalizing left text with
  | nil =>
      rw [List.flatten_nil, List.append_nil] at h
      rw [decodePieces, h.decodeAll]
  | cons piece rest ih =>
      rw [List.flatten_cons, ← List.append_assoc] at h
      obtain ⟨chars, next, more, hdecoded, rfl, hmore, _⟩ := h.split Codec.utf8_incremental 0
      rw [decodePieces, hdecoded]
      simp only [ih hmore]

/-- The document that has been read, unless options without a name were found. -/
def Reading.finish (reading : Reading) : Except ReadingFault Document :=
  if reading.nameless = [] then .ok reading.document else .error (.nameless reading.nameless)

theorem Reading.finish_forget (reading : Reading) :
    reading.forget.finish = reading.finish.map Document.blank := by
  have hnameless : reading.forget.nameless = reading.nameless := rfl
  rw [finish, finish, hnameless, document_forget]
  split <;> rfl

theorem bind_finish_blank (read : Except ReadingFault Reading) :
    (read.bind finish).map Document.blank = (read.map forget).bind finish := by
  cases read with
  | error fault => rfl
  | ok reading => exact reading.finish_forget.symm

theorem ofBytes_text (htext : utf8.decode bytes = .ok text) :
    Document.ofBytes bytes =
      (addLines {} 1 (Text.lines (Text.unifyLineEnds text))).bind Reading.finish := by
  have hspells : Codec.utf8.Spells ([] ++ (Text.pieces pieceSize bytes).flatten) text := by
    rw [Text.pieces_flatten, List.nil_append]
    exact Codec.spells_of_decodeAll htext
  rw [Document.ofBytes, decodePieces_spelled hspells]
  simp only [knownLines, Option.isSome_none, Bool.false_eq_true, if_false]
  cases addLines {} 1 (Text.lines (Text.unifyLineEnds text)) with
  | error fault => rfl
  | ok reading => rfl

/-- Two texts that differ in a line that gives the log level of the main section. -/
def DifferInLevel (text text' : List Char) : Prop :=
  ∃ before line line' after,
    Text.lines (Text.unifyLineEnds text) = before ++ line :: after ∧
      Text.lines (Text.unifyLineEnds text') = before ++ line' :: after ∧
      ∀ reading : Reading, addLines {} 1 before = .ok reading →
        ∃ indent, reading.LevelLine indent line ∧ reading.LevelLine indent line'

/-- The documents in two such texts differ in the log level only, and what is wrong with one of the
texts is wrong with the other one. -/
theorem ofBytes_apart (htext : utf8.decode bytes = .ok text)
    (htext' : utf8.decode bytes' = .ok text') (h : DifferInLevel text text') :
    (Document.ofBytes bytes).map Document.blank = (Document.ofBytes bytes').map Document.blank := by
  obtain ⟨before, line, line', after, hlines, hlines', hlevel⟩ := h
  rw [ofBytes_text htext, ofBytes_text htext', hlines, hlines', bind_finish_blank,
    bind_finish_blank, forget_addLines_levelLine hlevel]

end Texts

end PlotStream.Settings
