import PlotStream.Settings.Reading

/-!
Names in settings. Options are found by name in a section, and sections in a document. No name is
repeated in what is read: a line opens a section only under a new name, and gives an option only if
the open section does not have it yet.
-/

namespace PlotStream.Settings

section Lookup

variable {α β : Type} (f : String → α → β) (entries : List (String × α)) {key : String} {value : α}

/-- Changed values are found under the same names. -/
theorem lookup_map_values (key : String) :
    (entries.map fun entry => (entry.1, f entry.1 entry.2)).lookup key =
      (entries.lookup key).map (f key) := by
  induction entries with
  | nil => rfl
  | cons entry rest ih =>
      obtain ⟨k, v⟩ := entry
      rw [List.map_cons, List.lookup_cons, List.lookup_cons]
      cases hfound : key == k with
      | true =>
          obtain rfl := eq_of_beq hfound
          rfl
      | false => exact ih

variable {entries}

theorem mem_of_lookup (h : entries.lookup key = some value) : (key, value) ∈ entries := by
  obtain ⟨before, after, rfl, _⟩ := List.lookup_eq_some_iff.mp h
  simp

theorem isSome_lookup_of_mem (h : (key, value) ∈ entries) : (entries.lookup key).isSome :=
  List.lookup_isSome_iff.mpr ⟨_, h, beq_self_eq_true key⟩

/-- Where names are not repeated every entry is found. -/
theorem lookup_of_mem (hnodup : (entries.map Prod.fst).Nodup) (h : (key, value) ∈ entries) :
    entries.lookup key = some value := by
  induction entries with
  | nil => cases h
  | cons entry rest ih =>
      obtain ⟨k, v⟩ := entry
      obtain ⟨hnone, hrest⟩ := List.nodup_cons.mp hnodup
      rw [List.lookup_cons]
      rcases List.mem_cons.mp h with heq | hlater
      · obtain ⟨rfl, rfl⟩ := Prod.mk.inj heq
        rw [beq_self_eq_true]
      · have hne : (key == k) = false := by
          refine beq_false_of_ne ?_
          rintro rfl
          exact hnone (List.mem_map.mpr ⟨_, hlater, rfl⟩)
        rw [hne]
        exact ih hrest hlater

end Lookup

namespace Reading

/-- Changing the open table by changing the table of each section. -/
theorem updateOpen_eq (reading : Reading) (f : List (String × Draft) → List (String × Draft)) :
    reading.updateOpen f =
      { reading with
        sections := reading.sections.map fun entry =>
          (entry.1, if some entry.1 = reading.current then f entry.2 else entry.2) } := by
  rw [updateOpen]
  congr 1
  refine List.map_congr_left fun entry _ => ?_
  obtain ⟨n, t⟩ := entry
  dsimp only
  split
  · rfl
  · rfl

/-- The option whose value a line may continue, and whether it has a value. -/
def continuedKey? (reading : Reading) : Option (String × Bool) :=
  reading.continued?.map fun entry => (entry.1, entry.2.isSome)

/-- The option whose value the line continues, and whether there is a value. -/
def continuedBy? (reading : Reading) (raw : List Char) : Option (String × Bool) :=
  if reading.indent < (raw.takeWhile Text.isBlank).length then reading.continuedKey? else none

/-- A line that continues no value: it opens a section or gives an option. -/
def begin (reading : Reading) (number : Nat) (raw : List Char) : Except ReadingFault Reading :=
  let reading := { reading with indent := (raw.takeWhile Text.isBlank).length }
  match headerName? (Text.trimBlanks raw) with
  | some name => reading.openSection number name
  | none => reading.addOption number raw (Text.trimBlanks raw)

/-- What becomes of a line depends on the option that is open, not on what is there of its value. -/
theorem addLine_eq (reading : Reading) (number : Nat) (raw : List Char) :
    reading.addLine number raw =
      match Text.trimBlanks raw with
      | [] => .ok (reading.continuedKey?.elim reading fun entry => reading.appendLine entry.1 [])
      | c :: rest =>
        if c = '#' ∨ c = ';' then .ok reading
        else
          match reading.continuedBy? raw with
          | some (_, false) => .error .continuesNothing
          | some (key, true) => .ok (reading.appendLine key (c :: rest))
          | none => reading.begin number raw := by
  rw [addLine]
  cases htext : Text.trimBlanks raw with
  | nil =>
      rw [continuedKey?]
      cases reading.continued? with
      | none => rfl
      | some entry => rfl
  | cons c rest =>
      dsimp only
      split
      · rfl
      have hcontinued : reading.continuedBy? raw =
          (if reading.indent < (raw.takeWhile Text.isBlank).length then reading.continued?
            else none).map fun entry => (entry.1, entry.2.isSome) := by
        rw [continuedBy?, continuedKey?, apply_ite (Option.map _), Option.map_none]
      rw [hcontinued, begin, htext]
      cases (if reading.indent < (raw.takeWhile Text.isBlank).length then reading.continued?
        else none) with
      | none => rfl
      | some entry =>
          obtain ⟨key, draft⟩ := entry
          cases draft <;> rfl

end Reading

/-- No name stands for two sections, or for two options of a section. -/
structure Distinct {α : Type} (sections : List (String × List (String × α))) : Prop where
  names : (sections.map Prod.fst).Nodup
  keys : ∀ name table, (name, table) ∈ sections → (table.map Prod.fst).Nodup

namespace Distinct

variable {α β : Type} {sections : List (String × List (String × α))}

/-- Changed tables leave the names of the sections as they are. -/
theorem map_tables (h : Distinct sections) (f : String → List (String × α) → List (String × β))
    (hf : ∀ name table, (name, table) ∈ sections → ((f name table).map Prod.fst).Nodup) :
    Distinct (sections.map fun entry => (entry.1, f entry.1 entry.2)) where
  names := by
    rw [List.map_map]
    exact h.names
  keys := by
    intro name table hmem
    obtain ⟨⟨name', old⟩, hold, heq⟩ := List.mem_map.mp hmem
    obtain ⟨rfl, rfl⟩ := Prod.mk.inj heq
    exact hf name' old hold

theorem filter (h : Distinct sections) (keep : String × List (String × α) → Bool) :
    Distinct (sections.filter keep) where
  names := h.names.sublist (List.filter_sublist.map Prod.fst)
  keys name table hmem := h.keys name table (List.mem_filter.mp hmem).1

end Distinct

/-- A name that is not found can be added. -/
theorem nodup_append {α : Type} {entries : List (String × α)} (h : (entries.map Prod.fst).Nodup)
    {key : String} (hnone : (entries.lookup key).isSome = false) (value : α) :
    ((entries ++ [(key, value)]).map Prod.fst).Nodup := by
  rw [List.map_append, List.map_singleton]
  refine List.nodup_append.mpr ⟨h, List.pairwise_singleton _ _, ?_⟩
  intro name hmem other hother
  obtain rfl := List.mem_singleton.mp hother
  rintro rfl
  obtain ⟨⟨name', v⟩, hentry, rfl⟩ := List.mem_map.mp hmem
  rw [isSome_lookup_of_mem hentry] at hnone
  cases hnone

namespace Reading

variable {reading after : Reading}

theorem distinct_updateOpen (h : Distinct reading.sections)
    (f : List (String × Draft) → List (String × Draft))
    (hf : ∀ name table, (name, table) ∈ reading.sections → some name = reading.current →
      ((f table).map Prod.fst).Nodup) : Distinct (reading.updateOpen f).sections := by
  rw [updateOpen_eq]
  refine h.map_tables (fun name table => if some name = reading.current then f table else table)
    fun name table hmem => ?_
  split
  next hopen => exact hf name table hmem hopen
  next => exact h.keys name table hmem

theorem distinct_appendLine (h : Distinct reading.sections) (key : String) (line : List Char) :
    Distinct (reading.appendLine key line).sections := by
  refine distinct_updateOpen h _ fun name table hmem _ => ?_
  refine (congrArg List.Nodup ?_).mpr (h.keys name table hmem)
  rw [List.map_map]
  refine List.map_congr_left fun entry _ => ?_
  obtain ⟨k, draft⟩ := entry
  rw [Function.comp_apply]
  dsimp only
  split <;> rfl

theorem distinct_openSection (h : Distinct reading.sections) {number : Nat} {name : String}
    (hok : reading.openSection number name = .ok after) : Distinct after.sections := by
  rw [openSection] at hok
  split at hok
  next hnone =>
    obtain rfl := Except.ok.inj hok
    rw [Option.isNone_iff_eq_none] at hnone
    refine ⟨nodup_append h.names (by rw [hnone]; rfl) [], fun name' table hmem => ?_⟩
    rcases List.mem_append.mp hmem with hold | hnew
    · exact h.keys name' table hold
    · obtain ⟨rfl, rfl⟩ := Prod.mk.inj (List.mem_singleton.mp hnew)
      exact List.nodup_nil
  next =>
    split at hok
    · obtain rfl := Except.ok.inj hok
      exact h
    · cases hok

theorem distinct_addOption (h : Distinct reading.sections) {number : Nat} {raw text : List Char}
    (hok : reading.addOption number raw text = .ok after) : Distinct after.sections := by
  rw [addOption] at hok
  cases hcurrent : reading.current with
  | none =>
      rw [hcurrent] at hok
      cases hok
  | some name =>
      rw [hcurrent] at hok
      dsimp only at hok
      split at hok
      · cases hok
      next hfresh =>
        obtain rfl := Except.ok.inj hok
        dsimp only
        refine distinct_updateOpen h _ fun name' table hmem hopen => ?_
        have hname : name' = name := Option.some.inj (hopen.trans hcurrent)
        have htable : reading.openTable = table := by
          rw [openTable, hcurrent, Option.bind_some, ← hname, lookup_of_mem h.names hmem]
          rfl
        rw [htable] at hfresh
        exact nodup_append (h.keys name' table hmem) (Bool.eq_false_iff.mpr hfresh) _

theorem distinct_begin (h : Distinct reading.sections) {number : Nat} {raw : List Char}
    (hok : reading.begin number raw = .ok after) : Distinct after.sections := by
  let indented : Reading := { reading with indent := (raw.takeWhile Text.isBlank).length }
  have hindented : Distinct indented.sections := h
  rw [begin] at hok
  cases hheader : headerName? (Text.trimBlanks raw) with
  | none =>
      rw [hheader] at hok
      exact distinct_addOption hindented hok
  | some name =>
      rw [hheader] at hok
      exact distinct_openSection hindented hok

theorem distinct_addLine (h : Distinct reading.sections) {number : Nat} {raw : List Char}
    (hok : reading.addLine number raw = .ok after) : Distinct after.sections := by
  rw [addLine_eq] at hok
  cases htext : Text.trimBlanks raw with
  | nil =>
      rw [htext] at hok
      obtain rfl := Except.ok.inj hok
      cases reading.continuedKey? with
      | none => exact h
      | some entry => exact distinct_appendLine h entry.1 []
  | cons c rest =>
      rw [htext] at hok
      dsimp only at hok
      split at hok
      · obtain rfl := Except.ok.inj hok
        exact h
      split at hok
      · cases hok
      · obtain rfl := Except.ok.inj hok
        exact distinct_appendLine h _ _
      · exact distinct_begin h hok

theorem distinct_addLines (h : Distinct reading.sections) {number : Nat} {lines : List (List Char)}
    (hok : reading.addLines number lines = .ok after) : Distinct after.sections := by
  induction lines generalizing reading number with
  | nil =>
      obtain rfl := Except.ok.inj hok
      exact h
  | cons raw rest ih =>
      rw [addLines] at hok
      cases hnext : reading.addLine number raw with
      | error fault =>
          rw [hnext] at hok
          cases hok
      | ok next =>
          rw [hnext] at hok
          exact ih (distinct_addLine h hnext) hok

theorem distinct_document (h : Distinct reading.sections) : Distinct reading.document.sections := by
  refine (h.filter _).map_tables (fun _ table => finishTable table) fun name table hmem => ?_
  rw [finishTable, List.map_map]
  exact h.keys name table (List.mem_filter.mp hmem).1

theorem distinct_ofBytes {bytes : List UInt8} {document : Document}
    (hok : Document.ofBytes bytes = .ok document) : Distinct document.sections := by
  rw [Document.ofBytes] at hok
  obtain ⟨text, failure⟩ := decodePieces [] (Text.pieces pieceSize bytes)
  dsimp only at hok
  split at hok
  · cases hok
  · cases hok
  next reading hread _ =>
    split at hok
    · have hnone : Distinct ({} : Reading).sections :=
        ⟨List.nodup_nil, fun _ _ hmem => by cases hmem⟩
      obtain rfl := Except.ok.inj hok
      exact distinct_document (distinct_addLines hnone hread)
    · cases hok

end Reading

end PlotStream.Settings
