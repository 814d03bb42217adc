import PlotStream.Proofs.DistinctNames
import PlotStream.Proofs.References
import PlotStream.Settings.Check

/-!
The log level among the settings. Two documents that differ in nothing else are the same once it is
blanked out, so it is enough to compare a document with its blanked one. Every other option of the
main section is resolved to the same value without the level, as long as nothing refers to it.
-/

namespace PlotStream.Settings

/-- The value of an option, blanked out if the option is the log level. -/
def blankValue (key : String) (value : Option String) : Option String :=
  if key = levelKey then value.map fun _ => "" else value

theorem blankValue_of_ne {key : String} (h : key ≠ levelKey) (value : Option String) :
    blankValue key value = value :=
  if_neg h

/-- The table without the value of the log level. -/
def Table.blank (table : Table) : Table :=
  table.map fun entry => (entry.1, blankValue entry.1 entry.2)

/-- No value refers to the option. -/
def Table.Avoids (table : Table) (hidden : String) : Prop :=
  ∀ key value, (key, some value) ∈ table → hidden ∉ references value.toList

/-- The log level is there, and its value stands for itself. -/
structure Table.PlainLevel (table : Table) : Prop where
  own : (table.lookup levelKey).isSome
  plain : ∀ value, (levelKey, some value) ∈ table → '%' ∉ value.toList

namespace Table

variable {table defaults : Table} {key value : String}

theorem lookup_blank (h : key ≠ levelKey) : table.blank.lookup key = table.lookup key := by
  rw [blank, lookup_map_values]
  cases table.lookup key with
  | none => rfl
  | some value => exact congrArg some (blankValue_of_ne h value)

theorem isSome_lookup_blank (table : Table) (key : String) :
    (table.blank.lookup key).isSome = (table.lookup key).isSome := by
  rw [blank, lookup_map_values, Option.isSome_map]

/-- A log level of the section hides that of the defaults. -/
theorem blank_withDefaults (h : (table.lookup levelKey).isSome) :
    (table.withDefaults defaults).blank = table.blank.withDefaults defaults := by
  have hkept : ∀ entry ∈ defaults.filter (fun entry => (table.lookup entry.1).isNone),
      (entry.1, blankValue entry.1 entry.2) = entry := by
    rintro ⟨k, v⟩ hmem
    have hne : k ≠ levelKey := by
      rintro rfl
      have hnone := (List.mem_filter.mp hmem).2
      rw [Option.isNone_iff_eq_none] at hnone
      rw [hnone] at h
      cases h
    rw [blankValue_of_ne hne]
  have hfilter : defaults.filter (fun entry => (table.blank.lookup entry.1).isNone) =
      defaults.filter fun entry => (table.lookup entry.1).isNone := by
    refine List.filter_congr fun entry _ => ?_
    rw [← Option.not_isSome, ← Option.not_isSome, isSome_lookup_blank]
  rw [withDefaults, withDefaults, hfilter, blank, List.map_append,
    (List.map_congr_left hkept).trans (List.map_id _)]
  rfl

theorem Avoids.withDefaults {hidden : String} (h : table.Avoids hidden)
    (hdefaults : defaults.Avoids hidden) : (table.withDefaults defaults).Avoids hidden := by
  intro k v hmem
  rcases List.mem_append.mp hmem with hown | hdefault
  · exact h k v hown
  · exact hdefaults k v (List.mem_filter.mp hdefault).1

theorem mem_set {k : String} {v : Option String} (h : (k, v) ∈ table.set key value) :
    (k, v) ∈ table ∨ k = key ∧ v = some value := by
  rw [set] at h
  split at h
  · obtain ⟨⟨k', v'⟩, hmem, heq⟩ := List.mem_map.mp h
    dsimp only at heq
    split at heq
    next hkey =>
      obtain ⟨rfl, rfl⟩ := Prod.mk.inj heq
      exact Or.inr ⟨hkey, rfl⟩
    next =>
      obtain ⟨rfl, rfl⟩ := Prod.mk.inj heq
      exact Or.inl hmem
  · rcases List.mem_append.mp h with hold | hnew
    · exact Or.inl hold
    · obtain ⟨rfl, rfl⟩ := Prod.mk.inj (List.mem_singleton.mp hnew)
      exact Or.inr ⟨rfl, rfl⟩

/-- Setting an option by changing the value of each entry. -/
theorem set_of_isSome (h : (table.lookup key).isSome) :
    table.set key value =
      table.map fun entry => (entry.1, if entry.1 = key then some value else entry.2) := by
  rw [set, if_pos h]
  refine List.map_congr_left fun entry _ => ?_
  obtain ⟨k, v⟩ := entry
  dsimp only
  split
  · rfl
  · rfl

theorem blank_set (h : key ≠ levelKey) :
    (table.set key value).blank = table.blank.set key value := by
  by_cases hfound : (table.lookup key).isSome
  · rw [set_of_isSome hfound, set_of_isSome (by rwa [isSome_lookup_blank]), blank, blank,
      List.map_map, List.map_map]
    refine List.map_congr_left fun entry _ => ?_
    obtain ⟨k, v⟩ := entry
    simp only [Function.comp_apply, Prod.mk.injEq, true_and]
    split
    next hkey =>
      subst hkey
      rw [blankValue_of_ne h]
    next => rfl
  · rw [set, if_neg hfound, set, if_neg (by rwa [isSome_lookup_blank]), blank, List.map_append,
      List.map_singleton, blankValue_of_ne h]
    rfl

theorem isSome_lookup_set (table : Table) (key value : String) {other : String}
    (h : (table.lookup other).isSome) : ((table.set key value).lookup other).isSome := by
  by_cases hfound : (table.lookup key).isSome
  · rw [set_of_isSome hfound,
      lookup_map_values (fun k (v : Option String) => if k = key then some value else v),
      Option.isSome_map]
    exact h
  · rw [set, if_neg hfound, List.lookup_append]
    obtain ⟨v, hv⟩ := Option.isSome_iff_exists.mp h
    rw [hv]
    rfl

theorem PlainLevel.set (h : table.PlainLevel) (hkey : key ≠ levelKey) :
    (table.set key value).PlainLevel where
  own := isSome_lookup_set table key value h.own
  plain := by
    intro v hmem
    rcases mem_set hmem with hold | ⟨hlevel, _⟩
    · exact h.plain v hold
    · exact absurd hlevel.symm hkey

theorem Avoids.set {hidden : String} (h : table.Avoids hidden) (hvalue : '%' ∉ value.toList) :
    (table.set key value).Avoids hidden := by
  intro k v hmem
  rcases mem_set hmem with hold | ⟨_, hnew⟩
  · exact h k v hold
  · obtain rfl := Option.some.inj hnew
    rw [references_plain hvalue]
    exact List.not_mem_nil

end Table

namespace Document

/-- The table of a section, without the log level if the section is the main one. -/
def blankTable (name : String) (table : Table) : Table :=
  if name = mainSection then table.blank else table

/-- The document without the log level of its main section. -/
def blank (document : Document) : Document :=
  { document with
    sections := document.sections.map fun entry => (entry.1, blankTable entry.1 entry.2) }

/-- No value of the document refers to the option. -/
structure Avoids (document : Document) (hidden : String) : Prop where
  defaults : document.defaults.Avoids hidden
  sections : ∀ name table, (name, table) ∈ document.sections → table.Avoids hidden

/-- The log level of the main section stands for itself, and no other value refers to it. -/
structure LevelApart (document : Document) : Prop where
  plain : ∀ table, (mainSection, table) ∈ document.sections → table.PlainLevel
  avoids : document.blank.Avoids levelKey

variable {document : Document} {key value : String} {table : Table}

theorem view?_blank (h : document.LevelApart) :
    document.blank.view? mainSection = (document.view? mainSection).map Table.blank := by
  rw [view?, view?, blank, lookup_map_values, Option.map_map, Option.map_map]
  cases hfound : document.sections.lookup mainSection with
  | none => rfl
  | some table =>
      have hown := (h.plain table (mem_of_lookup hfound)).own
      exact congrArg some (Table.blank_withDefaults hown).symm

theorem avoids_view (h : document.LevelApart) (hview : document.view? mainSection = some table) :
    table.blank.Avoids levelKey := by
  have hblank := document.view?_blank h
  rw [hview, view?] at hblank
  obtain ⟨own, hfound, hown⟩ := Option.map_eq_some_iff.mp hblank
  rw [← hown]
  exact (h.avoids.sections _ _ (mem_of_lookup hfound)).withDefaults h.avoids.defaults

/-- Setting an option by changing the table of each section. -/
theorem set_eq (document : Document) (name key value : String) :
    document.set name key value =
      { document with
        sections := document.sections.map fun entry =>
          (entry.1, if entry.1 = name then entry.2.set key value else entry.2) } := by
  rw [set]
  congr 1
  refine List.map_congr_left fun entry _ => ?_
  obtain ⟨n, t⟩ := entry
  dsimp only
  split
  · rfl
  · rfl

theorem blank_set (h : key ≠ levelKey) :
    (document.set mainSection key value).blank = document.blank.set mainSection key value := by
  rw [set_eq, set_eq, blank, blank]
  simp only [List.map_map, Document.mk.injEq, true_and]
  refine List.map_congr_left fun entry _ => ?_
  obtain ⟨name, table⟩ := entry
  simp only [Function.comp_apply, blankTable, Prod.mk.injEq, true_and]
  by_cases hname : name = mainSection
  · rw [if_pos hname, if_pos hname, if_pos hname, if_pos hname, Table.blank_set h]
  · rw [if_neg hname, if_neg hname, if_neg hname, if_neg hname]

/-- Setting another option to a plain value keeps the log level apart. -/
theorem LevelApart.set (h : document.LevelApart) (hkey : key ≠ levelKey)
    (hvalue : '%' ∉ value.toList) : (document.set mainSection key value).LevelApart where
  plain := by
    intro table hmem
    rw [set_eq] at hmem
    obtain ⟨⟨name, old⟩, hold, heq⟩ := List.mem_map.mp hmem
    obtain ⟨rfl, rfl⟩ := Prod.mk.inj heq
    rw [if_pos rfl]
    exact (h.plain old hold).set hkey
  avoids := by
    rw [blank_set hkey, set_eq]
    refine ⟨h.avoids.defaults, fun name table hmem => ?_⟩
    obtain ⟨⟨name', old⟩, hold, heq⟩ := List.mem_map.mp hmem
    obtain ⟨rfl, rfl⟩ := Prod.mk.inj heq
    have hsection := h.avoids.sections name' old hold
    dsimp only
    split
    · exact hsection.set hvalue
    · exact hsection

end Document

section Resolving

variable {table : Table} {document : Document} {key : String}

/-- A value that does not refer to the log level is resolved without it. -/
theorem resolve_blank (havoids : table.blank.Avoids levelKey) (name key : String)
    {value : Option String} (h : ∀ raw, value = some raw → levelKey ∉ references raw.toList) :
    resolve name table key value = resolve name table.blank key value := by
  cases value with
  | none => rfl
  | some raw =>
      have hsame : expand table (maxDepth - 1) raw.toList =
          expand table.blank (maxDepth - 1) raw.toList := by
        refine expand_congr (fun k hk => (Table.lookup_blank hk).symm) ?_ (h raw rfl)
        intro k v _ hfound
        exact havoids k v (mem_of_lookup hfound)
      rw [resolve, resolve, hsame]

theorem resolve_plain (name : String) (table : Table) (key : String) {raw : String}
    (h : '%' ∉ raw.toList) : resolve name table key (some raw) = .ok (some raw) := by
  rw [resolve, expand_plain h]
  simp only [String.ofList_toList]

theorem mainValue_blank (h : document.LevelApart) (hkey : key ≠ levelKey) :
    mainValue document.blank key = mainValue document key := by
  rw [mainValue, mainValue, document.view?_blank h]
  cases hview : document.view? mainSection with
  | none => rfl
  | some table =>
      have havoids := document.avoids_view h hview
      have hraw : ∀ raw, (table.lookup key).getD none = some raw →
          levelKey ∉ references raw.toList := by
        intro raw hfound
        rw [← Table.lookup_blank hkey] at hfound
        cases hlookup : table.blank.lookup key with
        | none =>
            rw [hlookup] at hfound
            cases hfound
        | some value =>
            rw [hlookup, Option.getD_some] at hfound
            subst hfound
            exact havoids key raw (mem_of_lookup hlookup)
      simp only [Option.map_some, value, Table.lookup_blank hkey,
        resolve_blank havoids mainSection key hraw]

theorem given?_blank (h : document.LevelApart) (hkey : key ≠ levelKey) :
    given? document.blank key = given? document key := by
  rw [given?, given?, mainValue_blank h hkey]

theorem hasOption_blank (h : document.LevelApart) (hkey : key ≠ levelKey) :
    hasOption document.blank key = hasOption document key := by
  rw [hasOption, hasOption, document.view?_blank h]
  cases document.view? mainSection with
  | none => rfl
  | some table => simp only [Option.map_some, Option.bind_some, Table.lookup_blank hkey]

/-- The log level makes no difference to the options for parsing. -/
theorem options_blank (h : document.LevelApart) : options document.blank = options document := by
  have hsize : bufferSizeKey ≠ levelKey := by decide
  have hencoding : encodingKey ≠ levelKey := by decide
  rw [options, options, bufferSize, bufferSize, encoding, encoding, mainValue_blank h hsize,
    mainValue_blank h hencoding, hasOption_blank h hsize, hasOption_blank h hencoding]

end Resolving

end PlotStream.Settings
