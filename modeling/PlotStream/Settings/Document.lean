/-!
A settings document: named sections of options. An option has a value, or is merely mentioned.
Options of the defaults count for every section that does not have them itself.
-/

namespace PlotStream.Settings

/-- Options with their values, in the order of the document. -/
abbrev Table := List (String × Option String)

/-- Give an option a value; a new option comes last. -/
def Table.set (table : Table) (key value : String) : Table :=
  if (table.lookup key).isSome then
    table.map fun (k, old) => if k = key then (k, some value) else (k, old)
  else table ++ [(key, some value)]

/-- The options of a table and, after them, those of the defaults that it does not have. -/
def Table.withDefaults (table defaults : Table) : Table :=
  table ++ defaults.filter fun (key, _) => (table.lookup key).isNone

structure Document where
  defaults : Table := []
  sections : List (String × Table) := []
  deriving Repr, DecidableEq

namespace Document

/-- The section with the given name, defaults included. -/
def view? (document : Document) (name : String) : Option Table :=
  (document.sections.lookup name).map (·.withDefaults document.defaults)

/-- Give an option of a section a value. -/
def set (document : Document) (name key value : String) : Document :=
  { document with
    sections := document.sections.map fun (n, table) =>
      if n = name then (n, table.set key value) else (n, table) }

/-- Every section with its options, defaults included. -/
def views (document : Document) : List (String × Table) :=
  document.sections.map fun (name, table) => (name, table.withDefaults document.defaults)

end Document

end PlotStream.Settings
