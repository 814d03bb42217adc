import PlotStream.Settings.Document
import PlotStream.Text.Case
import PlotStream.Text.Quoted

/-!
References between options. In a value, `%(name)s` stands for the value of another option of
the section, in which references count as well, and `%%` for a percent sign. References may be
nested ten deep.
-/

namespace PlotStream.Settings

/-- What can be wrong with the references in a value. -/
inductive InterpolationCause where
  | tooDeep
  | missing (key : String)
  /-- The option referred to is merely mentioned. -/
  | valueless
  | badReference (rest : String)
  | strayPercent (rest : String)
  deriving Repr, DecidableEq

/-- The greatest depth of references. -/
def maxDepth : Nat := 10

/-- The name in a reference at the front of a text behind its `%(`, and what follows it. -/
def reference? (text : List Char) : Option (List Char × List Char) :=
  match text.takeWhile (· ≠ ')'), text.dropWhile (· ≠ ')') with
  | c :: name, ')' :: 's' :: rest => some (c :: name, rest)
  | _, _ => none

theorem reference?_length {text name rest : List Char} (h : reference? text = some (name, rest)) :
    rest.length < text.length := by
  unfold reference? at h
  split at h
  next hd =>
    have := (List.dropWhile_sublist (l := text) (· ≠ ')')).length_le
    simp only [Option.some.injEq, Prod.mk.injEq] at h
    rw [hd, ← h.2] at *
    simp at this ⊢
    omega
  · simp at h

/-- The value that a text stands for, with references to the options of `table`, which may be
nested `depth` deep. -/
def expand (table : Table) (depth : Nat) (text : List Char) :
    Except InterpolationCause (List Char) :=
  match text with
  | [] => .ok []
  | '%' :: '%' :: rest => (expand table depth rest).map ('%' :: ·)
  | '%' :: '(' :: rest =>
    match href : reference? rest with
    | none => .error (.badReference (String.ofList text))
    | some (name, after) =>
      have : after.length < rest.length := reference?_length href
      let key := String.ofList (Text.lower name)
      match table.lookup key with
      | none => .error (.missing key)
      | some none => .error .valueless
      | some (some value) =>
        let inserted :=
          if value.contains '%' then
            match depth with
            | 0 => Except.error InterpolationCause.tooDeep
            | depth + 1 => expand table depth value.toList
          else .ok value.toList
        match inserted with
        | .error cause => .error cause
        | .ok inserted => (expand table depth after).map (inserted ++ ·)
  | '%' :: rest => .error (.strayPercent (String.ofList ('%' :: rest)))
  | c :: rest => (expand table depth rest).map (c :: ·)
termination_by (depth, text.length)

/-- A value whose references cannot be resolved. -/
structure InterpolationFault where
  name : String
  key : String
  /-- The value of the option as written. -/
  raw : String
  cause : InterpolationCause
  deriving Repr, DecidableEq

/-- The option a fault is about, in words. -/
def InterpolationFault.option (fault : InterpolationFault) : String :=
  "option " ++ Text.quoted fault.key ++ " in section " ++ Text.quoted fault.name

def InterpolationFault.message (fault : InterpolationFault) : String :=
  match fault.cause with
  | .tooDeep =>
    "Recursion limit exceeded in value substitution: " ++ fault.option ++
      " contains an interpolation key which cannot be substituted in " ++ toString maxDepth ++
      " steps. Raw value: " ++ Text.quoted fault.raw
  | .missing key =>
    "Bad value substitution: " ++ fault.option ++ " contains an interpolation key " ++
      Text.quoted key ++ " which is not a valid option name. Raw value: " ++ Text.quoted fault.raw
  | .valueless => "argument of type 'NoneType' is not iterable"
  | .badReference rest => "bad interpolation variable reference " ++ Text.quoted rest
  | .strayPercent rest => "'%' must be followed by '%' or '(', found: " ++ Text.quoted rest

/-- The value of an option of a section, references resolved. Nothing is the value of an option
that is merely mentioned. -/
def resolve (name : String) (table : Table) (key : String) (value : Option String) :
    Except InterpolationFault (Option String) :=
  match value with
  | none => .ok none
  | some raw =>
    match expand table (maxDepth - 1) raw.toList with
    | .ok cs => .ok (some (String.ofList cs))
    | .error cause => .error ⟨name, key, raw, cause⟩

/-- The value of an option that may be missing or merely mentioned, references resolved. -/
def value (name : String) (table : Table) (key : String) :
    Except InterpolationFault (Option String) :=
  resolve name table key ((table.lookup key).getD none)

end PlotStream.Settings
