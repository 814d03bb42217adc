import PlotStream.Settings.Interpolation

/-!
What a value depends on. References are followed by name, and the values found are expanded in turn,
one level less deep. So an option to which nothing refers, neither the text nor any value on the
way, may have any value without a difference. A text without percent signs stands for itself.
-/

namespace PlotStream.Settings

/-- The options that a text refers to, up to a reference that cannot be read. -/
def references (text : List Char) : List String :=
  match text with
  | [] => []
  | '%' :: '%' :: rest => references rest
  | '%' :: '(' :: rest =>
    match href : reference? rest with
    | none => []
    | some (name, after) =>
      have : after.length < rest.length := reference?_length href
      String.ofList (Text.lower name) :: references after
  | '%' :: _ => []
  | _ :: rest => references rest
termination_by text.length

/-- What is put in place of a reference to a value. -/
def insertion (table : Table) (depth : Nat) (value : String) :
    Except InterpolationCause (List Char) :=
  if value.contains '%' then
    match depth with
    | 0 => .error .tooDeep
    | depth + 1 => expand table depth value.toList
  else .ok value.toList

/-- A reference to an option of the table, with a text behind it. -/
def follow (table : Table) (depth : Nat) (key : String) (after : List Char) :
    Except InterpolationCause (List Char) :=
  match table.lookup key with
  | none => .error (.missing key)
  | some none => .error .valueless
  | some (some value) =>
    match insertion table depth value with
    | .error cause => .error cause
    | .ok inserted => (expand table depth after).map (inserted ++ ·)

variable {table other : Table} {depth : Nat} {rest name after : List Char}

theorem expand_reference (h : reference? rest = some (name, after)) :
    expand table depth ('%' :: '(' :: rest) =
      follow table depth (String.ofList (Text.lower name)) after := by
  rw [expand, follow]
  split
  next hnone => rw [h] at hnone; cases hnone
  next name' after' hsome =>
    rw [h] at hsome
    obtain ⟨rfl, rfl⟩ := Prod.mk.inj (Option.some.inj hsome)
    cases hfound : table.lookup (String.ofList (Text.lower name)) with
    | none => simp only [hfound]
    | some value =>
        cases value with
        | none => simp only [hfound]
        | some value =>
            simp only [hfound]
            rfl

theorem expand_reference_none (h : reference? rest = none) :
    expand table depth ('%' :: '(' :: rest) =
      .error (.badReference (String.ofList ('%' :: '(' :: rest))) := by
  rw [expand]
  split
  next => rfl
  next name after hsome =>
    rw [h] at hsome
    cases hsome

theorem references_reference (h : reference? rest = some (name, after)) :
    references ('%' :: '(' :: rest) = String.ofList (Text.lower name) :: references after := by
  rw [references]
  split
  next hnone => rw [h] at hnone; cases hnone
  next name' after' hsome =>
    rw [h] at hsome
    obtain ⟨rfl, rfl⟩ := Prod.mk.inj (Option.some.inj hsome)
    rfl

/-- If references are followed alike, texts are expanded alike. -/
theorem expand_congr_of_insertion {hidden : String}
    (hlookup : ∀ key, key ≠ hidden → table.lookup key = other.lookup key)
    (hinsertion : ∀ key value, key ≠ hidden → other.lookup key = some (some value) →
      insertion table depth value = insertion other depth value)
    {text : List Char} (htext : hidden ∉ references text) :
    expand table depth text = expand other depth text := by
  induction text using references.induct with
  | case1 => rw [expand, expand]
  | case2 rest ih =>
      rw [references] at htext
      rw [expand, expand, ih htext]
  | case3 rest hnone => rw [expand_reference_none hnone, expand_reference_none hnone]
  | case4 rest name after hsome _ ih =>
      rw [references_reference hsome, List.mem_cons, not_or] at htext
      obtain ⟨hname, hafter⟩ := htext
      rw [expand_reference hsome, expand_reference hsome, follow, follow, ih hafter,
        hlookup _ (Ne.symm hname)]
      cases hfound : other.lookup (String.ofList (Text.lower name)) with
      | none => rfl
      | some value =>
          cases value with
          | none => rfl
          | some value => simp only [hinsertion _ value (Ne.symm hname) hfound]
  | case5 rest hpercent hopen =>
      rw [expand.eq_4 table depth rest hpercent hopen, expand.eq_4 other depth rest hpercent hopen]
  | case6 c rest hpercent hopen hc ih =>
      rw [references.eq_5 c rest hpercent hopen hc] at htext
      rw [expand.eq_5 table depth c rest hpercent hopen hc,
        expand.eq_5 other depth c rest hpercent hopen hc, ih htext]

/-- An option to which nothing refers makes no difference. -/
theorem expand_congr {hidden : String}
    (hlookup : ∀ key, key ≠ hidden → table.lookup key = other.lookup key)
    (hvalues : ∀ key value, key ≠ hidden → other.lookup key = some (some value) →
      hidden ∉ references value.toList)
    {text : List Char} (htext : hidden ∉ references text) :
    expand table depth text = expand other depth text := by
  induction depth generalizing text with
  | zero => exact expand_congr_of_insertion hlookup (fun _ _ _ _ => rfl) htext
  | succ depth ih =>
      refine expand_congr_of_insertion hlookup (fun key value hkey hfound => ?_) htext
      rw [insertion, insertion, ih (hvalues key value hkey hfound)]

theorem expand_plain {text : List Char} (h : '%' ∉ text) : expand table depth text = .ok text := by
  induction text with
  | nil => rw [expand]
  | cons c rest ih =>
      rw [List.mem_cons, not_or] at h
      obtain ⟨hc, hrest⟩ := h
      have hother : c = '%' → False := fun heq => hc heq.symm
      rw [expand.eq_5 table depth c rest (fun _ heq _ => hother heq) (fun _ heq _ => hother heq)
        hother, ih hrest]
      rfl

theorem references_plain {text : List Char} (h : '%' ∉ text) : references text = [] := by
  induction text with
  | nil => rw [references]
  | cons c rest ih =>
      rw [List.mem_cons, not_or] at h
      obtain ⟨hc, hrest⟩ := h
      have hother : c = '%' → False := fun heq => hc heq.symm
      rw [references.eq_5 c rest (fun _ heq _ => hother heq) (fun _ heq _ => hother heq)
        hother, ih hrest]

end PlotStream.Settings
