import QueryGateway.Json.Path
import QueryGateway.Proofs.Json.Fields
import QueryGateway.Proofs.Text.Split

/-!
What reading, writing and erasing at a path do.

Reading along a path and its continuation is reading twice (`walk_append`).  Writing below
a field goes through an object and leaves an object, so a field that holds anything else
keeps its value unless the path is the field itself.
-/

namespace QueryGateway.Json

theorem fields?_eq_some_iff {value : Json} {fields : Fields} :
    value.fields? = some fields ↔ value = .obj fields := by
  cases value <;> simp [fields?]

theorem eq_of_segments_eq_singleton {path leaf : String} (h : segments path = [leaf]) :
    path = leaf :=
  Text.eq_of_splitString_eq_singleton h

theorem segments_of_not_mem {path : String} (h : '.' ∉ path.toList) : segments path = [path] := by
  rw [segments, Text.splitString, Text.split_of_not_mem h, List.map_singleton, String.ofList_toList]

theorem segments_ne_nil (path : String) : segments path ≠ [] := by
  rw [segments, Text.splitString, ne_eq, List.map_eq_nil_iff]
  exact Text.split_ne_nil '.' path.toList

/-! ## Reading -/

theorem walk_nil (value : Json) : value.walk [] = some value := by
  cases value <;> rfl

theorem walk_obj (segment : String) (fields : Fields) (path : List String) :
    (Json.obj fields).walk (segment :: path) =
      (Fields.get? segment fields).bind fun v => v.walk path :=
  rfl

theorem walk_singleton (key : String) (fields : Fields) :
    (Json.obj fields).walk [key] = Fields.get? key fields := by
  rw [walk_obj]
  cases Fields.get? key fields with
  | none => rfl
  | some value => exact walk_nil value

theorem walk_empty {path : List String} (h : path ≠ []) : (Json.obj []).walk path = none := by
  cases path with
  | nil => exact absurd rfl h
  | cons segment rest => rw [walk_obj, Fields.get?_nil, Option.bind_none]

theorem at?_of_not_mem {path : String} (h : '.' ∉ path.toList) (fields : Fields) :
    (Json.obj fields).at? path = Fields.get? path fields := by
  rw [at?, segments_of_not_mem h, walk_singleton]

theorem walk_arr {segment : String} {index : Option Nat} (h : index? segment = index)
    (items : List Json) (path : List String) :
    (Json.arr items).walk (segment :: path) =
      (index.bind fun i => items[i]?).bind fun v => v.walk path := by
  rw [← h]
  rfl

theorem walk_append (value : Json) (leading rest : List String) :
    value.walk (leading ++ rest) = (value.walk leading).bind fun v => v.walk rest := by
  induction leading generalizing value with
  | nil => rw [walk_nil, List.nil_append, Option.bind_some]
  | cons segment leading ih =>
    cases value with
    | obj fields =>
      rw [List.cons_append, walk_obj, walk_obj]
      simp only [ih, Option.bind_assoc]
    | arr items =>
      rw [List.cons_append, walk_arr rfl, walk_arr rfl]
      simp only [ih, Option.bind_assoc]
    | _ => rfl

/-! ## Writing -/

namespace Fields

/-- Writing below a field: it was missing or an object, and is an object afterwards. -/
theorem setPath_below {value : Json} {segment : String} {rest : List String} (hr : rest ≠ [])
    {fields out : Fields} (h : setPath value (segment :: rest) fields = .ok out) :
    ∃ child child', (get? segment fields = none ∧ child = [] ∨
        get? segment fields = some (.obj child)) ∧
      setPath value rest child = .ok child' ∧ out = set segment (.obj child') fields := by
  rw [setPath.eq_3 _ _ _ _ fun h => hr h] at h
  cases hg : get? segment fields with
  | none =>
    rw [hg] at h
    cases hc : setPath value rest [] with
    | error e => simp [hc, Except.map] at h
    | ok child' =>
      rw [hc] at h
      exact ⟨[], child', .inl ⟨rfl, rfl⟩, hc, (Except.ok.inj h).symm⟩
  | some old =>
    rw [hg] at h
    cases old with
    | obj child =>
      cases hc : setPath value rest child with
      | error e => simp [hc, Except.map] at h
      | ok child' =>
        simp only [hc] at h
        exact ⟨child, child', .inr rfl, hc, (Except.ok.inj h).symm⟩
    | _ => cases h

/-- Nothing stands in the way in an empty object. -/
theorem exists_setPath_nil (value : Json) (path : List String) :
    ∃ out, setPath value path [] = .ok out := by
  induction path with
  | nil => exact ⟨[], rfl⟩
  | cons segment rest ih =>
    by_cases hr : rest = []
    · exact ⟨_, by rw [hr]; rfl⟩
    · obtain ⟨child, hchild⟩ := ih
      refine ⟨set segment (.obj child) [], ?_⟩
      rw [setPath.eq_3 _ _ _ _ fun h => hr h, get?_nil]
      simp only [hchild]
      rfl

/-- Writing below a field fails in an object that is there, or because of what else is there. -/
theorem setPath_fails_below {value : Json} {segment : String} {rest : List String} (hr : rest ≠ [])
    {fields : Fields} {name : String} (h : setPath value (segment :: rest) fields = .error name) :
    (∃ child, get? segment fields = some (.obj child) ∧ setPath value rest child = .error name) ∨
      ∃ old, get? segment fields = some old ∧ old.fields? = none ∧ name = segment := by
  rw [setPath.eq_3 _ _ _ _ fun h => hr h] at h
  cases hg : get? segment fields with
  | none =>
    obtain ⟨child, hchild⟩ := exists_setPath_nil value rest
    simp [hg, hchild, Except.map] at h
  | some old =>
    rw [hg] at h
    cases old with
    | obj child =>
      cases hc : setPath value rest child with
      | ok child' => simp [hc, Except.map] at h
      | error e =>
        simp only [hc] at h
        obtain rfl := Except.error.inj h
        exact .inl ⟨child, rfl, hc⟩
    | _ => exact .inr ⟨_, rfl, rfl, (Except.error.inj h).symm⟩

/-- Erasing below a field: an object is there and stays, or nothing happens. -/
theorem erasePath_below (segment : String) {rest : List String} (hr : rest ≠ [])
    (fields : Fields) :
    erasePath (segment :: rest) fields = fields ∨
      ∃ child, get? segment fields = some (.obj child) ∧
        erasePath (segment :: rest) fields =
          set segment (.obj (erasePath rest child)) fields := by
  rw [erasePath.eq_3 _ _ _ fun h => hr h]
  cases hg : get? segment fields with
  | none => exact .inl rfl
  | some old =>
    cases old with
    | obj child => exact .inr ⟨child, rfl, rfl⟩
    | _ => exact .inl rfl

/-! ## Other fields -/

section Others

variable {key segment : String} {rest : List String} {fields : Fields}

theorem get?_setPath_of_ne {value : Json} {out : Fields} (hk : segment ≠ key)
    (h : setPath value (segment :: rest) fields = .ok out) : get? key out = get? key fields := by
  by_cases hr : rest = []
  · subst hr
    rw [← Except.ok.inj h]
    exact get?_set_of_ne hk.symm value fields
  · obtain ⟨child, child', -, -, rfl⟩ := setPath_below hr h
    exact get?_set_of_ne hk.symm _ fields

theorem get?_erasePath_of_ne (hk : segment ≠ key) (hn : (names fields).Nodup) :
    get? key (erasePath (segment :: rest) fields) = get? key fields := by
  by_cases hr : rest = []
  · subst hr
    exact get?_erase_of_ne hn hk.symm
  · rcases erasePath_below segment hr fields with h | ⟨child, -, h⟩
    · rw [h]
    · rw [h, get?_set_of_ne hk.symm]

theorem erasePath_of_eq_obj {child : Fields} (hr : rest ≠ [])
    (h : get? segment fields = some (.obj child)) :
    erasePath (segment :: rest) fields = set segment (.obj (erasePath rest child)) fields := by
  rw [erasePath.eq_3 _ _ _ fun hrest => hr hrest, h]

theorem erasePath_of_ne_obj (hr : rest ≠ [])
    (h : ∀ child, get? segment fields ≠ some (.obj child)) :
    erasePath (segment :: rest) fields = fields := by
  rcases erasePath_below segment hr fields with hsame | ⟨child, hchild, -⟩
  · exact hsame
  · exact absurd hchild (h child)

theorem nodup_names_setPath {value : Json} {segments : List String} {out : Fields}
    (hn : (names fields).Nodup) (h : setPath value segments fields = .ok out) :
    (names out).Nodup := by
  match segments with
  | [] => exact Except.ok.inj h ▸ hn
  | [leaf] => exact Except.ok.inj h ▸ nodup_names_set hn leaf value
  | segment :: next :: rest =>
    obtain ⟨child, child', -, -, rfl⟩ := setPath_below (List.cons_ne_nil next rest) h
    exact nodup_names_set hn segment _

theorem nodup_names_erasePath (segments : List String) (hn : (names fields).Nodup) :
    (names (erasePath segments fields)).Nodup := by
  match segments with
  | [] => exact hn
  | [leaf] => exact nodup_names_erase hn leaf
  | segment :: next :: rest =>
    rcases erasePath_below segment (List.cons_ne_nil next rest) fields with h | ⟨child, -, h⟩
    · rwa [h]
    · rw [h]
      exact nodup_names_set hn segment _

end Others

/-! ## Plain fields -/

/-- The value of a field, unless it is an object. -/
def plain? (key : String) (fields : Fields) : Option Json :=
  (get? key fields).filter (·.fields?.isNone)

theorem plain?_eq_some_iff {key : String} {fields : Fields} {v : Json} :
    plain? key fields = some v ↔ get? key fields = some v ∧ v.fields? = none := by
  rw [plain?, Option.filter_eq_some_iff, Option.isNone_iff_eq_none]

theorem plain?_congr {key : String} {a b : Fields} (h : get? key a = get? key b) :
    plain? key a = plain? key b := by
  rw [plain?, plain?, h]

theorem plain?_eq_none {key : String} {fields child : Fields}
    (h : get? key fields = none ∨ get? key fields = some (.obj child)) :
    plain? key fields = none := by
  rcases h with h | h <;> rw [plain?, h] <;> rfl

/-- Putting an object where there was one, or nothing, leaves every plain value. -/
theorem plain?_set_obj {segment : String} {fields : Fields}
    (h : plain? segment fields = none) (key : String) (child : Fields) :
    plain? key (set segment (.obj child) fields) = plain? key fields := by
  by_cases hk : key = segment
  · rw [hk, h]
    exact plain?_eq_none (.inr (get?_set_self _ _ _))
  · exact plain?_congr (get?_set_of_ne hk _ _)

theorem plain?_setPath {key : String} {value : Json} {segments : List String}
    (hs : segments ≠ [key]) {fields out : Fields} (h : setPath value segments fields = .ok out) :
    plain? key out = plain? key fields := by
  match segments with
  | [] => exact Except.ok.inj h ▸ rfl
  | [leaf] =>
    have hne : key ≠ leaf := fun hk => hs (hk ▸ rfl)
    rw [← Except.ok.inj h]
    exact plain?_congr (get?_set_of_ne hne _ _)
  | segment :: next :: rest =>
    obtain ⟨child, child', hold, -, rfl⟩ := setPath_below (List.cons_ne_nil next rest) h
    have hprior : get? segment fields = none ∨ get? segment fields = some (.obj child) :=
      hold.imp_left And.left
    exact plain?_set_obj (plain?_eq_none hprior) key child'

theorem plain?_erasePath {key : String} {segments : List String} (hs : segments ≠ [key])
    {fields : Fields} (hn : (names fields).Nodup) :
    plain? key (erasePath segments fields) = plain? key fields := by
  match segments with
  | [] => rfl
  | [leaf] =>
    have hne : key ≠ leaf := fun hk => hs (hk ▸ rfl)
    exact plain?_congr (get?_erase_of_ne hn hne)
  | segment :: next :: rest =>
    rcases erasePath_below segment (List.cons_ne_nil next rest) fields with h | ⟨child, hchild, h⟩
    · rw [h]
    · rw [h]
      exact plain?_set_obj (plain?_eq_none (.inr hchild)) key _

/-! ## Presence -/

theorem isSome_get?_set {key : String} {fields : Fields} (h : (get? key fields).isSome)
    (segment : String) (value : Json) : (get? key (set segment value fields)).isSome := by
  rw [get?_set]
  by_cases hk : key = segment
  · rw [if_pos hk]
    rfl
  · rwa [if_neg hk]

theorem isSome_get?_setPath {key : String} {value : Json} {segments : List String}
    {fields out : Fields} (hk : (get? key fields).isSome)
    (h : setPath value segments fields = .ok out) : (get? key out).isSome := by
  match segments with
  | [] => exact Except.ok.inj h ▸ hk
  | [leaf] => exact Except.ok.inj h ▸ isSome_get?_set hk leaf value
  | segment :: next :: rest =>
    obtain ⟨child, child', -, -, rfl⟩ := setPath_below (List.cons_ne_nil next rest) h
    exact isSome_get?_set hk segment _

theorem isSome_get?_erasePath {key : String} {segments : List String} (hs : segments ≠ [key])
    {fields : Fields} (hn : (names fields).Nodup) (hk : (get? key fields).isSome) :
    (get? key (erasePath segments fields)).isSome := by
  match segments with
  | [] => exact hk
  | [leaf] =>
    have hne : key ≠ leaf := fun hkl => hs (hkl ▸ rfl)
    rw [erasePath, get?_erase_of_ne hn hne]
    exact hk
  | segment :: next :: rest =>
    rcases erasePath_below segment (List.cons_ne_nil next rest) fields with h | ⟨child, -, h⟩
    · rwa [h]
    · rw [h]
      exact isSome_get?_set hk segment _

end Fields
end QueryGateway.Json
