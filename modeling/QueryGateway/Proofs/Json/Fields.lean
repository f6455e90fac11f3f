import Mathlib.Data.List.Induction
import Mathlib.Data.List.Perm.Subperm
import QueryGateway.Json.Basic

/-!
Reading, setting and erasing fields.

Setting is read back without any condition, and of entries that are set one after the other the
last of a name is read.  Erasing moves the last field into the gap, so it only keeps the values of
other names when no name stands twice: then it permutes the fields that are left, and reading does
not see their order.
-/

namespace QueryGateway.Json.Fields

/-- The names of fields, in order. -/
def names (fields : Fields) : List String := fields.map (·.1)

@[simp] theorem names_nil : names [] = [] := rfl

@[simp] theorem names_cons (k : String) (v : Json) (rest : Fields) :
    names ((k, v) :: rest) = k :: names rest := rfl

@[simp] theorem get?_nil (key : String) : get? key [] = none := rfl

theorem get?_cons (key k : String) (v : Json) (rest : Fields) :
    get? key ((k, v) :: rest) = if key = k then some v else get? key rest := by
  show (match key == k with | true => some v | false => List.lookup key rest) = _
  by_cases h : key = k
  · rw [if_pos h, beq_iff_eq.mpr h]
  · rw [if_neg h, beq_eq_false_iff_ne.mpr h]
    rfl

@[simp] theorem get?_cons_self (key : String) (v : Json) (rest : Fields) :
    get? key ((key, v) :: rest) = some v := by
  rw [get?_cons, if_pos rfl]

theorem get?_cons_of_ne {key k : String} (h : key ≠ k) (v : Json) (rest : Fields) :
    get? key ((k, v) :: rest) = get? key rest := by
  rw [get?_cons, if_neg h]

theorem mem_of_get?_eq_some {key : String} {v : Json} {fields : Fields}
    (h : get? key fields = some v) : (key, v) ∈ fields := by
  induction fields with
  | nil => simp at h
  | cons field rest ih =>
    obtain ⟨k, w⟩ := field
    rw [get?_cons] at h
    by_cases hk : key = k
    · rw [if_pos hk, Option.some.injEq] at h
      rw [hk, h]
      exact List.mem_cons_self
    · rw [if_neg hk] at h
      exact List.mem_cons_of_mem _ (ih h)

theorem get?_eq_none_iff {key : String} {fields : Fields} :
    get? key fields = none ↔ key ∉ names fields := by
  induction fields with
  | nil => simp
  | cons field rest ih =>
    obtain ⟨k, w⟩ := field
    rw [get?_cons, names_cons, List.mem_cons]
    by_cases hk : key = k
    · simp [hk]
    · simp [hk, ih]

theorem has_eq_isSome (key : String) (fields : Fields) :
    has key fields = (get? key fields).isSome := by
  induction fields with
  | nil => rfl
  | cons field rest ih =>
    obtain ⟨k, w⟩ := field
    rw [get?_cons, has, List.any_cons]
    by_cases hk : key = k
    · simp [hk]
    · rw [if_neg hk, beq_false_of_ne (Ne.symm hk), Bool.false_or]
      exact ih

theorem get?_eq_some_of_mem {key : String} {v : Json} {fields : Fields}
    (hn : (names fields).Nodup) (h : (key, v) ∈ fields) : get? key fields = some v := by
  induction fields with
  | nil => cases h
  | cons field rest ih =>
    obtain ⟨k, w⟩ := field
    rw [names_cons, List.nodup_cons] at hn
    rcases List.mem_cons.mp h with heq | hmem
    · obtain ⟨rfl, rfl⟩ := Prod.mk.inj heq
      exact get?_cons_self _ _ _
    · have hne : key ≠ k := by
        rintro rfl
        exact hn.1 (List.mem_map.mpr ⟨_, hmem, rfl⟩)
      rw [get?_cons_of_ne hne]
      exact ih hn.2 hmem

/-- Reading does not see the order of fields whose names differ. -/
theorem get?_perm {a b : Fields} (h : a.Perm b) (hn : (names a).Nodup) (key : String) :
    get? key a = get? key b := by
  have hnb : (names b).Nodup := (h.map Prod.fst).nodup_iff.mp hn
  cases ha : get? key a with
  | some v => exact (get?_eq_some_of_mem hnb (h.subset (mem_of_get?_eq_some ha))).symm
  | none =>
    have hnot := get?_eq_none_iff.mp ha
    exact (get?_eq_none_iff.mpr fun hm => hnot ((h.map Prod.fst).mem_iff.mpr hm)).symm

/-! ## Setting -/

theorem get?_set (k key : String) (value : Json) (fields : Fields) :
    get? k (set key value fields) = if k = key then some value else get? k fields := by
  induction fields with
  | nil => rw [set, get?_cons]
  | cons field rest ih =>
    obtain ⟨l, w⟩ := field
    rw [set]
    by_cases hl : l = key
    · rw [if_pos hl, get?_cons, get?_cons, hl]
      by_cases hk : k = key
      · rw [if_pos hk, if_pos hk]
      · rw [if_neg hk, if_neg hk, if_neg hk]
    · rw [if_neg hl, get?_cons, ih, get?_cons]
      by_cases hk : k = key
      · rw [if_pos hk, if_neg (fun h => hl (h.symm.trans hk)), if_pos hk]
      · rw [if_neg hk, if_neg hk]

@[simp] theorem get?_set_self (key : String) (value : Json) (fields : Fields) :
    get? key (set key value fields) = some value := by
  rw [get?_set, if_pos rfl]

theorem get?_set_of_ne {k key : String} (h : k ≠ key) (value : Json) (fields : Fields) :
    get? k (set key value fields) = get? k fields := by
  rw [get?_set, if_neg h]

theorem set_set (key : String) (value old : Json) (fields : Fields) :
    set key value (set key old fields) = set key value fields := by
  induction fields with
  | nil => exact if_pos rfl
  | cons field rest ih =>
    obtain ⟨k, v⟩ := field
    by_cases hk : k = key
    · rw [set, set, if_pos hk, if_pos hk, set, if_pos hk]
    · rw [set, set, if_neg hk, if_neg hk, set, if_neg hk, ih]

theorem mem_set {key : String} {value : Json} {fields : Fields} {field : String × Json}
    (h : field ∈ set key value fields) : field = (key, value) ∨ field ∈ fields := by
  induction fields with
  | nil => exact .inl (List.mem_singleton.mp h)
  | cons other rest ih =>
    obtain ⟨l, w⟩ := other
    rw [set] at h
    by_cases hl : l = key
    · rw [if_pos hl] at h
      rcases List.mem_cons.mp h with heq | hmem
      · exact .inl (hl ▸ heq)
      · exact .inr (List.mem_cons_of_mem _ hmem)
    · rw [if_neg hl] at h
      rcases List.mem_cons.mp h with heq | hmem
      · exact .inr (heq ▸ List.mem_cons_self)
      · exact (ih hmem).imp_right (List.mem_cons_of_mem _)

theorem mem_names_set {k key : String} {value : Json} {fields : Fields}
    (h : k ∈ names (set key value fields)) : k = key ∨ k ∈ names fields := by
  obtain ⟨field, hmem, rfl⟩ := List.mem_map.mp h
  rcases mem_set hmem with rfl | hold
  · exact .inl rfl
  · exact .inr (List.mem_map.mpr ⟨field, hold, rfl⟩)

theorem nodup_names_set {fields : Fields} (hn : (names fields).Nodup) (key : String)
    (value : Json) : (names (set key value fields)).Nodup := by
  induction fields with
  | nil => simp [set]
  | cons other rest ih =>
    obtain ⟨l, w⟩ := other
    rw [set]
    by_cases hl : l = key
    · rw [if_pos hl]
      exact hn
    · rw [names_cons, List.nodup_cons] at hn
      rw [if_neg hl, names_cons, List.nodup_cons]
      refine ⟨fun hm => ?_, ih hn.2⟩
      rcases mem_names_set hm with h | h
      · exact hl h
      · exact hn.1 h

theorem set_of_not_mem {key : String} {fields : Fields} (h : key ∉ names fields) (value : Json) :
    set key value fields = fields ++ [(key, value)] := by
  induction fields with
  | nil => rfl
  | cons other rest ih =>
    obtain ⟨l, w⟩ := other
    rw [names_cons, List.mem_cons, not_or] at h
    rw [set, if_neg fun hl => h.1 hl.symm, ih h.2, List.cons_append]

/-! ## Entries set one after the other -/

theorem ofList_concat (entries : List (String × Json)) (entry : String × Json) :
    ofList (entries ++ [entry]) = set entry.1 entry.2 (ofList entries) :=
  List.foldl_append

/-- The last value of a name stays. -/
theorem get?_ofList (key : String) (entries : List (String × Json)) :
    get? key (ofList entries) = get? key entries.reverse := by
  induction entries using List.reverseRecOn with
  | nil => rfl
  | append_singleton entries entry ih =>
    rw [ofList_concat, get?_set, List.reverse_append, List.reverse_singleton,
      List.singleton_append, get?_cons, ih]

theorem mem_names_ofList {key : String} {entries : List (String × Json)} :
    key ∈ names (ofList entries) ↔ key ∈ names entries := by
  have h := get?_ofList key entries
  rw [← not_iff_not, ← get?_eq_none_iff, ← get?_eq_none_iff, h, get?_eq_none_iff,
    get?_eq_none_iff]
  simp [names]

theorem ofList_of_nodup {entries : List (String × Json)} (h : (names entries).Nodup) :
    ofList entries = entries := by
  induction entries using List.reverseRecOn with
  | nil => rfl
  | append_singleton entries entry ih =>
    rw [names, List.map_append, List.map_singleton, List.nodup_append] at h
    have hfresh : entry.1 ∉ names entries := fun hm =>
      h.2.2 _ hm _ (List.mem_singleton_self _) rfl
    rw [ofList_concat, ih h.1, set_of_not_mem hfresh]

theorem nodup_names_ofList (entries : List (String × Json)) : (names (ofList entries)).Nodup := by
  induction entries using List.reverseRecOn with
  | nil => exact .nil
  | append_singleton entries entry ih =>
    rw [ofList_concat]
    exact nodup_names_set ih entry.1 entry.2

/-- A repeated name makes one entry of several. -/
theorem length_ofList_lt {entries : List (String × Json)} (h : ¬(names entries).Nodup) :
    (ofList entries).length < entries.length := by
  have hsubset : names (ofList entries) ⊆ names entries := fun _ hkey => mem_names_ofList.mp hkey
  have hsubperm := (nodup_names_ofList entries).subperm hsubset
  have hle : (ofList entries).length ≤ entries.length := by simpa [names] using hsubperm.length_le
  refine Nat.lt_of_le_of_ne hle fun heq => h ?_
  have hperm := hsubperm.perm_of_length_le (by simp [names, heq])
  exact hperm.nodup_iff.mp (nodup_names_ofList entries)

/-! ## Erasing -/

/-- The last field in the place of an erased one: the same fields in another order. -/
theorem erase_perm (key : String) (fields : Fields) :
    (erase key fields).Perm (fields.eraseP (·.1 == key)) := by
  induction fields with
  | nil => exact .refl _
  | cons field rest ih =>
    obtain ⟨k, v⟩ := field
    rw [erase]
    by_cases hk : k = key
    · rw [if_pos hk, List.eraseP_cons_of_pos (by simpa using hk)]
      cases hl : rest.getLast? with
      | none => rw [List.getLast?_eq_none_iff.mp hl]
      | some last =>
        obtain ⟨front, rfl⟩ := List.getLast?_eq_some_iff.mp hl
        rw [List.dropLast_concat]
        exact (List.perm_append_singleton last front).symm
    · rw [if_neg hk, List.eraseP_cons_of_neg (by simpa using hk)]
      exact ih.cons _

theorem mem_of_mem_erase {key : String} {fields : Fields} {field : String × Json}
    (h : field ∈ erase key fields) : field ∈ fields :=
  List.mem_of_mem_eraseP ((erase_perm key fields).subset h)

theorem nodup_names_erase {fields : Fields} (hn : (names fields).Nodup) (key : String) :
    (names (erase key fields)).Nodup := by
  refine ((erase_perm key fields).map Prod.fst).nodup_iff.mpr ?_
  exact hn.sublist (List.eraseP_sublist.map Prod.fst)

theorem get?_eraseP_of_ne {k key : String} (h : k ≠ key) (fields : Fields) :
    get? k (fields.eraseP (·.1 == key)) = get? k fields := by
  induction fields with
  | nil => rfl
  | cons field rest ih =>
    obtain ⟨l, v⟩ := field
    by_cases hl : l = key
    · rw [List.eraseP_cons_of_pos (by simpa using hl), get?_cons_of_ne (hl ▸ h)]
    · rw [List.eraseP_cons_of_neg (by simpa using hl), get?_cons, get?_cons, ih]

theorem get?_erase_of_ne {k key : String} {fields : Fields} (hn : (names fields).Nodup)
    (h : k ≠ key) : get? k (erase key fields) = get? k fields := by
  rw [get?_perm (erase_perm key fields) (nodup_names_erase hn key), get?_eraseP_of_ne h]

theorem get?_erase_eq_none {key k : String} {fields : Fields} (h : get? k fields = none) :
    get? k (erase key fields) = none := by
  rw [get?_eq_none_iff] at h ⊢
  intro hmem
  obtain ⟨field, hfield, rfl⟩ := List.mem_map.mp hmem
  exact h (List.mem_map.mpr ⟨field, mem_of_mem_erase hfield, rfl⟩)

end QueryGateway.Json.Fields
