import QueryGateway.Dictionary

/-!
Reading a dictionary after an entry was set, and the order of its names.
-/

namespace QueryGateway.Dictionary

variable {α : Type}

theorem lookup_insertEntry (k key : String) (value : α) (entries : List (String × α)) :
    (insertEntry key value entries).lookup k =
      if k = key then some value else entries.lookup k := by
  by_cases hk : k = key
  · subst hk
    rw [if_pos rfl]
    induction entries with
    | nil => simp [insertEntry]
    | cons entry rest ih =>
      rw [insertEntry]
      by_cases he : k = entry.1
      · simp [he]
      · rw [if_neg he]
        by_cases hlt : k < entry.1
        · simp [hlt]
        · rw [if_neg hlt, List.lookup_cons, beq_eq_false_iff_ne.mpr he]
          exact ih
  · have hne : (k == key) = false := beq_eq_false_iff_ne.mpr hk
    rw [if_neg hk]
    induction entries with
    | nil => rw [insertEntry, List.lookup_cons, hne]
    | cons entry rest ih =>
      rw [insertEntry]
      by_cases he : key = entry.1
      · rw [if_pos he, List.lookup_cons, List.lookup_cons, hne, ← he, hne]
      · rw [if_neg he]
        by_cases hlt : key < entry.1
        · rw [if_pos hlt, List.lookup_cons, hne]
        · rw [if_neg hlt, List.lookup_cons, List.lookup_cons, ih]

theorem get?_insert (k key : String) (value : α) (d : Dictionary α) :
    (d.insert key value).get? k = if k = key then some value else d.get? k :=
  lookup_insertEntry k key value d.entries

theorem get?_foldl_insert (f : String → α) (names : List String) (d : Dictionary α) (k : String) :
    (names.foldl (fun d name => d.insert name (f name)) d).get? k =
      if k ∈ names then some (f k) else d.get? k := by
  induction names generalizing d with
  | nil => rw [List.foldl_nil, if_neg List.not_mem_nil]
  | cons name names ih =>
    rw [List.foldl_cons, ih, get?_insert]
    by_cases hmem : k ∈ names
    · rw [if_pos hmem, if_pos (List.mem_cons_of_mem _ hmem)]
    · rw [if_neg hmem]
      by_cases hname : k = name
      · rw [if_pos hname, if_pos (hname ▸ List.mem_cons_self), hname]
      · rw [if_neg hname, if_neg (List.not_mem_cons_of_ne_of_not_mem hname hmem)]

/-- The entries of names that have their values from a function. -/
theorem get?_ofList_zip (f : String → α) (names : List String) (k : String) :
    (ofList (names.zip (names.map f))).get? k = if k ∈ names then some (f k) else none := by
  have hzip : names.zip (names.map f) = names.map fun name => (name, f name) := by
    induction names with
    | nil => rfl
    | cons name names ih => rw [List.map_cons, List.zip_cons_cons, ih, List.map_cons]
  rw [ofList, hzip, List.foldl_map]
  exact get?_foldl_insert f names empty k

/-! ## Names in order -/

theorem mem_insertEntry {key : String} {value : α} {entries : List (String × α)}
    {entry : String × α} (h : entry ∈ insertEntry key value entries) :
    entry = (key, value) ∨ entry ∈ entries := by
  induction entries with
  | nil => exact .inl (List.mem_singleton.mp h)
  | cons first rest ih =>
    rw [insertEntry] at h
    split at h
    · exact (List.mem_cons.mp h).imp_right (List.mem_cons_of_mem _)
    · split at h
      · exact List.mem_cons.mp h
      · rcases List.mem_cons.mp h with rfl | hrest
        · exact .inr List.mem_cons_self
        · exact (ih hrest).imp_right (List.mem_cons_of_mem _)

theorem insertEntry_sorted (key : String) (value : α) {entries : List (String × α)}
    (h : entries.Pairwise (·.1 < ·.1)) : (insertEntry key value entries).Pairwise (·.1 < ·.1) := by
  induction h with
  | nil => exact List.pairwise_singleton _ _
  | @cons first rest hfirst hrest ih =>
    rw [insertEntry]
    split
    · rename_i hkey
      exact .cons (by rwa [← hkey] at hfirst) hrest
    · rename_i hkey
      split
      · rename_i hlt
        refine .cons ?_ (.cons hfirst hrest)
        exact List.forall_mem_cons.mpr ⟨hlt, fun entry hm => String.lt_trans hlt (hfirst entry hm)⟩
      · rename_i hge
        refine .cons (fun entry hm => ?_) ih
        rcases mem_insertEntry hm with rfl | hold
        · -- Two names that are not in order one way are in order the other way.
          exact Classical.byContradiction fun hle => hkey (String.le_antisymm hle hge)
        · exact hfirst entry hold

/-- The names of a dictionary that is made of entries differ. -/
theorem nodup_keys_ofList (entries : List (String × α)) : (ofList entries).keys.Nodup := by
  suffices hsorted : ∀ d : Dictionary α, d.entries.Pairwise (·.1 < ·.1) →
      (entries.foldl (fun d entry => d.insert entry.1 entry.2) d).entries.Pairwise (·.1 < ·.1) from
    List.pairwise_map.mpr ((hsorted empty .nil).imp String.ne_of_lt)
  induction entries with
  | nil => exact fun _ hd => hd
  | cons entry rest ih => exact fun d hd => ih _ (insertEntry_sorted entry.1 entry.2 hd)

theorem lookup_eq_some_iff {entries : List (String × α)} (h : entries.Pairwise (·.1 < ·.1))
    {k : String} {value : α} : entries.lookup k = some value ↔ (k, value) ∈ entries := by
  induction h with
  | nil => exact iff_of_false nofun List.not_mem_nil
  | @cons first rest hfirst _ ih =>
    obtain ⟨key, v⟩ := first
    rw [List.lookup_cons, List.mem_cons, Prod.mk.injEq]
    by_cases hk : k = key
    · subst hk
      have hnot : (k, value) ∉ rest := fun hmem => String.lt_irrefl k (hfirst _ hmem)
      rw [beq_self_eq_true, or_iff_left hnot, and_iff_right rfl]
      exact ⟨fun h => (Option.some.inj h).symm, fun h => congrArg some h.symm⟩
    · rw [beq_eq_false_iff_ne.mpr hk, or_iff_right fun h => hk h.1]
      exact ih

/-- Dictionaries in order are equal if they have the same values. -/
theorem eq_of_sorted {d d' : Dictionary α} (h : d.entries.Pairwise (·.1 < ·.1))
    (h' : d'.entries.Pairwise (·.1 < ·.1)) (hget : ∀ k, d.get? k = d'.get? k) : d = d' := by
  have hperm : d.entries.Perm d'.entries := by
    refine (List.perm_ext_iff_of_nodup (h.imp ?_) (h'.imp ?_)).mpr fun entry => ?_
    · rintro _ _ hlt rfl
      exact String.lt_irrefl _ hlt
    · rintro _ _ hlt rfl
      exact String.lt_irrefl _ hlt
    · rw [← lookup_eq_some_iff h, ← lookup_eq_some_iff h']
      exact iff_of_eq (congrArg (· = some entry.2) (hget entry.1))
  have hentries := hperm.eq_of_pairwise
    (fun a b _ _ hab hba => absurd (String.lt_trans hab hba) (String.lt_irrefl _)) h h'
  cases d
  cases d'
  exact congrArg Dictionary.mk hentries

end QueryGateway.Dictionary
