import Mathlib.Data.List.Nodup
import QueryGateway.Proofs.Dictionary
import QueryGateway.Proofs.Json.Fields
import QueryGateway.Response.FieldMap

/-!
What the renaming of columns keeps of a row.

A declaration is accepted if no two of its fields name one column.  So two columns with fields get
different names, and so do two without.  But nothing keeps a column without a field from having the
name that another one gets, and then one entry of the answer stands for both
(`keepsAll_iff_no_clash`).
-/

namespace QueryGateway.Response.FieldMap


open Json (Fields)

/-! ## Accepted declarations -/

section Declarations

variable {declared : Dictionary String} {m : FieldMap}

theorem add_eq_ok {columns result entries : List (String × String)}
    (h : add columns entries = .ok result) (hn : (columns.map Prod.fst).Nodup) :
    result = columns ++ entries.map Prod.swap ∧ (result.map Prod.fst).Nodup := by
  induction entries generalizing columns with
  | nil =>
    obtain rfl := Except.ok.inj h
    exact ⟨(List.append_nil columns).symm, hn⟩
  | cons entry rest ih =>
    obtain ⟨field, column⟩ := entry
    rw [add] at h
    split at h
    · cases h
    · rename_i hfresh
      have hnew : ∀ other ∈ columns.map Prod.fst, other ≠ column := by
        rw [List.forall_mem_map]
        intro other hm
        exact fun heq => bne_iff_ne.mp (List.lookup_eq_none_iff.mp hfresh other hm) heq.symm
      have hboth : ((columns ++ [(column, field)]).map Prod.fst).Nodup := by
        rw [List.map_append, List.nodup_append]
        refine ⟨hn, List.pairwise_singleton _ column, fun other hm last hlast => ?_⟩
        rw [List.mem_singleton.mp hlast]
        exact hnew other hm
      obtain ⟨hresult, hnodup⟩ := ih h hboth
      exact ⟨by rw [hresult, List.append_assoc]; rfl, hnodup⟩

/-- A declaration is accepted with its columns, each with its field, and they differ. -/
theorem columns_of_ofDeclared (h : ofDeclared declared = .ok m) :
    m.columns = declared.entries.map Prod.swap ∧ declared.values.Nodup := by
  rw [ofDeclared] at h
  cases hadd : add [] declared.entries with
  | error e =>
    rw [hadd] at h
    cases h
  | ok columns =>
    rw [hadd] at h
    obtain rfl := Except.ok.inj h
    obtain ⟨hcolumns, hnodup⟩ := add_eq_ok hadd .nil
    rw [List.nil_append] at hcolumns
    rw [hcolumns, List.map_map] at hnodup
    exact ⟨hcolumns, hnodup⟩

theorem lookup_eq_some_of_mem {columns : List (String × String)}
    (hn : (columns.map Prod.fst).Nodup) {column field : String} (h : (column, field) ∈ columns) :
    columns.lookup column = some field := by
  obtain ⟨before, after, rfl⟩ := List.append_of_mem h
  rw [List.map_append, List.map_cons, List.nodup_append] at hn
  refine List.lookup_eq_some_iff.mpr ⟨before, after, rfl, fun other hm => bne_iff_ne.mpr ?_⟩
  exact (hn.2.2 _ (List.mem_map_of_mem hm) _ List.mem_cons_self).symm

theorem fieldOf_of_mem (h : ofDeclared declared = .ok m) {entry : String × String}
    (hentry : entry ∈ declared.entries) : m.fieldOf entry.2 = entry.1 := by
  obtain ⟨hcolumns, hnodup⟩ := columns_of_ofDeclared h
  have hn : (m.columns.map Prod.fst).Nodup := by
    rw [hcolumns, List.map_map]
    exact hnodup
  have hmem : (entry.2, entry.1) ∈ m.columns := by
    rw [hcolumns]
    exact List.mem_map.mpr ⟨entry, hentry, rfl⟩
  rw [fieldOf, lookup_eq_some_of_mem hn hmem, Option.getD_some]

theorem fieldOf_of_not_mem (h : ofDeclared declared = .ok m) {column : String}
    (hcolumn : column ∉ declared.values) : m.fieldOf column = column := by
  have hnone : m.columns.lookup column = none := by
    rw [List.lookup_eq_none_iff, (columns_of_ofDeclared h).1, List.forall_mem_map]
    intro entry hentry
    exact bne_iff_ne.mpr fun heq => hcolumn (List.mem_map.mpr ⟨entry, hentry, heq.symm⟩)
  rw [fieldOf, hnone, Option.getD_none]

end Declarations

/-! ## Renamed rows -/

/-- A column of a row without a field of its own has the name that another column of the row
gets. -/
def Clashes (declared : Dictionary String) (row : Row) : Prop :=
  ∃ entry ∈ declared.entries, entry.2 ∈ Fields.names row ∧ entry.1 ∈ Fields.names row ∧
    entry.1 ∉ declared.values

instance (declared : Dictionary String) (row : Row) : Decidable (Clashes declared row) :=
  inferInstanceAs (Decidable (∃ entry ∈ declared.entries, _ ∧ _ ∧ _))

/-- A renamed row has one entry for each column of the row, in the same order, and its value is
found under the field of the column. -/
structure KeepsAll (m : FieldMap) (row : Row) : Prop where
  entries : m.rename row = row.map fun column => (m.fieldOf column.1, column.2)
  values : ∀ column ∈ row, Fields.get? (m.fieldOf column.1) (m.rename row) = some column.2

section Rows

variable {declared : Dictionary String} {m : FieldMap} {row : Row}

/-- The names of the columns of a row after renaming. -/
theorem names_renamed (m : FieldMap) (row : Row) :
    Fields.names (row.map fun column => (m.fieldOf column.1, column.2)) =
      (Fields.names row).map m.fieldOf := by
  rw [Fields.names, Fields.names, List.map_map, List.map_map]
  rfl

/-- Two columns get the same name only if the one has none of its own. -/
theorem nodup_renamed_iff (hkeys : declared.keys.Nodup) (h : ofDeclared declared = .ok m)
    (hrow : (Fields.names row).Nodup) :
    ((Fields.names row).map m.fieldOf).Nodup ↔ ¬Clashes declared row := by
  rw [List.nodup_map_iff_inj_on hrow]
  constructor
  · rintro hinj ⟨entry, hentry, hcolumn, hfield, hfree⟩
    have hsame : m.fieldOf entry.2 = m.fieldOf entry.1 := by
      rw [fieldOf_of_mem h hentry, fieldOf_of_not_mem h hfree]
    have heq := hinj _ hcolumn _ hfield hsame
    exact hfree (heq ▸ List.mem_map_of_mem hentry)
  · intro hfree
    -- A column with a field and one without would be a clash, whichever comes first.
    have hmixed : ∀ entry ∈ declared.entries, ∀ other ∈ Fields.names row,
        entry.2 ∈ Fields.names row → other ∉ declared.values → entry.1 ≠ m.fieldOf other := by
      intro entry hentry other hother hcolumn hplain heq
      rw [fieldOf_of_not_mem h hplain] at heq
      exact hfree ⟨entry, hentry, hcolumn, heq ▸ hother, heq ▸ hplain⟩
    intro a ha b hb heq
    by_cases hamem : a ∈ declared.values <;> by_cases hbmem : b ∈ declared.values
    · obtain ⟨first, hfirst, rfl⟩ := List.mem_map.mp hamem
      obtain ⟨second, hsecond, rfl⟩ := List.mem_map.mp hbmem
      rw [fieldOf_of_mem h hfirst, fieldOf_of_mem h hsecond] at heq
      rw [List.inj_on_of_nodup_map hkeys hfirst hsecond heq]
    · obtain ⟨first, hfirst, rfl⟩ := List.mem_map.mp hamem
      rw [fieldOf_of_mem h hfirst] at heq
      exact absurd heq (hmixed first hfirst b hb ha hbmem)
    · obtain ⟨second, hsecond, rfl⟩ := List.mem_map.mp hbmem
      rw [fieldOf_of_mem h hsecond] at heq
      exact absurd heq.symm (hmixed second hsecond a ha hb hamem)
    · rwa [fieldOf_of_not_mem h hamem, fieldOf_of_not_mem h hbmem] at heq

theorem keepsAll_of_nodup (hnodup : ((Fields.names row).map m.fieldOf).Nodup) :
    KeepsAll m row := by
  rw [← names_renamed] at hnodup
  have hentries := Fields.ofList_of_nodup hnodup
  refine ⟨hentries, fun column hcolumn => ?_⟩
  rw [rename, hentries]
  exact Fields.get?_eq_some_of_mem hnodup (List.mem_map.mpr ⟨column, hcolumn, rfl⟩)

theorem length_rename_lt (h : ¬((Fields.names row).map m.fieldOf).Nodup) :
    (m.rename row).length < row.length := by
  rw [← names_renamed] at h
  have hlt := Fields.length_ofList_lt h
  rwa [List.length_map] at hlt

/-- The value of a name in a renamed row is that of the last column that gets the name. -/
theorem get?_rename (m : FieldMap) (row : Row) (name : String) :
    Fields.get? name (m.rename row) =
      (row.reverse.find? fun column => m.fieldOf column.1 == name).map Prod.snd := by
  rw [rename, Fields.get?_ofList, ← List.map_reverse]
  induction row.reverse with
  | nil => rfl
  | cons column rest ih =>
    rw [List.map_cons, Fields.get?_cons, ih, List.find?_cons]
    by_cases hname : name = m.fieldOf column.1
    · rw [if_pos hname, beq_iff_eq.mpr hname.symm, Option.map_some]
    · rw [if_neg hname, beq_eq_false_iff_ne.mpr (Ne.symm hname)]

/-- Renaming with an accepted declaration keeps all of a row exactly if no column without a field
of its own has the name that another column gets.  Otherwise the row gets shorter, and of the
columns that get one name the last one gives the value. -/
theorem keepsAll_iff_no_clash (hkeys : declared.keys.Nodup) (h : ofDeclared declared = .ok m)
    (hrow : (Fields.names row).Nodup) :
    (KeepsAll m row ↔ ¬Clashes declared row) ∧
      (Clashes declared row → (m.rename row).length < row.length) ∧
      ∀ name, Fields.get? name (m.rename row) =
        (row.reverse.find? fun column => m.fieldOf column.1 == name).map Prod.snd := by
  have hiff := nodup_renamed_iff hkeys h hrow
  have hshorter (hclash : Clashes declared row) : (m.rename row).length < row.length :=
    length_rename_lt fun hnodup => hiff.mp hnodup hclash
  refine ⟨⟨fun hkeeps hclash => ?_, fun hfree => keepsAll_of_nodup (hiff.mpr hfree)⟩, hshorter,
    get?_rename m row⟩
  have hlt := hshorter hclash
  rw [hkeeps.entries, List.length_map] at hlt
  exact Nat.lt_irrefl _ hlt

/-- Columns that swap their names are kept.  A column without a field is lost where another one
gets its name. -/
theorem keepsAll_swapped :
    let declared := Dictionary.ofList [("email", "mail"), ("id", "user_id"), ("user_id", "id")]
    let m : FieldMap := ⟨[("mail", "email"), ("user_id", "id"), ("id", "user_id")]⟩
    let swapped : Row := [("id", .nat 1), ("user_id", .nat 2), ("mail", .str "a@b")]
    let clashing : Row := [("email", .str "c@d"), ("id", .nat 1), ("mail", .str "a@b")]
    declared.keys.Nodup ∧ ofDeclared declared = .ok m ∧ (Fields.names swapped).Nodup ∧
      (Fields.names clashing).Nodup ∧ KeepsAll m swapped ∧ ¬KeepsAll m clashing ∧
      m.rename clashing = [("email", .str "a@b"), ("user_id", .nat 1)] := by
  intro declared m swapped clashing
  have hkeys : declared.keys.Nodup := Dictionary.nodup_keys_ofList _
  have hdeclared : ofDeclared declared = .ok m := by decide +kernel
  have hswapped : (Fields.names swapped).Nodup := by decide
  have hclashing : (Fields.names clashing).Nodup := by decide
  have hfree : ¬Clashes declared swapped := by decide +kernel
  have hclash : Clashes declared clashing := by decide +kernel
  exact ⟨hkeys, hdeclared, hswapped, hclashing,
    (keepsAll_iff_no_clash hkeys hdeclared hswapped).1.mpr hfree,
    fun hkeeps => (keepsAll_iff_no_clash hkeys hdeclared hclashing).1.mp hkeeps hclash, rfl⟩

end Rows

end QueryGateway.Response.FieldMap
