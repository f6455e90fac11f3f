import QueryGateway.Proofs.Json.Equality

/-!
Values whose fields are written in another order.

Equality looks for fields by name, so nothing changes for it when the fields of an object
change places, at any depth of the value that it compares with (`Rearranged.same_eq`).
-/

namespace QueryGateway.Json

/-- One value is another with the fields of one object in another order, anywhere in it. -/
inductive Rearranged : Json → Json → Prop
  | fields {fields others : Fields} (perm : fields.Perm others) :
    Rearranged (.obj fields) (.obj others)
  | field {before after : Fields} {key : String} {v w : Json} (inside : Rearranged v w) :
    Rearranged (.obj (before ++ (key, v) :: after)) (.obj (before ++ (key, w) :: after))
  | item {before after : List Json} {v w : Json} (inside : Rearranged v w) :
    Rearranged (.arr (before ++ v :: after)) (.arr (before ++ w :: after))

theorem Fields.names_replace (before after : Fields) (key : String) (v w : Json) :
    names (before ++ (key, w) :: after) = names (before ++ (key, v) :: after) := by
  simp [names]

theorem Fields.any_get?_replace {v w : Json} {p : Json → Bool} (h : p w = p v)
    (before after : Fields) (key name : String) :
    (get? name (before ++ (key, w) :: after)).any p =
      (get? name (before ++ (key, v) :: after)).any p := by
  induction before with
  | nil =>
    rw [List.nil_append, List.nil_append, get?_cons, get?_cons]
    by_cases hname : name = key
    · rw [if_pos hname, if_pos hname]
      exact h
    · rw [if_neg hname, if_neg hname]
  | cons field before ih =>
    rw [List.cons_append, List.cons_append, get?_cons, get?_cons]
    by_cases hname : name = field.1
    · rw [if_pos hname, if_pos hname]
    · rw [if_neg hname, if_neg hname, ih]

theorem namesDiffer_at {before after : Fields} {key : String} {v : Json}
    (h : (Json.obj (before ++ (key, v) :: after)).namesDiffer) : v.namesDiffer :=
  (namesDiffer_obj.mp h).2 (key, v) (List.mem_append_right before List.mem_cons_self)

theorem namesDiffer_atItem {before after : List Json} {v : Json}
    (h : (Json.arr (before ++ v :: after)).namesDiffer) : v.namesDiffer :=
  namesDiffer_arr.mp h v (List.mem_append_right before List.mem_cons_self)

theorem namesDiffer_replace {before after : Fields} {key : String} {v w : Json}
    (hw : v.namesDiffer → w.namesDiffer)
    (h : (Json.obj (before ++ (key, v) :: after)).namesDiffer) :
    (Json.obj (before ++ (key, w) :: after)).namesDiffer := by
  obtain ⟨hnames, hvalues⟩ := namesDiffer_obj.mp h
  refine namesDiffer_obj.mpr ⟨Fields.names_replace before after key v w ▸ hnames, ?_⟩
  rw [List.forall_mem_append, List.forall_mem_cons] at hvalues ⊢
  exact ⟨hvalues.1, hw hvalues.2.1, hvalues.2.2⟩

theorem namesDiffer_replaceItem {before after : List Json} {v w : Json}
    (hw : v.namesDiffer → w.namesDiffer) (h : (Json.arr (before ++ v :: after)).namesDiffer) :
    (Json.arr (before ++ w :: after)).namesDiffer := by
  have hitems := namesDiffer_arr.mp h
  refine namesDiffer_arr.mpr ?_
  rw [List.forall_mem_append, List.forall_mem_cons] at hitems ⊢
  exact ⟨hitems.1, hw hitems.2.1, hitems.2.2⟩

theorem namesDiffer_perm {fields others : Fields} (perm : fields.Perm others)
    (h : (Json.obj fields).namesDiffer) : (Json.obj others).namesDiffer := by
  obtain ⟨hnames, hvalues⟩ := namesDiffer_obj.mp h
  refine namesDiffer_obj.mpr ⟨(perm.map Prod.fst).nodup_iff.mp hnames, ?_⟩
  intro field hmem
  exact hvalues field (perm.mem_iff.mpr hmem)

theorem Rearranged.namesDiffer {v w : Json} (h : v.Rearranged w) (hv : v.namesDiffer) :
    w.namesDiffer := by
  induction h with
  | fields perm => exact namesDiffer_perm perm hv
  | field _ ih => exact namesDiffer_replace ih hv
  | item _ ih => exact namesDiffer_replaceItem ih hv

/-! ## Equality -/

theorem sameFields_eq_all (a b : Fields) :
    sameFields a b = a.all fun field => (Fields.get? field.1 b).any field.2.same := by
  induction a with
  | nil => rfl
  | cons field rest ih =>
    obtain ⟨key, value⟩ := field
    rw [sameFields, List.all_cons, ih]
    cases Fields.get? key b <;> rfl

theorem sameItems_replace {v w : Json} (h : ∀ a : Json, a.same w = a.same v)
    (items before after : List Json) :
    sameItems items (before ++ w :: after) = sameItems items (before ++ v :: after) := by
  induction before generalizing items with
  | nil =>
    cases items with
    | nil => rfl
    | cons item rest => rw [List.nil_append, List.nil_append, sameItems, sameItems, h]
  | cons first before ih =>
    cases items with
    | nil => rfl
    | cons item rest => rw [List.cons_append, List.cons_append, sameItems, sameItems, ih]

/-- Equality does not see in which order the fields are that it compares with. -/
theorem Rearranged.same_eq {v w : Json} (h : v.Rearranged w) (hv : v.namesDiffer) (a : Json) :
    a.same w = a.same v := by
  induction h generalizing a with
  | @fields fields others perm =>
    cases a with
    | obj own =>
      have hget (name : String) : Fields.get? name others = Fields.get? name fields :=
        (Fields.get?_perm perm (namesDiffer_obj.mp hv).1 name).symm
      simp only [same, sameFields_eq_all, hget, perm.length_eq]
    | _ => rfl
  | @field before after key v w _ ih =>
    cases a with
    | obj own =>
      have hinside := namesDiffer_at hv
      have hany (field : String × Json) := Fields.any_get?_replace
        (ih hinside field.2) before after key field.1
      simp only [same, sameFields_eq_all, hany, List.length_append, List.length_cons]
    | _ => rfl
  | @item before after v w _ ih =>
    cases a with
    | arr own =>
      have hinside := namesDiffer_atItem hv
      rw [same, same, sameItems_replace (ih hinside)]
    | _ => rfl

end QueryGateway.Json
