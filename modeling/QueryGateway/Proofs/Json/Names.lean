import QueryGateway.Json.Source
import QueryGateway.Proofs.Json.Path

/-!
Values in which no object has two fields of one name.

A list of fields can repeat a name, a JSON object cannot.  Every value that a JSON text
stands for is of this kind (`namesDiffer_of_value?`), and writing and erasing at a path
keep it so.
-/

namespace QueryGateway.Json

/-- Induction over a value with a hypothesis for each of its parts. -/
@[elab_as_elim]
theorem partsInduction {motive : Json → Prop} (null : motive .null)
    (bool : ∀ b, motive (.bool b)) (num : ∀ n, motive (.num n)) (str : ∀ s, motive (.str s))
    (arr : ∀ items, (∀ v ∈ items, motive v) → motive (.arr items))
    (obj : ∀ fields, (∀ field ∈ fields, motive field.2) → motive (.obj fields))
    (v : Json) : motive v := by
  match v with
  | .null => exact null
  | .bool b => exact bool b
  | .num n => exact num n
  | .str s => exact str s
  | .arr items =>
    exact arr items fun v _ => partsInduction null bool num str arr obj v
  | .obj fields =>
    exact obj fields fun field _ => partsInduction null bool num str arr obj field.2
termination_by sizeOf v
decreasing_by
  · have := List.sizeOf_lt_of_mem ‹v ∈ items›
    simp only [Json.arr.sizeOf_spec]
    omega
  · have h₁ := List.sizeOf_lt_of_mem ‹field ∈ fields›
    have h₂ : sizeOf field.2 < sizeOf field := by
      obtain ⟨k, w⟩ := field
      simp only [Prod.mk.sizeOf_spec]
      omega
    simp only [Json.obj.sizeOf_spec]
    omega

mutual
/-- Whether the names of fields differ in every object of a value. -/
def namesDiffer : Json → Bool
  | .arr items => namesDifferEach items
  | .obj fields => decide (Fields.names fields).Nodup && namesDifferIn fields
  | _ => true

/-- Whether names differ in each of several values. -/
def namesDifferEach : List Json → Bool
  | [] => true
  | item :: rest => item.namesDiffer && namesDifferEach rest

/-- Whether names differ in the values of fields. -/
def namesDifferIn : List (String × Json) → Bool
  | [] => true
  | (_, value) :: rest => value.namesDiffer && namesDifferIn rest
end

theorem namesDifferEach_iff {items : List Json} :
    namesDifferEach items = true ↔ ∀ v ∈ items, v.namesDiffer := by
  induction items with
  | nil => simp [namesDifferEach]
  | cons item rest ih => simp [namesDifferEach, ih]

theorem namesDifferIn_iff {fields : Fields} :
    namesDifferIn fields = true ↔ ∀ field ∈ fields, field.2.namesDiffer := by
  induction fields with
  | nil => simp [namesDifferIn]
  | cons field rest ih => simp [namesDifferIn, ih]

theorem namesDiffer_arr {items : List Json} :
    (Json.arr items).namesDiffer ↔ ∀ v ∈ items, v.namesDiffer := by
  rw [namesDiffer, namesDifferEach_iff]

theorem namesDiffer_obj {fields : Fields} :
    (Json.obj fields).namesDiffer ↔
      (Fields.names fields).Nodup ∧ ∀ field ∈ fields, field.2.namesDiffer := by
  rw [namesDiffer, Bool.and_eq_true, decide_eq_true_iff, namesDifferIn_iff]

theorem namesDiffer_of_get? {fields : Fields} (hf : (Json.obj fields).namesDiffer)
    {key : String} {v : Json} (h : Fields.get? key fields = some v) : v.namesDiffer :=
  (namesDiffer_obj.mp hf).2 _ (Fields.mem_of_get?_eq_some h)

theorem namesDiffer_walk {v w : Json} (hv : v.namesDiffer) {path : List String}
    (h : v.walk path = some w) : w.namesDiffer := by
  fun_induction walk v path with
  | case1 v => exact Option.some.inj h ▸ hv
  | case2 fields segment rest ih =>
    obtain ⟨child, hchild, hw⟩ := Option.bind_eq_some_iff.mp h
    exact ih child (namesDiffer_of_get? hv hchild) hw
  | case3 items segment rest ih =>
    obtain ⟨child, hchild, hw⟩ := Option.bind_eq_some_iff.mp h
    obtain ⟨i, -, hi⟩ := Option.bind_eq_some_iff.mp hchild
    exact ih child (namesDiffer_arr.mp hv child (List.mem_of_getElem? hi)) hw
  | case4 => cases h

namespace Fields

theorem namesDiffer_set {fields : Fields} (hf : (Json.obj fields).namesDiffer) (key : String)
    {value : Json} (hv : value.namesDiffer) : (Json.obj (set key value fields)).namesDiffer := by
  obtain ⟨hn, hvs⟩ := namesDiffer_obj.mp hf
  refine namesDiffer_obj.mpr ⟨nodup_names_set hn key value, fun field hm => ?_⟩
  rcases mem_set hm with rfl | hold
  · exact hv
  · exact hvs field hold

theorem namesDiffer_erase {fields : Fields} (hf : (Json.obj fields).namesDiffer)
    (key : String) : (Json.obj (erase key fields)).namesDiffer := by
  obtain ⟨hn, hvs⟩ := namesDiffer_obj.mp hf
  exact namesDiffer_obj.mpr
    ⟨nodup_names_erase hn key, fun field hm => hvs field (mem_of_mem_erase hm)⟩

theorem namesDiffer_sublist {a b : Fields} (h : a.Sublist b)
    (hb : (Json.obj b).namesDiffer) : (Json.obj a).namesDiffer := by
  obtain ⟨hn, hvs⟩ := namesDiffer_obj.mp hb
  exact namesDiffer_obj.mpr
    ⟨hn.sublist (h.map Prod.fst), fun field hm => hvs field (h.subset hm)⟩

theorem namesDiffer_nil : (Json.obj []).namesDiffer := rfl

theorem namesDiffer_setPath {value : Json} (hv : value.namesDiffer) {segments : List String}
    {fields out : Fields} (hf : (Json.obj fields).namesDiffer)
    (h : setPath value segments fields = .ok out) : (Json.obj out).namesDiffer := by
  induction segments generalizing fields out with
  | nil => exact Except.ok.inj h ▸ hf
  | cons segment rest ih =>
    by_cases hr : rest = []
    · subst hr
      exact Except.ok.inj h ▸ namesDiffer_set hf segment hv
    · obtain ⟨child, child', hold, hc, rfl⟩ := setPath_below hr h
      have hchild : (Json.obj child).namesDiffer := by
        rcases hold with ⟨-, rfl⟩ | hold
        · exact namesDiffer_nil
        · exact namesDiffer_of_get? hf hold
      exact namesDiffer_set hf segment (ih hchild hc)

theorem namesDiffer_erasePath (segments : List String) {fields : Fields}
    (hf : (Json.obj fields).namesDiffer) :
    (Json.obj (erasePath segments fields)).namesDiffer := by
  induction segments generalizing fields with
  | nil => exact hf
  | cons segment rest ih =>
    by_cases hr : rest = []
    · subst hr
      exact namesDiffer_erase hf segment
    · rcases erasePath_below segment hr fields with h | ⟨child, hchild, h⟩
      · exact h.symm ▸ hf
      · rw [h]
        exact namesDiffer_set hf segment (ih (namesDiffer_of_get? hf hchild))

theorem namesDiffer_ofList {entries : List (String × Json)}
    (h : ∀ entry ∈ entries, entry.2.namesDiffer) : (Json.obj (ofList entries)).namesDiffer := by
  suffices hacc : ∀ fields : Fields, (Json.obj fields).namesDiffer →
      (Json.obj (entries.foldl (fun fields entry => set entry.1 entry.2 fields)
        fields)).namesDiffer from hacc [] namesDiffer_nil
  induction entries with
  | nil => exact fun _ hf => hf
  | cons entry rest ih =>
    intro fields hf
    exact ih (fun e he => h e (List.mem_cons_of_mem _ he)) _
      (namesDiffer_set hf entry.1 (h entry List.mem_cons_self))

end Fields

/-! ## What a text stands for -/

namespace Source

mutual
theorem namesDiffer_of_value? : ∀ {part : Source} {v : Json}, part.value? = some v → v.namesDiffer
  | .void, _, h => by simp [value?] at h
  | .null, _, h => by
    rw [value?, Option.some.injEq] at h
    subst h
    rfl
  | .bool _, _, h => by
    rw [value?, Option.some.injEq] at h
    subst h
    rfl
  | .num _, _, h => by
    rw [value?, Option.some.injEq] at h
    subst h
    rfl
  | .str _, _, h => by
    rw [value?, Option.some.injEq] at h
    subst h
    rfl
  | .arr items, _, h => by
    rw [value?, Option.map_eq_some_iff] at h
    obtain ⟨values, hvs, rfl⟩ := h
    exact namesDiffer_arr.mpr (namesDiffer_of_itemValues? hvs)
  | .obj entries, _, h => by
    rw [value?, Option.map_eq_some_iff] at h
    obtain ⟨values, hvs, rfl⟩ := h
    exact Fields.namesDiffer_ofList (namesDiffer_of_entryValues? hvs)

theorem namesDiffer_of_itemValues? : ∀ {items : List Source} {values : List Json},
    itemValues? items = some values → ∀ v ∈ values, v.namesDiffer
  | [], _, h => by
    rw [itemValues?, Option.some.injEq] at h
    subst h
    exact fun _ hm => absurd hm List.not_mem_nil
  | item :: rest, _, h => by
    simp only [itemValues?, Option.bind_eq_bind, Option.bind_eq_some_iff,
      Option.some.injEq] at h
    obtain ⟨v, hv, vs, hvs, rfl⟩ := h
    intro w hw
    rcases List.mem_cons.mp hw with rfl | hmem
    · exact namesDiffer_of_value? hv
    · exact namesDiffer_of_itemValues? hvs w hmem

theorem namesDiffer_of_entryValues? : ∀ {entries : List (Option String × Source)}
    {values : List (String × Json)},
    entryValues? entries = some values → ∀ entry ∈ values, entry.2.namesDiffer
  | [], _, h => by
    rw [entryValues?, Option.some.injEq] at h
    subst h
    exact fun _ hm => absurd hm List.not_mem_nil
  | (name, part) :: rest, _, h => by
    simp only [entryValues?, Option.bind_eq_bind, Option.bind_eq_some_iff,
      Option.some.injEq] at h
    obtain ⟨key, -, v, hv, vs, hvs, rfl⟩ := h
    intro entry he
    rcases List.mem_cons.mp he with rfl | hmem
    · exact namesDiffer_of_value? hv
    · exact namesDiffer_of_entryValues? hvs entry hmem
end

end Source
end QueryGateway.Json
