import Mathlib.Data.List.Perm.Subperm
import QueryGateway.Proofs.Json.Names

/-!
Equality of values.

Equality looks for each field of the one object in the other, and compares their
numbers.  For objects whose names differ this is symmetric: the names of the one are
among those of the other and as many, so they are the same.

Equal values hold equal values at every path (`alike_walk`), and what values hold at all paths
decides whether they are equal (`same_of_walks`).
-/

namespace QueryGateway

theorem Number.same_comm (a b : Number) : a.same b = b.same a := by
  cases a with
  | int m =>
    cases b with
    | int n =>
      rw [Number.same, Number.same, Bool.eq_iff_iff, beq_iff_eq, beq_iff_eq]
      exact eq_comm
    | float y => rfl
  | float x =>
    cases b with
    | int n => rfl
    | float y =>
      rw [Number.same, Number.same, Bool.eq_iff_iff, beq_iff_eq, beq_iff_eq]
      exact eq_comm

theorem Number.same_refl (a : Number) : a.same a = true := by
  cases a <;> simp [Number.same]

/-- Equal numbers that are not the same are binary64 numbers of the same value. -/
theorem Number.same_cases {a b : Number} (h : a.same b = true) :
    a = b ∨ ∃ x y, a = .float x ∧ b = .float y ∧ x.toInt = y.toInt := by
  cases a with
  | int m =>
    cases b with
    | int n =>
      rw [Number.same, beq_iff_eq] at h
      exact .inl (h ▸ rfl)
    | float y => cases h
  | float x =>
    cases b with
    | int n => cases h
    | float y =>
      rw [Number.same, beq_iff_eq] at h
      exact .inr ⟨x, y, rfl, rfl, h⟩

theorem Number.same_trans {a b c : Number} (h : a.same b = true) (h' : b.same c = true) :
    a.same c = true := by
  rcases Number.same_cases h with rfl | ⟨x, y, rfl, rfl, hvalue⟩
  · exact h'
  · rcases Number.same_cases h' with rfl | ⟨w, z, hw, rfl, hvalue'⟩
    · exact h
    · rw [Number.same, beq_iff_eq, hvalue, Number.float.inj hw, hvalue']

namespace Json

theorem same_bool (a b : Bool) : (bool a).same (bool b) = (a == b) := rfl

theorem same_num (a b : Number) : (num a).same (num b) = a.same b := rfl

theorem same_str (a b : String) : (str a).same (str b) = (a == b) := rfl

theorem same_arr (a b : List Json) : (arr a).same (arr b) = sameItems a b := rfl

theorem sameItems_cons (a b : Json) (as bs : List Json) :
    sameItems (a :: as) (b :: bs) = (a.same b && sameItems as bs) := rfl

/-! ## Strings -/

theorem mapM_str?_eq_some_iff {items : List Json} {names : List String} :
    items.mapM Json.str? = some names ↔ items = names.map .str := by
  induction items generalizing names with
  | nil => cases names <;> simp
  | cons item rest ih =>
    rw [List.mapM_cons]
    constructor
    · intro h
      cases item with
      | str name =>
        cases hrest : rest.mapM Json.str? with
        | none => simp [Json.str?, hrest] at h
        | some others =>
          have hnames : name :: others = names := by simpa [Json.str?, hrest] using h
          rw [← hnames, List.map_cons, ih.mp hrest]
      | null | bool _ | num _ | arr _ | obj _ => simp [Json.str?] at h
    · intro h
      cases names with
      | nil => cases h
      | cons name others =>
        obtain ⟨rfl, hrest⟩ := List.cons.inj h
        simp [Json.str?, ih.mpr hrest]

theorem str?_eq_of_same {v w : Json} (h : v.same w = true) : v.str? = w.str? := by
  cases v with
  | str s =>
    cases w with
    | str t =>
      rw [same_str, beq_iff_eq] at h
      rw [h]
    | _ => cases h
  | _ => cases w <;> first | rfl | cases h

theorem sameItems_map_str (values : List String) :
    sameItems (values.map .str) (values.map .str) = true := by
  induction values with
  | nil => rfl
  | cons value rest ih =>
    rw [List.map_cons, sameItems_cons, ih, same_str, beq_self_eq_true]
    rfl

/-! ## Objects -/

theorem sameFields_iff {a b : Fields} :
    sameFields a b = true ↔
      ∀ field ∈ a, ∃ w, Fields.get? field.1 b = some w ∧ field.2.same w = true := by
  induction a with
  | nil => simp [sameFields]
  | cons field rest ih =>
    obtain ⟨k, v⟩ := field
    rw [sameFields, Bool.and_eq_true, ih, List.forall_mem_cons]
    refine and_congr ?_ Iff.rfl
    cases hg : Fields.get? k b with
    | none => simp
    | some w => simp

theorem same_obj_iff {a b : Fields} :
    (Json.obj a).same (.obj b) = true ↔ a.length = b.length ∧ sameFields a b = true := by
  rw [same, Bool.and_eq_true, beq_iff_eq]

/-- Fields that are all found among as many others have the same names as these. -/
theorem names_subset_of_same {a b : Fields} (ha : (Fields.names a).Nodup)
    (h : (Json.obj a).same (.obj b) = true) : Fields.names b ⊆ Fields.names a := by
  obtain ⟨hlen, hall⟩ := same_obj_iff.mp h
  have hsub : Fields.names a ⊆ Fields.names b := by
    intro key hkey
    obtain ⟨field, hm, rfl⟩ := List.mem_map.mp hkey
    obtain ⟨w, hw, -⟩ := sameFields_iff.mp hall field hm
    exact List.mem_map.mpr ⟨_, Fields.mem_of_get?_eq_some hw, rfl⟩
  have hle : (Fields.names b).length ≤ (Fields.names a).length := by
    simp [Fields.names, hlen]
  exact ((ha.subperm hsub).perm_of_length_le hle).symm.subset

theorem same_refl (v : Json) (hv : v.namesDiffer) : v.same v = true := by
  induction v using partsInduction with
  | null => rfl
  | bool b => exact beq_self_eq_true b
  | num n => rw [same_num, Number.same_refl]
  | str s => exact beq_self_eq_true s
  | arr items ih =>
    rw [same_arr]
    have hitems := namesDiffer_arr.mp hv
    clear hv
    induction items with
    | nil => rfl
    | cons item rest ihrest =>
      rw [sameItems_cons, Bool.and_eq_true]
      exact ⟨ih item List.mem_cons_self (hitems item List.mem_cons_self),
        ihrest (fun v hm => ih v (List.mem_cons_of_mem _ hm))
          (fun v hm => hitems v (List.mem_cons_of_mem _ hm))⟩
  | obj fields ih =>
    obtain ⟨hn, hvs⟩ := namesDiffer_obj.mp hv
    refine same_obj_iff.mpr ⟨rfl, sameFields_iff.mpr fun field hm => ?_⟩
    exact ⟨field.2, Fields.get?_eq_some_of_mem hn hm, ih field hm (hvs field hm)⟩

theorem sameItems_concat {items : List Json} (hitems : ∀ item ∈ items, item.namesDiffer)
    {last last' : Json} (h : last.same last' = true) :
    sameItems (items ++ [last]) (items ++ [last']) = true := by
  induction items with
  | nil => exact (Bool.and_true _).trans h
  | cons item rest ih =>
    obtain ⟨hitem, hrest⟩ := List.forall_mem_cons.mp hitems
    rw [List.cons_append, List.cons_append, sameItems_cons, same_refl item hitem, ih hrest,
      Bool.and_self]

theorem sameItems_symm {xs ys : List Json}
    (ih : ∀ x ∈ xs, ∀ y ∈ ys, x.same y = true → y.same x = true)
    (h : sameItems xs ys = true) : sameItems ys xs = true := by
  induction xs generalizing ys with
  | nil =>
    cases ys with
    | nil => rfl
    | cons y ys => cases h
  | cons x xs ihxs =>
    cases ys with
    | nil => cases h
    | cons y ys =>
      rw [sameItems_cons, Bool.and_eq_true] at h ⊢
      exact ⟨ih x List.mem_cons_self y List.mem_cons_self h.1,
        ihxs (fun x hx y hy => ih x (List.mem_cons_of_mem _ hx) y (List.mem_cons_of_mem _ hy))
          h.2⟩

theorem same_symm {a b : Json} (ha : a.namesDiffer) (hb : b.namesDiffer)
    (h : a.same b = true) : b.same a = true := by
  induction a using partsInduction generalizing b with
  | null =>
    cases b with
    | null => rfl
    | _ => cases h
  | bool x =>
    cases b with
    | bool y =>
      rw [same_bool, beq_iff_eq] at h ⊢
      exact h.symm
    | _ => cases h
  | num x =>
    cases b with
    | num y =>
      rw [same_num] at h ⊢
      rwa [Number.same_comm]
    | _ => cases h
  | str x =>
    cases b with
    | str y =>
      rw [same_str, beq_iff_eq] at h ⊢
      exact h.symm
    | _ => cases h
  | arr items ih =>
    cases b with
    | arr others =>
      rw [same_arr] at h ⊢
      exact sameItems_symm (fun x hx y hy => ih x hx (namesDiffer_arr.mp ha x hx)
        (namesDiffer_arr.mp hb y hy)) h
    | _ => cases h
  | obj fields ih =>
    cases b with
    | obj others =>
      have hsub := names_subset_of_same (namesDiffer_obj.mp ha).1 h
      obtain ⟨hlen, hall⟩ := same_obj_iff.mp h
      refine same_obj_iff.mpr ⟨hlen.symm, sameFields_iff.mpr fun field hm => ?_⟩
      -- The field on the left that has this name is the one that was compared with it.
      obtain ⟨partner, hpartner, hname⟩ :=
        List.mem_map.mp (hsub (List.mem_map.mpr ⟨field, hm, rfl⟩))
      obtain ⟨w, hw, hsame⟩ := sameFields_iff.mp hall partner hpartner
      rw [hname, Fields.get?_eq_some_of_mem (namesDiffer_obj.mp hb).1 hm,
        Option.some.injEq] at hw
      have hget := Fields.get?_eq_some_of_mem (namesDiffer_obj.mp ha).1 hpartner
      rw [hname] at hget
      exact ⟨partner.2, hget, ih partner hpartner ((namesDiffer_obj.mp ha).2 _ hpartner)
        ((namesDiffer_obj.mp hb).2 _ hm) (hw ▸ hsame)⟩
    | _ => cases h

theorem same_comm {a b : Json} (ha : a.namesDiffer) (hb : b.namesDiffer) :
    a.same b = b.same a :=
  Bool.eq_iff_iff.mpr ⟨same_symm ha hb, same_symm hb ha⟩

theorem sameItems_trans {xs ys zs : List Json}
    (ih : ∀ x ∈ xs, ∀ y z, x.same y = true → y.same z = true → x.same z = true)
    (h : sameItems xs ys = true) (h' : sameItems ys zs = true) : sameItems xs zs = true := by
  induction xs generalizing ys zs with
  | nil =>
    cases ys with
    | nil => exact h'
    | cons y ys => cases h
  | cons x xs ihxs =>
    cases ys with
    | nil => cases h
    | cons y ys =>
      cases zs with
      | nil => cases h'
      | cons z zs =>
        rw [sameItems_cons, Bool.and_eq_true] at h h' ⊢
        exact ⟨ih x List.mem_cons_self y z h.1 h'.1,
          ihxs (fun x hx => ih x (List.mem_cons_of_mem _ hx)) h.2 h'.2⟩

theorem same_trans {a b c : Json} (h : a.same b = true) (h' : b.same c = true) :
    a.same c = true := by
  induction a using partsInduction generalizing b c with
  | null =>
    cases b with
    | null => exact h'
    | _ => cases h
  | bool x =>
    cases b with
    | bool y =>
      rw [same_bool, beq_iff_eq] at h
      exact h ▸ h'
    | _ => cases h
  | num x =>
    cases b with
    | num y =>
      cases c with
      | num z => exact Number.same_trans h h'
      | _ => cases h'
    | _ => cases h
  | str x =>
    cases b with
    | str y =>
      rw [same_str, beq_iff_eq] at h
      exact h ▸ h'
    | _ => cases h
  | arr items ih =>
    cases b with
    | arr others =>
      cases c with
      | arr last =>
        exact sameItems_trans (fun x hx y z => ih x hx) h h'
      | _ => cases h'
    | _ => cases h
  | obj fields ih =>
    cases b with
    | obj others =>
      cases c with
      | obj last =>
        obtain ⟨hlen, hall⟩ := same_obj_iff.mp h
        obtain ⟨hlen', hall'⟩ := same_obj_iff.mp h'
        refine same_obj_iff.mpr ⟨hlen.trans hlen', sameFields_iff.mpr fun field hm => ?_⟩
        obtain ⟨v, hv, hsame⟩ := sameFields_iff.mp hall field hm
        obtain ⟨w, hw, hsame'⟩ := sameFields_iff.mp hall' _ (Fields.mem_of_get?_eq_some hv)
        exact ⟨w, hw, ih field hm hsame hsame'⟩
      | _ => cases h'
    | _ => cases h

/-! ## Equality along paths -/

/-- Two values that may be missing: both are, or they are equal. -/
def Alike : Option Json → Option Json → Prop := Option.Rel fun v w => v.same w = true

namespace Alike

variable {v w : Option Json}

theorem refl (hv : ∀ value, v = some value → value.namesDiffer) : Alike v v := by
  cases v with
  | none => exact .none
  | some value => exact .some (same_refl value (hv value rfl))

theorem eq_none_iff (h : Alike v w) : v = none ↔ w = none := by
  cases h <;> simp

theorem exists_of_some {value : Json} (h : Alike (some value) w) :
    ∃ other, w = some other ∧ value.same other = true := by
  cases h with
  | some hsame => exact ⟨_, rfl, hsame⟩

theorem same {a b : Json} (h : Alike (some a) (some b)) : a.same b = true := by
  cases h with
  | some hsame => exact hsame

theorem bind {f g : Json → Option Json} (h : Alike v w)
    (hfg : ∀ value other, v = some value → value.same other = true → Alike (f value) (g other)) :
    Alike (v.bind f) (w.bind g) := by
  cases h with
  | none => exact .none
  | some hsame => exact hfg _ _ rfl hsame

end Alike

theorem alike_get? {a b : Fields} (ha : (Fields.names a).Nodup)
    (h : (Json.obj a).same (.obj b) = true) (key : String) :
    Alike (Fields.get? key a) (Fields.get? key b) := by
  cases hkey : Fields.get? key a with
  | none =>
    have hnone : Fields.get? key b = none := by
      rw [Fields.get?_eq_none_iff] at hkey ⊢
      exact fun hm => hkey (names_subset_of_same ha h hm)
    rw [hnone]
    exact .none
  | some v =>
    obtain ⟨w, hw, hsame⟩ :=
      sameFields_iff.mp (same_obj_iff.mp h).2 _ (Fields.mem_of_get?_eq_some hkey)
    rw [hw]
    exact .some hsame

theorem same_of_alike {a b : Fields} (ha : (Fields.names a).Nodup) (hb : (Fields.names b).Nodup)
    (h : ∀ key, Alike (Fields.get? key a) (Fields.get? key b)) :
    (Json.obj a).same (.obj b) = true := by
  have hnames (key : String) : key ∈ Fields.names a ↔ key ∈ Fields.names b := by
    have hnone := (h key).eq_none_iff
    rwa [Fields.get?_eq_none_iff, Fields.get?_eq_none_iff, not_iff_not] at hnone
  have hlength : (Fields.names a).length = (Fields.names b).length :=
    ((List.perm_ext_iff_of_nodup ha hb).mpr hnames).length_eq
  refine same_obj_iff.mpr ⟨by simpa [Fields.names] using hlength, sameFields_iff.mpr ?_⟩
  intro field hfield
  have halike := h field.1
  rw [Fields.get?_eq_some_of_mem ha hfield] at halike
  exact halike.exists_of_some

theorem alike_getElem? {xs ys : List Json} (h : sameItems xs ys = true) (i : Nat) :
    Alike xs[i]? ys[i]? := by
  induction xs generalizing ys i with
  | nil =>
    cases ys with
    | nil => exact .none
    | cons y ys => cases h
  | cons x xs ih =>
    cases ys with
    | nil => cases h
    | cons y ys =>
      rw [sameItems_cons, Bool.and_eq_true] at h
      cases i with
      | zero => exact .some h.1
      | succ i => exact ih h.2 i

/-- Equal values hold equal values at every path. -/
theorem alike_walk {a b : Json} (ha : a.namesDiffer) (h : a.same b = true) (path : List String) :
    Alike (a.walk path) (b.walk path) := by
  induction path generalizing a b with
  | nil =>
    rw [walk_nil, walk_nil]
    exact .some h
  | cons segment rest ih =>
    cases a with
    | obj fields =>
      cases b with
      | obj others =>
        rw [walk_obj, walk_obj]
        refine (alike_get? (namesDiffer_obj.mp ha).1 h segment).bind fun v w hv hsame => ?_
        exact ih (namesDiffer_of_get? ha hv) hsame
      | _ => cases h
    | arr items =>
      cases b with
      | arr others =>
        rw [walk_arr rfl, walk_arr rfl]
        have hitem : Alike ((index? segment).bind fun i => items[i]?)
            ((index? segment).bind fun i => others[i]?) := by
          cases index? segment with
          | none => exact .none
          | some i => exact alike_getElem? h i
        refine hitem.bind fun v w hv hsame => ?_
        obtain ⟨i, -, hi⟩ := Option.bind_eq_some_iff.mp hv
        exact ih (namesDiffer_arr.mp ha v (List.mem_of_getElem? hi)) hsame
      | _ => cases h
    | _ => cases b <;> first | exact Option.Rel.none | cases h

/-- Values are equal if at every path they hold equal values, or both an object.  The fields of
these objects are at the paths that lead on. -/
theorem same_of_walks {a b : Json} (ha : a.namesDiffer) (hb : b.namesDiffer)
    (h : ∀ path, Alike (a.walk path) (b.walk path) ∨
      ∃ fields others, a.walk path = some (.obj fields) ∧ b.walk path = some (.obj others)) :
    a.same b = true := by
  induction a using partsInduction generalizing b with
  | obj fields ih =>
    rcases h [] with halike | ⟨-, others, -, hobj⟩
    · rw [walk_nil, walk_nil] at halike
      exact halike.same
    · rw [walk_nil, Option.some.injEq] at hobj
      subst hobj
      obtain ⟨hna, hfields⟩ := namesDiffer_obj.mp ha
      refine same_of_alike hna (namesDiffer_obj.mp hb).1 fun key => ?_
      have hfield := h [key]
      rw [walk_singleton, walk_singleton] at hfield
      rcases hfield with halike | ⟨child, other, hchild, hother⟩
      · exact halike
      · rw [hchild, hother]
        have hm := Fields.mem_of_get?_eq_some hchild
        refine .some (ih _ hm (hfields _ hm) (namesDiffer_of_get? hb hother) fun path => ?_)
        have hbelow := h (key :: path)
        rwa [walk_obj, walk_obj, hchild, hother, Option.bind_some, Option.bind_some] at hbelow
  | _ =>
    have hroot := h []
    simp only [walk_nil, Option.some.injEq, reduceCtorEq, false_and, exists_const,
      or_false] at hroot
    exact hroot.same

end Json
end QueryGateway
