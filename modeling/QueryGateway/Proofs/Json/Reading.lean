import QueryGateway.Proofs.Json.Names

/-!
What stands at a path after another one was written or erased.

A write or an erasure leaves what stands at a path that is apart, and otherwise all that is no
object and does not stand behind the path.

A write fails exactly if its path is blocked.  A path that leads below the written one is read
inside the written value (`walk_setPath`), and writing what stands at a path already changes
nothing (`setPath_of_walk`).

An erasure follows objects only, while reading goes through arrays too.  So a value can be read
after its path was erased exactly if an array stands on the way (`walk_erasePath_eq_none_iff`).
-/

namespace QueryGateway

/-! ## Paths that are apart -/

namespace Json

/-- Whether neither of two paths leads through the other. -/
def Apart (path other : String) : Prop :=
  ¬segments path <+: segments other ∧ ¬segments other <+: segments path

instance (path other : String) : Decidable (Apart path other) :=
  inferInstanceAs (Decidable (_ ∧ _))

namespace Fields

variable {fields out : Fields} {written read : List String}

theorem walk_setPath_of_apart {value : Json} (hthrough : ¬written <+: read)
    (hinto : ¬read <+: written) (h : setPath value written fields = .ok out) :
    (Json.obj out).walk read = (Json.obj fields).walk read := by
  induction written generalizing read fields out with
  | nil => exact absurd List.nil_prefix hthrough
  | cons segment rest ih =>
    cases read with
    | nil => exact absurd List.nil_prefix hinto
    | cons name below =>
      rw [walk_obj, walk_obj]
      by_cases hname : segment = name
      · subst hname
        rw [List.prefix_cons_inj] at hthrough hinto
        have hrest : rest ≠ [] := fun hr => hthrough (hr ▸ List.nil_prefix)
        have hbelow : below ≠ [] := fun hb => hinto (hb ▸ List.nil_prefix)
        obtain ⟨child, child', hold, hchild, rfl⟩ := setPath_below hrest h
        rw [get?_set_self, Option.bind_some, ih hthrough hinto hchild]
        rcases hold with ⟨hnone, rfl⟩ | hobj
        · rw [hnone, Option.bind_none, walk_empty hbelow]
        · rw [hobj, Option.bind_some]
      · rw [get?_setPath_of_ne hname h]

theorem walk_erasePath_of_apart (hthrough : ¬written <+: read) (hinto : ¬read <+: written)
    (hfields : (Json.obj fields).namesDiffer) :
    (Json.obj (erasePath written fields)).walk read = (Json.obj fields).walk read := by
  induction written generalizing read fields with
  | nil => exact absurd List.nil_prefix hthrough
  | cons segment rest ih =>
    cases read with
    | nil => exact absurd List.nil_prefix hinto
    | cons name below =>
      rw [walk_obj, walk_obj]
      by_cases hname : segment = name
      · subst hname
        rw [List.prefix_cons_inj] at hthrough hinto
        have hrest : rest ≠ [] := fun hr => hthrough (hr ▸ List.nil_prefix)
        rcases erasePath_below segment hrest fields with h | ⟨child, hchild, h⟩
        · rw [h]
        · rw [h, get?_set_self, hchild, Option.bind_some, Option.bind_some]
          exact ih hthrough hinto (namesDiffer_of_get? hfields hchild)
      · rw [get?_erasePath_of_ne hname (namesDiffer_obj.mp hfields).1]

/-! ## Writing -/

theorem set_of_get? {key : String} {value : Json} (h : get? key fields = some value) :
    set key value fields = fields := by
  induction fields with
  | nil => cases h
  | cons field rest ih =>
    obtain ⟨k, v⟩ := field
    rw [get?_cons] at h
    rw [set]
    by_cases hk : k = key
    · rw [if_pos hk.symm, Option.some.injEq] at h
      rw [if_pos hk, h]
    · rw [if_neg (Ne.symm hk)] at h
      rw [if_neg hk, ih h]

/-- What stands at a written path and below it. -/
theorem walk_setPath {value : Json} (hwritten : written ≠ [])
    (h : setPath value written fields = .ok out) (rest : List String) :
    (Json.obj out).walk (written ++ rest) = value.walk rest := by
  induction written generalizing fields out with
  | nil => exact absurd rfl hwritten
  | cons segment below ih =>
    rw [List.cons_append, walk_obj]
    by_cases hbelow : below = []
    · subst hbelow
      rw [← Except.ok.inj h, get?_set_self, Option.bind_some, List.nil_append]
    · obtain ⟨child, child', -, hchild, rfl⟩ := setPath_below hbelow h
      rw [get?_set_self, Option.bind_some, ih hbelow hchild]

/-- Writing what stands at a path already changes nothing. -/
theorem setPath_of_walk {value : Json} (hstands : (Json.obj fields).walk written = some value)
    (h : setPath value written fields = .ok out) : out = fields := by
  induction written generalizing fields out with
  | nil => exact (Except.ok.inj h).symm
  | cons segment below ih =>
    rw [walk_obj] at hstands
    by_cases hbelow : below = []
    · subst hbelow
      obtain ⟨old, hold, hsame⟩ := Option.bind_eq_some_iff.mp hstands
      rw [walk_nil] at hsame
      rw [← Except.ok.inj h, ← Option.some.inj hsame, set_of_get? hold]
    · obtain ⟨child, child', hold, hchild, rfl⟩ := setPath_below hbelow h
      rcases hold with ⟨hnone, -⟩ | hobj
      · rw [hnone] at hstands
        cases hstands
      · rw [hobj, Option.bind_some] at hstands
        rw [ih hstands hchild, set_of_get? hobj]

/-- Objects lead to a path that was written. -/
theorem walk_setPath_leading {value : Json} {leading rest : List String} {segment : String}
    (hleading : leading ≠ []) (h : setPath value (leading ++ segment :: rest) fields = .ok out) :
    ∃ child, (Json.obj out).walk leading = some (.obj child) := by
  induction leading generalizing fields out with
  | nil => exact absurd rfl hleading
  | cons name below ih =>
    obtain ⟨child, child', -, hchild, rfl⟩ := setPath_below (by simp) h
    rw [walk_obj, get?_set_self, Option.bind_some]
    by_cases hbelow : below = []
    · exact ⟨child', by rw [hbelow, walk_nil]⟩
    · exact ih hbelow hchild

/-- Something that is no object stands on the way of a path, before its end. -/
def Blocked (fields : Fields) (written : List String) : Prop :=
  ∃ leading segment rest old, written = leading ++ segment :: rest ∧ leading ≠ [] ∧
    (Json.obj fields).walk leading = some old ∧ old.fields? = none

theorem blocked_of_plain {segment : String} {rest : List String} {old : Json}
    (hold : get? segment fields = some old) (hplain : old.fields? = none) (hrest : rest ≠ []) :
    Blocked fields (segment :: rest) := by
  obtain ⟨next, others, rfl⟩ := List.exists_cons_of_ne_nil hrest
  exact ⟨[segment], next, others, old, rfl, List.cons_ne_nil _ _,
    by rw [walk_singleton, hold], hplain⟩

theorem Blocked.below {segment : String} {rest : List String} {child : Fields}
    (hchild : get? segment fields = some (.obj child)) (h : Blocked child rest) :
    Blocked fields (segment :: rest) := by
  obtain ⟨leading, name, others, old, rfl, -, hstands, hplain⟩ := h
  exact ⟨segment :: leading, name, others, old, rfl, List.cons_ne_nil _ _,
    by rw [walk_obj, hchild, Option.bind_some, hstands], hplain⟩

theorem blocked_of_walk {old : Json} (hinto : read <+: written) (hthrough : ¬written <+: read)
    (hold : (Json.obj fields).walk read = some old) (hplain : old.fields? = none) :
    Blocked fields written := by
  obtain ⟨rest, rfl⟩ := hinto
  cases rest with
  | nil => exact absurd ((List.append_nil read).symm ▸ List.prefix_rfl) hthrough
  | cons segment rest =>
    refine ⟨read, segment, rest, old, rfl, ?_, hold, hplain⟩
    rintro rfl
    rw [walk_nil, Option.some.injEq] at hold
    rw [← hold] at hplain
    cases hplain

theorem not_blocked_of_setPath {value : Json} (h : setPath value written fields = .ok out) :
    ¬Blocked fields written := by
  rintro ⟨leading, segment, rest, old, rfl, hleading, hold, hplain⟩
  induction leading generalizing fields out with
  | nil => exact hleading rfl
  | cons name below ih =>
    obtain ⟨child, child', hprior, hchild, rfl⟩ := setPath_below (by simp) h
    rw [walk_obj] at hold
    rcases hprior with ⟨hnone, -⟩ | hobj
    · rw [hnone] at hold
      cases hold
    · rw [hobj, Option.bind_some] at hold
      by_cases hbelow : below = []
      · rw [hbelow, walk_nil, Option.some.injEq] at hold
        rw [← hold] at hplain
        cases hplain
      · exact ih hchild hbelow hold

theorem blocked_of_setPath {value : Json} {name : String}
    (h : setPath value written fields = .error name) : Blocked fields written := by
  induction written generalizing fields with
  | nil => cases h
  | cons segment rest ih =>
    by_cases hrest : rest = []
    · rw [hrest] at h
      cases h
    · rcases setPath_fails_below hrest h with ⟨child, hchild, hfails⟩ | ⟨old, hold, hplain, -⟩
      · exact (ih hfails).below hchild
      · exact blocked_of_plain hold hplain hrest

/-! ## Erasing -/

theorem get?_erase_self {key : String} (hn : (names fields).Nodup) :
    get? key (erase key fields) = none := by
  rw [get?_perm (erase_perm key fields) (nodup_names_erase hn key)]
  induction fields with
  | nil => rfl
  | cons field rest ih =>
    obtain ⟨k, v⟩ := field
    rw [names_cons, List.nodup_cons] at hn
    by_cases hk : k = key
    · rw [List.eraseP_cons_of_pos (by simpa using hk), get?_eq_none_iff]
      exact hk ▸ hn.1
    · rw [List.eraseP_cons_of_neg (by simpa using hk), get?_cons_of_ne (Ne.symm hk), ih hn.2]

end Fields

/-- Whether an array stands on the way of a path, before its end. -/
def throughArray : Json → List String → Bool
  | .arr _, _ :: _ => true
  | .obj fields, segment :: rest => (Fields.get? segment fields).any fun v => v.throughArray rest
  | _, _ => false

theorem throughArray_obj (segment : String) (fields : Fields) (rest : List String) :
    (Json.obj fields).throughArray (segment :: rest) =
      (Fields.get? segment fields).any fun v => v.throughArray rest :=
  rfl

theorem throughArray_nil (value : Json) : value.throughArray [] = false := by
  cases value <;> rfl

namespace Fields

variable {fields : Fields} {erased read : List String}

theorem blocked_of_throughArray (h : (Json.obj fields).throughArray erased = true) :
    Blocked fields erased := by
  induction erased generalizing fields with
  | nil => cases h
  | cons segment rest ih =>
    rw [throughArray_obj, Option.any_eq_true] at h
    obtain ⟨old, hold, hthrough⟩ := h
    have hrest : rest ≠ [] := by
      rintro rfl
      rw [throughArray_nil] at hthrough
      cases hthrough
    cases old with
    | obj child => exact (ih hthrough).below hold
    | _ => exact blocked_of_plain hold rfl hrest

/-- Nothing is erased behind what is no object. -/
theorem erasePath_of_blocked (h : Blocked fields erased) : erasePath erased fields = fields := by
  obtain ⟨leading, segment, rest, old, rfl, hleading, hold, hplain⟩ := h
  induction leading generalizing fields with
  | nil => exact absurd rfl hleading
  | cons name below ih =>
    rw [List.cons_append]
    have hbehind : below ++ segment :: rest ≠ [] := by simp
    rcases erasePath_below name hbehind fields with hsame | ⟨child, hchild, hset⟩
    · exact hsame
    · rw [walk_obj, hchild, Option.bind_some] at hold
      by_cases hbelow : below = []
      · rw [hbelow, walk_nil, Option.some.injEq] at hold
        rw [← hold] at hplain
        cases hplain
      · rw [hset, ih hbelow hold, set_of_get? hchild]

/-- Nothing is erased behind an array. -/
theorem erasePath_of_throughArray (h : (Json.obj fields).throughArray erased = true) :
    erasePath erased fields = fields :=
  erasePath_of_blocked (blocked_of_throughArray h)

/-- Nothing stands below a value that is neither an object nor an array. -/
theorem walk_eq_none_of_plain {value : Json} (hplain : value.fields? = none) (herased : erased ≠ [])
    (hlead : erased <+: read) (h : value.throughArray erased = false) :
    value.walk read = none := by
  obtain ⟨segment, rest, rfl⟩ := List.exists_cons_of_ne_nil herased
  obtain ⟨others, rfl⟩ := hlead
  cases value with
  | obj fields => cases hplain
  | arr items => cases h
  | _ => rfl

theorem throughArray_erasePath (h : ¬erased <+: read) (hfields : (Json.obj fields).namesDiffer) :
    (Json.obj (erasePath erased fields)).throughArray read =
      (Json.obj fields).throughArray read := by
  induction erased generalizing read fields with
  | nil => exact absurd List.nil_prefix h
  | cons segment rest ih =>
    cases read with
    | nil => rw [throughArray_nil, throughArray_nil]
    | cons name below =>
      rw [throughArray_obj, throughArray_obj]
      by_cases hname : segment = name
      · subst hname
        rw [List.prefix_cons_inj] at h
        have hrest : rest ≠ [] := fun hr => h (hr ▸ List.nil_prefix)
        rcases erasePath_below segment hrest fields with hsame | ⟨child, hchild, hset⟩
        · rw [hsame]
        · rw [hset, get?_set_self, hchild, Option.any_some, Option.any_some]
          exact ih h (namesDiffer_of_get? hfields hchild)
      · rw [get?_erasePath_of_ne hname (namesDiffer_obj.mp hfields).1]

/-- Nothing stands at a path after an erasure if nothing stood there before, or if the erased path
leads to it or through it, and does not go through an array. -/
theorem walk_erasePath_eq_none_iff (herased : erased ≠ [])
    (hfields : (Json.obj fields).namesDiffer) :
    (Json.obj (erasePath erased fields)).walk read = none ↔
      (Json.obj fields).walk read = none ∨
        erased <+: read ∧ (Json.obj fields).throughArray erased = false := by
  induction erased generalizing read fields with
  | nil => exact absurd rfl herased
  | cons segment rest ih =>
    have hn := (namesDiffer_obj.mp hfields).1
    cases read with
    | nil => simp [walk_nil]
    | cons name below =>
      rw [walk_obj, walk_obj, List.cons_prefix_cons]
      by_cases hname : segment = name
      · subst hname
        rw [throughArray_obj]
        by_cases hrest : rest = []
        · subst hrest
          rw [erasePath, get?_erase_self hn, Option.bind_none]
          simp [throughArray_nil]
        · cases hold : get? segment fields with
          | none =>
            rw [erasePath_of_ne_obj hrest (by simp [hold]), hold]
            simp
          | some old =>
            rw [Option.bind_some, Option.any_some]
            cases old with
            | obj child =>
              rw [erasePath_of_eq_obj hrest hold, get?_set_self, Option.bind_some,
                ih hrest (namesDiffer_of_get? hfields hold), and_iff_right rfl]
            | _ =>
              rw [erasePath_of_ne_obj hrest (by simp [hold]), hold, Option.bind_some]
              exact ⟨.inl, fun h => h.elim id fun hbehind =>
                walk_eq_none_of_plain rfl hrest hbehind.1.2 hbehind.2⟩
      · rw [get?_erasePath_of_ne hname hn]
        simp [hname]

/-- What stands at an erased path is gone, unless the path is blocked. -/
theorem walk_erasePath_of_not_blocked (hfields : (Json.obj fields).namesDiffer)
    (hfree : ¬Blocked fields erased) (herased : erased ≠ []) (rest : List String) :
    (Json.obj (erasePath erased fields)).walk (erased ++ rest) = none := by
  refine (walk_erasePath_eq_none_iff herased hfields).mpr (.inr ⟨List.prefix_append _ _, ?_⟩)
  exact Bool.eq_false_iff.mpr fun hthrough => hfree (blocked_of_throughArray hthrough)

/-! ## Objects on the way -/

/-- An object stands at a path. -/
def ObjectAt (fields : Fields) (read : List String) : Prop :=
  ∃ child, (Json.obj fields).walk read = some (.obj child)

theorem not_objectAt_of_plain {old : Json} (hold : (Json.obj fields).walk read = some old)
    (hplain : old.fields? = none) : ¬ObjectAt fields read := by
  rintro ⟨child, hchild⟩
  rw [hold, Option.some.injEq] at hchild
  rw [hchild] at hplain
  cases hplain

variable {out : Fields} {value : Json} {written : List String}

/-- After a write, objects stand where they stood and wherever the written path leads through. -/
theorem objectAt_setPath_iff (hread : ¬written <+: read)
    (h : setPath value written fields = .ok out) :
    ObjectAt out read ↔ ObjectAt fields read ∨ read <+: written := by
  by_cases hinto : read <+: written
  · obtain ⟨rest, rfl⟩ := hinto
    refine ⟨fun _ => .inr (List.prefix_append read rest), fun _ => ?_⟩
    by_cases hroot : read = []
    · exact ⟨out, by rw [hroot, walk_nil]⟩
    · cases rest with
      | nil => exact absurd ((List.append_nil read).symm ▸ List.prefix_rfl) hread
      | cons segment rest => exact walk_setPath_leading hroot h
  · rw [ObjectAt, ObjectAt, walk_setPath_of_apart hread hinto h, or_iff_left hinto]

theorem walk_setPath_of_not_objectAt (hread : ¬written <+: read)
    (h : setPath value written fields = .ok out) (hplain : ¬ObjectAt out read) :
    (Json.obj out).walk read = (Json.obj fields).walk read := by
  rw [objectAt_setPath_iff hread h, not_or] at hplain
  exact walk_setPath_of_apart hread hplain.2 h

/-- An erasure leaves what does not stand behind its path, up to what is in the objects on the
way. -/
theorem walk_erasePath_cases (hread : ¬erased <+: read) (hfields : (Json.obj fields).namesDiffer) :
    (Json.obj (erasePath erased fields)).walk read = (Json.obj fields).walk read ∨
      ObjectAt (erasePath erased fields) read ∧ ObjectAt fields read := by
  induction erased generalizing read fields with
  | nil => exact absurd List.nil_prefix hread
  | cons segment rest ih =>
    cases read with
    | nil => exact .inr ⟨⟨_, walk_nil _⟩, ⟨_, walk_nil _⟩⟩
    | cons name below =>
      by_cases hname : segment = name
      · subst hname
        rw [List.prefix_cons_inj] at hread
        have hrest : rest ≠ [] := fun hr => hread (hr ▸ List.nil_prefix)
        rcases erasePath_below segment hrest fields with hsame | ⟨child, hchild, hset⟩
        · exact .inl (by rw [hsame])
        · rw [ObjectAt, ObjectAt, walk_obj, walk_obj, hset, get?_set_self, hchild,
            Option.bind_some, Option.bind_some]
          exact ih hread (namesDiffer_of_get? hfields hchild)
      · refine .inl ?_
        rw [walk_obj, walk_obj, get?_erasePath_of_ne hname (namesDiffer_obj.mp hfields).1]

theorem objectAt_erasePath_iff (hread : ¬erased <+: read)
    (hfields : (Json.obj fields).namesDiffer) :
    ObjectAt (erasePath erased fields) read ↔ ObjectAt fields read := by
  rcases walk_erasePath_cases hread hfields with hsame | ⟨herased, hbefore⟩
  · rw [ObjectAt, ObjectAt, hsame]
  · exact iff_of_true herased hbefore

theorem walk_erasePath_of_not_objectAt (hread : ¬erased <+: read)
    (hfields : (Json.obj fields).namesDiffer) (hplain : ¬ObjectAt (erasePath erased fields) read) :
    (Json.obj (erasePath erased fields)).walk read = (Json.obj fields).walk read :=
  (walk_erasePath_cases hread hfields).resolve_right fun hobjects => hplain hobjects.1

end Fields
end Json
end QueryGateway
