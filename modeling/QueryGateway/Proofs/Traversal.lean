import Mathlib.Data.List.Forall2

/-!
Sequences of steps that can fail.

A sequence succeeds exactly if every step does.  A traversal succeeds exactly if every item
does, and then gives the results in order; if it fails, it fails as the first item that does.
A conjunction of tests stops earlier: at the first test that does not hold.

A traversal can also thread a state through its items, each starting where the one before it
ends (`Threaded`).
-/

namespace QueryGateway

theorem exists_of_bind_eq_ok {ε α β : Type} {x : Except ε α} {f : α → Except ε β} {b : β}
    (h : x.bind f = .ok b) : ∃ a, x = .ok a ∧ f a = .ok b := by
  cases x with
  | error e => cases h
  | ok a => exact ⟨a, rfl, h⟩

theorem exists_of_map_eq_ok {ε α β : Type} {x : Except ε α} {f : α → β} {b : β}
    (h : x.map f = .ok b) : ∃ a, x = .ok a ∧ f a = b := by
  cases x with
  | error e => cases h
  | ok a => exact ⟨a, rfl, Except.ok.inj h⟩

theorem map_eq_error_iff {ε α β : Type} {x : Except ε α} {f : α → β} {e : ε} :
    x.map f = .error e ↔ x = .error e := by
  cases x with
  | error e' => rw [Except.map, Except.error.injEq, Except.error.injEq]
  | ok a => exact iff_of_false (fun h => by cases h) (fun h => by cases h)

/-- Two steps that pass a state on, with their results joined. -/
theorem bind_map_eq_ok_iff {ε σ α β γ : Type} {first : Except ε (α × σ)}
    {rest : σ → Except ε (β × σ)} {join : α → β → γ} {out : γ} {last : σ} :
    (first.bind fun p => (rest p.2).map fun q => (join p.1 q.1, q.2)) = .ok (out, last) ↔
      ∃ a next b, out = join a b ∧ first = .ok (a, next) ∧ rest next = .ok (b, last) := by
  constructor
  · intro h
    obtain ⟨p, hfirst, hrest⟩ := exists_of_bind_eq_ok h
    obtain ⟨q, hothers, hout⟩ := exists_of_map_eq_ok hrest
    obtain ⟨rfl, rfl⟩ := Prod.mk.inj hout
    exact ⟨_, _, _, rfl, hfirst, hothers⟩
  · rintro ⟨a, next, b, rfl, hfirst, hothers⟩
    rw [hfirst, Except.bind, hothers]
    rfl

theorem toOption_map {ε α β : Type} (f : α → β) (x : Except ε α) :
    (x.map f).toOption = x.toOption.map f := by
  cases x <;> rfl

theorem toOption_bind {ε α β : Type} (x : Except ε α) (f : α → Except ε β) :
    (x.bind f).toOption = x.toOption.bind fun a => (f a).toOption := by
  cases x <;> rfl

theorem eq_ok_of_mapError {ε ε' α : Type} {f : ε → ε'} {x : Except ε α} {a : α}
    (h : x.mapError f = .ok a) : x = .ok a := by
  cases x with
  | error e => cases h
  | ok b => rw [Except.ok.inj h]

theorem exists_of_mapError_eq_error {ε ε' α : Type} {f : ε → ε'} {x : Except ε α} {e : ε'}
    (h : x.mapError f = .error e) : ∃ cause, x = .error cause ∧ f cause = e := by
  cases x with
  | error cause => exact ⟨cause, rfl, Except.error.inj h⟩
  | ok a => cases h

theorem mapM_eq_ok_iff {ε α β : Type} {f : α → Except ε β} {items : List α}
    {results : List β} :
    items.mapM f = .ok results ↔ List.Forall₂ (fun a b => f a = .ok b) items results := by
  induction items generalizing results with
  | nil =>
    rw [List.mapM_nil, List.forall₂_nil_left_iff]
    exact ⟨fun h => (Except.ok.inj h).symm, fun h => h ▸ rfl⟩
  | cons item rest ih =>
    rw [List.mapM_cons, List.forall₂_cons_left_iff]
    constructor
    · intro h
      cases hitem : f item with
      | error e =>
        rw [hitem] at h
        cases h
      | ok b =>
        rw [hitem] at h
        cases hrest : rest.mapM f with
        | error e =>
          rw [hrest] at h
          cases h
        | ok bs =>
          rw [hrest] at h
          exact ⟨b, bs, rfl, ih.mp hrest, (Except.ok.inj h).symm⟩
    · rintro ⟨b, bs, hitem, hrest, rfl⟩
      rw [hitem, ih.mpr hrest]
      rfl

theorem mapM_ok {ε α : Type} (items : List α) :
    items.mapM (fun a => (.ok a : Except ε α)) = .ok items :=
  mapM_eq_ok_iff.mpr (List.forall₂_same.mpr fun _ _ => rfl)

theorem exists_ok_of_mapM {ε α β : Type} {f : α → Except ε β} {items : List α} {results : List β}
    (h : items.mapM f = .ok results) {item : α} (hitem : item ∈ items) :
    ∃ b ∈ results, f item = .ok b := by
  induction mapM_eq_ok_iff.mp h with
  | nil => cases hitem
  | @cons first b rest others hfirst hrest ih =>
    rcases List.mem_cons.mp hitem with rfl | hmem
    · exact ⟨b, List.mem_cons_self, hfirst⟩
    · obtain ⟨b', hb', hf⟩ := ih (mapM_eq_ok_iff.mpr hrest) hmem
      exact ⟨b', List.mem_cons_of_mem _ hb', hf⟩

theorem exists_error_of_mapM {ε α β : Type} {f : α → Except ε β} {items : List α} {e : ε}
    (h : items.mapM f = .error e) : ∃ item ∈ items, f item = .error e := by
  induction items with
  | nil => cases h
  | cons item rest ih =>
    rw [List.mapM_cons] at h
    cases hitem : f item with
    | error e' =>
      rw [hitem] at h
      obtain rfl := Except.error.inj h
      exact ⟨item, List.mem_cons_self, hitem⟩
    | ok b =>
      cases hrest : rest.mapM f with
      | error e' =>
        rw [hitem, hrest] at h
        obtain rfl := Except.error.inj h
        obtain ⟨other, hmem, hother⟩ := ih hrest
        exact ⟨other, List.mem_cons_of_mem _ hmem, hother⟩
      | ok bs =>
        rw [hitem, hrest] at h
        cases h

/-- A traversal fails as an item behind which it does not get. -/
theorem mapM_eq_error_iff {ε α β : Type} {f : α → Except ε β} {items : List α} {e : ε} :
    items.mapM f = .error e ↔ ∃ before item after, items = before ++ item :: after ∧
      (∀ other ∈ before, ∃ b, f other = .ok b) ∧ f item = .error e := by
  constructor
  · intro h
    induction items with
    | nil => cases h
    | cons first rest ih =>
      cases hfirst : f first with
      | error e' =>
        rw [List.mapM_cons, hfirst] at h
        obtain rfl := Except.error.inj h
        exact ⟨[], first, rest, rfl, nofun, hfirst⟩
      | ok b =>
        cases hrest : rest.mapM f with
        | ok bs =>
          rw [List.mapM_cons, hfirst, hrest] at h
          cases h
        | error e' =>
          rw [List.mapM_cons, hfirst, hrest] at h
          obtain rfl := Except.error.inj h
          obtain ⟨before, item, after, rfl, hbefore, hitem⟩ := ih hrest
          refine ⟨first :: before, item, after, rfl, ?_, hitem⟩
          intro other hmem
          rcases List.mem_cons.mp hmem with rfl | hmem
          · exact ⟨b, hfirst⟩
          · exact hbefore other hmem
  · rintro ⟨before, item, after, rfl, hbefore, hitem⟩
    induction before with
    | nil =>
      rw [List.nil_append, List.mapM_cons, hitem]
      rfl
    | cons first before ih =>
      obtain ⟨⟨b, hfirst⟩, hbefore⟩ := List.forall_mem_cons.mp hbefore
      rw [List.cons_append, List.mapM_cons, hfirst, ih hbefore]
      rfl

/-- A fold fails as an item that fails behind items that do not. -/
theorem foldlM_eq_error_iff {ε α β : Type} {f : β → α → Except ε β} {items : List α} {start : β}
    {e : ε} :
    items.foldlM f start = .error e ↔ ∃ before item after made, items = before ++ item :: after ∧
      before.foldlM f start = .ok made ∧ f made item = .error e := by
  constructor
  · intro h
    induction items generalizing start with
    | nil => cases h
    | cons first rest ih =>
      rw [List.foldlM_cons] at h
      cases hfirst : f start first with
      | error e' =>
        rw [hfirst] at h
        obtain rfl := Except.error.inj h
        exact ⟨[], first, rest, start, rfl, rfl, hfirst⟩
      | ok next =>
        rw [hfirst] at h
        obtain ⟨before, item, after, made, rfl, hbefore, hitem⟩ := ih h
        refine ⟨first :: before, item, after, made, rfl, ?_, hitem⟩
        rw [List.foldlM_cons, hfirst]
        exact hbefore
  · rintro ⟨before, item, after, made, rfl, hbefore, hitem⟩
    rw [List.foldlM_append, hbefore]
    show (item :: after).foldlM f made = _
    rw [List.foldlM_cons, hitem]
    rfl

/-! ## Conjunctions of tests -/

section Tests

variable {ε α : Type} {f : α → Except ε Bool} {items : List α}

theorem allM_eq_ok_all {g : α → Bool} (h : ∀ item ∈ items, f item = .ok (g item)) :
    items.allM f = .ok (items.all g) := by
  induction items with
  | nil => rfl
  | cons first rest ih =>
    obtain ⟨hfirst, hrest⟩ := List.forall_mem_cons.mp h
    rw [List.allM_cons, hfirst, ih hrest, List.all_cons]
    cases g first <;> rfl

theorem allM_append {before : List α} (h : before.allM f = .ok true) (after : List α) :
    (before ++ after).allM f = after.allM f := by
  induction before with
  | nil => rfl
  | cons first before ih =>
    rw [List.cons_append, List.allM_cons]
    rw [List.allM_cons] at h
    cases hfirst : f first with
    | error e =>
      rw [hfirst] at h
      cases h
    | ok holds =>
      rw [hfirst] at h
      cases holds with
      | false => cases h
      | true => exact ih h

/-- A conjunction fails as a test before which all tests hold. -/
theorem allM_eq_error_iff {e : ε} :
    items.allM f = .error e ↔ ∃ before item after, items = before ++ item :: after ∧
      before.allM f = .ok true ∧ f item = .error e := by
  constructor
  · intro h
    induction items with
    | nil => cases h
    | cons first rest ih =>
      rw [List.allM_cons] at h
      cases hfirst : f first with
      | error e' =>
        rw [hfirst] at h
        obtain rfl := Except.error.inj h
        exact ⟨[], first, rest, rfl, rfl, hfirst⟩
      | ok holds =>
        rw [hfirst] at h
        cases holds with
        | false => cases h
        | true =>
          obtain ⟨before, item, after, rfl, hbefore, hitem⟩ := ih h
          refine ⟨first :: before, item, after, rfl, ?_, hitem⟩
          rw [List.allM_cons, hfirst]
          exact hbefore
  · rintro ⟨before, item, after, rfl, hbefore, hitem⟩
    rw [allM_append hbefore, List.allM_cons, hitem]
    rfl

end Tests

/-! ## Threading a state -/

/-- Results of items in order, each from the state that the one before it leaves. -/
inductive Threaded {σ α β : Type} (step : σ → α → β → σ → Prop) : σ → List α → List β → σ → Prop
  | nil (start : σ) : Threaded step start [] [] start
  | cons {start next last : σ} {item : α} {result : β} {items : List α} {results : List β}
    (first : step start item result next) (others : Threaded step next items results last) :
    Threaded step start (item :: items) (result :: results) last

namespace Threaded

variable {σ α β : Type} {step : σ → α → β → σ → Prop} {start last : σ} {items : List α}
  {results : List β}

theorem nil_iff : Threaded step start [] results last ↔ results = [] ∧ last = start := by
  constructor
  · rintro ⟨⟩
    exact ⟨rfl, rfl⟩
  · rintro ⟨rfl, rfl⟩
    exact .nil _

theorem cons_iff {item : α} : Threaded step start (item :: items) results last ↔
    ∃ result next others, results = result :: others ∧ step start item result next ∧
      Threaded step next items others last := by
  constructor
  · rintro ⟨⟩
    exact ⟨_, _, _, rfl, ‹_›, ‹_›⟩
  · rintro ⟨result, next, others, rfl, hfirst, hothers⟩
    exact .cons hfirst hothers

theorem length_eq (h : Threaded step start items results last) :
    results.length = items.length := by
  induction h with
  | nil => rfl
  | cons _ _ ih => exact congrArg (· + 1) ih

end Threaded

end QueryGateway
