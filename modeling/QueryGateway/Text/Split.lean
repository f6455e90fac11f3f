/-!
Cutting texts at a character or at a word.

`split` cuts at every occurrence of a character and is undone by joining with it.
`breakOn?` cuts at the first occurrence of a word.
-/

namespace QueryGateway.Text

/-- The pieces between the occurrences of `sep`; there is one more piece than
there are occurrences. -/
def split (sep : Char) : List Char → List (List Char)
  | [] => [[]]
  | c :: rest =>
    if c = sep then [] :: split sep rest
    else
      match split sep rest with
      | [] => [[c]]
      | piece :: pieces => (c :: piece) :: pieces

/-- The pieces of a string between the occurrences of `sep`. -/
def splitString (sep : Char) (s : String) : List String :=
  (split sep s.toList).map String.ofList

/-- What follows `word`, if the text starts with it. -/
def after? : (word : List Char) → List Char → Option (List Char)
  | [], s => some s
  | _ :: _, [] => none
  | c :: word, d :: s => if c = d then after? word s else none

/-- Whether the text starts with `word`. -/
def startsWith (word s : List Char) : Bool := (after? word s).isSome

/-- What stands before and after the first occurrence of `word`. -/
def breakOn? (word : List Char) : List Char → Option (List Char × List Char)
  | [] => if word.isEmpty then some ([], []) else none
  | c :: rest =>
    match after? word (c :: rest) with
    | some after => some ([], after)
    | none => (breakOn? word rest).map fun (before, after) => (c :: before, after)

theorem after?_eq_some_iff {word s rest : List Char} :
    after? word s = some rest ↔ s = word ++ rest := by
  induction word generalizing s with
  | nil => simp [after?]
  | cons c word ih =>
    cases s with
    | nil => simp [after?]
    | cons d s => by_cases h : c = d <;> simp_all [after?, eq_comm]

theorem eq_of_breakOn? {word s before after : List Char}
    (h : breakOn? word s = some (before, after)) : s = before ++ word ++ after := by
  induction s generalizing before with
  | nil =>
    cases word <;> simp_all [breakOn?]
  | cons c rest ih =>
    rw [breakOn?] at h
    split at h
    · rename_i a ha
      have := after?_eq_some_iff.1 ha
      simp_all
    · cases hr : breakOn? word rest with
      | none => simp [hr] at h
      | some p =>
        obtain ⟨b, a⟩ := p
        simp only [hr, Option.map_some, Option.some.injEq, Prod.mk.injEq] at h
        obtain ⟨rfl, rfl⟩ := h
        simp [ih hr]

end QueryGateway.Text
