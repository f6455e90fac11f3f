import QueryGateway.Text.Blank
import QueryGateway.Text.Split

/-!
Template text, cut at its expressions.

A single quote opens a literal inside an expression and the next one closes it, unless a
backslash stands directly before that quote.  A backslash before anything else is a
character like any other.  Every pass over the text of an expression tracks literals
with the same step.

An expression stands between an opening and a closing delimiter.  Opening
delimiters inside it are counted, so they need closing ones of their own, and
delimiters inside quoted literals do not count.  Where an expression is not
closed, the rest of the template is plain text.
-/

namespace QueryGateway

/-! ## Quoted literals -/

/-- Where a character stands: outside literals, inside one, or inside one and
directly after the backslash that escapes it. -/
inductive Quoting where
  | outside
  | inside
  | escaped
deriving DecidableEq, Repr

namespace Quoting

/-- Where the character after `c` stands; `next` is that character. -/
def step (q : Quoting) (c : Char) (next : Option Char) : Quoting :=
  match q with
  | .outside => if c = '\'' then .inside else .outside
  | .inside =>
    if c = '\\' ∧ next = some '\'' then .escaped
    else if c = '\'' then .outside
    else .inside
  | .escaped => .inside

end Quoting

/-! ## Templates -/

/-- The words that open and close an expression. -/
structure Delimiters where
  opening : String
  closing : String
deriving DecidableEq, Repr

namespace Delimiters

/-- The delimiters of templates unless others are chosen. -/
def standard : Delimiters := { opening := "$\x7b\x7b", closing := "\x7d\x7d" }

end Delimiters

/-- An expression in a template: the plain text since the previous one, and the
text between its delimiters. -/
structure Hole where
  before : List Char
  inner : List Char
deriving DecidableEq, Repr

/-- A template as its expressions and the plain text after the last of them. -/
structure Segments where
  holes : List Hole
  tail : List Char
deriving DecidableEq, Repr

/-- An expression with its place in the template.  Offsets count bytes of UTF-8. -/
structure Reference where
  matched : String
  inner : String
  start : Nat
  stop : Nat
deriving DecidableEq, Repr

namespace Segments

/-- The text up to the closing delimiter of the expression whose opening one was
just passed, and the text after that delimiter.  `skip` is the number of
characters of a nested delimiter that are still to be passed, and `depth` the
number of nested expressions. -/
def untilClose (opening closing : List Char) :
    (skip depth : Nat) → Quoting → List Char → Option (List Char × List Char)
  | _, _, _, [] => none
  | skip + 1, depth, q, c :: rest =>
    (untilClose opening closing skip depth q rest).map fun (inner, after) => (c :: inner, after)
  | 0, depth, q, c :: rest =>
    if q = .outside ∧ Text.startsWith opening (c :: rest) then
      (untilClose opening closing (opening.length - 1) (depth + 1) q rest).map
        fun (inner, after) => (c :: inner, after)
    else if q = .outside ∧ Text.startsWith closing (c :: rest) then
      match depth with
      | 0 => some ([], rest.drop (closing.length - 1))
      | depth + 1 =>
        (untilClose opening closing (closing.length - 1) depth q rest).map
          fun (inner, after) => (c :: inner, after)
    else
      (untilClose opening closing 0 depth (q.step c rest.head?) rest).map
        fun (inner, after) => (c :: inner, after)

theorem length_untilClose {opening closing : List Char} {skip depth : Nat} {q : Quoting}
    {s inner after : List Char}
    (h : untilClose opening closing skip depth q s = some (inner, after)) :
    after.length ≤ s.length := by
  fun_induction untilClose opening closing skip depth q s generalizing inner <;>
    simp only [reduceCtorEq, Option.map_eq_some_iff, Prod.mk.injEq, Prod.exists,
      Option.some.injEq] at h
  case case4 => obtain ⟨-, rfl⟩ := h; simp; omega
  all_goals
    obtain ⟨inner', after', h, -, rfl⟩ := h
    rename_i ih
    exact Nat.le_succ_of_le (ih h)

/-- Cuts a text at its expressions. -/
def cut (first : Char) (opening closing : List Char) (s : List Char) : Segments :=
  match hs : Text.breakOn? (first :: opening) s with
  | none => { holes := [], tail := s }
  | some (before, rest) =>
    match hr : untilClose (first :: opening) closing 0 0 .outside rest with
    | none => { holes := [], tail := s }
    | some (inner, after) =>
      have : after.length < s.length := by
        have := length_untilClose hr
        simp only [Text.eq_of_breakOn? hs, List.length_append, List.length_cons]
        omega
      let more := cut first opening closing after
      { more with holes := { before, inner } :: more.holes }
termination_by s.length

/-- The segments of a template.  An empty delimiter finds no expressions. -/
def of (d : Delimiters) (template : List Char) : Segments :=
  match d.opening.toList, d.closing.toList with
  | first :: opening, closing@(_ :: _) => cut first opening closing template
  | _, _ => { holes := [], tail := template }

/-- The length of a text in bytes of UTF-8. -/
def byteLength (s : List Char) : Nat := s.foldl (fun n c => n + c.utf8Size) 0

/-- The expressions with their places, given where the first segment starts. -/
def referencesFrom (d : Delimiters) : (offset : Nat) → List Hole → List Reference
  | _, [] => []
  | offset, hole :: rest =>
    let matched := d.opening.toList ++ hole.inner ++ d.closing.toList
    let start := offset + byteLength hole.before
    let stop := start + byteLength matched
    { matched := String.ofList matched
      inner := String.ofList (Text.trim hole.inner)
      start
      stop } :: referencesFrom d stop rest

/-- The text with every expression replaced by what `fill` gives for it. -/
def fillWith {α : Type} (texts : α → List Char) (s : Segments) (fills : List α) : List Char :=
  (s.holes.zip fills).flatMap (fun (hole, fill) => hole.before ++ texts fill) ++ s.tail

/-- Whether one expression is the whole of the template. -/
def whole? (s : Segments) : Option Hole :=
  match s with
  | { holes := [hole], tail := [] } => if hole.before.isEmpty then some hole else none
  | _ => none

end Segments

namespace Delimiters

/-- Finds the expressions of a template, from left to right. -/
def references (d : Delimiters) (template : String) : List Reference :=
  Segments.referencesFrom d 0 (Segments.of d template.toList).holes

end Delimiters

namespace Reference

/-- Whether the expression is the whole of the template. -/
def spans (r : Reference) (template : String) : Bool :=
  r.start == 0 && r.stop == template.utf8ByteSize

end Reference
end QueryGateway
