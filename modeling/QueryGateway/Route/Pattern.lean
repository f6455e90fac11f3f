import QueryGateway.Text.Split

/-!
Path patterns: text with parameters in braces.

A parameter stands for one or more characters that are no slashes.  Where a path
fits in several ways, each parameter in turn takes as much as it can.
-/

namespace QueryGateway.Route

/-- What can be wrong with a path. -/
inductive PathError where
  | noSlash (path : String)
  | unclosedBrace (path : String)
  | badParameter (name path : String)
  | duplicateParameter (name path : String)
  | unmatchedBrace (path : String)
deriving DecidableEq, Repr

namespace PathError

def message : PathError → String
  | .noSlash path => s!"Path '{path}' must start with '/'"
  | .unclosedBrace path => s!"Unclosed '\x7b' in path '{path}'"
  | .badParameter name path => s!"Invalid path parameter '\x7b{name}\x7d' in '{path}'"
  | .duplicateParameter name path => s!"Duplicate path parameter '{name}' in '{path}'"
  | .unmatchedBrace path => s!"Unmatched '\x7d' in path '{path}'"

end PathError

/-- A piece of a pattern. -/
inductive Piece where
  | literal (text : List Char)
  | param (name : String)
deriving DecidableEq, Repr

/-- A pattern: its pieces, in order. -/
abbrev Pattern := List Piece

namespace Pattern

/-- The names of the parameters, in order. -/
def names (pattern : Pattern) : List String :=
  pattern.filterMap fun
    | .literal _ => none
    | .param name => some name

/-- Whether a text is an ASCII identifier. -/
def isIdentifier : List Char → Bool
  | [] => false
  | c :: rest => (c.isAlpha || c == '_') && rest.all fun c => c.isAlphanum || c == '_'

theorem length_lt_of_braces {s before inside chars rest : List Char}
    (hs : Text.breakOn? ['\x7b'] s = some (before, inside))
    (hi : Text.breakOn? ['\x7d'] inside = some (chars, rest)) : rest.length < s.length := by
  simp only [Text.eq_of_breakOn? hs, Text.eq_of_breakOn? hi, List.length_append, List.length_cons]
  omega

/-- Reads the pieces of a path.  `seen` are the names of the parameters before. -/
def piecesOf (path : String) (seen : List String) (s : List Char) : Except PathError Pattern :=
  match hs : Text.breakOn? ['\x7b'] s with
  | none =>
    if s.contains '\x7d' then .error (.unmatchedBrace path) else .ok [.literal s]
  | some (before, inside) =>
    match hi : Text.breakOn? ['\x7d'] inside with
    | none => .error (.unclosedBrace path)
    | some (chars, rest) =>
      have : rest.length < s.length := length_lt_of_braces hs hi
      let name := String.ofList chars
      if ¬isIdentifier chars then .error (.badParameter name path)
      else if seen.contains name then .error (.duplicateParameter name path)
      else (piecesOf path (seen ++ [name]) rest).map fun pieces =>
        .literal before :: .param name :: pieces
termination_by s.length

/-- The pattern of a path. -/
def ofPath (path : String) : Except PathError Pattern :=
  if path.toList.head? = some '/' then piecesOf path [] path.toList
  else .error (.noSlash path)

/-- Takes as many characters before a slash as it can, at least one, so that
`after` accepts the rest. -/
def takeParam (after : List Char → Option (List (List Char))) :
    List Char → Option (List (List Char))
  | [] => none
  | c :: rest =>
    if c = '/' then none
    else
      match takeParam after rest with
      | some (taken :: more) => some ((c :: taken) :: more)
      | _ => (after rest).map fun more => [c] :: more

/-- What the parameters of a pattern stand for in a text that fits it.  This says what
`captures?` gives; as a way to find it, it takes too long. -/
def fit? : Pattern → List Char → Option (List (List Char))
  | [], s => if s.isEmpty then some [] else none
  | .literal text :: pieces, s => (Text.after? text s).bind (fit? pieces)
  | .param _ :: pieces, s => takeParam (fit? pieces) s

/-- The suffixes of a text, the longest first. -/
def suffixes : List Char → List (List Char)
  | [] => [[]]
  | c :: s => (c :: s) :: suffixes s

/-- How a pattern fits the suffixes of a text, the longest first. -/
abbrev Fits := List (Option (List (List Char)))

/-- How the pattern fits the longest of the suffixes. -/
def Fits.first (fits : Fits) : Option (List (List Char)) := fits.head?.join

/-- How a pattern that starts with a literal fits the suffixes of a text.  `after` says how
the rest of it fits what follows when as many characters as the literal has are taken. -/
def literalFits (literal : List Char) : List Char → Fits → Fits
  | [], after => [if Text.startsWith literal [] then after.first else none]
  | c :: s, after =>
    (if Text.startsWith literal (c :: s) then after.first else none) ::
      literalFits literal s after.tail

/-- How a pattern that starts with a parameter fits the suffixes of a text, when `after`
says how the rest of it fits them. -/
def paramFits : List Char → Fits → Fits
  | [], _ => [none]
  | c :: s, after =>
    let shorter := paramFits s after.tail
    let fit :=
      if c = '/' then none
      else
        match shorter.first with
        | some (taken :: more) => some ((c :: taken) :: more)
        | _ => (Fits.first after.tail).map fun more => [c] :: more
    fit :: shorter

/-- How a pattern fits the suffixes of a text. -/
def fits : Pattern → List Char → Fits
  | [], s => s.map (fun _ => none) ++ [some []]
  | .literal text :: pieces, s => literalFits text s ((fits pieces s).drop text.length)
  | .param _ :: pieces, s => paramFits s (fits pieces s)

/-- What the parameters stand for in a path, if it fits the pattern. -/
def captures? (pattern : Pattern) (s : List Char) : Option (List (List Char)) :=
  (fits pattern s).first

theorem drop_suffixes_append (a b : List Char) :
    (suffixes (a ++ b)).drop a.length = suffixes b := by
  induction a with
  | nil => rfl
  | cons c a ih => simpa [suffixes] using ih

theorem first_map_suffixes (f : List Char → Option (List (List Char))) (s : List Char) :
    Fits.first ((suffixes s).map f) = f s := by
  cases s <;> simp [suffixes, Fits.first]

theorem first_drop_map_suffixes (f : List Char → Option (List (List Char)))
    (literal s : List Char) :
    (if Text.startsWith literal s then Fits.first (((suffixes s).map f).drop literal.length)
      else none) = (Text.after? literal s).bind f := by
  cases h : Text.after? literal s with
  | none => simp [Text.startsWith, h]
  | some rest =>
    rw [Text.after?_eq_some_iff.1 h, ← List.map_drop, drop_suffixes_append, first_map_suffixes]
    simp [Text.startsWith, Text.after?_eq_some_iff.2]

theorem literalFits_eq (f : List Char → Option (List (List Char))) (literal s : List Char) :
    literalFits literal s (((suffixes s).map f).drop literal.length) =
      (suffixes s).map fun t => (Text.after? literal t).bind f := by
  induction s with
  | nil => simp [literalFits, ← first_drop_map_suffixes, suffixes]
  | cons c s ih =>
    have tail : (((suffixes (c :: s)).map f).drop literal.length).tail =
        ((suffixes s).map f).drop literal.length := by
      rw [List.tail_drop, ← List.drop_tail]
      rfl
    rw [literalFits, first_drop_map_suffixes, tail, ih]
    rfl

theorem paramFits_eq (f : List Char → Option (List (List Char))) (s : List Char) :
    paramFits s ((suffixes s).map f) = (suffixes s).map (takeParam f) := by
  induction s with
  | nil => simp [paramFits, suffixes, takeParam]
  | cons c s ih => simp [paramFits, suffixes, takeParam, ih, first_map_suffixes]

theorem fits_eq (pattern : Pattern) (s : List Char) :
    fits pattern s = (suffixes s).map (fit? pattern) := by
  induction pattern with
  | nil => induction s <;> simp_all [fits, suffixes, fit?]
  | cons piece pieces ih =>
    cases piece with
    | literal text => rw [fits, ih, literalFits_eq]; rfl
    | param name => rw [fits, ih, paramFits_eq]; rfl

theorem captures?_eq_fit? (pattern : Pattern) (s : List Char) :
    captures? pattern s = fit? pattern s := by
  rw [captures?, fits_eq, first_map_suffixes]

end Pattern
end QueryGateway.Route
