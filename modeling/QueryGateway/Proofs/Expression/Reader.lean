import QueryGateway.Expression.Reader
import QueryGateway.Proofs.Text.Blank

/-!
What reading an expression depends on.

`read_eq` states the reader without the lengths that its recursion needs.  Blanks around an
expression make no difference to it.
-/

namespace QueryGateway.Expr

open Text

/-- Reads the arguments of a call that was taken apart, and checks their number. -/
def ofParts (parts : Builtin × List (List Char)) : Reading Expr :=
  (parts.2.mapM readArgument).bind fun args =>
    if args.length = parts.1.arity then .ok (.call parts.1 args)
    else .error (.wrongArity parts.1 args.length)

theorem readCallWith_eq (s : List Char) :
    readCallWith s (fun a _ => readArgument a) = (callParts s).bind ofParts := by
  rw [readCallWith]
  split
  · rename_i e h
    rw [h]
    rfl
  · rename_i function arguments h
    rw [h, List.mapM_subtype (g := readArgument) (fun _ _ => rfl), List.unattach_attach]
    rfl

theorem read_eq (s : List Char) :
    read s =
      if isCall (trim s) then (callParts s).bind ofParts
      else (readReference s).map fun (source, segments) => .ref source segments := by
  rw [read, ← readCallWith_eq]
  rfl

theorem callParts_trim (s : List Char) : callParts (trim s) = callParts s := by
  rw [callParts, callParts, trim_trim]

theorem readReference_trim (s : List Char) : readReference (trim s) = readReference s := by
  rw [readReference, readReference, trim_trim]

/-- Blanks around an expression do not matter. -/
theorem read_trim (s : List Char) : read (trim s) = read s := by
  rw [read_eq, read_eq, trim_trim, callParts_trim, readReference_trim]

end QueryGateway.Expr
