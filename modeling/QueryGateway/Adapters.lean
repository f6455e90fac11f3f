import QueryGateway.Adapter
import QueryGateway.Text.Visibility

/-!
Adapters by name, and the choice of one of them.

A route names its adapter, or leaves the choice to a set that has just one.
-/

namespace QueryGateway

/-- The adapters of a gateway. -/
abbrev Adapters := Dictionary Adapter

/-- Why no adapter was chosen. -/
inductive SelectionError where
  | unknown (name : String) (configured : List String)
  | noAdapters
  | ambiguous (count : Nat)
deriving DecidableEq, Repr

namespace SelectionError

def message : SelectionError → String
  | .unknown name configured =>
    let names := ", ".intercalate configured
    s!"Unknown adapter '{name}' (configured: {names})"
  | .noAdapters => "No adapters are configured"
  | .ambiguous count => s!"Route must name an adapter: {count} adapters are configured"

end SelectionError

namespace Adapters

/-- The adapter that a route asks for, with its name. -/
def select (requested : Option String) (adapters : Adapters) :
    Except SelectionError (String × Adapter) :=
  match requested with
  | some name =>
    match adapters.get? name with
    | some adapter => .ok (name, adapter)
    | none => .error (.unknown name adapters.keys)
  | none =>
    match adapters.entries with
    | [] => .error .noAdapters
    | [entry] => .ok entry
    | entries => .error (.ambiguous entries.length)

/-- A character of a name between quotes.  One that is hard to see is written as its code
point. -/
def shownChar (c : Char) : List Char :=
  if c = '\x22' ∨ c = '\\' then ['\\', c]
  else if c = '\t' then ['\\', 't']
  else if c = '\n' then ['\\', 'n']
  else if c = '\r' then ['\\', 'r']
  else if c.toNat = 0 then ['\\', '0']
  else if Text.isVisible c then [c]
  else ['\\', 'u', '\x7b'] ++ Nat.toDigits 16 c.toNat ++ ['\x7d']

/-- A name between quotes. -/
def shown (name : String) : String :=
  String.ofList ('\x22' :: name.toList.flatMap shownChar ++ ['\x22'])

/-- The names and kinds of the adapters. -/
def summary (adapters : Adapters) : String :=
  let parts := adapters.entries.map fun (name, adapter) => shown name ++ ": " ++ shown adapter.kind
  "\x7b" ++ ", ".intercalate parts ++ "\x7d"

end Adapters
end QueryGateway
