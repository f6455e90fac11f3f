import QueryGateway.Expression.Context
import QueryGateway.Expression.Reader
import QueryGateway.Expression.Value
import QueryGateway.Json.Path

/-!
Evaluating expressions.

Evaluation never fails: what is missing is undefined.  Whether a template can be
evaluated is therefore settled when it is read, before any request.
-/

namespace QueryGateway

namespace Context

/-- The value that segments lead to in a namespace, before lists are split. -/
def lookup (ctx : Context) : Namespace → List String → Value
  | .path, [] => .json ctx.pathObject
  | .path, name :: rest => .ofOption ((ctx.path.get? name).bind fun v => (Json.str v).walk rest)
  | .query, [] => .json ctx.queryObject
  | .query, name :: rest => .ofOption ((ctx.query.get? name).bind fun v => v.toJson.walk rest)
  | .body, segments => .ofOption (ctx.body.walk segments)
  | .auth, [] => .ofOption (ctx.auth.map .obj)
  | .auth, name :: rest =>
    .ofOption ((ctx.auth.bind fun claims => Json.Fields.get? name claims).bind fun v => v.walk rest)

/-- A string with commas as the list of its parts. -/
def splitList : Value → Value
  | .json (.str s) =>
    if s.toList.contains ',' then .json (.arr ((Text.splitString ',' s).map .str))
    else .json (.str s)
  | v => v

/-- The value of a reference.  Strings read from the query are split at commas. -/
def resolve (ctx : Context) (source : Namespace) (segments : List String) : Value :=
  let value := ctx.lookup source segments
  if source = .query then splitList value else value

end Context

namespace Builtin

/-- The value of a call.  `default` gives its second argument if the first is
undefined or null. -/
def apply : Builtin → List Value → Supply → Value × Supply
  | .default, args, supply =>
    let value := args.getD 0 .undefined
    (if value.isNullish then args.getD 1 .undefined else value, supply)
  | .now, _, supply =>
    let (t, supply) := supply.instant
    (.instant t, supply)
  | .uuid, _, supply =>
    let (id, supply) := supply.id
    (.json (.str id), supply)

end Builtin

namespace Expr

mutual
/-- The value of an expression.  The arguments of a call are evaluated first. -/
def eval (ctx : Context) : Expr → Supply → Value × Supply
  | .ref source segments, supply => (ctx.resolve source segments, supply)
  | .literal value, supply => (.json value, supply)
  | .call function args, supply =>
    let (values, supply) := evalAll ctx args supply
    function.apply values supply

/-- The values of expressions, from left to right. -/
def evalAll (ctx : Context) : List Expr → Supply → List Value × Supply
  | [], supply => ([], supply)
  | e :: rest, supply =>
    let (value, supply) := e.eval ctx supply
    let (values, supply) := evalAll ctx rest supply
    (value :: values, supply)
end

/-- Reads and evaluates a reference. -/
def evalReference (ctx : Context) (s : List Char) : Reading Value :=
  (readReference s).map fun (source, segments) => ctx.resolve source segments

/-- Reads and evaluates a call; a text without the form of a call is refused. -/
def evalCall (ctx : Context) (s : List Char) (supply : Supply) : Reading (Value × Supply) :=
  if isCall (Text.trim s) then (readCall s).map fun e => e.eval ctx supply
  else .error (.notACall (String.ofList (Text.trim s)))

/-- Reads and evaluates an expression. -/
def evalText (ctx : Context) (s : List Char) (supply : Supply) : Reading (Value × Supply) :=
  (read s).map fun e => e.eval ctx supply

end Expr
end QueryGateway
