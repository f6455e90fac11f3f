import QueryGateway.Json.Printer

/-!
What can go wrong in a document store, and how it is reported.
-/

namespace QueryGateway.Document

/-- A failure of a filter, an update, a projection, a sort or a command. -/
inductive Error where
  | filterNotObject (got : Json)
  | clausesNotArray (operator : String)
  | unsupportedTopLevel (operator : String)
  | unsupportedQueryOperator (operator : String)
  | operandNotArray (operator : String)
  | updateNotObject
  | updateWithoutOperators
  | operatorNotObject (operator : String)
  | immutableId
  | blockedPath (path segment : String)
  | nonNumericField (path : String)
  | nonArrayField (path : String)
  | unsupportedUpdateOperator (operator : String)
  | projectionNotObject
  | sortNotObject
  | badSortDirection (field : String)
  | documentNotObject (got : Json)
  | duplicateKey (id : Json)
  | badCount (option : String)
  | pipelineNotArray
  | stageNotSingle
  | countFieldExpected
  | unsupportedStage (stage : String)
deriving Repr, Inhabited

namespace Error

def message : Error → String
  | .filterNotObject got => s!"filter must be an object, got {got.text}"
  | .clausesNotArray operator => s!"{operator} expects an array of filters"
  | .unsupportedTopLevel operator => s!"unsupported top-level operator {operator}"
  | .unsupportedQueryOperator operator => s!"unsupported query operator {operator}"
  | .operandNotArray operator => s!"{operator} expects an array"
  | .updateNotObject => "update must be an object"
  | .updateWithoutOperators => "update document must only contain update operators"
  | .operatorNotObject operator => s!"{operator} expects an object"
  | .immutableId => "the _id field is immutable"
  | .blockedPath path segment => s!"cannot set '{path}': '{segment}' is not an object"
  | .nonNumericField path => s!"$inc on non-numeric field '{path}'"
  | .nonArrayField path => s!"$push on non-array field '{path}'"
  | .unsupportedUpdateOperator operator => s!"unsupported update operator {operator}"
  | .projectionNotObject => "projection must be an object"
  | .sortNotObject => "sort must be an object"
  | .badSortDirection field => s!"sort direction for '{field}' must be 1 or -1"
  | .documentNotObject got => s!"documents must be objects, got {got.text}"
  | .duplicateKey id => s!"duplicate key: _id {id.text}"
  | .badCount option => s!"{option} must be a non-negative integer"
  | .pipelineNotArray => "pipeline must be an array"
  | .stageNotSingle => "each pipeline stage must be an object with one key"
  | .countFieldExpected => "$count expects a field name"
  | .unsupportedStage stage => s!"unsupported pipeline stage {stage}"

end Error
end QueryGateway.Document
