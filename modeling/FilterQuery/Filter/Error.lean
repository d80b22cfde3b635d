import FilterQuery.Calendar.Reader
import FilterQuery.Filter.Operator
import FilterQuery.Identifier.Reader
import FilterQuery.Number.Integer

namespace FilterQuery

/-!
# Errors of filter values

An error names the field and the literal it is about.  Every error has a type, and the
type fixes the code and the wording of the report that a client gets (`ErrorReport`).
-/

/-- Why a literal could not be read. -/
inductive Cause where
  | integer (e : IntegerError)
  | identifier (e : HyphenatedError)
  | timestamp (e : TimestampError)
  | other (message : String)
  deriving DecidableEq

/-- The text of a cause. -/
def Cause.message : Cause → String
  | .integer e => e.message
  | .identifier e => e.message
  | .timestamp e => e.message
  | .other message => message

/-- What went wrong with the filter value of a field. -/
inductive FilterError where
  /-- A number, identifier or date could not be read. -/
  | wrongValue (field typeName value : String) (cause : Option Cause)
  /-- A range lacks one of its bounds. -/
  | emptyValue (field typeName value : String)
  /-- An operator inside the value is not allowed there. -/
  | wrongOperator (field value : String)
  /-- A literal names no member of an enumeration. -/
  | invalidMember (field typeName value : String)
  /-- A field was asked to compare with an operator that it does not have. -/
  | unknownOperator (token : String)
  deriving DecidableEq

/-- The kinds of errors that a client can tell apart. -/
inductive ErrorType where
  | emptyValue
  | wrongValue
  | wrongOperator
  | internal
  deriving DecidableEq, Repr

namespace ErrorType

/-- The code of an error type. -/
def code : ErrorType → Nat
  | .emptyValue => 201
  | .wrongValue => 202
  | .wrongOperator => 203
  | .internal => 301

/-- The wording of an error type. -/
def message : ErrorType → String
  | .emptyValue => "Field value is empty."
  | .wrongValue => "Field value is wrong."
  | .wrongOperator => "Field contains a wrong operator."
  | .internal => "Internal error occurred, please contact your administrator."

/-- The HTTP status of an error type: only an internal error is no fault of the client. -/
def httpStatus : ErrorType → Nat
  | .internal => 500
  | _ => 400

end ErrorType

/-- The report of an error for a client. -/
structure ErrorReport where
  code : Nat
  message : String
  field : Option String
  value : Option String
  cause : String

namespace FilterError

/-- The field that the error is about. -/
def field? : FilterError → Option String
  | .wrongValue field _ _ _ | .emptyValue field _ _ | .wrongOperator field _
  | .invalidMember field _ _ => some field
  | .unknownOperator _ => none

/-- The literal that the error is about. -/
def value? : FilterError → Option String
  | .wrongValue _ _ value _ | .emptyValue _ _ value | .wrongOperator _ value
  | .invalidMember _ _ value => some value
  | .unknownOperator _ => none

/-- The category or enumeration that the literal was read as. -/
def typeName? : FilterError → Option String
  | .wrongValue _ typeName _ _ | .emptyValue _ typeName _ | .invalidMember _ typeName _ =>
    some typeName
  | .wrongOperator _ _ | .unknownOperator _ => none

/-- The cause of the error, where one is known. -/
def cause? : FilterError → Option Cause
  | .wrongValue _ _ _ cause => cause
  | _ => none

/-- The type of the error. -/
def errorType : FilterError → ErrorType
  | .wrongValue .. | .invalidMember .. => .wrongValue
  | .emptyValue .. => .emptyValue
  | .wrongOperator .. => .wrongOperator
  | .unknownOperator _ => .internal

/-- The text of the error. -/
def message : FilterError → String
  | .wrongValue field typeName value _ =>
    s!"Field value is wrong: unable to parse '{value}' as {typeName} for field '{field}'"
  | .emptyValue field typeName value =>
    s!"Field value is empty: missing {typeName} bound in '{value}' for field '{field}'"
  | .wrongOperator field value =>
    s!"Field contains a wrong operator: '{value}' for field '{field}'"
  | .invalidMember _ typeName value =>
    s!"Invalid {typeName} format: Unable to parse the value '{value}' as an {typeName}."
  | .unknownOperator token => s!"Unknown filter operator '{token}'"

/-- The report of the error for a client. -/
def report (e : FilterError) : ErrorReport where
  code := e.errorType.code
  message := e.errorType.message
  field := e.field?
  value := e.value?
  cause := e.message

/-- The error of an operator that a field does not have. -/
def unsupported (op : Operator) : FilterError := .unknownOperator op.token

end FilterError

end FilterQuery
