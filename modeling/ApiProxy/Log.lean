import ApiProxy.Json.Value
import ApiProxy.Progress

/-! Log records as lines of text, for readers or as documents. -/

namespace ApiProxy

namespace FieldValue

def shown : FieldValue → String
  | text value => value
  | count value => toString value

def toValue : FieldValue → Json.Value
  | text value => .text value
  | count value => .integer value

end FieldValue

namespace LogRecord

def line (record : LogRecord) : String :=
  let fields := record.fields.map fun field => " " ++ field.1 ++ "=" ++ field.2.shown
  record.level.name ++ " " ++ record.message ++ String.join fields

def toValue (record : LogRecord) : Json.Value :=
  let fields := record.fields.map fun field => (field.1, field.2.toValue)
  .object [("level", .text record.level.name), ("fields", .object (("message", .text record.message) :: fields))]

end LogRecord

end ApiProxy
