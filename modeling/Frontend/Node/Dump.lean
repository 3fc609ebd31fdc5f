import Frontend.Json
import Frontend.Node
import Frontend.Record
import Frontend.Token

/-!
Contract: everything there is to a token or a tree, as text.

Owns: which parts of a span, a type, a token and a node are dumped, under which
keys and in which order, as JSON and as a record.

Does not own: the layout of either.
-/

set_option autoImplicit false

namespace Frontend

namespace Span

def toJson (span : Span) : Json :=
  .object [("start", .number span.start), ("end", .number span.stop), ("text", .string span.text)]

def toRecord (span : Span) : Record :=
  .fields "TextSpan"
    [("start", .word (toString span.start)), ("end", .word (toString span.stop)),
      ("text", .text span.text)]

end Span

namespace Token

def toRecord (token : Token) : Record :=
  .fields "Token"
    [("kind", .word token.kind.name), ("span", token.span.toRecord),
      ("number", .word (toString token.number.toNat))]

end Token

namespace DataType

mutual

def toJson : DataType → Json
  | ⟨name, fundamental, fields⟩ =>
      .object [("name", .string name), ("fundamental", .string fundamental.name),
        ("fields", .array (toJsonAll fields))]

def toJsonAll : List DataType → List Json
  | [] => []
  | type :: rest => type.toJson :: toJsonAll rest

end

mutual

def toRecord : DataType → Record
  | ⟨name, fundamental, fields⟩ =>
      .fields "Type" [("name", .text name), ("fundamental", .word fundamental.name),
        ("fields", .items (toRecordAll fields))]

def toRecordAll : List DataType → List Record
  | [] => []
  | type :: rest => type.toRecord :: toRecordAll rest

end

end DataType

namespace Node

mutual

def toJson : Node → Json
  | ⟨name, type, isVar, children, kind, span⟩ =>
      .object [("name", .string name), ("type", type.toJson), ("is_var", .bool isVar),
        ("params", .array (toJsonAll children)), ("kind", .string kind.name),
        ("span", span.toJson)]

def toJsonAll : List Node → List Json
  | [] => []
  | node :: rest => node.toJson :: toJsonAll rest

end

mutual

def toRecord : Node → Record
  | ⟨name, type, isVar, children, kind, span⟩ =>
      .fields "Statement" [("name", .text name), ("ty", type.toRecord),
        ("is_var", .word (toString isVar)), ("params", .items (toRecordAll children)),
        ("kind", .word kind.name), ("span", span.toRecord)]

def toRecordAll : List Node → List Record
  | [] => []
  | node :: rest => node.toRecord :: toRecordAll rest

end

/-- Several trees as one JSON array. -/
def jsonDump (nodes : List Node) : String :=
  (Json.array (toJsonAll nodes)).pretty

/-- Several trees as one list of records. -/
def recordDump (nodes : List Node) : String :=
  (Record.items (toRecordAll nodes)).pretty

end Node

end Frontend
