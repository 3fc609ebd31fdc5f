import Frontend.Node.Dump
import Frontend.Proofs.Json.Decoding

/-!
Contract: the JSON dump of statements loses nothing.

Owns:
- a tree read back from a value, part by part under the keys of the dump;
- that a dump is JSON, and that the statements are read back from it.

Does not own: the text of a value.
-/

set_option autoImplicit false

namespace Frontend

/-! ## Parts of a value -/

namespace Json

/-- What an object holds under a key. -/
def member? (key : String) : Json → Option Json
  | object members => members.lookup key
  | _ => none

def bool? : Json → Option Bool
  | bool value => some value
  | _ => none

def number? : Json → Option Nat
  | number value => some value
  | _ => none

def string? : Json → Option String
  | string value => some value
  | _ => none

theorem sizeOf_lt_of_lookup
    {key : String}
    {value : Json}
    {members : List (String × Json)}
    (found : members.lookup key = some value) :
    sizeOf value < sizeOf members := by
  induction members with
  | nil => cases found
  | cons member rest inductionHypothesis =>
      rw [List.lookup_cons] at found
      split at found
      · cases found
        cases member
        simp only [List.cons.sizeOf_spec, Prod.mk.sizeOf_spec]
        omega
      · have smaller := inductionHypothesis found
        rw [List.cons.sizeOf_spec]
        omega

/-- The elements of an array that an object holds are smaller than the object. -/
theorem sizeOf_lt_of_member?
    {key : String}
    {value element : Json}
    {elements : List Json}
    (found : value.member? key = some (array elements))
    (isElement : element ∈ elements) :
    sizeOf element < sizeOf value := by
  have elementSmaller := List.sizeOf_lt_of_mem isElement
  cases value with
  | object members =>
      have smaller := sizeOf_lt_of_lookup found
      rw [array.sizeOf_spec] at smaller
      rw [object.sizeOf_spec]
      omega
  | _ => cases found

/-- The elements of the array that an object holds under a key. -/
def elements? (key : String) (value : Json) :
    Option (List {element : Json // sizeOf element < sizeOf value}) :=
  match found : value.member? key with
  | some (array elements) =>
      some (elements.attach.map fun element =>
        ⟨element.val, sizeOf_lt_of_member? found element.property⟩)
  | _ => none

theorem mapM_elements?
    {Value : Type}
    {key : String}
    {value : Json}
    {elements : List Json}
    (decode : Json → Option Value)
    (found : value.member? key = some (array elements)) :
    ((value.elements? key).bind fun parts => parts.mapM fun part => decode part.val) =
      elements.mapM decode := by
  unfold elements?
  split
  · rename_i others othersFound
    cases othersFound.symm.trans found
    rw [Option.bind_some, List.mapM_map]
    show elements.attach.mapM (decode ∘ Subtype.val) = _
    rw [← List.mapM_map, List.attach_map_subtype_val]
  · rename_i noArray
    exact absurd found (noArray elements)

end Json

/-! ## Trees read back -/

theorem Fundamental.ofName?_name (fundamental : Fundamental) :
    ofName? fundamental.name = some fundamental := by
  cases fundamental <;> decide

namespace Span

def ofJson? (value : Json) : Option Span := do
  let start ← (value.member? "start").bind Json.number?
  let stop ← (value.member? "end").bind Json.number?
  let text ← (value.member? "text").bind Json.string?
  return ⟨start, stop, text⟩

theorem ofJson?_toJson (span : Span) : ofJson? span.toJson = some span :=
  rfl

end Span

namespace DataType

def ofJson? (value : Json) : Option DataType := do
  let name ← (value.member? "name").bind Json.string?
  let fundamental ← ((value.member? "fundamental").bind Json.string?).bind Fundamental.ofName?
  let fields ← (value.elements? "fields").bind fun fields => fields.mapM fun field =>
    ofJson? field.val
  return ⟨name, fundamental, fields⟩
termination_by sizeOf value
decreasing_by exact field.property

mutual

theorem ofJson?_toJson : (type : DataType) → ofJson? type.toJson = some type
  | ⟨name, fundamental, fields⟩ => by
      have held : (toJson ⟨name, fundamental, fields⟩).member? "fields" =
          some (.array (toJsonAll fields)) := by
        rw [toJson]
        rfl
      rw [ofJson?, Json.mapM_elements? ofJson? held, mapM_toJsonAll fields, toJson]
      simp [Json.member?, Json.string?, List.lookup_cons, Fundamental.ofName?_name]

theorem mapM_toJsonAll : (types : List DataType) → (toJsonAll types).mapM ofJson? = some types
  | [] => rfl
  | type :: rest => by
      rw [toJsonAll, List.mapM_cons, ofJson?_toJson type, mapM_toJsonAll rest]
      rfl

end

end DataType

namespace Node

def ofJson? (value : Json) : Option Node := do
  let name ← (value.member? "name").bind Json.string?
  let type ← (value.member? "type").bind DataType.ofJson?
  let isVar ← (value.member? "is_var").bind Json.bool?
  let children ← (value.elements? "params").bind fun children => children.mapM fun child =>
    ofJson? child.val
  let kind ← ((value.member? "kind").bind Json.string?).bind NodeKind.ofName?
  let span ← (value.member? "span").bind Span.ofJson?
  return ⟨name, type, isVar, children, kind, span⟩
termination_by sizeOf value
decreasing_by exact child.property

mutual

theorem ofJson?_toJson : (node : Node) → ofJson? node.toJson = some node
  | ⟨name, type, isVar, children, kind, span⟩ => by
      have held : (toJson ⟨name, type, isVar, children, kind, span⟩).member? "params" =
          some (.array (toJsonAll children)) := by
        rw [toJson]
        rfl
      rw [ofJson?, Json.mapM_elements? ofJson? held, mapM_toJsonAll children, toJson]
      simp [Json.member?, Json.string?, Json.bool?, List.lookup_cons, DataType.ofJson?_toJson,
        NodeKind.ofName?_name, Span.ofJson?_toJson]

theorem mapM_toJsonAll : (nodes : List Node) → (toJsonAll nodes).mapM ofJson? = some nodes
  | [] => rfl
  | node :: rest => by
      rw [toJsonAll, List.mapM_cons, ofJson?_toJson node, mapM_toJsonAll rest]
      rfl

end

/-- The trees that a dump is of. -/
def ofDump? (dump : String) : Option (List Node) := do
  let .array elements ← Json.ofText? dump | none
  elements.mapM ofJson?

theorem ofDump?_jsonDump (nodes : List Node) : ofDump? (jsonDump nodes) = some nodes := by
  unfold ofDump? jsonDump
  rw [Json.ofText?_pretty]
  exact mapM_toJsonAll nodes

/-- **The JSON dump loses nothing.** Whatever the trees are, and whatever their names and
texts, their dump is JSON, the trees are read back from it by the keys of its objects, and no
other trees have the same dump. -/
theorem jsonDump_lossless (nodes : List Node) :
    Json.Accepted (jsonDump nodes) ∧ ofDump? (jsonDump nodes) = some nodes ∧
      ∀ others, jsonDump others = jsonDump nodes → others = nodes := by
  refine ⟨Json.accepted_pretty _, ofDump?_jsonDump nodes, ?_⟩
  intro others same
  have read := ofDump?_jsonDump others
  rw [same, ofDump?_jsonDump nodes] at read
  exact (Option.some.inj read).symm

end Node

end Frontend
