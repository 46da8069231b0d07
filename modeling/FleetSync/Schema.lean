import FleetSync.Json.Basic

/-!
# Structural schemas

The shape of a stored document as its manifest declares it: texts, flags, lists, tables with free
keys, and records with declared fields. Each part may be described, may admit `null`, and may have
a default that the server fills in.
-/
namespace FleetSync

/-- What a schema says beside the form of the value. -/
structure SchemaNotes where
  description : Option String := none
  nullable : Bool := false
  default : Option Json := none

inductive Schema where
  /-- A text, one of the choices if there are any, an instant if `isTime`. -/
  | text (notes : SchemaNotes) (choices : List String) (isTime : Bool)
  | flag (notes : SchemaNotes)
  | list (notes : SchemaNotes) (items : Schema)
  /-- An object with free keys. -/
  | table (notes : SchemaNotes) (values : Schema)
  /-- An object with these fields, some of which have to be there. -/
  | record (notes : SchemaNotes) (title : Option String) (fields : List (String × Schema))
      (required : List String)

namespace Schema

def SchemaNotes.fields (n : SchemaNotes) : List (String × Json) :=
  Json.field "description" .str n.description ++
  (if n.nullable then [("nullable", .bool true)] else []) ++
  Json.field "default" id n.default

def strings (l : List String) : Json := .arr (l.map .str)

mutual

def toJson : Schema → Json
  | text n choices isTime => Json.object <|
    SchemaNotes.fields n ++ [("type", .str "string")] ++
    (if choices.isEmpty then [] else [("enum", strings choices)]) ++
    (if isTime then [("format", .str "date-time")] else [])
  | flag n => Json.object (SchemaNotes.fields n ++ [("type", .str "boolean")])
  | list n items => Json.object <|
    SchemaNotes.fields n ++ [("type", .str "array"), ("items", items.toJson)]
  | table n values => Json.object <|
    SchemaNotes.fields n ++ [("type", .str "object"), ("additionalProperties", values.toJson)]
  | record n title fields required => Json.object <|
    SchemaNotes.fields n ++ Json.field "title" .str title ++
    [("type", .str "object"), ("properties", Json.object (fieldsJson fields))] ++
    (if required.isEmpty then [] else [("required", strings required)])

def fieldsJson : List (String × Schema) → List (String × Json)
  | [] => []
  | (name, s) :: rest => (name, s.toJson) :: fieldsJson rest

end

def described (description : String) : SchemaNotes := { description := some description }

def optional (description : String) : SchemaNotes :=
  { description := some description, nullable := true }

def defaulted (description : String) (default : Json) : SchemaNotes :=
  { description := some description, default := some default }

def texts (notes : SchemaNotes) : Schema := table notes (text {} [] false)

end Schema

end FleetSync
