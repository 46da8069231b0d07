import FleetSync.Json.Basic

/-!
# Merge patches

A merge patch (RFC 7386) describes a change of a document by a document: an object is merged field
by field, `null` removes a field, and any other value replaces what was there.
-/
namespace FleetSync.Json

mutual

def merge (target : Json) : Json → Json
  | .obj patch => .obj (mergeFields (fieldsOf target) patch)
  | patch => patch
where
  /-- What is not an object has no fields to keep. -/
  fieldsOf : Json → List (String × Json)
    | .obj fields => fields
    | _ => []

def mergeFields (fields : List (String × Json)) : List (String × Json) → List (String × Json)
  | [] => fields
  | (name, .null) :: rest => mergeFields (fields.filter (·.1 ≠ name)) rest
  | (name, patch) :: rest =>
    mergeFields (Dict.insertEntry name (merge ((lookup fields name).getD .null) patch) fields) rest

end

end FleetSync.Json
