import FleetSync.Json.Printer
import FleetSync.Yaml.Plain
import FleetSync.Yaml.Scalar

/-!
# Writing YAML

A document over lines: a field or an item a line, the parts of a field indented by two blanks, the
items of a list at the column of their field. A text is written without quotes where it then still
stands for itself.
-/
namespace FleetSync.Yaml

/-- A place in a text where a plain scalar would end. -/
def endsPlain : List Char → Bool
  | [] => false
  | [c] => c == ':' || c == ' '
  | c :: d :: rest =>
    (c == ':' && d == ' ') || (c == ' ' && d == '#') || c.toNat < 0x20 || endsPlain (d :: rest)

def isPlain (s : String) : Bool :=
  Scalar.isText s && !endsPlain s.toList &&
    (s.toList.head?).all fun c => !(indicators.contains c) && c != ' '

def scalarText (s : String) : String :=
  if isPlain s then s
  else if s.toList.any (·.toNat < 0x20) then Json.renderString s
  else "'" ++ String.ofList (s.toList.flatMap fun c => if c = '\'' then [c, c] else [c]) ++ "'"

def indent (lines : List String) : List String := lines.map fun l => "  " ++ l

/-- The lines of an item after its dash. -/
def itemLines : List String → List String
  | [] => []
  | first :: rest => ("- " ++ first) :: indent rest

mutual

def lines : Json → List String
  | .str s => [scalarText s]
  | .arr [] => ["[]"]
  | .obj [] => ["\x7b\x7d"]
  | .arr items => itemsLines items
  | .obj fields => fieldsLines fields
  | j => [j.render]

def itemsLines : List Json → List String
  | [] => []
  | j :: rest => itemLines (lines j) ++ itemsLines rest

def fieldsLines : List (String × Json) → List String
  | [] => []
  | (name, j) :: rest =>
    let head := scalarText name ++ ":"
    let here := match j with
      | .arr (_ :: _) => head :: lines j
      | .obj (_ :: _) => head :: indent (lines j)
      | _ => [head ++ " " ++ String.intercalate "\n" (lines j)]
    here ++ fieldsLines rest

end

def render (j : Json) : String := String.join ((lines j).map (· ++ "\n"))

end FleetSync.Yaml
