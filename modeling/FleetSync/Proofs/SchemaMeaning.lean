import FleetSync.Proofs.InstantText
import FleetSync.Proofs.Records
import FleetSync.Schema

/-!
# What schemas mean

A server reads the schema of a manifest keyword by keyword. It refuses a document that is not valid,
drops the fields that are not declared, and fills in the default of a declared field that is
missing. All of this is done at each part of a document by the schema that is declared for it. What
is admitted throughout is neither refused nor changed.
-/
namespace FleetSync

/-! Times of the form `date-time` of RFC 3339. Days and minutes are counted from 1970-01-01 in UTC.
Which days end with a leap second is announced from time to time, and a server may know of none. -/

inductive IsFraction : List Char → Prop
  | none : IsFraction []
  | some {digits : List Char} (hne : digits ≠ []) (hdigits : ∀ c ∈ digits, c.isDigit) :
      IsFraction ('.' :: digits)

/-- An offset with the minutes by which it is ahead of UTC. -/
inductive IsOffset : List Char → Int → Prop
  | utc {mark : Char} (hmark : mark = 'Z' ∨ mark = 'z') : IsOffset [mark] 0
  | numeric {sign : Char} {hours minutes : List Char} {h m : Nat} {ahead : Int}
      (hsign : sign = '+' ∧ ahead = h * 60 + m ∨ sign = '-' ∧ ahead = -(h * 60 + m))
      (hhours : Instant.Spells hours 2 h) (hh : h ≤ 23) (hminutes : Instant.Spells minutes 2 m)
      (hm : m ≤ 59) : IsOffset (sign :: (hours ++ ':' :: minutes)) ahead

/-- A second of a minute. Only the last minute of a day that ends with a leap second has one more
than 59. -/
def IsSecond (longDays : Set Int) (minute : Int) (second : Nat) : Prop :=
  second ≤ 59 ∨ second = 60 ∧ ∃ day ∈ longDays, minute = day * 1440 + 1439

inductive IsDateTime (longDays : Set Int) : List Char → Prop
  | intro {years months days hours minutes seconds fraction offset : List Char} {mark : Char}
      {year month day hour minute second : Nat} {ahead : Int} (hyears : Instant.Spells years 4 year)
      (hmonths : Instant.Spells months 2 month) (hdays : Instant.Spells days 2 day)
      (hdate : Calendar.Date.valid ⟨year, month, day⟩ = true) (hmark : mark = 'T' ∨ mark = 't')
      (hhours : Instant.Spells hours 2 hour) (hhour : hour ≤ 23)
      (hminutes : Instant.Spells minutes 2 minute) (hminute : minute ≤ 59)
      (hseconds : Instant.Spells seconds 2 second)
      (hsecond : IsSecond longDays
        (Calendar.dayNumber ⟨year, month, day⟩ * 1440 + (hour * 60 + minute) - ahead) second)
      (hfraction : IsFraction fraction) (hoffset : IsOffset offset ahead) :
      IsDateTime longDays (years ++ '-' :: (months ++ '-' :: (days ++ mark :: (hours ++ ':' ::
        (minutes ++ ':' :: (seconds ++ (fraction ++ offset)))))))

theorem IsOffset.eq_zero_of_append {offset l l' : List Char} {ahead : Int}
    (h : IsOffset offset ahead) (heq : l ++ ['Z'] = l' ++ offset) : ahead = 0 := by
  cases h with
  | utc => rfl
  | @numeric sign hours minutes _ _ _ _ _ _ hminutes =>
    have hne : minutes ≠ [] := by
      rintro rfl
      cases hminutes.length_eq
    have hlast : l ++ ['Z'] =
        (l' ++ sign :: (hours ++ ':' :: minutes.dropLast)) ++ [minutes.getLast hne] := by
      simp only [heq, List.append_assoc, List.cons_append, List.dropLast_concat_getLast]
    have hmark : 'Z' = minutes.getLast hne := List.head_eq_of_cons_eq (List.append_inj' hlast rfl).2
    have hdigit := hminutes.isDigit _ (List.getLast_mem hne)
    rw [← hmark] at hdigit
    cases hdigit

namespace Instant

theorem isFraction_padded {width n : Nat} (hwidth : 0 < width) (hn : n < Nat.pow 10 width) :
    IsFraction ("." ++ padded width n).toList := by
  have hspells := spells_padded hwidth hn
  have hne : (padded width n).toList ≠ [] := by
    intro hnil
    have hlength : ([] : List Char).length = width := hnil ▸ hspells.length_eq
    exact Nat.ne_of_lt hwidth hlength
  rw [String.toList_append]
  exact .some hne hspells.isDigit

theorem isFraction_fractionText {nanos : Nat} (h : nanos < 1000000000) :
    IsFraction (fractionText nanos).toList := by
  have hmillis : nanos / 1000000 < 1000 := by omega
  have hmicros : nanos / 1000 < 1000000 := by omega
  unfold fractionText
  split
  · exact .none
  split
  · exact isFraction_padded (by decide) hmillis
  split
  · exact isFraction_padded (by decide) hmicros
  · exact isFraction_padded (by decide) h

section Unique
variable {cs cs' rest rest' : List Char} {width n n' : Nat}

/-- Texts that begin with numbers of one width begin with the same number. -/
theorem Spells.unique (h : Spells cs width n) (h' : Spells cs' width n')
    (heq : cs ++ rest = cs' ++ rest') : n = n' ∧ rest = rest' := by
  obtain ⟨rfl, hrest⟩ := List.append_inj heq (h.length_eq.trans h'.length_eq.symm)
  exact ⟨h.value_eq.symm.trans h'.value_eq, hrest⟩

theorem Spells.unique_cons {c c' : Char} (h : Spells cs width n) (h' : Spells cs' width n')
    (heq : cs ++ c :: rest = cs' ++ c' :: rest') : n = n' ∧ rest = rest' := by
  obtain ⟨hn, hrest⟩ := h.unique h' heq
  exact ⟨hn, List.tail_eq_of_cons_eq hrest⟩

end Unique

/-- A sixtieth second is the leap second of one of these days. -/
def LeapsOnlyOn (longDays : Set Int) (t : Instant) : Prop :=
  1000000000 ≤ t.nanos → ∃ day ∈ longDays, t.seconds = day * 86400 + 86399

section DateTime
variable {longDays : Set Int} {t : Instant}

theorem isSecond_iff :
    IsSecond longDays (Calendar.dayNumber t.date * 1440 +
      ((t.secondOfDay / 3600 : Nat) * 60 + (t.secondOfDay / 60 % 60 : Nat)) - 0)
      (t.secondOfDay % 60 + t.leapSecond) ↔ t.LeapsOnlyOn longDays := by
  have hnumber : Calendar.dayNumber t.date = t.seconds / 86400 := Calendar.dayNumber_date _
  have hday := t.natCast_secondOfDay
  unfold IsSecond LeapsOnlyOn leapSecond
  rw [hnumber]
  by_cases hleap : 1000000000 ≤ t.nanos
  · have hlast := t.leap hleap
    simp only [hleap, if_true, true_imp_iff]
    constructor
    · intro h
      obtain ⟨-, day, hmem, hminute⟩ := h.resolve_left (by omega)
      exact ⟨day, hmem, by omega⟩
    · rintro ⟨day, hmem, hseconds⟩
      exact .inr ⟨by omega, day, hmem, by omega⟩
  · simp only [hleap, if_false, false_imp_iff, iff_true]
    exact .inl (by omega)

/-- An instant of the years 0 to 9999 is written as a time of this form exactly if a sixtieth second
of it is a leap second. -/
theorem isDateTime_toRfc3339_iff (hyear : 0 ≤ t.date.year ∧ t.date.year ≤ 9999) :
    IsDateTime longDays t.toRfc3339.toList ↔ t.LeapsOnlyOn longDays := by
  have hvalid : t.date.valid = true := Calendar.valid_date _
  obtain ⟨hmonth, hday⟩ := Calendar.bounds_of_valid hvalid
  have hsecond := t.secondOfDay_lt
  have hleap := t.leapSecond_le
  have hdate :
      (⟨(t.date.year.toNat : Int), t.date.month, t.date.day⟩ : Calendar.Date) = t.date := by
    rw [Int.toNat_of_nonneg hyear.1]
  have htwo {n : Nat} (h : n < 100) : Spells (padded 2 n).toList 2 n := spells_padded (by decide) h
  have hyears : Spells (padded 4 t.date.year.toNat).toList 4 t.date.year.toNat :=
    spells_padded (by decide) (show t.date.year.toNat < 10000 by omega)
  rw [← isSecond_iff]
  constructor
  · generalize htext : t.toRfc3339.toList = text
    rw [toList_toRfc3339 hyear] at htext
    rintro ⟨hyears', hmonths', hdays', -, -, hhours', -, hminutes', -, hseconds', hsecond', -,
      hoffset'⟩
    obtain ⟨hyear', htext⟩ := hyears.unique_cons hyears' htext
    obtain ⟨hmonth', htext⟩ := (htwo (by omega)).unique_cons hmonths' htext
    obtain ⟨hday', htext⟩ := (htwo (by omega)).unique_cons hdays' htext
    obtain ⟨hhour', htext⟩ := (htwo (by omega)).unique_cons hhours' htext
    obtain ⟨hminute', htext⟩ := (htwo (by omega)).unique_cons hminutes' htext
    obtain ⟨hsecond'', htext⟩ := (htwo (by omega)).unique hseconds' htext
    rw [hoffset'.eq_zero_of_append htext, ← hyear', ← hmonth', ← hday', hdate, ← hhour', ← hminute',
      ← hsecond''] at hsecond'
    exact hsecond'
  · intro h
    rw [toList_toRfc3339 hyear]
    exact .intro hyears (htwo (by omega)) (htwo (by omega)) (hdate ▸ hvalid) (.inl rfl)
      (htwo (by omega)) (by omega) (htwo (by omega)) (by omega) (htwo (by omega)) (hdate ▸ h)
      (isFraction_fractionText t.writtenNanos_lt) (.utc (.inl rfl))

end DateTime

end Instant

/-! Schemas as documents -/
namespace Json

def hasType : Json → String → Bool
  | .bool _, type => type == "boolean"
  | .int _, type => type == "integer" || type == "number"
  | .decimal _ _, type => type == "number"
  | .str _, type => type == "string"
  | .arr _, type => type == "array"
  | .obj _, type => type == "object"
  | _, _ => false

def schemaKeywords : List String :=
  ["additionalProperties", "default", "description", "enum", "format", "items", "nullable",
    "properties", "required", "title", "type"]

/-- The schema that is declared for a field. -/
def fieldSchema? (schema : Json) (name : String) : Option Json :=
  (schema.path? ["properties", name]).or (schema.get? "additionalProperties")

def properties (schema : Json) : List (String × Json) :=
  match schema.get? "properties" with
  | some (.obj fields) => fields
  | _ => []

/-- All keywords of the schema are understood, and those that are about the value itself hold. The
only format is that of times. -/
structure Meets (IsTime : List Char → Prop) (schema value : Json) : Prop where
  understood : ∀ keyword, (schema.get? keyword).isSome → keyword ∈ schemaKeywords
  type : ∀ type, schema.get? "type" = some type → ∃ name, type = .str name ∧
    (value.hasType name = true ∨ value = .null ∧ schema.get? "nullable" = some (.bool true))
  enum : ∀ enum, schema.get? "enum" = some enum → ∃ choices, enum = .arr choices ∧ value ∈ choices
  format : ∀ format, schema.get? "format" = some format → format = .str "date-time" ∧
    ∀ text, value = .str text → IsTime text.toList
  required : ∀ required, schema.get? "required" = some required →
    ∃ names : List String, required = .arr (names.map .str) ∧
      ∀ fields, value = .obj fields → ∀ name ∈ names, (lookup fields name).isSome

/-- The fields of the value are declared, and so is what its items are. -/
structure Declares (schema value : Json) : Prop where
  items : ∀ values, value = .arr values → (schema.get? "items").isSome
  fields : ∀ fields, value = .obj fields → ∀ f ∈ fields, (schema.fieldSchema? f.1).isSome

/-- No field with a default is missing. -/
def Filled (schema value : Json) : Prop :=
  ∀ fields, value = .obj fields → ∀ p ∈ schema.properties, (p.2.get? "default").isSome →
    (lookup fields p.1).isSome

/-- A property of a value and its schema, of its items and theirs, and of its fields and theirs. -/
inductive Throughout (P : Json → Json → Prop) : Json → Json → Prop
  | intro {schema value : Json} (here : P schema value)
      (items : ∀ s values, schema.get? "items" = some s → value = .arr values →
        ∀ v ∈ values, Throughout P s v)
      (fields : ∀ fields, value = .obj fields → ∀ f ∈ fields, ∀ s,
        schema.fieldSchema? f.1 = some s → Throughout P s f.2) : Throughout P schema value

/-- The value is valid where these days are known to end with a leap second. -/
def Valid (longDays : Set Int) : Json → Json → Prop := Throughout (Meets (IsDateTime longDays))

def Declared : Json → Json → Prop := Throughout Declares

section Throughout
variable {P P' : Json → Json → Prop} {schema value : Json}

theorem Throughout.mono (h : Throughout P schema value) (hmono : ∀ s v, P s v → P' s v) :
    Throughout P' schema value := by
  induction h with
  | intro here items fields ihitems ihfields =>
    exact .intro (hmono _ _ here) ihitems ihfields

theorem Throughout.here (h : Throughout P schema value) : P schema value := by
  cases h
  assumption

theorem Throughout.item {s : Json} {values : List Json} (h : Throughout P schema (.arr values))
    (hs : schema.get? "items" = some s) : ∀ v ∈ values, Throughout P s v := by
  cases h with
  | intro here items fields => exact items s values hs rfl

theorem Throughout.field {s : Json} {fields : List (String × Json)} {f : String × Json}
    (h : Throughout P schema (.obj fields)) (hf : f ∈ fields)
    (hs : schema.fieldSchema? f.1 = some s) : Throughout P s f.2 := by
  cases h with
  | intro here items fields' => exact fields' fields rfl f hf s hs

end Throughout

/-! What a server makes of a document -/

mutual

/-- The value with each of its objects brought into shape by the schema that is declared for it. -/
def reshape (shape : Json → List (String × Json) → List (String × Json)) (schema : Json) :
    Json → Json
  | .arr values => .arr (reshapeItems shape (schema.get? "items") values)
  | .obj fields => .obj (shape schema (reshapeFields shape schema fields))
  | value => value

def reshapeItems (shape : Json → List (String × Json) → List (String × Json))
    (schema? : Option Json) : List Json → List Json
  | [] => []
  | value :: rest =>
    schema?.elim value (reshape shape · value) :: reshapeItems shape schema? rest

def reshapeFields (shape : Json → List (String × Json) → List (String × Json)) (schema : Json) :
    List (String × Json) → List (String × Json)
  | [] => []
  | (name, value) :: rest =>
    (name, (schema.fieldSchema? name).elim value (reshape shape · value)) ::
      reshapeFields shape schema rest

end

def prune : Json → Json → Json :=
  reshape fun schema fields => fields.filter fun f => (schema.fieldSchema? f.1).isSome

def addDefault (fields : List (String × Json)) (property : String × Json) :
    List (String × Json) :=
  match property.2.get? "default" with
  | some value =>
    if (lookup fields property.1).isSome then fields
    else Dict.insertEntry property.1 value fields
  | none => fields

def fill : Json → Json → Json :=
  reshape fun schema fields => schema.properties.foldl addDefault fields

section Reshape
variable {P : Json → Json → Prop} {schema value : Json}
  {shape : Json → List (String × Json) → List (String × Json)}

/-- What has its shape throughout stays as it is. -/
theorem reshape_eq (h : Throughout P schema value)
    (hshape : ∀ s fields, P s (.obj fields) → shape s fields = fields) :
    reshape shape schema value = value := by
  induction h with
  | @intro schema value here items fields ihitems ihfields =>
    cases value with
    | arr values =>
      have hitems (vs : List Json) (h : ∀ v ∈ vs, v ∈ values) :
          reshapeItems shape (schema.get? "items") vs = vs := by
        induction vs with
        | nil => rfl
        | cons v vs ih =>
          obtain ⟨hv, hvs⟩ := List.forall_mem_cons.1 h
          unfold reshapeItems
          rw [ih hvs]
          cases hs : schema.get? "items" with
          | none => rfl
          | some s => exact congrArg (· :: vs) (ihitems s values hs rfl v hv)
      exact congrArg arr (hitems values fun _ hv => hv)
    | obj fs =>
      have hfields (gs : List (String × Json)) (h : ∀ f ∈ gs, f ∈ fs) :
          reshapeFields shape schema gs = gs := by
        induction gs with
        | nil => rfl
        | cons f gs ih =>
          obtain ⟨hf, hgs⟩ := List.forall_mem_cons.1 h
          unfold reshapeFields
          rw [ih hgs]
          cases hs : schema.fieldSchema? f.1 with
          | none => rfl
          | some s => exact congrArg (fun v => (f.1, v) :: gs) (ihfields fs rfl f hf s hs)
      unfold reshape
      rw [hfields fs fun _ hf => hf, hshape schema fs here]
    | null => rfl
    | bool b => rfl
    | int n => rfl
    | decimal d e => rfl
    | str s => rfl
    | unreadable => rfl

theorem prune_eq_of_declared (h : Declared schema value) : prune schema value = value :=
  reshape_eq h fun _ fields hdeclares => List.filter_eq_self.2 (hdeclares.fields fields rfl)

theorem fill_eq_of_filled (h : Throughout Filled schema value) : fill schema value = value := by
  refine reshape_eq h fun s fields hfilled => ?_
  have hproperties := hfilled fields rfl
  generalize s.properties = properties at hproperties
  induction properties with
  | nil => rfl
  | cons p properties ih =>
    obtain ⟨hp, hproperties⟩ := List.forall_mem_cons.1 hproperties
    have hsame : addDefault fields p = fields := by
      unfold addDefault
      split
      · rename_i d hd
        exact if_pos (hp (hd ▸ rfl))
      · rfl
    rw [List.foldl_cons, hsame, ih hproperties]

end Reshape

/-- A value is neither refused nor changed by what is done at this part of it. -/
structure Fits (IsTime : List Char → Prop) (schema value : Json) : Prop where
  meets : Meets IsTime schema value
  declares : Declares schema value
  filled : Filled schema value

def Admits (IsTime : List Char → Prop) : Json → Json → Prop := Throughout (Fits IsTime)

section Admits
variable {IsTime : List Char → Prop} {schema value : Json}

theorem Admits.meets (h : Admits IsTime schema value) : Throughout (Meets IsTime) schema value :=
  h.mono fun _ _ hfits => hfits.meets

theorem Admits.declared (h : Admits IsTime schema value) : Declared schema value :=
  h.mono fun _ _ hfits => hfits.declares

theorem Admits.fill_prune (h : Admits IsTime schema value) :
    fill schema (prune schema value) = value := by
  rw [prune_eq_of_declared h.declared]
  exact fill_eq_of_filled (h.mono fun _ _ hfits => hfits.filled)

end Admits

end Json

/-! The keywords of a schema -/
namespace Schema

def type : Schema → String
  | text .. => "string"
  | flag _ => "boolean"
  | list .. => "array"
  | table .. => "object"
  | record .. => "object"

def choices : Schema → List String
  | text _ choices _ => choices
  | _ => []

def isTime : Schema → Bool
  | text _ _ isTime => isTime
  | _ => false

def required : Schema → List String
  | record _ _ _ required => required
  | _ => []

def items? : Schema → Option Schema
  | list _ items => some items
  | _ => none

def default? : Schema → Option Json
  | text n _ _ => n.default
  | flag n => n.default
  | list n _ => n.default
  | table n _ => n.default
  | record n _ _ _ => n.default

def fields : Schema → List (String × Schema)
  | record _ _ fields _ => fields
  | _ => []

def ofField? (fields : List (String × Schema)) (name : String) : Option Schema :=
  (fields.reverse.find? (·.1 = name)).map (·.2)

/-- The schema of a field, whether it is declared or its name is free. -/
def field? : Schema → String → Option Schema
  | table _ values, _ => some values
  | record _ _ fields _, name => ofField? fields name
  | _, _ => none

theorem fieldsJson_eq (fields : List (String × Schema)) :
    fieldsJson fields = fields.map fun f => (f.1, f.2.toJson) := by
  induction fields with
  | nil => rfl
  | cons f fields ih => exact congrArg (_ :: ·) ih

theorem given?_fieldsJson (fields : List (String × Schema)) (name : String) :
    Json.given? (fieldsJson fields) name = (ofField? fields name).map toJson := by
  unfold Json.given? ofField?
  rw [fieldsJson_eq, ← List.map_reverse, List.find?_map, Option.map_map, Option.map_map]
  rfl

section Keywords
variable (s : Schema)

theorem get?_type : s.toJson.get? "type" = some (.str s.type) := by
  cases s <;> simp [-List.isEmpty_iff, toJson, Json.get?_object, SchemaNotes.fields, type]

theorem get?_enum : s.toJson.get? "enum" =
    if s.choices.isEmpty then none else some (strings s.choices) := by
  cases s <;> simp [-List.isEmpty_iff, toJson, Json.get?_object, SchemaNotes.fields, choices]
  rfl

theorem get?_format : s.toJson.get? "format" =
    if s.isTime then some (.str "date-time") else none := by
  cases s <;> simp [-List.isEmpty_iff, toJson, Json.get?_object, SchemaNotes.fields, isTime]
  rfl

theorem get?_required : s.toJson.get? "required" =
    if s.required.isEmpty then none else some (strings s.required) := by
  cases s <;> simp [-List.isEmpty_iff, toJson, Json.get?_object, SchemaNotes.fields, required]
  rfl

theorem get?_items : s.toJson.get? "items" = s.items?.map toJson := by
  cases s <;> simp [-List.isEmpty_iff, toJson, Json.get?_object, SchemaNotes.fields, items?]

theorem get?_default : s.toJson.get? "default" = s.default? := by
  cases s <;> simp [-List.isEmpty_iff, toJson, Json.get?_object, SchemaNotes.fields, default?]

theorem fieldSchema?_toJson (name : String) :
    s.toJson.fieldSchema? name = (s.field? name).map toJson := by
  cases s <;> simp [-List.isEmpty_iff, toJson, Json.fieldSchema?, Json.path?, Json.get?_object,
    SchemaNotes.fields, field?, given?_fieldsJson]

theorem exists_of_mem_properties {p : String × Json} (h : p ∈ s.toJson.properties) :
    ∃ f ∈ s.fields, p = (f.1, f.2.toJson) := by
  have hproperties : s.toJson.get? "properties" =
      if s matches record .. then some (Json.object (fieldsJson s.fields)) else none := by
    cases s <;> simp [-List.isEmpty_iff, toJson, Json.get?_object, SchemaNotes.fields, fields]
  have hmem : p ∈ fieldsJson s.fields := by
    unfold Json.properties at h
    rw [hproperties] at h
    cases s with
    | record n title fields required =>
      rw [if_pos rfl, Json.object_eq] at h
      exact Json.mem_of_mem_ofList h
    | text => cases h
    | flag => cases h
    | list => cases h
    | table => cases h
  rw [fieldsJson_eq] at hmem
  obtain ⟨f, hf, rfl⟩ := List.mem_map.1 hmem
  exact ⟨f, hf, rfl⟩

/-- A schema is written with no other keywords than those that are understood. -/
theorem mem_schemaKeywords {keyword : String} (h : (s.toJson.get? keyword).isSome) :
    keyword ∈ Json.schemaKeywords := by
  by_contra hne
  simp only [Json.schemaKeywords, List.mem_cons, List.not_mem_nil, or_false, not_or, ← ne_eq]
    at hne
  have hsymm {name : String} (hne : keyword ≠ name) : ¬name = keyword := fun h => hne h.symm
  cases s <;>
    simp [-List.isEmpty_iff, toJson, Json.get?_object, SchemaNotes.fields, hsymm, hne] at h

end Keywords

/-! What a schema admits -/
section Admits
variable {IsTime : List Char → Prop} {s : Schema} {j : Json}

theorem fits_toJson (htype : j.hasType s.type = true)
    (hchoices : s.choices = [] ∨ ∃ text ∈ s.choices, j = .str text)
    (htime : s.isTime = true → ∀ text, j = .str text → IsTime text.toList)
    (hitems : ∀ values, j = .arr values → s.items?.isSome)
    (hfields : ∀ fields, j = .obj fields → (∀ f ∈ fields, (s.field? f.1).isSome) ∧
      (∀ name ∈ s.required, (Json.lookup fields name).isSome) ∧
      ∀ f ∈ s.fields, f.2.default?.isSome → (Json.lookup fields f.1).isSome) :
    Json.Fits IsTime s.toJson j where
  meets := by
    refine ⟨fun _ => s.mem_schemaKeywords, ?_, ?_, ?_, ?_⟩
    · intro type h
      rw [get?_type] at h
      cases h
      exact ⟨s.type, rfl, .inl htype⟩
    · intro enum h
      rw [get?_enum] at h
      split at h
      · cases h
      · rename_i hne
        cases h
        obtain ⟨text, htext, rfl⟩ := hchoices.resolve_left fun hnil => hne (hnil ▸ rfl)
        exact ⟨_, rfl, List.mem_map_of_mem htext⟩
    · intro format h
      rw [get?_format] at h
      split at h
      · rename_i h'
        cases h
        exact ⟨rfl, htime h'⟩
      · cases h
    · intro required h
      rw [get?_required] at h
      split at h
      · cases h
      · cases h
        exact ⟨s.required, rfl, fun fields hj => (hfields fields hj).2.1⟩
  declares := by
    constructor
    · intro values hj
      rw [get?_items, Option.isSome_map]
      exact hitems values hj
    · intro fields hj f hf
      rw [fieldSchema?_toJson, Option.isSome_map]
      exact (hfields fields hj).1 f hf
  filled fields hj p hp hdefault := by
    obtain ⟨f, hf, rfl⟩ := s.exists_of_mem_properties hp
    rw [get?_default] at hdefault
    exact (hfields fields hj).2.2 f hf hdefault

/-- A value is admitted if it fits, its items are admitted and its fields are. -/
theorem admits_of_fits (h : Json.Fits IsTime s.toJson j)
    (hitems : ∀ values, j = .arr values → ∀ item, s.items? = some item →
      ∀ v ∈ values, Json.Admits IsTime item.toJson v)
    (hfields : ∀ fields, j = .obj fields → ∀ f ∈ fields, ∀ s', s.field? f.1 = some s' →
      Json.Admits IsTime s'.toJson f.2) : Json.Admits IsTime s.toJson j := by
  refine .intro h ?_ ?_
  · intro written values hwritten hj
    rw [get?_items] at hwritten
    obtain ⟨item, hitem, rfl⟩ := Option.map_eq_some_iff.1 hwritten
    exact hitems values hj item hitem
  · intro fields hj f hf written hwritten
    rw [fieldSchema?_toJson] at hwritten
    obtain ⟨s', hs', rfl⟩ := Option.map_eq_some_iff.1 hwritten
    exact hfields fields hj f hf s' hs'

theorem admits_text (n : SchemaNotes) {choices : List String} {isTime : Bool} {value : String}
    (hchoices : choices = [] ∨ value ∈ choices)
    (htime : isTime = true → IsTime value.toList) :
    Json.Admits IsTime (text n choices isTime).toJson (.str value) := by
  refine admits_of_fits (fits_toJson rfl ?_ ?_ nofun nofun) nofun nofun
  · exact hchoices.imp_right fun h => ⟨value, h, rfl⟩
  · intro h value' hvalue
    cases hvalue
    exact htime h

theorem admits_flag (n : SchemaNotes) (b : Bool) : Json.Admits IsTime (flag n).toJson (.bool b) :=
  admits_of_fits (fits_toJson rfl (.inl rfl) nofun nofun nofun) nofun nofun

theorem admits_list (n : SchemaNotes) {items : Schema} {values : List Json}
    (h : ∀ v ∈ values, Json.Admits IsTime items.toJson v) :
    Json.Admits IsTime (list n items).toJson (.arr values) := by
  refine admits_of_fits (fits_toJson rfl (.inl rfl) nofun (fun _ _ => rfl) nofun) ?_ nofun
  intro values' hvalues item hitem
  cases hvalues
  cases hitem
  exact h

theorem admits_table {α : Type} (n : SchemaNotes) {values : Schema} {write : α → Json}
    {d : StrDict α} (h : ∀ e ∈ d.entries, Json.Admits IsTime values.toJson (write e.2)) :
    Json.Admits IsTime (table n values).toJson (Json.ofDict write d) := by
  refine admits_of_fits (fits_toJson rfl (.inl rfl) nofun nofun fun _ _ => ⟨?_, nofun, nofun⟩)
    nofun ?_
  · exact fun _ _ => rfl
  · intro fields hfields f hf s' hs'
    cases hfields
    cases hs'
    obtain ⟨e, he, rfl⟩ := List.mem_map.1 hf
    exact h e he

theorem admits_record (n : SchemaNotes) (title : Option String)
    {fields : List (String × Schema)} {required : List String} {l : List (String × Json)}
    (hfields : ∀ f ∈ l, ∃ s, ofField? fields f.1 = some s ∧ Json.Admits IsTime s.toJson f.2)
    (hrequired : ∀ name ∈ required, (Json.given? l name).isSome)
    (hdefault : ∀ f ∈ fields, f.2.default?.isSome → (Json.given? l f.1).isSome) :
    Json.Admits IsTime (record n title fields required).toJson (Json.object l) := by
  rw [Json.object_eq]
  refine admits_of_fits (fits_toJson rfl (.inl rfl) nofun nofun ?_) nofun ?_
  · intro written hwritten
    cases hwritten
    simp only [Json.lookup_ofList]
    refine ⟨?_, hrequired, hdefault⟩
    intro f hf
    obtain ⟨s, hs, -⟩ := hfields f (Json.mem_of_mem_ofList hf)
    exact Option.isSome_iff_exists.2 ⟨s, hs⟩
  · intro written hwritten f hf s' hs'
    cases hwritten
    obtain ⟨s, hs, hadmits⟩ := hfields f (Json.mem_of_mem_ofList hf)
    cases hs.symm.trans hs'
    exact hadmits

end Admits

/-! What holds throughout what is written -/
section Throughout
variable {P : Json → Json → Prop} {n : SchemaNotes}

theorem throughout_items {items : Schema} {values : List Json}
    (h : Json.Throughout P (list n items).toJson (.arr values)) :
    ∀ v ∈ values, Json.Throughout P items.toJson v := by
  refine h.item ?_
  rw [get?_items]
  rfl

theorem throughout_values {α : Type} {values : Schema} {write : α → Json} {d : StrDict α}
    (h : Json.Throughout P (table n values).toJson (Json.ofDict write d)) :
    ∀ e ∈ d.entries, Json.Throughout P values.toJson (write e.2) := by
  intro e he
  refine h.field (f := (e.1, write e.2)) (List.mem_map_of_mem he) ?_
  rw [fieldSchema?_toJson]
  rfl

theorem throughout_field {title : Option String} {fields : List (String × Schema)}
    {required : List String} {l : List (String × Json)} {s : Schema} {j : Json} (name : String)
    (h : Json.Throughout P (record n title fields required).toJson (Json.object l))
    (hs : ofField? fields name = some s) (hj : Json.given? l name = some j) :
    Json.Throughout P s.toJson j := by
  rw [Json.object_eq] at h
  refine h.field (f := (name, j)) (Json.mem_of_lookup ?_) ?_
  · rw [Json.lookup_ofList, hj]
  · rw [fieldSchema?_toJson]
    exact congrArg (Option.map toJson) hs

theorem isTime_of_throughout {IsTime : List Char → Prop} {choices : List String} {value : String}
    (h : Json.Throughout (Json.Meets IsTime) (text n choices true).toJson (.str value)) :
    IsTime value.toList := by
  refine (h.here.format (.str "date-time") ?_).2 value rfl
  rw [get?_format]
  rfl

end Throughout

end Schema

end FleetSync
