import FleetSync.Json.Reader

/-!
# Records are read as they are written

A settled object lists its fields in key order and holds one value for each name, the last one that
was given. What a reader finds in it under a name is therefore a matter of the fields that were
written, whatever their order, and a field that was left out is found missing.
-/
namespace FleetSync

namespace Json

/-- What a list of fields gives to a name. -/
def given? (fields : List (String × Json)) (name : String) : Option Json :=
  (fields.reverse.find? (·.1 = name)).map (·.2)

section Given
variable {α : Type} {name : String}

@[simp] theorem given?_nil : given? [] name = none := rfl

@[simp] theorem given?_append (l l' : List (String × Json)) :
    given? (l ++ l') name = (given? l' name).or (given? l name) := by
  simp [given?, Option.map_or]

@[simp] theorem given?_cons (f : String × Json) (l : List (String × Json)) :
    given? (f :: l) name = (given? l name).or (if f.1 = name then some f.2 else none) := by
  have happend : given? ([f] ++ l) name = _ := given?_append [f] l
  refine happend.trans (congrArg _ ?_)
  by_cases h : f.1 = name <;> simp [given?, h]

@[simp] theorem given?_field (name' : String) (write : α → Json) (a : Option α) :
    given? (field name' write a) name = if name' = name then a.map write else none := by
  cases a with
  | none => simp [field]
  | some a => simp [field]

@[simp] theorem given?_unless (name' : String) (empty : Bool) (j : Json) :
    given? (if empty then [] else [(name', j)]) name =
      if name' = name then (if empty then none else some j) else none := by
  cases empty <;> simp

@[simp] theorem given?_when (name' : String) (present : Bool) (j : Json) :
    given? (if present then [(name', j)] else []) name =
      if name' = name then (if present then some j else none) else none := by
  cases present <;> simp

end Given

theorem object_eq (l : List (String × Json)) : object l = .obj (Dict.ofList l).entries :=
  congrArg obj (Dict.entries_ofList l).symm

theorem mem_of_mem_ofList {l : List (String × Json)} {f : String × Json}
    (h : f ∈ (Dict.ofList l).entries) : f ∈ l := by
  have hfoldl (l' entries : List (String × Json))
      (h : f ∈ l'.foldl (fun entries e => Dict.insertEntry e.1 e.2 entries) entries) :
      f ∈ entries ∨ f ∈ l' := by
    induction l' generalizing entries with
    | nil => exact .inl h
    | cons e l' ih =>
      rcases ih _ h with h | h
      · exact (Dict.mem_insertEntry_key h).symm.imp_right fun h => List.mem_cons.2 (.inl h)
      · exact .inr (List.mem_cons_of_mem _ h)
  rw [Dict.entries_ofList] at h
  exact (hfoldl l [] h).resolve_left List.not_mem_nil

theorem lookup_ofList (l : List (String × Json)) (name : String) :
    lookup (Dict.ofList l).entries name = given? l name :=
  Dict.get?_ofList l name

theorem mem_of_lookup {fields : List (String × Json)} {name : String} {j : Json}
    (h : lookup fields name = some j) : (name, j) ∈ fields := by
  obtain ⟨f, hf, rfl⟩ := Option.map_eq_some_iff.1 h
  have hname : f.1 = name := by simpa using List.find?_some hf
  exact hname ▸ List.mem_of_find?_eq_some hf

theorem get?_object (l : List (String × Json)) (name : String) :
    (object l).get? name = given? l name := by
  rw [object_eq]
  exact lookup_ofList l name

theorem get?_ofDict {α : Type} (write : α → Json) (d : StrDict α) (name : String) :
    (ofDict write d).get? name = (d.get? name).map write :=
  Dict.get?_mapValues d write name

end Json

namespace Reader

variable {α β : Type} {l : List (String × Json)} {name : String} {read : Reader α}

/-! Fields of what was written -/

theorem last?_ofList : last? (Dict.ofList l).entries name read =
    match Json.given? l name with
    | none => some none
    | some j => (read j).map some := by
  have hgiven : Json.given? l name = (Dict.ofList l).get? name := (Dict.get?_ofList l name).symm
  unfold last?
  rw [Dict.filter_key, hgiven]
  cases (Dict.ofList l).get? name with
  | none => rfl
  | some j =>
    simp only [Option.map_some, Option.toList_some, List.mapM_cons, List.mapM_nil]
    cases read j <;> rfl

theorem record_object (names : List String) (l : List (String × Json)) :
    record names (Json.object l) = some (Dict.ofList l).entries := by
  have honce : names.all (occursOnce (Dict.ofList l).entries) := by
    rw [List.all_eq_true]
    intro name _
    unfold occursOnce
    rw [Dict.filter_key]
    cases (Dict.ofList l).get? name <;> rfl
  rw [Json.object_eq]
  exact if_pos honce

theorem openRecord_object (l : List (String × Json)) :
    openRecord (Json.object l) = some (Dict.ofList l).entries := by
  rw [Json.object_eq]
  rfl

theorem required_ofList :
    required (Dict.ofList l).entries name read = (Json.given? l name).bind read := by
  unfold required
  rw [last?_ofList]
  cases Json.given? l name with
  | none => rfl
  | some j =>
    dsimp only [Option.bind_some]
    cases read j <;> rfl

theorem withDefault_ofList {absent : α} :
    withDefault (Dict.ofList l).entries name absent read =
      match Json.given? l name with
      | none => some absent
      | some j => read j := by
  unfold withDefault
  rw [last?_ofList]
  cases Json.given? l name with
  | none => rfl
  | some j =>
    dsimp only
    cases read j <;> rfl

theorem withDefault_unless {empty : Bool} {a absent : α} {j : Json}
    (hgiven : Json.given? l name = if empty then none else some j)
    (hempty : empty = true → a = absent) (hread : read j = some a) :
    withDefault (Dict.ofList l).entries name absent read = some a := by
  rw [withDefault_ofList, hgiven]
  cases empty with
  | true => exact congrArg some (hempty rfl).symm
  | false => exact hread

/-! Values -/

/-- What is written for a value is not `null` and is read as another one. -/
structure Returns (read : Reader α) (write : α → Json) (a b : α) : Prop where
  ne_null : write a ≠ .null
  read_eq : read (write a) = some b

theorem optional_of_ne_null {j : Json} (h : j ≠ .null) : optional read j = (read j).map some := by
  cases j with
  | null => exact (h rfl).elim
  | bool b => rfl
  | int n => rfl
  | decimal d e => rfl
  | str s => rfl
  | arr items => rfl
  | obj fields => rfl
  | unreadable => rfl

/-- A field that is written only if it has a value is read as that value. -/
theorem maybe_ofList {write : α → Json} {a : Option α} {f : α → α}
    (hgiven : Json.given? l name = a.map write) (h : ∀ b ∈ a, Returns read write b (f b)) :
    maybe (Dict.ofList l).entries name read = some (a.map f) := by
  unfold maybe
  rw [withDefault_ofList, hgiven]
  cases a with
  | none => rfl
  | some b =>
    obtain ⟨hnull, hread⟩ := h b rfl
    dsimp only [Option.map_some]
    rw [optional_of_ne_null hnull, hread]
    rfl

theorem maybe_self {write : α → Json} {a : Option α} (hgiven : Json.given? l name = a.map write)
    (h : ∀ b ∈ a, Returns read write b b) :
    maybe (Dict.ofList l).entries name read = some a := by
  rw [maybe_ofList (f := id) hgiven h, Option.map_id_fun, id]

/-- If each element is read back, so is the list of them. -/
theorem mapM_map_eq_some {γ : Type} {f : β → Option γ} {g : γ → β} {cs : List γ}
    (h : ∀ c ∈ cs, f (g c) = some c) : (cs.map g).mapM f = some cs := by
  induction cs with
  | nil => rfl
  | cons c cs ih =>
    obtain ⟨hc, hcs⟩ := List.forall_mem_cons.1 h
    rw [List.map_cons, List.mapM_cons, hc, ih hcs]
    rfl

theorem list_map {write : α → Json} {as : List α} (h : ∀ a ∈ as, read (write a) = some a) :
    list read (.arr (as.map write)) = some as :=
  mapM_map_eq_some h

theorem dict_ofDict {write : α → Json} {d : StrDict α}
    (h : ∀ e ∈ d.entries, read (write e.2) = some e.2) :
    dict read (Json.ofDict write d) = some d := by
  have hentries : ((d.entries.map fun e => (e.1, write e.2)).mapM fun f =>
      (read f.2).map fun a => (f.1, a)) = some d.entries :=
    mapM_map_eq_some fun e he => by rw [h e he, Option.map_some]
  unfold dict Json.ofDict
  dsimp only
  rw [hentries]
  exact congrArg some (Dict.ofList_entries d)

/-! What was read -/

theorem exists_of_mem_mapM {γ : Type} {f : γ → Option β} {xs : List γ} {ys : List β}
    (h : xs.mapM f = some ys) : ∀ y ∈ ys, ∃ x ∈ xs, f x = some y := by
  induction xs generalizing ys with
  | nil =>
    cases h
    nofun
  | cons x xs ih =>
    rw [List.mapM_cons] at h
    obtain ⟨y', hx, hrest⟩ := Option.bind_eq_some_iff.1 h
    obtain ⟨ys', hxs, hys⟩ := Option.bind_eq_some_iff.1 hrest
    cases hys
    intro y hy
    rcases List.mem_cons.1 hy with rfl | hy
    · exact ⟨x, List.mem_cons_self, hx⟩
    · obtain ⟨x', hx', hread⟩ := ih hxs y hy
      exact ⟨x', List.mem_cons_of_mem _ hx', hread⟩

variable {fields : List (String × Json)}

theorem exists_of_last? {a : α} (h : last? fields name read = some (some a)) :
    ∃ j, read j = some a := by
  obtain ⟨as, has, hlast⟩ := Option.map_eq_some_iff.1 h
  obtain ⟨f, -, hread⟩ := exists_of_mem_mapM has a (List.mem_of_getLast? hlast)
  exact ⟨f.2, hread⟩

theorem exists_of_required {a : α} (h : required fields name read = some a) :
    ∃ j, read j = some a :=
  exists_of_last? (Option.join_eq_some_iff.1 h)

theorem exists_of_maybe {a : Option α} (h : maybe fields name read = some a) :
    ∀ b ∈ a, ∃ j, read j = some b := by
  rintro b rfl
  obtain ⟨last, hlast, hb⟩ := Option.map_eq_some_iff.1 h
  cases last with
  | none => cases hb
  | some b' =>
    cases hb
    obtain ⟨j, hj⟩ := exists_of_last? hlast
    have hnull : j ≠ .null := by
      rintro rfl
      cases hj
    rw [optional_of_ne_null hnull] at hj
    obtain ⟨b', hread, hb⟩ := Option.map_eq_some_iff.1 hj
    cases hb
    exact ⟨j, hread⟩

end Reader

end FleetSync
