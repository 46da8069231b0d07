/-!
# Dictionaries in key order

A dictionary holds at most one value for each key and lists its entries in the order of their
keys. The order is part of the type, so two dictionaries with the same lookups are equal and the
first key that meets a condition is determined. The laws below say what `insert` and `erase` do to
the lookups.
-/
namespace FleetSync

/-- A strict order in which any two different keys compare. -/
class KeyOrder (κ : Type) where
  precedes : κ → κ → Bool
  irrefl : ∀ a, precedes a a = false
  trans : ∀ {a b c}, precedes a b → precedes b c → precedes a c
  connected : ∀ {a b}, a ≠ b → precedes a b ∨ precedes b a

/-- Strings compare by their code points, which is the order of their UTF-8 bytes. -/
instance : KeyOrder String where
  precedes a b := decide (a < b)
  irrefl a := decide_eq_false (String.lt_irrefl a)
  trans h₁ h₂ := by simp only [decide_eq_true_eq] at *; exact String.lt_trans h₁ h₂
  connected {a b} h := by
    simp only [decide_eq_true_eq]
    by_cases hab : a < b
    · exact .inl hab
    · refine .inr ?_
      by_cases hba : b < a
      · exact hba
      · exact absurd (String.le_antisymm hba hab) h

/-- Two-part keys compare by their first part, and by their second one if the first is equal. -/
instance {κ ι : Type} [DecidableEq κ] [KeyOrder κ] [KeyOrder ι] : KeyOrder (κ × ι) where
  precedes a b := KeyOrder.precedes a.1 b.1 || (a.1 == b.1 && KeyOrder.precedes a.2 b.2)
  irrefl a := by simp [KeyOrder.irrefl]
  trans {a b c} h₁ h₂ := by
    simp only [Bool.or_eq_true, Bool.and_eq_true, beq_iff_eq] at *
    rcases h₁ with h₁ | ⟨e₁, h₁⟩ <;> rcases h₂ with h₂ | ⟨e₂, h₂⟩
    · exact .inl (KeyOrder.trans h₁ h₂)
    · exact .inl (e₂ ▸ h₁)
    · exact .inl (e₁ ▸ h₂)
    · exact .inr ⟨e₁.trans e₂, KeyOrder.trans h₁ h₂⟩
  connected {a b} h := by
    simp only [Bool.or_eq_true, Bool.and_eq_true, beq_iff_eq]
    by_cases h1 : a.1 = b.1
    · have h2 : a.2 ≠ b.2 := fun e => h (Prod.ext h1 e)
      rcases KeyOrder.connected h2 with h' | h'
      · exact .inl (.inr ⟨h1, h'⟩)
      · exact .inr (.inr ⟨h1.symm, h'⟩)
    · rcases KeyOrder.connected h1 with h' | h'
      · exact .inl (.inl h')
      · exact .inr (.inl h')

/-- At most one value for each key, listed in the order of the keys. -/
structure Dict (κ α : Type) [KeyOrder κ] where
  entries : List (κ × α)
  ordered : entries.Pairwise fun a b => KeyOrder.precedes a.1 b.1

namespace Dict

variable {κ α β : Type} [KeyOrder κ]

@[ext] theorem ext {d e : Dict κ α} (h : d.entries = e.entries) : d = e := by
  cases d; cases e; cases h; rfl

variable [DecidableEq κ]

instance [DecidableEq α] : DecidableEq (Dict κ α) := fun d e =>
  decidable_of_iff (d.entries = e.entries) ⟨ext, fun h => h ▸ rfl⟩

instance [Repr κ] [Repr α] : Repr (Dict κ α) := ⟨fun d n => reprPrec d.entries n⟩

def empty : Dict κ α := ⟨[], .nil⟩

instance : EmptyCollection (Dict κ α) := ⟨empty⟩

instance : Inhabited (Dict κ α) := ⟨empty⟩

def isEmpty (d : Dict κ α) : Bool := d.entries.isEmpty

def toList (d : Dict κ α) : List (κ × α) := d.entries

def keys (d : Dict κ α) : List κ := d.entries.map (·.1)

def get? (d : Dict κ α) (k : κ) : Option α := (d.entries.find? (·.1 = k)).map (·.2)

def contains (d : Dict κ α) (k : κ) : Bool := (d.get? k).isSome

/-- The entries with `k` in its place, an earlier value of `k` replaced. -/
def insertEntry (k : κ) (v : α) : List (κ × α) → List (κ × α)
  | [] => [(k, v)]
  | e :: rest =>
    if e.1 = k then (k, v) :: rest
    else if KeyOrder.precedes k e.1 then (k, v) :: e :: rest
    else e :: insertEntry k v rest

theorem mem_insertEntry_key {k : κ} {v : α} {e : κ × α} :
    ∀ {l : List (κ × α)}, e ∈ insertEntry k v l → e = (k, v) ∨ e ∈ l
  | [], h => by simpa [insertEntry] using h
  | d :: rest, h => by
    unfold insertEntry at h
    split at h
    · rcases List.mem_cons.1 h with h | h
      · exact .inl h
      · exact .inr (List.mem_cons_of_mem _ h)
    · split at h
      · exact (List.mem_cons.1 h).imp id id
      · rcases List.mem_cons.1 h with h | h
        · exact .inr (h ▸ List.mem_cons_self)
        · exact (mem_insertEntry_key h).imp id (List.mem_cons_of_mem _)

theorem insertEntry_ordered (k : κ) (v : α) {l : List (κ × α)}
    (h : l.Pairwise fun a b => KeyOrder.precedes a.1 b.1) :
    (insertEntry k v l).Pairwise fun a b => KeyOrder.precedes a.1 b.1 := by
  induction l with
  | nil => simp [insertEntry]
  | cons e rest ih =>
    obtain ⟨he, hr⟩ := List.pairwise_cons.1 h
    unfold insertEntry
    split
    · rename_i hk
      exact List.pairwise_cons.2 ⟨fun b hb => by simpa [← hk] using he b hb, hr⟩
    · rename_i hk
      split
      · rename_i hp
        refine List.pairwise_cons.2 ⟨fun b hb => ?_, h⟩
        rcases List.mem_cons.1 hb with hb | hb
        · exact hb ▸ hp
        · exact KeyOrder.trans hp (he b hb)
      · rename_i hp
        refine List.pairwise_cons.2 ⟨fun b hb => ?_, ih hr⟩
        rcases mem_insertEntry_key hb with hb | hb
        · subst hb
          exact (KeyOrder.connected hk).resolve_right hp
        · exact he b hb

def insert (d : Dict κ α) (k : κ) (v : α) : Dict κ α :=
  ⟨insertEntry k v d.entries, insertEntry_ordered k v d.ordered⟩

def erase (d : Dict κ α) (k : κ) : Dict κ α :=
  ⟨d.entries.filter (·.1 ≠ k), d.ordered.filter _⟩

/-- The dictionary of a list of entries; of several values for one key the last one stays. -/
def ofList (l : List (κ × α)) : Dict κ α := l.foldl (fun d e => d.insert e.1 e.2) empty

/-- The entries of `e` written over those of `d`. -/
def override (d e : Dict κ α) : Dict κ α := e.entries.foldl (fun d x => d.insert x.1 x.2) d

def mapValues (d : Dict κ α) (f : α → β) : Dict κ β :=
  ⟨d.entries.map fun e => (e.1, f e.2), List.pairwise_map.2 d.ordered⟩

theorem find?_insertEntry_self (k : κ) (v : α) (l : List (κ × α)) :
    (insertEntry k v l).find? (·.1 = k) = some (k, v) := by
  induction l with
  | nil => simp [insertEntry]
  | cons e rest ih =>
    unfold insertEntry
    split
    · simp
    · split
      · simp
      · rename_i hk _
        simp [hk, ih]

theorem find?_insertEntry_ne {k k' : κ} (h : k' ≠ k) (v : α) (l : List (κ × α)) :
    (insertEntry k v l).find? (·.1 = k') = l.find? (·.1 = k') := by
  induction l with
  | nil => simp [insertEntry, h.symm]
  | cons e rest ih =>
    unfold insertEntry
    split
    · rename_i hk
      simp [hk, h.symm]
    · split
      · simp [h.symm]
      · by_cases he : e.1 = k' <;> simp [he, ih]

omit [DecidableEq κ] in
theorem eq_empty_of_isEmpty {d : Dict κ α} (h : d.isEmpty) : d = ∅ := ext (List.isEmpty_iff.1 h)

@[simp] theorem get?_empty (k : κ) : (empty : Dict κ α).get? k = none := rfl

@[simp] theorem get?_insert_self (d : Dict κ α) (k : κ) (v : α) :
    (d.insert k v).get? k = some v := by
  simp [get?, insert, find?_insertEntry_self]

theorem get?_insert_ne (d : Dict κ α) {k k' : κ} (h : k' ≠ k) (v : α) :
    (d.insert k v).get? k' = d.get? k' := by
  simp [get?, insert, find?_insertEntry_ne h]

theorem get?_insert (d : Dict κ α) (k k' : κ) (v : α) :
    (d.insert k v).get? k' = if k' = k then some v else d.get? k' := by
  by_cases h : k' = k
  · simp [h]
  · simp [h, get?_insert_ne]

theorem get?_foldl_insert (d : Dict κ α) (l : List (κ × α)) (k : κ) :
    (l.foldl (fun d e => d.insert e.1 e.2) d).get? k =
      ((l.reverse.find? (·.1 = k)).map (·.2)).or (d.get? k) := by
  induction l generalizing d with
  | nil => rfl
  | cons e l ih =>
    rw [List.foldl_cons, ih, get?_insert, List.reverse_cons, List.find?_append]
    by_cases hk : k = e.1
    · subst hk
      cases l.reverse.find? (·.1 = e.1) <;> simp
    · have hne : e.1 ≠ k := fun h => hk h.symm
      cases l.reverse.find? (·.1 = k) <;> simp [hk, hne]

/-- The last value that a list gives to a key. -/
theorem get?_ofList (l : List (κ × α)) (k : κ) :
    (ofList l).get? k = (l.reverse.find? (·.1 = k)).map (·.2) := by
  unfold ofList
  rw [get?_foldl_insert, get?_empty, Option.or_none]

theorem entries_ofList (l : List (κ × α)) :
    (ofList l).entries = l.foldl (fun entries e => insertEntry e.1 e.2 entries) [] := by
  have hfoldl (d : Dict κ α) : (l.foldl (fun d e => d.insert e.1 e.2) d).entries =
      l.foldl (fun entries e => insertEntry e.1 e.2 entries) d.entries := by
    induction l generalizing d with
    | nil => rfl
    | cons e l ih => exact ih (d.insert e.1 e.2)
  exact hfoldl empty

theorem get?_erase (d : Dict κ α) (k k' : κ) :
    (d.erase k).get? k' = if k' = k then none else d.get? k' := by
  unfold get? erase
  by_cases h : k' = k
  · subst h
    simp [List.find?_filter]
  · simp only [List.find?_filter, if_neg h]
    congr 2
    funext e
    by_cases he : e.1 = k' <;> simp [he, h]

theorem erase_of_get?_eq_none {d : Dict κ α} {k : κ} (h : d.get? k = none) : d.erase k = d := by
  apply ext
  apply List.filter_eq_self.2
  intro e he
  simp only [get?, Option.map_eq_none_iff, List.find?_eq_none] at h
  simpa using h e he

@[simp] theorem get?_mapValues (d : Dict κ α) (f : α → β) (k : κ) :
    (d.mapValues f).get? k = (d.get? k).map f := by
  unfold get? mapValues
  rw [List.find?_map, Option.map_map, Option.map_map]
  rfl

/-- No entry has a key that precedes all of theirs. -/
theorem find?_eq_none_of_precedes {l : List (κ × α)} {k : κ}
    (h : ∀ e ∈ l, KeyOrder.precedes k e.1) : l.find? (·.1 = k) = none := by
  rw [List.find?_eq_none]
  intro e he hk
  have hself := h e he
  rw [of_decide_eq_true hk, KeyOrder.irrefl] at hself
  cases hself

/-- Entries in the order of their keys are determined by what is found among them. -/
theorem eq_of_find?_eq {l₁ l₂ : List (κ × α)}
    (h₁ : l₁.Pairwise fun a b => KeyOrder.precedes a.1 b.1)
    (h₂ : l₂.Pairwise fun a b => KeyOrder.precedes a.1 b.1)
    (h : ∀ k, l₁.find? (·.1 = k) = l₂.find? (·.1 = k)) : l₁ = l₂ := by
  induction l₁ generalizing l₂ with
  | nil =>
    cases l₂ with
    | nil => rfl
    | cons b l₂ => simpa using h b.1
  | cons a l₁ ih =>
    cases l₂ with
    | nil => simpa using h a.1
    | cons b l₂ =>
      obtain ⟨ha, hl₁⟩ := List.pairwise_cons.1 h₁
      obtain ⟨hb, hl₂⟩ := List.pairwise_cons.1 h₂
      have first {x y : κ × α} {l l' : List (κ × α)} (hxy : KeyOrder.precedes x.1 y.1)
          (hy : ∀ e ∈ l', KeyOrder.precedes y.1 e.1) :
          (x :: l).find? (·.1 = x.1) ≠ (y :: l').find? (·.1 = x.1) := by
        rw [find?_eq_none_of_precedes (l := y :: l') (List.forall_mem_cons.2
          ⟨hxy, fun e he => KeyOrder.trans hxy (hy e he)⟩)]
        simp
      have hkey : a.1 = b.1 := by
        apply Decidable.byContradiction
        intro hne
        rcases KeyOrder.connected hne with hab | hba
        · exact first hab hb (h a.1)
        · exact first hba ha (h b.1).symm
      have hab : a = b := by simpa [hkey] using h a.1
      subst hab
      congr 1
      refine ih hl₁ hl₂ fun k => ?_
      by_cases hk : a.1 = k
      · subst hk
        rw [find?_eq_none_of_precedes ha, find?_eq_none_of_precedes hb]
      · simpa [hk] using h k

theorem find?_eq_get? (d : Dict κ α) (k : κ) :
    d.entries.find? (·.1 = k) = (d.get? k).map (k, ·) := by
  unfold get?
  cases hfind : d.entries.find? (·.1 = k) with
  | none => rfl
  | some e =>
    have hk : e.1 = k := by simpa using List.find?_some hfind
    simp [← hk]

/-- The lookups determine the dictionary. -/
theorem ext_get? {d e : Dict κ α} (h : ∀ k, d.get? k = e.get? k) : d = e :=
  ext (eq_of_find?_eq d.ordered e.ordered fun k => by rw [find?_eq_get?, find?_eq_get?, h k])

/-- Among entries in the order of their keys, a key has one entry at most. -/
theorem filter_eq_find? {l : List (κ × α)} (h : l.Pairwise fun a b => KeyOrder.precedes a.1 b.1)
    (k : κ) : l.filter (·.1 = k) = (l.find? (·.1 = k)).toList := by
  induction l with
  | nil => rfl
  | cons e l ih =>
    obtain ⟨he, hl⟩ := List.pairwise_cons.1 h
    by_cases hk : e.1 = k
    · have hnone := find?_eq_none_of_precedes he
      rw [hk] at hnone
      simp [hk, ih hl, hnone]
    · simp [hk, ih hl]

theorem filter_key (d : Dict κ α) (k : κ) :
    d.entries.filter (·.1 = k) = ((d.get? k).map (k, ·)).toList := by
  rw [filter_eq_find? d.ordered, find?_eq_get?]

theorem mem_keys_iff {d : Dict κ α} {k : κ} : k ∈ d.keys ↔ (d.get? k).isSome := by
  simp [keys, get?]

/-- The entries written last are found first. -/
theorem get?_override (d e : Dict κ α) (k : κ) :
    (d.override e).get? k = (e.get? k).or (d.get? k) := by
  unfold override
  rw [get?_foldl_insert, ← List.head?_filter, List.filter_reverse, filter_key]
  cases e.get? k <;> rfl

/-- A dictionary is that of its entries. -/
theorem ofList_entries (d : Dict κ α) : ofList d.entries = d := by
  apply ext_get?
  intro k
  rw [get?_ofList, ← List.head?_filter, List.filter_reverse, filter_key]
  cases d.get? k <;> rfl

end Dict

abbrev StrDict (α : Type) := Dict String α

end FleetSync
