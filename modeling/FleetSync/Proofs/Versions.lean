import FleetSync.Kind.Basic
import FleetSync.Store.Scripted

/-!
# Versions of stored objects

A store that gives out each version once recognizes a copy by its version. If a copy was read from
the store and the stored object still has the copy's version, then the stored object is the copy,
whatever happened to the store in between. So a write that is not refused overwrites exactly the
object that it is based on.
-/
namespace FleetSync

theorem toString_injective {m n : Nat} (h : toString m = toString n) : m = n := by
  have h' := congrArg (fun s => Nat.ofDigitChars 10 s.toList 0) h
  simpa [Nat.toString_eq_repr, Nat.toList_repr, Nat.ofDigitChars_toDigits] using h'

/-- Changes of an object's metadata are seen in its metadata, and its status is apart from them. -/
class LawfulResource (α : Type) [Resource α] : Prop where
  metadata_withMetadata : ∀ (o : α) (m : Metadata),
    Resource.metadata (Resource.withMetadata o m) = m
  metadata_withStatusOf : ∀ o o' : α,
    Resource.metadata (Resource.withStatusOf o o') = Resource.metadata o

instance (k : Kind) : LawfulResource (Template k) := ⟨fun _ _ => rfl, fun _ _ => rfl⟩

instance (k : Kind) : LawfulResource (Concrete k) := ⟨fun _ _ => rfl, fun _ _ => rfl⟩

def Resource.unversioned {α : Type} [Resource α] (o : α) : α :=
  withMetadata o { metadata o with resourceVersion := none }

namespace Store

variable {α : Type} [Resource α] {s s' s'' : Store α} {key key' : Key} {o o' : α}

/-- The store gave out this version before. -/
def GaveOut (s : Store α) (o : α) : Prop :=
  ∃ n < s.nextVersion, Resource.version? o = some (toString n)

/-- The store gave out the versions of all that it holds, each of them for one object. -/
structure Versioned (s : Store α) : Prop where
  gaveOut : ∀ key o, s.find? key = some o → s.GaveOut o
  eq_of_version : ∀ key key' o o', s.find? key = some o → s.find? key' = some o' →
    Resource.version? o' = Resource.version? o → o' = o

/-- The store went on: what it holds it held before, or it was given a new version since. -/
structure Evolves (s s' : Store α) : Prop where
  nextVersion_le : s.nextVersion ≤ s'.nextVersion
  old_or_new : ∀ key o, s'.find? key = some o → s.find? key = some o ∨
    ∃ n, s.nextVersion ≤ n ∧ n < s'.nextVersion ∧ Resource.version? o = some (toString n)

/-- A copy of what the store held. Wherever its version is still stored, so is the copy. -/
structure Recognizes (s : Store α) (o : α) : Prop where
  gaveOut : s.GaveOut o
  eq_of_version : ∀ key o', s.find? key = some o' → Resource.version? o' = Resource.version? o →
    o' = o

theorem Evolves.refl (s : Store α) : s.Evolves s := ⟨Nat.le_refl _, fun _ _ h => .inl h⟩

theorem Evolves.trans (h : s.Evolves s') (h' : s'.Evolves s'') : s.Evolves s'' where
  nextVersion_le := Nat.le_trans h.nextVersion_le h'.nextVersion_le
  old_or_new key o ho := by
    rcases h'.old_or_new key o ho with ho | ⟨n, hn, hn', hv⟩
    · rcases h.old_or_new key o ho with ho | ⟨n, hn, hn', hv⟩
      · exact .inl ho
      · exact .inr ⟨n, hn, Nat.lt_of_lt_of_le hn' h'.nextVersion_le, hv⟩
    · exact .inr ⟨n, Nat.le_trans h.nextVersion_le hn, hn', hv⟩

theorem GaveOut.evolves (ho : s.GaveOut o) (h : s.Evolves s') : s'.GaveOut o := by
  obtain ⟨n, hn, hv⟩ := ho
  exact ⟨n, Nat.lt_of_lt_of_le hn h.nextVersion_le, hv⟩

theorem GaveOut.ne_new (ho : s.GaveOut o) {n : Nat} (hn : s.nextVersion ≤ n) :
    Resource.version? o ≠ some (toString n) := by
  intro hv
  obtain ⟨m, hm, hv'⟩ := ho
  have hmn : m = n := by
    rw [hv'] at hv
    exact toString_injective (Option.some.inj hv)
  omega

theorem Recognizes.evolves (ho : s.Recognizes o) (h : s.Evolves s') : s'.Recognizes o where
  gaveOut := ho.gaveOut.evolves h
  eq_of_version key o' ho' hv := by
    rcases h.old_or_new key o' ho' with ho' | ⟨n, hn, -, hv'⟩
    · exact ho.eq_of_version key o' ho' hv
    · exact (ho.gaveOut.ne_new hn (hv.symm.trans hv')).elim

theorem Versioned.recognizes (hs : s.Versioned) (ho : s.find? key = some o) : s.Recognizes o :=
  ⟨hs.gaveOut key o ho, fun key' o' ho' => hs.eq_of_version key key' o o' ho ho'⟩

/-! Assigning and dropping -/

theorem find?_assign (s : Store α) (key key' : Key) (o : α) :
    (s.assign key o).2.find? key' = if key' = key then some (s.assign key o).1 else s.find? key' :=
  Dict.get?_insert ..

@[simp] theorem find?_assign_self (s : Store α) (key : Key) (o : α) :
    (s.assign key o).2.find? key = some (s.assign key o).1 := by
  rw [find?_assign, if_pos rfl]

omit [Resource α] in
theorem find?_drop (s : Store α) (key key' : Key) :
    (s.drop key).find? key' = if key' = key then none else s.find? key' :=
  Dict.get?_erase ..

omit [Resource α] in
theorem find?_drop_ne (s : Store α) {key key' : Key} (h : key' ≠ key) :
    (s.drop key).find? key' = s.find? key' := by
  rw [find?_drop, if_neg h]

theorem evolves_drop (s : Store α) (key : Key) : s.Evolves (s.drop key) where
  nextVersion_le := Nat.le_refl _
  old_or_new key' o' ho' := by
    rw [find?_drop] at ho'
    split at ho'
    · cases ho'
    · exact .inl ho'

theorem Versioned.drop (hs : s.Versioned) (key : Key) : (s.drop key).Versioned := by
  have hfind {key' : Key} {o : α} (h : (s.drop key).find? key' = some o) :
      s.find? key' = some o := by
    rw [find?_drop] at h
    split at h
    · cases h
    · exact h
  exact ⟨fun key' o h => hs.gaveOut key' o (hfind h),
    fun _ _ _ _ h h' => hs.eq_of_version _ _ _ _ (hfind h) (hfind h')⟩

theorem find?_of_version_assign (hs : s.Versioned) {o o' : α}
    (h : (s.assign key o).2.find? key' = some o')
    (hv : Resource.version? o' = some (toString s.nextVersion)) : o' = (s.assign key o).1 := by
  rw [find?_assign] at h
  split at h
  · exact (Option.some.inj h).symm
  · exact ((hs.gaveOut key' o' h).ne_new (Nat.le_refl _) hv).elim

section Lawful
variable [LawfulResource α]

theorem metadata_assign (s : Store α) (key : Key) (o : α) :
    Resource.metadata (s.assign key o).1 =
      { Resource.metadata o with resourceVersion := some (toString s.nextVersion) } :=
  LawfulResource.metadata_withMetadata ..

theorem version?_assign (s : Store α) (key : Key) (o : α) :
    Resource.version? (s.assign key o).1 = some (toString s.nextVersion) :=
  congrArg Metadata.resourceVersion (s.metadata_assign key o)

theorem evolves_assign (s : Store α) (key : Key) (o : α) : s.Evolves (s.assign key o).2 where
  nextVersion_le := Nat.le_succ _
  old_or_new key' o' ho' := by
    rw [find?_assign] at ho'
    split at ho'
    · cases ho'
      exact .inr ⟨s.nextVersion, Nat.le_refl _, Nat.lt_succ_self _, s.version?_assign key o⟩
    · exact .inl ho'

theorem Versioned.assign (hs : s.Versioned) (key : Key) (o : α) :
    (s.assign key o).2.Versioned where
  gaveOut key' o' h := by
    rcases (s.evolves_assign key o).old_or_new key' o' h with h | ⟨n, -, hn, hv⟩
    · exact (hs.gaveOut key' o' h).evolves (s.evolves_assign key o)
    · exact ⟨n, hn, hv⟩
  eq_of_version key₁ key₂ o₁ o₂ h₁ h₂ hv := by
    have hnew {key' o'} (h : (s.assign key o).2.find? key' = some o') :
        o' = (s.assign key o).1 ∨ s.find? key' = some o' := by
      rw [find?_assign] at h
      split at h
      · exact .inl (Option.some.inj h).symm
      · exact .inr h
    rcases hnew h₁ with rfl | h₁'
    · exact find?_of_version_assign hs h₂ (hv.trans (s.version?_assign key o))
    · rcases hnew h₂ with rfl | h₂'
      · exact (find?_of_version_assign hs h₁ (hv.symm.trans (s.version?_assign key o))).symm
      · exact hs.eq_of_version key₁ key₂ o₁ o₂ h₁' h₂' hv

theorem Versioned.recognizes_assign (hs : s.Versioned) (key : Key) (o : α) :
    (s.assign key o).2.Recognizes (s.assign key o).1 :=
  (hs.assign key o).recognizes (s.find?_assign_self key o)

end Lawful

/-! Calls -/

/-- What a store keeps of an object and takes of another one when the object is replaced. -/
def replacement (s : Store α) (stored o : α) : α :=
  if s.statusApart then Resource.withStatusOf o stored else o

/-- What a store keeps of an object and takes of another one when its status is replaced. -/
def restatement (s : Store α) (stored o : α) : α :=
  if s.statusApart then Resource.withStatusOf stored o else o

/-- What a stored object becomes when a call that replaces it or its status is accepted. -/
def revision (s : Store α) : StoreCall α → α → α
  | .replace _ o, stored => s.replacement stored o
  | .replaceStatus _ o, stored => s.restatement stored o
  | _, stored => stored

theorem versioned_empty (statusApart : Bool) : (empty statusApart : Store α).Versioned where
  gaveOut _ _ h := by cases h
  eq_of_version _ _ _ _ h := by cases h

/-- A call is answered by the store, or it fails without an effect. -/
def Serves (s : Store α) (call : StoreCall α) (r : call.Answer) (s' : Store α) : Prop :=
  (r = (s.answer call).1 ∧ s' = (s.answer call).2) ∨ (∃ f, r = .error f) ∧ s' = s

inductive Served (s : Store α) : (call : StoreCall α) → call.Answer → Store α → Prop
  | found (key : Key) : Served s (.get key) (.ok (s.find? key)) s
  | created {ns : String} {o o' : α}
      (ho : o' = Resource.withMetadata o { Resource.metadata o with ns := some ns })
      (h : s.find? (Resource.storedKey o') = none) :
      Served s (.create ns o) (.ok (s.assign (Resource.storedKey o') o').1)
        (s.assign (Resource.storedKey o') o').2
  | replaced {key : Key} {o stored : α} (h : s.find? key = some stored)
      (hv : Resource.version? stored = Resource.version? o) :
      Served s (.replace key o) (.ok (s.assign key (s.replacement stored o)).1)
        (s.assign key (s.replacement stored o)).2
  | restated {key : Key} {o stored : α} (h : s.find? key = some stored)
      (hv : Resource.version? stored = Resource.version? o) :
      Served s (.replaceStatus key o) (.ok (s.assign key (s.restatement stored o)).1)
        (s.assign key (s.restatement stored o)).2
  | deleted (key : Key) : Served s (.delete key) (.ok ()) (s.drop key)
  | failed (call : StoreCall α) (f : Failure) : Served s call (.error f) s

theorem served_answer (s : Store α) (call : StoreCall α) :
    s.Served call (s.answer call).1 (s.answer call).2 := by
  cases call with
  | get key => exact .found key
  | create ns o =>
    simp only [answer]
    split
    · exact .failed ..
    · rename_i h
      exact .created rfl h
  | replace key o =>
    simp only [answer, replaceBy]
    split
    · exact .failed ..
    · rename_i stored h
      split
      · rename_i hv
        exact .replaced h hv
      · exact .failed ..
  | replaceStatus key o =>
    simp only [answer, replaceBy]
    split
    · exact .failed ..
    · rename_i stored h
      split
      · rename_i hv
        exact .restated h hv
      · exact .failed ..
  | delete key => exact .deleted key

theorem Serves.served {call : StoreCall α} {r : call.Answer} (h : s.Serves call r s') :
    s.Served call r s' := by
  rcases h with ⟨rfl, rfl⟩ | ⟨⟨f, rfl⟩, rfl⟩
  · exact served_answer s call
  · exact .failed call f

theorem Served.statusApart_eq {call : StoreCall α} {r : call.Answer} (h : s.Served call r s') :
    s'.statusApart = s.statusApart := by
  cases h <;> rfl

theorem Serves.find?_eq {found : Option α} (h : s.Serves (.get key) (.ok found) s') :
    s.find? key = found ∧ s' = s := by
  rcases h with ⟨hanswer, hs⟩ | ⟨⟨f, hf⟩, -⟩
  · exact ⟨(Except.ok.inj hanswer).symm, hs⟩
  · cases hf

section Lawful
variable [LawfulResource α] {call : StoreCall α} {r : call.Answer}

theorem Served.evolves (h : s.Served call r s') : s.Evolves s' := by
  cases h with
  | found key => exact .refl s
  | created ho h => exact s.evolves_assign _ _
  | replaced h hv => exact s.evolves_assign _ _
  | restated h hv => exact s.evolves_assign _ _
  | deleted key => exact s.evolves_drop key
  | failed call f => exact .refl s

theorem Served.versioned (h : s.Served call r s') (hs : s.Versioned) : s'.Versioned := by
  cases h with
  | found key => exact hs
  | created ho h => exact hs.assign _ _
  | replaced h hv => exact hs.assign _ _
  | restated h hv => exact hs.assign _ _
  | deleted key => exact hs.drop key
  | failed call f => exact hs

end Lawful

/-- Somebody else writes what is allowed in place of what is stored, drops an object, or uses up a
version. -/
inductive Meddles (allowed : Option α → α → Prop) (s : Store α) : Store α → Prop
  | idle : Meddles allowed s s
  | write (key : Key) (o : α) (h : allowed (s.find? key) o) : Meddles allowed s (s.assign key o).2
  | drop (key : Key) : Meddles allowed s (s.drop key)
  | skip : Meddles allowed s { s with nextVersion := s.nextVersion + 1 }

theorem Meddles.find? {allowed : Option α → α → Prop} {o : α} (h : s.Meddles allowed s')
    (ho : s'.find? key = some o) :
    s.find? key = some o ∨ ∃ o', allowed (s.find? key) o' ∧ o = (s.assign key o').1 := by
  cases h with
  | idle => exact .inl ho
  | write key' o' hallowed =>
    rw [find?_assign] at ho
    split at ho
    · rename_i hkey
      subst hkey
      cases ho
      exact .inr ⟨o', hallowed, rfl⟩
    · exact .inl ho
  | drop key' =>
    rw [find?_drop] at ho
    split at ho
    · cases ho
    · exact .inl ho
  | skip => exact .inl ho

theorem evolves_skip (s : Store α) : s.Evolves { s with nextVersion := s.nextVersion + 1 } :=
  ⟨Nat.le_succ _, fun _ _ h => .inl h⟩

section Lawful
variable [LawfulResource α] {allowed : Option α → α → Prop}

theorem Meddles.evolves (h : s.Meddles allowed s') : s.Evolves s' := by
  cases h with
  | idle => exact .refl s
  | write key o h => exact s.evolves_assign key o
  | drop key => exact s.evolves_drop key
  | skip => exact s.evolves_skip

theorem Meddles.versioned (h : s.Meddles allowed s') (hs : s.Versioned) : s'.Versioned := by
  cases h with
  | idle => exact hs
  | write key o h => exact hs.assign key o
  | drop key => exact hs.drop key
  | skip => exact ⟨fun key o ho => (hs.gaveOut key o ho).evolves s.evolves_skip, hs.eq_of_version⟩

end Lawful

end Store

end FleetSync
