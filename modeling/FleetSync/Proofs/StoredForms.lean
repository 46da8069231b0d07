import FleetSync.Kind.ConfigMap
import FleetSync.Kind.Secret
import FleetSync.Proofs.InstantText
import FleetSync.Proofs.Records

/-!
# Stored forms

What is written for a placement, a condition, an entry, a status, a payload or a template is read
as the same value. Metadata alone lose something: their times are written in whole seconds. A
document that was read and written again therefore stays as it is from then on.
-/
namespace FleetSync

open Reader (Returns)

def Instant.IsFourDigit (t : Instant) : Prop := 0 ≤ t.date.year ∧ t.date.year ≤ 9999

/-! Single values -/

theorem returns_str (s : String) : Returns Reader.string .str s s := ⟨nofun, rfl⟩

theorem returns_bool (b : Bool) : Returns Reader.bool .bool b b := ⟨nofun, rfl⟩

theorem returns_instant {t : Instant} (h : t.IsFourDigit) :
    Returns Reader.instant Instant.toJson t t where
  ne_null := by simp [Instant.toJson]
  read_eq := by
    have hread := Instant.ofRfc3339?_toRfc3339 h
    simpa only [Reader.instant, Instant.toJson, Reader.string, Option.bind_some] using hread

theorem returns_bytes (b : Bytes) : Returns Bytes.ofJson? Bytes.toJson b b :=
  ⟨nofun, Text.Base64.decode?_encode b⟩

theorem returns_int64 {n : Int} (h : -9223372036854775808 ≤ n ∧ n ≤ 9223372036854775807) :
    Returns Reader.int64 .int n n :=
  ⟨nofun, if_pos h⟩

theorem returns_strings (d : StrDict String) :
    Returns (Reader.dict Reader.string) (Json.ofDict .str) d d :=
  ⟨nofun, Reader.dict_ofDict fun _ _ => rfl⟩

theorem returns_bytesDict (d : StrDict Bytes) :
    Returns (Reader.dict Bytes.ofJson?) (Json.ofDict Bytes.toJson) d d :=
  ⟨nofun, Reader.dict_ofDict fun e _ => (returns_bytes e.2).read_eq⟩

/-! Statuses and placements -/

theorem ResourceState.ofJson?_toJson (s : ResourceState) : ofJson? s.toJson = some s := by
  cases s <;> rfl

theorem Condition.ofJson?_toJson {c : Condition} (h : c.lastTransition.IsFourDigit) :
    ofJson? c.toJson = some c := by
  have htype : Reader.choice ConditionType.ofText? (.str c.type.text) = some c.type := by
    cases c.type <;> rfl
  have hstatus : Reader.choice ConditionStatus.ofText? (.str c.status.text) = some c.status := by
    cases c.status <;> rfl
  unfold ofJson? toJson
  rw [Reader.record_object]
  simp [Reader.required_ofList, Reader.withDefault_ofList, htype, hstatus,
    (returns_instant h).read_eq, Reader.string]

theorem ClusterEntry.ofJson?_toJson {e : ClusterEntry} (h : ∀ t ∈ e.lastUpdate, t.IsFourDigit) :
    ofJson? e.toJson = some e := by
  have hstate := ResourceState.ofJson?_toJson e.state
  unfold ofJson? toJson
  rw [Reader.record_object, Option.bind_eq_bind, Option.bind_some, Reader.required_ofList,
    Reader.maybe_self (a := e.message) (by simp) fun s _ => returns_str s,
    Reader.maybe_self (a := e.lastUpdate) (by simp) fun t ht => returns_instant (h t ht)]
  simp [hstate]

/-- The times of the conditions and of the entries are in the years 0 to 9999. -/
def FleetStatus.IsTimely (s : FleetStatus) : Prop :=
  (∀ c ∈ s.conditions, c.lastTransition.IsFourDigit) ∧
    ∀ e ∈ s.clusters.entries, ∀ t ∈ e.2.lastUpdate, t.IsFourDigit

theorem FleetStatus.ofJson?_toJson {s : FleetStatus} (h : s.IsTimely) :
    ofJson? s.toJson = some s := by
  obtain ⟨hconditions, hclusters⟩ := h
  have hstate := ResourceState.ofJson?_toJson s.state
  have hlist : Reader.list Condition.ofJson? (.arr (s.conditions.map Condition.toJson)) =
      some s.conditions :=
    Reader.list_map fun c hc => Condition.ofJson?_toJson (hconditions c hc)
  have hdict : Reader.dict ClusterEntry.ofJson? (Json.ofDict ClusterEntry.toJson s.clusters) =
      some s.clusters :=
    Reader.dict_ofDict fun e he => ClusterEntry.ofJson?_toJson (hclusters e he)
  unfold ofJson? toJson
  rw [Reader.record_object, Option.bind_eq_bind, Option.bind_some,
    Reader.withDefault_unless (a := s.conditions) (by simp [-List.isEmpty_iff]) List.isEmpty_iff.1
      hlist,
    Reader.withDefault_unless (a := s.clusters) (by simp [-List.isEmpty_iff])
      Dict.eq_empty_of_isEmpty hdict, Reader.withDefault_ofList]
  simp [-List.isEmpty_iff, hstate]

theorem Placement.ofJson?_toJson (p : Placement) : ofJson? p.toJson = some p := by
  have hcluster (c : String) : clusterOfJson? (Json.object [("name", .str c)]) = some c := by
    unfold clusterOfJson?
    rw [Reader.record_object, Option.bind_eq_bind, Option.bind_some, Reader.required_ofList]
    simp [Reader.string]
  have hlist : Reader.list clusterOfJson?
      (.arr (p.clusters.map fun c => Json.object [("name", .str c)])) = some p.clusters :=
    Reader.list_map fun c _ => hcluster c
  unfold ofJson? toJson
  rw [Reader.record_object, Option.bind_eq_bind, Option.bind_some, Reader.withDefault_ofList]
  simp [hlist]

/-! Payloads -/

theorem EmbeddedMetadata.ofJson?_toJson (m : EmbeddedMetadata) : ofJson? m.toJson = some m := by
  unfold ofJson? toJson
  rw [Reader.record_object, Option.bind_eq_bind, Option.bind_some,
    Reader.maybe_self (a := m.labels) (by simp) fun d _ => returns_strings d,
    Reader.maybe_self (a := m.annotations) (by simp) fun d _ => returns_strings d]
  rfl

theorem ConfigMapTemplate.ofJson?_toJson (t : ConfigMapTemplate) : ofJson? t.toJson = some t := by
  have hmetadata := EmbeddedMetadata.ofJson?_toJson t.metadata
  unfold ofJson? toJson
  rw [Reader.record_object, Option.bind_eq_bind, Option.bind_some, Reader.withDefault_ofList,
    Reader.maybe_self (a := t.data) (by simp) fun d _ => returns_strings d,
    Reader.maybe_self (a := t.binaryData) (by simp) fun d _ => returns_bytesDict d,
    Reader.maybe_self (a := t.immutable) (by simp) fun b _ => returns_bool b]
  simp [hmetadata]

theorem SecretTemplate.ofJson?_toJson (t : SecretTemplate) : ofJson? t.toJson = some t := by
  have hmetadata := EmbeddedMetadata.ofJson?_toJson t.metadata
  unfold ofJson? toJson
  rw [Reader.record_object, Option.bind_eq_bind, Option.bind_some, Reader.withDefault_ofList,
    Reader.maybe_self (a := t.type) (by simp) fun s _ => returns_str s,
    Reader.maybe_self (a := t.data) (by simp) fun d _ => returns_bytesDict d,
    Reader.maybe_self (a := t.stringData) (by simp) fun d _ => returns_strings d,
    Reader.maybe_self (a := t.immutable) (by simp) fun b _ => returns_bool b]
  simp [hmetadata]

/-! Metadata -/

theorem OwnerReference.ofJson?_toJson (o : OwnerReference) : ofJson? o.toJson = some o := by
  unfold ofJson? toJson
  rw [Reader.openRecord_object, Option.bind_eq_bind, Option.bind_some,
    Reader.maybe_self (a := o.blockOwnerDeletion) (by simp) fun b _ => returns_bool b,
    Reader.maybe_self (a := o.controller) (by simp) fun b _ => returns_bool b]
  unfold Reader.orDefault
  rw [Reader.maybe_self (a := some o.apiVersion) (by simp) fun s _ => returns_str s,
    Reader.maybe_self (a := some o.kind) (by simp) fun s _ => returns_str s,
    Reader.maybe_self (a := some o.name) (by simp) fun s _ => returns_str s,
    Reader.maybe_self (a := some o.uid) (by simp) fun s _ => returns_str s]
  rfl

@[simp] theorem Instant.seconds_wholeSeconds (t : Instant) :
    t.wholeSeconds.seconds = t.seconds := by
  unfold wholeSeconds
  split <;> rfl

@[simp] theorem Instant.wholeSeconds_wholeSeconds (t : Instant) :
    t.wholeSeconds.wholeSeconds = t.wholeSeconds := by
  unfold wholeSeconds
  by_cases h : 1000000000 ≤ t.nanos
  · simp [h]
  · simp [h]

theorem returns_wholeSeconds {t : Instant} (h : t.IsFourDigit) :
    Returns Reader.instant (fun t => t.wholeSeconds.toJson) t t.wholeSeconds := by
  have hsame : t.wholeSeconds.IsFourDigit := by
    unfold Instant.IsFourDigit Instant.date
    rw [Instant.seconds_wholeSeconds]
    exact h
  exact ⟨(returns_instant hsame).ne_null, (returns_instant hsame).read_eq⟩

/-- An integer of 64 bits. -/
def IsInt64 (n : Int) : Prop := -9223372036854775808 ≤ n ∧ n ≤ 9223372036854775807

namespace Metadata

/-- The times are in the years 0 to 9999. -/
structure IsTimely (m : Metadata) : Prop where
  creation : ∀ t ∈ m.creationTimestamp, t.IsFourDigit
  deletion : ∀ t ∈ m.deletionTimestamp, t.IsFourDigit

/-- The numbers are integers of 64 bits. -/
structure IsSized (m : Metadata) : Prop where
  generation : ∀ n ∈ m.generation, IsInt64 n
  gracePeriod : ∀ n ∈ m.deletionGracePeriodSeconds, IsInt64 n

/-- The metadata with its times in whole seconds. -/
def wholeSeconds (m : Metadata) : Metadata :=
  { m with
    creationTimestamp := m.creationTimestamp.map Instant.wholeSeconds
    deletionTimestamp := m.deletionTimestamp.map Instant.wholeSeconds }

theorem toJson_wholeSeconds (m : Metadata) : m.wholeSeconds.toJson = m.toJson := by
  have hfield (name : String) (t : Option Instant) :
      Json.field name (fun t => t.wholeSeconds.toJson) (t.map Instant.wholeSeconds) =
        Json.field name (fun t => t.wholeSeconds.toJson) t := by
    cases t with
    | none => rfl
    | some t => simp [Json.field]
  simp only [toJson, wholeSeconds, hfield]

theorem ofJson?_toJson {m : Metadata} (htimely : m.IsTimely) (hsized : m.IsSized) :
    ofJson? m.toJson = some m.wholeSeconds := by
  have hstrings (l : List String) : Returns (Reader.list Reader.string) strings l l :=
    ⟨nofun, Reader.list_map fun _ _ => rfl⟩
  have howners (l : List OwnerReference) : Returns (Reader.list OwnerReference.ofJson?)
      (fun l => .arr (l.map OwnerReference.toJson)) l l :=
    ⟨nofun, Reader.list_map fun o _ => OwnerReference.ofJson?_toJson o⟩
  unfold ofJson? toJson
  rw [Reader.openRecord_object, Option.bind_eq_bind, Option.bind_some,
    Reader.maybe_self (a := m.name) (by simp) fun s _ => returns_str s,
    Reader.maybe_self (a := m.generateName) (by simp) fun s _ => returns_str s,
    Reader.maybe_self (a := m.ns) (by simp) fun s _ => returns_str s,
    Reader.maybe_self (a := m.uid) (by simp) fun s _ => returns_str s,
    Reader.maybe_self (a := m.resourceVersion) (by simp) fun s _ => returns_str s,
    Reader.maybe_self (a := m.generation) (by simp) fun n hn =>
      returns_int64 (hsized.generation n hn),
    Reader.maybe_self (a := m.labels) (by simp) fun d _ => returns_strings d,
    Reader.maybe_self (a := m.annotations) (by simp) fun d _ => returns_strings d,
    Reader.maybe_self (a := m.finalizers) (by simp) fun l _ => hstrings l,
    Reader.maybe_ofList (a := m.creationTimestamp) (by simp) fun t ht =>
      returns_wholeSeconds (htimely.creation t ht),
    Reader.maybe_ofList (a := m.deletionTimestamp) (by simp) fun t ht =>
      returns_wholeSeconds (htimely.deletion t ht),
    Reader.maybe_self (a := m.deletionGracePeriodSeconds) (by simp) fun n hn =>
      returns_int64 (hsized.gracePeriod n hn),
    Reader.maybe_self (a := m.ownerReferences) (by simp) fun l _ => howners l]
  rfl

theorem isInt64_of_read {j : Json} {n : Int} (h : Reader.int64 j = some n) : IsInt64 n := by
  unfold Reader.int64 Reader.intBetween at h
  split at h
  · split at h
    · rename_i hbounds
      cases h
      exact hbounds
    · cases h
  · cases h

theorem isSized_of_read {j : Json} {m : Metadata} (h : ofJson? j = some m) : m.IsSized := by
  unfold ofJson? at h
  obtain ⟨fields, -, h⟩ := Option.bind_eq_some_iff.1 h
  iterate 5 obtain ⟨_, -, h⟩ := Option.bind_eq_some_iff.1 h
  obtain ⟨generation, hgeneration, h⟩ := Option.bind_eq_some_iff.1 h
  iterate 5 obtain ⟨_, -, h⟩ := Option.bind_eq_some_iff.1 h
  obtain ⟨gracePeriod, hgracePeriod, h⟩ := Option.bind_eq_some_iff.1 h
  obtain ⟨owners, -, h⟩ := Option.bind_eq_some_iff.1 h
  cases h
  constructor
  · intro n hn
    obtain ⟨j, hj⟩ := Reader.exists_of_maybe hgeneration n hn
    exact isInt64_of_read hj
  · intro n hn
    obtain ⟨j, hj⟩ := Reader.exists_of_maybe hgracePeriod n hn
    exact isInt64_of_read hj

end Metadata

/-! Templates -/
namespace Template
variable {k : Kind} {t : Template k}

/-- The times are in the years 0 to 9999. -/
structure IsTimely (t : Template k) : Prop where
  metadata : t.metadata.IsTimely
  status : ∀ s ∈ t.status, s.IsTimely

/-- The template with the times of its metadata in whole seconds. -/
def wholeSeconds (t : Template k) : Template k := { t with metadata := t.metadata.wholeSeconds }

theorem toJson_wholeSeconds (t : Template k) : t.wholeSeconds.toJson = t.toJson := by
  unfold toJson wholeSeconds specJson
  dsimp only
  rw [t.metadata.toJson_wholeSeconds]

theorem specOfJson?_specJson
    (hpayload : k.readPayload (k.writePayload t.payload) = some t.payload) :
    specOfJson? t.specJson = some (t.payload, t.placement) := by
  have hplacement := Placement.ofJson?_toJson t.placement
  unfold specOfJson? specJson
  rw [Reader.record_object, Option.bind_eq_bind, Option.bind_some, Reader.required_ofList,
    Reader.required_ofList]
  simp [hpayload, hplacement]

theorem ofJson?_toJson (hpayload : k.readPayload (k.writePayload t.payload) = some t.payload)
    (htimely : t.IsTimely) (hsized : t.metadata.IsSized) :
    ofJson? t.toJson = some t.wholeSeconds := by
  have hmetadata := Metadata.ofJson?_toJson htimely.metadata hsized
  have hspec := specOfJson?_specJson hpayload
  have hstatus (s : FleetStatus) (hs : s ∈ t.status) :
      Returns FleetStatus.ofJson? FleetStatus.toJson s s :=
    ⟨by simp [FleetStatus.toJson, Json.object], FleetStatus.ofJson?_toJson (htimely.status s hs)⟩
  unfold ofJson? toJson
  rw [Reader.record_object, Option.bind_eq_bind, Option.bind_some, Reader.required_ofList,
    Reader.required_ofList, Reader.maybe_self (a := t.status) (by simp) hstatus, Json.object_eq]
  simp [hmetadata, hspec, wholeSeconds]

theorem isSized_of_read {j : Json} (h : ofJson? j = some t) : t.metadata.IsSized := by
  have hread {fields : List (String × Json)} (hfields : (do
      let metadata ← Reader.required fields "metadata" Metadata.ofJson?
      let spec ← Reader.required fields "spec" (specOfJson? (k := k))
      let status ← Reader.maybe fields "status" FleetStatus.ofJson?
      return (⟨metadata, spec.1, spec.2, status⟩ : Template k)) = some t) :
      t.metadata.IsSized := by
    simp only [Option.bind_eq_bind, Option.bind_eq_some_iff] at hfields
    obtain ⟨m, hm, _, -, _, -, ht⟩ := hfields
    cases ht
    obtain ⟨j, hj⟩ := Reader.exists_of_required hm
    exact Metadata.isSized_of_read hj
  unfold ofJson? at h
  obtain ⟨fields, -, h⟩ := Option.bind_eq_some_iff.1 h
  dsimp only at h
  split at h
  · split at h
    · exact hread h
    · cases h
  · exact hread h

end Template

/-! Stored forms -/

/-- What is written for a value is read as that value, and what is written for a value that was read
stays as it is when it is read and written again. The first part holds of values that are exact, and
both of values whose times are in the years 0 to 9999. -/
structure Faithful {α : Type} (read : Reader α) (write : α → Json) (timely exact : α → Prop) :
    Prop where
  returns : ∀ a, timely a → exact a → read (write a) = some a
  /-- So an absent map is not written like an empty one, nor an absent status like an initial one. -/
  distinct : ∀ a b, timely a → exact a → timely b → exact b → write a = write b → a = b
  settles : ∀ j a, read j = some a → timely a → (read (write a)).map write = some (write a)

theorem distinct_of_returns {α : Type} {read : Reader α} {write : α → Json} {P : α → Prop}
    (h : ∀ a, P a → read (write a) = some a) {a b : α} (ha : P a) (hb : P b)
    (hab : write a = write b) : a = b := by
  have hread := h a ha
  rw [hab, h b hb] at hread
  exact (Option.some.inj hread).symm

/-- Values without anything that is rounded are all exact. -/
theorem faithful_of_returns {α : Type} {read : Reader α} {write : α → Json} {timely : α → Prop}
    (h : ∀ a, timely a → read (write a) = some a) :
    Faithful read write timely fun _ => True where
  returns a ha _ := h a ha
  distinct _ _ ha _ hb _ hab := distinct_of_returns h ha hb hab
  settles j a _ ha := by
    rw [h a ha]
    rfl

/-- Times of the metadata are whole seconds, and its numbers are integers of 64 bits. -/
structure Template.IsExact {k : Kind} (t : Template k) : Prop where
  whole : t.wholeSeconds = t
  sized : t.metadata.IsSized

theorem Template.faithful {k : Kind}
    (hpayload : ∀ p, k.readPayload (k.writePayload p) = some p) :
    Faithful (Template.ofJson? (k := k)) Template.toJson Template.IsTimely Template.IsExact := by
  have hreturns (t : Template k) (ht : t.IsTimely ∧ t.IsExact) :
      Template.ofJson? t.toJson = some t :=
    (Template.ofJson?_toJson (hpayload t.payload) ht.1 ht.2.sized).trans
      (congrArg some ht.2.whole)
  constructor
  · intro t htimely hexact
    exact hreturns t ⟨htimely, hexact⟩
  · intro t t' htimely hexact htimely' hexact' hsame
    exact distinct_of_returns hreturns ⟨htimely, hexact⟩ ⟨htimely', hexact'⟩ hsame
  · intro j t hread htimely
    rw [Template.ofJson?_toJson (hpayload t.payload) htimely (Template.isSized_of_read hread)]
    exact congrArg some t.toJson_wholeSeconds

/-- Placements, conditions, entries, statuses, payloads and templates are read back from the
documents that are written for them, and a document that was read once and written again is kept
unchanged from then on. -/
theorem stored_forms_round_trip :
    Faithful Placement.ofJson? Placement.toJson (fun _ => True) (fun _ => True) ∧
    Faithful Condition.ofJson? Condition.toJson (fun c => c.lastTransition.IsFourDigit)
      (fun _ => True) ∧
    Faithful ClusterEntry.ofJson? ClusterEntry.toJson (fun e => ∀ t ∈ e.lastUpdate, t.IsFourDigit)
      (fun _ => True) ∧
    Faithful FleetStatus.ofJson? FleetStatus.toJson FleetStatus.IsTimely (fun _ => True) ∧
    Faithful ConfigMapTemplate.ofJson? ConfigMapTemplate.toJson (fun _ => True) (fun _ => True) ∧
    Faithful SecretTemplate.ofJson? SecretTemplate.toJson (fun _ => True) (fun _ => True) ∧
    Faithful (Template.ofJson? (k := .configMap)) Template.toJson Template.IsTimely
      Template.IsExact ∧
    Faithful (Template.ofJson? (k := .secret)) Template.toJson Template.IsTimely
      Template.IsExact :=
  ⟨faithful_of_returns fun p _ => p.ofJson?_toJson,
    faithful_of_returns fun _ hc => Condition.ofJson?_toJson hc,
    faithful_of_returns fun _ he => ClusterEntry.ofJson?_toJson he,
    faithful_of_returns fun _ hs => FleetStatus.ofJson?_toJson hs,
    faithful_of_returns fun t _ => t.ofJson?_toJson,
    faithful_of_returns fun t _ => t.ofJson?_toJson,
    Template.faithful ConfigMapTemplate.ofJson?_toJson,
    Template.faithful SecretTemplate.ofJson?_toJson⟩

end FleetSync
