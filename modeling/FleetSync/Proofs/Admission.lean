import FleetSync.Manifest
import FleetSync.Proofs.SchemaMeaning
import FleetSync.Proofs.StoredForms

/-!
# Manifests admit what is written

The schema that a kind's manifest declares admits the payload and the placement of each template as
they are written, and its status unless one of its times has a sixtieth second that is no leap
second. No field is dropped, none is filled in, and what a server stores is read as the same values.
-/
namespace FleetSync

/-- The schema of the version that a manifest chooses for storage. -/
def Json.storedSchema? (manifest : Json) : Option Json :=
  match manifest.path? ["spec", "versions"] with
  | some (.arr versions) =>
    (versions.find? fun v => v.get? "storage" matches some (.bool true)).bind
      (·.path? ["schema", "openAPIV3Schema"])
  | _ => none

/-- The fields that objects of every kind have, whatever a manifest says. -/
def Json.envelope : List String := ["apiVersion", "kind", "metadata"]

/-- A document without the fields that objects of every kind have. -/
def Json.content : Json → Json
  | .obj fields => .obj (fields.filter fun f => !envelope.contains f.1)
  | j => j

section Fields
variable {α : Type} {P : String × Json → Prop} {name : String}

theorem forall_mem_field {write : α → Json} {a : Option α} :
    (∀ f ∈ Json.field name write a, P f) ↔ ∀ b ∈ a, P (name, write b) := by
  cases a <;> simp [Json.field]

theorem forall_mem_unless {empty : Bool} {j : Json} :
    (∀ f ∈ if empty then [] else [(name, j)], P f) ↔ (empty = false → P (name, j)) := by
  cases empty <;> simp

end Fields

section Admits
variable {IsTime : List Char → Prop}

theorem Placement.admits (concreteKind : String) (p : Placement) :
    Json.Admits IsTime (schema concreteKind).toJson p.toJson := by
  refine Schema.admits_record _ _ ?_ nofun ?_
  · rw [List.forall_mem_singleton]
    refine ⟨_, rfl, Schema.admits_list _ fun v hv => ?_⟩
    obtain ⟨c, -, rfl⟩ := List.mem_map.1 hv
    refine Schema.admits_record _ _ ?_ ?_ ?_
    · rw [List.forall_mem_singleton]
      exact ⟨_, rfl, Schema.admits_text _ (.inl rfl) nofun⟩
    · simp
    · simp
  · simp

/-- An undeclared field is dropped, and the missing list is filled in. -/
example : Json.fill (Placement.schema "ConfigMap").toJson
    (Json.prune (Placement.schema "ConfigMap").toJson (.obj [("regions", .arr [])])) =
      .obj [("clusters", .arr [])] := rfl

theorem ResourceState.text_mem_names (s : ResourceState) : s.text ∈ names := by
  cases s <;> decide

theorem Instant.admits (n : SchemaNotes) {t : Instant} (h : IsTime t.toRfc3339.toList) :
    Json.Admits IsTime (Schema.text n [] true).toJson t.toJson :=
  Schema.admits_text n (.inl rfl) fun _ => h

theorem Condition.admits {c : Condition} (h : IsTime c.lastTransition.toRfc3339.toList) :
    Json.Admits IsTime schema.toJson c.toJson := by
  have hstatus : c.status.text ∈ [.isTrue, .isFalse, .unknown].map ConditionStatus.text := by
    cases c.status <;> decide
  have htype : c.type.text ∈
      [.deployComplete, .deployPending, .deployFailed].map ConditionType.text := by
    cases c.type <;> decide
  refine Schema.admits_record _ _ ?_ ?_ ?_
  · simp only [List.forall_mem_cons, List.not_mem_nil, false_imp_iff, implies_true, and_true]
    exact ⟨⟨_, rfl, Instant.admits _ h⟩, ⟨_, rfl, Schema.admits_text _ (.inl rfl) nofun⟩,
      ⟨_, rfl, Schema.admits_text _ (.inr hstatus) nofun⟩,
      ⟨_, rfl, Schema.admits_text _ (.inr htype) nofun⟩⟩
  · simp
  · simp

theorem ClusterEntry.admits {e : ClusterEntry}
    (h : ∀ t ∈ e.lastUpdate, IsTime t.toRfc3339.toList) :
    Json.Admits IsTime schema.toJson e.toJson := by
  refine Schema.admits_record _ _ ?_ ?_ ?_
  · simp only [List.forall_mem_append, List.forall_mem_singleton, forall_mem_field]
    exact ⟨⟨⟨_, rfl, Schema.admits_text _ (.inr e.state.text_mem_names) nofun⟩,
      fun s _ => ⟨_, rfl, Schema.admits_text _ (.inl rfl) nofun⟩⟩,
      fun t ht => ⟨_, rfl, Instant.admits _ (h t ht)⟩⟩
  · simp
  · simp [Schema.default?, Schema.optional, Schema.described]

/-- A property of the times of the conditions and of the entries. -/
def FleetStatus.EveryTime (P : Instant → Prop) (s : FleetStatus) : Prop :=
  (∀ c ∈ s.conditions, P c.lastTransition) ∧ ∀ e ∈ s.clusters.entries, ∀ t ∈ e.2.lastUpdate, P t

theorem FleetStatus.EveryTime.imp {P Q R : Instant → Prop} {s : FleetStatus} (h : s.EveryTime P)
    (himp : ∀ t, P t → Q t → R t) (hQ : s.EveryTime Q) : s.EveryTime R :=
  ⟨fun c hc => himp _ (h.1 c hc) (hQ.1 c hc),
    fun e he t ht => himp t (h.2 e he t ht) (hQ.2 e he t ht)⟩

theorem FleetStatus.admits {s : FleetStatus}
    (h : s.EveryTime fun t => IsTime t.toRfc3339.toList) :
    Json.Admits IsTime schema.toJson s.toJson := by
  obtain ⟨hconditions, hclusters⟩ := h
  refine Schema.admits_record _ _ ?_ nofun ?_
  · simp only [List.forall_mem_append, List.forall_mem_singleton, forall_mem_unless]
    refine ⟨⟨⟨_, rfl, Schema.admits_text _ (.inr s.state.text_mem_names) nofun⟩, fun _ => ?_⟩,
      fun _ => ?_⟩
    · refine ⟨_, rfl, Schema.admits_list _ fun v hv => ?_⟩
      obtain ⟨c, hc, rfl⟩ := List.mem_map.1 hv
      exact Condition.admits (hconditions c hc)
    · exact ⟨_, rfl, Schema.admits_table _ fun e he => ClusterEntry.admits (hclusters e he)⟩
  · simp [-List.isEmpty_iff, Schema.default?, Schema.defaulted, Schema.described]

/-! Payloads -/

theorem Schema.admits_strings (n : SchemaNotes) (d : StrDict String) :
    Json.Admits IsTime (texts n).toJson (Json.ofDict .str d) :=
  admits_table n fun _ _ => admits_text _ (.inl rfl) nofun

theorem Schema.admits_bytes (n : SchemaNotes) (d : StrDict Bytes) :
    Json.Admits IsTime (texts n).toJson (Json.ofDict Bytes.toJson d) :=
  admits_table n fun _ _ => admits_text _ (.inl rfl) nofun

theorem EmbeddedMetadata.admits (description : String) (m : EmbeddedMetadata) :
    Json.Admits IsTime (schema description).toJson m.toJson := by
  refine Schema.admits_record _ _ ?_ nofun ?_
  · simp only [List.forall_mem_append, forall_mem_field]
    exact ⟨fun d _ => ⟨_, rfl, Schema.admits_strings _ d⟩,
      fun d _ => ⟨_, rfl, Schema.admits_strings _ d⟩⟩
  · simp [Schema.texts, Schema.default?, Schema.optional]

theorem ConfigMapTemplate.admits (t : ConfigMapTemplate) :
    Json.Admits IsTime schema.toJson t.toJson := by
  refine Schema.admits_record _ _ ?_ nofun ?_
  · simp only [List.forall_mem_append, List.forall_mem_singleton, forall_mem_field]
    exact ⟨⟨⟨⟨_, rfl, t.metadata.admits _⟩, fun d _ => ⟨_, rfl, Schema.admits_strings _ d⟩⟩,
      fun d _ => ⟨_, rfl, Schema.admits_bytes _ d⟩⟩, fun b _ => ⟨_, rfl, Schema.admits_flag _ b⟩⟩
  · simp [Schema.texts, Schema.default?, Schema.optional]

theorem SecretTemplate.admits (t : SecretTemplate) : Json.Admits IsTime schema.toJson t.toJson := by
  refine Schema.admits_record _ _ ?_ nofun ?_
  · simp only [List.forall_mem_append, List.forall_mem_singleton, forall_mem_field]
    exact ⟨⟨⟨⟨⟨_, rfl, t.metadata.admits _⟩,
      fun s _ => ⟨_, rfl, Schema.admits_text _ (.inl rfl) nofun⟩⟩,
      fun d _ => ⟨_, rfl, Schema.admits_bytes _ d⟩⟩,
      fun d _ => ⟨_, rfl, Schema.admits_strings _ d⟩⟩, fun b _ => ⟨_, rfl, Schema.admits_flag _ b⟩⟩
  · simp [Schema.texts, Schema.default?, Schema.optional]

theorem Kind.admits_payload {k : Kind} (hk : k = .configMap ∨ k = .secret) (p : k.Payload) :
    Json.Admits IsTime k.payloadSchema.toJson (k.writePayload p) := by
  rcases hk with rfl | rfl
  · exact ConfigMapTemplate.admits p
  · exact SecretTemplate.admits p

end Admits

/-! The times of a status that is valid -/
section Times
variable {IsTime : List Char → Prop}

theorem Condition.isTime_of_valid {c : Condition}
    (h : Json.Throughout (Json.Meets IsTime) schema.toJson c.toJson) :
    IsTime c.lastTransition.toRfc3339.toList :=
  Schema.isTime_of_throughout (Schema.throughout_field "lastTransitionTime" h rfl rfl)

theorem ClusterEntry.isTime_of_valid {e : ClusterEntry}
    (h : Json.Throughout (Json.Meets IsTime) schema.toJson e.toJson) :
    ∀ t ∈ e.lastUpdate, IsTime t.toRfc3339.toList := by
  intro t ht
  refine Schema.isTime_of_throughout (Schema.throughout_field "lastUpdateTime" h rfl ?_)
  rw [Option.mem_def] at ht
  simp [ht, Instant.toJson]

theorem FleetStatus.everyTime_of_valid {s : FleetStatus}
    (h : Json.Throughout (Json.Meets IsTime) schema.toJson s.toJson) :
    s.EveryTime fun t => IsTime t.toRfc3339.toList := by
  constructor
  · intro c hc
    have hsome : s.conditions ≠ [] := List.ne_nil_of_mem hc
    have hvalues := Schema.throughout_field "conditions" h
      (j := .arr (s.conditions.map Condition.toJson)) rfl (by simp [hsome])
    exact Condition.isTime_of_valid (Schema.throughout_items hvalues _ (List.mem_map_of_mem hc))
  · intro e he
    have hsome : s.clusters.isEmpty = false := by
      rw [Dict.isEmpty, List.isEmpty_eq_false_iff]
      exact List.ne_nil_of_mem he
    have hvalues := Schema.throughout_field "clusters" h
      (j := Json.ofDict ClusterEntry.toJson s.clusters) rfl (by simp [hsome])
    exact ClusterEntry.isTime_of_valid (Schema.throughout_values hvalues e he)

end Times

/-! Templates -/

/-- Entries that are left out by their keys are left out of what is made of a list. -/
theorem Dict.filter_entries_ofList {α : Type} (l : List (String × α)) (p : String → Bool) :
    (ofList l).entries.filter (p ·.1) = (ofList (l.filter (p ·.1))).entries := by
  apply eq_of_find?_eq ((ofList l).ordered.filter _) (ofList _).ordered
  intro key
  have hkey (e : String × α) : decide (p e.1 = true ∧ decide (e.1 = key) = true) =
      (p key && decide (e.1 = key)) := by
    by_cases he : e.1 = key <;> simp [he]
  rw [find?_eq_get?, get?_ofList, ← List.filter_reverse, List.find?_filter, List.find?_filter]
  simp only [hkey]
  cases p key with
  | true => simp only [Bool.true_and, find?_eq_get?, get?_ofList]
  | false =>
    have hnone (entries : List (String × α)) : entries.find? (fun _ => false) = none :=
      List.find?_eq_none.2 fun _ _ => Bool.false_ne_true
    simp only [Bool.false_and, hnone, Option.map_none]

namespace Template
variable {k : Kind} {t : Template k} {IsTime : List Char → Prop}

/-- The content of a template is its payload with its placement, and its status if it has one. -/
theorem content_toJson (t : Template k) : t.toJson.content =
    Json.object ([("spec", t.specJson)] ++ Json.field "status" FleetStatus.toJson t.status) := by
  unfold toJson
  rw [Json.object_eq, Json.object_eq]
  unfold Json.content
  dsimp only
  rw [Dict.filter_entries_ofList _ fun name => !Json.envelope.contains name]
  cases t.status with
  | none => rfl
  | some s => rfl

theorem admits_specJson
    (hpayload : Json.Admits IsTime k.payloadSchema.toJson (k.writePayload t.payload)) :
    Json.Admits IsTime k.specSchema.toJson t.specJson := by
  refine Schema.admits_record _ _ ?_ ?_ ?_
  · simp only [List.forall_mem_cons, List.not_mem_nil, false_imp_iff, implies_true, and_true]
    exact ⟨⟨_, rfl, hpayload⟩, ⟨_, rfl, t.placement.admits _⟩⟩
  · simp
  · simp

theorem admits_content
    (hpayload : Json.Admits IsTime k.payloadSchema.toJson (k.writePayload t.payload))
    (ht : ∀ s ∈ t.status, s.EveryTime fun time => IsTime time.toRfc3339.toList) :
    Json.Admits IsTime k.templateSchema.toJson t.toJson.content := by
  rw [content_toJson]
  refine Schema.admits_record _ _ ?_ ?_ ?_
  · simp only [List.forall_mem_append, List.forall_mem_singleton, forall_mem_field]
    exact ⟨⟨_, rfl, admits_specJson hpayload⟩, fun s hs => ⟨_, rfl, FleetStatus.admits (ht s hs)⟩⟩
  · simp
  · simp [Kind.specSchema, FleetStatus.schema, Schema.default?, Schema.optional, Schema.described]

/-- A template is valid by its schema if its times are, and only then. -/
theorem valid_content_iff (hk : k = .configMap ∨ k = .secret) (ht : ∀ s ∈ t.status, s.IsTimely)
    (longDays : Set Int) :
    Json.Valid longDays k.templateSchema.toJson t.toJson.content ↔
      ∀ s ∈ t.status, s.EveryTime (Instant.LeapsOnlyOn longDays) := by
  have hiff (time : Instant) (h : time.IsFourDigit) :
      IsDateTime longDays time.toRfc3339.toList ↔ time.LeapsOnlyOn longDays :=
    Instant.isDateTime_toRfc3339_iff h
  constructor
  · intro h s hs
    rw [content_toJson] at h
    have hvalid := Schema.throughout_field "status" h (j := s.toJson) rfl
      (by simp [Option.mem_def.1 hs])
    exact FleetStatus.EveryTime.imp (ht s hs) (fun time h => (hiff time h).1)
      (FleetStatus.everyTime_of_valid hvalid)
  · intro h
    have hadmits : Json.Admits (IsDateTime longDays) k.templateSchema.toJson t.toJson.content :=
      admits_content (Kind.admits_payload hk t.payload) fun s hs =>
        FleetStatus.EveryTime.imp (ht s hs) (fun time h => (hiff time h).2) (h s hs)
    exact hadmits.meets

end Template

theorem Kind.storedSchema?_manifest (k : Kind) :
    k.manifest.storedSchema? = some k.templateSchema.toJson := by
  simp [Json.storedSchema?, manifest, versionJson, Json.path?, Json.get?_object]

/-- Take any template of either kind, whose status has no times but those of the years 0 to 9999. By
the schema of its manifest its payload, its placement and its status are valid as they are written,
unless a time of its status has a sixtieth second that is no leap second; then they are refused. In
any case every field of theirs is declared. So a server that drops what is not declared and fills in
defaults stores them unchanged, and they are read as the same values. -/
theorem manifest_refuses_only_false_leap_seconds {k : Kind} (hk : k = .configMap ∨ k = .secret)
    {t : Template k} (ht : ∀ s ∈ t.status, s.IsTimely) (longDays : Set Int) :
    ∃ schema, k.manifest.storedSchema? = some schema ∧
      (Json.Valid longDays schema t.toJson.content ↔
        ∀ s ∈ t.status, s.EveryTime (Instant.LeapsOnlyOn longDays)) ∧
      Json.Declared schema t.toJson.content ∧
      let stored := Json.fill schema (Json.prune schema t.toJson.content)
      stored = t.toJson.content ∧
      (stored.get? "spec").bind Template.specOfJson? = some (t.payload, t.placement) ∧
      (stored.get? "status").map FleetStatus.ofJson? = t.status.map some := by
  have hpayload : k.readPayload (k.writePayload t.payload) = some t.payload := by
    rcases hk with rfl | rfl
    · exact ConfigMapTemplate.ofJson?_toJson t.payload
    · exact SecretTemplate.ofJson?_toJson t.payload
  have hcontent : Json.Admits (fun _ => True) k.templateSchema.toJson t.toJson.content :=
    Template.admits_content (Kind.admits_payload hk t.payload) fun _ _ =>
      ⟨fun _ _ => trivial, fun _ _ _ _ => trivial⟩
  refine ⟨_, k.storedSchema?_manifest, Template.valid_content_iff hk ht longDays,
    hcontent.declared, hcontent.fill_prune, ?_, ?_⟩
  · rw [hcontent.fill_prune, Template.content_toJson, Json.get?_object]
    simpa using Template.specOfJson?_specJson hpayload
  · rw [hcontent.fill_prune, Template.content_toJson, Json.get?_object]
    cases hstatus : t.status with
    | none => simp [Json.field]
    | some s =>
      have hread := FleetStatus.ofJson?_toJson (ht s hstatus)
      simpa [Json.field] using hread

/-- The middle of the leap second at the end of 2016. -/
def leapTime : Instant := ⟨1483228799, 1500000000, by decide, by decide⟩

/-- A secret that became ready at that time. -/
def leapSecret : Template .secret where
  metadata := { name := some "token", ns := some "apps" }
  payload := ⟨default, some "Opaque", some (Dict.ofList [("token", [1, 2, 3])]), none, some true⟩
  placement := ⟨["east"]⟩
  status := some
    { state := .ready
      conditions := [⟨.deployComplete, .isTrue, "Secret created", leapTime⟩]
      clusters := Dict.ofList [("east", ⟨.ready, some "Secret created", some leapTime⟩)] }

theorem everyTime_leapSecret {P : Instant → Prop} (h : P leapTime) :
    ∀ s ∈ leapSecret.status, s.EveryTime P := by
  rintro s ⟨⟩
  constructor
  · intro c hc
    cases List.mem_singleton.1 hc
    exact h
  · intro e he t ht
    cases List.mem_singleton.1 he
    cases ht
    exact h

/-- It is valid where that day is known to end with a leap second, and refused where none is. -/
theorem leap_secret_is_admitted_on_its_day : ∃ schema,
    Kind.secret.manifest.storedSchema? = some schema ∧
    Json.Valid {Calendar.dayNumber ⟨2016, 12, 31⟩} schema leapSecret.toJson.content ∧
    ¬Json.Valid ∅ schema leapSecret.toJson.content ∧
    Json.Declared schema leapSecret.toJson.content ∧
    Json.fill schema (Json.prune schema leapSecret.toJson.content) = leapSecret.toJson.content := by
  have htimely : ∀ s ∈ leapSecret.status, s.IsTimely :=
    everyTime_leapSecret (P := Instant.IsFourDigit) ⟨by decide +kernel, by decide +kernel⟩
  have hleaps : ∀ s ∈ leapSecret.status,
      s.EveryTime (Instant.LeapsOnlyOn {Calendar.dayNumber ⟨2016, 12, 31⟩}) :=
    everyTime_leapSecret fun _ => ⟨_, rfl, by decide⟩
  obtain ⟨schema, hschema, hvalid, hdeclared, hstored, -⟩ :=
    manifest_refuses_only_false_leap_seconds (.inr rfl) htimely {Calendar.dayNumber ⟨2016, 12, 31⟩}
  obtain ⟨schema', hschema', hrefused, -⟩ :=
    manifest_refuses_only_false_leap_seconds (.inr rfl) htimely ∅
  cases hschema.symm.trans hschema'
  refine ⟨schema, hschema, hvalid.2 hleaps, fun h => ?_, hdeclared, hstored⟩
  obtain ⟨day, hday, -⟩ := (hrefused.1 h _ rfl).1 _ List.mem_cons_self (by decide)
  exact hday

/-- Settings whose condition is of the sixtieth second of a minute before the last of a day. -/
def lateSettings : Template .configMap where
  metadata := { name := some "settings", ns := some "apps" }
  payload := ⟨default, some (Dict.ofList [("a", "1")]), none, none⟩
  placement := ⟨["east"]⟩
  status := some
    { FleetStatus.initial with
      state := .ready
      conditions := [⟨.deployComplete, .isTrue, "ConfigMap created",
        ⟨915148739, 1500000000, by decide, by decide⟩⟩] }

/-- There is no leap second in such a minute, so they are refused whichever days end with one. -/
theorem late_settings_are_refused : (∀ s ∈ lateSettings.status, s.IsTimely) ∧
    ∃ schema, Kind.configMap.manifest.storedSchema? = some schema ∧
      ∀ longDays, ¬Json.Valid longDays schema lateSettings.toJson.content := by
  have htimely : ∀ s ∈ lateSettings.status, s.IsTimely := by
    rintro s ⟨⟩
    constructor
    · intro c hc
      cases List.mem_singleton.1 hc
      exact ⟨by decide +kernel, by decide +kernel⟩
    · intro e he
      cases he
  refine ⟨htimely, _, Kind.configMap.storedSchema?_manifest, fun longDays h => ?_⟩
  have hleaps := (Template.valid_content_iff (.inl rfl) htimely longDays).1 h _ rfl
  obtain ⟨day, -, hseconds⟩ := hleaps.1 _ List.mem_cons_self (by decide)
  have hminute : (915148739 : Int) = day * 86400 + 86399 := hseconds
  omega

end FleetSync
