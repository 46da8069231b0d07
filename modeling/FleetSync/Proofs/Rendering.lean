import FleetSync.Proofs.Normalization

/-!
# Rendering as a whole

A payload is rendered exactly if its keys are well formed, and, for a config map, none of them
holds a text and bytes at once. What is rendered follows from the payload alone and replaces the
body, the labels and the annotations of the concrete object. A refusal comes before the first field
is written.
-/
namespace FleetSync

variable {k : Kind}

/-! Keys -/

def KeyLetter (c : Char) : Prop :=
  'a' ≤ c ∧ c ≤ 'z' ∨ 'A' ≤ c ∧ c ≤ 'Z' ∨ '0' ≤ c ∧ c ≤ '9' ∨ c = '-' ∨ c = '_' ∨ c = '.'

structure KeyForm (key : String) : Prop where
  ne_empty : key ≠ ""
  bytes_le : key.utf8ByteSize ≤ 253
  letters : ∀ c ∈ key.toList, KeyLetter c
  ne_dot : key ≠ "."
  ne_dots : key ≠ ".."

theorem isKeyChar_iff {c : Char} : isKeyChar c = true ↔ KeyLetter c := by
  have hclasses : isKeyChar c = ((c.isUpper || c.isLower || c.isDigit) ||
      c == '-' || c == '_' || c == '.') := rfl
  have hupper : c.isUpper = decide ('A' ≤ c ∧ c ≤ 'Z') := rfl
  have hlower : c.isLower = (decide ('a' ≤ c) && decide (c ≤ 'z')) := rfl
  have hdigit : c.isDigit = (decide ('0' ≤ c) && decide (c ≤ '9')) := rfl
  rw [hclasses, hupper, hlower, hdigit]
  simp only [KeyLetter, Bool.or_eq_true, Bool.and_eq_true, decide_eq_true_eq, beq_iff_eq]
  grind

theorem isValidKey_iff {key : String} : isValidKey key = true ↔ KeyForm key := by
  have hletters : key.toList.all isKeyChar = true ↔ ∀ c ∈ key.toList, KeyLetter c := by
    simp [isKeyChar_iff]
  constructor
  · intro h
    simp only [isValidKey, Bool.and_eq_true, decide_eq_true_eq, hletters] at h
    obtain ⟨⟨⟨⟨hne, hbytes⟩, hchars⟩, hdot⟩, hdots⟩ := h
    exact ⟨hne, hbytes, hchars, hdot, hdots⟩
  · rintro ⟨hne, hbytes, hchars, hdot, hdots⟩
    simp only [isValidKey, Bool.and_eq_true, decide_eq_true_eq, hletters]
    exact ⟨⟨⟨⟨hne, hbytes⟩, hchars⟩, hdot⟩, hdots⟩

theorem checkKeys_of_forall {keys : List String} (h : ∀ key ∈ keys, KeyForm key) :
    checkKeys keys = .ok () := by
  have hnone : keys.find? (fun key => !isValidKey key) = none := by
    rw [List.find?_eq_none]
    intro key hkey
    simp [isValidKey_iff.2 (h key hkey)]
  unfold checkKeys
  rw [hnone]
  rfl

theorem forall_of_checkKeys {keys : List String} (h : checkKeys keys = .ok ()) :
    ∀ key ∈ keys, KeyForm key := by
  unfold checkKeys at h
  split at h
  · cases h
  · rename_i hnone
    intro key hkey
    have hvalid := List.find?_eq_none.1 hnone key hkey
    exact isValidKey_iff.1 (by simpa using hvalid)

def HasKey {α : Type} (d : Option (StrDict α)) (key : String) : Prop :=
  ((d.getD ∅).get? key).isSome

theorem ConfigMapTemplate.mem_keysOf_iff {α : Type} {d : Option (StrDict α)} {key : String} :
    key ∈ keysOf d ↔ HasKey d key := by
  cases d with
  | none => exact ⟨fun h => (List.not_mem_nil h).elim, fun h => by cases h⟩
  | some d => exact Dict.mem_keys_iff

@[simp] theorem nonEmpty_ne_some_empty {α : Type} (d : Option (StrDict α)) :
    nonEmpty d ≠ some ∅ := by
  intro h
  have hempty : (∅ : StrDict α).isEmpty = true := rfl
  simp [nonEmpty, Option.filter_eq_some_iff, hempty] at h

@[simp] theorem getD_nonEmpty_eq {α : Type} (d : Option (StrDict α)) :
    (nonEmpty d).getD ∅ = d.getD ∅ := by
  cases d with
  | none => rfl
  | some d => exact getD_nonEmpty d

/-- How an object is left by a change that replaces it as a whole, or not at all. -/
def Concrete.updateBy (c : Concrete k) :
    Except Failure (Concrete k) → Except Failure Unit × Concrete k
  | .ok c' => (.ok (), c')
  | .error f => (.error f, c)

/-! The two kinds of payload -/

namespace ConfigMapTemplate

variable {t : ConfigMapTemplate}

/-- All keys are well formed, and none is in both maps. -/
structure WellKeyed (t : ConfigMapTemplate) : Prop where
  form : ∀ key, HasKey t.data key ∨ HasKey t.binaryData key → KeyForm key
  apart : ∀ key, ¬ (HasKey t.data key ∧ HasKey t.binaryData key)

def rendering (t : ConfigMapTemplate) : Rendering ConfigMapBody where
  body := ⟨nonEmpty t.data, nonEmpty t.binaryData, t.immutable⟩
  labels := nonEmpty t.metadata.labels
  annotations := nonEmpty t.metadata.annotations

theorem sharedKey?_eq_none_iff : t.sharedKey? = none ↔
    ∀ key, ¬ (HasKey t.data key ∧ HasKey t.binaryData key) := by
  simp [sharedKey?, List.find?_eq_none, mem_keysOf_iff]

theorem render_of_wellKeyed (h : t.WellKeyed) : t.render = .ok t.rendering := by
  have hkeys : checkKeys (keysOf t.data ++ keysOf t.binaryData) = .ok () := by
    apply checkKeys_of_forall
    intro key hkey
    rw [List.mem_append, mem_keysOf_iff, mem_keysOf_iff] at hkey
    exact h.form key hkey
  unfold render
  rw [hkeys, sharedKey?_eq_none_iff.2 h.apart]
  rfl

theorem wellKeyed_of_render {r : Rendering ConfigMapBody} (h : t.render = .ok r) :
    t.WellKeyed := by
  unfold render at h
  cases hkeys : checkKeys (keysOf t.data ++ keysOf t.binaryData) with
  | error f =>
    rw [hkeys] at h
    cases h
  | ok u =>
    rw [hkeys] at h
    cases hshared : t.sharedKey? with
    | some key =>
      rw [hshared] at h
      cases h
    | none =>
      refine ⟨fun key hkey => ?_, sharedKey?_eq_none_iff.1 hshared⟩
      apply forall_of_checkKeys hkeys
      rwa [List.mem_append, mem_keysOf_iff, mem_keysOf_iff]

/-- The fields are written one after the other, all of them or none. -/
theorem run_renderOnto (c : Concrete .configMap) :
    t.renderOnto.run.run c = c.updateBy (Kind.configMap.mutate t c) := by
  have hmutate : Kind.configMap.mutate t c = do
    let r ← t.render
    return {
      metadata := { c.metadata with labels := r.labels, annotations := r.annotations }
      body := r.body } := rfl
  rw [hmutate]
  unfold renderOnto render
  cases checkKeys (keysOf t.data ++ keysOf t.binaryData) with
  | error f => rfl
  | ok u =>
    cases t.sharedKey? with
    | none => rfl
    | some key => rfl

end ConfigMapTemplate

namespace SecretTemplate

variable {t : SecretTemplate}

/-- All keys are well formed. -/
def WellKeyed (t : SecretTemplate) : Prop :=
  ∀ key, HasKey t.data key ∨ HasKey t.stringData key → KeyForm key

def rendering (t : SecretTemplate) : Rendering SecretBody where
  body := {
    data := nonEmpty (some t.allData)
    immutable := t.immutable
    stringData := none
    type := some (t.type.getD defaultSecretType) }
  labels := nonEmpty t.metadata.labels
  annotations := nonEmpty t.metadata.annotations

theorem get?_allData (key : String) : t.allData.get? key =
    match (t.stringData.getD ∅).get? key with
    | some text => some text.toUTF8.toList
    | none => (t.data.getD ∅).get? key := by
  unfold allData
  rw [Dict.get?_override, Dict.get?_mapValues]
  cases (t.stringData.getD ∅).get? key <;> rfl

theorem mem_keys_allData_iff {key : String} :
    key ∈ t.allData.keys ↔ HasKey t.data key ∨ HasKey t.stringData key := by
  rw [Dict.mem_keys_iff, get?_allData]
  unfold HasKey
  cases (t.stringData.getD ∅).get? key <;> simp

theorem render_of_wellKeyed (h : t.WellKeyed) : t.render = .ok t.rendering := by
  have hkeys : checkKeys t.allData.keys = .ok () := by
    apply checkKeys_of_forall
    intro key hkey
    exact h key (mem_keys_allData_iff.1 hkey)
  unfold render
  rw [hkeys]
  rfl

theorem wellKeyed_of_render {r : Rendering SecretBody} (h : t.render = .ok r) : t.WellKeyed := by
  unfold render at h
  cases hkeys : checkKeys t.allData.keys with
  | error f =>
    rw [hkeys] at h
    cases h
  | ok u =>
    intro key hkey
    exact forall_of_checkKeys hkeys key (mem_keys_allData_iff.2 hkey)

theorem run_renderOnto (c : Concrete .secret) :
    t.renderOnto.run.run c = c.updateBy (Kind.secret.mutate t c) := by
  have hmutate : Kind.secret.mutate t c = do
    let r ← t.render
    return {
      metadata := { c.metadata with labels := r.labels, annotations := r.annotations }
      body := r.body } := rfl
  rw [hmutate]
  unfold renderOnto render
  cases checkKeys t.allData.keys with
  | error f => rfl
  | ok u => rfl

end SecretTemplate

/-! Renderings of either kind -/

/-- A payload is rendered onto all concrete objects or onto none, and what is written is this
rendering, whatever was there; `inPlace` writes it field by field. -/
structure Kind.RendersWholly (k : Kind) (payload : k.Payload) (accepted : Prop)
    (r : Rendering k.Body) (inPlace : Writing k Unit) : Prop where
  succeeds_iff : ∀ c, (∃ c', k.mutate payload c = .ok c') ↔ accepted
  refused : ∀ c f, k.mutate payload c = .error f →
    (∃ text, f = .mutation text) ∧ inPlace.run.run c = (.error f, c)
  rendered : ∀ c c', k.mutate payload c = .ok c' → inPlace.run.run c = (.ok (), c') ∧ c' =
    { metadata := { c.metadata with labels := r.labels, annotations := r.annotations },
      body := r.body }
  twice : ∀ c c', k.mutate payload c = .ok c' → k.mutate payload c' = .ok c'
  /-- Another payload that was rendered before leaves nothing behind. -/
  no_residue : ∀ other c c', k.mutate other c = .ok c' → k.mutate payload c' = k.mutate payload c
  labels_ne_empty : r.labels ≠ some ∅
  annotations_ne_empty : r.annotations ≠ some ∅

theorem Kind.mutate_of_mutate {payload other : k.Payload} {c c' : Concrete k}
    (h : k.mutate other c = .ok c') : k.mutate payload c' = k.mutate payload c := by
  obtain ⟨r, -, rfl⟩ := render_of_mutate_eq_ok h
  unfold mutate
  cases k.render payload <;> rfl

theorem Kind.rendersWholly {payload : k.Payload} {accepted : Prop} {r : Rendering k.Body}
    {inPlace : Writing k Unit} (hk : k = .configMap ∨ k = .secret)
    (haccepted : accepted → k.render payload = .ok r)
    (hrendered : ∀ r, k.render payload = .ok r → accepted)
    (hinPlace : ∀ c, inPlace.run.run c = c.updateBy (k.mutate payload c))
    (hlabels : r.labels ≠ some ∅) (hannotations : r.annotations ≠ some ∅) :
    k.RendersWholly payload accepted r inPlace := by
  refine ⟨?_, ?_, ?_, ?_, fun _ _ _ => mutate_of_mutate, hlabels, hannotations⟩
  · intro c
    constructor
    · rintro ⟨c', h⟩
      obtain ⟨r', hr', -⟩ := render_of_mutate_eq_ok h
      exact hrendered r' hr'
    · intro h
      exact ⟨_, mutate_of_render (haccepted h) c⟩
  · intro c f h
    refine ⟨mutation_of_mutate_eq_error hk h, ?_⟩
    rw [hinPlace, h, Concrete.updateBy]
  · intro c c' h
    refine ⟨by rw [hinPlace, h, Concrete.updateBy], ?_⟩
    obtain ⟨r', hr', rfl⟩ := render_of_mutate_eq_ok h
    cases (haccepted (hrendered r' hr')).symm.trans hr'
    rfl
  · intro c c' h
    rw [mutate_of_mutate h, h]

/-- For every payload of either kind there is one rendering that all concrete objects get, or else
all are refused and stay as they are. It is accepted exactly if its keys are well formed and, for a
config map, apart. No map of the rendering is empty, and its entries are those of the payload, where
the texts of a secret are turned into bytes and take precedence. -/
theorem rendering_is_all_or_nothing :
    (∀ t : ConfigMapTemplate, ∃ r : Rendering ConfigMapBody,
      Kind.configMap.RendersWholly t t.WellKeyed r t.renderOnto ∧
      r.body.data ≠ some ∅ ∧ r.body.data.getD ∅ = t.data.getD ∅ ∧
      r.body.binaryData ≠ some ∅ ∧ r.body.binaryData.getD ∅ = t.binaryData.getD ∅ ∧
      r.body.immutable = t.immutable ∧
      r.labels.getD ∅ = t.metadata.labels.getD ∅ ∧
      r.annotations.getD ∅ = t.metadata.annotations.getD ∅) ∧
    ∀ t : SecretTemplate, ∃ r : Rendering SecretBody,
      Kind.secret.RendersWholly t t.WellKeyed r t.renderOnto ∧
      r.body.data ≠ some ∅ ∧ r.body.stringData = none ∧
      (∀ key, (r.body.data.getD ∅).get? key = match (t.stringData.getD ∅).get? key with
        | some text => some text.toUTF8.toList
        | none => (t.data.getD ∅).get? key) ∧
      r.body.type = some (t.type.getD defaultSecretType) ∧ r.body.immutable = t.immutable ∧
      r.labels.getD ∅ = t.metadata.labels.getD ∅ ∧
      r.annotations.getD ∅ = t.metadata.annotations.getD ∅ := by
  constructor
  · intro t
    have hwhole : Kind.configMap.RendersWholly t t.WellKeyed t.rendering t.renderOnto :=
      Kind.rendersWholly (.inl rfl) ConfigMapTemplate.render_of_wellKeyed
        (fun _ => ConfigMapTemplate.wellKeyed_of_render) ConfigMapTemplate.run_renderOnto
        (nonEmpty_ne_some_empty _) (nonEmpty_ne_some_empty _)
    refine ⟨t.rendering, hwhole, ?_⟩
    simp [ConfigMapTemplate.rendering]
  · intro t
    have hwhole : Kind.secret.RendersWholly t t.WellKeyed t.rendering t.renderOnto :=
      Kind.rendersWholly (.inr rfl) SecretTemplate.render_of_wellKeyed
        (fun _ => SecretTemplate.wellKeyed_of_render) SecretTemplate.run_renderOnto
        (nonEmpty_ne_some_empty _) (nonEmpty_ne_some_empty _)
    refine ⟨t.rendering, hwhole, ?_⟩
    simp [SecretTemplate.rendering, SecretTemplate.get?_allData]

end FleetSync
