import FleetSync.Proofs.Convergence

/-!
# A pass is about one template

What an undisturbed pass makes of the template and of the concrete object at its address, apart
from the versions, follows from the two of them and from the time, and the rest of the stores stays
as it is. So two passes over different templates may change places. If they read the clock at other
times then, the outcomes that they record differ in their times at most.
-/
namespace FleetSync

variable {k : Kind}

/-! Times -/

def ClusterEntry.timeless (e : ClusterEntry) : ClusterEntry := { e with lastUpdate := none }

def Condition.timeless (c : Condition) : Condition := { c with lastTransition := default }

namespace FleetStatus
variable {s : FleetStatus} {p : Placement} {cluster d : String} {c c' : Condition}

def timeless (s : FleetStatus) : FleetStatus where
  state := s.state
  conditions := s.conditions.map (·.timeless)
  clusters := s.clusters.mapValues (·.timeless)

theorem stateOf_timeless : s.timeless.stateOf d = s.stateOf d := by
  unfold stateOf timeless
  rw [Dict.get?_mapValues]
  cases s.clusters.get? d <;> rfl

theorem effectiveState_timeless : effectiveState p s.timeless = effectiveState p s := by
  have hstate : s.timeless.stateOf = s.stateOf := funext fun _ => stateOf_timeless
  unfold effectiveState
  rw [hstate]

theorem repeatsCondition_congr (h : c.sameOutcome c' = true) :
    s.repeatsCondition c = s.repeatsCondition c' := by
  obtain ⟨htype, hstatus, hmessage⟩ := Condition.sameOutcome_iff.1 h
  unfold repeatsCondition Condition.sameOutcome
  rw [htype, hstatus, hmessage]

theorem timeless_appendCondition (h : c.sameOutcome c' = true) :
    (s.appendCondition c).conditions.map (·.timeless) =
      (s.appendCondition c').conditions.map (·.timeless) := by
  obtain ⟨htype, hstatus, hmessage⟩ := Condition.sameOutcome_iff.1 h
  have htimeless : c.timeless = c'.timeless := by
    unfold Condition.timeless
    rw [htype, hstatus, hmessage]
  unfold appendCondition
  rw [← repeatsCondition_congr h]
  split
  · rfl
  · dsimp only
    unfold keepNewest
    rw [List.map_drop, List.map_drop, List.map_append, List.map_append, List.map_singleton,
      List.map_singleton, htimeless, List.length_append, List.length_append]
    rfl

theorem timeless_upsert (old : Option ClusterEntry) (h : c.sameOutcome c' = true) :
    (ClusterEntry.upsert old (.ofCondition c)).map (·.timeless) =
      (ClusterEntry.upsert old (.ofCondition c')).map (·.timeless) := by
  obtain ⟨htype, -, hmessage⟩ := Condition.sameOutcome_iff.1 h
  unfold ClusterEntry.upsert ClusterEntry.sameReport ClusterEntry.ofCondition
  rw [htype, hmessage]
  split <;> rfl

theorem timeless_record (h : c.sameOutcome c' = true) :
    (s.record p cluster c).timeless = (s.record p cluster c').timeless := by
  have hconditions : (s.record p cluster c).timeless.conditions =
      (s.record p cluster c').timeless.conditions := by
    unfold timeless record refresh
    dsimp only
    rw [conditions_setCluster, conditions_setCluster]
    exact timeless_appendCondition h
  have hclusters : (s.record p cluster c).timeless.clusters =
      (s.record p cluster c').timeless.clusters := by
    apply Dict.ext_get?
    intro d
    unfold timeless record refresh
    dsimp only
    rw [Dict.get?_mapValues, Dict.get?_mapValues]
    by_cases hd : d = cluster
    · subst hd
      rw [get?_setCluster, get?_setCluster, clusters_appendCondition, clusters_appendCondition]
      exact timeless_upsert _ h
    · rw [get?_setCluster_ne hd, get?_setCluster_ne hd, clusters_appendCondition,
        clusters_appendCondition]
  have hstate : (s.record p cluster c).timeless.state =
      (s.record p cluster c').timeless.state := by
    change effectiveState p (s.record p cluster c) = effectiveState p (s.record p cluster c')
    rw [← effectiveState_timeless, ← @effectiveState_timeless (s.record p cluster c')]
    exact effectiveState_congr hclusters
  exact ext_parts hstate hconditions hclusters

end FleetStatus

def Template.timeless (t : Template k) : Template k :=
  { t with status := t.status.map (·.timeless) }

/-! What becomes of a template -/

/-- What an undisturbed pass makes of a template and of its concrete object, apart from their
versions. -/
structure Settlement (k : Kind) where
  result : Except Failure Unit
  template : Template k
  concrete : Option (Concrete k)

namespace Template

/-- The pass of a cluster over a template, which found `old` as its concrete object. -/
def settlement (cluster : String) (now : Instant) (apart : Bool) (t : Template k)
    (old : Option (Concrete k)) : Settlement k :=
  if t.metadata.isDeleting then ⟨.ok (), t.released apart t.status, none⟩
  else if t.placement.places cluster then
    match k.mutate t.payload (old.getD (.blank t.metadata.key)) with
    | .ok c =>
      let c := c.pin t.metadata.key
      let finalizers := withToken k (t.metadata.finalizers.getD [])
      let outcome := Condition.ofOutcome k.concrete.kind (.ok (.between old c)) now
      ⟨.ok (), { t with
        metadata := { t.metadata with finalizers := some finalizers }
        status := some (t.currentStatus.record t.placement cluster outcome) }, some c⟩
    | .error f =>
      let outcome := Condition.ofOutcome k.concrete.kind (.error f) now
      ⟨.error f, { t with
        status := some (t.currentStatus.record t.placement cluster outcome) }, old⟩
  else ⟨.ok (), t.pruned apart, none⟩

theorem settlement_timeless (cluster : String) (now now' : Instant) (apart : Bool) (t : Template k)
    (old : Option (Concrete k)) :
    (t.settlement cluster now apart old).result = (t.settlement cluster now' apart old).result ∧
    (t.settlement cluster now apart old).concrete =
      (t.settlement cluster now' apart old).concrete ∧
    (t.settlement cluster now apart old).template.timeless =
      (t.settlement cluster now' apart old).template.timeless := by
  have hrecord (outcome : Except Failure SyncOutcome) :
      (t.currentStatus.record t.placement cluster
        (.ofOutcome k.concrete.kind outcome now)).timeless =
      (t.currentStatus.record t.placement cluster
        (.ofOutcome k.concrete.kind outcome now')).timeless :=
    FleetStatus.timeless_record (Condition.sameOutcome_ofOutcome ..)
  unfold settlement
  split
  · exact ⟨rfl, rfl, rfl⟩
  · split
    · split
      · refine ⟨rfl, rfl, ?_⟩
        dsimp only [timeless, Option.map_some]
        rw [hrecord]
      · refine ⟨rfl, rfl, ?_⟩
        dsimp only [timeless, Option.map_some]
        rw [hrecord]
    · exact ⟨rfl, rfl, rfl⟩

theorem Keeps.unversioned_eq {t t' : Template k} {finalizers : Option (List String)}
    {status : Option FleetStatus} (h : t.Keeps t')
    (hfinalizers : t'.metadata.finalizers = finalizers) (hstatus : t'.status = status) :
    Resource.unversioned t' = Resource.unversioned
      { t with metadata := { t.metadata with finalizers }, status } := by
  obtain ⟨hmetadata, hpayload, hplacement⟩ := h
  subst hfinalizers
  subst hstatus
  cases t' with
  | mk metadata payload placement status =>
    dsimp only at hmetadata hpayload hplacement ⊢
    subst hpayload
    subst hplacement
    change (⟨{ metadata with resourceVersion := none }, _, _, _⟩ : Template k) = _
    rw [hmetadata]
    rfl

end Template

theorem eq_some_withToken {finalizers : Option (List String)} {old : List String}
    (h : finalizers.getD [] = withToken k old) : finalizers = some (withToken k old) := by
  cases finalizers with
  | some l => exact congrArg some h
  | none =>
    unfold withToken at h
    split at h
    · rename_i hcontains
      rw [← h] at hcontains
      cases hcontains
    · exact absurd h.symm (List.append_ne_nil_of_right_ne_nil _ (List.cons_ne_nil _ _))

/-- A pass ended like this, and this became of the template and of the concrete object at its
address, and of nothing else. -/
structure Settles (key : Key) (before : World k) (result : Except Failure Unit) (after : World k)
    (s : Settlement k) : Prop where
  result : result = s.result
  template : ∃ t', after.templates.find? key = some t' ∧
    Resource.unversioned t' = Resource.unversioned s.template
  concrete : (after.concretes.find? key).map Resource.unversioned =
    s.concrete.map Resource.unversioned
  templates_apart : ∀ key', key' ≠ key →
    after.templates.find? key' = before.templates.find? key'
  concretes_apart : ∀ key', key' ≠ key →
    after.concretes.find? key' = before.concretes.find? key'

section Passes
variable {cluster : String} {now now' : Instant} {w w' : World k} {key : Key} {t : Template k}

theorem settles_of_perform (hk : k = .configMap ∨ k = .secret) (hkey : t.metadata.key = key)
    (hfind : w.templates.find? key = some t) :
    Settles key w (w.perform cluster now (reconcile key)).1
      (w.perform cluster now (reconcile key)).2
      (t.settlement cluster now w.templates.statusApart (w.concretes.find? key)) := by
  unfold Template.settlement
  cases hdel : t.metadata.isDeleting with
  | true =>
    obtain ⟨w', t', hprocess, hconcretes, hrewrites, hreleased, hwithdrawn⟩ :=
      @withdrawn_of_deleting k cluster now w key t hkey hfind hdel
    rw [perform_reconcile hfind hprocess nofun, if_pos rfl]
    exact ⟨rfl, ⟨t', hrewrites.find, hreleased⟩, by rw [hwithdrawn.erased], hrewrites.apart,
      fun key' hne => hconcretes ▸ w.concretes.find?_drop_ne hne⟩
  | false =>
    rw [if_neg Bool.false_ne_true]
    cases hplaced : t.placement.places cluster with
    | false =>
      obtain ⟨w', t', hprocess, hconcretes, hrewrites, hpruned, hwithdrawn⟩ :=
        @withdrawn_of_elsewhere k cluster now w key t hkey hfind hdel hplaced
      rw [perform_reconcile hfind hprocess nofun, if_neg Bool.false_ne_true]
      exact ⟨rfl, ⟨t', hrewrites.find, hpruned⟩, by rw [hwithdrawn.erased], hrewrites.apart,
        fun key' hne => hconcretes ▸ w.concretes.find?_drop_ne hne⟩
    | true =>
      rw [if_pos rfl, hkey]
      cases hm : k.mutate t.payload ((w.concretes.find? key).getD (.blank key)) with
      | ok c =>
        obtain ⟨w', t', hprocess, hconcretes, hrewrites, hdeployed⟩ :=
          @deployed_of_mutate k cluster now w key t c hkey hfind hdel hplaced hm
        rw [perform_reconcile hfind hprocess nofun]
        have htemplate := hrewrites.keeps.unversioned_eq (eq_some_withToken hdeployed.finalizers)
          hdeployed.status
        obtain ⟨version, hversion⟩ := hdeployed.concrete
        refine ⟨rfl, ⟨t', hrewrites.find, htemplate⟩, ?_, hrewrites.apart, ?_⟩
        · rw [hversion]
          rfl
        · intro key' hne
          rw [hconcretes, w.find?_settle_ne (c.pin key) hne]
      | error f =>
        obtain ⟨w', t', hprocess, hrewrites, hrefused⟩ :=
          @refused_of_mutate k cluster now w key t f hk hkey hfind hdel hplaced hm
        obtain ⟨text, rfl⟩ := hrefused.mutation
        rw [perform_reconcile hfind hprocess (fun _ h => by cases h; rfl)]
        have htemplate := hrewrites.keeps.unversioned_eq hrefused.finalizers hrefused.status
        refine ⟨rfl, ⟨t', hrewrites.find, htemplate⟩, ?_, hrewrites.apart, ?_⟩
        · rw [hrefused.concretes]
        · intro key' hne
          rw [hrefused.concretes]

/-- The stores hold the same at an address, apart from the versions and as far as `view` shows of
the template. -/
structure World.AlikeAt (view : Template k → Template k) (key : Key) (w w' : World k) : Prop where
  templates : (w.templates.find? key).map (fun t => view (Resource.unversioned t)) =
    (w'.templates.find? key).map (fun t => view (Resource.unversioned t))
  concretes : (w.concretes.find? key).map Resource.unversioned =
    (w'.concretes.find? key).map Resource.unversioned

structure World.SameAt (key : Key) (w w' : World k) : Prop where
  templates : w.templates.find? key = w'.templates.find? key
  concretes : w.concretes.find? key = w'.concretes.find? key

section SameAt
variable {view : Template k → Template k} {key : Key} {w w' w₁ w₁' : World k}

theorem World.SameAt.symm (h : w.SameAt key w') : w'.SameAt key w :=
  ⟨h.templates.symm, h.concretes.symm⟩

theorem World.SameAt.trans {w'' : World k} (h : w.SameAt key w') (h' : w'.SameAt key w'') :
    w.SameAt key w'' :=
  ⟨h.templates.trans h'.templates, h.concretes.trans h'.concretes⟩

theorem World.SameAt.alike (h : w.SameAt key w') : World.AlikeAt view key w w' where
  templates := by rw [h.templates]
  concretes := by rw [h.concretes]

theorem World.AlikeAt.congr (halike : World.AlikeAt view key w w') (h : w₁.SameAt key w)
    (h' : w₁'.SameAt key w') : World.AlikeAt view key w₁ w₁' where
  templates := by
    rw [h.templates, h'.templates]
    exact halike.templates
  concretes := by
    rw [h.concretes, h'.concretes]
    exact halike.concretes

end SameAt

/-- What the view shows of a template after a pass does not follow from which of the two times it
was. -/
def Blurs (view : Template k → Template k) (cluster : String) (now now' : Instant) : Prop :=
  ∀ (apart : Bool) (t : Template k) (old : Option (Concrete k)),
    view (Resource.unversioned (t.settlement cluster now apart old).template) =
      view (Resource.unversioned (t.settlement cluster now' apart old).template)

theorem blurs_timeless (cluster : String) (now now' : Instant) :
    Blurs (k := k) Template.timeless cluster now now' := by
  intro apart t old
  have htimeless := (t.settlement_timeless cluster now now' apart old).2.2
  exact congrArg Resource.unversioned htimeless

theorem blurs_self (view : Template k → Template k) (cluster : String) (now : Instant) :
    Blurs view cluster now now := fun _ _ _ => rfl

/-- A pass finds its way by what is at its own address. -/
theorem perform_reconcile_congr {view : Template k → Template k} (hk : k = .configMap ∨ k = .secret)
    (hown : ∀ t, w.templates.find? key = some t → t.metadata.key = key)
    (hview : Blurs view cluster now now') (hsame : w.SameAt key w')
    (hapart : w'.templates.statusApart = w.templates.statusApart) :
    (w.perform cluster now (reconcile key)).1 = (w'.perform cluster now' (reconcile key)).1 ∧
      World.AlikeAt view key (w.perform cluster now (reconcile key)).2
        (w'.perform cluster now' (reconcile key)).2 := by
  cases hfind : w.templates.find? key with
  | none =>
    rw [perform_reconcile_of_none hfind,
      perform_reconcile_of_none (hsame.templates.symm.trans hfind)]
    exact ⟨rfl, hsame.alike⟩
  | some t =>
    have hsettles := @settles_of_perform k cluster now w key t hk (hown t hfind) hfind
    have hsettles' := @settles_of_perform k cluster now' w' key t hk (hown t hfind)
      (hsame.templates.symm.trans hfind)
    rw [hapart, ← hsame.concretes] at hsettles'
    obtain ⟨hresult, hconcrete, -⟩ := t.settlement_timeless cluster now now'
      w.templates.statusApart (w.concretes.find? key)
    obtain ⟨t₁, ht₁, hview₁⟩ := hsettles.template
    obtain ⟨t₂, ht₂, hview₂⟩ := hsettles'.template
    refine ⟨?_, ?_, ?_⟩
    · rw [hsettles.result, hsettles'.result, hresult]
    · rw [ht₁, ht₂, Option.map_some, Option.map_some, hview₁, hview₂, hview]
    · rw [hsettles.concrete, hsettles'.concrete, hconcrete]

theorem perform_reconcile_apart (hk : k = .configMap ∨ k = .secret)
    (hown : ∀ t, w.templates.find? key = some t → t.metadata.key = key) {key' : Key}
    (hne : key' ≠ key) : (w.perform cluster now (reconcile key)).2.SameAt key' w := by
  cases hfind : w.templates.find? key with
  | none =>
    rw [perform_reconcile_of_none hfind]
    exact ⟨rfl, rfl⟩
  | some t =>
    have hsettles := @settles_of_perform k cluster now w key t hk (hown t hfind) hfind
    exact ⟨hsettles.templates_apart key' hne, hsettles.concretes_apart key' hne⟩

end Passes

/-- Two passes over different templates end in the same way and leave the same objects in either
order. -/
theorem passes_commute {view : Template k → Template k} {cluster : String}
    {now₁ now₂ now₁' now₂' : Instant} {w : World k} {key₁ key₂ : Key}
    (hk : k = .configMap ∨ k = .secret) (hne : key₁ ≠ key₂)
    (hown₁ : ∀ t, w.templates.find? key₁ = some t → t.metadata.key = key₁)
    (hown₂ : ∀ t, w.templates.find? key₂ = some t → t.metadata.key = key₂)
    (hview₁ : Blurs view cluster now₁ now₁') (hview₂ : Blurs view cluster now₂ now₂') :
    let one := w.perform cluster now₁ (reconcile key₁)
    let two := one.2.perform cluster now₂ (reconcile key₂)
    let two' := w.perform cluster now₂' (reconcile key₂)
    let one' := two'.2.perform cluster now₁' (reconcile key₁)
    one.1 = one'.1 ∧ two.1 = two'.1 ∧ ∀ key, World.AlikeAt view key two.2 one'.2 := by
  intro one two two' one'
  have hone (key : Key) (h : key ≠ key₁) : one.2.SameAt key w :=
    perform_reconcile_apart hk hown₁ h
  have htwo' (key : Key) (h : key ≠ key₂) : two'.2.SameAt key w :=
    perform_reconcile_apart hk hown₂ h
  have hown₂' (t : Template k) (h : one.2.templates.find? key₂ = some t) : t.metadata.key = key₂ :=
    hown₂ t ((hone key₂ hne.symm).templates.symm.trans h)
  have hown₁' (t : Template k) (h : two'.2.templates.find? key₁ = some t) : t.metadata.key = key₁ :=
    hown₁ t ((htwo' key₁ hne).templates.symm.trans h)
  have htwo (key : Key) (h : key ≠ key₂) : two.2.SameAt key one.2 :=
    perform_reconcile_apart hk hown₂' h
  have hone' (key : Key) (h : key ≠ key₁) : one'.2.SameAt key two'.2 :=
    perform_reconcile_apart hk hown₁' h
  obtain ⟨hresult₁, halike₁⟩ := perform_reconcile_congr hk hown₁ hview₁ (htwo' key₁ hne).symm
    (statusApart_perform cluster now₂' (reconcile key₂) w)
  obtain ⟨hresult₂, halike₂⟩ := perform_reconcile_congr hk hown₂' hview₂ (hone key₂ hne.symm)
    (statusApart_perform cluster now₁ (reconcile key₁) w).symm
  refine ⟨hresult₁, hresult₂, ?_⟩
  intro key
  by_cases h₁ : key = key₁
  · subst h₁
    exact halike₁.congr (htwo key hne) ⟨rfl, rfl⟩
  · by_cases h₂ : key = key₂
    · subst h₂
      exact halike₂.congr ⟨rfl, rfl⟩ (hone' key h₁)
    · have hfirst : two.2.SameAt key w := (htwo key h₂).trans (hone key h₁)
      have hsecond : one'.2.SameAt key w := (hone' key h₁).trans (htwo' key h₂)
      exact (hfirst.trans hsecond.symm).alike

end FleetSync
