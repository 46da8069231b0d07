import FleetSync.Controller
import FleetSync.Proofs.Episodes
import FleetSync.Proofs.Footprint
import FleetSync.Proofs.Records

/-!
# Synchronizations among other writers

Others may write, drop and renew the concrete object before and after each call of a
synchronization, and each call may fail. Of its writes one is accepted at most, and the result says
which: a creation, a replacement of the very version that the same attempt read, or none. Whatever
the change does to the object, it is sent under the requested address and with the label by which a
controller finds its way back to the template.
-/
namespace FleetSync

variable {k : Kind}

def Exchange.accepted? : Exchange (Request k) Request.Answer → Option (StoreCall (Concrete k))
  | ⟨.concrete (.get _), _⟩ => none
  | ⟨.concrete call, .ok _⟩ => some call
  | _ => none

def acceptedWrites (es : Dialogue k) : List (StoreCall (Concrete k)) := es.filterMap (·.accepted?)

/-! The marks of the object -/

/-- A selector `label=value` selects the documents whose label has that value. -/
def Json.isSelectedBy (document : Json) (selector : String) : Bool :=
  let cs := selector.toList
  let label := String.ofList (cs.takeWhile (· ≠ '='))
  match document.path? ["metadata", "labels", label] with
  | some (.str value) => cs = label.toList ++ '=' :: value.toList
  | _ => false

theorem Json.isSelectedBy_managedBySelector (document : Json) :
    document.isSelectedBy managedBySelector = Controller.isManaged document := by
  have hlabel : String.ofList (managedBySelector.toList.takeWhile (· ≠ '=')) = managedByLabel := by
    decide +kernel
  unfold isSelectedBy Controller.isManaged
  dsimp only
  rw [hlabel]
  cases document.path? ["metadata", "labels", managedByLabel] with
  | none => rfl
  | some j =>
    cases j with
    | str value => simp [managedBySelector, String.toList_inj, eq_comm]
    | _ => rfl

namespace Concrete

/-- The object is among those that are watched, and a change that leaves it asks for a pass over the
template at an address. -/
def LeadsTo (c : Concrete k) (key : Key) : Prop :=
  c.toJson.isSelectedBy managedBySelector = true ∧ Http.keyOf c.toJson = key ∧
    ∀ before, Controller.isTrigger k ⟨k.concrete.plural, key, before, some c.toJson⟩ = true

/-- The object has an address, and the label says that a controller wrote it. -/
structure Marked (key : Key) (c : Concrete k) : Prop where
  name_eq : c.metadata.name = some key.name
  ns_eq : c.metadata.ns = some key.ns
  isManaged : c.metadata.isManaged = true

variable {c : Concrete k} {key : Key}

theorem marked_pin (c : Concrete k) (key : Key) : (c.pin key).Marked key where
  name_eq := rfl
  ns_eq := rfl
  isManaged := by
    unfold Metadata.isManaged pin Metadata.pin
    simp

theorem get?_metadata_toJson (hk : k = .configMap ∨ k = .secret) (c : Concrete k) :
    c.toJson.get? "metadata" = some c.metadata.toJson := by
  rcases hk with rfl | rfl
  · simp [toJson, Json.get?_object, Kind.configMap, ConfigMapBody.fields]
  · simp [toJson, Json.get?_object, Kind.secret, SecretBody.fields]

theorem path?_metadata_toJson (hk : k = .configMap ∨ k = .secret) (c : Concrete k)
    (path : List String) :
    c.toJson.path? ("metadata" :: path) = c.metadata.toJson.path? path := by
  rw [Json.path?, get?_metadata_toJson hk, Option.bind_some]

theorem Marked.leadsTo (hk : k = .configMap ∨ k = .secret) (h : c.Marked key) :
    c.LeadsTo key := by
  have hname : Http.metaText c.toJson "name" = key.name := by
    unfold Http.metaText Http.metaField
    rw [path?_metadata_toJson hk]
    simp [Json.path?, Metadata.toJson, Json.get?_object, h.name_eq]
  have hns : Http.metaText c.toJson "namespace" = key.ns := by
    unfold Http.metaText Http.metaField
    rw [path?_metadata_toJson hk]
    simp [Json.path?, Metadata.toJson, Json.get?_object, h.ns_eq]
  have hmanaged : Controller.isManaged c.toJson = true := by
    obtain ⟨labels, hlabels, hlabel⟩ : ∃ labels, c.metadata.labels = some labels ∧
        labels.get? managedByLabel = some managerName := by
      have hlabel : (c.metadata.labels.getD ∅).get? managedByLabel = some managerName :=
        eq_of_beq h.isManaged
      cases hlabels : c.metadata.labels with
      | none =>
        rw [hlabels] at hlabel
        cases hlabel
      | some labels =>
        rw [hlabels] at hlabel
        exact ⟨labels, rfl, hlabel⟩
    unfold Controller.isManaged
    rw [path?_metadata_toJson hk]
    simp [Json.path?, Metadata.toJson, Json.get?_object, Json.get?_ofDict, hlabels, hlabel]
  refine ⟨?_, ?_, fun before => ?_⟩
  · rw [Json.isSelectedBy_managedBySelector, hmanaged]
  · unfold Http.keyOf
    rw [hname, hns]
  · simp [Controller.isTrigger, hmanaged]

end Concrete

/-! Attempts -/
section Attempts
variable {key : Key} {mutation : Mutation k} {es earlier last : Dialogue k} {n : Nat}
  {r : Except Failure SyncOutcome}

/-- The accepted writes of a synchronization with this result. -/
inductive SyncWrites (key : Key) :
    Except Failure SyncOutcome → List (StoreCall (Concrete k)) → Prop
  | failed (f : Failure) : SyncWrites key (.error f) []
  | unchanged : SyncWrites key (.ok .unchanged) []
  | created (c : Concrete k) : SyncWrites key (.ok .created) [.create key.ns c]
  | updated (c : Concrete k) : SyncWrites key (.ok .updated) [.replace key c]

section SyncWrites
variable {writes : List (StoreCall (Concrete k))}

theorem SyncWrites.length_le (h : SyncWrites key r writes) : writes.length ≤ 1 := by
  cases h <;> simp

theorem SyncWrites.created_iff (h : SyncWrites key r writes) :
    r = .ok .created ↔ ∃ c, writes = [.create key.ns c] := by
  cases h <;> simp

theorem SyncWrites.updated_iff (h : SyncWrites key r writes) :
    r = .ok .updated ↔ ∃ c, writes = [.replace key c] := by
  cases h <;> simp

theorem SyncWrites.eq_nil_of_unchanged (h : SyncWrites key (.ok .unchanged) writes) :
    writes = [] := by
  cases h
  rfl

theorem SyncWrites.eq_nil_of_error {f : Failure} (h : SyncWrites key (.error f) writes) :
    writes = [] := by
  cases h
  rfl

end SyncWrites

theorem SyncEnds.writes (h : SyncEnds key mutation es r) :
    SyncWrites key r (acceptedWrites es) := by
  cases h with
  | unsighted f => exact .failed f
  | @refused found f h => exact .failed f
  | unchanged h hsame => exact .unchanged
  | created h answer =>
    cases answer with
    | error f => exact .failed f
    | ok stored => exact .created _
  | updated h hne answer =>
    cases answer with
    | error f => exact .failed _
    | ok stored => exact .updated _

theorem SyncEnds.of_unchanged (h : SyncEnds key mutation es (.ok .unchanged)) :
    ∃ old c, es = [sighted key (some old)] ∧ mutation old = .ok c ∧ c.pin key = old := by
  generalize hr : Except.ok SyncOutcome.unchanged = r at h
  cases h with
  | unsighted f => cases hr
  | refused h => cases hr
  | created h answer => cases answer <;> cases hr
  | updated h hne answer => cases answer <;> cases hr
  | @unchanged old c h hsame => exact ⟨old, c, rfl, h, hsame⟩

theorem SyncEnds.countP_reads (h : SyncEnds key mutation es r) : es.countP (·.reads) = 1 := by
  cases h <;> rfl

theorem Attempted.writes (h : Attempted (syncOnce key mutation) n earlier last r) :
    SyncWrites key r (acceptedWrites (earlier ++ last)) := by
  have hlast : acceptedWrites (earlier ++ last) = acceptedWrites last :=
    h.filterMap_eq (fun _ _ hends => (ends_syncOnce hends).writes.eq_nil_of_error) fun _ => rfl
  exact hlast ▸ (ends_syncOnce h.ends).writes

theorem of_asks_replace {key' : Key} {c : Concrete k}
    (h : (synchronize key mutation).run.Asks es (.concrete (.replace key' c))) :
    key' = key ∧ ∃ es' old c', es = es' ++ [sighted key (some old)] ∧ mutation old = .ok c' ∧
      c = c'.pin key := by
  obtain ⟨n, -, es', last, rfl, -, hlast | ⟨f, d, -, -, hq⟩⟩ := asks_retryConflicts h
  · generalize hq : Request.concrete (.replace key' c) = q at hlast
    cases asks_syncOnce hlast with
    | get => cases hq
    | create hc => cases hq
    | @replace old c' hc hne =>
      cases hq
      exact ⟨rfl, es', old, c', rfl, hc, rfl⟩
  · cases hq

end Attempts

/-! Whole synchronizations -/

/-- What a synchronization with these moments and this result did. -/
structure SyncAccount (key : Key) (mutation : Mutation k) (ms : List (Moment k))
    (result : Except Failure SyncOutcome) : Prop where
  /-- All attempts but the last one ended with a conflict. Each one read the object once. -/
  attempts : ∃ n earlier last, pastOf ms = earlier ++ last ∧
    Attempted (syncOnce key mutation) n earlier last result ∧ SyncEnds key mutation last result ∧
    (pastOf ms).countP (·.reads) = n + 1
  bounded : (pastOf ms).countP (·.reads) ≤ 5
  once : (acceptedWrites (pastOf ms)).length ≤ 1
  created : result = .ok .created ↔ ∃ c, acceptedWrites (pastOf ms) = [.create key.ns c]
  updated : result = .ok .updated ↔ ∃ c, acceptedWrites (pastOf ms) = [.replace key c]
  unchanged : result = .ok .unchanged → acceptedWrites (pastOf ms) = [] ∧
    ∃ es old c, pastOf ms = es ++ [sighted key (some old)] ∧ mutation old = .ok c ∧
      c.pin key = old
  failed : ∀ f, result = .error f → acceptedWrites (pastOf ms) = []
  /-- A conflict is the result of the fifth attempt only. -/
  exhausted : ∀ f, result = .error f → f.isConflict = true → (pastOf ms).countP (·.reads) = 5

/-- What one exchange of a synchronization did, after the earlier ones. -/
structure SyncStep (key : Key) (mutation : Mutation k) (w₀ : World k)
    (earlier : List (Moment k)) (m : Moment k) : Prop where
  templates : m.after.templates = m.before.templates
  elsewhere : ∀ key' ≠ key, m.after.concretes.find? key' = m.before.concretes.find? key'
  refused : m.exchange.accepted? = none → m.after.concretes = m.before.concretes
  sent : ∀ c, m.exchange.request.object? = some c →
    c.Marked key ∧ (k = .configMap ∨ k = .secret → c.LeadsTo key)
  /-- What is overwritten has the version that was read just before, and it is the object that was
  read, if the stores gave out each version once. -/
  overwritten : ∀ c stored, m.exchange = ⟨.concrete (.replace key c), .ok stored⟩ →
    ∃ es old c' there, pastOf earlier = es ++ [sighted key (some old)] ∧
      mutation old = .ok c' ∧ c = c'.pin key ∧
      m.before.concretes.find? key = some there ∧
      Resource.version? there = Resource.version? old ∧ (w₀.Versioned → there = old)

section Account
variable {key : Key} {mutation : Mutation k} {w₀ w : World k} {ms : List (Moment k)}
  {result : Except Failure SyncOutcome}

theorem Episode.syncAccount (h : Episode (synchronize key mutation).run w₀ ms w (.done result)) :
    SyncAccount key mutation ms result := by
  obtain ⟨n, earlier, last, hpast, hattempted, hcount, hbounded, hexhausted⟩ :=
    h.attempted fun _ _ hends => (ends_syncOnce hends).countP_reads
  have hends := ends_syncOnce hattempted.ends
  have hwrites := hattempted.writes
  rw [← hpast] at hwrites
  refine ⟨⟨n, earlier, last, hpast, hattempted, hends, hcount⟩, hbounded, hwrites.length_le,
    hwrites.created_iff, hwrites.updated_iff, ?_, ?_, hexhausted⟩
  · rintro rfl
    obtain ⟨old, c, rfl, hc, hsame⟩ := hends.of_unchanged
    exact ⟨hwrites.eq_nil_of_unchanged, earlier, old, c, hpast, hc, hsame⟩
  · rintro f rfl
    exact hwrites.eq_nil_of_error

end Account

/-! Single exchanges -/

theorem World.Answers.overwritten {w w' : World k} {key : Key} {c stored : Concrete k}
    (h : w.Answers (.concrete (.replace key c)) (.ok stored) w') :
    ∃ there, w.concretes.find? key = some there ∧
      Resource.version? there = Resource.version? c := by
  have hserved := h.1.served
  generalize w'.concretes = store at hserved
  cases hserved with
  | replaced hthere hv => exact ⟨_, hthere, hv⟩

theorem World.Answers.concretes_eq {w w' : World k} {q : Request k} {r : q.Answer}
    (h : w.Answers q r w') (hnone : Exchange.accepted? ⟨q, r⟩ = none) :
    w'.concretes = w.concretes := by
  rcases h.concretes with ⟨call, r', he, hserved⟩ | ⟨hsame, -⟩
  · rw [he] at hnone
    generalize w'.concretes = store at hserved
    cases hserved with
    | found key' => rfl
    | failed call f => rfl
    | created ho h => cases hnone
    | replaced h hv => cases hnone
    | restated h hv => cases hnone
    | deleted key' => cases hnone
  · exact hsame

section Step
variable {key : Key} {mutation : Mutation k} {w₀ w : World k} {later earlier : List (Moment k)}
  {m : Moment k} {p : Task k (Except Failure SyncOutcome)}

theorem Episode.overwritten {c stored : Concrete k}
    (hversion : ∀ c c', mutation c = .ok c' → Resource.version? c' = Resource.version? c)
    (h : Episode (synchronize key mutation).run w₀ (later ++ m :: earlier) w p)
    (hm : m.exchange = ⟨.concrete (.replace key c), .ok stored⟩) :
    ∃ es old c' there, pastOf earlier = es ++ [sighted key (some old)] ∧
      mutation old = .ok c' ∧ c = c'.pin key ∧
      m.before.concretes.find? key = some there ∧
      Resource.version? there = Resource.version? old ∧ (w₀.Versioned → there = old) := by
  obtain ⟨⟨next, hbefore⟩, hanswer⟩ := h.before
  have hasks := h.asks
  obtain ⟨e, before, after⟩ := m
  dsimp only at hm
  subst hm
  obtain ⟨-, es, old, c', hpast, hc, rfl⟩ := of_asks_replace hasks
  obtain ⟨there, hthere, hv⟩ := hanswer.overwritten
  have hversions : Resource.version? there = Resource.version? old := hv.trans (hversion old c' hc)
  refine ⟨es, old, c', there, hpast, hc, rfl, hthere, hversions, ?_⟩
  intro hw
  obtain ⟨m', earlier', rfl, hm', -⟩ := eq_cons_of_pastOf hpast
  exact (hbefore.recognizes_concrete hw hm').eq_of_version key there hthere hversions

theorem Episode.syncStep
    (hversion : ∀ c c', mutation c = .ok c' → Resource.version? c' = Resource.version? c)
    (h : Episode (synchronize key mutation).run w₀ (later ++ m :: earlier) w p) :
    SyncStep key mutation w₀ earlier m := by
  have hsyncs := asks_synchronize h.asks
  obtain ⟨-, hanswer⟩ := h.before
  refine ⟨?_, ?_, hanswer.concretes_eq, ?_, fun _ _ hm => h.overwritten hversion hm⟩
  · obtain ⟨⟨q, r⟩, before, after⟩ := m
    cases hsyncs with
    | get => exact hanswer.2
    | create c => exact hanswer.2
    | replace c => exact hanswer.2
    | pause d => exact congrArg World.templates hanswer
  · intro key' hne
    rcases hanswer.concretes with ⟨call, r, he, hserved⟩ | ⟨hsame, -⟩
    · refine hserved.find?_ne ?_
      have hq : m.exchange.request = .concrete call := congrArg Exchange.request he
      rw [hq] at hsyncs
      cases hsyncs <;> exact hne
    · rw [hsame]
  · intro c hc
    obtain ⟨c', rfl⟩ : ∃ c', c = Concrete.pin c' key := by
      generalize m.exchange.request = q at hsyncs hc
      cases hsyncs with
      | get => cases hc
      | create c' => exact ⟨c', (Option.some.inj hc).symm⟩
      | replace c' => exact ⟨c', (Option.some.inj hc).symm⟩
      | pause d => cases hc
    exact ⟨c'.marked_pin key, fun hk => (c'.marked_pin key).leadsTo hk⟩

end Step

/-- Take any change of the object at an address that leaves the version alone. Every run of its
synchronization with scripted disturbances comes to an end and is an episode of it. In every
episode, however calls fail and whatever others do in between, each exchange does what `SyncStep`
says, and of the whole all is true that `SyncAccount` says. -/
theorem synchronization_under_interference {key : Key} {mutation : Mutation k}
    (hversion : ∀ c c', mutation c = .ok c' → Resource.version? c' = Resource.version? c) :
    (∀ w : Simulation k, ∃ ms,
      Episode (synchronize key mutation).run w.world ms
        (Simulation.run (synchronize key mutation).run w).2.world
        (.done (Simulation.run (synchronize key mutation).run w).1) ∧
      pastOf ms = (synchronize key mutation).run.exchanges
        (Simulation.answerWith (Simulation.callStore .templates)) w) ∧
    (∀ w₀ ms w result, Episode (synchronize key mutation).run w₀ ms w (.done result) →
      SyncAccount key mutation ms result) ∧
    ∀ w₀ later m earlier w p,
      Episode (synchronize key mutation).run w₀ (later ++ m :: earlier) w p →
      SyncStep key mutation w₀ earlier m :=
  ⟨Simulation.exists_episode _, fun _ _ _ _ h => h.syncAccount,
    fun _ _ _ _ _ _ h => h.syncStep hversion⟩

/-- A config map that others renew, remove and store again just before it is written. -/
def contestedCluster : Simulation .configMap :=
  { placedCluster with concretes := {
      store := ((Store.empty false).put (.blank ⟨"apps", "settings"⟩)).2
      script := fun
        | .get => [.nothing, .nothing, .nothing, .fail (.conflict "busy")]
        | .replace => [.touch, .drop]
        | .create => [.put (.blank ⟨"apps", "settings"⟩)]
        | _ => [] } }

/-- It is replaced in the fifth attempt. -/
theorem contested_synchronization : ∃ ms w,
    Episode (synchronize ⟨"apps", "settings"⟩ (Kind.configMap.mutate placedSettings.payload)).run
      contestedCluster.world ms w (.done (.ok .updated)) ∧
    (pastOf ms).countP (·.reads) = 5 ∧
    (∃ c, acceptedWrites (pastOf ms) = [.replace ⟨"apps", "settings"⟩ c]) ∧
    ∀ later m earlier, ms = later ++ m :: earlier → SyncStep ⟨"apps", "settings"⟩
      (Kind.configMap.mutate placedSettings.payload) contestedCluster.world earlier m := by
  obtain ⟨hruns, haccount, hstep⟩ := @synchronization_under_interference .configMap
    ⟨"apps", "settings"⟩ (Kind.configMap.mutate placedSettings.payload) fun _ _ => version_of_mutate
  obtain ⟨ms, h, hpast⟩ := hruns contestedCluster
  have hresult : (Simulation.run (synchronize ⟨"apps", "settings"⟩
      (Kind.configMap.mutate placedSettings.payload)).run contestedCluster).1 = .ok .updated := by
    decide +kernel
  rw [hresult] at h
  have hreads : (pastOf ms).countP (·.reads) = 5 := by
    rw [hpast]
    decide +kernel
  refine ⟨ms, _, h, hreads, (haccount _ _ _ _ h).updated.1 rfl, ?_⟩
  rintro later m earlier rfl
  exact hstep _ _ _ _ _ _ h

end FleetSync
