import FleetSync.Proofs.Failures
import FleetSync.Proofs.Refusals
import FleetSync.Proofs.Synchronization

/-!
# Objects that vanish under a pass

A pass may be told at any of its calls that the addressed object is not there. If the last call that
failed was a write of the template, the pass ends well; the read goes by the reason that the server
gives. A concrete object that vanishes before it is replaced makes the synchronization start again,
and one that cannot be created makes the pass fail, which is recorded.
-/
namespace FleetSync

variable {k : Kind} {t : Template k} {f : Failure} {before after early late es : Dialogue k}

def templateReply (call : StoreCall (Template k)) (reply : Http.Reply) :
    Exchange (Request k) Request.Answer :=
  ⟨.template call, Http.answerOf call (.ok reply)⟩

def concreteReply (call : StoreCall (Concrete k)) (reply : Http.Reply) :
    Exchange (Request k) Request.Answer :=
  ⟨.concrete call, Http.answerOf call (.ok reply)⟩

/-! Templates that vanish -/
section Template
variable {call : StoreCall (Template k)}

theorem Template.fails_of_ends_materialize {current : Template k}
    {outcome : Except Failure SyncOutcome}
    (h : t.materialize.Ends (before ++ ⟨.template call, .error f⟩ :: after) (current, outcome)) :
    outcome = .error f := by
  have hsync {es r} (h : t.synchronization.Ends es r) :
      (⟨.template call, .error f⟩ : Exchange (Request k) Request.Answer) ∉ es := by
    intro he
    cases Template.syncs_of_mem h he
  have htie {es r a} (h : t.synchronization.Ends es r)
      (hes : es ++ [replaced t.tie a] = before ++ ⟨.template call, .error f⟩ :: after) :
      a = .error f := by
    rcases split_of_append_eq hes with ⟨rest, rfl, -⟩ | ⟨start, -, hlast⟩
    · exact (hsync h (by simp)).elim
    · obtain ⟨-, he, -⟩ := eq_of_append_cons_eq_singleton hlast.symm
      cases he
      rfl
  have hmaterializes := Template.ends_materialize h
  generalize hes : before ++ _ :: after = es at hmaterializes
  cases hmaterializes with
  | failed hends => exact (hsync hends (by simp [← hes])).elim
  | tied hends htied => exact (hsync hends (by simp [← hes])).elim
  | tieRefused hends htied => exact congrArg _ (Except.error.inj (htie hends hes.symm))
  | tieWritten hends htied => cases htie hends hes.symm

theorem Template.recorded_of_ends {persisted : FleetStatus} {cluster : String} {c : Condition}
    {r : Except Failure (Template k)} (h : (t.recordOutcome persisted cluster c).run.Ends es r)
    (hes : ∀ e ∈ es, e.failure? = none) : ∃ stored, r = .ok stored := by
  rcases Template.ends_recordOutcome h with
    ⟨-, rfl, rfl⟩ | ⟨-, ⟨f, rfl, rfl⟩ | ⟨stored, rfl, rfl⟩⟩
  · exact ⟨_, rfl⟩
  · cases hes _ List.mem_cons_self
  · exact ⟨_, rfl⟩

theorem Template.fails_of_ends_deploy {persisted : FleetStatus} {cluster : String}
    {r : Except Failure Unit} (h : (t.deploy persisted cluster).run.Ends
      (before ++ ⟨.template call, .error f⟩ :: after) r)
    (hafter : ∀ e ∈ after, e.failure? = none) : r = .error f := by
  obtain ⟨es₁, es₂, current, outcome, now, recorded, hes, hmaterialize, hrecorded, hr⟩ :=
    Template.ends_deploy h
  rcases split_of_append_eq hes.symm with ⟨rest, rfl, rfl⟩ | ⟨start, rfl, hlast⟩
  · obtain ⟨stored, rfl⟩ := Template.recorded_of_ends hrecorded fun e he => hafter e (by simp [he])
    rcases hr with ⟨f', h', -⟩ | ⟨-, rfl⟩
    · cases h'
    · rw [Template.fails_of_ends_materialize hmaterialize]
      rfl
  · rcases start with _ | ⟨x, start⟩
    · cases (List.cons.inj hlast).1
    · obtain ⟨-, rfl⟩ := List.cons.inj hlast
      obtain ⟨-, rfl⟩ := frank_recordOutcome _ _ _ start _ after _ f hrecorded rfl
      rcases hr with ⟨f', h', rfl⟩ | ⟨⟨stored, h'⟩, -⟩
      · cases h'
        rfl
      · cases h'

theorem Template.fails_of_ends_process {r : Except Failure Unit}
    (h : t.process.run.Ends (before ++ ⟨.template call, .error f⟩ :: after) r)
    (hafter : ∀ e ∈ after, e.failure? = none) : r = .error f := by
  unfold Template.process at h
  split at h
  · exact ((frank_release _).bind (fun _ => frank_pure _) before _ after r f h rfl).2
  · rcases Program.ends_attempt_bind.1 h with ⟨f', h₁, -⟩ | ⟨es₁, es₂, cluster, hes, h₁, h₂⟩
    · obtain ⟨-, hname, -⟩ := eq_of_append_cons_eq_singleton (Program.ends_send.1 h₁)
      cases hname
    · cases Program.ends_send.1 h₁
      rcases before with _ | ⟨x, before⟩
      · cases (List.cons.inj hes).1
      · obtain ⟨-, rfl⟩ := List.cons.inj hes
        dsimp only at h₂
        split at h₂
        · exact Template.fails_of_ends_deploy h₂ hafter
        · exact (frank_prune _ before _ after r f h₂ rfl).2

/-- The first call reads a template, and no later one does. -/
theorem TemplateCall.fetches_or_writes {key : Key} (h : TemplateCall key es call) :
    (es = [] ∧ call = .get key) ∨
      (es ≠ [] ∧ (∀ key', call ≠ .get key') ∧ ∀ key', call ≠ .delete key') := by
  cases h <;> simp

/-- If the last call that failed was told that the template is not there, the pass ends well, unless
the template was to be read and the reason was another one. -/
theorem ends_of_absent_template {key : Key} {reply : Http.Reply} {r : Except Failure Unit}
    (h : (reconcile key).run.Ends (before ++ templateReply call reply :: after) r)
    (hreply : reply.Refuses 404) (hafter : ∀ e ∈ after, e.failure? = none) :
    r = if before = [] ∧ reply.refusal.reason ≠ "NotFound"
      then .error (.notFound k.template.kind key.ns key.name) else .ok () := by
  have hcall : TemplateCall key before call := templateCall_of_asks h.asks_of_append
  unfold templateReply at h
  rcases hcall.fetches_or_writes with ⟨rfl, rfl⟩ | ⟨hne, hget, hdelete⟩
  · rw [Http.answerOf_get_of_absent key hreply] at h
    by_cases hreason : reply.refusal.reason = "NotFound"
    · rw [if_neg (by simp [hreason])]
      rw [if_pos hreason] at h
      cases passEnds_of_ends h
      rfl
    · rw [if_pos ⟨rfl, hreason⟩]
      rw [if_neg hreason] at h
      cases passEnds_of_ends h
      rfl
  · rw [if_neg (by simp [hne])]
    rw [Http.answerOf_of_absent hreply hget hdelete] at h
    have hends := passEnds_of_ends h
    rcases before with _ | ⟨x, before⟩
    · exact (hne rfl).elim
    · rw [List.cons_append] at hends
      generalize hes : before ++ _ :: after = es at hends
      cases hends with
      | unread f => simp at hes
      | absent => simp at hes
      | processed t es hprocess => rfl
      | gone t es ns name hprocess => rfl
      | failed t es f hprocess hf =>
        cases Template.fails_of_ends_process (hes ▸ hprocess) hafter
        exact (Bool.eq_false_iff.1 hf (isTemplateGone_iff.2 ⟨_, _, rfl⟩)).elim

end Template

/-! Concrete objects that vanish -/
section Concrete
variable {call : StoreCall (Concrete k)} {key : Key} {mutation : Mutation k}
  {e : Exchange (Request k) Request.Answer}

theorem SyncEnds.exists_get {r : Except Failure SyncOutcome} (h : SyncEnds key mutation es r) :
    ∃ a rest, es = ⟨.concrete (.get key), a⟩ :: rest := by
  cases h <;> exact ⟨_, _, rfl⟩

theorem Repeated.exists_get {retryable : Failure → Bool} {n : Nat} {last : Dialogue k}
    {r : Except Failure SyncOutcome} (h : Repeated retryable (syncOnce key mutation).run n es)
    (hlast : SyncEnds key mutation last r) :
    ∃ a rest, es ++ last = ⟨.concrete (.get key), a⟩ :: rest := by
  cases h with
  | zero => exact hlast.exists_get
  | succ d hends hf hrest =>
    obtain ⟨a, rest, rfl⟩ := (ends_syncOnce hends).exists_get
    exact ⟨a, _, rfl⟩

theorem Template.fails_of_ends_synchronization {r : Except Failure SyncOutcome}
    (h : t.synchronization.Ends (early ++ e :: late) r) (he : e.failure? = some f) :
    (∃ d a rest, (attemptFailure t.metadata.key e.request f).isConflict = true ∧
        late = paused d :: ⟨.concrete (.get t.metadata.key), a⟩ :: rest) ∨
      (late = [] ∧ r = .error (attemptFailure t.metadata.key e.request f) ∧
        ((attemptFailure t.metadata.key e.request f).isConflict = true →
          (early ++ [e]).countP (·.reads) = 5)) := by
  obtain ⟨n, earlier, last, hes, hattempted⟩ := attempted_of_ends h
  have hlast := ends_syncOnce hattempted.ends
  rcases split_of_append_eq hes.symm with ⟨rest, rfl, rfl⟩ | ⟨start, rfl, rfl⟩
  · obtain ⟨hf, d, m, late', rfl, hrepeated⟩ := hattempted.conflicts.retried_of_failure rfl he
    obtain ⟨a, rest, hnext⟩ := hrepeated.exists_get hlast
    exact .inl ⟨d, a, rest, hf, congrArg (paused d :: ·) hnext⟩
  · obtain ⟨rfl, rfl⟩ := hlast.fails rfl he
    refine .inr ⟨rfl, rfl, fun hconflict => ?_⟩
    have hreads := hattempted.countP_eq (fun _ _ hends => (ends_syncOnce hends).countP_reads)
      fun _ => rfl
    rw [hattempted.exhausted _ rfl hconflict] at hreads
    rwa [List.append_assoc]

theorem Template.exists_synchronization_of_ends_deploy {persisted : FleetStatus} {cluster : String}
    {r : Except Failure Unit} (h : (t.deploy persisted cluster).run.Ends es r) :
    ∃ es₁ es₂ r', es = es₁ ++ es₂ ∧ t.synchronization.Ends es₁ r' ∧
      ∀ e ∈ es₂, ∀ call, e.request ≠ .concrete call := by
  obtain ⟨es₁, es₂, current, outcome, now, recorded, rfl, hmaterialize, hrecorded, -⟩ :=
    Template.ends_deploy h
  have hlate : ∀ e ∈ timed now :: es₂, ∀ call, e.request ≠ .concrete call := by
    rcases Template.ends_recordOutcome hrecorded with
      ⟨-, rfl, -⟩ | ⟨-, ⟨f, rfl, -⟩ | ⟨stored, rfl, -⟩⟩ <;> simp [timed, restated, told]
  cases Template.ends_materialize hmaterialize with
  | failed hsync => exact ⟨es₁, _, _, rfl, hsync, hlate⟩
  | tied hsync htied => exact ⟨es₁, _, _, rfl, hsync, hlate⟩
  | @tieRefused es done f hsync htied =>
    refine ⟨es, _, _, List.append_assoc .., hsync, ?_⟩
    simpa [replaced] using hlate
  | @tieWritten es done stored hsync htied =>
    refine ⟨es, _, _, List.append_assoc .., hsync, ?_⟩
    simpa [replaced] using hlate

/-- What follows a read or a write of a concrete object that failed: the next attempt, if that is a
conflict and fewer than five were made, or the failure of the pass, which is recorded if no other
call fails. -/
theorem ends_of_failed_sync {r : Except Failure Unit}
    (h : (reconcile key).run.Ends (before ++ e :: after) r) (he : e.failure? = some f)
    (hrequest : e.request = .concrete call) (hcall : ∀ key', call ≠ .delete key') :
    ∃ t cluster early, before = fetched key t :: named cluster :: early ∧
      Syncs t.metadata.key (.concrete call) ∧
      ∀ f', attemptFailure t.metadata.key (.concrete call) f = f' →
        (∃ d a rest, f'.isConflict = true ∧
          after = paused d :: ⟨.concrete (.get t.metadata.key), a⟩ :: rest) ∨
        (f'.isConflict = true → (early ++ [e]).countP (·.reads) = 5) ∧
          ((∀ x ∈ after, x.failure? = none) → isTemplateGone k f' = false →
            r = .error f' ∧ Records t cluster f' after) := by
  have hasks := h.asks_of_append
  rw [hrequest] at hasks
  cases concreteCall_of_asks hasks with
  | retire hdel => exact (hcall _ rfl).elim
  | prune hplaced => exact (hcall _ rfl).elim
  | pruneRestated hplaced => exact (hcall _ rfl).elim
  | @sync t cluster early _ hdel hplaced hsyncs =>
    refine ⟨t, cluster, early, rfl, hsyncs, ?_⟩
    rw [← hrequest]
    rintro f' rfl
    obtain ⟨r', hdeploy, hr⟩ := ends_deploy_of_reconcile h hdel hplaced
    obtain ⟨es₁, es₂, outcome, hes, hsync, hlate⟩ :=
      Template.exists_synchronization_of_ends_deploy hdeploy
    rcases split_of_append_eq hes.symm with ⟨late, rfl, rfl⟩ | ⟨start, -, rfl⟩
    · rcases Template.fails_of_ends_synchronization hsync he with
        ⟨d, a, rest, hconflict, rfl⟩ | ⟨rfl, rfl, hfifth⟩
      · exact .inl ⟨d, a, rest ++ es₂, hconflict, rfl⟩
      · refine .inr ⟨hfifth, fun hafter hgone => ?_⟩
        have hfails : t.FailsWith _ _ := .synchronization hsync
        rw [hes] at hdeploy
        obtain ⟨hr', hrecords⟩ := hfails.records hplaced hdeploy hafter
        exact ⟨hr _ hr' hgone, hrecords⟩
    · exact (hlate e (by simp) call hrequest).elim

theorem failure?_concreteReply (call : StoreCall (Concrete k)) {reply : Http.Reply}
    (hreply : reply.Refuses 404) (hget : ∀ key, call ≠ .get key)
    (hdelete : ∀ key, call ≠ .delete key) : (concreteReply call reply).failure? =
      some (.notFound k.concrete.kind call.key.ns call.key.name) := by
  unfold concreteReply
  rw [Http.answerOf_of_absent hreply hget hdelete]
  rfl

theorem ends_of_absent_create {reply : Http.Reply} {r : Except Failure Unit} {ns : String}
    {o : Concrete k}
    (h : (reconcile key).run.Ends (before ++ concreteReply (.create ns o) reply :: after) r)
    (hreply : reply.Refuses 404) (hafter : ∀ e ∈ after, e.failure? = none)
    (hkind : k.concrete.kind ≠ k.template.kind) :
    ∃ t cluster early, before = fetched key t :: named cluster :: early ∧
      r = .error (.notFound k.concrete.kind ns (o.metadata.name.getD "")) ∧
      Records t cluster (.notFound k.concrete.kind ns (o.metadata.name.getD "")) after := by
  have hfailure := failure?_concreteReply (.create ns o) hreply nofun nofun
  obtain ⟨t, cluster, early, rfl, -, hends⟩ := ends_of_failed_sync h hfailure rfl nofun
  rcases hends _ rfl with ⟨d, a, rest, hconflict, -⟩ | ⟨-, hrecords⟩
  · cases hconflict
  · exact ⟨t, cluster, early, rfl, hrecords hafter (beq_eq_false_iff_ne.2 hkind)⟩

theorem ends_of_absent_replace {reply : Http.Reply} {r : Except Failure Unit} {key' : Key}
    {o : Concrete k}
    (h : (reconcile key).run.Ends (before ++ concreteReply (.replace key' o) reply :: after) r)
    (hreply : reply.Refuses 404) :
    (∃ d a rest, after = paused d :: ⟨.concrete (.get key'), a⟩ :: rest) ∨
      ∃ t cluster early, before = fetched key t :: named cluster :: early ∧
        early.countP (·.reads) = 5 ∧ ((∀ e ∈ after, e.failure? = none) → ∀ f,
          f = .conflict (k.concrete.kind ++ " " ++ key'.path ++ " deleted during update") →
          r = .error f ∧ Records t cluster f after) := by
  have hfailure := failure?_concreteReply (.replace key' o) hreply nofun nofun
  obtain ⟨t, cluster, early, rfl, hsyncs, hends⟩ := ends_of_failed_sync h hfailure rfl nofun
  have hkey : key' = t.metadata.key := by
    cases hsyncs
    rfl
  subst hkey
  rcases hends _ rfl with ⟨d, a, rest, -, rfl⟩ | ⟨hfifth, hrecords⟩
  · exact .inl ⟨d, a, rest, rfl⟩
  · refine .inr ⟨t, cluster, early, rfl, ?_, ?_⟩
    · simpa [concreteReply, Exchange.reads] using hfifth rfl
    · rintro hafter f rfl
      exact hrecords hafter rfl

end Concrete

/-- A refusal is answered by its code, but a read goes by its reason. What the code was can be told
from the failure. Whoever answers, a pass whose last failed call was told that the template is not
there ends well, unless that was the read and the reason was another one. A concrete object that is
not there is looked for again if it was to be replaced, and if it was to be created the pass fails,
which is recorded. -/
theorem refusals_are_told_apart :
    (∀ {α σ : Type} [Resource α] (exchange : Http.Request → StateM σ Http.Outcome)
      (manager : String) (call : StoreCall α) (s : σ) (reply : Http.Reply),
      Http.Received exchange manager call s reply → reply.isError = true →
      (Http.Promised reply.refusal call (Http.perform exchange manager call s).1 ↔
        ∀ key, call = .get key → (reply.refusal.reason = "NotFound" ↔ reply.refusal.code = 404))) ∧
    (∀ {α σ : Type} [Resource α] (exchange : Http.Request → StateM σ Http.Outcome)
      (manager : String) (call : StoreCall α) (s : σ) (f : Failure),
      (Http.perform exchange manager call s).1 = .error f →
      Http.Classified f (Http.Received exchange manager call s)) ∧
    ∀ {σ : Type} (answer : (q : Request k) → σ → q.Answer × σ) (s : σ) (key : Key)
      (before after : Dialogue k) (reply : Http.Reply), reply.Refuses 404 →
      let es := (reconcile key).run.exchanges answer s
      let r := ((reconcile key).run.run answer s).1
      (∀ call, es = before ++ templateReply call reply :: after →
        (∀ e ∈ after, e.failure? = none) →
        r = if before = [] ∧ reply.refusal.reason ≠ "NotFound"
          then .error (.notFound k.template.kind key.ns key.name) else .ok ()) ∧
      (∀ ns o, es = before ++ concreteReply (.create ns o) reply :: after →
        (∀ e ∈ after, e.failure? = none) → k.concrete.kind ≠ k.template.kind →
        ∃ t cluster early, before = fetched key t :: named cluster :: early ∧
          r = .error (.notFound k.concrete.kind ns (o.metadata.name.getD "")) ∧
          Records t cluster (.notFound k.concrete.kind ns (o.metadata.name.getD "")) after) ∧
      ∀ key' o, es = before ++ concreteReply (.replace key' o) reply :: after →
        (∃ d a rest, after = paused d :: ⟨.concrete (.get key'), a⟩ :: rest) ∨
          ∃ t cluster early, before = fetched key t :: named cluster :: early ∧
            early.countP (·.reads) = 5 ∧ ((∀ e ∈ after, e.failure? = none) → ∀ f,
              f = .conflict (k.concrete.kind ++ " " ++ key'.path ++ " deleted during update") →
              r = .error f ∧ Records t cluster f after) := by
  refine ⟨?_, ?_, ?_⟩
  · intro α σ _ exchange manager call s reply hreceived herror
    rw [Http.perform_of_received hreceived, Http.answerOf_of_isError call herror]
    exact Http.promised_answerFault_iff call reply.refusal
  · intro α σ _ exchange manager call s f h
    exact Http.classified_of_perform h
  · intro σ answer s key before after reply hreply es r
    have hends : (reconcile key).run.Ends es r := Program.ends_exchanges _ s
    refine ⟨?_, ?_, ?_⟩
    · intro call hes hafter
      rw [hes] at hends
      exact ends_of_absent_template hends hreply hafter
    · intro ns o hes hafter hkind
      rw [hes] at hends
      exact ends_of_absent_create hends hreply hafter hkind
    · intro key' o hes
      rw [hes] at hends
      exact ends_of_absent_replace hends hreply

/-- The reply of a server that has no such page. It gives no reason that could be read. -/
def pageNotFound : Http.Reply := ⟨404, "404 page not found"⟩

def settingsKey : Key := ⟨"apps", "settings"⟩

/-- The config map vanishes before it is replaced, and then it cannot be created. -/
def vanishingSettings : Simulation .configMap :=
  { placedCluster with concretes := {
      store := ((Store.empty false).put (.blank settingsKey)).2
      script := fun
        | .replace => [.drop]
        | .create => [.fail (.notFound "ConfigMap" "apps" "settings")]
        | _ => [] } }

def vanishingTemplate : Simulation .configMap :=
  { placedCluster with templates := {
      store := ((Store.empty false).put placedSettings).2
      script := fun
        | .replaceStatus => [.drop]
        | _ => [] } }

def settingsExchanges (w : Simulation .configMap) : Dialogue .configMap :=
  (reconcile settingsKey).run.exchanges (Simulation.answerWith (Simulation.callStore .templates)) w

theorem received_pageNotFound : Http.Received (fun _ => pure (.ok pageNotFound)) managerName
    (.get settingsKey : StoreCall (Concrete .configMap)) () pageNotFound := by
  have hpath : Http.objectsPath Kind.configMap.concrete "apps" =
      "/api/v1/namespaces/apps/configmaps" := by
    unfold Http.objectsPath
    rw [String.contains_char_eq]
    decide +kernel
  refine ⟨⟨.get, "/api/v1/namespaces/apps/configmaps/settings", none, none⟩, ?_, rfl⟩
  change Http.requestTo .get (Http.objectsPath Kind.configMap.concrete "apps" ++ "/" ++ "settings")
    none none = _
  rw [hpath]
  rfl

/-- A missing page makes a read fail, although the code says that there is no object. A template and
a config map that vanish under a pass are recognized. -/
theorem missing_page_is_no_absent_object :
    let exchange : Http.Request → StateM Unit Http.Outcome := fun _ => pure (.ok pageNotFound)
    let call : StoreCall (Concrete .configMap) := .get settingsKey
    let f := Failure.notFound "ConfigMap" "apps" "settings"
    ¬Http.Promised pageNotFound.refusal call (Http.perform exchange managerName call ()).1 ∧
      Http.Classified f (Http.Received exchange managerName call ()) ∧
      (Simulation.run (reconcile settingsKey).run vanishingTemplate).1 = .ok () ∧
      (∃ d a rest, (settingsExchanges vanishingSettings).drop 4 =
        paused d :: ⟨.concrete (.get settingsKey), a⟩ :: rest) ∧
      (Simulation.run (reconcile settingsKey).run vanishingSettings).1 = .error f ∧
      ∃ t cluster, Records t cluster f ((settingsExchanges vanishingSettings).drop 7) := by
  intro exchange call f
  have hreply : pageNotFound.Refuses 404 := ⟨by decide +kernel, by decide +kernel⟩
  have hreason : pageNotFound.refusal.reason ≠ "NotFound" := by decide +kernel
  obtain ⟨hpromised, hclassified, hpass⟩ := refusals_are_told_apart (k := .configMap)
  refine ⟨?_, ?_, ?_, ?_, ?_⟩
  · rw [hpromised exchange managerName call () _ received_pageNotFound hreply.isError]
    intro h
    exact hreason ((h settingsKey rfl).2 hreply.code)
  · refine hclassified exchange managerName call () f ?_
    rw [Http.perform_of_received received_pageNotFound, Http.answerOf_get_of_absent _ hreply,
      if_neg hreason]
    rfl
  · obtain ⟨o, hes⟩ : ∃ o, settingsExchanges vanishingTemplate =
        (settingsExchanges vanishingTemplate).take 6 ++
          templateReply (.replaceStatus settingsKey o) pageNotFound :: [] := ⟨_, rfl⟩
    refine ((hpass _ vanishingTemplate _ _ _ _ hreply).1 _ hes (by simp)).trans ?_
    exact if_neg fun h => List.cons_ne_nil _ _ h.1
  · obtain ⟨o, hes⟩ : ∃ o, settingsExchanges vanishingSettings =
        (settingsExchanges vanishingSettings).take 3 ++
          concreteReply (.replace settingsKey o) pageNotFound ::
            (settingsExchanges vanishingSettings).drop 4 := ⟨_, rfl⟩
    rcases (hpass _ vanishingSettings _ _ _ _ hreply).2.2 _ _ hes with
      hretry | ⟨t, cluster, early, hearly, hfifth, -⟩
    · exact hretry
    · have hlength : 3 = early.length + 2 := congrArg List.length hearly
      have hreads : early.countP (·.reads) ≤ early.length := List.countP_le_length
      omega
  · obtain ⟨o, hes, hname⟩ : ∃ o, settingsExchanges vanishingSettings =
        (settingsExchanges vanishingSettings).take 6 ++
          concreteReply (.create "apps" o) pageNotFound ::
            (settingsExchanges vanishingSettings).drop 7 ∧
        o.metadata.name = some "settings" := ⟨_, rfl, rfl⟩
    obtain ⟨t, cluster, early, -, hr, hrecords⟩ :=
      (hpass _ vanishingSettings _ _ _ _ hreply).2.1 _ _ hes (by decide +kernel) (by decide +kernel)
    rw [hname] at hr hrecords
    exact ⟨hr, t, cluster, hrecords⟩

end FleetSync
