import FleetSync.Proofs.Conditions
import FleetSync.Proofs.Locality
import FleetSync.Proofs.Orphans
import FleetSync.Proofs.Readiness
import FleetSync.Proofs.Reports

/-!
# What a pass may touch

A write replaces a whole object, so whatever is not carried over is lost. Each template that a pass
sends is a stored copy of it with the token added or removed, another state, one more condition and
another entry of the pass's own cluster, and with nothing else changed. Each concrete object that it
sends is the one that it just read with another content, other labels and annotations and its
address. All calls are about one address.
-/
namespace FleetSync

variable {k : Kind}

/-! Templates -/

/-- What a pass over the template at an address, with these exchanges behind it, may change of a
copy of the template. -/
structure Template.Touches (key : Key) (past : Dialogue k) (base o : Template k) : Prop where
  /-- The version is the one that the write is based on. -/
  metadata : o.metadata = { base.metadata with finalizers := o.metadata.finalizers }
  finalizers : o.metadata.finalizers = base.metadata.finalizers ∨
    (base.isTied = false ∧
      o.metadata.finalizers = some (base.metadata.finalizers.getD [] ++ [k.finalizer])) ∨
    o.metadata.finalizers = some ((base.metadata.finalizers.getD []).filter (· ≠ k.finalizer))
  payload : o.payload = base.payload
  placement : o.placement = base.placement
  conditions : ∃ kept added, kept <:+ base.currentStatus.conditions ∧
    o.currentStatus.conditions = kept ++ added ∧ added.length ≤ 1
  /-- The only entry that changes is that of the cluster whose name the pass was given. -/
  entries : ∀ d, o.entryOf? d = base.entryOf? d ∨
    ∃ t rest, past = fetched key t :: named d :: rest

section Templates
variable {key address : Key} {es : Dialogue k} {base o : Template k}
  {call : StoreCall (Template k)}

theorem Template.Drafts.touches (h : base.Drafts call)
    (hdraft : (Request.template call).draft? = some (address, o))
    (hentries : ∀ d, o.entryOf? d = base.entryOf? d ∨
      ∃ t rest, es = fetched key t :: named d :: rest) : base.Touches key es o := by
  have hconditions := (h.continues hdraft).exists_append
  cases h with
  | tie h =>
    cases hdraft
    exact ⟨rfl, .inr (.inl ⟨h, rfl⟩), rfl, rfl, hconditions, hentries⟩
  | untie ht h =>
    cases hdraft
    rcases ht with rfl | rfl <;> exact ⟨rfl, .inr (.inr rfl), rfl, rfl, hconditions, hentries⟩
  | restate =>
    cases hdraft
    exact ⟨rfl, .inl rfl, rfl, rfl, hconditions, hentries⟩
  | record ht cluster c =>
    cases hdraft
    rcases ht with rfl | rfl <;> exact ⟨rfl, .inl rfl, rfl, rfl, hconditions, hentries⟩
  | absorb r =>
    cases hdraft
    exact ⟨rfl, .inl rfl, rfl, rfl, hconditions, hentries⟩

theorem TemplateCall.entries (h : TemplateCall key es call)
    (hdraft : (Request.template call).draft? = some (address, o))
    (hlast : lastCopy? es = some base) (d : String) :
    o.entryOf? d = base.entryOf? d ∨ ∃ t rest, es = fetched key t :: named d :: rest := by
  cases h with
  | fetch => cases hdraft
  | retire hdel htied =>
    cases hdraft
    cases hlast
    exact .inl rfl
  | restate hdel hplaced =>
    cases hdraft
    cases hlast
    exact .inl rfl
  | prune hdel hplaced htied =>
    cases hdraft
    cases hlast
    exact .inl rfl
  | pruneRestated hdel hplaced htied =>
    cases hdraft
    cases hlast
    exact .inl rfl
  | tie hdel hplaced hsync htied =>
    cases hdraft
    simp [lastCopy?_cons, lastCopy?_synchronization hsync] at hlast
    subst hlast
    exact .inl rfl
  | @record t current cluster es outcome now hdel hplaced hends =>
    cases hdraft
    by_cases hd : d = cluster
    · subst hd
      exact .inr ⟨t, _, rfl⟩
    · have hcurrent := entryOf?_of_ends_materialize hends hlast d
      exact .inl ((Template.entryOf?_withOutcome_ne hd).trans hcurrent)

theorem TemplateCall.touches (h : TemplateCall key es call)
    (hdraft : (Request.template call).draft? = some (address, o)) :
    ∃ base, lastCopy? es = some base ∧ address = base.metadata.key ∧ base.Touches key es o := by
  rcases h.drafts with rfl | ⟨base, hlast, hdrafts, hkey⟩
  · cases hdraft
  · refine ⟨base, hlast, ?_, hdrafts.touches hdraft (h.entries hdraft hlast)⟩
    rw [← hkey]
    cases hdrafts <;> cases hdraft <;> rfl

end Templates

/-! Concrete objects -/

def Request.object? : Request k → Option (Concrete k)
  | .concrete (.create _ c) => some c
  | .concrete (.replace _ c) => some c
  | .concrete (.replaceStatus _ c) => some c
  | _ => none

/-- The object keeps all metadata that were found, if there was an object, but its address, its
labels and its annotations. -/
def Concrete.Touches (found : Option (Concrete k)) (c : Concrete k) : Prop :=
  c.metadata = { found.elim {} Concrete.metadata with
    name := c.metadata.name, ns := c.metadata.ns, labels := c.metadata.labels,
    annotations := c.metadata.annotations }

theorem Concrete.touches_of_mutate {payload : k.Payload} {key : Key} {found : Option (Concrete k)}
    {c : Concrete k} (h : k.mutate payload (found.getD (.blank key)) = .ok c) :
    Concrete.Touches found (c.pin key) := by
  obtain ⟨r, -, rfl⟩ := Kind.render_of_mutate_eq_ok h
  cases found <;> rfl

theorem Template.touches_of_synchronization {t : Template k} {es : Dialogue k} {q : Request k}
    {c : Concrete k} (h : t.synchronization.Asks es q) (hc : q.object? = some c) :
    ∃ es₁ found, es = es₁ ++ [sighted t.metadata.key found] ∧ Concrete.Touches found c := by
  obtain ⟨n, -, earlier, es', rfl, -, honce | ⟨f, d, -, -, rfl⟩⟩ := asks_retryConflicts h
  · cases asks_syncOnce honce with
    | get => cases hc
    | create hm =>
      cases hc
      exact ⟨earlier, none, rfl, Concrete.touches_of_mutate hm⟩
    | @replace old c hm hne =>
      cases hc
      exact ⟨earlier, some old, rfl, @Concrete.touches_of_mutate k _ _ (some old) _ hm⟩
  · cases hc

theorem touches_of_asks {key : Key} {es : Dialogue k} {q : Request k} {c : Concrete k}
    (hasks : (reconcile key).run.Asks es q) (hc : q.object? = some c) :
    ∃ t es₁ found, fetched key t ∈ es ∧ es = es₁ ++ [sighted t.metadata.key found] ∧
      Concrete.Touches found c := by
  cases asks_reconcile hasks with
  | fetch => cases hc
  | retire hdel h => cases h <;> cases hc
  | identify hdel => cases hc
  | @proceed t cluster es q hdel h =>
    cases h with
    | restate hplaced hstate => cases hc
    | prune hplaced hstate h => cases h <;> cases hc
    | pruneRestated hplaced hstate h => cases h <;> cases hc
    | synchronize hplaced h =>
      obtain ⟨es₁, found, rfl, htouches⟩ := Template.touches_of_synchronization h hc
      exact ⟨t, fetched key t :: named cluster :: es₁, found, by simp, by simp, htouches⟩
    | tie hplaced h htied => cases hc
    | clock hplaced h => cases hc
    | record hplaced h hchanged => cases hc
    | report hplaced h hchanged => cases hc

/-! Passes -/
section Course
variable {key : Key} {w₀ w : World k} {ms later earlier : List (Moment k)} {m : Moment k}
  {p : Task k (Except Failure Unit)}

theorem exists_moment_of_copy? {e : Exchange (Request k) Request.Answer} {t : Template k}
    (he : e ∈ pastOf ms) (ht : e.copy? = some t) : ∃ m ∈ ms, m.exchange.copy? = some t := by
  obtain ⟨m, hm, rfl⟩ := List.mem_map.1 (List.mem_reverse.1 he)
  exact ⟨m, hm, ht⟩

theorem exists_moment_of_lastCopy? {t : Template k} (h : lastCopy? (pastOf ms) = some t) :
    ∃ m ∈ ms, m.exchange.copy? = some t := by
  obtain ⟨e, he, ht⟩ := List.exists_of_findSome?_eq_some h
  exact exists_moment_of_copy? (List.mem_reverse.1 he) ht

theorem Course.copies (h : Course key w₀ ms w p) (hw : w₀.templates.Versioned)
    (hown : ∀ m ∈ ms, ∀ t, m.before.templates.find? key = some t → t.metadata.key = key) :
    ∀ m ∈ ms, ∀ t, m.exchange.copy? = some t →
      t.metadata.key = key ∧ m.after.templates.find? key = some t := by
  induction h with
  | start => exact fun _ h => (List.not_mem_nil h).elim
  | @exchange ms w w' q next r h hanswer ih =>
    rw [List.forall_mem_cons] at hown ⊢
    obtain ⟨hown₀, hown⟩ := hown
    have hcopies := ih hown
    refine ⟨?_, hcopies⟩
    intro t ht
    have hs := h.sound hw
    have hcall {call : StoreCall (Template k)} (hq : q = .template call) : call.key = key := by
      subst hq
      have hasks : (reconcile key).run.Asks (pastOf ms) (.template call) :=
        ⟨next, hs.after _ (List.mem_singleton_self _)⟩
      rcases (templateCall_of_asks hasks).drafts with rfl | ⟨base, hlast, -, hkey⟩
      · rfl
      · obtain ⟨m, hm, hbase⟩ := exists_moment_of_lastCopy? hlast
        rw [hkey, (hcopies m hm base hbase).1]
    rcases Exchange.of_copy? ht with ⟨address, hstored⟩ | ⟨address, he⟩
    · rcases hs.overwrites (List.mem_singleton_self _) hanswer with ⟨hnone, -⟩ |
        ⟨call, base, hq, hlast, hdraft, -, hstored', heq⟩
      · rw [hnone] at hstored
        cases hstored
      · obtain ⟨m, hm, hbase⟩ := exists_moment_of_lastCopy? hlast
        rw [hstored'] at hstored
        cases hstored
        refine ⟨(hdraft.key_revision w.templates).trans (hcopies m hm base hbase).1, ?_⟩
        dsimp only
        rw [heq, ← hcall hq]
        exact Store.find?_assign_self ..
    · cases he
      obtain rfl : address = key := hcall rfl
      obtain ⟨hfind, hsame⟩ := hanswer.1.find?_eq
      exact ⟨hown₀ t hfind, hsame ▸ hfind⟩
  | others h hevolves hversioned ih => exact ih hown

theorem Course.template_key {call : StoreCall (Template k)}
    (h : Course key w₀ (later ++ m :: earlier) w p) (hw : w₀.templates.Versioned)
    (hown : ∀ m ∈ earlier, ∀ t, m.before.templates.find? key = some t → t.metadata.key = key)
    (hcall : m.exchange.request = .template call) : call.key = key := by
  obtain ⟨⟨next, hbefore⟩, -⟩ := h.before
  have hasks := h.asks hw
  rw [hcall] at hasks
  rcases (templateCall_of_asks hasks).drafts with rfl | ⟨base, hlast, -, hkey⟩
  · rfl
  · obtain ⟨m', hm', hbase⟩ := exists_moment_of_lastCopy? hlast
    rw [hkey, (hbefore.copies hw hown m' hm' base hbase).1]

theorem Course.concrete_key {call : StoreCall (Concrete k)}
    (h : Course key w₀ (later ++ m :: earlier) w p) (hw : w₀.templates.Versioned)
    (hown : ∀ m ∈ earlier, ∀ t, m.before.templates.find? key = some t → t.metadata.key = key)
    (hcall : m.exchange.request = .concrete call) : call.key = key := by
  obtain ⟨⟨next, hbefore⟩, -⟩ := h.before
  have hasks := h.asks hw
  rw [hcall] at hasks
  obtain ⟨e, he, t, ht, hcalls⟩ := (concreteCall_of_asks hasks).of_copy
  obtain ⟨m', hm', ht'⟩ := exists_moment_of_copy? he ht
  obtain ⟨rfl, -⟩ := hbefore.copies hw hown m' hm' t ht'
  rcases hcalls with rfl | hsyncs
  · rfl
  · cases hsyncs <;> rfl

theorem Course.touches_template {address : Key} {o : Template k}
    (h : Course key w₀ (later ++ m :: earlier) w p) (hw : w₀.templates.Versioned)
    (hown : ∀ m ∈ earlier, ∀ t, m.before.templates.find? key = some t → t.metadata.key = key)
    (hdraft : m.exchange.request.draft? = some (address, o)) :
    address = key ∧ ∃ base, lastCopy? (pastOf earlier) = some base ∧
      (∃ m' ∈ earlier, m'.after.templates.find? key = some base) ∧
      base.Touches key (pastOf earlier) o := by
  obtain ⟨⟨next, hbefore⟩, -⟩ := h.before
  have hasks := h.asks hw
  obtain ⟨call, hcall⟩ := Request.of_draft? hdraft
  rw [hcall] at hasks hdraft
  obtain ⟨base, hlast, haddress, htouches⟩ := (templateCall_of_asks hasks).touches hdraft
  obtain ⟨m', hm', hbase⟩ := exists_moment_of_lastCopy? hlast
  obtain ⟨hkey, hstored⟩ := hbefore.copies hw hown m' hm' base hbase
  exact ⟨haddress.trans hkey, base, hlast, ⟨m', hm', hstored⟩, htouches⟩

theorem Course.touches_concrete {c : Concrete k}
    (h : Course key w₀ (later ++ m :: earlier) w p) (hw : w₀.templates.Versioned)
    (hown : ∀ m ∈ earlier, ∀ t, m.before.templates.find? key = some t → t.metadata.key = key)
    (hc : m.exchange.request.object? = some c) : ∃ es found,
      pastOf earlier = es ++ [sighted key found] ∧ Concrete.Touches found c := by
  obtain ⟨⟨next, hbefore⟩, -⟩ := h.before
  obtain ⟨t, es, found, ht, hpast, htouches⟩ := touches_of_asks (h.asks hw) hc
  obtain ⟨m', hm', ht'⟩ := exists_moment_of_copy? ht rfl
  rw [(hbefore.copies hw hown m' hm' t ht').1] at hpast
  exact ⟨es, found, hpast, htouches⟩

end Course

/-- Take any pass, with any failures and any changes by others between its exchanges, as long as
what is stored at its address has this address. A template that it sends goes to this address and is
based on the last copy that the pass received, which was stored there. It differs from that copy in
the token, in the state, in one condition and in the entry of the pass's own cluster at most. A
concrete object that it sends differs from the one that it just looked for in its content, its
labels, its annotations and its address at most. It calls the stores about no other address. Hence
two undisturbed passes of a cluster over different templates end in the same way and leave the same
objects in either order, apart from the versions, and from the times in the statuses if the clocks
differ. -/
theorem footprint_of_a_pass :
    (∀ (key : Key) (w₀ w : World k) (later earlier : List (Moment k)) (m : Moment k)
      (p : Task k (Except Failure Unit)), w₀.templates.Versioned →
      Course key w₀ (later ++ m :: earlier) w p →
      (∀ m' ∈ earlier, ∀ t, m'.before.templates.find? key = some t → t.metadata.key = key) →
      (∀ address o, m.exchange.request.draft? = some (address, o) →
        address = key ∧ ∃ base, lastCopy? (pastOf earlier) = some base ∧
          (∃ m' ∈ earlier, m'.after.templates.find? key = some base) ∧
          base.Touches key (pastOf earlier) o) ∧
      (∀ c, m.exchange.request.object? = some c → ∃ es found,
        pastOf earlier = es ++ [sighted key found] ∧ Concrete.Touches found c) ∧
      (∀ call, m.exchange.request = .template call → call.key = key) ∧
      (∀ call, m.exchange.request = .concrete call → call.key = key)) ∧
    ∀ (cluster : String) (now₁ now₂ now₁' now₂' : Instant) (w : World k) (key₁ key₂ : Key),
      (k = .configMap ∨ k = .secret) → key₁ ≠ key₂ →
      (∀ t, w.templates.find? key₁ = some t → t.metadata.key = key₁) →
      (∀ t, w.templates.find? key₂ = some t → t.metadata.key = key₂) →
      let one := w.perform cluster now₁ (reconcile key₁)
      let two := one.2.perform cluster now₂ (reconcile key₂)
      let two' := w.perform cluster now₂' (reconcile key₂)
      let one' := two'.2.perform cluster now₁' (reconcile key₁)
      one.1 = one'.1 ∧ two.1 = two'.1 ∧
        (∀ key, World.AlikeAt Template.timeless key two.2 one'.2) ∧
        (now₁ = now₁' → now₂ = now₂' → ∀ key, World.AlikeAt id key two.2 one'.2) := by
  constructor
  · intro key w₀ w later earlier m p hw h hown
    refine ⟨?_, ?_, ?_, ?_⟩
    · exact fun _ _ hdraft => h.touches_template hw hown hdraft
    · exact fun _ hc => h.touches_concrete hw hown hc
    · exact fun _ hcall => h.template_key hw hown hcall
    · exact fun _ hcall => h.concrete_key hw hown hcall
  · intro cluster now₁ now₂ now₁' now₂' w key₁ key₂ hk hne hown₁ hown₂ one two two' one'
    obtain ⟨hresult₁, hresult₂, halike⟩ := passes_commute hk hne hown₁ hown₂
      (blurs_timeless cluster now₁ now₁') (blurs_timeless cluster now₂ now₂')
    refine ⟨hresult₁, hresult₂, halike, ?_⟩
    rintro rfl rfl
    exact (passes_commute hk hne hown₁ hown₂ (blurs_self id cluster now₁)
      (blurs_self id cluster now₂)).2.2

def limits : Template .configMap :=
  { untiedSettings with metadata := { untiedSettings.metadata with name := some "limits" } }

def twoTemplates : World .configMap :=
  ⟨(((Store.empty true).put untiedSettings).2.put limits).2, .empty false⟩

theorem own_of_all {ms : List (Moment k)} {key : Key} (h : (ms.all fun m =>
    (m.before.templates.find? key).all (·.metadata.key = key)) = true) :
    ∀ m ∈ ms, ∀ t, m.before.templates.find? key = some t → t.metadata.key = key := by
  intro m hm t ht
  have hall := List.all_eq_true.1 h m hm
  rw [ht] at hall
  exact of_decide_eq_true hall

/-- The pass over the settings writes its status last, and it may change places with the pass over
the limits. -/
theorem footprint_over_two_templates :
    (∃ later earlier m w p o base,
      Course ⟨"apps", "settings"⟩ twoTemplates (later ++ m :: earlier) w p ∧
      m.exchange.request = .template (.replaceStatus ⟨"apps", "settings"⟩ o) ∧
      lastCopy? (pastOf earlier) = some base ∧
      base.Touches ⟨"apps", "settings"⟩ (pastOf earlier) o) ∧
    ∀ key, World.AlikeAt id key
      ((twoTemplates.perform "east" default (reconcile ⟨"apps", "settings"⟩)).2.perform "east"
        default (reconcile ⟨"apps", "limits"⟩)).2
      ((twoTemplates.perform "east" default (reconcile ⟨"apps", "limits"⟩)).2.perform "east"
        default (reconcile ⟨"apps", "settings"⟩)).2 := by
  obtain ⟨hpass, hpasses⟩ := footprint_of_a_pass (k := .configMap)
  have hversioned : twoTemplates.templates.Versioned :=
    ((Store.versioned_empty true).assign _ _).assign _ _
  constructor
  · have hstart : Course ⟨"apps", "settings"⟩ twoTemplates [] twoTemplates _ := .start
    have h := hstart.alone "east" default
    obtain ⟨later, earlier, m, o, hms, hm, hown⟩ : ∃ later earlier m o,
        (momentsOf "east" default (reconcile ⟨"apps", "settings"⟩).run twoTemplates).reverse =
          [later] ++ m :: earlier ∧
        m.exchange.request = .template (.replaceStatus ⟨"apps", "settings"⟩ o) ∧
        (earlier.all fun m => (m.before.templates.find? ⟨"apps", "settings"⟩).all
          (·.metadata.key = ⟨"apps", "settings"⟩)) = true :=
      ⟨_, _, _, _, rfl, rfl, by decide +kernel⟩
    rw [List.append_nil, hms] at h
    have hdraft : m.exchange.request.draft? = some (⟨"apps", "settings"⟩, o) := by
      rw [hm]
      rfl
    obtain ⟨-, base, hlast, -, htouches⟩ :=
      (hpass _ _ _ _ _ _ _ hversioned h (own_of_all hown)).1 _ _ hdraft
    exact ⟨_, _, _, _, _, _, _, h, hm, hlast, htouches⟩
  · have hown (key : Key) (h : (twoTemplates.templates.find? key).all
        (fun t => decide (t.metadata.key = key)) = true) (t : Template .configMap)
        (ht : twoTemplates.templates.find? key = some t) : t.metadata.key = key := by
      rw [ht] at h
      exact of_decide_eq_true h
    have hcommute := hpasses "east" default default default default twoTemplates
      ⟨"apps", "settings"⟩ ⟨"apps", "limits"⟩ (.inl rfl) (by decide)
      (hown _ (by decide +kernel)) (hown _ (by decide +kernel))
    exact hcommute.2.2.2 rfl rfl

end FleetSync
