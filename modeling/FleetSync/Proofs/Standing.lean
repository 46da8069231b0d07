import FleetSync.Proofs.Confluence
import FleetSync.Proofs.Readiness

/-!
# Ready after the placement has changed

The entry of a cluster outlives the placement under which it was reported. A cluster that is taken
out of the placement prunes its object without a word, and when it is put back its old entry counts
again. So the aggregator's readiness says that each placed cluster has materialized the template at
some time, and that this still stands if the cluster has not left the placement since.
-/
namespace FleetSync

variable {k : Kind}

/-- What happened to the copies of a template. -/
inductive Turn (k : Kind) where
  /-- The user changed the placement of all copies of the template. -/
  | placed (before after : Placement)
  /-- A cluster made a pass, which ended like this. -/
  | passed (cluster : String) (before after : World k) (result : Except Failure Unit)
  | delivered (r : Report)

namespace Turn

def ofPass (key : Key) (cluster : String) (now : Instant) (w : World k) : Turn k :=
  .passed cluster w (w.perform cluster now (reconcile key)).2
    (w.perform cluster now (reconcile key)).1

/-! What is said of a cluster -/

/-- A pass of the cluster, over a template that is placed there, ended well, and the concrete object
was in the prescribed form then. -/
inductive Materializes (key : Key) (cluster : String) : Turn k → Prop
  | pass {before after : World k} {t : Template k} {c : Concrete k}
      (hfind : before.templates.find? key = some t) (hplaced : t.placement.places cluster = true)
      (hthere : after.concretes.find? key = some c) (hprescribed : t.Prescribes c) :
      Materializes key cluster (.passed cluster before after (.ok ()))

inductive Prunes (key : Key) (cluster : String) : Turn k → Prop
  | pass {before after : World k} {result : Except Failure Unit} {t : Template k}
      (hfind : before.templates.find? key = some t) (hplaced : t.placement.places cluster = false) :
      Prunes key cluster (.passed cluster before after result)

inductive Adds (cluster : String) : Turn k → Prop
  | place {before after : Placement} (hbefore : before.places cluster = false)
      (hafter : after.places cluster = true) : Adds cluster (.placed before after)

inductive Removes (cluster : String) : Turn k → Prop
  | place {before after : Placement} (hbefore : before.places cluster = true)
      (hafter : after.places cluster = false) : Removes cluster (.placed before after)

/-- The turn was the aggregator's: a pass of its own controller, or a report that it recorded. -/
inductive OfHub (home : String) : Turn k → Prop
  | pass {before after : World k} {result : Except Failure Unit} :
      OfHub home (.passed home before after result)
  | deliver (r : Report) : OfHub home (.delivered r)

end Turn

/-- The cluster has materialized the template and has neither been added to the placement nor pruned
the object since. The last turn of the history comes first. -/
def Standing (key : Key) (cluster : String) (h : List (Turn k)) : Prop :=
  ∃ newer turn older, h = newer ++ turn :: older ∧ turn.Materializes key cluster ∧
    ∀ turn' ∈ newer, ¬turn'.Adds cluster ∧ ¬turn'.Prunes key cluster

/-- The store holds this template under its own address, with this placement, and its deletion was
not requested. -/
structure HasCopy (key : Key) (p : Placement) (w : World k) (t : Template k) : Prop where
  find : w.templates.find? key = some t
  own : t.metadata.key = key
  not_deleting : t.metadata.isDeleting = false
  placement : t.placement = p

/-! Histories -/

/-- The placement that was in force at the end of a history. Each turn found it in force. -/
inductive Timeline (key : Key) (p₀ : Placement) : List (Turn k) → Placement → Prop
  | start : Timeline key p₀ [] p₀
  | placed {h p} (q : Placement) (hline : Timeline key p₀ h p) :
      Timeline key p₀ (.placed p q :: h) q
  | passed {h p cluster before after result t} (hline : Timeline key p₀ h p)
      (hcopy : HasCopy key p before t) :
      Timeline key p₀ (.passed cluster before after result :: h) p
  | delivered {h p} (r : Report) (hline : Timeline key p₀ h p) :
      Timeline key p₀ (.delivered r :: h) p

section Timeline
variable {key : Key} {p₀ p : Placement} {newer older : List (Turn k)} {turn : Turn k}
  {cluster : String}

theorem Turn.Materializes.places (h : turn.Materializes key cluster)
    (hline : Timeline key p₀ (turn :: older) p) : p.places cluster = true := by
  cases h with
  | pass hfind hplaced hthere hprescribed =>
    cases hline with
    | passed hline hcopy =>
      cases hcopy.find.symm.trans hfind
      rw [← hcopy.placement]
      exact hplaced

theorem Turn.Materializes.ne_empty (h : turn.Materializes key cluster) : cluster ≠ "" := by
  cases h with
  | pass hfind hplaced hthere hprescribed => exact (Placement.places_iff.1 hplaced).1

theorem Timeline.stays (hline : Timeline key p₀ (newer ++ older) p)
    (hthere : ∀ q, Timeline key p₀ older q → q.places cluster = true)
    (hstays : ∀ turn ∈ newer, ¬turn.Removes cluster) : p.places cluster = true ∧
      ∀ turn ∈ newer, ¬turn.Adds cluster ∧ ¬turn.Prunes key cluster := by
  induction newer generalizing p with
  | nil => exact ⟨hthere p hline, fun _ h => (List.not_mem_nil h).elim⟩
  | cons turn newer ih =>
    rw [List.forall_mem_cons] at hstays ⊢
    obtain ⟨hstay, hstays⟩ := hstays
    cases hline with
    | placed q hline =>
      obtain ⟨hplaced, hrest⟩ := ih hline hstays
      refine ⟨?_, ⟨?_, nofun⟩, hrest⟩
      · rw [← Bool.not_eq_false]
        intro hafter
        exact hstay (.place hplaced hafter)
      · rintro ⟨hbefore, -⟩
        rw [hplaced] at hbefore
        cases hbefore
    | passed hline hcopy =>
      obtain ⟨hplaced, hrest⟩ := ih hline hstays
      refine ⟨hplaced, ⟨nofun, ?_⟩, hrest⟩
      rintro ⟨hfind, helsewhere⟩
      cases hcopy.find.symm.trans hfind
      rw [hcopy.placement, hplaced] at helsewhere
      cases helsewhere
    | delivered r hline =>
      obtain ⟨hplaced, hrest⟩ := ih hline hstays
      exact ⟨hplaced, ⟨nofun, nofun⟩, hrest⟩

theorem Timeline.exists_adds (hline : Timeline key p₀ (newer ++ older) p)
    (hnow : p.places cluster = true) (hleft : ∃ turn ∈ newer, turn.Removes cluster) :
    ∃ turn ∈ newer, turn.Adds cluster := by
  induction newer generalizing p with
  | nil =>
    obtain ⟨turn, hturn, -⟩ := hleft
    cases hturn
  | cons turn newer ih =>
    simp only [List.mem_cons, exists_eq_or_imp] at hleft ⊢
    cases hline with
    | @placed h q p hline =>
      cases hbefore : q.places cluster with
      | false => exact .inl (.place hbefore hnow)
      | true =>
        rcases hleft with ⟨-, hafter⟩ | hleft
        · rw [hnow] at hafter
          cases hafter
        · exact .inr (ih hline hbefore hleft)
    | passed hline hcopy =>
      rcases hleft with hleft | hleft
      · cases hleft
      · exact .inr (ih hline hnow hleft)
    | delivered r hline =>
      rcases hleft with hleft | hleft
      · cases hleft
      · exact .inr (ih hline hnow hleft)

theorem not_standing_of_adds (hadds : turn.Adds cluster)
    (hnewer : ∀ turn' ∈ newer, ¬turn'.Materializes key cluster) :
    ¬Standing key cluster (newer ++ turn :: older) := by
  rintro ⟨newer', turn', older', hcut, hturn', hclean⟩
  rcases split_of_append_eq hcut with ⟨rest, rfl, -⟩ | ⟨start, rfl, htail⟩
  · exact hnewer turn' (by simp) hturn'
  · rcases start with _ | ⟨first, start⟩
    · obtain ⟨rfl, -⟩ := List.cons.inj htail
      cases hadds
      cases hturn'
    · obtain ⟨rfl, -⟩ := List.cons.inj htail
      exact (hclean turn (by simp)).1 hadds

/-- What a cluster in the placement has materialized last stands if the cluster has not left since,
and does not stand otherwise. -/
theorem Timeline.standing_iff (hline : Timeline key p₀ (newer ++ turn :: older) p)
    (hturn : turn.Materializes key cluster)
    (hlast : ∀ turn' ∈ newer, ¬turn'.Materializes key cluster) (hnow : p.places cluster = true) :
    Standing key cluster (newer ++ turn :: older) ↔
      ∀ turn' ∈ newer, ¬turn'.Removes cluster := by
  constructor
  · rintro ⟨newer', turn', older', hcut, hturn', hnewer'⟩ left hleft hremoves
    obtain ⟨added, hadded, hadds⟩ := hline.exists_adds hnow ⟨left, hleft, hremoves⟩
    rcases split_of_append_eq hcut with ⟨rest, rfl, -⟩ | ⟨start, rfl, -⟩
    · exact hlast turn' (by simp) hturn'
    · exact (hnewer' added (List.mem_append_left _ hadded)).1 hadds
  · intro hstays
    exact ⟨newer, turn, older, rfl, hturn,
      (hline.stays (fun _ hline => hturn.places hline) hstays).2⟩

end Timeline

/-! Passes and deliveries -/
section Copies
variable {key : Key} {p : Placement} {w : World k} {t : Template k} {cluster : String}
  {now : Instant}

theorem exists_mutate {payload : k.Payload} {old c : Concrete k}
    (h : k.mutate payload old = .ok c) (old' : Concrete k) :
    ∃ c', k.mutate payload old' = .ok c' := by
  obtain ⟨r, hr, -⟩ := Kind.render_of_mutate_eq_ok h
  exact ⟨_, Kind.mutate_of_render hr old'⟩

theorem exists_mutate_of_synchronization {es : Dialogue k} {done : SyncOutcome}
    (h : t.synchronization.Ends es (.ok done)) (old : Concrete k) :
    ∃ c, k.mutate t.payload old = .ok c := by
  obtain ⟨n, -, earlier, es', rfl, -, hlast⟩ := ends_retryConflicts h
  have hends := ends_syncOnce hlast
  generalize hr : Except.ok done = r at hends
  cases hends with
  | unsighted f => cases hr
  | refused hm => cases hr
  | created hm answer => exact exists_mutate hm old
  | unchanged hm hsame => exact exists_mutate hm old
  | updated hm hne answer => exact exists_mutate hm old

theorem exists_mutate_of_ends_materialize {current : Template k} {es : Dialogue k}
    {done : SyncOutcome} (h : t.refreshed.materialize.Ends es (current, .ok done))
    (old : Concrete k) : ∃ c, k.mutate t.payload old = .ok c := by
  cases Template.ends_materialize h with
  | tied hsync htied => exact exists_mutate_of_synchronization hsync old
  | tieWritten hsync htied => exact exists_mutate_of_synchronization hsync old

theorem HasCopy.converges (hk : k = .configMap ∨ k = .secret) (hcopy : HasCopy key p w t)
    (cluster : String) (now : Instant) : ∃ t',
    Rewrites key w.templates (w.perform cluster now (reconcile key)).2.templates t t' ∧
      if t.placement.places cluster = false then
        (w.perform cluster now (reconcile key)).1 = .ok () ∧
          Withdrawn key (w.perform cluster now (reconcile key)).2 t t'
      else
        match k.mutate t.payload ((w.concretes.find? key).getD (.blank key)) with
        | .ok c => (w.perform cluster now (reconcile key)).1 = .ok () ∧
          Deployed cluster now key w (w.perform cluster now (reconcile key)).2 t t' c
        | .error f => (w.perform cluster now (reconcile key)).1 = .error f ∧
          Refused cluster now w (w.perform cluster now (reconcile key)).2 t t' f := by
  have hown (t' : Template k) (h : w.templates.find? key = some t') : t'.metadata.key = key := by
    cases h.symm.trans hcopy.find
    exact hcopy.own
  have hconverges := @converges_of_perform k cluster now w key hk hown
  unfold Converges at hconverges
  rw [hcopy.find] at hconverges
  obtain ⟨-, t', hrewrites, hends⟩ := hconverges
  rw [hcopy.not_deleting] at hends
  simp only [Bool.false_eq_true, false_or] at hends
  exact ⟨t', hrewrites, hends⟩

theorem HasCopy.materializes {c : Concrete k} (hk : k = .configMap ∨ k = .secret)
    (hcopy : HasCopy key p w t) (hplaced : t.placement.places cluster = true)
    (hm : k.mutate t.payload ((w.concretes.find? key).getD (.blank key)) = .ok c) :
    (Turn.ofPass key cluster now w).Materializes key cluster := by
  obtain ⟨t', -, hends⟩ := hcopy.converges hk cluster now
  rw [if_neg (by simp [hplaced]), hm] at hends
  obtain ⟨hresult, hdeployed⟩ := hends
  obtain ⟨version, hversion⟩ := hdeployed.concrete
  unfold Turn.ofPass
  rw [hresult]
  refine .pass hcopy.find hplaced hversion ?_
  rw [← hcopy.own]
  exact Template.prescribes_of_mutate hm version

theorem HasCopy.rewritten {w' : World k} {t' : Template k} (hcopy : HasCopy key p w t)
    (h : Rewrites key w.templates w'.templates t t') : HasCopy key p w' t' := by
  have hkeeps := h.keeps
  refine ⟨h.find, ?_, ?_, hkeeps.placement.trans hcopy.placement⟩
  · rw [hkeeps.metadata]
    exact hcopy.own
  · rw [hkeeps.metadata]
    exact hcopy.not_deleting

theorem HasCopy.recorded {t' : Template k} {c : Condition} (hcopy : HasCopy key p w t)
    (h : t'.status = some (t.currentStatus.record t.placement cluster c)) :
    t'.currentStatus.state = FleetStatus.effectiveState p t'.currentStatus ∧
      ∀ d e, t'.entryOf? d = some e → t.entryOf? d = some e ∨
        d = cluster ∧ e.state = (ClusterEntry.ofCondition c).state := by
  have hentries (d : String) : t'.entryOf? d = (t.withOutcome cluster c).entryOf? d :=
    Template.entryOf?_eq_of_status h
  refine ⟨?_, fun d e he => Template.entryOf?_of_withOutcome ((hentries d).symm.trans he)⟩
  unfold Template.currentStatus
  rw [h, ← hcopy.placement]
  rfl

/-- A pass leaves a copy with the state that its entries imply. No entry changes but that of the
cluster, which says that the cluster is ready only if it did before or if the template was
materialized. -/
theorem HasCopy.pass (hk : k = .configMap ∨ k = .secret) (hcopy : HasCopy key p w t)
    (cluster : String) (now : Instant) :
    ∃ t', HasCopy key p (w.perform cluster now (reconcile key)).2 t' ∧
      t'.currentStatus.state = FleetStatus.effectiveState p t'.currentStatus ∧
      ∀ d e, t'.entryOf? d = some e → e.state = .ready → t.entryOf? d = some e ∨
        (Turn.ofPass key cluster now w).Materializes key d := by
  obtain ⟨t', hrewrites, hends⟩ := hcopy.converges hk cluster now
  have hcopy' := hcopy.rewritten hrewrites
  refine ⟨t', hcopy', ?_⟩
  cases hplaced : t.placement.places cluster with
  | false =>
    rw [if_pos hplaced] at hends
    obtain ⟨-, hwithdrawn⟩ := hends
    refine ⟨?_, ?_⟩
    · rw [hwithdrawn.state hcopy.not_deleting, hcopy'.placement]
    · intro d e he _
      unfold Template.entryOf? at he
      rw [hwithdrawn.status hcopy.not_deleting] at he
      exact .inl he
  | true =>
    rw [if_neg (by simp [hplaced])] at hends
    cases hm : k.mutate t.payload ((w.concretes.find? key).getD (.blank key)) with
    | ok c =>
      rw [hm] at hends
      obtain ⟨hstate, hentries⟩ := hcopy.recorded hends.2.status
      refine ⟨hstate, ?_⟩
      intro d e he _
      rcases hentries d e he with hold | ⟨rfl, -⟩
      · exact .inl hold
      · exact .inr (hcopy.materializes hk hplaced hm)
    | error f =>
      rw [hm] at hends
      obtain ⟨hstate, hentries⟩ := hcopy.recorded hends.2.status
      refine ⟨hstate, ?_⟩
      intro d e he hready
      rcases hentries d e he with hold | ⟨-, hfailed⟩
      · exact .inl hold
      · cases hfailed.symm.trans hready

theorem HasCopy.deliver {r : Report} (hcopy : HasCopy key p w t) (hkey : r.key = key)
    (home : String) (now : Instant) :
    ∃ t', HasCopy key p (w.perform home now (recordReport r)).2 t' ∧
      t'.currentStatus.state = FleetStatus.effectiveState p t'.currentStatus ∧
      ∀ d e, t'.entryOf? d = some e → t.entryOf? d = some e ∨
        d = r.cluster ∧ e.state = r.entry.state := by
  subst hkey
  obtain ⟨changed, w', t', hperform, hfind, habsorbs⟩ :=
    @exists_perform_recordReport k home now w t r hcopy.find
  rw [hperform]
  refine ⟨t', ⟨hfind, ?_, ?_, habsorbs.placement.trans hcopy.placement⟩, ?_, ?_⟩
  · rw [habsorbs.metadata]
    exact hcopy.own
  · rw [habsorbs.metadata]
    exact hcopy.not_deleting
  · rw [habsorbs.status, ← hcopy.placement]
    exact FleetStatus.state_absorbAll (by simp)
  · have hentries (d : String) : t'.entryOf? d = (t.withReport r).entryOf? d := by
      unfold Template.entryOf?
      rw [habsorbs.status]
      rfl
    exact fun d e he => Template.entryOf?_of_withReport ((hentries d).symm.trans he)

theorem exists_of_mem_reportsOf {es : Dialogue k} {r : Report} (h : r ∈ reportsOf es) :
    ∃ e ∈ es, e.request = .report r := by
  obtain ⟨e, he, hr⟩ := List.mem_filterMap.1 h
  refine ⟨e, he, ?_⟩
  unfold Exchange.report? at hr
  split at hr
  · cases hr
    rfl
  · cases hr

theorem key_of_ends_materialize {α : Type} {current : Template k} {es : Dialogue k}
    {outcome : Except Failure SyncOutcome} {x : Task k α}
    (h : t.refreshed.materialize.Ends es (current, outcome))
    (hes : ∀ e ∈ es, e ∈ x.exchanges (World.serve cluster now) w) :
    current.metadata.key = t.metadata.key := by
  cases Template.ends_materialize h with
  | failed hsync => rfl
  | tied hsync htied => rfl
  | tieRefused hsync htied => rfl
  | @tieWritten es' done stored hsync htied =>
    obtain ⟨w₁, hanswer⟩ :=
      Program.exists_of_mem_exchanges (hes _ (List.mem_append_right _ (List.mem_singleton_self _)))
    have hserved :=
      World.answers_serve cluster now (replaced t.refreshed.tie (.ok current)).request w₁
    rw [← hanswer] at hserved
    exact (World.Answers.replaced hserved).2.1

/-- What a pass over a copy reports is about this copy. If it says that the cluster is ready, then
the pass materialized the template. -/
theorem HasCopy.report (hk : k = .configMap ∨ k = .secret) (hcopy : HasCopy key p w t)
    {r : Report}
    (hr : r ∈ reportsOf ((reconcile key).run.exchanges (World.serve cluster now) w)) :
    r.key = key ∧ (r.entry.state = .ready →
      (Turn.ofPass key cluster now w).Materializes key r.cluster) := by
  obtain ⟨e, he, hrequest⟩ := exists_of_mem_reportsOf hr
  obtain ⟨before, after, hes⟩ := List.append_of_mem he
  have hends : (reconcile key).run.Ends
      ((reconcile key).run.exchanges (World.serve cluster now) w) _ :=
    Program.ends_exchanges _ _
  rw [hes] at hends
  have hasks := hends.asks_of_append
  rw [hrequest] at hasks
  cases reportCall_of_asks hasks with
  | @report t₁ current stored cluster₁ es outcome now₁ hplaced hmaterialize =>
    obtain rfl : t₁ = t := by
      have hfirst : fetched key t₁ =
          ⟨.template (.get key), (.ok (w.templates.find? key) : Except Failure _)⟩ :=
        (List.cons.inj hes).1.symm
      rw [hcopy.find] at hfirst
      cases hfirst
      rfl
    have hmem {e' : Exchange (Request k) Request.Answer}
        (he' : e' ∈ fetched key t₁ :: named cluster₁ :: es) :
        e' ∈ (reconcile key).run.exchanges (World.serve cluster now) w := by
      rw [List.mem_cons, List.mem_cons] at he'
      rw [hes]
      simp only [List.cons_append, List.append_assoc, List.mem_cons, List.mem_append]
      exact he'.imp_right (·.imp_right .inl)
    obtain rfl : cluster₁ = cluster := by
      obtain ⟨w₁, hanswer⟩ :=
        Program.exists_of_mem_exchanges (@hmem (named cluster₁) (by simp))
      exact Except.ok.inj hanswer
    refine ⟨?_, ?_⟩
    · rw [← hcopy.own]
      exact key_of_ends_materialize hmaterialize fun e' he' => hmem (by simp [he'])
    · intro hready
      obtain ⟨done, rfl⟩ := eq_ok_of_ready hready
      obtain ⟨c, hm⟩ := exists_mutate_of_ends_materialize hmaterialize _
      exact hcopy.materializes hk hplaced hm

end Copies

/-! Networks -/

/-- The stores of the aggregator and of the clusters, and the reports that are on their way. -/
structure Network (k : Kind) where
  hub : World k
  leaf : String → World k
  underway : List Report

def World.place (key : Key) (p : Placement) (w : World k) : World k :=
  match w.templates.find? key with
  | none => w
  | some t => w.restock key { t with placement := p }

namespace Network

def place (key : Key) (p : Placement) (n : Network k) : Network k where
  hub := n.hub.place key p
  leaf cluster := (n.leaf cluster).place key p
  underway := n.underway

def pass (key : Key) (cluster : String) (now : Instant) (n : Network k) : Network k where
  hub := n.hub
  leaf d :=
    if d = cluster then ((n.leaf cluster).perform cluster now (reconcile key)).2 else n.leaf d
  underway := n.underway ++
    reportsOf ((reconcile key).run.exchanges (World.serve cluster now) (n.leaf cluster))

/-- A pass of the aggregator's own controller, whose reports go nowhere. -/
def hubPass (key : Key) (home : String) (now : Instant) (n : Network k) : Network k :=
  { n with hub := (n.hub.perform home now (reconcile key)).2 }

/-- The aggregator records a report, and the others stay on their way. -/
def deliver (home : String) (now : Instant) (r : Report) (others : List Report) (n : Network k) :
    Network k where
  hub := (n.hub.perform home now (recordReport r)).2
  leaf := n.leaf
  underway := others

/-- What happens to the copies of a template, the last turn first. A cluster that has no copy has
nothing to make a pass over. The reports may arrive in any order. -/
inductive Run (key : Key) (home : String) (n₀ : Network k) : List (Turn k) → Network k → Prop
  | init : Run key home n₀ [] n₀
  | place {h n t} (p : Placement) (hrun : Run key home n₀ h n)
      (hfind : n.hub.templates.find? key = some t) :
      Run key home n₀ (.placed t.placement p :: h) (n.place key p)
  | pass {h n t} (cluster : String) (now : Instant) (hrun : Run key home n₀ h n)
      (haway : cluster ≠ home) (hfind : (n.leaf cluster).templates.find? key = some t) :
      Run key home n₀ (.ofPass key cluster now (n.leaf cluster) :: h) (n.pass key cluster now)
  | hubPass {h n} (now : Instant) (hrun : Run key home n₀ h n) :
      Run key home n₀ (.ofPass key home now n.hub :: h) (n.hubPass key home now)
  | deliver {h n r front back} (now : Instant) (hrun : Run key home n₀ h n)
      (hnext : n.underway = front ++ r :: back) :
      Run key home n₀ (.delivered r :: h) (n.deliver home now r (front ++ back))

/-- The aggregator has a copy that says of no cluster that it is ready, all copies have the same
placement, and no report is on its way. -/
structure Fresh (key : Key) (p₀ : Placement) (n : Network k) : Prop where
  hub : ∃ t, HasCopy key p₀ n.hub t ∧ ∀ d e, t.entryOf? d = some e → e.state ≠ .ready
  leaf : ∀ d t, (n.leaf d).templates.find? key = some t → HasCopy key p₀ (n.leaf d) t
  underway : n.underway = []

end Network

def Materialized (key : Key) (cluster : String) (h : List (Turn k)) : Prop :=
  ∃ turn ∈ h, turn.Materializes key cluster

section Materialized
variable {key : Key} {cluster : String} {h : List (Turn k)} {turn : Turn k}

theorem Materialized.now (hturn : turn.Materializes key cluster) :
    Materialized key cluster (turn :: h) := ⟨turn, List.mem_cons_self, hturn⟩

theorem Materialized.earlier (hold : Materialized key cluster h) :
    Materialized key cluster (turn :: h) :=
  hold.imp fun _ ⟨hmem, hturn⟩ => ⟨List.mem_cons_of_mem _ hmem, hturn⟩

theorem Materialized.exists_last (hold : Materialized key cluster h) :
    ∃ newer turn older, h = newer ++ turn :: older ∧ turn.Materializes key cluster ∧
      ∀ turn' ∈ newer, ¬turn'.Materializes key cluster := by
  classical
  obtain ⟨turn, hmem, hturn⟩ := hold
  have hsome : (h.find? fun turn => decide (turn.Materializes key cluster)).isSome :=
    List.find?_isSome.2 ⟨turn, hmem, decide_eq_true hturn⟩
  obtain ⟨last, hlast⟩ := Option.isSome_iff_exists.1 hsome
  obtain ⟨hmaterializes, newer, older, hcut, hnewer⟩ := List.find?_eq_some_iff_append.1 hlast
  refine ⟨newer, last, older, hcut, of_decide_eq_true hmaterializes, ?_⟩
  intro turn' hturn'
  simpa using hnewer turn' hturn'

end Materialized

/-- If the report says that its cluster is ready, then the cluster has materialized the template. -/
structure Report.BorneOut (key : Key) (h : List (Turn k)) (r : Report) : Prop where
  key_eq : r.key = key
  materialized : r.entry.state = .ready → Materialized key r.cluster h

def Template.BorneOut (key : Key) (h : List (Turn k)) (t : Template k) : Prop :=
  ∀ d e, t.entryOf? d = some e → e.state = .ready → Materialized key d h

section BorneOut
variable {key : Key} {h : List (Turn k)} {turn : Turn k}

theorem Report.BorneOut.cons {r : Report} (hr : r.BorneOut key h) : r.BorneOut key (turn :: h) :=
  ⟨hr.key_eq, fun hready => (hr.materialized hready).earlier⟩

theorem Template.BorneOut.cons {t : Template k} (ht : t.BorneOut key h) :
    t.BorneOut key (turn :: h) :=
  fun d e he hready => (ht d e he hready).earlier

end BorneOut

/-- What holds at any time: the copies have the placement that is in force, and what the aggregator
knows or will hear to be ready was materialized at some time. -/
structure Network.Kept (key : Key) (p₀ p : Placement) (h : List (Turn k)) (n : Network k) :
    Prop where
  timeline : Timeline key p₀ h p
  hub : ∃ t, HasCopy key p n.hub t ∧ t.BorneOut key h
  leaf : ∀ d t, (n.leaf d).templates.find? key = some t → HasCopy key p (n.leaf d) t
  underway : ∀ r ∈ n.underway, r.BorneOut key h

section Kept
variable {key : Key} {home cluster : String} {p₀ p : Placement} {h : List (Turn k)}
  {n n₀ : Network k} {now : Instant}

theorem HasCopy.place {w : World k} {t : Template k} (hcopy : HasCopy key p w t) (q : Placement) :
    HasCopy key q (w.place key q) (w.stocked key { t with placement := q }) := by
  unfold World.place
  rw [hcopy.find]
  exact ⟨w.templates.find?_assign_self .., hcopy.own, hcopy.not_deleting, rfl⟩

theorem Network.Fresh.kept (hfresh : n₀.Fresh key p₀) : n₀.Kept key p₀ p₀ [] where
  timeline := .start
  hub := by
    obtain ⟨t, hcopy, hnone⟩ := hfresh.hub
    exact ⟨t, hcopy, fun d e he hready => (hnone d e he hready).elim⟩
  leaf := hfresh.leaf
  underway := by simp [hfresh.underway]

theorem Network.Kept.place (hkept : n.Kept key p₀ p h) (q : Placement) :
    (n.place key q).Kept key p₀ q (.placed p q :: h) where
  timeline := .placed q hkept.timeline
  hub := by
    obtain ⟨t, hcopy, hborne⟩ := hkept.hub
    exact ⟨_, hcopy.place q, hborne.cons⟩
  leaf := by
    intro d t hfind
    cases hold : (n.leaf d).templates.find? key with
    | none =>
      have hnone : (n.place key q).leaf d = n.leaf d := by
        change (n.leaf d).place key q = n.leaf d
        unfold World.place
        rw [hold]
      rw [hnone, hold] at hfind
      cases hfind
    | some t₁ =>
      have hcopy := (hkept.leaf d t₁ hold).place q
      cases hcopy.find.symm.trans hfind
      exact hcopy
  underway := fun r hr => (hkept.underway r hr).cons

theorem Network.Kept.pass {t : Template k} (hk : k = .configMap ∨ k = .secret)
    (hkept : n.Kept key p₀ p h) (hfind : (n.leaf cluster).templates.find? key = some t) :
    (n.pass key cluster now).Kept key p₀ p (.ofPass key cluster now (n.leaf cluster) :: h) where
  timeline := .passed hkept.timeline (hkept.leaf cluster t hfind)
  hub := by
    obtain ⟨t, hcopy, hborne⟩ := hkept.hub
    exact ⟨t, hcopy, hborne.cons⟩
  leaf := by
    intro d t' hfind'
    by_cases hd : d = cluster
    · subst hd
      have hafter : (n.pass key d now).leaf d =
          ((n.leaf d).perform d now (reconcile key)).2 := if_pos rfl
      obtain ⟨t'', hcopy, -⟩ := (hkept.leaf d t hfind).pass hk d now
      rw [hafter] at hfind' ⊢
      cases hcopy.find.symm.trans hfind'
      exact hcopy
    · have hsame : (n.pass key cluster now).leaf d = n.leaf d := if_neg hd
      rw [hsame] at hfind' ⊢
      exact hkept.leaf d t' hfind'
  underway := by
    intro r hr
    rcases List.mem_append.1 hr with hr | hr
    · exact (hkept.underway r hr).cons
    · obtain ⟨hkey, hready⟩ := (hkept.leaf cluster t hfind).report hk hr
      exact ⟨hkey, fun h => .now (hready h)⟩

theorem Network.Kept.hubPass (hk : k = .configMap ∨ k = .secret) (hkept : n.Kept key p₀ p h) :
    (n.hubPass key home now).Kept key p₀ p (.ofPass key home now n.hub :: h) where
  timeline := by
    obtain ⟨t, hcopy, -⟩ := hkept.hub
    exact .passed hkept.timeline hcopy
  hub := by
    obtain ⟨t, hcopy, hborne⟩ := hkept.hub
    obtain ⟨t', hcopy', -, hentries⟩ := hcopy.pass hk home now
    refine ⟨t', hcopy', ?_⟩
    intro d e he hready
    rcases hentries d e he hready with hold | hnow
    · exact hborne.cons d e hold hready
    · exact .now hnow
  leaf := hkept.leaf
  underway := fun r hr => (hkept.underway r hr).cons

theorem Network.Kept.deliver {r : Report} {front back : List Report} (hkept : n.Kept key p₀ p h)
    (hnext : n.underway = front ++ r :: back) :
    (n.deliver home now r (front ++ back)).Kept key p₀ p (.delivered r :: h) where
  timeline := .delivered r hkept.timeline
  hub := by
    obtain ⟨t, hcopy, hborne⟩ := hkept.hub
    have hr := hkept.underway r (by simp [hnext])
    obtain ⟨t', hcopy', -, hentries⟩ := hcopy.deliver hr.key_eq home now
    refine ⟨t', hcopy', ?_⟩
    intro d e he hready
    rcases hentries d e he with hold | ⟨rfl, hreported⟩
    · exact hborne.cons d e hold hready
    · exact hr.cons.materialized (hreported.symm.trans hready)
  leaf := hkept.leaf
  underway := by
    intro r' hr'
    have hr' : r' ∈ n.underway := by
      rw [hnext, List.mem_append, List.mem_cons]
      exact (List.mem_append.1 hr').imp_right .inr
    exact (hkept.underway r' hr').cons

theorem Network.Run.kept (hk : k = .configMap ∨ k = .secret) (hfresh : n₀.Fresh key p₀)
    (hrun : Run key home n₀ h n) : ∃ p, n.Kept key p₀ p h := by
  induction hrun with
  | init => exact ⟨p₀, hfresh.kept⟩
  | place q hrun hfind ih =>
    obtain ⟨p, hkept⟩ := ih
    obtain ⟨t, hcopy, -⟩ := hkept.hub
    cases hcopy.find.symm.trans hfind
    rw [hcopy.placement]
    exact ⟨q, hkept.place q⟩
  | pass cluster now hrun haway hfind ih =>
    obtain ⟨p, hkept⟩ := ih
    exact ⟨p, hkept.pass hk hfind⟩
  | hubPass now hrun ih =>
    obtain ⟨p, hkept⟩ := ih
    exact ⟨p, hkept.hubPass hk⟩
  | deliver now hrun hnext ih =>
    obtain ⟨p, hkept⟩ := ih
    exact ⟨p, hkept.deliver hnext⟩

theorem Network.Run.state_eq {turn : Turn k} {t : Template k} (hk : k = .configMap ∨ k = .secret)
    (hfresh : n₀.Fresh key p₀) (hrun : Run key home n₀ (turn :: h) n) (hhub : turn.OfHub home)
    (hfind : n.hub.templates.find? key = some t) :
    t.currentStatus.state = FleetStatus.effectiveState t.placement t.currentStatus := by
  cases hrun with
  | place q hrun hfind' => cases hhub
  | pass cluster now hrun haway hfind' =>
    cases hhub
    exact (haway rfl).elim
  | hubPass now hrun =>
    obtain ⟨p, hkept⟩ := hrun.kept hk hfresh
    obtain ⟨t₁, hcopy, -⟩ := hkept.hub
    obtain ⟨t', hcopy', hstate, -⟩ := hcopy.pass hk home now
    cases hcopy'.find.symm.trans hfind
    rw [hcopy'.placement]
    exact hstate
  | @deliver h n r front back now hrun hnext =>
    obtain ⟨p, hkept⟩ := hrun.kept hk hfresh
    obtain ⟨t₁, hcopy, -⟩ := hkept.hub
    have hr := hkept.underway r (by simp [hnext])
    obtain ⟨t', hcopy', hstate, -⟩ := hcopy.deliver hr.key_eq home now
    cases hcopy'.find.symm.trans hfind
    rw [hcopy'.placement]
    exact hstate

end Kept

/-- Take any run of a network that starts without anything reported. Whenever a turn of the
aggregator leaves its copy ready, each placed cluster has materialized the template at some time.
From the last such time on, the cluster has neither been added to the placement nor pruned the
object exactly if it was never taken out of the placement. -/
theorem ready_stands_unless_left {key : Key} {home : String} {p₀ : Placement} {n₀ n : Network k}
    {h : List (Turn k)} {turn : Turn k} {t : Template k} (hk : k = .configMap ∨ k = .secret)
    (hfresh : n₀.Fresh key p₀) (hrun : Network.Run key home n₀ (turn :: h) n)
    (hhub : turn.OfHub home) (hfind : n.hub.templates.find? key = some t)
    (hready : t.currentStatus.state = .ready) :
    ∀ cluster ∈ t.placement.clusters, ∃ newer last older, turn :: h = newer ++ last :: older ∧
      last.Materializes key cluster ∧
      (∀ turn' ∈ newer, ¬turn'.Materializes key cluster) ∧
      (Standing key cluster (turn :: h) ↔ ∀ turn' ∈ newer, ¬turn'.Removes cluster) := by
  intro cluster hplaced
  obtain ⟨p, hkept⟩ := hrun.kept hk hfresh
  obtain ⟨t', hcopy, hborne⟩ := hkept.hub
  cases hcopy.find.symm.trans hfind
  rw [hrun.state_eq hk hfresh hhub hfind] at hready
  obtain ⟨e, he, hstate⟩ := FleetStatus.exists_of_stateOf_eq_ready
    ((FleetStatus.effectiveState_eq_ready_iff.1 hready).2 cluster hplaced)
  obtain ⟨newer, last, older, hcut, hlast, hnewer⟩ := (hborne cluster e he hstate).exists_last
  refine ⟨newer, last, older, hcut, hlast, hnewer, ?_⟩
  have hnow : p.places cluster = true := by
    rw [← hcopy.placement]
    exact Placement.places_iff.2 ⟨hlast.ne_empty, hplaced⟩
  rw [hcut]
  exact (hcut ▸ hkept.timeline).standing_iff hlast hnewer hnow

/-- The aggregator and all clusters start with the settings, which are placed on the east. -/
def settingsNetwork : Network .configMap := ⟨untiedWorld, fun _ => untiedWorld, []⟩

theorem fresh_settingsNetwork : settingsNetwork.Fresh ⟨"apps", "settings"⟩ ⟨["east"]⟩ where
  hub := ⟨_, ⟨rfl, rfl, rfl, rfl⟩, fun _ _ he => by cases he⟩
  leaf := by
    intro d t hfind
    cases hfind
    exact ⟨rfl, rfl, rfl, rfl⟩
  underway := rfl

def createdOn (cluster : String) : Report :=
  let condition : Condition := ⟨.deployComplete, .isTrue, "ConfigMap created", default⟩
  ⟨Kind.configMap.template.kind, ⟨"apps", "settings"⟩, cluster, condition, .ofCondition condition⟩

def settingsOnEast : Network .configMap :=
  (settingsNetwork.pass ⟨"apps", "settings"⟩ "east" default).deliver "hub" default
    (createdOn "east") []

/-- The settings were moved to the west, and both clusters have made a pass. -/
def settingsOnWest : Network .configMap :=
  ((settingsOnEast.place ⟨"apps", "settings"⟩ ⟨["west"]⟩).pass ⟨"apps", "settings"⟩ "east"
    default).pass ⟨"apps", "settings"⟩ "west" default

/-- The east was put back, and the report of the west has arrived. -/
def settingsOnBoth : Network .configMap :=
  (settingsOnWest.place ⟨"apps", "settings"⟩ ⟨["east", "west"]⟩).deliver "hub" default
    (createdOn "west") []

/-- The aggregator is ready although the object on the east does not stand, which has left the
placement since it materialized the template. -/
theorem ready_after_returning : ∃ turn h t,
    Network.Run ⟨"apps", "settings"⟩ "hub" settingsNetwork (turn :: h) settingsOnBoth ∧
    turn.OfHub "hub" ∧ settingsOnBoth.hub.templates.find? ⟨"apps", "settings"⟩ = some t ∧
    t.currentStatus.state = .ready ∧ "east" ∈ t.placement.clusters ∧
    ¬Standing ⟨"apps", "settings"⟩ "east" (turn :: h) ∧
    ∃ newer last older, turn :: h = newer ++ last :: older ∧
      last.Materializes ⟨"apps", "settings"⟩ "east" ∧ ∃ left ∈ newer, left.Removes "east" := by
  have hplaced {n : Network .configMap} {p : Placement}
      (h : (n.hub.templates.find? ⟨"apps", "settings"⟩).map (·.placement) = some p) :
      ∃ t, n.hub.templates.find? ⟨"apps", "settings"⟩ = some t ∧ t.placement = p :=
    Option.map_eq_some_iff.1 h
  obtain ⟨t₁, hfind₁, hplacement₁⟩ := hplaced (n := settingsOnEast) (p := ⟨["east"]⟩) rfl
  obtain ⟨t₂, hfind₂, hplacement₂⟩ := hplaced (n := settingsOnWest) (p := ⟨["west"]⟩) rfl
  have heast : Network.Run ⟨"apps", "settings"⟩ "hub" settingsNetwork _ settingsOnEast :=
    (Network.Run.init.pass "east" default (by decide) rfl).deliver default
      (show _ = [] ++ _ :: [] from rfl)
  have hwest : Network.Run ⟨"apps", "settings"⟩ "hub" settingsNetwork _ settingsOnWest :=
    ((heast.place ⟨["west"]⟩ hfind₁).pass "east" default (by decide) rfl).pass "west" default
      (by decide) rfl
  have hboth : Network.Run ⟨"apps", "settings"⟩ "hub" settingsNetwork _ settingsOnBoth :=
    (hwest.place ⟨["east", "west"]⟩ hfind₂).deliver default (show _ = [] ++ _ :: [] from rfl)
  rw [hplacement₁, hplacement₂] at hboth
  obtain ⟨t, hfind, hready, hthere⟩ : ∃ t : Template .configMap,
      settingsOnBoth.hub.templates.find? ⟨"apps", "settings"⟩ = some t ∧
      t.currentStatus.state = .ready ∧ "east" ∈ t.placement.clusters :=
    ⟨_, rfl, by decide +kernel, by decide +kernel⟩
  obtain ⟨newer, last, older, hcut, hlast, -, hiff⟩ :=
    ready_stands_unless_left (.inl rfl) fresh_settingsNetwork hboth (.deliver _) hfind hready
      "east" hthere
  have hnot (h : List (Turn .configMap)) : ¬Standing ⟨"apps", "settings"⟩ "east"
      ([.delivered (createdOn "west")] ++ .placed ⟨["west"]⟩ ⟨["east", "west"]⟩ :: h) :=
    not_standing_of_adds (.place rfl rfl) (List.forall_mem_singleton.2 nofun)
  refine ⟨_, _, t, hboth, .deliver _, hfind, hready, hthere, hnot _, newer, last, older, hcut,
    hlast, ?_⟩
  apply Classical.byContradiction
  intro hstayed
  exact hnot _ (hiff.2 fun turn hturn hleft => hstayed ⟨turn, hturn, hleft⟩)

end FleetSync
