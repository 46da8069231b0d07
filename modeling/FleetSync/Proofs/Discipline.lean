import FleetSync.Kind.ConfigMap
import FleetSync.Proofs.Interleaving

/-!
# When a pass writes, deletes, ties and releases

Whatever is answered to it, a pass writes a concrete object only for a template that is placed on
its cluster and deletes one only for a template that is not, or whose deletion was requested. It
gives the token to a template only after its own synchronization succeeded, and takes the token
away only after its own deletion of the concrete object succeeded. So if nobody else touches the
token, a template that carries it was materialized since it last did not.
-/
namespace FleetSync

variable {k : Kind}

namespace Request

def writesConcrete : Request k → Bool
  | .concrete (.create _ _) => true
  | .concrete (.replace _ _) => true
  | .concrete (.replaceStatus _ _) => true
  | _ => false

def erasesConcrete : Request k → Bool
  | .concrete (.delete _) => true
  | _ => false

def draft? : Request k → Option (Key × Template k)
  | .template (.create ns t) => some (⟨ns, t.metadata.name.getD ""⟩, t)
  | .template (.replace key t) => some (key, t)
  | .template (.replaceStatus key t) => some (key, t)
  | _ => none

end Request

/-- The template that was fetched is placed on the cluster that was named, and its deletion was not
requested. -/
def FetchedHere (key : Key) (es : Dialogue k) : Prop :=
  ∃ t cluster rest, es = fetched key t :: named cluster :: rest ∧
    t.metadata.isDeleting = false ∧ t.placement.places cluster = true

/-- The deletion of the template that was fetched was requested, or the template is not placed on
the cluster that was named. -/
def FetchedGoing (key : Key) (es : Dialogue k) : Prop :=
  ∃ t rest, es = fetched key t :: rest ∧ (t.metadata.isDeleting = true ∨
    ∃ cluster rest', rest = named cluster :: rest' ∧ t.placement.places cluster = false)

def Synchronized (key : Key) (es : Dialogue k) : Prop :=
  ∃ t cluster done es₁ es₂, es = fetched key t :: named cluster :: (es₁ ++ es₂) ∧
    t.synchronization.Ends es₁ (.ok done)

/-- What a pass keeps to when it asks this after these exchanges. -/
structure Disciplined (key : Key) (es : Dialogue k) (q : Request k) : Prop where
  writes_here : q.writesConcrete = true → FetchedHere key es
  erases_going : q.erasesConcrete = true → FetchedGoing key es
  not_erase_after_write : q.erasesConcrete = true → ∀ e ∈ es, e.request.writesConcrete = false
  not_write_after_erase : q.writesConcrete = true → ∀ e ∈ es, e.request.erasesConcrete = false
  /-- The token is given only after a synchronization. -/
  ties_synchronized : ∀ address t, q.draft? = some (address, t) → t.isTied = true →
    ∀ e ∈ es, ∀ base, e.copy? = some base → base.isTied = false → Synchronized key es
  /-- The token is taken away only after the concrete object of the same address was deleted. -/
  releases_erased : ∀ address t, q.draft? = some (address, t) → t.isTied = false →
    ∀ e ∈ es, ∀ base, e.copy? = some base → base.isTied = true → erased address ∈ es
  /-- After a deletion that failed nothing more is asked. -/
  erased_of_mem : ∀ e ∈ es, e.request.erasesConcrete = true → ∃ address, e = erased address
  /-- All that is written to a template whose deletion was requested is the removal of the token. -/
  only_unties_deleting : ∀ t rest, es = fetched key t :: rest → t.metadata.isDeleting = true →
    ∀ address o, q.draft? = some (address, o) →
      t.isTied = true ∧ q = .template (.replace t.metadata.key t.untie)

/-! The token -/
namespace Template
variable {t : Template k}

@[simp] theorem isTied_tie : t.tie.isTied = true := by
  simp [tie, isTied, Metadata.hasFinalizer, Metadata.addFinalizer]

@[simp] theorem isTied_untie : t.untie.isTied = false := by
  simp [untie, isTied, Metadata.hasFinalizer, Metadata.dropFinalizer]

end Template

/-! Exchanges of the parts of a pass -/
section Parts
variable {t current base : Template k} {es : Dialogue k} {outcome : Except Failure SyncOutcome}
  {e : Exchange (Request k) Request.Answer}

theorem Syncs.copy? {key : Key} (h : Syncs key e.request) : e.copy? = none := by
  obtain ⟨q, r⟩ := e
  cases h <;> rfl

theorem Syncs.not_erases {key : Key} {q : Request k} (h : Syncs key q) :
    q.erasesConcrete = false := by
  cases h <;> rfl

theorem Template.Materializes.copy_of_mem (h : t.Materializes es current outcome) (he : e ∈ es)
    (hbase : e.copy? = some base) : base = current ∧ t.isTied = false ∧
      ∃ es₁ es₂ done, es = es₁ ++ es₂ ∧ t.synchronization.Ends es₁ (.ok done) := by
  have hsync {es' : Dialogue k} {r} (h : t.synchronization.Ends es' r) (he : e ∈ es') : False := by
    rw [(Template.syncs_of_mem h he).copy?] at hbase
    cases hbase
  cases h with
  | failed h => exact (hsync h he).elim
  | tied h htied => exact (hsync h he).elim
  | tieRefused h htied =>
    rcases List.mem_append.1 he with he | he
    · exact (hsync h he).elim
    · cases List.mem_singleton.1 he
      cases hbase
  | tieWritten h htied =>
    rename_i es' done
    rcases List.mem_append.1 he with he | he
    · exact (hsync h he).elim
    · cases List.mem_singleton.1 he
      cases hbase
      exact ⟨rfl, htied, es', _, done, rfl, h⟩

theorem Template.Materializes.not_erases (h : t.Materializes es current outcome) (he : e ∈ es) :
    e.request.erasesConcrete = false := by
  cases h with
  | failed h => exact (Template.syncs_of_mem h he).not_erases
  | tied h htied => exact (Template.syncs_of_mem h he).not_erases
  | tieRefused h htied =>
    rcases List.mem_append.1 he with he | he
    · exact (Template.syncs_of_mem h he).not_erases
    · cases List.mem_singleton.1 he
      rfl
  | tieWritten h htied =>
    rcases List.mem_append.1 he with he | he
    · exact (Template.syncs_of_mem h he).not_erases
    · cases List.mem_singleton.1 he
      rfl

end Parts

/-! Concrete objects -/
section Concretes
variable {key : Key} {es : Dialogue k} {q : Request k}

theorem Request.of_writesConcrete (h : q.writesConcrete = true) : ∃ call, q = .concrete call := by
  cases q with
  | concrete call => exact ⟨call, rfl⟩
  | template call => cases h
  | clusterName => cases h
  | now => cases h
  | pause d => cases h
  | report r => cases h

theorem Request.of_erasesConcrete (h : q.erasesConcrete = true) : ∃ call, q = .concrete call := by
  cases q with
  | concrete call => exact ⟨call, rfl⟩
  | template call => cases h
  | clusterName => cases h
  | now => cases h
  | pause d => cases h
  | report r => cases h

theorem writes_here_of_asks (hasks : (reconcile key).run.Asks es q)
    (hq : q.writesConcrete = true) : FetchedHere key es := by
  obtain ⟨call, rfl⟩ := Request.of_writesConcrete hq
  cases concreteCall_of_asks hasks with
  | sync hdel hplaced hsync => exact ⟨_, _, _, rfl, hdel, hplaced⟩
  | retire hdel => cases hq
  | prune hplaced => cases hq
  | pruneRestated hplaced => cases hq

theorem erases_going_of_asks (hasks : (reconcile key).run.Asks es q)
    (hq : q.erasesConcrete = true) : FetchedGoing key es := by
  obtain ⟨call, rfl⟩ := Request.of_erasesConcrete hq
  cases concreteCall_of_asks hasks with
  | sync hdel hplaced hsync =>
    rw [hsync.not_erases] at hq
    cases hq
  | retire hdel => exact ⟨_, _, rfl, .inl hdel⟩
  | prune hplaced => exact ⟨_, _, rfl, .inr ⟨_, _, rfl, hplaced⟩⟩
  | pruneRestated hplaced => exact ⟨_, _, rfl, .inr ⟨_, _, rfl, hplaced⟩⟩

theorem not_here_and_going {es' : Dialogue k} (hhere : FetchedHere key es)
    (hgoing : FetchedGoing key es') (h : es <+: es' ∨ es' <+: es) : False := by
  obtain ⟨t, cluster, rest, rfl, hdel, hplaced⟩ := hhere
  obtain ⟨t', rest', rfl, h'⟩ := hgoing
  have ht : t = t' := by
    rcases h with h | h
    · exact (Option.some.inj (congrArg Exchange.copy? (List.cons_prefix_cons.1 h).1))
    · exact (Option.some.inj (congrArg Exchange.copy? (List.cons_prefix_cons.1 h).1)).symm
  subst ht
  rcases h' with h' | ⟨cluster', rest', rfl, h'⟩
  · rw [hdel] at h'
    cases h'
  · have hcluster : (named cluster : Exchange (Request k) Request.Answer) = named cluster' := by
      rcases h with h | h
      · exact (List.cons_prefix_cons.1 (List.cons_prefix_cons.1 h).2).1
      · exact (List.cons_prefix_cons.1 (List.cons_prefix_cons.1 h).2).1.symm
    cases hcluster
    rw [hplaced] at h'
    cases h'

end Concretes

/-! Templates -/
section Templates
variable {key address : Key} {es : Dialogue k} {q : Request k} {t base : Template k}
  {e : Exchange (Request k) Request.Answer}

theorem Template.Releases.erased_of_mem (h : t.Releases es q) (he : e ∈ es) :
    ∃ address, e = erased address := by
  cases h with
  | erase => cases he
  | untie h => exact ⟨_, List.mem_singleton.1 he⟩

theorem PassAsks.erased_of_mem (h : PassAsks key es q) (he : e ∈ es)
    (herases : e.request.erasesConcrete = true) : ∃ address, e = erased address := by
  have hnot {b : Bool} (h : b = false) (h' : b = true) {P : Prop} : P := by
    rw [h] at h'
    cases h'
  cases h with
  | fetch => exact (List.not_mem_nil he).elim
  | retire hdel h =>
    rcases List.mem_cons.1 he with rfl | he
    · cases herases
    · exact h.erased_of_mem he
  | identify hdel =>
    cases List.mem_singleton.1 he
    cases herases
  | proceed hdel h =>
    rcases List.mem_cons.1 he with rfl | he
    · cases herases
    rcases List.mem_cons.1 he with rfl | he
    · cases herases
    cases h with
    | restate => exact (List.not_mem_nil he).elim
    | prune _ _ h => exact h.erased_of_mem he
    | pruneRestated _ _ h =>
      rcases List.mem_cons.1 he with rfl | he
      · cases herases
      · exact h.erased_of_mem he
    | synchronize hplaced h =>
      obtain ⟨next, h⟩ := h
      exact hnot (Template.syncs_of_mem h he).not_erases herases
    | tie hplaced h htied => exact hnot (Template.syncs_of_mem h he).not_erases herases
    | clock hplaced h => exact hnot ((Template.ends_materialize h).not_erases he) herases
    | record hplaced h hchanged =>
      rcases List.mem_append.1 he with he | he
      · exact hnot ((Template.ends_materialize h).not_erases he) herases
      · cases List.mem_singleton.1 he
        cases herases
    | report hplaced h hchanged =>
      rcases List.mem_append.1 he with he | he
      · exact hnot ((Template.ends_materialize h).not_erases he) herases
      · rcases List.mem_cons.1 he with rfl | he
        · cases herases
        · cases List.mem_singleton.1 he
          cases herases

/-- What a template write of a pass can be: the removal of the token after the deletion, or a write
that leaves the token of all copies as it is, or one that follows a synchronization. -/
inductive Moves (key : Key) (es : Dialogue k) (address : Key) (t : Template k) : Prop
  | releases (h : erased address ∈ es) (htied : t.isTied = false)
  | keeps (h : ∀ e ∈ es, ∀ base, e.copy? = some base → t.isTied = base.isTied)
  | ties (h : Synchronized key es)
      (hes : ∀ e ∈ es, ∀ base, e.copy? = some base → base.isTied = true → t.isTied = true)

theorem Moves.congr {t' : Template k} (h : Moves key es address t) (ht : t'.isTied = t.isTied) :
    Moves key es address t' := by
  cases h with
  | releases h htied => exact .releases h (ht.trans htied)
  | keeps h => exact .keeps fun e he base hbase => ht.trans (h e he base hbase)
  | ties h hes => exact .ties h fun e he base hbase hbase' => ht.trans (hes e he base hbase hbase')

theorem moves_of_ends_materialize {t' : Template k} {cluster : String}
    {outcome : Except Failure SyncOutcome} {now : Instant}
    (hends : t'.refreshed.materialize.Ends es (t, outcome)) :
    Moves key (fetched key t' :: named cluster :: (es ++ [timed now])) address t := by
  have hm := Template.ends_materialize hends
  have hcopies {e : Exchange (Request k) Request.Answer} {base : Template k}
      (he : e ∈ fetched key t' :: named cluster :: (es ++ [timed now]))
      (hbase : e.copy? = some base) : base = t' ∨ e ∈ es := by
    rcases List.mem_cons.1 he with rfl | he
    · exact .inl (Option.some.inj hbase).symm
    rcases List.mem_cons.1 he with rfl | he
    · cases hbase
    rcases List.mem_append.1 he with he | he
    · exact .inr he
    · cases List.mem_singleton.1 he
      cases hbase
  by_cases hgiven : ∃ e ∈ es, ∃ base, e.copy? = some base
  · obtain ⟨e, he, base, hbase⟩ := hgiven
    obtain ⟨rfl, htied, es₁, es₂, done, rfl, hsync⟩ := hm.copy_of_mem he hbase
    refine .ties ⟨t', cluster, done, es₁, es₂ ++ [timed now], by simp, hsync⟩ ?_
    intro e' he' base' hbase' htied'
    rcases hcopies he' hbase' with rfl | he'
    · rw [Template.isTied_refreshed] at htied
      rw [htied] at htied'
      cases htied'
    · obtain ⟨rfl, -⟩ := hm.copy_of_mem he' hbase'
      exact htied'
  · have hcurrent : t = t'.refreshed := by
      rcases hm.lastCopy? with ⟨-, h⟩ | h
      · exact h
      · obtain ⟨e, he, hc⟩ := List.exists_of_findSome?_eq_some h
        exact (hgiven ⟨e, List.mem_reverse.1 he, t, hc⟩).elim
    subst hcurrent
    apply Moves.keeps
    intro e' he' base' hbase'
    rcases hcopies he' hbase' with rfl | he'
    · exact base'.isTied_refreshed
    · exact (hgiven ⟨e', he', base', hbase'⟩).elim

theorem TemplateCall.moves {call : StoreCall (Template k)} (h : TemplateCall key es call)
    (hcall : (Request.template call).draft? = some (address, t)) : Moves key es address t := by
  cases h with
  | fetch => cases hcall
  | retire hdel htied =>
    cases hcall
    exact .releases (by simp) Template.isTied_untie
  | restate hdel hplaced =>
    cases hcall
    apply Moves.keeps
    intro e he base hbase
    rcases List.mem_cons.1 he with rfl | he
    · cases hbase
      rfl
    · cases List.mem_singleton.1 he
      cases hbase
  | prune hdel hplaced htied =>
    cases hcall
    exact .releases (by simp) Template.isTied_untie
  | pruneRestated hdel hplaced htied =>
    cases hcall
    exact .releases (by simp) Template.isTied_untie
  | @tie t' cluster es done hdel hplaced hsync htied =>
    cases hcall
    exact .ties ⟨t', cluster, done, es, [], by simp, hsync⟩ fun _ _ _ _ _ => Template.isTied_tie
  | @record t' current cluster es outcome now hdel hplaced hends =>
    cases hcall
    exact (moves_of_ends_materialize hends).congr rfl

theorem TemplateCall.only_unties_deleting {call : StoreCall (Template k)} {rest : Dialogue k}
    {o : Template k} (h : TemplateCall key (fetched key t :: rest) call)
    (hdeleting : t.metadata.isDeleting = true)
    (hcall : (Request.template call).draft? = some (address, o)) :
    t.isTied = true ∧ call = .replace t.metadata.key t.untie := by
  have hnot {P : Prop} (hdel : t.metadata.isDeleting = false) : P := by
    rw [hdeleting] at hdel
    cases hdel
  cases h with
  | retire hdel htied => exact ⟨htied, rfl⟩
  | restate hdel hplaced => exact hnot hdel
  | prune hdel hplaced htied => exact hnot hdel
  | pruneRestated hdel hplaced htied => exact hnot hdel
  | tie hdel hplaced hsync htied => exact hnot hdel
  | record hdel hplaced hends => exact hnot hdel

theorem Request.of_draft? (h : q.draft? = some (address, t)) : ∃ call, q = .template call := by
  cases q with
  | template call => exact ⟨call, rfl⟩
  | concrete call => cases h
  | clusterName => cases h
  | now => cases h
  | pause d => cases h
  | report r => cases h

theorem moves_of_asks (hasks : (reconcile key).run.Asks es q)
    (hq : q.draft? = some (address, t)) : Moves key es address t := by
  obtain ⟨call, rfl⟩ := Request.of_draft? hq
  exact (templateCall_of_asks hasks).moves hq

end Templates

theorem disciplined_of_asks {key : Key} {es : Dialogue k} {q : Request k}
    (hasks : (reconcile key).run.Asks es q) : Disciplined key es q where
  writes_here := writes_here_of_asks hasks
  erases_going := erases_going_of_asks hasks
  not_erase_after_write hq e he := by
    obtain ⟨es₁, es₂, rfl⟩ := List.append_of_mem he
    obtain ⟨next, hafter⟩ := hasks
    have hgoing := erases_going_of_asks ⟨next, hafter⟩ hq
    rw [Bool.eq_false_iff]
    intro hwrites
    have hhere := writes_here_of_asks hafter.asks_of_append hwrites
    exact not_here_and_going hhere hgoing (.inl (List.prefix_append ..))
  not_write_after_erase hq e he := by
    obtain ⟨es₁, es₂, rfl⟩ := List.append_of_mem he
    obtain ⟨next, hafter⟩ := hasks
    have hhere := writes_here_of_asks ⟨next, hafter⟩ hq
    rw [Bool.eq_false_iff]
    intro herases
    have hgoing := erases_going_of_asks hafter.asks_of_append herases
    exact not_here_and_going hhere hgoing (.inr (List.prefix_append ..))
  ties_synchronized address t hq htied e he base hbase hbase' := by
    cases moves_of_asks hasks hq with
    | releases h htied' =>
      rw [htied] at htied'
      cases htied'
    | keeps h =>
      rw [h e he base hbase, hbase'] at htied
      cases htied
    | ties h hes => exact h
  releases_erased address t hq htied e he base hbase hbase' := by
    cases moves_of_asks hasks hq with
    | releases h htied' => exact h
    | keeps h =>
      rw [h e he base hbase, hbase'] at htied
      cases htied
    | ties h hes =>
      rw [hes e he base hbase hbase'] at htied
      cases htied
  erased_of_mem e he := (asks_reconcile hasks).erased_of_mem he
  only_unties_deleting t rest hes hdel address o hq := by
    subst hes
    obtain ⟨call, rfl⟩ := Request.of_draft? hq
    obtain ⟨htied, rfl⟩ := (templateCall_of_asks hasks).only_unties_deleting hdel hq
    exact ⟨htied, rfl⟩

/-! Runs -/

/-- Others leave the token of a template as it is, and give none to a new one. -/
def KeepsToken (old : Option (Template k)) (new : Template k) : Prop :=
  new.isTied = old.any (·.isTied)

namespace Event

/-- A pass gave the token to the template at an address that it had fetched from there, right after
its own synchronization of the concrete object had succeeded. -/
inductive Materializes (key : Key) : Event k → Prop
  | tie {passKey : Key} {t stored : Template k} {cluster : String} {es : Dialogue k}
      {done : SyncOutcome} (hkey : t.metadata.key = key) (hdel : t.metadata.isDeleting = false)
      (hplaced : t.placement.places cluster = true) (hsync : t.synchronization.Ends es (.ok done)) :
      Materializes key (.exchange (.pass passKey) (fetched passKey t :: named cluster :: es)
        (replaced t.refreshed.tie (.ok stored)))

def Unties (key : Key) : Event k → Prop
  | .exchange _ _ e => ∃ t, e.stored? = some (key, t) ∧ t.isTied = false
  | .interference _ after => ∀ t, after.templates.find? key = some t → t.isTied = false

end Event

/-- The template at an address was materialized and given the token, which was not taken away
since. -/
def TiedSince (key : Key) (h : List (Event k)) : Prop :=
  ∃ newer ev older, h = newer ++ ev :: older ∧ ev.Materializes key ∧
    ∀ ev' ∈ newer, ¬ev'.Unties key

theorem TiedSince.cons {key : Key} {h : List (Event k)} {ev : Event k} (hsince : TiedSince key h)
    (hev : ¬ev.Unties key) : TiedSince key (ev :: h) := by
  obtain ⟨newer, ev', older, rfl, hev', hnewer⟩ := hsince
  refine ⟨ev :: newer, ev', older, rfl, hev', ?_⟩
  intro ev'' hev''
  rcases List.mem_cons.1 hev'' with rfl | hev''
  · exact hev
  · exact hnewer ev'' hev''

section Revision
variable {base : Template k} {call : StoreCall (Template k)} {a : Activity k} {past : Dialogue k}

theorem isTied_assign (s : Store (Template k)) (key : Key) (t : Template k) :
    (s.assign key t).1.isTied = t.isTied := rfl

theorem Template.Drafts.eq_replace_of_isTied_ne {s : Store (Template k)} (hdraft : base.Drafts call)
    (hne : (s.revision call base).isTied ≠ base.isTied) :
    ∃ key o, call = .replace key o ∧ o.isTied = (s.revision call base).isTied := by
  cases call with
  | get key => exact (hne rfl).elim
  | create ns o => exact (hne rfl).elim
  | delete key => exact (hne rfl).elim
  | replace key o =>
    have hmetadata : (s.revision (.replace key o) base).metadata = o.metadata :=
      metadata_replacement s base o
    exact ⟨key, o, rfl, congrArg (·.hasFinalizer k.finalizer) hmetadata.symm⟩
  | replaceStatus key o =>
    have hmetadata : (s.revision (.replaceStatus key o) base).metadata = base.metadata :=
      hdraft.metadata_restatement s
    exact (hne (congrArg (·.hasFinalizer k.finalizer) hmetadata)).elim

theorem Event.materializes_of_tied {s : Store (Template k)} {r : call.Answer} {stored : Template k}
    (hasks : a.task.Asks past (.template call)) (hdraft : base.Drafts call)
    (hbase : base.isTied = false) (htied : (s.revision call base).isTied = true)
    (hstored : Exchange.stored? ⟨.template call, r⟩ = some (call.key, stored)) :
    (Event.exchange a past ⟨.template call, r⟩).Materializes call.key := by
  have hne : (s.revision call base).isTied ≠ base.isTied := by
    rw [hbase, htied]
    exact Bool.noConfusion
  obtain ⟨key, t, rfl, ht⟩ := hdraft.eq_replace_of_isTied_ne hne
  rw [htied] at ht
  have hnot {t' : Template k} {P : Prop} (h : t'.untie.isTied = true) : P := by
    rw [Template.isTied_untie] at h
    cases h
  cases a with
  | record report =>
    rcases asks_recordReport hasks with h | ⟨d, h⟩ | ⟨earlier, t', -, -, h⟩ <;> cases h
  | pass passKey =>
    cases templateCall_of_asks hasks with
    | retire hdel htied' => exact hnot ht
    | prune hdel hplaced htied' => exact hnot ht
    | pruneRestated hdel hplaced htied' => exact hnot ht
    | tie hdel hplaced hsync htied' =>
      cases r with
      | error f => cases hstored
      | ok stored' => exact .tie rfl hdel hplaced hsync

end Revision

section Run
variable {w : World k} {s : System k} {h : List (Event k)} {key : Key} {t : Template k}

theorem Run.tiedSince (hrun : Run KeepsToken (.atRest w) h s) (hw : w.templates.Versioned)
    (hfree : ∀ key t, w.templates.find? key = some t → t.isTied = false)
    (ht : s.world.templates.find? key = some t) (htied : t.isTied = true) : TiedSince key h := by
  induction hrun generalizing key t with
  | init =>
    rw [hfree key t ht] at htied
    cases htied
  | start a hrun ih => exact ih ht htied
  | @exchange h s w' l₁ l₂ a past q next r hrun hthreads hanswer ih =>
    have hs := hrun.sound (System.sound_atRest hw)
    have hthread : (⟨a, past, .ask q next⟩ : Thread k) ∈ s.threads := by simp [hthreads]
    rcases hs.overwrites_at hthread hanswer key with ⟨hsame, hnot⟩ |
      ⟨call, base, rfl, rfl, -, hdraft, hfind, hstored, hw'⟩
    · refine (ih (hsame.symm.trans ht) htied).cons ?_
      rintro ⟨t', ht', -⟩
      exact hnot t' ht'
    · cases hw'.symm.trans ht
      rw [isTied_assign] at htied
      cases hbase : base.isTied with
      | false =>
        refine ⟨[], _, h, rfl, ?_, fun _ h => (List.not_mem_nil h).elim⟩
        exact Event.materializes_of_tied ⟨next, hs.after _ hthread⟩ hdraft hbase htied hstored
      | true =>
        refine (ih hfind hbase).cons ?_
        rintro ⟨t', ht', hfree'⟩
        cases hstored.symm.trans ht'
        rw [isTied_assign, htied] at hfree'
        cases hfree'
  | @interfere h s w' hrun hmeddles ih =>
    have hnot : ¬(Event.interference s.world w').Unties key := by
      intro hfree'
      rw [hfree' t ht] at htied
      cases htied
    refine TiedSince.cons ?_ hnot
    rcases hmeddles.find? ht with hsame | ⟨o, hkeeps, rfl⟩
    · exact ih hsame htied
    · rw [isTied_assign, hkeeps] at htied
      obtain ⟨old, hold, hold'⟩ := (Option.any_eq_true _ _).1 htied
      exact ih hold hold'

end Run

/-- A pass keeps to the placement and to the token's order whatever is answered to it. Hence in a
run in which nobody else touches the token, a stored template that carries it was materialized
since it last did not. -/
theorem discipline_of_passes :
    (∀ (key : Key) (es : Dialogue k) (q : Request k),
      (reconcile key).run.Asks es q → Disciplined key es q) ∧
    ∀ (w : World k) (h : List (Event k)) (s : System k), Run KeepsToken (.atRest w) h s →
      w.templates.Versioned →
      (∀ key t, w.templates.find? key = some t → t.isTied = false) →
      ∀ key t, s.world.templates.find? key = some t → t.isTied = true → TiedSince key h :=
  ⟨fun _ _ _ hasks => disciplined_of_asks hasks,
    fun _ _ _ hrun hw hfree _ _ ht htied => hrun.tiedSince hw hfree ht htied⟩

def untiedSettings : Template .configMap :=
  ⟨{ name := some "settings", ns := some "apps" }, ⟨default, none, none, none⟩, ⟨["east"]⟩, none⟩

/-- A pass of the cluster over this template alone materializes it, and it carries the token. -/
theorem discipline_of_a_first_pass :
    Disciplined ⟨"apps", "settings"⟩ [fetched ⟨"apps", "settings"⟩ untiedSettings] .clusterName ∧
    ∃ h s t, Run KeepsToken
        (.atRest ⟨((Store.empty false).put untiedSettings).2, .empty false⟩) h s ∧
      s.world.templates.find? ⟨"apps", "settings"⟩ = some t ∧ t.isTied = true ∧
      TiedSince ⟨"apps", "settings"⟩ h := by
  obtain ⟨hdiscipline, hruns⟩ := discipline_of_passes (k := .configMap)
  refine ⟨hdiscipline _ _ _ ⟨_, _, rfl, Program.after_nil.2 rfl⟩, ?_⟩
  have hfree : ∀ key t, ((Store.empty false).put untiedSettings).2.find? key = some t →
      t.isTied = false := by
    intro key t ht
    unfold Store.put at ht
    rw [Store.find?_assign] at ht
    split at ht
    · cases ht
      decide +kernel
    · cases ht
  have hstart : Run KeepsToken
      (.atRest ⟨((Store.empty false).put untiedSettings).2, .empty false⟩) _ _ :=
    .start (.pass ⟨"apps", "settings"⟩) .init
  obtain ⟨h, past, -, hrun⟩ := hstart.alone "east" default
  refine ⟨_, _, _, hrun, rfl, ?_, ?_⟩
  · decide +kernel
  · exact hruns _ _ _ hrun ((Store.versioned_empty false).assign _ _) hfree _ _ rfl
      (by decide +kernel)

end FleetSync
