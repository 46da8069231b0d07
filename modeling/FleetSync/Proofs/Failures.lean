import FleetSync.Proofs.Convergence

/-!
# Failures are recorded and not swallowed

A pass ends well only if each of its calls that failed was tried again by the synchronization, which
succeeded in the end, or if what ended the pass says that the template is gone. A failure to
synchronize or to write the token is what the pass fails with. It is in the stored status then, if
the status could be written.
-/
namespace FleetSync

variable {k : Kind}

/-! Programs that end with the first of their calls that fails -/
section Frank
variable {α β : Type}

/-- A call that fails ends the program, which fails with just that. -/
def Frank (x : Attempt k α) : Prop :=
  ∀ before e after r f, x.run.Ends (before ++ e :: after) r → e.failure? = some f →
    after = [] ∧ r = .error f

def Candid (x : Attempt k α) : Prop :=
  ∀ es a, x.run.Ends es (.ok a) → ∀ e ∈ es, e.failure? = none

theorem Frank.candid {x : Attempt k α} (hx : Frank x) : Candid x := by
  intro es a h e he
  obtain ⟨before, after, rfl⟩ := List.append_of_mem he
  cases hf : e.failure? with
  | none => rfl
  | some f => cases (hx before e after _ f h hf).2

theorem frank_pure (a : α) : Frank (pure a : Attempt k α) := by
  intro before e after r f h he
  obtain ⟨hes, -⟩ := Program.ends_done.1 h
  simp at hes

theorem Frank.bind {x : Attempt k α} {g : α → Attempt k β} (hx : Frank x)
    (hg : ∀ a, Frank (g a)) : Frank (x >>= g) := by
  intro before e after r f h he
  rcases Program.ends_attempt_bind.1 h with ⟨f', h₁, rfl⟩ | ⟨es₁, es₂, a, hes, h₁, h₂⟩
  · obtain ⟨hafter, hf⟩ := hx before e after _ f h₁ he
    cases hf
    exact ⟨hafter, rfl⟩
  · rcases split_of_append_eq hes.symm with ⟨rest, rfl, rfl⟩ | ⟨start, rfl, rfl⟩
    · cases (hx before e rest _ f h₁ he).2
    · exact hg a start e after r f h₂ he

theorem frank_of_ends {x : Attempt k α} (h : ∀ es r, x.run.Ends es r →
    ∃ e, es = [e] ∧ ∀ f, e.failure? = some f → r = .error f) : Frank x := by
  intro before e after r f hends he
  obtain ⟨e', hes, hr⟩ := h _ _ hends
  obtain ⟨rfl, rfl, rfl⟩ := eq_of_append_cons_eq_singleton hes
  exact ⟨rfl, hr f he⟩

theorem frank_askTemplates (call : StoreCall (Template k)) : Frank (askTemplates call) := by
  apply frank_of_ends
  intro es r h
  refine ⟨_, Program.ends_send.1 h, fun f hf => ?_⟩
  cases r with
  | ok a => cases hf
  | error f' => exact congrArg _ (Option.some.inj hf)

theorem frank_askConcretes (call : StoreCall (Concrete k)) : Frank (askConcretes call) := by
  apply frank_of_ends
  intro es r h
  refine ⟨_, Program.ends_send.1 h, fun f hf => ?_⟩
  cases r with
  | ok a => cases hf
  | error f' => exact congrArg _ (Option.some.inj hf)

theorem frank_sendReport (r : Report) :
    Frank (liftM (sendReport r : Task k Unit) : Attempt k Unit) := by
  apply frank_of_ends
  intro es a h
  obtain ⟨u, hu, -⟩ := Program.ends_map.1 h
  exact ⟨_, Program.ends_send.1 hu, nofun⟩

variable {t : Template k}

theorem frank_release (token : String) : Frank (t.release token) := by
  apply (frank_askConcretes _).bind
  intro _
  refine Frank.bind ?_ fun _ => frank_pure _
  unfold Template.removeFinalizer
  split
  · rw [← bind_pure_comp]
    exact (frank_askTemplates _).bind fun _ => frank_pure _
  · exact frank_pure _

theorem frank_prune (previous : ResourceState) : Frank (t.prune previous) := by
  have hrest (current : Template k) :
      Frank (do let _ ← current.release k.finalizer : Attempt k Unit) :=
    (frank_release _).bind fun _ => frank_pure _
  unfold Template.prune
  dsimp only
  split
  · exact (frank_pure _).bind hrest
  · exact (frank_askTemplates _).bind hrest

theorem frank_recordOutcome (persisted : FleetStatus) (cluster : String) (c : Condition) :
    Frank (t.recordOutcome persisted cluster c) := by
  unfold Template.recordOutcome
  dsimp only
  split
  · exact frank_pure _
  · exact (frank_askTemplates _).bind fun stored =>
      (frank_sendReport _).bind fun _ => frank_pure _

end Frank

/-! Failures that are absorbed -/

/-- What an attempt to synchronize fails with if this request of it fails. -/
def attemptFailure (key : Key) (q : Request k) (f : Failure) : Failure :=
  match q with
  | .concrete (.replace _ _) => vanished (k := k) key f
  | _ => f

section Absorbed
variable {t : Template k} {es early late : Dialogue k} {e : Exchange (Request k) Request.Answer}
  {key : Key} {mutation : Mutation k} {f : Failure}

theorem SyncEnds.fails {r : Except Failure SyncOutcome} (h : SyncEnds key mutation es r)
    (hes : es = early ++ e :: late) (he : e.failure? = some f) :
    late = [] ∧ r = .error (attemptFailure key e.request f) := by
  have hlast {a b : Exchange (Request k) Request.Answer} (ha : a.failure? = none)
      (h : [a, b] = early ++ e :: late) : late = [] ∧ e = b := by
    rcases early with _ | ⟨x, _ | ⟨y, early⟩⟩
    · cases h
      cases ha.symm.trans he
    · cases h
      exact ⟨rfl, rfl⟩
    · simp at h
  cases h with
  | unsighted f' =>
    obtain ⟨-, rfl, hlate⟩ := eq_of_append_cons_eq_singleton hes.symm
    cases he
    exact ⟨hlate, rfl⟩
  | @refused found f' hm =>
    obtain ⟨-, rfl, -⟩ := eq_of_append_cons_eq_singleton hes.symm
    cases he
  | unchanged hm hsame =>
    obtain ⟨-, rfl, -⟩ := eq_of_append_cons_eq_singleton hes.symm
    cases he
  | created hm answer =>
    obtain ⟨hlate, rfl⟩ := hlast rfl hes
    cases answer with
    | ok c => cases he
    | error f' =>
      cases he
      exact ⟨hlate, rfl⟩
  | updated hm hne answer =>
    obtain ⟨hlate, rfl⟩ := hlast rfl hes
    cases answer with
    | ok c => cases he
    | error f' =>
      cases he
      exact ⟨hlate, rfl⟩

theorem Repeated.retried_of_failure {retryable : Failure → Bool} {n : Nat}
    (h : Repeated retryable (syncOnce key mutation).run n es) (hes : es = early ++ e :: late)
    (he : e.failure? = some f) : retryable (attemptFailure key e.request f) = true ∧
      ∃ d m late', late = paused d :: late' ∧
        Repeated retryable (syncOnce key mutation).run m late' := by
  induction h generalizing early with
  | zero => simp at hes
  | @succ n es₁ es₂ f' d hends hf hrest ih =>
    rcases split_of_append_eq hes with ⟨rest, rfl, rfl⟩ | ⟨start, -, hrest'⟩
    · obtain ⟨rfl, hf'⟩ := (ends_syncOnce hends).fails rfl he
      exact ⟨Except.error.inj hf' ▸ hf, d, n, es₂, rfl, hrest⟩
    · rcases start with _ | ⟨y, start⟩
      · cases hrest'
        cases he
      · exact ih (List.cons.inj hrest').2

theorem paused_of_failure {done : SyncOutcome} (h : t.synchronization.Ends es (.ok done))
    (hes : es = early ++ e :: late) (he : e.failure? = some f) :
    ∃ d late', late = paused d :: late' := by
  obtain ⟨n, -, earlier, es', rfl, hrepeated, hlast⟩ := ends_retryConflicts h
  rcases split_of_append_eq hes with ⟨rest, rfl, rfl⟩ | ⟨start, -, hes'⟩
  · obtain ⟨-, d, -, late', rfl, -⟩ := hrepeated.retried_of_failure rfl he
    exact ⟨d, late' ++ es', rfl⟩
  · obtain ⟨-, hf⟩ := (ends_syncOnce hlast).fails hes' he
    cases hf

end Absorbed

/-- A call that failed belongs to a synchronization that tried again after a pause and succeeded in
the end. -/
def Absorbed (key : Key) (before : Dialogue k) (e : Exchange (Request k) Request.Answer)
    (after : Dialogue k) : Prop :=
  ∃ t cluster early d late rest done, before = fetched key t :: named cluster :: early ∧
    after = paused d :: (late ++ rest) ∧
    t.synchronization.Ends (early ++ e :: paused d :: late) (.ok done)

section Success
variable {t : Template k} {es : Dialogue k} {key : Key}

/-- A pass over a placed template succeeds only if its synchronization does, and if no call fails
after that. -/
theorem Template.ends_deploy_ok {persisted : FleetStatus} {cluster : String}
    (h : (t.deploy persisted cluster).run.Ends es (.ok ())) :
    ∃ es₁ es₂ done, es = es₁ ++ es₂ ∧ t.synchronization.Ends es₁ (.ok done) ∧
      ∀ e ∈ es₂, e.failure? = none := by
  obtain ⟨es₁, es₂, current, outcome, now, recorded, rfl, hends, hrecorded, hr⟩ :=
    Template.ends_deploy h
  rcases hr with ⟨f, -, hr⟩ | ⟨⟨stored, rfl⟩, hr⟩
  · cases hr
  have hlate : ∀ e ∈ timed now :: es₂, e.failure? = none := by
    intro e he
    rcases List.mem_cons.1 he with rfl | he
    · rfl
    · exact (frank_recordOutcome _ _ _).candid es₂ stored hrecorded e he
  cases Template.ends_materialize hends with
  | failed hsync => cases hr
  | tied hsync htied => exact ⟨es₁, timed now :: es₂, _, rfl, hsync, hlate⟩
  | tieRefused hsync htied => cases hr
  | @tieWritten es done _ hsync htied =>
    refine ⟨es, replaced t.tie (.ok current) :: timed now :: es₂, done, by simp, hsync, ?_⟩
    intro e he
    rcases List.mem_cons.1 he with rfl | he
    · rfl
    · exact hlate e he

theorem Template.ends_process_ok (h : t.process.run.Ends es (.ok ())) :
    (∀ e ∈ es, e.failure? = none) ∨
      ∃ cluster es₁ es₂ done, es = named cluster :: (es₁ ++ es₂) ∧
        t.synchronization.Ends es₁ (.ok done) ∧ ∀ e ∈ es₂, e.failure? = none := by
  unfold Template.process at h
  split at h
  · exact .inl (((frank_release _).bind fun _ => frank_pure _).candid es () h)
  · rcases Program.ends_attempt_bind.1 h with ⟨f, -, h⟩ | ⟨es₁, es₂, cluster, rfl, h₁, h₂⟩
    · cases h
    · cases Program.ends_send.1 h₁
      dsimp only at h₂
      split at h₂
      · obtain ⟨es₃, es₄, done, rfl, hsync, hlate⟩ := Template.ends_deploy_ok h₂
        exact .inr ⟨cluster, es₃, es₄, done, rfl, hsync, hlate⟩
      · left
        intro e he
        rcases List.mem_append.1 he with he | he
        · cases List.mem_singleton.1 he
          rfl
        · exact (frank_prune _).candid es₂ () h₂ e he

theorem Template.absorbed_of_ends_process {before after : Dialogue k}
    {e : Exchange (Request k) Request.Answer}
    (h : t.process.run.Ends (before ++ e :: after) (.ok ())) (he : e.failure? ≠ none) :
    Absorbed key (fetched key t :: before) e after := by
  rcases Template.ends_process_ok h with hnone | ⟨cluster, es₁, es₂, done, hes, hsync, hlate⟩
  · exact (he (hnone e (by simp))).elim
  · rcases before with _ | ⟨x, early⟩
    · obtain ⟨rfl, -⟩ := List.cons.inj hes
      exact (he rfl).elim
    · obtain ⟨rfl, htail⟩ := List.cons.inj hes
      rcases split_of_append_eq htail.symm with ⟨rest, rfl, rfl⟩ | ⟨start, -, rfl⟩
      · obtain ⟨f, hf⟩ := Option.ne_none_iff_exists'.1 he
        obtain ⟨d, late, rfl⟩ := paused_of_failure hsync rfl hf
        exact ⟨t, cluster, early, d, late, es₂, done, rfl, by simp, hsync⟩
      · exact (he (hlate e (by simp))).elim

theorem isTemplateGone_iff {f : Failure} :
    isTemplateGone k f = true ↔ ∃ ns name, f = .notFound k.template.kind ns name := by
  cases f <;> simp [isTemplateGone]

/-- How the pass over the template at an address ends. -/
inductive PassEnds (key : Key) : Dialogue k → Except Failure Unit → Prop
  | unread (f : Failure) : PassEnds key [⟨.template (.get key), .error f⟩] (.error f)
  | absent : PassEnds key [⟨.template (.get key), .ok none⟩] (.ok ())
  | processed (t : Template k) (es : Dialogue k) (h : t.process.run.Ends es (.ok ())) :
      PassEnds key (fetched key t :: es) (.ok ())
  | gone (t : Template k) (es : Dialogue k) (ns name : String)
      (h : t.process.run.Ends es (.error (.notFound k.template.kind ns name))) :
      PassEnds key (fetched key t :: es) (.ok ())
  | failed (t : Template k) (es : Dialogue k) (f : Failure) (h : t.process.run.Ends es (.error f))
      (hf : isTemplateGone k f = false) : PassEnds key (fetched key t :: es) (.error f)

theorem passEnds_of_ends {r : Except Failure Unit} (h : (reconcile key).run.Ends es r) :
    PassEnds key es r := by
  unfold reconcile at h
  rcases Program.ends_attempt_bind.1 h with ⟨f, h₁, rfl⟩ | ⟨es₁, es₂, found, rfl, h₁, h₂⟩
  · cases Program.ends_send.1 h₁
    exact .unread f
  · cases Program.ends_send.1 h₁
    cases found with
    | none =>
      obtain ⟨rfl, rfl⟩ := Program.ends_done.1 h₂
      exact .absent
    | some t =>
      rcases Program.ends_tryCatch.1 h₂ with ⟨u, h₃, rfl⟩ | ⟨es₃, es₄, f, rfl, h₃, h₄⟩
      · exact .processed t es₂ h₃
      · split at h₄
        · rename_i hgone
          obtain ⟨rfl, rfl⟩ := Program.ends_done.1 h₄
          obtain ⟨ns, name, rfl⟩ := isTemplateGone_iff.1 hgone
          simpa [fetched] using PassEnds.gone t es₃ ns name h₃
        · rename_i hgone
          obtain ⟨rfl, rfl⟩ := Program.ends_done.1 h₄
          simpa [fetched] using PassEnds.failed t es₃ f h₃ (Bool.eq_false_iff.2 hgone)

/-- How a pass ends: it fails, or each call that failed was absorbed, or the template is gone. -/
theorem ends_reconcile {r : Except Failure Unit} (h : (reconcile key).run.Ends es r) :
    (∃ f, r = .error f) ∨
      (∀ before e after, es = before ++ e :: after → e.failure? ≠ none →
        Absorbed key before e after) ∨
      ∃ (t : Template k) (es' : Dialogue k) (ns name : String), es = fetched key t :: es' ∧
        t.process.run.Ends es' (.error (.notFound k.template.kind ns name)) := by
  cases passEnds_of_ends h with
  | unread f => exact .inl ⟨f, rfl⟩
  | absent =>
    refine .inr (.inl ?_)
    intro before e after hes he
    obtain ⟨-, rfl, -⟩ := eq_of_append_cons_eq_singleton hes.symm
    exact (he rfl).elim
  | processed t es hprocess =>
    refine .inr (.inl ?_)
    intro before e after hes he
    rcases before with _ | ⟨x, early⟩
    · obtain ⟨rfl, -⟩ := List.cons.inj hes
      exact (he rfl).elim
    · obtain ⟨rfl, rfl⟩ := List.cons.inj hes
      exact Template.absorbed_of_ends_process hprocess he
  | gone t es ns name hprocess => exact .inr (.inr ⟨t, es, ns, name, rfl, hprocess⟩)
  | failed t es f hprocess hf => exact .inl ⟨f, rfl⟩

end Success

/-! Recorded failures -/

/-- The store changes by the calls of a dialogue and by nothing else. -/
inductive Store.Follows : Store (Template k) → Dialogue k → Store (Template k) → Prop
  | nil (s : Store (Template k)) : Follows s [] s
  | call {s s' s'' : Store (Template k)} {call : StoreCall (Template k)} {r : call.Answer}
      {es : Dialogue k} (h : s.Serves call r s') (hrest : Follows s' es s'') :
      Follows s (⟨.template call, r⟩ :: es) s''
  | other {s s' : Store (Template k)} {e : Exchange (Request k) Request.Answer} {es : Dialogue k}
      (h : ∀ call, e.request ≠ .template call) (hrest : Follows s es s') : Follows s (e :: es) s'

/-- The synchronization of a template, or the writing of its token after that, fails. -/
inductive Template.FailsWith (t : Template k) : Dialogue k → Failure → Prop
  | synchronization {es e} (h : t.synchronization.Ends es (.error e)) : FailsWith t es e
  | token {es done} (e : Failure) (h : t.synchronization.Ends es (.ok done))
      (htied : t.isTied = false) : FailsWith t (es ++ [replaced t.refreshed.tie (.error e)]) e

/-- The template `after` a pass blames a failure on a cluster, and it has the finalizers that it had
`before`. -/
structure Blames (cluster : String) (f : Failure) (before after : Template k) : Prop where
  entry : ∃ entry, after.entryOf? cluster = some entry ∧ entry.state = .failed ∧
    entry.message = some f.message
  state : after.currentStatus.state = .failed
  condition : ∃ c, after.currentStatus.latest? .deployFailed = some c ∧ c.status = .isTrue ∧
    c.message = f.message
  finalizers : after.metadata.finalizers = before.metadata.finalizers

section Blames
variable {t t' : Template k} {es : Dialogue k} {f : Failure} {s s' : Store (Template k)}

theorem blames_of_record {cluster : String} (now : Instant)
    (hplaced : t.placement.places cluster = true)
    (hstatus : t'.currentStatus = t.currentStatus.record t.placement cluster
      (.ofOutcome k.concrete.kind (.error f) now))
    (hfinalizers : t'.metadata.finalizers = t.metadata.finalizers) : Blames cluster f t t' := by
  have hentry := FleetStatus.get?_setCluster_self
    (t.currentStatus.appendCondition (.ofOutcome k.concrete.kind (.error f) now)) cluster
    (.ofCondition (.ofOutcome k.concrete.kind (.error f) now))
  constructor
  · unfold Template.entryOf?
    rw [hstatus]
    exact hentry
  · rw [hstatus]
    refine FleetStatus.effectiveState_eq_failed_iff.2
      ⟨cluster, (Placement.places_iff.1 hplaced).2, ?_⟩
    obtain ⟨e, he, hstate, -⟩ := hentry
    unfold FleetStatus.stateOf
    rw [he]
    exact hstate
  · obtain ⟨c, hc, hsame⟩ := t.currentStatus.latest?_appendCondition
      (.ofOutcome k.concrete.kind (.error f) now)
    obtain ⟨-, hisTrue, hmessage⟩ := Condition.sameOutcome_iff.1 hsame
    rw [hstatus]
    exact ⟨c, FleetStatus.latest?_record.trans hc, hisTrue, hmessage⟩
  · exact hfinalizers

theorem Store.Follows.append {es₁ es₂ : Dialogue k} (h : s.Follows (es₁ ++ es₂) s') :
    ∃ s₁, s.Follows es₁ s₁ ∧ s₁.Follows es₂ s' := by
  induction es₁ generalizing s with
  | nil => exact ⟨s, .nil s, h⟩
  | cons e es₁ ih =>
    cases h with
    | call h hrest =>
      obtain ⟨s₁, h₁, h₂⟩ := ih hrest
      exact ⟨s₁, .call h h₁, h₂⟩
    | other h hrest =>
      obtain ⟨s₁, h₁, h₂⟩ := ih hrest
      exact ⟨s₁, .other h h₁, h₂⟩

theorem Store.Follows.serves {call : StoreCall (Template k)} {r : call.Answer}
    (h : s.Follows (⟨.template call, r⟩ :: es) s') :
    ∃ s₁, s.Serves call r s₁ ∧ s₁.Follows es s' := by
  cases h with
  | call h hrest => exact ⟨_, h, hrest⟩
  | other h hrest => exact (h call rfl).elim

theorem Store.Follows.tail {e : Exchange (Request k) Request.Answer}
    (h : s.Follows (e :: es) s') (he : ∀ call, e.request ≠ .template call) : s.Follows es s' := by
  cases h with
  | call h hrest => exact (he _ rfl).elim
  | other h hrest => exact hrest

theorem Store.Follows.eq_of_forall (h : s.Follows es s')
    (hes : ∀ e ∈ es, ∀ call, e.request ≠ .template call) : s' = s := by
  induction h with
  | nil s => rfl
  | call h hrest ih => exact (hes _ List.mem_cons_self _ rfl).elim
  | other h hrest ih => exact ih fun e he => hes e (List.mem_cons_of_mem _ he)

theorem Template.FailsWith.store_eq (h : t.FailsWith es f) (hfollows : s.Follows es s') :
    s' = s := by
  have hsync {es r} {s' : Store (Template k)} (h : t.synchronization.Ends es r)
      (hfollows : s.Follows es s') : s' = s := by
    refine hfollows.eq_of_forall ?_
    rintro e he call hcall
    have hsyncs := Template.syncs_of_mem h he
    rw [hcall] at hsyncs
    cases hsyncs
  cases h with
  | synchronization h => exact hsync h hfollows
  | token f h htied =>
    obtain ⟨s₁, h₁, h₂⟩ := hfollows.append
    obtain ⟨s₂, h₂, h₃⟩ := h₂.serves
    cases hsync h h₁
    cases h₃
    cases h₂.served with
    | failed call f => rfl

theorem Template.FailsWith.ends_materialize (h : t.FailsWith es f) :
    t.refreshed.materialize.Ends es (t.refreshed, .error f) := by
  cases h with
  | synchronization h =>
    exact Program.ends_bind.2 ⟨es, [], _, by simp, h, Program.ends_done.2 ⟨rfl, rfl⟩⟩
  | token f h htied =>
    refine Program.ends_bind.2 ⟨_, _, _, rfl, h, ?_⟩
    refine Program.ends_bind.2 ⟨_, [], .error f, (List.append_nil _).symm, ?_,
      Program.ends_done.2 ⟨rfl, rfl⟩⟩
    exact Template.ends_addFinalizer.2 (.inr ⟨htied, .error f, rfl, rfl⟩)

/-- What is asked after a failure if nothing else fails: the template that was read blames it, or a
copy that does is written. -/
inductive Records (t : Template k) (cluster : String) (f : Failure) : Dialogue k → Prop
  | known (now : Instant) (h : Blames cluster f t t) : Records t cluster f [timed now]
  | written (now : Instant) (stored : Template k) (r : Report)
      (h : Blames cluster f t (t.refreshed.withOutcome cluster
        (.ofOutcome k.concrete.kind (.error f) now))) :
      Records t cluster f [timed now, restated (t.refreshed.withOutcome cluster
        (.ofOutcome k.concrete.kind (.error f) now)) (.ok stored), told r]

/-- If no other call fails, the pass fails with the failure to write the object or the token, which
is recorded. -/
theorem Template.FailsWith.records {cluster : String} {es' : Dialogue k} {r : Except Failure Unit}
    (h : t.FailsWith es f) (hplaced : t.placement.places cluster = true)
    (hends : (t.refreshed.deploy t.currentStatus cluster).run.Ends (es ++ es') r)
    (hothers : ∀ x ∈ es', x.failure? = none) : r = .error f ∧ Records t cluster f es' := by
  obtain ⟨es₁, es₂, current, outcome, now, recorded, hes, hmaterialize, hrecorded, hr⟩ :=
    Template.ends_deploy hends
  obtain ⟨rfl, rfl, hcopy⟩ := h.ends_materialize.eq_of_append hmaterialize hes
  cases hcopy
  have hfails {stored : Template k} (h : recorded = .ok stored) : r = .error f := by
    rcases hr with ⟨f', h', -⟩ | ⟨-, hr⟩
    · cases h.symm.trans h'
    · exact hr
  rcases Template.ends_recordOutcome hrecorded with
    ⟨hsame, rfl, rfl⟩ | ⟨-, ⟨f', rfl, -⟩ | ⟨stored, rfl, rfl⟩⟩
  · refine ⟨hfails rfl, .known now (blames_of_record now hplaced ?_ rfl)⟩
    exact (Option.some.inj hsame).symm.trans (FleetStatus.record_refresh ..)
  · cases hothers _ (List.mem_cons_of_mem _ List.mem_cons_self)
  · exact ⟨hfails rfl,
      .written now stored _ (blames_of_record now hplaced (FleetStatus.record_refresh ..) rfl)⟩

/-- If the status write is accepted, the pass fails with the failure to write the object or the
token, and the template blames it on the cluster. -/
theorem Template.FailsWith.blames {cluster : String} {es' : Dialogue k} {r : Except Failure Unit}
    (h : t.FailsWith es f) (hplaced : t.placement.places cluster = true)
    (hends : (t.refreshed.deploy t.currentStatus cluster).run.Ends (es ++ es') r)
    (hothers : ∀ x ∈ es', x.failure? = none) (hfind : s.find? t.metadata.key = some t)
    (hfollows : s.Follows (es ++ es') s') :
    r = .error f ∧ ∃ t', s'.find? t.metadata.key = some t' ∧ Blames cluster f t t' := by
  obtain ⟨hr, hrecords⟩ := h.records hplaced hends hothers
  refine ⟨hr, ?_⟩
  obtain ⟨s₁, h₁, h₂⟩ := hfollows.append
  cases h.store_eq h₁
  cases hrecords with
  | known now hblames =>
    cases h₂.tail fun _ h => by cases h
    exact ⟨t, hfind, hblames⟩
  | written now stored report hblames =>
    obtain ⟨s₂, hserves, hrest⟩ := (h₂.tail fun _ h => by cases h).serves
    cases hrest.tail fun _ h => by cases h
    cases hserves.served with
    | @restated _ _ overwritten hfind' hv =>
      have hcopy : overwritten = t := Option.some.inj (hfind'.symm.trans hfind)
      subst hcopy
      rw [show s.restatement overwritten (overwritten.refreshed.withOutcome cluster
          (.ofOutcome k.concrete.kind (.error f) now)) = overwritten.refreshed.withOutcome cluster
          (.ofOutcome k.concrete.kind (.error f) now) from restatement_withStatus ..]
      exact ⟨_, s.find?_assign_self _ _,
        blames_of_record now hplaced (FleetStatus.record_refresh ..) rfl⟩

theorem ends_deploy_of_process {cluster : String} {r : Except Failure Unit}
    (h : t.process.run.Ends (named cluster :: es) r) (hdel : t.metadata.isDeleting = false)
    (hplaced : t.placement.places cluster = true) :
    (t.refreshed.deploy t.currentStatus cluster).run.Ends es r := by
  unfold Template.process at h
  rw [if_neg (by simp [hdel])] at h
  rcases Program.ends_attempt_bind.1 h with ⟨f, h₁, -⟩ | ⟨es₁, es₂, name, hes, h₁, h₂⟩
  · cases Program.ends_send.1 h₁
  · cases Program.ends_send.1 h₁
    cases hes
    dsimp only at h₂
    rwa [if_pos hplaced] at h₂

theorem ends_deploy_of_reconcile {key : Key} {cluster : String} {r : Except Failure Unit}
    (h : (reconcile key).run.Ends (fetched key t :: named cluster :: es) r)
    (hdel : t.metadata.isDeleting = false) (hplaced : t.placement.places cluster = true) :
    ∃ r', (t.refreshed.deploy t.currentStatus cluster).run.Ends es r' ∧
      ∀ f, r' = .error f → isTemplateGone k f = false → r = .error f := by
  cases passEnds_of_ends h with
  | processed _ _ hprocess =>
    exact ⟨.ok (), ends_deploy_of_process hprocess hdel hplaced, nofun⟩
  | gone _ _ ns name hprocess =>
    refine ⟨_, ends_deploy_of_process hprocess hdel hplaced, ?_⟩
    rintro f ⟨⟩ hgone
    exact (Bool.eq_false_iff.1 hgone (isTemplateGone_iff.2 ⟨ns, name, rfl⟩)).elim
  | failed _ _ f hprocess hf =>
    refine ⟨_, ends_deploy_of_process hprocess hdel hplaced, ?_⟩
    rintro f ⟨⟩ -
    rfl

end Blames

theorem Store.follows_exchanges {α : Type} {answer : (q : Request k) → World k → q.Answer × World k}
    (h : ∀ (q : Request k) (w : World k), w.Answers q (answer q w).1 (answer q w).2)
    (p : Task k α) (w : World k) :
    w.templates.Follows (p.exchanges answer w) (p.run answer w).2.templates := by
  induction p generalizing w with
  | done a => exact .nil _
  | ask q next ih =>
    have hq := h q w
    have hrest := ih (answer q w).1 (answer q w).2
    cases q with
    | template call => exact .call hq.1 hrest
    | concrete call => exact .other (fun _ h => by cases h) (hq.2 ▸ hrest)
    | clusterName | now | pause d | report r =>
      have hsame : (answer _ w).2 = w := hq
      rw [Program.exchanges, Program.run_ask]
      rw [hsame] at hrest ⊢
      exact .other (fun _ h => by cases h) hrest

/-- A pass fails, unless each of its calls that failed was absorbed by the synchronization or the
template is gone. If writing the object of a placed template or its token fails, the pass fails with
just that, and if no other call fails and nobody else writes, the stored template blames it on the
cluster. -/
theorem failures_are_recorded :
    (∀ (key : Key) (es : Dialogue k) (r : Except Failure Unit), (reconcile key).run.Ends es r →
      (∃ f, r = .error f) ∨
        (∀ before e after, es = before ++ e :: after → e.failure? ≠ none →
          Absorbed key before e after) ∨
        ∃ (t : Template k) (es' : Dialogue k) (ns name : String), es = fetched key t :: es' ∧
          t.process.run.Ends es' (.error (.notFound k.template.kind ns name))) ∧
    ∀ (s s' : Store (Template k)) (t : Template k) (cluster : String) (es es' : Dialogue k)
      (f : Failure) (r : Except Failure Unit),
      (reconcile t.metadata.key).run.Ends
        (fetched t.metadata.key t :: named cluster :: (es ++ es')) r →
      s.Follows (fetched t.metadata.key t :: named cluster :: (es ++ es')) s' →
      t.metadata.isDeleting = false → t.placement.places cluster = true →
      t.FailsWith es f → (∀ ns name, f ≠ .notFound k.template.kind ns name) →
      (∀ e ∈ es', e.failure? = none) →
      r = .error f ∧ ∃ t', s'.find? t.metadata.key = some t' ∧ Blames cluster f t t' := by
  refine ⟨fun key es r => ends_reconcile, ?_⟩
  intro s s' t cluster es es' f r hends hfollows hdel hplaced hfails hgone hothers
  have hnot : isTemplateGone k f = false := by
    rw [Bool.eq_false_iff, ne_eq, isTemplateGone_iff]
    rintro ⟨ns, name, rfl⟩
    exact hgone ns name rfl
  obtain ⟨r', hdeploy, hr⟩ := ends_deploy_of_reconcile hends hdel hplaced
  obtain ⟨s₁, hserves, hrest⟩ := hfollows.serves
  replace hrest := hrest.tail fun _ h => by cases h
  obtain ⟨hfind, rfl⟩ := hserves.find?_eq
  obtain ⟨rfl, hblames⟩ := hfails.blames hplaced hdeploy hothers hfind hrest
  exact ⟨hr f rfl hnot, hblames⟩

/-- The answers of the stores, but concrete objects are not created. -/
def World.deny (f : Failure) : (q : Request k) → World k → q.Answer × World k
  | .concrete (.create _ _), w => (.error f, w)
  | q, w => World.serve "east" default q w

theorem World.answers_deny (f : Failure) (q : Request k) (w : World k) :
    w.Answers q (World.deny f q w).1 (World.deny f q w).2 := by
  unfold World.deny
  split
  · exact ⟨.inr ⟨⟨f, rfl⟩, rfl⟩, rfl⟩
  · exact World.answers_serve ..

def forbidden : Failure :=
  .server (.refused ⟨"Failure", "config maps are not created here", "Forbidden", 403⟩)

/-- The pass over the template may not create its config map. -/
theorem a_forbidden_creation_is_blamed :
    let ended := (reconcile ⟨"apps", "settings"⟩).run.run (World.deny forbidden) placedCluster.world
    ended.1 = .error forbidden ∧ ∃ t', ended.2.templates.find? ⟨"apps", "settings"⟩ = some t' ∧
      Blames "east" forbidden ((Store.empty false).put placedSettings).1 t' := by
  let w := placedCluster.world
  let p := (reconcile (k := .configMap) ⟨"apps", "settings"⟩).run
  let t : Template .configMap := ((Store.empty false).put placedSettings).1
  let es := t.synchronization.exchanges (World.deny forbidden) w
  let es' := (p.exchanges (World.deny forbidden) w).drop 4
  have hfails : t.FailsWith es forbidden := .synchronization (Program.ends_exchanges _ w)
  have hes : p.exchanges (World.deny forbidden) w =
    fetched ⟨"apps", "settings"⟩ t :: named "east" :: (es ++ es') := rfl
  have hends : p.Ends (p.exchanges (World.deny forbidden) w) (p.run (World.deny forbidden) w).1 :=
    Program.ends_exchanges p w
  have hfollows := Store.follows_exchanges (World.answers_deny forbidden) p w
  rw [hes] at hends hfollows
  exact failures_are_recorded.2 _ _ t "east" es es' forbidden _ hends hfollows rfl rfl hfails nofun
    (by decide +kernel)

end FleetSync
