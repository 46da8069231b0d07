import Mathlib.Data.List.Chain
import FleetSync.Proofs.Discipline
import FleetSync.Proofs.Entries

/-!
# The history of conditions

A status keeps a bounded history in which no condition repeats the one of its type before it. An
outcome adds one condition at the end, or none, and may push out the oldest ones. Since an accepted
write overwrites the copy that it was made of, this goes on however passes, recorded reports and
edits by others alternate.
-/
namespace FleetSync

variable {k : Kind}

/-! One status -/
namespace FleetStatus
variable {s s' old new : FleetStatus} {c : Condition} {type : ConditionType}

def conditionsOf (s : FleetStatus) (type : ConditionType) : List Condition :=
  s.conditions.filter (·.type = type)

/-- The history is bounded, and no condition repeats the one of its type before it. -/
structure WellFormed (s : FleetStatus) : Prop where
  bounded : s.conditions.length ≤ maxConditions
  alternating : ∀ type, (s.conditionsOf type).IsChain fun a b =>
    ¬(a.status = b.status ∧ a.message = b.message)

theorem wellFormed_initial : initial.WellFormed := ⟨Nat.zero_le _, fun _ => .nil⟩

theorem WellFormed.congr (h : s.WellFormed) (hconditions : s'.conditions = s.conditions) :
    s'.WellFormed := by
  refine ⟨hconditions ▸ h.bounded, fun type => ?_⟩
  have hof : s'.conditionsOf type = s.conditionsOf type := congrArg (List.filter _) hconditions
  exact hof ▸ h.alternating type

theorem latest?_eq_getLast? : s.latest? type = (s.conditionsOf type).getLast? := by
  unfold latest? conditionsOf
  rw [List.getLast?_filter]

theorem length_keepNewest (l : List Condition) : (keepNewest l).length ≤ maxConditions := by
  unfold keepNewest
  rw [List.length_drop]
  omega

theorem conditions_appendCondition (h : s.repeatsCondition c = false) :
    (s.appendCondition c).conditions = keepNewest (s.conditions ++ [c]) := by
  unfold appendCondition
  rw [h]
  rfl

theorem conditions_appendCondition_congr (h : s.conditions = s'.conditions) (c : Condition) :
    (s.appendCondition c).conditions = (s'.appendCondition c).conditions := by
  have hrepeats : s.repeatsCondition c = s'.repeatsCondition c := by
    unfold repeatsCondition latest?
    rw [h]
  cases hs : s.repeatsCondition c with
  | true =>
    rw [appendCondition_of_repeats hs, appendCondition_of_repeats (hrepeats ▸ hs), h]
  | false =>
    rw [conditions_appendCondition hs, conditions_appendCondition (hrepeats ▸ hs), h]

theorem repeatsCondition_eq_false_iff :
    s.repeatsCondition c = false ↔ (s.appendCondition c).conditions ≠ s.conditions := by
  constructor
  · intro hrepeats hsame
    obtain ⟨kept, -, hkept⟩ := keepNewest_concat s.conditions c
    rw [conditions_appendCondition hrepeats, hkept] at hsame
    have hlatest : s.latest? c.type = some c := by
      simp [latest?, ← hsame]
    unfold repeatsCondition at hrepeats
    rw [hlatest] at hrepeats
    simp [Condition.sameOutcome] at hrepeats
  · intro hne
    by_contra hrepeats
    rw [Bool.not_eq_false] at hrepeats
    exact hne (congrArg conditions (appendCondition_of_repeats hrepeats))

theorem isChain_concat (h : s.WellFormed) (hrepeats : s.repeatsCondition c = false) :
    ((s.conditions ++ [c]).filter (·.type = type)).IsChain fun a b =>
      ¬(a.status = b.status ∧ a.message = b.message) := by
  rw [List.filter_append]
  by_cases htype : c.type = type
  · subst htype
    rw [List.filter_cons_of_pos (by simp), List.filter_nil]
    refine (h.alternating c.type).append (.singleton c) ?_
    rintro a ha b hb ⟨hstatus, hmessage⟩
    cases Option.mem_some.1 hb
    have htype : a.type = c.type := by
      simpa using List.of_mem_filter (List.mem_of_getLast? ha)
    have hsame : a.sameOutcome c = true :=
      Condition.sameOutcome_iff.2 ⟨htype, hstatus, hmessage⟩
    change (s.conditionsOf c.type).getLast? = some a at ha
    rw [← latest?_eq_getLast?] at ha
    unfold repeatsCondition at hrepeats
    rw [ha, Option.any_some, hsame] at hrepeats
    cases hrepeats
  · rw [List.filter_cons_of_neg (by simpa using htype), List.filter_nil, List.append_nil]
    exact h.alternating type

theorem WellFormed.appendCondition (h : s.WellFormed) (c : Condition) :
    (s.appendCondition c).WellFormed := by
  cases hrepeats : s.repeatsCondition c with
  | true => exact (appendCondition_of_repeats hrepeats).symm ▸ h
  | false =>
    refine ⟨conditions_appendCondition hrepeats ▸ length_keepNewest _, fun type => ?_⟩
    unfold conditionsOf
    rw [conditions_appendCondition hrepeats]
    exact (isChain_concat h hrepeats).suffix ((List.drop_suffix ..).filter _)

/-- The history is that of an older status, or one condition was added to it. -/
def Continues (old new : FleetStatus) : Prop :=
  new.conditions = old.conditions ∨ ∃ c, new.conditions = (old.appendCondition c).conditions

theorem Continues.congr (h : old.Continues new) (hconditions : s.conditions = old.conditions) :
    s.Continues new := by
  rcases h with h | ⟨c, h⟩
  · exact .inl (h.trans hconditions.symm)
  · exact .inr ⟨c, h.trans (conditions_appendCondition_congr hconditions.symm c)⟩

theorem Continues.wellFormed (h : old.Continues new) (hold : old.WellFormed) : new.WellFormed := by
  rcases h with h | ⟨c, h⟩
  · exact hold.congr h
  · exact (hold.appendCondition c).congr h

theorem Continues.exists_append (h : old.Continues new) : ∃ kept added,
    kept <:+ old.conditions ∧ new.conditions = kept ++ added ∧ added.length ≤ 1 := by
  rcases h with h | ⟨c, h⟩
  · exact ⟨_, [], List.suffix_refl _, by rw [h, List.append_nil], Nat.zero_le _⟩
  · rw [h]
    cases hrepeats : old.repeatsCondition c with
    | true =>
      rw [appendCondition_of_repeats hrepeats]
      exact ⟨_, [], List.suffix_refl _, (List.append_nil _).symm, Nat.zero_le _⟩
    | false =>
      obtain ⟨kept, hkept, heq⟩ := keepNewest_concat old.conditions c
      exact ⟨kept, [c], hkept, (conditions_appendCondition hrepeats).trans heq, Nat.le_refl _⟩

end FleetStatus

/-! Drafts -/
namespace Template
variable {t t' base o : Template k} {key address : Key} {call : StoreCall (Template k)}

/-- The history and the entries are the same, whatever the state is. -/
structure SameRecords (t t' : Template k) : Prop where
  conditions : t.currentStatus.conditions = t'.currentStatus.conditions
  clusters : t.currentStatus.clusters = t'.currentStatus.clusters

theorem Drafts.sameRecords_replace (h : base.Drafts (.replace key o)) : o.SameRecords base := by
  cases h with
  | tie h => exact ⟨rfl, rfl⟩
  | untie ht h => rcases ht with rfl | rfl <;> exact ⟨rfl, rfl⟩

theorem withOutcome_continues (t : Template k) (cluster : String) (c : Condition) :
    t.currentStatus.Continues (t.withOutcome cluster c).currentStatus :=
  .inr ⟨c, FleetStatus.conditions_setCluster⟩

theorem withReport_continues (t : Template k) (r : Report) :
    t.currentStatus.Continues (t.withReport r).currentStatus :=
  .inr ⟨r.condition,
    FleetStatus.conditions_appendCondition_congr FleetStatus.conditions_setCluster _⟩

theorem Drafts.exists_draft? (h : base.Drafts call) :
    ∃ address o, (Request.template call).draft? = some (address, o) := by
  cases h <;> exact ⟨_, _, rfl⟩

theorem Drafts.continues (h : base.Drafts call)
    (hdraft : (Request.template call).draft? = some (address, o)) :
    base.currentStatus.Continues o.currentStatus := by
  cases h with
  | tie h =>
    cases hdraft
    exact .inl rfl
  | untie ht h =>
    cases hdraft
    rcases ht with rfl | rfl <;> exact .inl rfl
  | restate =>
    cases hdraft
    exact .inl rfl
  | record ht cluster c =>
    cases hdraft
    rcases ht with rfl | rfl
    · exact withOutcome_continues ..
    · exact (withOutcome_continues base.refreshed cluster c).congr rfl
  | absorb r =>
    cases hdraft
    exact withReport_continues ..

theorem Drafts.state_eq (h : base.Drafts (.replaceStatus key o)) :
    o.currentStatus.state = FleetStatus.effectiveState o.placement o.currentStatus := by
  cases h with
  | restate => rfl
  | record ht cluster c => rfl
  | absorb r => rfl

theorem Drafts.sameRecords_revision (h : base.Drafts call)
    (hdraft : (Request.template call).draft? = some (address, o)) (s : Store (Template k)) :
    (s.revision call base).SameRecords o := by
  cases call with
  | get key => cases hdraft
  | create ns o => cases h
  | delete key => cases hdraft
  | replace key o =>
    cases hdraft
    change (s.replacement base o).SameRecords o
    unfold Store.replacement
    split
    · exact ⟨h.sameRecords_replace.conditions.symm, h.sameRecords_replace.clusters.symm⟩
    · exact ⟨rfl, rfl⟩
  | replaceStatus key o =>
    cases hdraft
    change (s.restatement base o).SameRecords o
    unfold Store.restatement
    split <;> exact ⟨rfl, rfl⟩

end Template

/-! Reads -/

def Exchange.read? : Exchange (Request k) Request.Answer → Option (Template k)
  | ⟨.template (.get _), .ok t⟩ => t
  | _ => none

theorem Exchange.copy?_of_read? {e : Exchange (Request k) Request.Answer} {t : Template k}
    (h : e.read? = some t) : e.copy? = some t := by
  unfold read? at h
  split at h
  · exact h
  · cases h

def lastRead? (es : Dialogue k) : Option (Template k) := es.reverse.findSome? (·.read?)

/-- The history and the entries were stored as they were sent, if they were stored. -/
def Exchange.Echoes (e : Exchange (Request k) Request.Answer) : Prop :=
  ∀ key stored, e.stored? = some (key, stored) →
    ∃ address o, e.request.draft? = some (address, o) ∧ stored.SameRecords o

section Reads
variable {key address : Key} {t o current : Template k} {es : Dialogue k}
  {e : Exchange (Request k) Request.Answer} {call : StoreCall (Template k)}

theorem lastRead?_concat_fetched (es : Dialogue k) (key : Key) (t : Template k) :
    lastRead? (es ++ [fetched key t]) = some t := by
  simp [lastRead?, fetched, Exchange.read?]

theorem lastRead?_fetched (h : ∀ e ∈ es, e.read? = none) :
    lastRead? (fetched key t :: es) = some t := by
  have hnone : es.reverse.findSome? (·.read?) = none :=
    List.findSome?_eq_none_iff.2 fun e he => h e (List.mem_reverse.1 he)
  unfold lastRead?
  rw [List.reverse_cons, List.findSome?_append, hnone]
  rfl

theorem Syncs.read? (h : Syncs key e.request) : e.read? = none := by
  obtain ⟨q, r⟩ := e
  cases h <;> rfl

theorem read?_of_synchronization {r : Except Failure SyncOutcome}
    (h : t.synchronization.Ends es r) : ∀ e ∈ es, e.read? = none :=
  fun _ he => (Template.syncs_of_mem h he).read?

theorem Template.Materializes.read? {outcome : Except Failure SyncOutcome}
    (h : t.Materializes es current outcome) : ∀ e ∈ es, e.read? = none := by
  have hconcat {es : Dialogue k} {e} (h : ∀ e ∈ es, e.read? = none) (he : e.read? = none) :
      ∀ e' ∈ es ++ [e], e'.read? = none := by
    intro e' he'
    rcases List.mem_append.1 he' with he' | he'
    · exact h e' he'
    · exact List.mem_singleton.1 he' ▸ he
  cases h with
  | failed h => exact read?_of_synchronization h
  | tied h htied => exact read?_of_synchronization h
  | tieRefused h htied => exact hconcat (read?_of_synchronization h) rfl
  | tieWritten h htied => exact hconcat (read?_of_synchronization h) rfl

theorem Template.Materializes.sameRecords {outcome : Except Failure SyncOutcome}
    (h : t.Materializes es current outcome) (hechoes : ∀ e ∈ es, e.Echoes) :
    current.SameRecords t := by
  cases h with
  | failed h => exact ⟨rfl, rfl⟩
  | tied h htied => exact ⟨rfl, rfl⟩
  | tieRefused h htied => exact ⟨rfl, rfl⟩
  | tieWritten h htied =>
    obtain ⟨address, o, hdraft, hsame⟩ :=
      hechoes _ (List.mem_append_right _ (List.mem_singleton_self _)) _ _ rfl
    cases hdraft
    exact ⟨hsame.conditions, hsame.clusters⟩

theorem TemplateCall.continues (h : TemplateCall key es call)
    (hdraft : (Request.template call).draft? = some (address, o)) (hechoes : ∀ e ∈ es, e.Echoes) :
    ∃ t, lastRead? es = some t ∧ t.currentStatus.Continues o.currentStatus := by
  cases h with
  | fetch => cases hdraft
  | @retire t hdel htied =>
    cases hdraft
    exact ⟨t, rfl, .inl rfl⟩
  | @restate t cluster hdel hplaced =>
    cases hdraft
    exact ⟨t, rfl, .inl rfl⟩
  | @prune t cluster hdel hplaced htied =>
    cases hdraft
    exact ⟨t, rfl, .inl rfl⟩
  | @pruneRestated t stored cluster hdel hplaced htied =>
    cases hdraft
    obtain ⟨address, o, hdraft, hsame⟩ :=
      hechoes (restated t.refreshed (.ok stored)) (by simp) _ _ rfl
    cases hdraft
    exact ⟨t, rfl, .inl hsame.conditions⟩
  | @tie t cluster es done hdel hplaced hsync htied =>
    cases hdraft
    refine ⟨t, lastRead?_fetched ?_, .inl rfl⟩
    exact List.forall_mem_cons.2 ⟨rfl, read?_of_synchronization hsync⟩
  | @record t current cluster es outcome now hdel hplaced hends =>
    cases hdraft
    have hmaterializes := Template.ends_materialize hends
    refine ⟨t, lastRead?_fetched ?_, ?_⟩
    · simp only [List.forall_mem_cons, List.forall_mem_append]
      exact ⟨rfl, hmaterializes.read?, rfl, fun _ h => (List.not_mem_nil h).elim⟩
    · have hsame := hmaterializes.sameRecords fun e he => hechoes e (by simp [he])
      exact (Template.withOutcome_continues ..).congr hsame.conditions.symm

theorem Activity.continues {a : Activity k} (h : a.task.Asks es (.template call))
    (hdraft : (Request.template call).draft? = some (address, o)) (hechoes : ∀ e ∈ es, e.Echoes) :
    ∃ t, lastRead? es = some t ∧ t.currentStatus.Continues o.currentStatus := by
  cases a with
  | pass key => exact (templateCall_of_asks h).continues hdraft hechoes
  | record r =>
    rcases asks_recordReport h with h | ⟨d, h⟩ | ⟨earlier, t, rfl, -, h⟩
    · cases h
      cases hdraft
    · cases h
    · cases h
      cases hdraft
      exact ⟨t, lastRead?_concat_fetched .., Template.withReport_continues ..⟩

end Reads

/-! Systems -/
section Systems
variable {s : System k} {a : Activity k} {past : Dialogue k} {q : Request k} {r : q.Answer}
  {next : q.Answer → Task k (Except Failure a.Result)} {w : World k}

theorem System.Sound.echoes (hs : s.Sound) (hthread : ⟨a, past, .ask q next⟩ ∈ s.threads)
    (hanswer : s.world.Answers q r w) : Exchange.Echoes ⟨q, r⟩ := by
  intro key stored hstored
  rcases hs.overwrites hthread hanswer with ⟨hnone, -⟩ |
    ⟨call, base, rfl, -, hdraft, -, hstored', -⟩
  · rw [hnone] at hstored
    cases hstored
  · rw [hstored'] at hstored
    cases hstored
    obtain ⟨address, o, ho⟩ := hdraft.exists_draft?
    have hsame := hdraft.sameRecords_revision ho s.world.templates
    exact ⟨address, o, ho, hsame.conditions, hsame.clusters⟩

/-- All statuses that are stored or that a thread was given are well-formed. -/
structure System.WellKept (s : System k) : Prop where
  sound : s.Sound
  stored : ∀ key t, s.world.templates.find? key = some t → t.currentStatus.WellFormed
  copies : ∀ thread ∈ s.threads, ∀ e ∈ thread.past, ∀ t, e.copy? = some t →
    t.currentStatus.WellFormed
  echoes : ∀ thread ∈ s.threads, ∀ e ∈ thread.past, e.Echoes

theorem World.Answers.exists_find?_of_copy? {w' : World k} {t : Template k}
    (h : w.Answers q r w') (ht : Exchange.copy? ⟨q, r⟩ = some t) :
    ∃ key, w'.templates.find? key = some t := by
  rcases h.templates with ⟨call, r', he, hserved⟩ | ⟨-, hnone, -⟩
  · rw [he] at ht
    generalize w'.templates = store at hserved ⊢
    cases hserved with
    | found key => exact ⟨key, ht⟩
    | created ho h => cases ht
    | @replaced key _ _ h hv =>
      cases ht
      exact ⟨key, Store.find?_assign_self ..⟩
    | @restated key _ _ h hv =>
      cases ht
      exact ⟨key, Store.find?_assign_self ..⟩
    | deleted key => cases ht
    | failed call f => cases call <;> cases ht
  · rw [hnone] at ht
    cases ht

theorem System.WellKept.stored_after (hs : s.WellKept)
    (hthread : ⟨a, past, .ask q next⟩ ∈ s.threads) (hanswer : s.world.Answers q r w) {key : Key}
    {t : Template k} (ht : w.templates.find? key = some t) : t.currentStatus.WellFormed := by
  rcases hs.sound.overwrites_at hthread hanswer key with ⟨hsame, -⟩ |
    ⟨call, base, rfl, rfl, -, hdraft, hfind, -, hw⟩
  · exact hs.stored key t (hsame.symm.trans ht)
  · cases hw.symm.trans ht
    obtain ⟨address, o, ho⟩ := hdraft.exists_draft?
    have hsent : o.currentStatus.WellFormed :=
      (hdraft.continues ho).wellFormed (hs.stored _ _ hfind)
    exact hsent.congr (hdraft.sameRecords_revision ho s.world.templates).conditions

theorem System.WellKept.exchange {l₁ l₂ : List (Thread k)} (hs : s.WellKept)
    (hthreads : s.threads = l₁ ++ ⟨a, past, .ask q next⟩ :: l₂) (hanswer : s.world.Answers q r w) :
    System.WellKept ⟨w, l₁ ++ ⟨a, past ++ [⟨q, r⟩], next r⟩ :: l₂⟩ := by
  have hthread : (⟨a, past, .ask q next⟩ : Thread k) ∈ s.threads := by simp [hthreads]
  have hstored {key : Key} {t : Template k} (ht : w.templates.find? key = some t) :=
    hs.stored_after hthread hanswer ht
  have hexchanges {thread : Thread k} {e : Exchange (Request k) Request.Answer}
      (hthread : thread ∈ l₁ ++ ⟨a, past ++ [⟨q, r⟩], next r⟩ :: l₂) (he : e ∈ thread.past) :
      e = ⟨q, r⟩ ∨ ∃ thread' ∈ s.threads, e ∈ thread'.past := by
    rw [hthreads]
    simp only [List.mem_append, List.mem_cons] at hthread ⊢
    rcases hthread with h | rfl | h
    · exact .inr ⟨thread, .inl h, he⟩
    · rcases List.mem_append.1 he with he | he
      · exact .inr ⟨_, .inr (.inl rfl), he⟩
      · exact .inl (List.mem_singleton.1 he)
    · exact .inr ⟨thread, .inr (.inr h), he⟩
  constructor
  · exact hs.sound.exchange hthreads hanswer
  · intro key t ht
    exact hstored ht
  · intro thread hthread e he t ht
    rcases hexchanges hthread he with rfl | ⟨thread', hthread', he'⟩
    · obtain ⟨key, hkey⟩ := hanswer.exists_find?_of_copy? ht
      exact hstored hkey
    · exact hs.copies thread' hthread' e he' t ht
  · intro thread hthread' e he
    rcases hexchanges hthread' he with rfl | ⟨thread', hthread', he'⟩
    · exact hs.sound.echoes hthread hanswer
    · exact hs.echoes thread' hthread' e he'

end Systems

/-- Others leave the status of a template alone, or put a template with a well-formed one. -/
def EditsApart (old : Option (Template k)) (new : Template k) : Prop :=
  (∃ t, old = some t ∧ new.status = t.status) ∨ new.currentStatus.WellFormed

section Run
variable {s₀ s : System k} {h : List (Event k)}

theorem Run.wellKept (hrun : Run EditsApart s₀ h s) (h₀ : s₀.WellKept) : s.WellKept := by
  induction hrun with
  | init => exact h₀
  | start a hrun ih =>
    refine ⟨ih.sound.start a, ih.stored, ?_, ?_⟩
    · rw [List.forall_mem_cons]
      exact ⟨fun _ he => (List.not_mem_nil he).elim, ih.copies⟩
    · rw [List.forall_mem_cons]
      exact ⟨fun _ he => (List.not_mem_nil he).elim, ih.echoes⟩
  | exchange r hrun hthreads hanswer ih => exact ih.exchange hthreads hanswer
  | @interfere h s w hrun hmeddles ih =>
    refine ⟨ih.sound.evolves hmeddles.evolves (hmeddles.versioned ih.sound.versioned), ?_,
      ih.copies, ih.echoes⟩
    intro key t ht
    rcases hmeddles.find? ht with hsame | ⟨o, hedits, rfl⟩
    · exact ih.stored key t hsame
    · rcases hedits with ⟨t', ht', hstatus⟩ | hwell
      · have hconditions : o.currentStatus.conditions = t'.currentStatus.conditions := by
          unfold Template.currentStatus
          rw [hstatus]
        exact (ih.stored key t' ht').congr hconditions
      · exact hwell

theorem Run.exists_thread {allowed : Option (Template k) → Template k → Prop} {a : Activity k}
    {past : Dialogue k} {e : Exchange (Request k) Request.Answer} (hrun : Run allowed s₀ h s)
    (hmem : .exchange a past e ∈ h) : ∃ h' s' next, Run allowed s₀ h' s' ∧
      (⟨a, past, .ask e.request next⟩ : Thread k) ∈ s'.threads := by
  induction hrun with
  | init => cases hmem
  | start a hrun ih => exact ih hmem
  | @exchange h s w l₁ l₂ a' past' q next r hrun hthreads hanswer ih =>
    rcases List.mem_cons.1 hmem with heq | hmem
    · cases heq
      exact ⟨h, s, next, hrun, by simp [hthreads]⟩
    · exact ih hmem
  | interfere hrun hmeddles ih =>
    rcases List.mem_cons.1 hmem with heq | hmem
    · cases heq
    · exact ih hmem

end Run

/-- Start from well-formed statuses, and let others put no others. In any run of passes and
recorded reports, with failing calls and edits, all statuses that are stored are well-formed, and
so are all that are sent. What is sent has what is left of the history that its thread read last,
and one condition more at most. A status that is sent for itself has the state that its own entries
imply. After a condition was added, the newest one of its type has its outcome; it was added
exactly if the list changed. -/
theorem written_statuses_are_well_formed {w : World k} {h : List (Event k)} {s : System k}
    (hw : w.templates.Versioned)
    (hwell : ∀ key t, w.templates.find? key = some t → t.currentStatus.WellFormed)
    (hrun : Run EditsApart (.atRest w) h s) :
    (∀ key t, s.world.templates.find? key = some t → t.currentStatus.WellFormed) ∧
    (∀ a past e, .exchange a past e ∈ h → ∀ address o, e.request.draft? = some (address, o) →
      o.currentStatus.WellFormed ∧
      (∃ t kept added, lastRead? past = some t ∧ kept <:+ t.currentStatus.conditions ∧
        o.currentStatus.conditions = kept ++ added ∧ added.length ≤ 1) ∧
      (e.request = .template (.replaceStatus address o) →
        o.currentStatus.state = FleetStatus.effectiveState o.placement o.currentStatus)) ∧
    ∀ (status : FleetStatus) (c : Condition),
      (∃ c', (status.appendCondition c).latest? c.type = some c' ∧ c'.sameOutcome c = true) ∧
      (status.repeatsCondition c = false ↔
        (status.appendCondition c).conditions ≠ status.conditions) := by
  have h₀ : (System.atRest w).WellKept := ⟨System.sound_atRest hw, hwell,
    fun _ h => (List.not_mem_nil h).elim, fun _ h => (List.not_mem_nil h).elim⟩
  refine ⟨(hrun.wellKept h₀).stored, ?_, fun status c =>
    ⟨status.latest?_appendCondition c, FleetStatus.repeatsCondition_eq_false_iff⟩⟩
  intro a past e hmem address o hdraft
  obtain ⟨h', s', next, hrun', hthread⟩ := hrun.exists_thread hmem
  have hkept := hrun'.wellKept h₀
  have hasks : a.task.Asks past e.request := ⟨next, hkept.sound.after _ hthread⟩
  obtain ⟨call, hcall⟩ := Request.of_draft? hdraft
  rw [hcall] at hasks hdraft ⊢
  obtain ⟨t, hread, hcontinues⟩ :=
    Activity.continues hasks hdraft (hkept.echoes _ hthread)
  have hread' : t.currentStatus.WellFormed := by
    obtain ⟨e', he', ht⟩ := List.exists_of_findSome?_eq_some hread
    exact hkept.copies _ hthread e' (List.mem_reverse.1 he') t (Exchange.copy?_of_read? ht)
  obtain ⟨kept, added, hsuffix, hadded, hlength⟩ := hcontinues.exists_append
  refine ⟨hcontinues.wellFormed hread', ⟨t, kept, added, hread, hsuffix, hadded, hlength⟩, ?_⟩
  intro hreplaces
  cases hreplaces
  rcases Activity.drafts hasks with ⟨key, h⟩ | ⟨base, -, hdrafts⟩
  · cases h
  · exact hdrafts.state_eq

/-- A first pass writes a status with one condition. -/
theorem first_status_is_well_formed : ∃ h s t,
    Run EditsApart (.atRest ⟨((Store.empty true).put untiedSettings).2, .empty false⟩) h s ∧
      s.world.templates.find? ⟨"apps", "settings"⟩ = some t ∧ t.currentStatus.WellFormed ∧
      t.currentStatus.conditions.length = 1 ∧
      ∀ a past e, .exchange a past e ∈ h → ∀ address o, e.request.draft? = some (address, o) →
        o.currentStatus.WellFormed := by
  have hwell : ∀ key t, ((Store.empty true).put untiedSettings).2.find? key = some t →
      t.currentStatus.WellFormed := by
    intro key t ht
    unfold Store.put at ht
    rw [Store.find?_assign] at ht
    split at ht
    · cases ht
      exact FleetStatus.wellFormed_initial
    · cases ht
  have hstart : Run EditsApart
      (.atRest ⟨((Store.empty true).put untiedSettings).2, .empty false⟩) _ _ :=
    .start (.pass ⟨"apps", "settings"⟩) .init
  obtain ⟨h, past, -, hrun⟩ := hstart.alone "east" default
  obtain ⟨hstored, hsent, -⟩ :=
    written_statuses_are_well_formed ((Store.versioned_empty true).assign _ _) hwell hrun
  refine ⟨_, _, _, hrun, rfl, ?_, ?_, ?_⟩
  · exact hstored ⟨"apps", "settings"⟩ _ rfl
  · decide +kernel
  · intro a past e hmem address o hdraft
    exact (hsent a past e hmem address o hdraft).1

end FleetSync
