import FleetSync.Proofs.PassProtocol
import FleetSync.Proofs.Versions
import FleetSync.Forwarding

/-!
# Passes and reports side by side

Any number of passes and of reports that are being recorded go on side by side, one exchange at a
time and in any order, over one store of templates and one of concrete objects. A call of a store
may fail without an effect, and between any two exchanges somebody else may write. All that a
thread writes to the templates is drafted from the last copy that it received, and a write that is
accepted overwrites exactly that copy.
-/
namespace FleetSync

variable {k : Kind}

inductive Activity (k : Kind) where
  | pass (key : Key)
  /-- A report is recorded in the template that it is about. -/
  | record (report : Report)

namespace Activity

abbrev Result : Activity k → Type
  | pass _ => Unit
  | record _ => Bool

def task : (a : Activity k) → Task k (Except Failure a.Result)
  | pass key => (reconcile key).run
  | record r => (recordReport r).run

end Activity

structure Thread (k : Kind) where
  activity : Activity k
  past : Dialogue k
  rest : Task k (Except Failure activity.Result)

structure World (k : Kind) where
  templates : Store (Template k)
  concretes : Store (Concrete k)

/-- A request is answered: a call by its store or by a failure, all else in any way. -/
def World.Answers (w : World k) : (q : Request k) → q.Answer → World k → Prop
  | .template call, r, w' => w.templates.Serves call r w'.templates ∧ w'.concretes = w.concretes
  | .concrete call, r, w' => w.concretes.Serves call r w'.concretes ∧ w'.templates = w.templates
  | .clusterName, _, w' => w' = w
  | .now, _, w' => w' = w
  | .pause _, _, w' => w' = w
  | .report _, _, w' => w' = w

/-- The answers of the stores, with a name and a time. -/
def World.serve (cluster : String) (now : Instant) :
    (q : Request k) → World k → q.Answer × World k
  | .template call, w =>
    ((w.templates.answer call).1, { w with templates := (w.templates.answer call).2 })
  | .concrete call, w =>
    ((w.concretes.answer call).1, { w with concretes := (w.concretes.answer call).2 })
  | .clusterName, w => (.ok cluster, w)
  | .now, w => (now, w)
  | .pause _, w => ((), w)
  | .report _, w => ((), w)

theorem World.answers_serve (cluster : String) (now : Instant) (q : Request k) (w : World k) :
    w.Answers q (World.serve cluster now q w).1 (World.serve cluster now q w).2 := by
  cases q with
  | template call => exact ⟨.inl ⟨rfl, rfl⟩, rfl⟩
  | concrete call => exact ⟨.inl ⟨rfl, rfl⟩, rfl⟩
  | clusterName => rfl
  | now => rfl
  | pause d => rfl
  | report r => rfl

structure System (k : Kind) where
  world : World k
  threads : List (Thread k)

def System.atRest (w : World k) : System k := ⟨w, []⟩

/-- A step that changed something or could have. -/
inductive Event (k : Kind) where
  /-- An activity with this past made one more exchange. -/
  | exchange (a : Activity k) (past : Dialogue k) (e : Exchange (Request k) Request.Answer)
  | interference (before after : World k)

/-- A run of a system and its history, the last event first. Others may write those templates that
are allowed in place of what is stored, and do as they like with the concrete objects. -/
inductive Run (allowed : Option (Template k) → Template k → Prop) (s₀ : System k) :
    List (Event k) → System k → Prop
  | init : Run allowed s₀ [] s₀
  | start {h s} (a : Activity k) (hrun : Run allowed s₀ h s) :
      Run allowed s₀ h { s with threads := ⟨a, [], a.task⟩ :: s.threads }
  | exchange {h s w l₁ l₂ a past q next} (r : Request.Answer q) (hrun : Run allowed s₀ h s)
      (hthreads : s.threads = l₁ ++ ⟨a, past, .ask q next⟩ :: l₂)
      (hanswer : s.world.Answers q r w) :
      Run allowed s₀ (.exchange a past ⟨q, r⟩ :: h)
        ⟨w, l₁ ++ ⟨a, past ++ [⟨q, r⟩], next r⟩ :: l₂⟩
  | interfere {h s w} (hrun : Run allowed s₀ h s)
      (hmeddles : s.world.templates.Meddles allowed w.templates) :
      Run allowed s₀ (.interference s.world w :: h) { s with world := w }

theorem Run.alone {allowed : Option (Template k) → Template k → Prop} {s₀ : System k}
    {h : List (Event k)} {w : World k} {a : Activity k} {past : Dialogue k}
    {p : Task k (Except Failure a.Result)} (cluster : String) (now : Instant)
    (hrun : Run allowed s₀ h ⟨w, [⟨a, past, p⟩]⟩) : ∃ new past',
      (∀ ev ∈ new, ∃ past e, ev = .exchange a past e) ∧ Run allowed s₀ (new ++ h)
        ⟨(p.run (World.serve cluster now) w).2,
          [⟨a, past', .done (p.run (World.serve cluster now) w).1⟩]⟩ := by
  induction p generalizing h w past with
  | done r => exact ⟨[], past, fun _ hev => (List.not_mem_nil hev).elim, hrun⟩
  | ask q next ih =>
    have hnext : Run allowed s₀ _ ⟨_, [] ++ ⟨a, past ++ [⟨q, _⟩], next _⟩ :: []⟩ :=
      .exchange _ hrun rfl (World.answers_serve cluster now q w)
    obtain ⟨new, past', hnew, hrun'⟩ := ih _ hnext
    refine ⟨new ++ [_], past', ?_, List.append_cons _ _ _ ▸ hrun'⟩
    intro ev hev
    rcases List.mem_append.1 hev with hev | hev
    · exact hnew ev hev
    · exact ⟨past, _, List.mem_singleton.1 hev⟩

/-! Copies of templates -/

def Exchange.copy? : Exchange (Request k) Request.Answer → Option (Template k)
  | ⟨.template (.get _), .ok t⟩ => t
  | ⟨.template (.replace _ _), .ok t⟩ => some t
  | ⟨.template (.replaceStatus _ _), .ok t⟩ => some t
  | _ => none

def lastCopy? (es : Dialogue k) : Option (Template k) := es.reverse.findSome? (·.copy?)

@[simp] theorem lastCopy?_nil : lastCopy? ([] : Dialogue k) = none := rfl

theorem lastCopy?_append (es₁ es₂ : Dialogue k) :
    lastCopy? (es₁ ++ es₂) = (lastCopy? es₂).or (lastCopy? es₁) := by
  simp [lastCopy?, List.findSome?_append]

theorem lastCopy?_cons (e : Exchange (Request k) Request.Answer) (es : Dialogue k) :
    lastCopy? (e :: es) = (lastCopy? es).or e.copy? := by
  simp [lastCopy?, List.findSome?_append]

@[simp] theorem copy?_fetched (key : Key) (t : Template k) : (fetched key t).copy? = some t := rfl

@[simp] theorem copy?_named (c : String) :
    (named c : Exchange (Request k) Request.Answer).copy? = none := rfl

@[simp] theorem copy?_erased (key : Key) :
    (erased key : Exchange (Request k) Request.Answer).copy? = none := rfl

@[simp] theorem copy?_timed (now : Instant) :
    (timed now : Exchange (Request k) Request.Answer).copy? = none := rfl

@[simp] theorem copy?_replaced (t stored : Template k) :
    (replaced t (.ok stored)).copy? = some stored := rfl

@[simp] theorem copy?_replaced_error (t : Template k) (f : Failure) :
    (replaced t (.error f)).copy? = none := rfl

@[simp] theorem copy?_restated (t stored : Template k) :
    (restated t (.ok stored)).copy? = some stored := rfl

theorem lastCopy?_synchronization {t : Template k} {es : Dialogue k}
    {p : Task k (Except Failure SyncOutcome)} (h : t.synchronization.After es p) :
    lastCopy? es = none := by
  apply List.findSome?_eq_none_iff.2
  intro e he
  have hsyncs := Template.syncs_of_mem h (List.mem_reverse.1 he)
  obtain ⟨q, r⟩ := e
  cases hsyncs <;> rfl

theorem Template.Materializes.lastCopy? {t current : Template k} {es : Dialogue k}
    {outcome : Except Failure SyncOutcome} (h : t.Materializes es current outcome) :
    (FleetSync.lastCopy? es = none ∧ current = t) ∨ FleetSync.lastCopy? es = some current := by
  cases h with
  | failed h => exact .inl ⟨lastCopy?_synchronization h, rfl⟩
  | tied h htied => exact .inl ⟨lastCopy?_synchronization h, rfl⟩
  | tieRefused h htied =>
    refine .inl ⟨?_, rfl⟩
    simp [lastCopy?_append, lastCopy?_cons, lastCopy?_synchronization h]
  | tieWritten h htied =>
    refine .inr ?_
    simp [lastCopy?_append, lastCopy?_cons]

/-! Drafts -/

/-- The calls that write what is made of a copy of a template. -/
inductive Template.Drafts (base : Template k) : StoreCall (Template k) → Prop
  | tie (h : base.isTied = false) : Drafts base (.replace base.metadata.key base.refreshed.tie)
  | untie {t : Template k} (ht : t = base ∨ t = base.refreshed) (h : t.isTied = true) :
      Drafts base (.replace base.metadata.key t.untie)
  | restate : Drafts base (.replaceStatus base.metadata.key base.refreshed)
  | record {t : Template k} (ht : t = base ∨ t = base.refreshed) (cluster : String)
      (c : Condition) : Drafts base (.replaceStatus base.metadata.key (t.withOutcome cluster c))
  | absorb (r : Report) : Drafts base (.replaceStatus r.key (base.withReport r))

theorem TemplateCall.drafts {key : Key} {es : Dialogue k} {call : StoreCall (Template k)}
    (h : TemplateCall key es call) : call = .get key ∨ ∃ base, lastCopy? es = some base ∧
      base.Drafts call ∧ call.key = base.metadata.key := by
  cases h with
  | fetch => exact .inl rfl
  | @retire t hdel htied =>
    exact .inr ⟨t, by simp [lastCopy?_cons], .untie (.inl rfl) htied, rfl⟩
  | @restate t cluster hdel hplaced =>
    exact .inr ⟨t, by simp [lastCopy?_cons], .restate, rfl⟩
  | @prune t cluster hdel hplaced htied =>
    exact .inr ⟨t, by simp [lastCopy?_cons], .untie (.inr rfl) htied, rfl⟩
  | @pruneRestated t stored cluster hdel hplaced htied =>
    exact .inr ⟨stored, by simp [lastCopy?_cons], .untie (.inl rfl) htied, rfl⟩
  | @tie t cluster es done hdel hplaced hsync htied =>
    have hnone := lastCopy?_synchronization hsync
    exact .inr ⟨t, by simp [lastCopy?_cons, hnone], .tie htied, rfl⟩
  | @record t current cluster es outcome now hdel hplaced hends =>
    rcases (Template.ends_materialize hends).lastCopy? with ⟨hnone, rfl⟩ | hsome
    · exact .inr ⟨t, by simp [lastCopy?_cons, lastCopy?_append, hnone],
        .record (.inr rfl) _ _, rfl⟩
    · exact .inr ⟨current, by simp [lastCopy?_cons, lastCopy?_append, hsome],
        .record (.inl rfl) _ _, rfl⟩

/-! The recording of a report -/
section Record
variable {r : Report} {es : Dialogue k} {q : Request k}

theorem asks_recordReportOnce (h : (recordReportOnce r).run.Asks es q) :
    (es = [] ∧ q = .template (.get r.key)) ∨ ∃ t : Template k, es = [fetched r.key t] ∧
      t.reportChanges r = true ∧ q = .template (.replaceStatus r.key (t.withReport r)) := by
  unfold recordReportOnce at h
  rcases Program.asks_attempt_bind.1 h with h' | ⟨es₁, es₂, found, rfl, h₁, h₂⟩
  · obtain ⟨rfl, rfl⟩ := Program.asks_send.1 h'
    exact .inl ⟨rfl, rfl⟩
  · cases Program.ends_send.1 h₁
    cases found with
    | none => exact (Program.not_asks_done h₂).elim
    | some t =>
      by_cases hchanges : t.reportChanges r = true
      · simp only [if_pos hchanges] at h₂
        rcases Program.asks_tryCatch.1 h₂ with h' | ⟨es₃, es₄, f, rfl, -, h₄⟩
        · rcases Program.asks_attempt_bind.1 h' with h'' | ⟨es₃, es₄, stored, rfl, -, h₄⟩
          · obtain ⟨rfl, rfl⟩ := Program.asks_send.1 h''
            exact .inr ⟨t, rfl, hchanges, rfl⟩
          · exact (Program.not_asks_done h₄).elim
        · split at h₄ <;> exact (Program.not_asks_done h₄).elim
      · simp only [if_neg hchanges] at h₂
        exact (Program.not_asks_done h₂).elim

theorem asks_recordReport (h : (recordReport r).run.Asks es q) :
    q = .template (.get r.key) ∨ (∃ d, q = .pause d) ∨
      ∃ earlier, ∃ t : Template k, es = earlier ++ [fetched r.key t] ∧
        t.reportChanges r = true ∧ q = .template (.replaceStatus r.key (t.withReport r)) := by
  obtain ⟨n, -, earlier, es', rfl, -, honce | ⟨f, d, -, -, rfl⟩⟩ := asks_retryConflicts h
  · rcases asks_recordReportOnce honce with ⟨-, rfl⟩ | ⟨t, rfl, hchanges, rfl⟩
    · exact .inl rfl
    · exact .inr (.inr ⟨earlier, t, rfl, hchanges, rfl⟩)
  · exact .inr (.inl ⟨d, rfl⟩)

/-- How one attempt to record a report ends. -/
inductive RecordEnds (r : Report) : Dialogue k → Except Failure Bool → Prop
  | unread (f : Failure) : RecordEnds r [⟨.template (.get r.key), .error f⟩] (.error f)
  | missing : RecordEnds r
      [⟨.template (.get r.key), (.ok none : Except Failure (Option (Template k)))⟩] (.ok false)
  | unchanged {t} (h : Template.reportChanges t r = false) :
      RecordEnds r [fetched r.key t] (.ok false)
  | written {t} (stored : Template k) :
      RecordEnds r
        [fetched r.key t, ⟨.template (.replaceStatus r.key (t.withReport r)), .ok stored⟩]
        (.ok true)
  | vanished {t f} (hf : f.isNotFound = true) :
      RecordEnds r
        [fetched r.key t, ⟨.template (.replaceStatus r.key (t.withReport r)), .error f⟩]
        (.ok false)
  | refused {t} (f : Failure) :
      RecordEnds r
        [fetched r.key t, ⟨.template (.replaceStatus r.key (t.withReport r)), .error f⟩]
        (.error f)

theorem ends_recordReportOnce {result : Except Failure Bool}
    (h : (recordReportOnce r).run.Ends es result) : RecordEnds r es result := by
  unfold recordReportOnce at h
  rcases Program.ends_attempt_bind.1 h with ⟨f, h₁, rfl⟩ | ⟨es₁, es₂, found, rfl, h₁, h₂⟩
  · cases Program.ends_send.1 h₁
    exact .unread f
  · cases Program.ends_send.1 h₁
    cases found with
    | none =>
      obtain ⟨rfl, rfl⟩ := Program.ends_done.1 h₂
      exact .missing
    | some t =>
      by_cases hchanges : t.reportChanges r = true
      · simp only [if_pos hchanges] at h₂
        have hwrite {es' r'} (h : (do
            let _ ← askTemplates (.replaceStatus r.key (t.withReport r))
            return true : Attempt k Bool).run.Ends es' r') : ∃ answer,
              es' = [⟨.template (.replaceStatus r.key (t.withReport r)), answer⟩] ∧
                r' = answer.map fun _ => true := by
          rcases Program.ends_attempt_bind.1 h with ⟨f, h₃, rfl⟩ | ⟨es₃, es₄, stored, rfl, h₃, h₄⟩
          · cases Program.ends_send.1 h₃
            exact ⟨.error f, rfl, rfl⟩
          · cases Program.ends_send.1 h₃
            obtain ⟨rfl, rfl⟩ := Program.ends_done.1 h₄
            exact ⟨.ok stored, rfl, rfl⟩
        rcases Program.ends_tryCatch.1 h₂ with ⟨b, h₃, rfl⟩ | ⟨es₃, es₄, f, rfl, h₃, h₄⟩
        · obtain ⟨answer, rfl, hb⟩ := hwrite h₃
          cases answer with
          | error f => cases hb
          | ok stored =>
            cases hb
            exact .written stored
        · obtain ⟨answer, rfl, hf⟩ := hwrite h₃
          cases answer with
          | ok stored => cases hf
          | error f' =>
            cases hf
            split at h₄
            · rename_i hnone
              obtain ⟨rfl, rfl⟩ := Program.ends_done.1 h₄
              exact .vanished hnone
            · obtain ⟨rfl, rfl⟩ := Program.ends_done.1 h₄
              exact .refused f
      · simp only [if_neg hchanges] at h₂
        obtain ⟨rfl, rfl⟩ := Program.ends_done.1 h₂
        exact .unchanged (by simpa using hchanges)

end Record

theorem Activity.drafts {a : Activity k} {es : Dialogue k} {call : StoreCall (Template k)}
    (h : a.task.Asks es (.template call)) :
    (∃ key, call = .get key) ∨ ∃ base, lastCopy? es = some base ∧ base.Drafts call := by
  cases a with
  | pass key =>
    rcases (templateCall_of_asks h).drafts with h | ⟨base, hlast, hdraft, -⟩
    · exact .inl ⟨key, h⟩
    · exact .inr ⟨base, hlast, hdraft⟩
  | record r =>
    rcases asks_recordReport h with h | ⟨d, h⟩ | ⟨earlier, t, rfl, -, h⟩
    · cases h
      exact .inl ⟨r.key, rfl⟩
    · cases h
    · cases h
      exact .inr ⟨t, by simp [lastCopy?_append, lastCopy?_cons], .absorb r⟩

/-! Accepted writes -/

def Exchange.stored? : Exchange (Request k) Request.Answer → Option (Key × Template k)
  | ⟨.template (.replace key _), .ok t⟩ => some (key, t)
  | ⟨.template (.replaceStatus key _), .ok t⟩ => some (key, t)
  | _ => none

section Drafts
variable {base o : Template k} {key : Key}

theorem Template.Drafts.version_replace (h : base.Drafts (.replace key o)) :
    Resource.version? o = Resource.version? base := by
  cases h with
  | tie h => rfl
  | untie ht h => rcases ht with rfl | rfl <;> rfl

theorem Template.Drafts.metadata_eq (h : base.Drafts (.replaceStatus key o)) :
    o.metadata = base.metadata := by
  cases h with
  | restate => rfl
  | record ht cluster c => rcases ht with rfl | rfl <;> rfl
  | absorb r => rfl

theorem Template.Drafts.version_replaceStatus (h : base.Drafts (.replaceStatus key o)) :
    Resource.version? o = Resource.version? base :=
  congrArg Metadata.resourceVersion h.metadata_eq

theorem metadata_replacement (s : Store (Template k)) (stored o : Template k) :
    (s.replacement stored o).metadata = o.metadata := by
  unfold Store.replacement
  split <;> rfl

theorem Template.Drafts.metadata_restatement (h : base.Drafts (.replaceStatus key o))
    (s : Store (Template k)) : (s.restatement base o).metadata = base.metadata := by
  unfold Store.restatement
  split
  · rfl
  · exact h.metadata_eq

theorem Template.Drafts.key_replace (h : base.Drafts (.replace key o)) :
    o.metadata.key = base.metadata.key := by
  cases h with
  | tie h => rfl
  | untie ht h => rcases ht with rfl | rfl <;> rfl

theorem Template.Drafts.key_revision {call : StoreCall (Template k)} (h : base.Drafts call)
    (s : Store (Template k)) : (s.revision call base).metadata.key = base.metadata.key := by
  cases call with
  | get key => rfl
  | create ns o => rfl
  | delete key => rfl
  | replace key o =>
    change (s.replacement base o).metadata.key = _
    rw [metadata_replacement, h.key_replace]
  | replaceStatus key o =>
    change (s.restatement base o).metadata.key = _
    rw [h.metadata_restatement]

/-- A draft made of a copy that the store recognizes is refused, or it overwrites that copy. -/
theorem Template.Drafts.served {s s' : Store (Template k)} {call : StoreCall (Template k)}
    {r : call.Answer} (hd : base.Drafts call) (hb : s.Recognizes base) (h : s.Served call r s') :
    (Exchange.stored? ⟨.template call, r⟩ = none ∧ s' = s) ∨
      s.find? call.key = some base ∧
        Exchange.stored? ⟨.template call, r⟩ =
          some (call.key, (s.assign call.key (s.revision call base)).1) ∧
        s' = (s.assign call.key (s.revision call base)).2 := by
  cases h with
  | found key => cases hd
  | created ho h => cases hd
  | @replaced key o stored h hv =>
    have hbase : stored = base := hb.eq_of_version key stored h (hv.trans hd.version_replace)
    subst hbase
    exact .inr ⟨h, rfl, rfl⟩
  | @restated key o stored h hv =>
    have hbase : stored = base := hb.eq_of_version key stored h (hv.trans hd.version_replaceStatus)
    subst hbase
    exact .inr ⟨h, rfl, rfl⟩
  | deleted key => cases hd
  | failed call f =>
    refine .inl ⟨?_, rfl⟩
    cases hd <;> rfl

end Drafts

/-! Answers -/
namespace World.Answers
variable {w w' : World k} {q : Request k} {r : q.Answer}

theorem templates (h : w.Answers q r w') :
    (∃ call r', (⟨q, r⟩ : Exchange (Request k) Request.Answer) = ⟨.template call, r'⟩ ∧
      w.templates.Served call r' w'.templates) ∨
    w'.templates = w.templates ∧ Exchange.copy? ⟨q, r⟩ = none ∧ Exchange.stored? ⟨q, r⟩ = none := by
  cases q with
  | template call => exact .inl ⟨call, r, rfl, h.1.served⟩
  | concrete call => exact .inr ⟨h.2, rfl, rfl⟩
  | clusterName => exact .inr ⟨congrArg World.templates h, rfl, rfl⟩
  | now => exact .inr ⟨congrArg World.templates h, rfl, rfl⟩
  | pause d => exact .inr ⟨congrArg World.templates h, rfl, rfl⟩
  | report r => exact .inr ⟨congrArg World.templates h, rfl, rfl⟩

theorem evolves (h : w.Answers q r w') : w.templates.Evolves w'.templates := by
  rcases h.templates with ⟨call, r', -, hserved⟩ | ⟨heq, -⟩
  · exact hserved.evolves
  · exact heq ▸ .refl _

theorem versioned (h : w.Answers q r w') (hw : w.templates.Versioned) :
    w'.templates.Versioned := by
  rcases h.templates with ⟨call, r', -, hserved⟩ | ⟨heq, -⟩
  · exact hserved.versioned hw
  · exact heq ▸ hw

theorem recognizes {base : Template k} (h : w.Answers q r w') (hw : w.templates.Versioned)
    (hbase : Exchange.copy? ⟨q, r⟩ = some base) : w'.templates.Recognizes base := by
  rcases h.templates with ⟨call, r', he, hserved⟩ | ⟨-, hnone, -⟩
  · rw [he] at hbase
    generalize hs : w'.templates = s' at hserved ⊢
    cases hserved with
    | found key => exact hw.recognizes hbase
    | created ho h => cases hbase
    | replaced h hv =>
      cases hbase
      exact hw.recognizes_assign _ _
    | restated h hv =>
      cases hbase
      exact hw.recognizes_assign _ _
    | deleted key => cases hbase
    | failed call f => cases call <;> cases hbase
  · rw [hnone] at hbase
    cases hbase

end World.Answers

/-! Systems -/

/-- The store of templates gives out each version once, every thread is where its exchanges have
led it, and the last copy of a template that it received is recognized. -/
structure System.Sound (s : System k) : Prop where
  versioned : s.world.templates.Versioned
  after : ∀ t ∈ s.threads, t.activity.task.After t.past t.rest
  recognized : ∀ t ∈ s.threads, ∀ base, lastCopy? t.past = some base →
    s.world.templates.Recognizes base

theorem System.sound_atRest {w : World k} (hw : w.templates.Versioned) :
    (System.atRest w).Sound :=
  ⟨hw, fun _ ht => (List.not_mem_nil ht).elim, fun _ ht => (List.not_mem_nil ht).elim⟩

section Sound
variable {s : System k} {a : Activity k} {past : Dialogue k} {q : Request k} {r : q.Answer}
  {next : q.Answer → Task k (Except Failure a.Result)} {l₁ l₂ : List (Thread k)} {w : World k}

theorem System.Sound.start (hs : s.Sound) (a : Activity k) :
    System.Sound { s with threads := ⟨a, [], a.task⟩ :: s.threads } where
  versioned := hs.versioned
  after t ht := by
    rcases List.mem_cons.1 ht with rfl | ht
    · exact Program.after_nil.2 rfl
    · exact hs.after t ht
  recognized t ht base hbase := by
    rcases List.mem_cons.1 ht with rfl | ht
    · cases hbase
    · exact hs.recognized t ht base hbase

theorem System.Sound.exchange (hs : s.Sound)
    (hthreads : s.threads = l₁ ++ ⟨a, past, .ask q next⟩ :: l₂) (hanswer : s.world.Answers q r w) :
    System.Sound ⟨w, l₁ ++ ⟨a, past ++ [⟨q, r⟩], next r⟩ :: l₂⟩ := by
  have hthis : (⟨a, past, .ask q next⟩ : Thread k) ∈ s.threads := by simp [hthreads]
  have hothers {t : Thread k} (ht : t ∈ l₁ ++ ⟨a, past ++ [⟨q, r⟩], next r⟩ :: l₂) :
      t = ⟨a, past ++ [⟨q, r⟩], next r⟩ ∨ t ∈ s.threads := by
    rw [hthreads]
    simp only [List.mem_append, List.mem_cons] at ht ⊢
    rcases ht with ht | ht | ht
    · exact .inr (.inl ht)
    · exact .inl ht
    · exact .inr (.inr (.inr ht))
  constructor
  · exact hanswer.versioned hs.versioned
  · intro t ht
    rcases hothers ht with rfl | ht
    · exact (hs.after _ hthis).step r
    · exact hs.after t ht
  · intro t ht base hbase
    rcases hothers ht with rfl | ht
    · simp only [lastCopy?_append, lastCopy?_cons, lastCopy?_nil, Option.none_or] at hbase
      rcases Option.or_eq_some_iff.1 hbase with hbase | ⟨-, hbase⟩
      · exact hanswer.recognizes hs.versioned hbase
      · exact (hs.recognized _ hthis base hbase).evolves hanswer.evolves
    · exact (hs.recognized t ht base hbase).evolves hanswer.evolves

theorem System.Sound.evolves (hs : s.Sound) (hevolves : s.world.templates.Evolves w.templates)
    (hversioned : w.templates.Versioned) : System.Sound { s with world := w } where
  versioned := hversioned
  after := hs.after
  recognized t ht base hbase := (hs.recognized t ht base hbase).evolves hevolves

theorem System.Sound.subset (hs : s.Sound) {threads : List (Thread k)}
    (h : ∀ t ∈ threads, t ∈ s.threads) : System.Sound { s with threads } where
  versioned := hs.versioned
  after t ht := hs.after t (h t ht)
  recognized t ht := hs.recognized t (h t ht)

/-- An exchange leaves the templates as they are, or it overwrites the last copy that its thread
received by a draft made of that. -/
theorem System.Sound.overwrites (hs : s.Sound)
    (hthread : ⟨a, past, .ask q next⟩ ∈ s.threads) (hanswer : s.world.Answers q r w) :
    (Exchange.stored? ⟨q, r⟩ = none ∧ w.templates = s.world.templates) ∨
      ∃ call base, q = .template call ∧ lastCopy? past = some base ∧ base.Drafts call ∧
        s.world.templates.find? call.key = some base ∧
        Exchange.stored? ⟨q, r⟩ = some (call.key,
          (s.world.templates.assign call.key (s.world.templates.revision call base)).1) ∧
        w.templates =
          (s.world.templates.assign call.key (s.world.templates.revision call base)).2 := by
  have hasks : a.task.Asks past q := ⟨next, hs.after _ hthread⟩
  rcases hanswer.templates with ⟨call, r', he, hserved⟩ | ⟨heq, -, hnone⟩
  · cases he
    rcases Activity.drafts hasks with ⟨key, rfl⟩ | ⟨base, hbase, hdraft⟩
    · left
      generalize w.templates = s' at hserved ⊢
      cases hserved with
      | found key => exact ⟨rfl, rfl⟩
      | failed call f => exact ⟨rfl, rfl⟩
    · have hrecognized := hs.recognized _ hthread base hbase
      rcases hdraft.served hrecognized hserved with h | ⟨hfind, hstored, hw⟩
      · exact .inl h
      · exact .inr ⟨call, base, rfl, hbase, hdraft, hfind, hstored, hw⟩
  · exact .inl ⟨hnone, heq⟩

/-- At each address an exchange leaves the template as it is, or it overwrites the copy. -/
theorem System.Sound.overwrites_at (hs : s.Sound) (hthread : ⟨a, past, .ask q next⟩ ∈ s.threads)
    (hanswer : s.world.Answers q r w) (key : Key) :
    (w.templates.find? key = s.world.templates.find? key ∧
        ∀ t, Exchange.stored? ⟨q, r⟩ ≠ some (key, t)) ∨
      ∃ call base, q = .template call ∧ key = call.key ∧ lastCopy? past = some base ∧
        base.Drafts call ∧ s.world.templates.find? key = some base ∧
        Exchange.stored? ⟨q, r⟩ = some (key,
          (s.world.templates.assign key (s.world.templates.revision call base)).1) ∧
        w.templates.find? key =
          some (s.world.templates.assign key (s.world.templates.revision call base)).1 := by
  rcases hs.overwrites hthread hanswer with ⟨hnone, heq⟩ |
    ⟨call, base, hq, hlast, hdraft, hfind, hstored, heq⟩
  · exact .inl ⟨by rw [heq], fun t ht => nomatch hnone.symm.trans ht⟩
  · by_cases hkey : key = call.key
    · subst hkey
      exact .inr ⟨call, base, hq, rfl, hlast, hdraft, hfind, hstored,
        heq ▸ Store.find?_assign_self ..⟩
    · left
      constructor
      · rw [heq, Store.find?_assign, if_neg hkey]
      · intro t ht
        rw [hstored] at ht
        cases ht
        exact hkey rfl

end Sound

theorem Run.sound {allowed : Option (Template k) → Template k → Prop} {s₀ s : System k}
    {h : List (Event k)} (hrun : Run allowed s₀ h s) (h₀ : s₀.Sound) : s.Sound := by
  induction hrun with
  | init => exact h₀
  | start a hrun ih => exact ih.start a
  | exchange r hrun hthreads hanswer ih => exact ih.exchange hthreads hanswer
  | interfere hrun hmeddles ih =>
    exact ih.evolves hmeddles.evolves (hmeddles.versioned ih.versioned)

end FleetSync
