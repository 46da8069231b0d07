import FleetSync.Proofs.Absorption
import FleetSync.Proofs.Convergence
import FleetSync.Proofs.Episodes

/-!
# Reports recorded among other writers

Others may write, drop and renew the aggregator's template before and after each call by which a
report is recorded, and each call may fail. Each attempt folds the report anew into the template
that it reads, with the placement and the status found there. One write is accepted at most, it
overwrites the version that was read in the same attempt, and the answer says whether there was one.
-/
namespace FleetSync

variable {k : Kind}

def storedTemplates (es : Dialogue k) : List (Key × Template k) := es.filterMap (·.stored?)

/-! Attempts -/
section Attempts
variable {r : Report} {es earlier last : Dialogue k} {n : Nat} {result : Except Failure Bool}

/-- What the recording of a report with this result stored. -/
inductive RecordWrites (key : Key) : Except Failure Bool → List (Key × Template k) → Prop
  | failed (f : Failure) : RecordWrites key (.error f) []
  | unneeded : RecordWrites key (.ok false) []
  | recorded (stored : Template k) : RecordWrites key (.ok true) [(key, stored)]

section RecordWrites
variable {key : Key} {writes : List (Key × Template k)}

theorem RecordWrites.length_le (h : RecordWrites key result writes) : writes.length ≤ 1 := by
  cases h <;> simp

theorem RecordWrites.recorded_iff (h : RecordWrites key result writes) :
    result = .ok true ↔ ∃ stored, writes = [(key, stored)] := by
  cases h <;> simp

theorem RecordWrites.eq_nil_of_unneeded (h : RecordWrites key (.ok false) writes) :
    writes = [] := by
  cases h
  rfl

theorem RecordWrites.eq_nil_of_error {f : Failure} (h : RecordWrites key (.error f) writes) :
    writes = [] := by
  cases h
  rfl

end RecordWrites

/-- An attempt ends with these exchanges because the report is not needed: the template is missing,
it vanished before it was written, or its status has absorbed the report. -/
inductive Unneeded (r : Report) : Dialogue k → Prop
  | missing : Unneeded r
      [⟨.template (.get r.key), (.ok none : Except Failure (Option (Template k)))⟩]
  | vanished {t : Template k} {f : Failure} (hf : f.isNotFound = true) : Unneeded r
      [fetched r.key t, ⟨.template (.replaceStatus r.key (t.withReport r)), .error f⟩]
  | absorbed {t : Template k}
      (h : t.currentStatus.absorb t.placement r.cluster r.condition r.entry = t.currentStatus) :
      Unneeded r [fetched r.key t]

theorem RecordEnds.writes (h : RecordEnds r es result) :
    RecordWrites r.key result (storedTemplates es) := by
  cases h with
  | unread f => exact .failed f
  | missing => exact .unneeded
  | unchanged h => exact .unneeded
  | written stored => exact .recorded stored
  | vanished hf => exact .unneeded
  | refused f => exact .failed f

theorem RecordEnds.unneeded (h : RecordEnds r es (.ok false)) : Unneeded r es := by
  cases h with
  | missing => exact .missing
  | vanished hf => exact .vanished hf
  | @unchanged t hchanges =>
    refine .absorbed (by_contra fun hne => ?_)
    rw [Template.reportChanges, FleetStatus.absorbChanges_iff.2 hne] at hchanges
    cases hchanges

theorem RecordEnds.countP_reads (h : RecordEnds r es result) : es.countP (·.reads) = 1 := by
  cases h <;> rfl

theorem Attempted.stored (h : Attempted (recordReportOnce (k := k) r) n earlier last result) :
    RecordWrites r.key result (storedTemplates (earlier ++ last)) := by
  have hlast : storedTemplates (earlier ++ last) = storedTemplates last :=
    h.filterMap_eq (fun _ _ hends => (ends_recordReportOnce hends).writes.eq_nil_of_error)
      fun _ => rfl
  exact hlast ▸ (ends_recordReportOnce h.ends).writes

end Attempts

/-! Whole recordings -/

/-- What the recording of a report with these moments and this answer did. -/
structure RecordAccount (r : Report) (ms : List (Moment k)) (result : Except Failure Bool) :
    Prop where
  /-- All attempts but the last one ended with a conflict. Each one read the template once. -/
  attempts : ∃ n earlier last, pastOf ms = earlier ++ last ∧
    Attempted (recordReportOnce r) n earlier last result ∧ RecordEnds r last result ∧
    (pastOf ms).countP (·.reads) = n + 1
  bounded : (pastOf ms).countP (·.reads) ≤ 5
  once : (storedTemplates (pastOf ms)).length ≤ 1
  recorded : result = .ok true ↔ ∃ stored, storedTemplates (pastOf ms) = [(r.key, stored)]
  unneeded : result = .ok false → storedTemplates (pastOf ms) = [] ∧
    ∃ earlier last, pastOf ms = earlier ++ last ∧ Unneeded r last
  failed : ∀ f, result = .error f → storedTemplates (pastOf ms) = []
  /-- A conflict is the answer of the fifth attempt only. -/
  exhausted : ∀ f, result = .error f → f.isConflict = true → (pastOf ms).countP (·.reads) = 5

/-- What one exchange did by which a report is recorded, after the earlier ones. -/
structure RecordStep (r : Report) (w₀ : World k) (earlier : List (Moment k)) (m : Moment k) :
    Prop where
  concretes : m.after.concretes = m.before.concretes
  elsewhere : ∀ key ≠ r.key, m.after.templates.find? key = m.before.templates.find? key
  refused : m.exchange.stored? = none → m.after.templates = m.before.templates
  /-- A template is sent right after it was read, with nothing but its status changed. -/
  sent : ∀ call, m.exchange.request = .template call → call = .get r.key ∨
    ∃ es t, pastOf earlier = es ++ [fetched r.key t] ∧
      call = .replaceStatus r.key { t with
        status := some (t.currentStatus.absorb t.placement r.cluster r.condition r.entry) }
  /-- What is overwritten has the version that was read just before, and it is the template that
  was read, if the stores gave out each version once. -/
  overwritten : ∀ o stored, m.exchange = ⟨.template (.replaceStatus r.key o), .ok stored⟩ →
    ∃ es t there, pastOf earlier = es ++ [fetched r.key t] ∧
      m.before.templates.find? r.key = some there ∧
      Resource.version? there = Resource.version? t ∧ (w₀.Versioned → there = t)

section Account
variable {r : Report} {w₀ w : World k} {ms : List (Moment k)} {result : Except Failure Bool}

theorem Episode.recordAccount (h : Episode (recordReport r).run w₀ ms w (.done result)) :
    RecordAccount r ms result := by
  obtain ⟨n, earlier, last, hpast, hattempted, hcount, hbounded, hexhausted⟩ :=
    h.attempted fun _ _ hends => (ends_recordReportOnce hends).countP_reads
  have hends := ends_recordReportOnce hattempted.ends
  have hwrites := hattempted.stored
  rw [← hpast] at hwrites
  refine ⟨⟨n, earlier, last, hpast, hattempted, hends, hcount⟩, hbounded, hwrites.length_le,
    hwrites.recorded_iff, ?_, ?_, hexhausted⟩
  · rintro rfl
    exact ⟨hwrites.eq_nil_of_unneeded, earlier, last, hpast, hends.unneeded⟩
  · rintro f rfl
    exact hwrites.eq_nil_of_error

end Account

/-! Single exchanges -/

theorem World.Answers.restated {w w' : World k} {key : Key} {o stored : Template k}
    (h : w.Answers (.template (.replaceStatus key o)) (.ok stored) w') :
    ∃ there, w.templates.find? key = some there ∧
      Resource.version? there = Resource.version? o := by
  have hserved := h.1.served
  generalize w'.templates = store at hserved
  cases hserved with
  | restated hthere hv => exact ⟨_, hthere, hv⟩

theorem World.Answers.templates_eq {w w' : World k} {q : Request k} {r : q.Answer}
    (h : w.Answers q r w') (hcall : ∀ call, q = .template call →
      (∃ key, call = .get key) ∨ ∃ key o, call = .replaceStatus key o)
    (hnone : Exchange.stored? ⟨q, r⟩ = none) : w'.templates = w.templates := by
  rcases h.templates with ⟨call, r', he, hserved⟩ | ⟨hsame, -⟩
  · rw [he] at hnone
    generalize w'.templates = store at hserved
    rcases hcall call (congrArg Exchange.request he) with ⟨key, rfl⟩ | ⟨key, o, rfl⟩
    · cases hserved with
      | found key => rfl
      | failed call f => rfl
    · cases hserved with
      | restated hthere hv => cases hnone
      | failed call f => rfl
  · exact hsame

section Step
variable {r : Report} {w₀ w : World k} {later earlier : List (Moment k)} {m : Moment k}
  {p : Task k (Except Failure Bool)}

theorem Episode.restated {o stored : Template k}
    (h : Episode (recordReport r).run w₀ (later ++ m :: earlier) w p)
    (hm : m.exchange = ⟨.template (.replaceStatus r.key o), .ok stored⟩) :
    ∃ es t there, pastOf earlier = es ++ [fetched r.key t] ∧
      m.before.templates.find? r.key = some there ∧
      Resource.version? there = Resource.version? t ∧ (w₀.Versioned → there = t) := by
  obtain ⟨⟨next, hbefore⟩, hanswer⟩ := h.before
  have hasks := h.asks
  obtain ⟨e, before, after⟩ := m
  dsimp only at hm
  subst hm
  rcases asks_recordReport hasks with hq | ⟨d, hq⟩ | ⟨es, t, hpast, -, hq⟩
  · cases hq
  · cases hq
  cases hq
  obtain ⟨there, hthere, hv⟩ := hanswer.restated
  have hversions : Resource.version? there = Resource.version? t := hv
  refine ⟨es, t, there, hpast, hthere, hversions, ?_⟩
  intro hw
  obtain ⟨m', earlier', rfl, hm', -⟩ := eq_cons_of_pastOf hpast
  have hcopy : m'.exchange.copy? = some t := by
    rw [hm']
    rfl
  exact (hbefore.recognizes_template hw hcopy).eq_of_version r.key there hthere hversions

theorem Episode.recordStep (h : Episode (recordReport r).run w₀ (later ++ m :: earlier) w p) :
    RecordStep r w₀ earlier m := by
  have hasks := asks_recordReport h.asks
  obtain ⟨-, hanswer⟩ := h.before
  refine ⟨?_, ?_, ?_, ?_, fun _ _ hm => h.restated hm⟩
  · rcases hanswer.concretes with ⟨call, r', he, -⟩ | ⟨hsame, -⟩
    · have hq : m.exchange.request = .concrete call := congrArg Exchange.request he
      rw [hq] at hasks
      rcases hasks with hq | ⟨d, hq⟩ | ⟨es, t, -, -, hq⟩ <;> cases hq
    · exact hsame
  · intro key hne
    rcases hanswer.templates with ⟨call, r', he, hserved⟩ | ⟨hsame, -⟩
    · refine hserved.find?_ne ?_
      have hq : m.exchange.request = .template call := congrArg Exchange.request he
      rw [hq] at hasks
      rcases hasks with hq | ⟨d, hq⟩ | ⟨es, t, -, -, hq⟩ <;> cases hq <;> exact hne
    · rw [hsame]
  · refine hanswer.templates_eq ?_
    intro call hcall
    rw [hcall] at hasks
    rcases hasks with hq | ⟨d, hq⟩ | ⟨es, t, -, -, hq⟩
    · exact .inl ⟨r.key, Request.template.inj hq⟩
    · cases hq
    · exact .inr ⟨r.key, _, Request.template.inj hq⟩
  · intro call hcall
    rw [hcall] at hasks
    rcases hasks with hq | ⟨d, hq⟩ | ⟨es, t, hpast, -, hq⟩
    · exact .inl (Request.template.inj hq)
    · cases hq
    · exact .inr ⟨es, t, hpast, Request.template.inj hq⟩

end Step

/-- Every run with scripted disturbances in which a report is recorded comes to an end and is an
episode. In every episode, however calls fail and whatever others do in between, each exchange does
what `RecordStep` says, and of the whole all is true that `RecordAccount` says. -/
theorem recording_under_interference (r : Report) :
    (∀ w : Simulation k, ∃ ms,
      Episode (recordReport (k := k) r).run w.upstream ms
        (Simulation.runAggregator (recordReport (k := k) r).run w).2.upstream
        (.done (Simulation.runAggregator (recordReport (k := k) r).run w).1) ∧
      pastOf ms = (recordReport (k := k) r).run.exchanges
        (Simulation.answerWith (Simulation.callStore .aggregator)) w) ∧
    (∀ (w₀ : World k) ms w result, Episode (recordReport r).run w₀ ms w (.done result) →
      RecordAccount r ms result) ∧
    ∀ (w₀ : World k) later m earlier w p,
      Episode (recordReport r).run w₀ (later ++ m :: earlier) w p → RecordStep r w₀ earlier m :=
  ⟨Simulation.exists_episode_upstream _, fun _ _ _ _ h => h.recordAccount,
    fun _ _ _ _ _ _ h => h.recordStep⟩

/-- The aggregator's template gets another placement just before its status is written, and the
next time it is read the server is busy. -/
def contestedAggregator : Simulation .configMap :=
  { placedCluster with aggregator := {
      store := ((Store.empty true).put placedSettings).2
      script := fun
        | .get => [.nothing, .fail (.conflict "busy")]
        | .replaceStatus => [.put { placedSettings with placement := ⟨["east", "west"]⟩ }]
        | _ => [] } }

/-- The report is recorded in the third attempt. -/
theorem contested_recording : ∃ ms w,
    Episode (recordReport (reportOfEast .deployComplete "ConfigMap created")).run
      contestedAggregator.upstream ms w (.done (.ok true)) ∧
    (pastOf ms).countP (·.reads) = 3 ∧
    (∃ stored, storedTemplates (pastOf ms) = [(⟨"apps", "settings"⟩, stored)]) ∧
    ∀ later m earlier, ms = later ++ m :: earlier → RecordStep
      (reportOfEast .deployComplete "ConfigMap created") contestedAggregator.upstream earlier m := by
  obtain ⟨hruns, haccount, hstep⟩ := recording_under_interference (k := .configMap)
    (reportOfEast .deployComplete "ConfigMap created")
  obtain ⟨ms, h, hpast⟩ := hruns contestedAggregator
  have hresult : (Simulation.runAggregator (recordReport (k := .configMap)
      (reportOfEast .deployComplete "ConfigMap created")).run contestedAggregator).1 = .ok true := by
    decide +kernel
  rw [hresult] at h
  have hreads : (pastOf ms).countP (·.reads) = 3 := by
    rw [hpast]
    decide +kernel
  refine ⟨ms, _, h, hreads, (haccount _ _ _ _ h).recorded.1 rfl, ?_⟩
  rintro later m earlier rfl
  exact hstep _ _ _ _ _ _ h

end FleetSync
