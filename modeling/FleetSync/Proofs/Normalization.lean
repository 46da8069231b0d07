import FleetSync.Proofs.Convergence

/-!
# Synchronizing with a server that normalizes

A server does not store what it is sent but the normal form of it: empty maps are dropped, the
texts of a secret are folded into its bytes, and a secret without a type gets one. An object that
was synchronized is left alone by the next synchronization exactly if what is rendered is already
in normal form. A config map always is, and a secret is unless its template gives it the empty
type.
-/
namespace FleetSync

variable {k : Kind}

/-! Normal forms -/

def ConfigMapBody.normalized (b : ConfigMapBody) : ConfigMapBody :=
  { b with data := nonEmpty b.data, binaryData := nonEmpty b.binaryData }

def normalizedType : Option String → String
  | none => defaultSecretType
  | some type => if type = "" then defaultSecretType else type

/-- What a server stores of a secret. -/
def SecretBody.normalized (b : SecretBody) : SecretBody :=
  { b with
    data := nonEmpty (some
      ((b.data.getD ∅).override ((b.stringData.getD ∅).mapValues Text.toUtf8)))
    stringData := none
    type := some (normalizedType b.type) }

def Concrete.normalized (normalize : k.Body → k.Body) (c : Concrete k) : Concrete k :=
  ⟨{ c.metadata with
      labels := nonEmpty c.metadata.labels
      annotations := nonEmpty c.metadata.annotations },
    normalize c.body⟩

@[simp] theorem nonEmpty_nonEmpty {α : Type} (d : Option (StrDict α)) :
    nonEmpty (nonEmpty d) = nonEmpty d := by
  unfold nonEmpty
  cases d with
  | none => rfl
  | some d => by_cases h : d.isEmpty <;> simp [Option.filter, h]

@[simp] theorem nonEmpty_insert {α : Type} (d : StrDict α) (key : String) (v : α) :
    nonEmpty (some (d.insert key v)) = some (d.insert key v) := by
  have hentries : (d.insert key v).entries ≠ [] := by
    intro hnil
    have hfound : (d.insert key v).get? key = some v := Dict.get?_insert_self d key v
    rw [Dict.get?, hnil] at hfound
    cases hfound
  have hempty : (d.insert key v).isEmpty = false := by
    simpa [Dict.isEmpty] using hentries
  simp [nonEmpty, Option.filter, hempty]

theorem getD_nonEmpty {α : Type} (d : StrDict α) : (nonEmpty (some d)).getD ∅ = d := by
  by_cases h : d.isEmpty
  · rw [Dict.eq_empty_of_isEmpty h]
    rfl
  · simp [nonEmpty, Option.filter, h]

theorem ConfigMapTemplate.normalized_of_render {t : ConfigMapTemplate}
    {r : Rendering ConfigMapBody} (h : t.render = .ok r) :
    r.body.normalized = r.body ∧ nonEmpty r.annotations = r.annotations := by
  unfold render at h
  cases hkeys : checkKeys (keysOf t.data ++ keysOf t.binaryData) with
  | error f =>
    rw [hkeys] at h
    cases h
  | ok u =>
    rw [hkeys] at h
    cases hshared : t.sharedKey? with
    | some key =>
      rw [hshared] at h
      cases h
    | none =>
      rw [hshared] at h
      cases h
      simp [ConfigMapBody.normalized]

theorem SecretTemplate.normalized_of_render {t : SecretTemplate} {r : Rendering SecretBody}
    (h : t.render = .ok r) :
    r.body.normalized = { r.body with type := some (normalizedType (some (t.type.getD
      defaultSecretType))) } ∧
    r.body.type = some (t.type.getD defaultSecretType) ∧
    nonEmpty r.annotations = r.annotations := by
  unfold render at h
  cases hkeys : checkKeys t.allData.keys with
  | error f =>
    rw [hkeys] at h
    cases h
  | ok u =>
    rw [hkeys] at h
    cases h
    have hdata : ((nonEmpty (some t.allData)).getD ∅).override
        ((none.getD (∅ : StrDict String)).mapValues Text.toUtf8) = t.allData :=
      getD_nonEmpty t.allData
    refine ⟨?_, rfl, nonEmpty_nonEmpty _⟩
    simp only [SecretBody.normalized, hdata]

theorem SecretTemplate.normalized_iff {t : SecretTemplate} {r : Rendering SecretBody}
    (h : t.render = .ok r) : r.body.normalized = r.body ↔ t.type ≠ some "" := by
  obtain ⟨hbody, htype, -⟩ := normalized_of_render h
  rw [hbody]
  have heq : { r.body with type := some (normalizedType (some (t.type.getD defaultSecretType))) } =
      r.body ↔ normalizedType (some (t.type.getD defaultSecretType)) =
        t.type.getD defaultSecretType := by
    constructor
    · intro hsame
      have htypes := (congrArg SecretBody.type hsame).trans htype
      exact Option.some.inj htypes
    · intro hsame
      rw [hsame, ← htype]
  rw [heq]
  cases t.type with
  | none => decide
  | some type => by_cases hempty : type = "" <;> simp [normalizedType, hempty, defaultSecretType]

/-! Servers -/

/-- The answers of a store to calls whose objects are brought to their normal form first. -/
def Store.answerNormalized (normalize : k.Body → k.Body) :
    (call : StoreCall (Concrete k)) → Store (Concrete k) → call.Answer × Store (Concrete k)
  | .get key, s => s.answer (.get key)
  | .create ns c, s => s.answer (.create ns (c.normalized normalize))
  | .replace key c, s => s.answer (.replace key (c.normalized normalize))
  | .replaceStatus key c, s => s.answer (.replaceStatus key (c.normalized normalize))
  | .delete key, s => s.answer (.delete key)

def World.serveNormalized (normalize : k.Body → k.Body) (cluster : String) (now : Instant) :
    (q : Request k) → World k → q.Answer × World k
  | .concrete call, w => ((w.concretes.answerNormalized normalize call).1,
      { w with concretes := (w.concretes.answerNormalized normalize call).2 })
  | q, w => World.serve cluster now q w

def Concrete.drawn (c : Concrete k) (key : Key) (r : Rendering k.Body) : Concrete k :=
  Concrete.pin
    ⟨{ c.metadata with labels := r.labels, annotations := r.annotations }, r.body⟩ key

def Concrete.stored (c : Concrete k) (normalize : k.Body → k.Body) (version : Option String) :
    Concrete k :=
  let c := c.normalized normalize
  { c with metadata := { c.metadata with resourceVersion := version } }

/-- To draw what is stored of an object that was drawn restores its body and nothing else. -/
theorem Concrete.drawn_stored {normalize : k.Body → k.Body} {r : Rendering k.Body}
    (hannotations : nonEmpty r.annotations = r.annotations) (c : Concrete k) (key : Key)
    (version : Option String) : ((c.drawn key r).stored normalize version).drawn key r =
      { (c.drawn key r).stored normalize version with body := r.body } := by
  simp [stored, drawn, normalized, pin, Metadata.pin, hannotations]

def World.draft (w : World k) (key : Key) (r : Rendering k.Body) : Concrete k :=
  ((w.concretes.find? key).getD (.blank key)).drawn key r

/-- The stores after the server was sent an object and has stored its normal form. -/
def World.keep (w : World k) (normalize : k.Body → k.Body) (key : Key) (c : Concrete k) : World k :=
  { w with concretes := (w.concretes.assign key (c.normalized normalize)).2 }

section Server
variable {normalize : k.Body → k.Body} {cluster : String} {now : Instant} {w : World k} {key : Key}
  {payload : k.Payload} {r : Rendering k.Body}

def World.kept (w : World k) (normalize : k.Body → k.Body) (key : Key) (c : Concrete k) :
    Concrete k :=
  (w.concretes.assign key (c.normalized normalize)).1

theorem serveNormalized_create (hfind : w.concretes.find? key = none) :
    World.serveNormalized normalize cluster now (.concrete (.create key.ns (w.draft key r))) w =
      ((.ok (w.kept normalize key (w.draft key r)) : Except Failure (Concrete k)),
        w.keep normalize key (w.draft key r)) := by
  have hanswer : w.concretes.answerNormalized normalize (.create key.ns (w.draft key r)) =
      (.ok (w.kept normalize key (w.draft key r)),
        (w.keep normalize key (w.draft key r)).concretes) := by
    simp only [Store.answerNormalized, Store.answer]
    split
    · rename_i o h
      cases hfind.symm.trans h
    · rfl
  change ((w.concretes.answerNormalized normalize _).1,
    { w with concretes := (w.concretes.answerNormalized normalize _).2 }) = _
  rw [hanswer]
  rfl

theorem serveNormalized_replace {old : Concrete k} (hfind : w.concretes.find? key = some old) :
    World.serveNormalized normalize cluster now (.concrete (.replace key (w.draft key r))) w =
      ((.ok (w.kept normalize key (w.draft key r)) : Except Failure (Concrete k)),
        w.keep normalize key (w.draft key r)) := by
  have hversion : Resource.version? old =
      Resource.version? ((w.draft key r).normalized normalize) := by
    rw [World.draft, hfind]
    rfl
  have hreplacement (c : Concrete k) :
      (if w.concretes.statusApart then Resource.withStatusOf c old else c) = c := by
    split <;> rfl
  have hanswer : w.concretes.answerNormalized normalize (.replace key (w.draft key r)) =
      (.ok (w.kept normalize key (w.draft key r)),
        (w.keep normalize key (w.draft key r)).concretes) := by
    simp only [Store.answerNormalized, Store.answer, Store.replaceBy, hfind, if_pos hversion,
      hreplacement]
    rfl
  change ((w.concretes.answerNormalized normalize _).1,
    { w with concretes := (w.concretes.answerNormalized normalize _).2 }) = _
  rw [hanswer]
  rfl

theorem run_synchronize (hr : k.render payload = .ok r) :
    (synchronize key (k.mutate payload)).run.run (World.serveNormalized normalize cluster now) w =
      (.ok (.between (w.concretes.find? key) (w.draft key r)),
        if w.concretes.find? key = some (w.draft key r) then w
        else w.keep normalize key (w.draft key r)) := by
  have hget : World.serveNormalized normalize cluster now (.concrete (.get key)) w =
      ((.ok (w.concretes.find? key) : Except Failure (Option (Concrete k))), w) := rfl
  have honce : (syncOnce key (k.mutate payload)).run.run
      (World.serveNormalized normalize cluster now) w =
      (.ok (.between (w.concretes.find? key) (w.draft key r)),
        if w.concretes.find? key = some (w.draft key r) then w
        else w.keep normalize key (w.draft key r)) := by
    cases hfind : w.concretes.find? key with
    | none =>
      have hcreate : World.serveNormalized normalize cluster now
          (.concrete (.create key.ns (w.draft key r))) w = _ := serveNormalized_create hfind
      rw [hfind] at hget
      rw [if_neg nofun]
      rw [World.draft, hfind] at hcreate ⊢
      exact run_syncOnce_created hget (Kind.mutate_of_render hr _) hcreate
    | some old =>
      have hreplace : World.serveNormalized normalize cluster now
          (.concrete (.replace key (w.draft key r))) w = _ := serveNormalized_replace hfind
      rw [hfind] at hget
      dsimp only [SyncOutcome.between]
      rw [World.draft, hfind] at hreplace ⊢
      by_cases hsame : old.drawn key r = old
      · rw [Option.getD_some, if_pos hsame, if_pos (congrArg some hsame.symm)]
        exact (run_syncOnce_unchanged hget (Kind.mutate_of_render hr _) hsame).1
      · have hne : some old ≠ some (old.drawn key r) := fun h => hsame (Option.some.inj h).symm
        rw [Option.getD_some, if_neg hsame, if_neg hne]
        exact run_syncOnce_updated hget (Kind.mutate_of_render hr _) hsame hreplace
  have hretry : (synchronize key (k.mutate payload)).run.run
      (World.serveNormalized normalize cluster now) w = _ := (run_retryConflicts (by
        rw [honce]
        nofun)).1
  exact hretry.trans honce

theorem run_synchronize_of_drawn {c : Concrete k} (hr : k.render payload = .ok r)
    (hfind : w.concretes.find? key = some c) (hc : c.drawn key r = c) :
    (synchronize key (k.mutate payload)).run.run (World.serveNormalized normalize cluster now) w =
        (.ok .unchanged, w) ∧
      (synchronize key (k.mutate payload)).run.exchanges
        (World.serveNormalized normalize cluster now) w = [sighted key (some c)] := by
  have hget : World.serveNormalized normalize cluster now (.concrete (.get key)) w =
      ((.ok (some c) : Except Failure (Option (Concrete k))), w) := hfind ▸ rfl
  obtain ⟨hrun, hasked⟩ := run_syncOnce_unchanged hget (Kind.mutate_of_render hr c) hc
  have hretry : (synchronize key (k.mutate payload)).run.run
        (World.serveNormalized normalize cluster now) w = _ ∧
      (synchronize key (k.mutate payload)).run.exchanges
        (World.serveNormalized normalize cluster now) w = _ := run_retryConflicts (by
      rw [hrun]
      nofun)
  exact ⟨hretry.1.trans hrun, hretry.2.trans hasked⟩

end Server

/-- Some concrete object can be brought to the form that a payload prescribes. -/
def Kind.Accepts (k : Kind) (payload : k.Payload) : Prop :=
  ∃ c c', k.mutate payload c = .ok c'

def World.IsNormal (w : World k) (normalize : k.Body → k.Body) (key : Key) : Prop :=
  ∀ c, w.concretes.find? key = some c → c.normalized normalize = c

/-- What comes of a synchronization that nobody disturbs, with a server that normalizes. -/
def World.synchronized (w : World k) (normalize : k.Body → k.Body) (cluster : String)
    (now : Instant) (key : Key) (payload : k.Payload) : Except Failure SyncOutcome × World k :=
  (synchronize key (k.mutate payload)).run.run (World.serveNormalized normalize cluster now) w

/-- After one synchronization a second one finds the object in the prescribed form and does no more
than look at it. -/
structure World.Settles (w : World k) (normalize : k.Body → k.Body) (cluster : String)
    (now : Instant) (key : Key) (payload : k.Payload) : Prop where
  succeeds : ∃ outcome, (w.synchronized normalize cluster now key payload).1 = .ok outcome
  unchanged : let w' := (w.synchronized normalize cluster now key payload).2
    w'.synchronized normalize cluster now key payload = (.ok .unchanged, w')
  silent : ∃ c, (synchronize key (k.mutate payload)).run.exchanges
    (World.serveNormalized normalize cluster now)
    (w.synchronized normalize cluster now key payload).2 = [sighted key (some c)]

section Settling
variable {normalize : k.Body → k.Body} {cluster : String} {now : Instant} {w : World k} {key : Key}
  {payload : k.Payload} {r : Rendering k.Body}

/-- What a server holds after a synchronization: the object that it held, if that was in the
prescribed form, or the normal form of what was sent. -/
theorem find?_synchronized (hr : k.render payload = .ok r) :
    (∃ c, w.concretes.find? key = some c ∧ c.drawn key r = c ∧
      (w.synchronized normalize cluster now key payload).2 = w) ∨
    ∃ (c : Concrete k) (version : Option String),
      (w.synchronized normalize cluster now key payload).2.concretes.find? key =
        some ((c.drawn key r).stored normalize version) := by
  have hsecond : (w.synchronized normalize cluster now key payload).2 = _ :=
    congrArg Prod.snd (run_synchronize hr)
  by_cases hfind : w.concretes.find? key = some (w.draft key r)
  · have hdraft : w.draft key r = (w.draft key r).drawn key r := by
      rw [World.draft, hfind]
      rfl
    exact .inl ⟨_, hfind, hdraft.symm, hsecond.trans (if_pos hfind)⟩
  · right
    rw [hsecond, if_neg hfind]
    exact ⟨_, _, w.concretes.find?_assign_self key _⟩

theorem settles_of_normalized (hr : k.render payload = .ok r)
    (hbody : normalize r.body = r.body) (hannotations : nonEmpty r.annotations = r.annotations) :
    w.Settles normalize cluster now key payload := by
  have hfirst : (w.synchronized normalize cluster now key payload).1 = _ :=
    congrArg Prod.fst (run_synchronize hr)
  obtain ⟨c, hfind, hdrawn⟩ : ∃ c,
      (w.synchronized normalize cluster now key payload).2.concretes.find? key = some c ∧
        c.drawn key r = c := by
    rcases find?_synchronized hr with ⟨c, hfind, hdrawn, hsame⟩ | ⟨c, version, hfind⟩
    · exact ⟨c, hsame ▸ hfind, hdrawn⟩
    · refine ⟨_, hfind, (Concrete.drawn_stored hannotations c key version).trans ?_⟩
      have hnormal : ((c.drawn key r).stored normalize version).body = r.body := hbody
      rw [← hnormal]
  refine ⟨⟨_, hfirst⟩, ?_, c, ?_⟩
  · exact (run_synchronize_of_drawn hr hfind hdrawn).1
  · exact (run_synchronize_of_drawn hr hfind hdrawn).2

theorem updated_of_not_normalized (hr : k.render payload = .ok r)
    (hbody : normalize r.body ≠ r.body) (hannotations : nonEmpty r.annotations = r.annotations)
    (hw : w.IsNormal normalize key) :
    let w' := (w.synchronized normalize cluster now key payload).2
    (w'.synchronized normalize cluster now key payload).1 = .ok .updated := by
  rcases find?_synchronized hr with ⟨c, hfind, hdrawn, -⟩ | ⟨c, version, hfind⟩
  · have hnormal := congrArg Concrete.body (hw c hfind)
    rw [← hdrawn] at hnormal
    exact (hbody hnormal).elim
  · have hagain := congrArg Prod.fst (@run_synchronize k normalize cluster now
      (w.synchronized normalize cluster now key payload).2 key payload r hr)
    refine hagain.trans ?_
    rw [World.draft, hfind, Option.getD_some, Concrete.drawn_stored hannotations]
    refine congrArg Except.ok (if_neg fun hsame => hbody ?_)
    exact (congrArg Concrete.body hsame).symm

end Settling

theorem Kind.Accepts.exists_render {payload : k.Payload} (h : k.Accepts payload) :
    ∃ r, k.render payload = .ok r := by
  obtain ⟨c, c', hmutate⟩ := h
  obtain ⟨r, hr, -⟩ := render_of_mutate_eq_ok hmutate
  exact ⟨r, hr⟩

/-- With a server that normalizes what it stores, one undisturbed synchronization is enough for
every config map that can be rendered, and for every secret whose template does not give it the
empty type. The server stores a secret of the empty type with the default type, and the next
synchronization writes it again. -/
theorem settles_unless_type_is_empty (cluster : String) (now : Instant) (key : Key) :
    (∀ (t : ConfigMapTemplate) (w : World .configMap), Kind.configMap.Accepts t →
      w.Settles ConfigMapBody.normalized cluster now key t) ∧
    ∀ (t : SecretTemplate) (w : World .secret), Kind.secret.Accepts t →
      (t.type ≠ some "" → w.Settles SecretBody.normalized cluster now key t) ∧
      (t.type = some "" → w.IsNormal SecretBody.normalized key →
        let w' := (w.synchronized SecretBody.normalized cluster now key t).2
        (w'.synchronized SecretBody.normalized cluster now key t).1 = .ok .updated) := by
  constructor
  · intro t w haccepts
    obtain ⟨r, hr⟩ := haccepts.exists_render
    obtain ⟨hbody, hannotations⟩ := ConfigMapTemplate.normalized_of_render hr
    exact settles_of_normalized hr hbody hannotations
  · intro t w haccepts
    obtain ⟨r, hr⟩ := haccepts.exists_render
    have hannotations := (SecretTemplate.normalized_of_render hr).2.2
    constructor
    · intro htype
      exact settles_of_normalized hr ((SecretTemplate.normalized_iff hr).2 htype) hannotations
    · intro htype hw
      have hbody : r.body.normalized ≠ r.body := fun hsame =>
        (SecretTemplate.normalized_iff hr).1 hsame htype
      exact updated_of_not_normalized hr hbody hannotations hw

def password (type : Option String) : SecretTemplate :=
  { (default : SecretTemplate) with type, stringData := some (Dict.ofList [("password", "s3cret")]) }

def emptySettings : ConfigMapTemplate :=
  { (default : ConfigMapTemplate) with data := some ∅, binaryData := some ∅ }

def emptyWorld : World k := ⟨.empty true, .empty true⟩

theorem accepts_password (type : Option String) : Kind.secret.Accepts (password type) :=
  ⟨_, _, Kind.mutate_of_render (k := .secret) (r := _) rfl (.blank ⟨"apps", "settings"⟩)⟩

theorem accepts_emptySettings : Kind.configMap.Accepts emptySettings :=
  ⟨_, _, Kind.mutate_of_render (k := .configMap) (r := _) rfl (.blank ⟨"apps", "settings"⟩)⟩

theorem isNormal_emptyWorld (normalize : k.Body → k.Body) (key : Key) :
    (emptyWorld : World k).IsNormal normalize key := by
  intro c hc
  cases hc

/-- Empty maps settle, and so does a secret without a type, but not one of the empty type. -/
theorem an_empty_type_never_settles :
    (emptyWorld : World .configMap).Settles ConfigMapBody.normalized "east" default
        ⟨"apps", "settings"⟩ emptySettings ∧
      (emptyWorld : World .secret).Settles SecretBody.normalized "east" default
        ⟨"apps", "login"⟩ (password none) ∧
      let w : World .secret := ((emptyWorld : World .secret).synchronized SecretBody.normalized
        "east" default ⟨"apps", "login"⟩ (password (some ""))).2
      (w.synchronized SecretBody.normalized "east" default ⟨"apps", "login"⟩
        (password (some ""))).1 = .ok .updated :=
  ⟨(settles_unless_type_is_empty "east" default ⟨"apps", "settings"⟩).1 emptySettings emptyWorld
      accepts_emptySettings,
    ((settles_unless_type_is_empty "east" default ⟨"apps", "login"⟩).2 (password none) emptyWorld
      (accepts_password none)).1 (by decide),
    ((settles_unless_type_is_empty "east" default ⟨"apps", "login"⟩).2 (password (some ""))
      emptyWorld (accepts_password (some ""))).2 (by decide) (isNormal_emptyWorld _ _)⟩

end FleetSync
