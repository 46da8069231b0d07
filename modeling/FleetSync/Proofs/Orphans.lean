import FleetSync.Proofs.Discipline

/-!
# Concrete objects without a template

A user creates, edits and deletes one template while passes go over it, one at a time. The server
removes a template at once if it has no finalizers, and otherwise when the last of them is taken
away after the deletion was requested. A pass writes the concrete object before it gives the token
to the template, so a deletion in between leaves the object behind. This is the only way, unless
the user takes the token away by hand.
-/
namespace FleetSync

variable {k : Kind}

/-! The server -/
namespace Store
variable {s : Store (Template k)} {key : Key} {t : Template k}

/-- The server removes a template whose deletion was requested once it has no finalizers. -/
def reap (s : Store (Template k)) (key : Key) : Store (Template k) :=
  match s.find? key with
  | some t =>
    if t.metadata.isDeleting = true ∧ t.metadata.finalizers.getD [] = [] then s.drop key else s
  | none => s

theorem reap_cases (s : Store (Template k)) (key : Key) : s.reap key = s ∨
    s.reap key = s.drop key ∧ ∃ t, s.find? key = some t ∧ t.isTied = false := by
  unfold reap
  split
  · rename_i t ht
    split
    · rename_i h
      refine .inr ⟨rfl, t, ht, ?_⟩
      unfold Template.isTied Metadata.hasFinalizer
      rw [h.2]
      rfl
    · exact .inl rfl
  · exact .inl rfl

theorem evolves_reap (s : Store (Template k)) (key : Key) : s.Evolves (s.reap key) := by
  rcases s.reap_cases key with h | ⟨h, -⟩
  · rw [h]
    exact .refl s
  · rw [h]
    exact s.evolves_drop key

theorem Versioned.reap (hs : s.Versioned) (key : Key) : (s.reap key).Versioned := by
  rcases s.reap_cases key with h | ⟨h, -⟩
  · rw [h]
    exact hs
  · rw [h]
    exact hs.drop key

theorem find?_of_reap (h : (s.reap key).find? key = some t) : s.find? key = some t := by
  rcases s.reap_cases key with h' | ⟨h', -⟩
  · rwa [h'] at h
  · rw [h', find?_drop, if_pos rfl] at h
    cases h

end Store

def World.guarded (w : World k) (key : Key) : Bool := (w.templates.find? key).any (·.isTied)

def World.reap (w : World k) (key : Key) : World k :=
  { w with templates := w.templates.reap key }

theorem World.guarded_reap (w : World k) (key : Key) :
    (w.reap key).guarded key = w.guarded key := by
  unfold guarded reap
  rcases w.templates.reap_cases key with h | ⟨h, t, ht, htied⟩
  · rw [h]
  · rw [h, Store.find?_drop, if_pos rfl, ht]
    simp [htied]

/-- What a user can do to the template at an address. -/
inductive UserActs (key : Key) (s : Store (Template k)) : Store (Template k) → Prop
  | create {t : Template k} (h : s.find? key = none) (hkey : t.metadata.key = key)
      (hdel : t.metadata.isDeleting = false) : UserActs key s (s.assign key t).2
  /-- An edit that takes away the last finalizer may be the end of the template. -/
  | edit {t o : Template k} (h : s.find? key = some t) (hkey : o.metadata.key = key)
      (hdel : o.metadata.deletionTimestamp = t.metadata.deletionTimestamp) :
      UserActs key s ((s.assign key o).2.reap key)
  | remove {t : Template k} (h : s.find? key = some t)
      (hfinalizers : t.metadata.finalizers.getD [] = []) : UserActs key s (s.drop key)
  | mark {t : Template k} (h : s.find? key = some t)
      (hfinalizers : t.metadata.finalizers.getD [] ≠ []) (now : Instant) :
      UserActs key s (s.assign key { t with metadata := { t.metadata with
        deletionTimestamp := some (t.metadata.deletionTimestamp.getD now) } }).2

namespace UserActs
variable {s s' : Store (Template k)} {key : Key}

theorem evolves (h : UserActs key s s') : s.Evolves s' := by
  cases h with
  | create => exact s.evolves_assign _ _
  | edit => exact (s.evolves_assign _ _).trans (Store.evolves_reap _ _)
  | remove => exact s.evolves_drop _
  | mark => exact s.evolves_assign _ _

theorem versioned (h : UserActs key s s') (hs : s.Versioned) : s'.Versioned := by
  cases h with
  | create => exact hs.assign _ _
  | edit => exact (hs.assign _ _).reap _
  | remove => exact hs.drop _
  | mark => exact hs.assign _ _

theorem own (h : UserActs key s s') (hs : ∀ t, s.find? key = some t → t.metadata.key = key)
    (t : Template k) (ht : s'.find? key = some t) : t.metadata.key = key := by
  cases h with
  | create h hkey hdel =>
    rw [Store.find?_assign_self] at ht
    cases ht
    exact hkey
  | edit h hkey hdel =>
    have ht' := Store.find?_of_reap ht
    rw [Store.find?_assign_self] at ht'
    cases ht'
    exact hkey
  | remove h hfinalizers =>
    rw [Store.find?_drop, if_pos rfl] at ht
    cases ht
  | mark h hfinalizers now =>
    rw [Store.find?_assign_self] at ht
    cases ht
    have hkey := hs _ h
    exact hkey

end UserActs

/-! Histories -/

def Exchange.laid? : Exchange (Request k) Request.Answer → Option (Concrete k)
  | ⟨.concrete (.create _ _), .ok c⟩ => some c
  | ⟨.concrete (.replace _ _), .ok c⟩ => some c
  | _ => none

def Exchange.erases : Exchange (Request k) Request.Answer → Bool
  | ⟨.concrete (.delete _), .ok _⟩ => true
  | _ => false

inductive Occurrence (k : Kind) where
  | exchange (e : Exchange (Request k) Request.Answer) (after : World k)
  | user (before after : World k)

/-- The object that a pass wrote last and that no pass deleted since. -/
def lastLaid? : List (Occurrence k) → Option (Concrete k)
  | [] => none
  | .exchange e _ :: h => if e.erases = true then none else e.laid?.or (lastLaid? h)
  | .user _ _ :: h => lastLaid? h

/-- An object that a pass wrote has lacked the protection of the token: the template did not carry
the token when the object was written and was not given it since, or the user took it away. -/
def Exposed (key : Key) : List (Occurrence k) → Prop
  | [] => False
  | .exchange e after :: h =>
    if e.laid?.isSome = true then after.guarded key = false
    else if e.erases = true then False
    else Exposed key h ∧ after.guarded key = false
  | .user before after :: h => after.guarded key = false ∧
    (Exposed key h ∨ (lastLaid? h).isSome = true ∧ before.guarded key = true)

instance decidableExposed (key : Key) : (h : List (Occurrence k)) → Decidable (Exposed key h)
  | [] => inferInstanceAs (Decidable False)
  | .exchange e after :: h =>
    have := decidableExposed key h
    inferInstanceAs (Decidable (if e.laid?.isSome = true then after.guarded key = false
      else if e.erases = true then False else Exposed key h ∧ after.guarded key = false))
  | .user before after :: h =>
    have := decidableExposed key h
    inferInstanceAs (Decidable (after.guarded key = false ∧
      (Exposed key h ∨ (lastLaid? h).isSome = true ∧ before.guarded key = true)))

/-- The life of the template at an address: the user acts on it, and the passes over it go on one at
a time, call by call. A call may fail. The last occurrence stands first. -/
inductive Lifetime (key : Key) (w₀ : World k) : List (Occurrence k) → System k → Prop
  | init : Lifetime key w₀ [] (.atRest w₀)
  | start {h w} (hlife : Lifetime key w₀ h ⟨w, []⟩) :
      Lifetime key w₀ h ⟨w, [⟨.pass key, [], (Activity.pass key).task⟩]⟩
  | exchange {h w w' past q next} (r : Request.Answer q)
      (hlife : Lifetime key w₀ h ⟨w, [⟨.pass key, past, .ask q next⟩]⟩)
      (hanswer : w.Answers q r w') : Lifetime key w₀ (.exchange ⟨q, r⟩ (w'.reap key) :: h)
        ⟨w'.reap key, [⟨.pass key, past ++ [⟨q, r⟩], next r⟩]⟩
  | finish {h w past r} (hlife : Lifetime key w₀ h ⟨w, [⟨.pass key, past, .done r⟩]⟩) :
      Lifetime key w₀ h ⟨w, []⟩
  | user {h s templates} (hlife : Lifetime key w₀ h s)
      (hacts : UserActs key s.world.templates templates) :
      Lifetime key w₀ (.user s.world { s.world with templates } :: h)
        { s with world := { s.world with templates } }

theorem Lifetime.serve {key : Key} {w₀ w : World k} {h : List (Occurrence k)} {past : Dialogue k}
    {q : Request k} {next : q.Answer → Task k (Except Failure (Activity.pass (k := k) key).Result)}
    (cluster : String) (now : Instant)
    (hlife : Lifetime key w₀ h ⟨w, [⟨.pass key, past, .ask q next⟩]⟩) :
    Lifetime key w₀
      (.exchange ⟨q, (World.serve cluster now q w).1⟩
        ((World.serve cluster now q w).2.reap key) :: h)
      ⟨(World.serve cluster now q w).2.reap key,
        [⟨.pass key, past ++ [⟨q, (World.serve cluster now q w).1⟩],
          next (World.serve cluster now q w).1⟩]⟩ :=
  .exchange _ hlife (World.answers_serve cluster now q w)

/-! What a pass does to the concrete object -/
section Pass
variable {key : Key} {es : Dialogue k}

theorem ConcreteCall.of_copy {call : StoreCall (Concrete k)} (h : ConcreteCall key es call) :
    ∃ e ∈ es, ∃ t : Template k, e.copy? = some t ∧
      (call = .delete t.metadata.key ∨ Syncs t.metadata.key (.concrete call)) := by
  cases h with
  | @sync t cluster es call hdel hplaced hsync =>
    exact ⟨fetched key t, by simp, t, rfl, .inr hsync⟩
  | @retire t hdel => exact ⟨fetched key t, by simp, t, rfl, .inl rfl⟩
  | @prune t cluster hplaced => exact ⟨fetched key t, by simp, t, rfl, .inl rfl⟩
  | @pruneRestated t stored cluster hplaced =>
    exact ⟨restated t.refreshed (.ok stored), by simp, stored, rfl, .inl rfl⟩

theorem erased_of_revision_untied {s : Store (Template k)} {base : Template k}
    {call : StoreCall (Template k)} (hasks : (reconcile key).run.Asks es (.template call))
    (hlast : lastCopy? es = some base) (hdraft : base.Drafts call) (hbase : base.isTied = true)
    (huntied : (s.revision call base).isTied = false) : erased call.key ∈ es := by
  obtain ⟨e, he, hcopy⟩ := List.exists_of_findSome?_eq_some hlast
  rw [List.mem_reverse] at he
  have hne : (s.revision call base).isTied ≠ base.isTied := by
    rw [hbase, huntied]
    exact Bool.noConfusion
  obtain ⟨address, o, rfl, ho⟩ := hdraft.eq_replace_of_isTied_ne hne
  rw [huntied] at ho
  exact (disciplined_of_asks hasks).releases_erased _ _ rfl ho e he base hcopy hbase

theorem concrete_served {s s' : Store (Concrete k)} {call : StoreCall (Concrete k)}
    {r : call.Answer} (hcall : call = .delete key ∨ Syncs key (.concrete call))
    (h : s.Served call r s') :
    (∃ c, Exchange.laid? ⟨.concrete call, r⟩ = some c ∧
      Exchange.erases ⟨.concrete call, r⟩ = false ∧ s'.find? key = some c) ∨
    Exchange.laid? ⟨.concrete call, r⟩ = none ∧ ((Exchange.erases ⟨.concrete call, r⟩ = true ∧
      call = .delete key) ∨ Exchange.erases ⟨.concrete call, r⟩ = false ∧ s' = s) := by
  cases h with
  | found key => exact .inr ⟨rfl, .inr ⟨rfl, rfl⟩⟩
  | created ho h =>
    rcases hcall with hcall | hcall
    · cases hcall
    · cases hcall
      subst ho
      exact .inl ⟨_, rfl, rfl, s.find?_assign_self _ _⟩
  | replaced h hv =>
    rcases hcall with hcall | hcall
    · cases hcall
    · cases hcall
      exact .inl ⟨_, rfl, rfl, s.find?_assign_self _ _⟩
  | restated h hv =>
    rcases hcall with hcall | hcall
    · cases hcall
    · cases hcall
  | deleted key' =>
    rcases hcall with hcall | hcall
    · exact .inr ⟨rfl, .inl ⟨rfl, hcall⟩⟩
    · cases hcall
  | failed call f =>
    refine .inr ⟨?_, .inr ⟨?_, rfl⟩⟩
    · cases call <;> rfl
    · cases call <;> rfl

end Pass

/-! What holds throughout a life -/

/-- What the history says of the concrete object is so: the object that was laid last is there, it
has been exposed or the template carries the token, and no other one has been exposed. -/
structure Ledger (key : Key) (h : List (Occurrence k)) (w : World k) : Prop where
  present : ∀ c, lastLaid? h = some c → w.concretes.find? key = some c
  guarded : (lastLaid? h).isSome = true → Exposed key h ∨ w.guarded key = true
  laid : Exposed key h → (lastLaid? h).isSome = true

structure Lived (key : Key) (h : List (Occurrence k)) (s : System k) : Prop where
  sound : s.Sound
  own : ∀ t, s.world.templates.find? key = some t → t.metadata.key = key
  copies : ∀ th ∈ s.threads, ∀ e ∈ th.past, ∀ t, e.copy? = some t → t.metadata.key = key
  /-- A pass lays no object once it has deleted it. -/
  erased : ∀ th ∈ s.threads, FleetSync.erased key ∈ th.past → lastLaid? h = none
  ledger : Ledger key h s.world

section Ledger
variable {key : Key} {h : List (Occurrence k)} {w w' : World k}
  {e : Exchange (Request k) Request.Answer}

theorem Ledger.user {templates : Store (Template k)} (hl : Ledger key h w) :
    Ledger key (.user w { w with templates } :: h) { w with templates } where
  present := hl.present
  guarded hlaid := by
    cases hafter : ({ w with templates } : World k).guarded key with
    | true => exact .inr rfl
    | false =>
      refine .inl ⟨hafter, ?_⟩
      rcases hl.guarded hlaid with hexposed | hguarded
      · exact .inl hexposed
      · exact .inr ⟨hlaid, hguarded⟩
  laid hexposed := hexposed.2.elim hl.laid And.left

theorem Ledger.lay {c : Concrete k} (hlaid : e.laid? = some c) (herases : e.erases = false)
    (hfind : w'.concretes.find? key = some c) : Ledger key (.exchange e w' :: h) w' := by
  have hlast : lastLaid? (.exchange e w' :: h) = some c := by
    simp [lastLaid?, hlaid, herases]
  have hexposed : Exposed key (.exchange e w' :: h) ↔ w'.guarded key = false := by
    simp [Exposed, hlaid]
  constructor
  · intro c' h
    rw [hlast] at h
    cases h
    exact hfind
  · intro _
    rw [hexposed]
    cases w'.guarded key with
    | true => exact .inr rfl
    | false => exact .inl rfl
  · intro _
    rw [hlast]
    rfl

theorem Ledger.erase (hlaid : e.laid? = none) (herases : e.erases = true) :
    Ledger key (.exchange e w' :: h) w' := by
  have hlast : lastLaid? (.exchange e w' :: h) = none := by
    simp [lastLaid?, herases]
  have hexposed : ¬Exposed key (.exchange e w' :: h) := by
    simp [Exposed, hlaid, herases]
  constructor
  · intro c' h
    rw [hlast] at h
    cases h
  · intro h
    rw [hlast] at h
    cases h
  · intro h
    exact (hexposed h).elim

/-- An exchange that leaves the concrete object alone may take the token away only if there is
none. -/
theorem Ledger.leave (hl : Ledger key h w) (hlaid : e.laid? = none) (herases : e.erases = false)
    (hconcretes : w'.concretes = w.concretes)
    (hguard : w.guarded key = true → w'.guarded key = false → lastLaid? h = none) :
    Ledger key (.exchange e w' :: h) w' := by
  have hlast : lastLaid? (.exchange e w' :: h) = lastLaid? h := by
    simp [lastLaid?, hlaid, herases]
  have hexposed : Exposed key (.exchange e w' :: h) ↔ Exposed key h ∧ w'.guarded key = false := by
    simp [Exposed, hlaid, herases]
  constructor
  · intro c' h
    rw [hlast] at h
    rw [hconcretes]
    exact hl.present c' h
  · intro hsome
    rw [hlast] at hsome
    rw [hexposed]
    cases hafter : w'.guarded key with
    | true => exact .inr rfl
    | false =>
      rcases hl.guarded hsome with h | h
      · exact .inl ⟨h, rfl⟩
      · rw [hguard h hafter] at hsome
        cases hsome
  · intro h
    rw [hlast]
    exact hl.laid (hexposed.1 h).1

end Ledger

theorem Exchange.writes_of_laid? {e : Exchange (Request k) Request.Answer} {c : Concrete k}
    (h : e.laid? = some c) : e.request.writesConcrete = true := by
  obtain ⟨q, r⟩ := e
  cases q with
  | concrete call =>
    cases call with
    | create ns o => rfl
    | replace key o => rfl
    | get key => cases h
    | replaceStatus key o => cases h
    | delete key => cases h
  | template call => cases h
  | clusterName => cases h
  | now => cases h
  | pause d => cases h
  | report r => cases h

theorem Exchange.of_copy? {e : Exchange (Request k) Request.Answer} {t : Template k}
    (h : e.copy? = some t) : (∃ address, e.stored? = some (address, t)) ∨
      ∃ address, e = fetched address t := by
  obtain ⟨q, r⟩ := e
  cases q with
  | template call =>
    cases call with
    | get address =>
      cases r with
      | error f => cases h
      | ok found =>
        cases h
        exact .inr ⟨address, rfl⟩
    | create ns o => cases h
    | replace address o =>
      cases r with
      | error f => cases h
      | ok stored =>
        cases h
        exact .inl ⟨address, rfl⟩
    | replaceStatus address o =>
      cases r with
      | error f => cases h
      | ok stored =>
        cases h
        exact .inl ⟨address, rfl⟩
    | delete address => cases h
  | concrete call => cases h
  | clusterName => cases h
  | now => cases h
  | pause d => cases h
  | report r => cases h

section Exchange
variable {key : Key} {h : List (Occurrence k)} {w w' : World k} {past : Dialogue k} {q : Request k}
  {r : q.Answer} {next : q.Answer → Task k (Except Failure (Activity.pass (k := k) key).Result)}

theorem Lived.asks (hl : Lived key h ⟨w, [⟨.pass key, past, .ask q next⟩]⟩) :
    (reconcile key).run.Asks past q :=
  ⟨next, hl.sound.after _ List.mem_cons_self⟩

/-- An exchange of a pass leaves the templates as they are, or it rewrites the one at the address
by a draft of what is stored there. -/
theorem Lived.overwrites (hl : Lived key h ⟨w, [⟨.pass key, past, .ask q next⟩]⟩)
    (hanswer : w.Answers q r w') :
    (Exchange.stored? ⟨q, r⟩ = none ∧ w'.templates = w.templates) ∨
      ∃ call base, q = .template call ∧ lastCopy? past = some base ∧ base.Drafts call ∧
        call.key = key ∧ w.templates.find? key = some base ∧
        Exchange.stored? ⟨q, r⟩ = some (key,
          (w.templates.assign key (w.templates.revision call base)).1) ∧
        w'.templates = (w.templates.assign key (w.templates.revision call base)).2 := by
  rcases hl.sound.overwrites List.mem_cons_self hanswer with h |
    ⟨call, base, rfl, hlast, hdraft, hfind, hstored, heq⟩
  · exact .inl h
  · refine .inr ⟨call, base, rfl, hlast, hdraft, ?_⟩
    have hkey : call.key = key := by
      obtain ⟨e, he, hcopy⟩ := List.exists_of_findSome?_eq_some hlast
      have hown : base.metadata.key = key :=
        hl.copies _ List.mem_cons_self e (List.mem_reverse.1 he) base hcopy
      rcases (templateCall_of_asks hl.asks).drafts with rfl | ⟨base', hlast', -, hkey⟩
      · rfl
      · rw [hlast] at hlast'
        cases hlast'
        rw [hkey, hown]
    rw [hkey] at hfind hstored heq
    exact ⟨hkey, hfind, hstored, heq⟩

theorem Lived.copy_key (hl : Lived key h ⟨w, [⟨.pass key, past, .ask q next⟩]⟩)
    (hanswer : w.Answers q r w') {t : Template k} (hcopy : Exchange.copy? ⟨q, r⟩ = some t) :
    t.metadata.key = key := by
  rcases Exchange.of_copy? hcopy with ⟨address, hstored⟩ | ⟨address, he⟩
  · rcases hl.overwrites hanswer with ⟨hnone, -⟩ |
      ⟨call, base, rfl, hlast, hdraft, hkey, hfind, hstored', -⟩
    · rw [hnone] at hstored
      cases hstored
    · rw [hstored'] at hstored
      cases hstored
      have hrevision := hdraft.key_revision w.templates
      rw [hl.own base hfind] at hrevision
      exact hrevision
  · cases he
    rcases (templateCall_of_asks hl.asks).drafts with hget | ⟨base, -, hdraft, -⟩
    · cases hget
      rcases hanswer.1 with ⟨hr, -⟩ | ⟨⟨f, hr⟩, -⟩
      · exact hl.own t (Except.ok.inj hr).symm
      · cases hr
    · cases hdraft

theorem Lived.unguards (hl : Lived key h ⟨w, [⟨.pass key, past, .ask q next⟩]⟩)
    (hanswer : w.Answers q r w') (hbefore : w.guarded key = true)
    (hafter : w'.guarded key = false) : lastLaid? h = none := by
  rcases hl.overwrites hanswer with ⟨-, heq⟩ |
    ⟨call, base, rfl, hlast, hdraft, hkey, hfind, -, heq⟩
  · unfold World.guarded at hbefore hafter
    rw [heq, hbefore] at hafter
    cases hafter
  · unfold World.guarded at hbefore hafter
    rw [hfind] at hbefore
    rw [heq, Store.find?_assign_self] at hafter
    have herased := erased_of_revision_untied hl.asks hlast hdraft hbefore hafter
    rw [hkey] at herased
    exact hl.erased _ List.mem_cons_self herased

theorem Lived.ledger_exchange (hl : Lived key h ⟨w, [⟨.pass key, past, .ask q next⟩]⟩)
    (hanswer : w.Answers q r w') :
    Ledger key (.exchange ⟨q, r⟩ (w'.reap key) :: h) (w'.reap key) := by
  have hleave (hlaid : Exchange.laid? ⟨q, r⟩ = none) (herases : Exchange.erases ⟨q, r⟩ = false)
      (hconcretes : w'.concretes = w.concretes) :
      Ledger key (.exchange ⟨q, r⟩ (w'.reap key) :: h) (w'.reap key) := by
    have hguard : w.guarded key = true → (w'.reap key).guarded key = false →
        lastLaid? h = none := by
      intro hbefore hafter
      rw [World.guarded_reap] at hafter
      exact hl.unguards hanswer hbefore hafter
    exact hl.ledger.leave hlaid herases hconcretes hguard
  cases q with
  | template call => exact hleave rfl rfl hanswer.2
  | clusterName => exact hleave rfl rfl (congrArg World.concretes hanswer)
  | now => exact hleave rfl rfl (congrArg World.concretes hanswer)
  | pause d => exact hleave rfl rfl (congrArg World.concretes hanswer)
  | report r => exact hleave rfl rfl (congrArg World.concretes hanswer)
  | concrete call =>
    obtain ⟨e, he, t, hcopy, hcall⟩ := (concreteCall_of_asks hl.asks).of_copy
    rw [hl.copies _ List.mem_cons_self e he t hcopy] at hcall
    rcases concrete_served hcall hanswer.1.served with ⟨c, hlaid, herases, hfind⟩ |
      ⟨hlaid, ⟨herases, -⟩ | ⟨herases, heq⟩⟩
    · exact .lay hlaid herases hfind
    · exact .erase hlaid herases
    · exact hleave hlaid herases heq

theorem Lived.exchange (hl : Lived key h ⟨w, [⟨.pass key, past, .ask q next⟩]⟩)
    (hanswer : w.Answers q r w') : Lived key (.exchange ⟨q, r⟩ (w'.reap key) :: h)
      ⟨w'.reap key, [⟨.pass key, past ++ [⟨q, r⟩], next r⟩]⟩ where
  sound := by
    have hsound : System.Sound ⟨w', [] ++ ⟨.pass key, past ++ [⟨q, r⟩], next r⟩ :: []⟩ :=
      hl.sound.exchange rfl hanswer
    exact hsound.evolves (w'.templates.evolves_reap key) (hsound.versioned.reap key)
  own t ht := by
    have ht' := Store.find?_of_reap ht
    rcases hl.overwrites hanswer with ⟨-, heq⟩ |
      ⟨call, base, rfl, hlast, hdraft, hkey, hfind, -, heq⟩
    · rw [heq] at ht'
      exact hl.own t ht'
    · rw [heq, Store.find?_assign_self] at ht'
      cases ht'
      have hrevision := hdraft.key_revision w.templates
      rw [hl.own base hfind] at hrevision
      exact hrevision
  copies th hth e he t hcopy := by
    cases List.mem_singleton.1 hth
    rcases List.mem_append.1 he with he | he
    · exact hl.copies _ List.mem_cons_self e he t hcopy
    · cases List.mem_singleton.1 he
      exact hl.copy_key hanswer hcopy
  erased th hth he := by
    cases List.mem_singleton.1 hth
    rcases List.mem_append.1 he with he | he
    · have hlast := hl.erased _ List.mem_cons_self he
      have hlaid : Exchange.laid? ⟨q, r⟩ = none := by
        rw [Option.eq_none_iff_forall_not_mem]
        intro c hc
        have hnot := (disciplined_of_asks hl.asks).not_write_after_erase
          (Exchange.writes_of_laid? hc) _ he
        cases hnot
      simp [lastLaid?, hlaid, hlast]
    · have herases : Exchange.erases ⟨q, r⟩ = true := by
        rw [← List.mem_singleton.1 he]
        rfl
      simp [lastLaid?, herases]
  ledger := hl.ledger_exchange hanswer

end Exchange

section Lifetime
variable {key : Key} {w : World k} {h : List (Occurrence k)} {s : System k}

theorem ledger_nil (key : Key) (w : World k) : Ledger key [] w where
  present c h := by cases h
  guarded h := by cases h
  laid h := h.elim

theorem Lifetime.lived (hlife : Lifetime key w h s) (hw : w.templates.Versioned)
    (hown : ∀ t, w.templates.find? key = some t → t.metadata.key = key) : Lived key h s := by
  induction hlife with
  | init =>
    exact ⟨System.sound_atRest hw, hown, fun _ h => (List.not_mem_nil h).elim,
      fun _ h => (List.not_mem_nil h).elim, ledger_nil key w⟩
  | start hlife ih =>
    refine ⟨ih.sound.start (.pass key), ih.own, ?_, ?_, ih.ledger⟩
    · intro th hth e he
      cases List.mem_singleton.1 hth
      exact (List.not_mem_nil he).elim
    · intro th hth he
      cases List.mem_singleton.1 hth
      exact (List.not_mem_nil he).elim
  | exchange r hlife hanswer ih => exact ih.exchange hanswer
  | finish hlife ih =>
    exact ⟨⟨ih.sound.versioned, fun _ h => (List.not_mem_nil h).elim,
      fun _ h => (List.not_mem_nil h).elim⟩, ih.own, fun _ h => (List.not_mem_nil h).elim,
      fun _ h => (List.not_mem_nil h).elim, ih.ledger⟩
  | user hlife hacts ih =>
    exact ⟨ih.sound.evolves hacts.evolves (hacts.versioned ih.sound.versioned), hacts.own ih.own,
      ih.copies, ih.erased, ih.ledger.user⟩

/-- Once the template is gone, the object that a pass wrote last for it remains exactly if it has
been exposed: it was written while the template did not carry the token and the token was not given
since, or the user took the token away. -/
theorem orphan_iff_exposed (hlife : Lifetime key w h s) (hw : w.templates.Versioned)
    (hown : ∀ t, w.templates.find? key = some t → t.metadata.key = key)
    (hgone : s.world.templates.find? key = none) :
    (∃ c, lastLaid? h = some c ∧ s.world.concretes.find? key = some c) ↔ Exposed key h := by
  have hledger := (hlife.lived hw hown).ledger
  have hguarded : s.world.guarded key = false := by
    unfold World.guarded
    rw [hgone]
    rfl
  constructor
  · rintro ⟨c, hlast, -⟩
    rcases hledger.guarded (by rw [hlast]; rfl) with hexposed | h
    · exact hexposed
    · rw [hguarded] at h
      cases h
  · intro hexposed
    obtain ⟨c, hlast⟩ := Option.isSome_iff_exists.1 (hledger.laid hexposed)
    exact ⟨c, hlast, hledger.present c hlast⟩

end Lifetime

/-- A first pass writes the config map, the user deletes the template, and the pass finds it gone:
the config map remains. -/
theorem settings_are_orphaned : ∃ h s c,
    Lifetime ⟨"apps", "settings"⟩ ⟨((Store.empty false).put untiedSettings).2, .empty false⟩ h s ∧
      s.threads = [] ∧ s.world.templates.find? ⟨"apps", "settings"⟩ = none ∧
      lastLaid? h = some c ∧ s.world.concretes.find? ⟨"apps", "settings"⟩ = some c := by
  have hstart : Lifetime ⟨"apps", "settings"⟩
      ⟨((Store.empty false).put untiedSettings).2, .empty false⟩ [] _ := .start .init
  have hfetched := hstart.serve "east" default
  have hnamed := hfetched.serve "east" default
  have hread := hnamed.serve "east" default
  have hcreated := hread.serve "east" default
  have hdeleted := hcreated.user (.remove rfl rfl)
  have hrefused := hdeleted.serve "east" default
  have htimed := hrefused.serve "east" default
  have hlost := htimed.serve "east" default
  have hended := hlost.finish
  have hown : ∀ t,
      (((Store.empty false).put untiedSettings).2).find? ⟨"apps", "settings"⟩ = some t →
      t.metadata.key = ⟨"apps", "settings"⟩ := by
    intro t ht
    cases ht
    rfl
  obtain ⟨c, hlast, hfind⟩ := (orphan_iff_exposed hended
    ((Store.versioned_empty false).assign _ _) hown rfl).2 (by decide +kernel)
  exact ⟨_, _, c, hended, rfl, rfl, hlast, hfind⟩

end FleetSync
